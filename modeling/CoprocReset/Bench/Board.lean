import CoprocReset.Assoc
import CoprocReset.Publisher

/-!
# A notice board

A notice board is the simplest publisher: a table of attributes, with a record of what was put up
and taken down and of what the attribute showed at that moment. It can be told to fail, which it
does only after it has done its work of taking down, and instead of putting up.
-/

namespace CoprocReset.Bench

/-- What the board did. -/
inductive Notice where
  | published (attributeName : String) (shown : Except Failure String)
  /-- What it showed is missing if the attribute was not on the board. -/
  | unpublished (attributeName : String) (shown : Option (Except Failure String))

/-- The attributes on the board, and what happened to it. -/
structure Board where
  entries : List (String × Handle)
  notices : List Notice
  failsToPublish : Bool
  failsToUnpublish : Bool

namespace Board

/-- The board without an attribute. -/
def empty : Board := ⟨[], [], false, false⟩

/-- What the attribute of a controller shows. -/
def shown (handle : Handle) : PublisherScript Board (Except Failure String) :=
  (Script.ask (.request handle .content)).attempt

/-- Makes a record of what the board does. -/
def record (notice : Notice) : PublisherScript Board Unit :=
  Script.ask (.own (Action.update fun board =>
    { board with notices := board.notices ++ [notice] }))

/-- The board as it is. -/
def look : PublisherScript Board Board := Script.ask (.own Action.world)

/-- Changes what is on the board. -/
def change (entries : List (String × Handle)) : PublisherScript Board Unit :=
  Script.ask (.own (Action.update fun board => { board with entries }))

/-- Puts an attribute up. -/
def publish (attributeName : String) (handle : Handle) : PublisherScript Board Unit := do
  record (.published attributeName (← shown handle))
  let board ← look
  if board.failsToPublish then
    Script.fail (.internal ("cannot publish " ++ attributeName))
  else change (Assoc.insert attributeName handle board.entries)

/-- Takes an attribute down. -/
def unpublish (attributeName : String) : PublisherScript Board Unit := do
  let board ← look
  change (Assoc.erase attributeName board.entries)
  match board.entries.lookup attributeName with
  | some handle => record (.unpublished attributeName (some (← shown handle)))
  | none => record (.unpublished attributeName none)
  if board.failsToUnpublish then
    Script.fail (.internal ("cannot unpublish " ++ attributeName))

end Board

/-- The board as a publisher. -/
def boardPublisher : Publisher Board := ⟨Board.publish, Board.unpublish⟩

end CoprocReset.Bench
