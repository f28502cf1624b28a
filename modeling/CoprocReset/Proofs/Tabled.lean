import CoprocReset.Bench.Attachment
import CoprocReset.Proofs.Script
import CoprocReset.Proofs.Station

/-!
# Publishers with a table

Most publishers keep a table of attributes. An attribute is put in once all the work of publishing it
is done, and it is taken out before any work of taking it down: if that work fails, the attribute is
gone all the same (`Publisher.Tabled`). The work may make a record of things, do anything with the
settings of the publisher, and ask the controller of the attribute; it depends neither on what was
recorded before nor on the number that the controller has. The notice board publishes that way
(`boardTabled`).
-/

namespace CoprocReset

variable {W L P N S α β : Type}

/-- What a publisher does by itself: it makes a record of something, or works on its settings. -/
inductive OwnCall (N S : Type) : Type → Type 1 where
  | record (notice : N) : OwnCall N S Unit
  | settings {α : Type} (action : Action S α) : OwnCall N S α

/-- What the work on an attribute is made of. -/
inductive AttributeCall (N S : Type) : Type → Type 1 where
  | own {α : Type} (call : OwnCall N S α) : AttributeCall N S α
  | request {α : Type} (request : Request α) : AttributeCall N S α

/-- What a publisher does without a controller. -/
abbrev OwnScript (N S α : Type) := Script Failure (OwnCall N S) α

/-- The work on an attribute. -/
abbrev AttributeScript (N S α : Type) := Script Failure (AttributeCall N S) α

/-- The action on the record and the settings that a call stands for. -/
def OwnCall.perform : OwnCall N S α → Action (List N × S) α
  | .record notice => (Action.update (· ++ [notice])).on Lens.first
  | .settings action => action.on Lens.second

/-- What a publisher does without a controller, on its record and its settings. -/
def OwnScript.exec (script : OwnScript N S α) : Action (List N × S) α :=
  Script.exec OwnCall.perform script

/-- The action at a station that a call stands for. -/
def AttributeCall.perform (hw : Hardware W L) (rest : Lens P (List N × S)) (handle : Handle) :
    AttributeCall N S α → Action (Station W L P) α
  | .own call => call.perform.on (Station.publisherPart.comp rest)
  | .request asked => Station.request hw handle asked

/-- The work carried out for the attribute of a controller. -/
def AttributeScript.exec (hw : Hardware W L) (rest : Lens P (List N × S)) (handle : Handle)
    (script : AttributeScript N S α) : Action (Station W L P) α :=
  Script.exec (AttributeCall.perform hw rest handle) script

/-- A publisher with a table of attributes, and the work that it does to publish an attribute, to take
it down, and if it is to take down one that is not there. -/
structure Publisher.Tabled (publisher : Publisher P) (N S : Type) where
  table : Lens P (List (String × Handle))
  rest : Lens P (List N × S)
  apart : ∀ entries other kept,
    rest.set other (table.set entries kept) = table.set entries (rest.set other kept)
  announce : String → AttributeScript N S Unit
  withdraw : String → AttributeScript N S Unit
  missing : String → OwnScript N S Unit
  publishes {W L : Type} (hw : Hardware W L) (name : String) (handle : Handle) :
    Publisher.exec hw (publisher.publish name handle) = (do
      (announce name).exec hw rest handle
      (Action.update (Assoc.insert name handle)).on (Station.publisherPart.comp table))
  unpublishes {W L : Type} (hw : Hardware W L) (name : String) :
    Publisher.exec hw (publisher.unpublish name) = (do
      let entries ← Action.world.on (Station.publisherPart.comp table)
      (Action.update (Assoc.erase name)).on (Station.publisherPart.comp table)
      match entries.lookup name with
      | some handle => (withdraw name).exec hw rest handle
      | none => (missing name).exec.on (Station.publisherPart.comp rest))

namespace Publisher.Tabled

variable {publisher : Publisher P} (tabled : publisher.Tabled N S)

/-- The table as a part of the station. -/
def tablePart : Lens (Station W L P) (List (String × Handle)) :=
  Station.publisherPart.comp tabled.table

/-- The record and the settings as a part of the station. -/
def restPart : Lens (Station W L P) (List N × S) := Station.publisherPart.comp tabled.rest

/-- The settings as a part of the station. -/
def settingsPart : Lens (Station W L P) S := tabled.restPart.comp Lens.second

theorem exec_publish (hw : Hardware W L) (name : String) (handle : Handle) :
    Publisher.exec hw (publisher.publish name handle) = (do
      (tabled.announce name).exec hw tabled.rest handle
      (Action.update (Assoc.insert name handle)).on tabled.tablePart) :=
  tabled.publishes hw name handle

theorem exec_unpublish (hw : Hardware W L) (name : String) :
    Publisher.exec hw (publisher.unpublish name) = (do
      let entries ← Action.world.on tabled.tablePart
      (Action.update (Assoc.erase name)).on tabled.tablePart
      match entries.lookup name with
      | some handle => (tabled.withdraw name).exec hw tabled.rest handle
      | none => (tabled.missing name).exec.on tabled.restPart) :=
  tabled.unpublishes hw name

/-- What everyone can ask who knows the name of an attribute. -/
def ask (hw : Hardware W L) (name : String) (request : Request α) : Action (Station W L P) α := do
  match (← Action.world.on tabled.tablePart).lookup name with
  | some handle => Station.request hw handle request
  | none => Action.fail (.argument ("no such attribute " ++ name))

/-- The rest does not matter to the table. -/
theorem table_set_rest (other : List N × S) (station : Station W L P) :
    tabled.tablePart.get (tabled.restPart.set other station) = tabled.tablePart.get station := by
  have h := tabled.apart (tabled.table.get station.publisher) other station.publisher
  rw [tabled.table.set_get] at h
  change tabled.table.get (tabled.rest.set other station.publisher) = _
  rw [h, tabled.table.get_set]
  rfl

/-- The table does not matter to the rest. -/
theorem rest_set_table (entries : List (String × Handle)) (station : Station W L P) :
    tabled.restPart.get (tabled.tablePart.set entries station) = tabled.restPart.get station := by
  have h := tabled.apart entries (tabled.rest.get station.publisher) station.publisher
  rw [tabled.rest.set_get] at h
  change tabled.rest.get (tabled.table.set entries station.publisher) = _
  rw [← h, tabled.rest.get_set]
  rfl

end Publisher.Tabled

/-! ## The notice board -/

namespace Bench

/-- What a board was told. -/
structure BoardSettings where
  failsToPublish : Bool
  failsToUnpublish : Bool
  deriving DecidableEq, Repr

namespace Board

/-- The attributes as a part of the board. -/
def entriesPart : Lens Board (List (String × Handle)) where
  get := entries
  set entries board := { board with entries }

/-- The rest as a part of the board. -/
def restPart : Lens Board (List Notice × BoardSettings) where
  get board := (board.notices, ⟨board.failsToPublish, board.failsToUnpublish⟩)
  set rest board := ⟨board.entries, rest.1, rest.2.failsToPublish, rest.2.failsToUnpublish⟩

/-- The work of putting an attribute up. -/
def announce (attributeName : String) : AttributeScript Notice BoardSettings Unit := do
  let shown ← (Script.ask (.request .content)).attempt
  Script.ask (.own (.record (.published attributeName shown)))
  let settings ← Script.ask (.own (.settings Action.world))
  if settings.failsToPublish then Script.fail (.internal ("cannot publish " ++ attributeName))

/-- The work of taking an attribute down. -/
def withdraw (attributeName : String) : AttributeScript Notice BoardSettings Unit := do
  let settings ← Script.ask (.own (.settings Action.world))
  let shown ← (Script.ask (.request .content)).attempt
  Script.ask (.own (.record (.unpublished attributeName (some shown))))
  if settings.failsToUnpublish then Script.fail (.internal ("cannot unpublish " ++ attributeName))

/-- What it comes to to take an attribute down that is not on the board. -/
def missing (attributeName : String) : OwnScript Notice BoardSettings Unit := do
  let settings ← Script.ask (.settings Action.world)
  Script.ask (.record (.unpublished attributeName none))
  if settings.failsToUnpublish then Script.fail (.internal ("cannot unpublish " ++ attributeName))

/-- What an attribute shows is what its controller answers. -/
theorem exec_shown (hw : Hardware W L) (handle : Handle) :
    Script.exec (Publisher.perform hw) (shown handle) =
      (Station.request hw handle .content : Action (Station W L Board) String).attempt := by
  rw [shown, Script.exec_attempt, Script.exec_ask]
  rfl

theorem exec_publish (hw : Hardware W L) (name : String) (handle : Handle) :
    Publisher.exec hw (publish name handle) = (do
      (announce name).exec hw restPart handle
      (Action.update (Assoc.insert name handle)).on (Station.publisherPart.comp entriesPart)) := by
  rw [AttributeScript.exec, announce, publish, Publisher.exec]
  simp only [Script.exec_bind, Script.exec_attempt, Script.exec_ask, exec_shown, bind_assoc]
  refine bind_congr fun shown => ?_
  funext station
  rcases station with ⟨world, ⟨entries, notices, fails, fails'⟩, controllers, made, phase, current⟩
  cases fails <;> rfl

theorem exec_unpublish (hw : Hardware W L) (name : String) :
    Publisher.exec hw (unpublish name) = (do
      let entries ← Action.world.on (Station.publisherPart.comp entriesPart)
      (Action.update (Assoc.erase name)).on (Station.publisherPart.comp entriesPart)
      match entries.lookup name with
      | some handle => (withdraw name).exec hw restPart handle
      | none => (missing name).exec.on (Station.publisherPart.comp restPart) :
        Action (Station W L Board) Unit) := by
  funext station
  have hlook : Script.exec (Publisher.perform hw) look station =
      ⟨.done station.publisher, station, []⟩ := rfl
  have hentries : Action.world.on (Station.publisherPart.comp entriesPart) station =
      ⟨.done station.publisher.entries, station, []⟩ := rfl
  rw [unpublish, Publisher.exec, Script.exec_bind, Action.bind_done hlook,
    Action.bind_done hentries]
  cases hlookup : station.publisher.entries.lookup name with
  | none =>
    simp only [Script.exec_bind]
    rcases station with ⟨world, ⟨entries, notices, fails, fails'⟩, controllers, made, phase, current⟩
    cases fails' <;> rfl
  | some handle =>
    simp only [Script.exec_bind, exec_shown, AttributeScript.exec, withdraw, Script.exec_attempt,
      Script.exec_ask]
    rcases station with ⟨world, ⟨entries, notices, fails, fails'⟩, controllers, made, phase, current⟩
    cases fails' <;> rfl

end Board

/-- The board is a publisher with a table. -/
def boardTabled : boardPublisher.Tabled Notice BoardSettings where
  table := Board.entriesPart
  rest := Board.restPart
  apart _ _ _ := rfl
  announce := Board.announce
  withdraw := Board.withdraw
  missing := Board.missing
  publishes := Board.exec_publish
  unpublishes := Board.exec_unpublish

end Bench

end CoprocReset
