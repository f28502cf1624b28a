import CoprocReset.Bus.Objects
import CoprocReset.Client.Arguments

/-!
# Running a client

A client's calls go over the bus to the objects of a station. It prints its report and ends well,
or logs why it has none and ends badly; arguments that make no invocation end it before any call.
-/

namespace CoprocReset.Client

variable {W L : Type}

/-- What a client shows of its run. -/
structure Ending where
  exitCode : Nat
  output : String
  said : Option LogEntry
  deriving DecidableEq, Repr

/-- The end of a client whose dialogue came to a result. -/
def Ending.ofResult : Except Bus.CallError String → Ending
  | .ok report => ⟨0, report ++ "\n", none⟩
  | .error error => ⟨1, "", some ⟨.error, error.message⟩⟩

/-- The end of a client that was called with the wrong arguments. -/
def Ending.misused : Ending := ⟨2, "", none⟩

/-- What a call does at the station whose object is at the path. -/
def perform (hw : Hardware W L) (path : String) {α : Type} :
    ClientCall α → Action (Station W L Bus.ObjectTable) (Except Bus.CallError α)
  | .read => do return (← Bus.call hw path .read).mapError .replied
  | .write data => do return (← Bus.call hw path (.write data)).mapError .replied
  | .pause ms => do
    (hw.within Station.worldPart).wait ms
    return .ok ()

/-- The errand carried out without anyone in between. -/
def carryOut (hw : Hardware W L) (invocation : Invocation) :
    Action (Station W L Bus.ObjectTable) (Except Bus.CallError String) :=
  (invocation.errand.dialogue invocation.attributeName).run
    (perform hw (objectPath invocation.attributeName))

/-- A client from its arguments to its end. -/
def run (hw : Hardware W L) (arguments : List String) :
    Action (Station W L Bus.ObjectTable) Ending :=
  match invocation? arguments with
  | none => pure .misused
  | some invocation => do return .ofResult (← carryOut hw invocation)

end CoprocReset.Client
