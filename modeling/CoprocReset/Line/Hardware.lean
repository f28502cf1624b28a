import CoprocReset.Line.Level
import CoprocReset.Script

/-!
# Hardware

`Hardware W L` is all that the rest of the library knows of lines: how one is acquired, read,
set and released, and how time passes, each as an action on a world `W`, where `L` is what the
holder of a line keeps. Nothing is assumed of these actions. They may fail or crash, and the
world may answer as it likes; a result about any hardware holds of the memory table, of the
files of a GPIO class, and of either with faults built in.

`LineCall` has the two calls that are made on lines while a lock is held.
-/

namespace CoprocReset

/-- Where a line is and how it is wired. -/
structure LineSettings where
  /-- The number of the line. Hardware without numbers ignores it. -/
  gpio : Option Nat
  polarity : Polarity
  deriving DecidableEq, Repr

/-- What is needed to hand out a line. -/
structure LineRequest extends LineSettings where
  name : String
  /-- The level that the line is driven to by being acquired. -/
  initial : Level
  deriving DecidableEq, Repr

/-- The request for a line by its name. -/
def LineSettings.request (settings : LineSettings) (name : String) (initial : Level) :
    LineRequest :=
  { settings with name, initial }

/-- What can be done with lines in a world `W` whose holders keep an `L`. -/
structure Hardware (W L : Type) where
  acquire : LineRequest → Action W L
  get : L → Action W Level
  set : L → Level → Action W Unit
  /-- Gives the line back; it can be acquired again. -/
  release : L → Action W Unit
  /-- Lets a number of milliseconds pass. -/
  wait : Nat → Action W Unit
  name : L → String
  polarity : L → Polarity

/-- A call on a line, by the type of its answer. -/
inductive LineCall (L : Type) : Type → Type where
  | get (line : L) : LineCall L Level
  | set (line : L) (level : Level) : LineCall L Unit

/-- A script of calls on lines. -/
abbrev LineScript (L α : Type) := Script Failure (LineCall L) α

namespace Hardware

variable {V W L α : Type}

/-- The action that a call stands for. -/
def perform (hw : Hardware W L) {β : Type} : LineCall L β → Action W β
  | .get line => hw.get line
  | .set line level => hw.set line level

/-- The script carried out on the hardware. -/
def exec (hw : Hardware W L) (script : LineScript L α) : Action W α := script.exec hw.perform

/-- The hardware as a part of a larger world. -/
def within (hw : Hardware W L) (part : Lens V W) : Hardware V L where
  acquire request := (hw.acquire request).on part
  get line := (hw.get line).on part
  set line level := (hw.set line level).on part
  release line := (hw.release line).on part
  wait ms := (hw.wait ms).on part
  name := hw.name
  polarity := hw.polarity

end Hardware

end CoprocReset
