import CoprocReset.Line.Hardware
import CoprocReset.Proofs.Script

/-!
# What can be known of hardware

Hardware is `Calm` if it never crashes, and `Keeps` a property of the world if looking at lines and
driving them does. Both carry over to scripts of such calls.
-/

namespace CoprocReset

/-- Hardware that is part of a larger world carries scripts out on that part. -/
theorem Hardware.exec_within {V W L α : Type} (hw : Hardware W L) (part : Lens V W)
    (script : LineScript L α) : (hw.within part).exec script = (hw.exec script).on part := by
  have hperform : @Hardware.perform V L (hw.within part) =
      fun {β : Type} (request : LineCall L β) => (hw.perform request).on part := by
    funext β request
    cases request <;> rfl
  rw [Hardware.exec, Hardware.exec, hperform, Script.exec_on]

/-- The hardware never crashes. -/
structure Hardware.Calm {W L : Type} (hw : Hardware W L) : Prop where
  acquire (request : LineRequest) : (hw.acquire request).Calm
  get (line : L) : (hw.get line).Calm
  set (line : L) (level : Level) : (hw.set line level).Calm
  release (line : L) : (hw.release line).Calm
  wait (ms : Nat) : (hw.wait ms).Calm

/-- Looking at lines and driving them keeps a property of the world. -/
structure Hardware.Keeps {W L : Type} (hw : Hardware W L) (J : W → Prop) : Prop where
  get (line : L) {world : W} (h : J world) : (hw.get line).Yields world fun _ later => J later
  set (line : L) (level : Level) {world : W} (h : J world) :
    (hw.set line level).Yields world fun _ later => J later

theorem Hardware.keeps_true {W L : Type} (hw : Hardware W L) : hw.Keeps fun _ => True := by
  constructor <;> intros <;> unfold Action.Yields <;> split <;> trivial

theorem Hardware.Keeps.exec {W L α : Type} {hw : Hardware W L} {J : W → Prop} (hJ : hw.Keeps J)
    (script : LineScript L α) {world : W} (h : J world) :
    (hw.exec script).Yields world fun _ later => J later :=
  Script.exec_keeps _ (fun request world hw => by
    cases request with
    | get line => exact hJ.get line hw
    | set line level => exact hJ.set line level hw) script h

theorem Hardware.Calm.perform {W L α : Type} {hw : Hardware W L} (h : hw.Calm)
    (request : LineCall L α) : (hw.perform request).Calm := by
  cases request with
  | get line => exact h.get line
  | set line level => exact h.set line level

theorem Hardware.Calm.exec {W L α : Type} {hw : Hardware W L} (h : hw.Calm)
    (script : LineScript L α) : (hw.exec script).Calm :=
  Script.calm_exec _ h.perform script

theorem Hardware.Calm.within {V W L : Type} {hw : Hardware W L} (h : hw.Calm) (part : Lens V W) :
    (hw.within part).Calm where
  acquire request := (h.acquire request).on
  get line := (h.get line).on
  set line level := (h.set line level).on
  release line := (h.release line).on
  wait ms := (h.wait ms).on

end CoprocReset
