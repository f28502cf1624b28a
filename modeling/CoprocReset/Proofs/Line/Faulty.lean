import CoprocReset.Line.Faulty
import CoprocReset.Proofs.Line.Pair

/-!
# Lines with planned faults

A call either meets a planned fault, and then does nothing but count, or is the call on the line
(`guarding_cases`). So a plan without a crash makes no hardware crash, and the levels of a pair can
be told as well as without a plan.
-/

namespace CoprocReset

theorem Fault.guarding_cases {W α : Type} (plan : List Fault) (counts : Lens W CallCounts)
    (line : String) (sort : CallSort) (call : Action W α) (world : W) :
    ∃ later, (∃ fault ∈ plan, guarding plan counts line sort call world =
        ⟨fault.outcome, counts.set later world, []⟩) ∨
      guarding plan counts line sort call world = call (counts.set later world) := by
  let number := ((counts.get world).next line sort).1
  refine ⟨((counts.get world).next line sort).2, ?_⟩
  rcases hfault : plan.find? fun fault => fault.strikes line sort number with _ | fault
  · refine .inr ?_
    simp [guarding, Action.bind_apply, Action.andThen, Action.world, Action.update, number, hfault]
  · refine .inl ⟨fault, List.mem_of_find?_eq_some hfault, ?_⟩
    simp [guarding, Action.bind_apply, Action.andThen, Action.world, Action.update, number, hfault,
      Action.ofOutcome]

/-- The hardware with planned faults, and with the counts beside its world. -/
def Hardware.faulty {W L : Type} (hw : Hardware W L) (plan : List Fault) :
    Hardware (W × CallCounts) L :=
  (hw.within .first).withFaults plan .second

theorem Hardware.Calm.faulty {W L : Type} {hw : Hardware W L} (h : hw.Calm) {plan : List Fault}
    (hplan : ∀ fault ∈ plan, fault.crashes = false) : (hw.faulty plan).Calm := by
  have hguarding {α : Type} (line : String) (sort : CallSort) {call : Action W α}
      (hcall : call.Calm) :
      (Fault.guarding plan Lens.second line sort (call.on Lens.first)).Calm := by
    intro world message
    obtain ⟨later, ⟨fault, hmem, hrun⟩ | hrun⟩ :=
      Fault.guarding_cases plan Lens.second line sort (call.on Lens.first) world
    · simp [hrun, Fault.outcome, hplan fault hmem]
    · rw [hrun]
      exact hcall _ message
  constructor
  · exact fun request => (h.acquire request).on
  · exact fun line => hguarding _ _ (h.get line)
  · exact fun line level => hguarding _ _ (h.set line level)
  · exact fun line => hguarding _ _ (h.release line)
  · exact fun ms => (h.wait ms).on

theorem LinePair.Shown.faulty {W L : Type} {pair : LinePair L} {hw : Hardware W L}
    {levels : W → Level × Level} (h : pair.Shown hw levels) (plan : List Fault) :
    pair.Shown (hw.faulty plan) fun world => levels world.1 := by
  have hset {line : L} {level : Level} {world : W × CallCounts}
      (hdone : ((hw.faulty plan).set line level world).outcome = .done ()) :
      (hw.set line level world.1).outcome = .done () ∧
        ((hw.faulty plan).set line level world).world.1 = (hw.set line level world.1).world := by
    obtain ⟨later, ⟨fault, -, hrun⟩ | hrun⟩ := Fault.guarding_cases plan Lens.second (hw.name line)
      .set ((hw.set line level).on Lens.first) world
    · rw [show (hw.faulty plan).set line level world = _ from hrun] at hdone
      unfold Fault.outcome at hdone
      split at hdone <;> simp at hdone
    · rw [show (hw.faulty plan).set line level world = _ from hrun] at hdone ⊢
      exact ⟨hdone, rfl⟩
  have hrelease (line : L) (world : W × CallCounts) :
      ((hw.faulty plan).release line world).world.1 = world.1 ∨
        ((hw.faulty plan).release line world).world.1 = (hw.release line world.1).world := by
    obtain ⟨later, ⟨fault, -, hrun⟩ | hrun⟩ := Fault.guarding_cases plan Lens.second (hw.name line)
      .release ((hw.release line).on Lens.first) world
    · exact .inl (congrArg (fun run => run.world.1) hrun)
    · exact .inr (congrArg (fun run => run.world.1) hrun)
  constructor
  · intro world level hdone
    rw [(hset hdone).2, h.set_reset (hset hdone).1]
  · intro world level hdone
    rw [(hset hdone).2, h.set_bootSelect (hset hdone).1]
  · intro world
    obtain heq | heq := hrelease pair.reset world
    · rw [heq]
    · rw [heq, h.release_reset]
  · intro world
    obtain heq | heq := hrelease pair.bootSelect world
    · rw [heq]
    · rw [heq, h.release_bootSelect]

end CoprocReset
