import CoprocReset.Proofs.Alike
import CoprocReset.Proofs.Lifecycle.Footing

/-!
# Lifecycles on different lines

Two lifecycles are twins if they differ in nothing but their lines, and the lines of both are
dependable, each in its own way. Nobody can tell them apart: whatever is done with the two, attach,
detach or ask a controller that was ever made, comes to the same end on both sides (`Act.alike`), and
so does any row of such acts (`Act.follows_run`). The relation between the stations that is kept is
`Linked`: one standing fits both, and from the first launch on the levels are the same.
-/

namespace CoprocReset

/-- What two stations have in common: the phase, the controller of the attached device, how many
controllers were made, and which of them has the lines. -/
structure Standing where
  phase : Phase
  current : Option Handle
  made : Nat
  holder : Option Handle

/-- Who has the lines of a controller. -/
def Standing.custody {L : Type} (standing : Standing) (pair : LinePair L) (handle : Handle) :
    Custody L :=
  if standing.holder = some handle then .holding pair else .vacant

/-- Between two calls nobody has the lines of an unattached device, and its own controller has those of
an attached one. -/
structure Standing.Proper (standing : Standing) : Prop where
  unattached (h : standing.phase = .unattached) : standing.holder = none
  attached (h : standing.phase = .attached) :
    ∃ handle, standing.holder = some handle ∧ standing.current = some handle

namespace Lifecycle

variable {W W' L L' P : Type}

/-- The lines are where they have to be: in the hands of the holder, or free. -/
def Footing.Fits {lifecycle : Lifecycle W L P} (lines : lifecycle.Footing) (standing : Standing)
    (world : W) : Prop :=
  match standing.holder with
  | some _ => lines.held world
  | none => lines.free world

/-- Lifecycles that differ in nothing but their lines. -/
structure Twins (lifecycle : Lifecycle W L P) (twin : Lifecycle W' L' P) where
  target : twin.target = lifecycle.target
  publisher : twin.publisher = lifecycle.publisher
  lines : lifecycle.Footing
  twinLines : twin.Footing

namespace Twins

variable {lifecycle : Lifecycle W L P} {twin : Lifecycle W' L' P} (twins : lifecycle.Twins twin)
  {standing : Standing} {station : Station W L P} {other : Station W' L' P} {handle : Handle}

/-- The levels on both sides are the same. -/
def SameLevels (world : W) (world' : W') : Prop :=
  twins.lines.known world ∧ twins.twinLines.known world' ∧
    twins.twinLines.levels world' = twins.lines.levels world

/-- One standing fits both stations, and from the first launch on they have the same levels. -/
structure Linked (standing : Standing) (station : Station W L P) (other : Station W' L' P) :
    Prop where
  publisher : other.publisher = station.publisher
  phase : station.phase = standing.phase ∧ other.phase = standing.phase
  current : station.current = standing.current ∧ other.current = standing.current
  made : station.made = standing.made ∧ other.made = standing.made
  controllers (handle : Handle) : ∃ name,
    station.controllers handle = ⟨name, standing.custody twins.lines.pair handle⟩ ∧
      other.controllers handle = ⟨name, standing.custody twins.twinLines.pair handle⟩
  fits : twins.lines.Fits standing station.world ∧ twins.twinLines.Fits standing other.world
  launched (handle : Handle) (h : standing.holder = some handle) : 0 < standing.made
  levels (h : 0 < standing.made) : twins.SameLevels station.world other.world

variable {twins}

/-! ## Requests and scripts -/

/-- A request is answered alike. -/
theorem request_alike {α : Type} (h : twins.Linked standing station other) (handle : Handle)
    (request : Request α) :
    Action.Alike (Station.request lifecycle.hardware handle request)
      (Station.request twin.hardware handle request) station other
      fun _ => twins.Linked standing := by
  obtain ⟨name, hleft, hright⟩ := h.controllers handle
  rw [Standing.custody] at hleft hright
  by_cases hholder : standing.holder = some handle
  · rw [if_pos hholder] at hleft hright
    obtain ⟨hheld, hheld'⟩ := h.fits
    rw [Footing.Fits, hholder] at hheld hheld'
    obtain ⟨hknown, hknown', hlevels⟩ := h.levels (h.launched handle hholder)
    obtain ⟨houtcome, ⟨hheld, hknown⟩, hleaves, hsame⟩ := Station.request_answers
      twins.lines.dependable.reliable hleft ⟨hheld, hknown⟩ request
    obtain ⟨houtcome', ⟨hheld', hknown'⟩, hleaves', hsame'⟩ := Station.request_answers
      twins.twinLines.dependable.reliable hright ⟨hheld', hknown'⟩ request
    rw [hlevels] at houtcome' hleaves'
    refine ⟨houtcome'.trans houtcome.symm, ?_⟩
    rw [hsame, hsame']
    refine { h with fits := ?_, levels := fun _ => ?_ }
    · rw [Footing.Fits, Footing.Fits, hholder]
      exact ⟨hheld, hheld'⟩
    · exact ⟨hknown, hknown', hleaves'.trans hleaves.symm⟩
  · rw [if_neg hholder] at hleft hright
    have hrefusal : (station.controllers handle).refusal? =
        some (Controller.notReady (⟨name, .vacant⟩ : Controller L)) := by rw [hleft]; rfl
    have hrefusal' : (other.controllers handle).refusal? =
        some (Controller.notReady (⟨name, .vacant⟩ : Controller L)) := by rw [hright]; rfl
    rw [Action.Alike, Station.request_refused hrefusal, Station.request_refused hrefusal']
    exact ⟨rfl, h⟩

/-- A script of a publisher comes to the same end. -/
theorem script_alike {α : Type} (h : twins.Linked standing station other)
    (script : PublisherScript P α) :
    Action.Alike (Publisher.exec lifecycle.hardware script) (Publisher.exec twin.hardware script)
      station other fun _ => twins.Linked standing := by
  refine Script.exec_alike (fun call station other h => ?_) script h
  cases call with
  | request handle request => exact request_alike h handle request
  | own action =>
    have hsame : action other.publisher = action station.publisher := by rw [h.publisher]
    refine ⟨congrArg Run.outcome hsame, { h with publisher := congrArg Run.world hsame }⟩

/-! ## The lifecycles -/

theorem Linked.setPhase (h : twins.Linked standing station other) (phase : Phase) :
    twins.Linked { standing with phase } { station with phase } { other with phase } :=
  { h with phase := ⟨rfl, rfl⟩ }

theorem Linked.setCurrent (h : twins.Linked standing station other) (current : Option Handle) :
    twins.Linked { standing with current } { station with current } { other with current } :=
  { h with current := ⟨rfl, rfl⟩ }

theorem launch_alike (h : twins.Linked standing station other) (hfree : standing.holder = none) :
    Action.Alike lifecycle.launch twin.launch station other fun outcome later later' =>
      outcome = .done standing.made ∧
        twins.Linked { standing with made := standing.made + 1, holder := some standing.made }
          later later' := by
  obtain ⟨hfits, hfits'⟩ := h.fits
  rw [Footing.Fits, hfree] at hfits hfits'
  obtain ⟨hmade, hmade'⟩ := h.made
  have hlaunch := twins.lines.delivers_launch hfits
  have hlaunch' := twins.twinLines.delivers_launch hfits'
  rw [hmade] at hlaunch
  rw [hmade', twins.target] at hlaunch'
  refine .of_delivers hlaunch hlaunch' ?_
  rintro later later' ⟨hheld, ⟨hknown, hlevels⟩, hsame⟩ ⟨hheld', ⟨hknown', hlevels'⟩, hsame'⟩
  refine ⟨rfl, ?_⟩
  rw [hsame, hsame']
  refine { h with
    made := ⟨rfl, rfl⟩
    controllers := fun handle => ?_
    fits := ⟨hheld, hheld'⟩
    launched := fun _ _ => Nat.succ_pos _
    levels := fun _ => ⟨hknown, hknown', hlevels'.trans hlevels.symm⟩ }
  by_cases hhandle : handle = standing.made
  · refine ⟨lifecycle.target.attributeName, ?_⟩
    simp [Station.replace, Standing.custody, Controller.ofPair, hhandle]
  · obtain ⟨name, hleft, hright⟩ := h.controllers handle
    refine ⟨name, ?_⟩
    simp [Station.replace, Standing.custody, hhandle, Ne.symm hhandle, hleft, hright, hfree]

theorem tearDown_alike (h : twins.Linked standing station other)
    (hholder : standing.holder = some handle) :
    Action.Alike (lifecycle.tearDown handle) (twin.tearDown handle) station other
      fun outcome later later' =>
        outcome = .done () ∧ twins.Linked { standing with holder := none } later later' := by
  obtain ⟨hfits, hfits'⟩ := h.fits
  rw [Footing.Fits, hholder] at hfits hfits'
  obtain ⟨name, hleft, hright⟩ := h.controllers handle
  rw [Standing.custody, if_pos hholder] at hleft hright
  refine .of_delivers (twins.lines.delivers_tearDown hleft hfits)
    (twins.twinLines.delivers_tearDown hright hfits') ?_
  rintro later later' ⟨hfree, ⟨hknown, hlevels⟩, hsame⟩ ⟨hfree', ⟨hknown', hlevels'⟩, hsame'⟩
  refine ⟨rfl, ?_⟩
  rw [hsame, hsame']
  refine { h with
    controllers := fun other => ?_
    fits := ⟨hfree, hfree'⟩
    launched := by rintro _ ⟨⟩
    levels := fun _ => ⟨hknown, hknown', hlevels'.trans hlevels.symm⟩ }
  by_cases hother : other = handle
  · exact ⟨name, by simp [Station.replace, Standing.custody, hother]⟩
  · obtain ⟨name', hleft', hright'⟩ := h.controllers other
    refine ⟨name', ?_⟩
    have hne : ¬ standing.holder = some other := by simp [hholder, Ne.symm hother]
    simp [Station.replace, Standing.custody, hother, hleft', hright', hne]

/-- What a failed launch or announcement leaves: nobody has the lines. After a crash of the publisher
the controller has them. -/
def Announced (twins : lifecycle.Twins twin) (standing : Standing) (handle : Handle) :
    Outcome Handle → Station W L P → Station W' L' P → Prop
  | .done value => fun later later' => value = handle ∧ twins.Linked standing later later'
  | .failed _ => twins.Linked { standing with holder := none }
  | .crashed _ => twins.Linked standing

theorem announce_alike (h : twins.Linked standing station other)
    (hholder : standing.holder = some handle) :
    Action.Alike (lifecycle.announce handle) (twin.announce handle) station other
      (twins.Announced standing handle) := by
  rw [announce, announce, twins.target, twins.publisher]
  refine .bind (.attempt ((script_alike h _).mono fun outcome later later' hlater => ?_))
  cases outcome with
  | crashed message => exact hlater
  | done value => exact Action.alike_pure ⟨rfl, hlater⟩
  | failed failure =>
    refine .bind (.attempt ((tearDown_alike hlater hholder).mono ?_))
    rintro _ last last' ⟨rfl, hlast⟩
    exact Action.alike_fail hlast

theorem bringUp_alike (h : twins.Linked standing station other) (hfree : standing.holder = none) :
    Action.Alike lifecycle.bringUp twin.bringUp station other (twins.Announced
      { standing with made := standing.made + 1, holder := some standing.made } standing.made) := by
  rw [bringUp_eq, bringUp_eq]
  refine .bind ((launch_alike h hfree).mono ?_)
  rintro _ later later' ⟨rfl, hlater⟩
  exact announce_alike hlater rfl

/-- The stations have a standing in common that is proper between two calls. What was made before is
still there. -/
def Follows (twins : lifecycle.Twins twin) (standing : Standing) (station : Station W L P)
    (other : Station W' L' P) : Prop :=
  ∃ later : Standing, standing.made ≤ later.made ∧ later.Proper ∧ twins.Linked later station other

theorem Linked.follows {later : Standing} (h : twins.Linked later station other)
    (hmade : standing.made ≤ later.made) (hproper : later.Proper) :
    twins.Follows standing station other :=
  ⟨later, hmade, hproper, h⟩

theorem attach_alike (h : twins.Linked standing station other) (hproper : standing.Proper) :
    Action.Alike lifecycle.attach twin.attach station other fun _ => twins.Follows standing := by
  rw [attach, attach]
  refine .world_bind ?_
  rw [h.phase.1, h.phase.2]
  by_cases hphase : standing.phase = .unattached
  · simp only [hphase, ne_eq, not_true_eq_false, if_false]
    refine .note_bind (.update_bind (.bind (.attempt ?_)))
    refine (bringUp_alike (h.setPhase .attaching) (hproper.unattached hphase)).mono ?_
    intro outcome later later' hlater
    cases outcome with
    | crashed message => exact hlater.follows (Nat.le_succ _) ⟨by rintro ⟨⟩, by rintro ⟨⟩⟩
    | failed failure =>
      have hfollows := (hlater.setPhase .unattached).follows (Nat.le_succ standing.made)
        ⟨fun _ => rfl, by rintro ⟨⟩⟩
      dsimp only [Action.Attempted, Action.Onward]
      exact .note_bind (.update_bind (Action.alike_fail hfollows))
    | done handle =>
      obtain ⟨rfl, hlater⟩ := hlater
      have hfollows := ((hlater.setCurrent (some standing.made)).setPhase .attached).follows
        (Nat.le_succ standing.made) ⟨by rintro ⟨⟩, fun _ => ⟨_, rfl, rfl⟩⟩
      dsimp only [Action.Attempted, Action.Onward]
      exact .update_bind (.update_bind (.note_bind (Action.alike_pure hfollows)))
  · simp only [ne_eq, hphase, not_false_eq_true, if_true, outOfPhase, twins.target]
    exact Action.alike_fail (h.follows (Nat.le_refl _) hproper)

theorem dismiss_alike (h : twins.Linked standing station other)
    (hholder : standing.holder = some handle) (hcurrent : standing.current = some handle) :
    Action.Alike lifecycle.dismiss twin.dismiss station other fun outcome later later' =>
      outcome = .done () ∧
        twins.Linked { standing with holder := none, current := none } later later' := by
  rw [dismiss, dismiss]
  refine .world_bind ?_
  rw [h.current.1, h.current.2, hcurrent]
  exact .update_bind (tearDown_alike (h.setCurrent none) hholder)

theorem detach_alike (h : twins.Linked standing station other) (hproper : standing.Proper) :
    Action.Alike lifecycle.detach twin.detach station other fun _ => twins.Follows standing := by
  rw [detach, detach]
  refine .world_bind ?_
  rw [h.phase.1, h.phase.2]
  by_cases hphase : standing.phase = .attached
  · simp only [hphase, ne_eq, not_true_eq_false, if_false, twins.target, twins.publisher]
    obtain ⟨handle, hholder, hcurrent⟩ := hproper.attached hphase
    refine .note_bind (.update_bind (.bind (.attempt ?_)))
    refine (script_alike (h.setPhase .detaching) _).mono fun outcome later later' hlater => ?_
    -- whatever the publisher comes to, the device is dismissed, unless it crashes
    have hdismiss (unpublished : Except Failure Unit) : Action.Alike
        (lifecycle.dismiss.attempt >>= fun released => do
          setPhase .unattached
          Action.noteInfo (lifecycle.target.attributeName ++ " detached")
          Action.ofExcept (released >>= fun () => unpublished))
        (twin.dismiss.attempt >>= fun released => do
          setPhase .unattached
          Action.noteInfo (lifecycle.target.attributeName ++ " detached")
          Action.ofExcept (released >>= fun () => unpublished))
        later later' fun _ => twins.Follows standing := by
      refine .bind (.attempt ((dismiss_alike hlater hholder hcurrent).mono ?_))
      rintro _ last last' ⟨rfl, hlast⟩
      have hfollows := (hlast.setPhase .unattached).follows (Nat.le_refl standing.made)
        ⟨fun _ => rfl, by rintro ⟨⟩⟩
      dsimp only [Action.Attempted, Action.Onward]
      exact .update_bind (.note_bind (Action.alike_ofExcept hfollows))
    cases outcome with
    | crashed message => exact hlater.follows (Nat.le_refl standing.made) ⟨by rintro ⟨⟩, by rintro ⟨⟩⟩
    | done value => exact hdismiss (.ok ())
    | failed failure =>
      dsimp only [Action.Attempted, Action.Onward]
      exact .note_bind (hdismiss (.error failure))
  · simp only [ne_eq, hphase, not_false_eq_true, if_true, outOfPhase, twins.target]
    exact Action.alike_fail (h.follows (Nat.le_refl _) hproper)

end Twins

/-! ## Acts -/

/-- What can be done at a station, by the type of the answer: the lifecycle is told something, a
controller that was ever made is asked something, or a script is carried out that may do both what a
publisher does and ask controllers. -/
inductive Act (P : Type) : Type → Type 1 where
  | attach : Act P Handle
  | detach : Act P Unit
  | ask {α : Type} (handle : Handle) (request : Request α) : Act P α
  | consult {α : Type} (script : PublisherScript P α) : Act P α

namespace Act

variable {α : Type}

/-- The act carried out. -/
def action (lifecycle : Lifecycle W L P) : Act P α → Action (Station W L P) α
  | .attach => lifecycle.attach
  | .detach => lifecycle.detach
  | .ask handle request => Station.request lifecycle.hardware handle request
  | .consult script => Publisher.exec lifecycle.hardware script

/-- The station after a row of acts. -/
def run (lifecycle : Lifecycle W L P) (acts : List ((α : Type) × Act P α))
    (station : Station W L P) : Station W L P :=
  acts.foldl (fun station act => (act.2.action lifecycle station).world) station

variable {lifecycle : Lifecycle W L P} {twin : Lifecycle W' L' P} {twins : lifecycle.Twins twin}
  {standing : Standing} {station : Station W L P} {other : Station W' L' P}

theorem run_append (lifecycle : Lifecycle W L P) (earlier later : List ((α : Type) × Act P α))
    (station : Station W L P) : run lifecycle (earlier ++ later) station =
      run lifecycle later (run lifecycle earlier station) :=
  List.foldl_append

/-- Twins come to the same end in every act. -/
theorem alike (h : twins.Linked standing station other) (hproper : standing.Proper)
    (act : Act P α) :
    Action.Alike (act.action lifecycle) (act.action twin) station other
      fun _ => twins.Follows standing := by
  cases act with
  | attach => exact Twins.attach_alike h hproper
  | detach => exact Twins.detach_alike h hproper
  | ask handle request =>
    exact (Twins.request_alike h handle request).mono fun _ _ _ hlater =>
      hlater.follows (Nat.le_refl _) hproper
  | consult script =>
    exact (Twins.script_alike h script).mono fun _ _ _ hlater =>
      hlater.follows (Nat.le_refl _) hproper

/-- By induction on the acts, with a common standing as the invariant. -/
theorem follows_run (h : twins.Linked standing station other) (hproper : standing.Proper)
    (acts : List ((α : Type) × Act P α)) :
    twins.Follows standing (run lifecycle acts station) (run twin acts other) := by
  induction acts generalizing standing station other with
  | nil => exact h.follows (Nat.le_refl _) hproper
  | cons act acts ih =>
    obtain ⟨middle, hmiddle, hproper', hlinked⟩ := (alike h hproper act.2).2
    obtain ⟨later, hlater, hrest⟩ := ih hlinked hproper'
    exact ⟨later, Nat.le_trans hmiddle hlater, hrest⟩

end Act

end Lifecycle

end CoprocReset
