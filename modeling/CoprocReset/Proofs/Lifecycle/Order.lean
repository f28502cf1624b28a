import CoprocReset.Proofs.Lifecycle.Course
import CoprocReset.Proofs.Lifecycle.DryRun

/-!
# What comes before what

`Ordered` is what can be relied on about the order of a lifecycle's calls: an attribute is published
only after a complete startup, the lines are left alone while it is published, and whatever goes
wrong, the coprocessor is forced into reset before its lines are released. Every history is ordered
(`Course.ordered`). The parts are read off the stages that `Steps` passes through.
-/

namespace CoprocReset

namespace Lifecycle

variable {W L P : Type}

/-- What is recorded while a coprocessor is forced into reset and its lines are released: the
boot-select line is forced only after the reset line was, and both are released in any case. -/
inductive ForcedAndReleased (pair : LinePair L) : List (Event L) → Prop
  | whole (forced reset bootSelect : Except Failure Unit) :
    ForcedAndReleased pair
      [.set pair.reset .low (.ok ()), .set pair.bootSelect .high forced,
        .release pair.reset reset, .release pair.bootSelect bootSelect]
  | cut (failure : Failure) (reset bootSelect : Except Failure Unit) :
    ForcedAndReleased pair
      [.set pair.reset .low (.error failure),
        .release pair.reset reset, .release pair.bootSelect bootSelect]

/-- The order of the calls in a history. -/
structure Ordered (lifecycle : Lifecycle W L P) (history : List (Event L)) : Prop where
  /-- An attribute is published right after its device was brought up without a failure. -/
  published : ∀ before answer later, history = before ++ .publish answer :: later →
    ∃ past pair, before = past ++ lifecycle.broughtUp pair
  /-- From there to the call that takes the attribute away, no call is made. -/
  undisturbed : ∀ before during later,
    history = before ++ .publish (.ok ()) :: (during ++ later) →
    (∀ answer, .unpublish answer ∉ during) → ∀ event ∈ during, event.isMark
  /-- If it could not be published, the coprocessor is forced into reset and the lines are
  released. -/
  notPublished : ∀ before failure later,
    history = before ++ .publish (.error failure) :: later →
    ∃ past pair forced failure' rest, before = past ++ lifecycle.broughtUp pair ∧
      ForcedAndReleased pair forced ∧
      later = forced ++ .returned .attach (.failed failure') :: rest
  /-- So they are after it was taken away, or could not be. -/
  unpublished : ∀ before answer later, history = before ++ .unpublish answer :: later →
    ∃ past pair marks forced outcome rest,
      before = past ++ lifecycle.broughtUp pair ++ .publish (.ok ()) :: marks ∧
      (∀ mark ∈ marks, mark.isMark) ∧ ForcedAndReleased pair forced ∧
      later = forced ++ .returned .detach outcome :: rest
  /-- After the first failure of a startup, the lines are released and nothing else is done. -/
  brokenOff : ∀ before reset bootSelect made call failure later,
    history = before ++ .acquire lifecycle.resetRequest (.ok reset) ::
      .acquire lifecycle.bootSelectRequest (.ok bootSelect) ::
      (made.map (StartupCall.event (.ok ())) ++ call.event (.error failure) :: later) →
    (∃ past, before = past ++ [.called .attach]) ∧
      made ++ [call] <+: startupCalls lifecycle.target.settle ⟨reset, bootSelect⟩ ∧
      ∃ answer answer' failure' rest, later =
        .release reset answer :: .release bootSelect answer' ::
          .returned .attach (.failed failure') :: rest
  /-- Nothing is done with a line that is not in hand. -/
  inHand : ∀ before event later line, history = before ++ event :: later →
    event.line? = some line →
    ∃ kept, acquired before = released before ++ kept ∧ line ∈ kept
  /-- Nothing is done at all but in an attachment or a detachment. -/
  inCall : ∀ before event later, history = before ++ event :: later → event.isMark = false →
    ∃ past verb calls, before = past ++ .called verb :: calls ∧
      ∀ call ∈ calls, call.isMark = false

variable {lifecycle : Lifecycle W L P} {books : Books L} {first last rest stage next : Stage L}
  {event : Event L} {before events later : List (Event L)}

/-- An event in a history comes at a stage, with what has happened up to there. -/
theorem Steps.at (h : lifecycle.Steps .idle (before ++ event :: later) last) :
    ∃ stage next, lifecycle.Trail before stage ∧ lifecycle.Step stage event next ∧
      lifecycle.Steps next later last := by
  obtain ⟨stage, hbefore, hlater⟩ := h.split
  obtain _ | ⟨step, steps⟩ := hlater
  exact ⟨stage, _, hbefore.trail, step, steps⟩

/-! ## Where an event comes -/

theorem Step.of_publish {answer : Except Failure Unit}
    (h : lifecycle.Step stage (.publish answer) next) :
    ∃ pair, stage = .starting pair [] ∧
      (answer = .ok () ∧ next = .published pair ∨
        ∃ failure, answer = .error failure ∧ next = .forcing .attach pair) := by
  generalize hevent : Event.publish answer = event at h
  cases h with
  | published pair => cases hevent; exact ⟨pair, rfl, .inl ⟨rfl, rfl⟩⟩
  | notPublished pair failure => cases hevent; exact ⟨pair, rfl, .inr ⟨failure, rfl, rfl⟩⟩
  | goneOn _ call | brokenOff _ call => cases call <;> cases hevent
  | _ => cases hevent

theorem Step.of_unpublish {answer : Except Failure Unit}
    (h : lifecycle.Step stage (.unpublish answer) next) :
    ∃ pair, stage = .detaching pair ∧ next = .forcing .detach pair := by
  generalize hevent : Event.unpublish answer = event at h
  cases h with
  | unpublished pair => exact ⟨pair, rfl, rfl⟩
  | goneOn _ call | brokenOff _ call => cases call <;> cases hevent
  | _ => cases hevent

theorem Step.of_acquire {request : LineRequest} {line : L}
    (h : lifecycle.Step stage (.acquire request (.ok line)) next) :
    stage = .attaching ∧ next = .resetInHand line ∨
      ∃ reset, stage = .resetInHand reset ∧
        next = .starting ⟨reset, line⟩ (startupCalls lifecycle.target.settle ⟨reset, line⟩) := by
  generalize hevent : Event.acquire request (.ok line) = event at h
  cases h with
  | resetAcquired reset => cases hevent; exact .inl ⟨rfl, rfl⟩
  | bootSelectAcquired reset bootSelect => cases hevent; exact .inr ⟨reset, rfl, rfl⟩
  | goneOn _ call | brokenOff _ call => cases call <;> cases hevent
  | _ => cases hevent

theorem Step.of_startupCall {pair : LinePair L} {left : List (StartupCall L)}
    {call : StartupCall L} {answer : Except Failure Unit}
    (h : lifecycle.Step (.starting pair left) (call.event answer) next) :
    ∃ left', left = call :: left' ∧
      (answer = .ok () ∧ next = .starting pair left' ∨
        ∃ failure, answer = .error failure ∧ next = .releasing .attach pair) := by
  generalize hevent : call.event answer = event at h
  cases h with
  | goneOn _ call' left' =>
    cases call <;> cases call' <;> cases hevent <;> exact ⟨left', rfl, .inl ⟨rfl, rfl⟩⟩
  | brokenOff _ call' left' failure =>
    cases call <;> cases call' <;> cases hevent <;>
      exact ⟨left', rfl, .inr ⟨failure, rfl, rfl⟩⟩
  | published | notPublished => cases call <;> cases hevent

/-- Calls of a startup that succeeded have been made in their order. -/
theorem Steps.of_startupCalls {pair : LinePair L} {left made : List (StartupCall L)}
    (h : lifecycle.Steps (.starting pair left) (made.map (StartupCall.event (.ok ())) ++ events)
      last) :
    ∃ left', left = made ++ left' ∧ lifecycle.Steps (.starting pair left') events last := by
  induction made generalizing left with
  | nil => exact ⟨left, rfl, h⟩
  | cons call made ih =>
    obtain _ | ⟨step, steps⟩ := h
    obtain ⟨left', rfl, ⟨-, rfl⟩ | ⟨failure, hfailure, -⟩⟩ := step.of_startupCall
    case inr => cases hfailure
    obtain ⟨left'', rfl, hlater⟩ := ih steps
    exact ⟨left'', rfl, hlater⟩

/-- The attribute of the device is reachable. -/
def Stage.isPublished : Stage L → Bool
  | .published _ | .attached _ | .refusingAttach _ | .detaching _ => true
  | _ => false

theorem Step.of_isPublished (h : lifecycle.Step stage event next) (hstage : stage.isPublished)
    (hevent : ∀ answer, event ≠ .unpublish answer) : event.isMark ∧ next.isPublished := by
  cases h <;> simp_all [Stage.isPublished, Event.isMark]

/-- As long as the attribute is not taken away, nothing is done. -/
theorem Steps.of_isPublished (h : lifecycle.Steps first events last) (hfirst : first.isPublished)
    (hevents : ∀ answer, .unpublish answer ∉ events) : ∀ event ∈ events, event.isMark := by
  induction h with
  | nil => simp
  | cons step steps ih =>
    simp only [List.mem_cons, not_or] at hevents
    obtain ⟨hmark, hnext⟩ := step.of_isPublished hfirst fun answer h => (hevents answer).1 h.symm
    simpa [hmark] using ih hnext fun answer => (hevents answer).2

/-- A call on a line is one on a line in hand. -/
theorem Step.line_mem {line : L} (h : lifecycle.Step stage event next)
    (htrail : lifecycle.Trail before stage) (hline : event.line? = some line) :
    line ∈ stage.lines := by
  cases h with
  | goneOn pair call left | brokenOff pair call left =>
    obtain ⟨made, hmade, -⟩ := htrail
    have hmem : call ∈ startupCalls lifecycle.target.settle pair := by simp [← hmade]
    simp only [startupCalls, List.mem_cons, List.not_mem_nil, or_false] at hmem
    rcases hmem with rfl | rfl | rfl | rfl | rfl <;>
      simp_all [StartupCall.event, Event.line?, Stage.lines]
  | _ => simp_all [Event.line?, Stage.lines]

/-- The lifecycle is not in a call. -/
def Stage.isRest : Stage L → Bool
  | .idle | .attached _ => true
  | _ => false

theorem Step.isRest_eq_false (h : lifecycle.Step stage event next) (hevent : event.isMark = false) :
    stage.isRest = false := by
  cases h <;> simp_all [Stage.isRest, Event.isMark]

theorem Step.of_isRest (h : lifecycle.Step stage event next) (hnext : next.isRest = false) :
    (∃ verb, event = .called verb) ∨ event.isMark = false ∧ stage.isRest = false := by
  cases h with
  | goneOn _ call | brokenOff _ call => cases call <;> exact .inr ⟨rfl, rfl⟩
  | _ => simp_all [Stage.isRest, Event.isMark]

/-- Away from rest, the last call has begun and not ended. -/
theorem Steps.inCall (h : lifecycle.Steps .idle events last) (hlast : last.isRest = false) :
    ∃ past verb calls, events = past ++ .called verb :: calls ∧
      ∀ call ∈ calls, call.isMark = false := by
  revert hlast
  refine h.keep (I := fun events stage => stage.isRest = false →
    ∃ past verb calls, events = past ++ .called verb :: calls ∧
      ∀ call ∈ calls, call.isMark = false) (fun hidle => by cases hidle) ?_
  intro events stage event next ih hstep hnext
  rcases hstep.of_isRest hnext with ⟨verb, rfl⟩ | ⟨hmark, hstage⟩
  · exact ⟨events, verb, [], rfl, by simp⟩
  · obtain ⟨past, verb, calls, rfl, hcalls⟩ := ih hstage
    refine ⟨past, verb, calls ++ [event], by simp, ?_⟩
    simpa [or_imp, forall_and, hmark] using hcalls

/-! ## The ways back to rest -/

theorem Steps.of_ended {verb : Verb} (h : lifecycle.Steps (.ended verb) events rest)
    (hrest : AtRest books rest) :
    ∃ outcome later, events = .returned verb outcome :: later ∧
      (verb = .attach → ∃ failure, outcome = .failed failure) := by
  obtain _ | ⟨step, steps⟩ := h
  · cases hrest
  · cases step with
    | attachFailed failure => exact ⟨_, _, rfl, fun _ => ⟨failure, rfl⟩⟩
    | detachEnded outcome => exact ⟨_, _, rfl, fun h => by cases h⟩

theorem Steps.of_releasing {verb : Verb} {pair : LinePair L}
    (h : lifecycle.Steps (.releasing verb pair) events rest) (hrest : AtRest books rest) :
    ∃ answer answer' outcome later,
      events = .release pair.reset answer :: .release pair.bootSelect answer' ::
        .returned verb outcome :: later ∧
      (verb = .attach → ∃ failure, outcome = .failed failure) := by
  obtain _ | ⟨step, steps⟩ := h
  · cases hrest
  cases step with
  | resetReleased _ _ answer =>
    obtain _ | ⟨step, steps⟩ := steps
    · cases hrest
    cases step with
    | bootSelectReleased _ _ answer' =>
      obtain ⟨outcome, later, rfl, houtcome⟩ := steps.of_ended hrest
      exact ⟨answer, answer', outcome, later, rfl, houtcome⟩

theorem Steps.of_forcing {verb : Verb} {pair : LinePair L}
    (h : lifecycle.Steps (.forcing verb pair) events rest) (hrest : AtRest books rest) :
    ∃ forced outcome later, ForcedAndReleased pair forced ∧
      events = forced ++ .returned verb outcome :: later ∧
      (verb = .attach → ∃ failure, outcome = .failed failure) := by
  obtain _ | ⟨step, steps⟩ := h
  · cases hrest
  cases step with
  | resetNotForced _ _ failure =>
    obtain ⟨answer, answer', outcome, later, rfl, houtcome⟩ := steps.of_releasing hrest
    exact ⟨_, outcome, later, .cut failure answer answer', rfl, houtcome⟩
  | resetForced _ _ =>
    obtain _ | ⟨step, steps⟩ := steps
    · cases hrest
    cases step with
    | bootSelectForced _ _ forced =>
      obtain ⟨answer, answer', outcome, later, rfl, houtcome⟩ := steps.of_releasing hrest
      exact ⟨_, outcome, later, .whole forced answer answer', rfl, houtcome⟩

/-! ## Histories are ordered -/

theorem Steps.ordered (h : lifecycle.Steps .idle events rest) (hrest : AtRest books rest) :
    lifecycle.Ordered events where
  published := by
    rintro before answer later rfl
    obtain ⟨stage, next, htrail, hstep, -⟩ := h.at
    obtain ⟨pair, rfl, -⟩ := hstep.of_publish
    obtain ⟨made, hmade, past, rfl⟩ := htrail
    rw [List.append_nil] at hmade
    exact ⟨past, pair, by rw [broughtUp, hmade]⟩
  undisturbed := by
    rintro before during later rfl hduring
    obtain ⟨stage, next, -, hstep, hlater⟩ := h.at
    obtain ⟨pair, -, ⟨-, rfl⟩ | ⟨failure, hfailure, -⟩⟩ := hstep.of_publish
    · obtain ⟨middle, hmiddle, -⟩ := hlater.split
      exact hmiddle.of_isPublished rfl hduring
    · cases hfailure
  notPublished := by
    rintro before failure later rfl
    obtain ⟨stage, next, htrail, hstep, hlater⟩ := h.at
    obtain ⟨pair, rfl, ⟨hfailure, -⟩ | ⟨_, -, rfl⟩⟩ := hstep.of_publish
    · cases hfailure
    · obtain ⟨made, hmade, past, rfl⟩ := htrail
      rw [List.append_nil] at hmade
      obtain ⟨forced, outcome, rest, hforced, rfl, houtcome⟩ := hlater.of_forcing hrest
      obtain ⟨failure', rfl⟩ := houtcome rfl
      exact ⟨past, pair, forced, failure', rest, by rw [broughtUp, hmade], hforced, rfl⟩
  unpublished := by
    rintro before answer later rfl
    obtain ⟨stage, next, htrail, hstep, hlater⟩ := h.at
    obtain ⟨pair, rfl, rfl⟩ := hstep.of_unpublish
    obtain ⟨marks, hmarks, past, rfl⟩ := htrail
    obtain ⟨forced, outcome, rest, hforced, rfl, -⟩ := hlater.of_forcing hrest
    exact ⟨past, pair, marks, forced, outcome, rest, by simp, hmarks, hforced, rfl⟩
  brokenOff := by
    rintro before reset bootSelect made call failure later rfl
    obtain ⟨stage, next, htrail, hstep, hlater⟩ := h.at
    obtain _ | ⟨hstep', hlater⟩ := hlater
    -- two lines in a row can only be the two of one attachment, even if the requests are the same
    obtain ⟨rfl, rfl⟩ | ⟨_, -, rfl⟩ := hstep.of_acquire
    case inr => obtain ⟨hne, -⟩ | ⟨_, hne, -⟩ := hstep'.of_acquire <;> cases hne
    obtain ⟨hne, -⟩ | ⟨_, heq, rfl⟩ := hstep'.of_acquire
    · cases hne
    cases heq
    obtain ⟨left, hmade, hlater⟩ := hlater.of_startupCalls
    obtain _ | ⟨hstep, hlater⟩ := hlater
    obtain ⟨left, rfl, ⟨hfailure, -⟩ | ⟨_, -, rfl⟩⟩ := hstep.of_startupCall
    · cases hfailure
    obtain ⟨answer, answer', outcome, rest, rfl, houtcome⟩ := hlater.of_releasing hrest
    obtain ⟨failure', rfl⟩ := houtcome rfl
    obtain ⟨past, rfl⟩ := htrail
    exact ⟨⟨past, rfl⟩, ⟨left, by simp [hmade]⟩, answer, answer', failure', rest, rfl⟩
  inHand := by
    rintro before event later line rfl hline
    obtain ⟨stage, hbefore, hlater⟩ := h.split
    obtain _ | ⟨hstep, -⟩ := hlater
    exact ⟨stage.lines, hbefore.acquired_eq, hstep.line_mem hbefore.trail hline⟩
  inCall := by
    rintro before event later rfl hevent
    obtain ⟨stage, hbefore, hlater⟩ := h.split
    obtain _ | ⟨hstep, -⟩ := hlater
    exact hbefore.inCall (hstep.isRest_eq_false hevent)

/-- Along every course the lifecycle keeps the order, whatever its calls are answered. What is
recorded of it is what it does. -/
theorem calls_ordered {around : Surroundings W} {station : Station W L P}
    {history : List (Event L)} (hcalm : lifecycle.hardware.Calm)
    (h : lifecycle.Course around station history) :
    lifecycle.Ordered history ∧
      ∀ verb station history,
        (⟨(lifecycle.record verb (station, history)).outcome,
          (lifecycle.record verb (station, history)).world.1,
          (lifecycle.record verb (station, history)).log⟩ : Run (Station W L P) Unit) =
        lifecycle.perform verb station := by
  obtain ⟨rest, hsteps, hrest⟩ := h.settled hcalm
  exact ⟨hsteps.ordered hrest, fun verb station history => record_eq hcalm verb station history⟩

theorem calls_ordered_dryRun :
    let reset : MemoryLine := ⟨"reset-line", .activeHigh⟩
    let bootSelect : MemoryLine := ⟨"boot-select-line", .activeHigh⟩
    let history := [
      .called .attach, .acquire (dryRun []).resetRequest (.ok reset),
      .acquire (dryRun []).bootSelectRequest (.ok bootSelect), .set reset .low (.ok ()),
      .set bootSelect .high (.ok ()), .wait 50 (.ok ()), .set reset .high (.ok ()),
      .set bootSelect .low (.ok ()), .publish (.ok ()), .returned .attach (.done ()),
      .called .detach, .unpublish (.ok ()),
      .set reset .low (.ok ()), .set bootSelect .high (.ok ()),
      .release reset (.ok ()), .release bootSelect (.ok ()), .returned .detach (.done ())]
    ∃ station, (dryRun []).Course .any station history ∧ (dryRun []).Ordered history := by
  have hattach : (dryRun []).Course .any _ _ :=
    .perform .attach (.initial dryStation.world dryStation.publisher trivial) fun _ => nofun
  have hdetach := hattach.perform .detach fun _ => nofun
  exact ⟨_, hdetach, (calls_ordered (dryRun_calm (by simp)) hdetach).1⟩

end Lifecycle

end CoprocReset
