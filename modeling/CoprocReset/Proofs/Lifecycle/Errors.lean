import CoprocReset.Proofs.Lifecycle.Order
import CoprocReset.Proofs.Lifecycle.Recount

/-!
# What becomes of failures

Several calls of one attachment or detachment may fail, and only one failure can be handed on.
`Accounted` says that every failure is to be handed on or in the log. Each function of a lifecycle
keeps it, with the failure of its own result among those to be handed on (`accounted_release`,
`accounted_tearDown`, `accounted_bringUp`). So no failure is lost, and what is handed on is the first
failure of an attachment, whatever fails while it is cleaned up (`failuresKept`).
-/

namespace CoprocReset

/-- The failure of a result. -/
def Failure.of? {α : Type} : Except Failure α → Option Failure
  | .ok _ => none
  | .error failure => some failure

namespace Lifecycle

variable {W L P : Type}

/-- The failure of a call. -/
def Event.failure? : Event L → Option Failure
  | .acquire _ answer => Failure.of? answer
  | .set _ _ answer | .wait _ answer | .release _ answer | .publish answer | .unpublish answer =>
    Failure.of? answer
  | .called _ | .returned _ _ => none

/-- The words of the failure are in an entry about an error. -/
def Logged (log : Log) (failure : Failure) : Prop :=
  ∃ entry ∈ log, entry.severity = .error ∧ failure.message.toList <:+: entry.text.toList

/-- Every failure of a call is in a list of those that are to be handed on, or it is in the log. -/
def Accounted (pending : List Failure) (events : List (Event L)) (log : Log) : Prop :=
  ∀ event ∈ events, ∀ failure, event.failure? = some failure →
    failure ∈ pending ∨ Logged log failure

/-- What is recorded of an attachment up to its first failure: the lines are acquired, the startup
makes its calls, and the attribute is published. -/
inductive BrokenOff (lifecycle : Lifecycle W L P) (failure : Failure) : List (Event L) → Prop
  | reset : BrokenOff lifecycle failure
      [.called .attach, .acquire lifecycle.resetRequest (.error failure)]
  | bootSelect (reset : L) : BrokenOff lifecycle failure
      [.called .attach, .acquire lifecycle.resetRequest (.ok reset),
        .acquire lifecycle.bootSelectRequest (.error failure)]
  | startUp {pair : LinePair L} {made left : List (StartupCall L)} {call : StartupCall L}
    (h : startupCalls lifecycle.target.settle pair = made ++ call :: left) :
    BrokenOff lifecycle failure
      ([.called .attach, .acquire lifecycle.resetRequest (.ok pair.reset),
        .acquire lifecycle.bootSelectRequest (.ok pair.bootSelect)] ++
        (made.map (StartupCall.event (.ok ())) ++ [call.event (.error failure)]))
  | publish (pair : LinePair L) : BrokenOff lifecycle failure
      (lifecycle.broughtUp pair ++ [.publish (.error failure)])

/-- What is recorded of a detachment, with what it comes back with: of the failures of its calls that
of the reset line's release counts first, then that of the boot-select line's release, and that of
the attribute last. -/
inductive TakenDown (pair : LinePair L) : Except Failure Unit → List (Event L) → Prop
  | mk (unpublished : Except Failure Unit) (forced : List (Event L))
    (reset bootSelect : Except Failure Unit)
    (h : ForcedAndReleased pair
      (forced ++ [.release pair.reset reset, .release pair.bootSelect bootSelect])) :
    TakenDown pair (reset >>= fun () => bootSelect >>= fun () => unpublished)
      ([.called .detach, .unpublish unpublished] ++
        (forced ++ [.release pair.reset reset, .release pair.bootSelect bootSelect]))

/-- What becomes of the failures of a lifecycle's calls, from what it comes back with. -/
structure FailuresKept (lifecycle : Lifecycle W L P) (verb : Verb) (station : Station W L P)
    (result : Except Failure Unit) (events : List (Event L)) (log : Log) : Prop where
  /-- Every failure is handed on or logged. -/
  kept : ∀ event ∈ events, ∀ failure, event.failure? = some failure →
    result = .error failure ∨ Logged log failure
  /-- In the wrong phase no call is made, so none can fail. -/
  refused : station.phase ≠ verb.phase →
    result = .error (lifecycle.outOfPhase verb.name station.phase) ∧
      events = [.called verb, .returned verb (.ofExcept result)]
  /-- An attachment hands on its first failure. -/
  attach : verb = .attach → station.phase = .unattached → ∀ failure, result = .error failure →
    ∃ cut rest, events = cut ++ rest ∧ lifecycle.BrokenOff failure cut
  /-- A detachment hands on the first of the failures to release the lines and to take the attribute
  away. -/
  detach : verb = .detach → station.phase = .attached →
    ∃ pair calls, events = calls ++ [.returned .detach (.ofExcept result)] ∧
      TakenDown pair result calls

/-! ## Accounts -/

section Accounts

variable {α : Type} {pending : List Failure} {events : List (Event L)} {log : Log}
  {failure : Failure}

theorem Logged.append (h : Logged log failure) (more : Log) : Logged (log ++ more) failure := by
  obtain ⟨entry, hentry, herror⟩ := h
  exact ⟨entry, List.mem_append_left _ hentry, herror⟩

theorem logged_complaint (log : Log) (text : String) (failure : Failure) :
    Logged (log ++ complaint text (.error failure : Except Failure α)) failure := by
  refine ⟨⟨.error, text ++ failure.message⟩, by simp [complaint], rfl, ?_⟩
  rw [String.toList_append]
  exact (List.suffix_append _ _).isInfix

theorem Accounted.mono {pending' : List Failure} (h : Accounted pending events log)
    (hsub : pending ⊆ pending') : Accounted pending' events log :=
  fun event hevent failure hfailure => (h event hevent failure hfailure).imp_left (@hsub failure)

theorem Accounted.append (h : Accounted pending events log) (more : Log) :
    Accounted pending events (log ++ more) :=
  fun event hevent failure hfailure => (h event hevent failure hfailure).imp_right (·.append more)

/-- The failure of a call is to be handed on. -/
theorem Accounted.call (h : Accounted pending events log) (event : Event L) (more : Log) :
    Accounted (event.failure?.toList ++ pending) (events ++ [event]) (log ++ more) := by
  intro event' hevent failure hfailure
  rcases List.mem_append.1 hevent with hmem | hmem
  · exact ((h.append more).mono (List.subset_append_right _ _)) event' hmem failure hfailure
  · obtain rfl := List.mem_singleton.1 hmem
    exact .inl (by simp [hfailure])

/-- Calls that do not fail leave nothing to hand on. -/
theorem Accounted.calls {later : List (Event L)} (h : Accounted pending events log)
    (hlater : ∀ event ∈ later, event.failure? = none) (more : Log) :
    Accounted pending (events ++ later) (log ++ more) := by
  intro event hevent failure hfailure
  rcases List.mem_append.1 hevent with hmem | hmem
  · exact h.append more event hmem failure hfailure
  · simp [hlater event hmem] at hfailure

/-- A failure that was logged does not have to be handed on. -/
theorem Accounted.complaint (answer : Except Failure α)
    (h : Accounted ((Failure.of? answer).toList ++ pending) events log) (text : String) :
    Accounted pending events (log ++ complaint text answer) := by
  intro event hevent failure hfailure
  rcases h event hevent failure hfailure with hmem | hlogged
  · cases answer with
    | ok _ => exact .inl hmem
    | error failure' =>
      obtain rfl | hmem := List.mem_cons.1 hmem
      · exact .inr (logged_complaint log text failure)
      · exact .inl hmem
  · exact .inr (hlogged.append _)

theorem failure?_startupCall (call : StartupCall L) (answer : Except Failure Unit) :
    (call.event answer).failure? = Failure.of? answer := by
  cases call <;> rfl

theorem failure?_made (made : List (StartupCall L)) :
    ∀ event ∈ made.map (StartupCall.event (.ok ())), event.failure? = none := by
  simp [failure?_startupCall, Failure.of?]

end Accounts

/-! ## The functions of a lifecycle -/

section Functions

variable {lifecycle : Lifecycle W L P} {station : Station W L P} {past : List (Event L)} {said : Log}
  {pending : List Failure} {pair : LinePair L}

theorem accounted_release {post : Except Failure Unit → Station W L P → List (Event L) → Log → Prop}
    (hpast : Accounted pending past said)
    (h : ∀ reset bootSelect later said, later.books = station.books →
      Accounted ((Failure.of? (reset >>= fun () => bootSelect)).toList ++ pending)
        (past ++ [.release pair.reset reset, .release pair.bootSelect bootSelect]) said →
      post (reset >>= fun () => bootSelect) later
        (past ++ [.release pair.reset reset, .release pair.bootSelect bootSelect]) said) :
    lifecycle.Recounts (Scripted.release pair) station past said post := by
  refine recounts_release (Action.reports_of_forall fun reset world log => ?_)
  refine Action.reports_of_forall fun bootSelect world log' => ?_
  have hcalls := (hpast.call (.release pair.reset reset) log).call
    (.release pair.bootSelect bootSelect) log'
  have hlogged := hcalls.complaint bootSelect "Failed to release boot-select line: "
  rw [List.append_assoc] at hlogged
  rw [List.append_assoc]
  refine h reset bootSelect _ _ rfl ?_
  cases reset with
  | error failure => exact hlogged
  | ok _ => exact hlogged.mono (List.subset_append_right _ _)

theorem accounted_tearDown {handle : Handle} {name : String}
    {post : Except Failure Unit → Station W L P → List (Event L) → Log → Prop}
    (hholding : station.controllers handle = ⟨name, .holding pair⟩)
    (hpast : Accounted pending past said)
    (h : ∀ forced reset bootSelect later said,
      ForcedAndReleased pair
        (forced ++ [.release pair.reset reset, .release pair.bootSelect bootSelect]) →
      Accounted ((Failure.of? (reset >>= fun () => bootSelect)).toList ++ pending)
        (past ++ (forced ++ [.release pair.reset reset, .release pair.bootSelect bootSelect]))
        said →
      post (reset >>= fun () => bootSelect) later
        (past ++ (forced ++ [.release pair.reset reset, .release pair.bootSelect bootSelect]))
        said) :
    lifecycle.Recounts (Scripted.tearDown handle) station past said post := by
  refine recounts_tearDown hholding (recounts_drive ?_)
  refine Action.reports_of_forall fun reset world log => ?_
  have hreset := hpast.call (.set pair.reset .low reset) log
  cases reset with
  | error failure =>
    have hlogged := (hreset.complaint (.error failure : Except Failure Unit)
      ("Failed to force " ++ name ++ " into reset: ")).append
      [⟨.info, name ++ " is now under reset and cannot be used"⟩]
    refine accounted_release hlogged fun reset bootSelect later said _ hl => ?_
    rw [List.append_assoc] at hl ⊢
    exact h _ reset bootSelect later said (.cut failure reset bootSelect) hl
  | ok _ =>
    refine Action.reports_of_forall fun bootSelect world log' => ?_
    have hlogged := ((hreset.call (.set pair.bootSelect .high bootSelect) log').complaint bootSelect
      ("Failed to force " ++ name ++ " into reset: ")).append
      [⟨.info, name ++ " is now under reset and cannot be used"⟩]
    refine accounted_release hlogged fun reset bootSelect' later said _ hl => ?_
    rw [List.append_assoc, List.append_assoc] at hl ⊢
    exact h [_, _] reset bootSelect' later said (.whole bootSelect reset bootSelect') hl

/-- Either both lines are acquired, or the first failure to acquire one is handed on. -/
theorem accounted_acquireLines
    {post : Except Failure (LinePair L) → Station W L P → List (Event L) → Log → Prop}
    (hpast : Accounted [] [(.called .attach : Event L)] said)
    (hfailed : ∀ failure later cut rest said, lifecycle.BrokenOff failure cut →
      Accounted [failure] (cut ++ rest) said → post (.error failure) later (cut ++ rest) said)
    (hdone : ∀ pair later said, later.books = station.books →
      Accounted [] [.called .attach, .acquire lifecycle.resetRequest (.ok pair.reset),
        .acquire lifecycle.bootSelectRequest (.ok pair.bootSelect)] said →
      post (.ok pair) later [.called .attach, .acquire lifecycle.resetRequest (.ok pair.reset),
        .acquire lifecycle.bootSelectRequest (.ok pair.bootSelect)] said) :
    lifecycle.Recounts (Scripted.acquireLines lifecycle) station [.called .attach] said post := by
  refine recounts_bind (recounts_ask (Action.reports_on ?_))
  refine Action.reports_of_forall fun reset world log => ?_
  have hreset := hpast.call (.acquire lifecycle.resetRequest reset) log
  cases reset with
  | error failure => exact hfailed failure _ _ [] _ .reset hreset
  | ok reset =>
    refine recounts_bind (recounts_attempt (recounts_ask (Action.reports_on ?_)))
    refine Action.reports_of_forall fun bootSelect world log' => ?_
    have hboth := hreset.call (.acquire lifecycle.bootSelectRequest bootSelect) log'
    cases bootSelect with
    | ok bootSelect => exact recounts_finish (hdone ⟨reset, bootSelect⟩ _ _ rfl hboth)
    | error failure =>
      refine recounts_cleanUp (recounts_ask (Action.reports_on ?_))
      refine Action.reports_of_forall fun answer world log'' => ?_
      have hreleased := hboth.call (.release reset answer) log''
      exact hfailed failure _ _ [_] _ (.bootSelect reset) (hreleased.complaint _ _)

/-- Either the attribute is published, or the first failure on the way there is handed on. -/
theorem accounted_bringUp
    {post : Except Failure Handle → Station W L P → List (Event L) → Log → Prop}
    (hpast : Accounted [] [(.called .attach : Event L)] said)
    (hfailed : ∀ failure later cut rest said, lifecycle.BrokenOff failure cut →
      Accounted [failure] (cut ++ rest) said → post (.error failure) later (cut ++ rest) said)
    (hdone : ∀ handle later pair said,
      Accounted [] (lifecycle.broughtUp pair ++ [.publish (.ok ())]) said →
      post (.ok handle) later (lifecycle.broughtUp pair ++ [.publish (.ok ())]) said) :
    lifecycle.Recounts (Scripted.bringUp lifecycle) station [.called .attach] said post := by
  refine recounts_bind (accounted_acquireLines hpast hfailed fun pair acquired said _ hlines => ?_)
  refine recounts_bind (recounts_attempt (recounts_startUp (fun _ _ => True) trivial
    (fun made call left world hsplit _ => ?_) fun world more _ => ?_))
  · refine Action.reports_of_forall fun answer later log => ?_
    cases answer with
    | ok _ => trivial
    | error failure =>
      intro more
      have hcalls := (hlines.calls (failure?_made made) []).call (call.event (.error failure)) more
      rw [failure?_startupCall, List.append_nil, List.append_nil, List.append_assoc] at hcalls
      refine recounts_cleanUp (accounted_release hcalls ?_)
      intro reset bootSelect later said _ hreleased
      exact hfailed failure later _ _ _ (.startUp hsplit) (hreleased.complaint _ _)
  · have hcalls := hlines.calls (failure?_made (startupCalls lifecycle.target.settle pair)) more
    refine recounts_announce (fun later more' => ?_) fun failure later more' hholding => ?_
    · exact hdone _ _ pair _ (hcalls.call (.publish (.ok ())) more')
    · refine accounted_tearDown hholding (hcalls.call (.publish (.error failure)) more') ?_
      intro forced reset bootSelect later said _ hreleased
      exact hfailed failure later _ _ _ (.publish pair) (hreleased.complaint _ _)

/-- What an attachment hands on is its first failure, and the others are in the log. -/
theorem accounted_attach (hphase : station.phase = .unattached) :
    lifecycle.Recounts (lifecycle.script .attach) station [.called .attach] []
      fun result _ events log =>
        Accounted (Failure.of? result).toList events log ∧
          ∀ failure, result = .error failure →
            ∃ cut rest, events = cut ++ rest ∧ lifecycle.BrokenOff failure cut := by
  have hbooks : station.books.phase = .unattached := hphase
  have hbegin : Accounted [] [(.called .attach : Event L)] [] := by simp [Accounted, Event.failure?]
  refine recounts_bind (recounts_look ?_)
  simp only [hbooks, ne_eq, not_true_eq_false, if_false]
  refine recounts_bind (recounts_note (recounts_bind (recounts_setPhase ?_)))
  refine recounts_bind (recounts_attempt (accounted_bringUp (hbegin.append _) ?_ ?_))
  · intro failure later cut rest said hcut hrest
    refine recounts_bind (recounts_note (recounts_bind (recounts_setPhase (recounts_finish ?_))))
    refine ⟨hrest.append _, ?_⟩
    rintro _ ⟨⟩
    exact ⟨cut, rest, rfl, hcut⟩
  · intro handle later pair said hcalls
    refine recounts_bind (recounts_setCurrent (recounts_bind (recounts_setPhase ?_)))
    refine recounts_bind (recounts_note (recounts_finish (recounts_finish ?_)))
    exact ⟨hcalls.append _, nofun⟩

/-- What a detachment does not hand on is in the log. -/
theorem accounted_detach {handle : Handle} {name : String} (hphase : station.phase = .attached)
    (hcurrent : station.current = some handle)
    (hholding : station.controllers handle = ⟨name, .holding pair⟩) :
    lifecycle.Recounts (lifecycle.script .detach) station [.called .detach] []
      fun result _ events log =>
        Accounted (Failure.of? result).toList events log ∧ TakenDown pair result events := by
  have hbooks : station.books.phase = .attached := hphase
  have hbegin : Accounted [] [(.called .detach : Event L)] [] := by simp [Accounted, Event.failure?]
  refine recounts_look ?_
  simp only [hbooks, ne_eq, not_true_eq_false, if_false]
  refine recounts_bind (recounts_note (recounts_bind (recounts_setPhase ?_)))
  refine recounts_bind (recounts_attempt (recounts_publisher (.inl rfl) ?_))
  intro unpublished withdrawn more hwithdrawn
  -- what is left to do once the failure to take the attribute away is in the log
  have hdismiss : ∀ said,
      Accounted [] [(.called .detach : Event L), .unpublish unpublished] said →
      lifecycle.Recounts (do
          let released ← (Scripted.dismiss lifecycle).attempt
          Scripted.setPhase .unattached
          Scripted.note .info (lifecycle.target.attributeName ++ " detached")
          Script.finish (released >>= fun () => unpublished))
        withdrawn [.called .detach, .unpublish unpublished] said
        fun result _ events log =>
          Accounted (Failure.of? result).toList events log ∧ TakenDown pair result events := by
    intro said hsaid
    have hcurrent' : withdrawn.books.current = some handle :=
      (congrArg Books.current hwithdrawn).trans hcurrent
    have hholding' : withdrawn.controllers handle = ⟨name, .holding pair⟩ :=
      (congrFun (congrArg Books.controllers hwithdrawn) handle).trans hholding
    refine recounts_bind (recounts_attempt (recounts_look ?_))
    simp only [hcurrent']
    refine recounts_bind (recounts_setCurrent (accounted_tearDown (by exact hholding') hsaid ?_))
    intro forced reset bootSelect later said hforced hreleased
    refine recounts_bind (recounts_setPhase (recounts_bind (recounts_note (recounts_finish ?_))))
    rw [bind_assoc]
    refine ⟨(hreleased.append _).mono ?_, .mk unpublished forced reset bootSelect hforced⟩
    cases reset <;> cases bootSelect <;> simp [bind, Except.bind, Failure.of?]
  have hcalled := (hbegin.append
    [⟨.info, lifecycle.target.attributeName ++ " detach started"⟩]).call (.unpublish unpublished) more
  have hlogged := hcalled.complaint unpublished
    ("Failed to unpublish " ++ lifecycle.target.attributeName ++ ": ")
  cases unpublished with
  | error failure => exact recounts_bind (recounts_note (hdismiss _ hlogged))
  | ok _ =>
    rw [complaint, List.append_nil] at hlogged
    exact hdismiss _ hlogged

end Functions

/-! ## Attachments and detachments -/

variable {lifecycle : Lifecycle W L P} {station : Station W L P}

/-- What holds of a script is put down with the call and its return. -/
theorem Recounts.record {verb : Verb}
    {post : Except Failure Unit → Station W L P → List (Event L) → Log → Prop}
    (h : lifecycle.Recounts (lifecycle.script verb) station [.called verb] [] post)
    {result : Except Failure Unit}
    (hresult : (lifecycle.record verb (station, [])).outcome = .ofExcept result) :
    ∃ events, (lifecycle.record verb (station, [])).world.2 =
        events ++ [.returned verb (.ofExcept result)] ∧
      post result (lifecycle.record verb (station, [])).world.1 events
        (lifecycle.record verb (station, [])).log := by
  let run := lifecycle.recorded (lifecycle.script verb) (station, [.called verb])
  have hrun : run.outcome = .ofExcept result := hresult
  refine ⟨run.world.2, ?_, h result run.world run.log ?_⟩
  · rw [← hrun]
    rfl
  · rw [← hrun]

/-- What was accounted for with its result is handed on or logged. -/
theorem Accounted.kept {verb : Verb} {result : Except Failure Unit} {events : List (Event L)}
    {log : Log} (h : Accounted (Failure.of? result).toList events log) :
    ∀ event ∈ events ++ [.returned verb (.ofExcept result)], ∀ failure,
      event.failure? = some failure → result = .error failure ∨ Logged log failure := by
  intro event hevent failure hfailure
  rcases List.mem_append.1 hevent with hmem | hmem
  · refine (h event hmem failure hfailure).imp_left fun hpending => ?_
    cases result with
    | ok _ => cases hpending
    | error failure' => rw [List.mem_singleton.1 hpending]
  · obtain rfl := List.mem_singleton.1 hmem
    cases hfailure

theorem FailuresKept.of_refused {verb : Verb} (hphase : station.phase ≠ verb.phase) (log : Log) :
    lifecycle.FailuresKept verb station (.error (lifecycle.outOfPhase verb.name station.phase))
      [.called verb, .returned verb (.failed (lifecycle.outOfPhase verb.name station.phase))]
      log where
  kept := by simp [Event.failure?]
  refused _ := ⟨rfl, rfl⟩
  attach := by
    rintro rfl hunattached
    exact absurd hunattached hphase
  detach := by
    rintro rfl hattached
    exact absurd hattached hphase

theorem FailuresKept.of_attach {result : Except Failure Unit}
    (hphase : station.phase = .unattached)
    (hresult : (lifecycle.record .attach (station, [])).outcome = .ofExcept result) :
    lifecycle.FailuresKept .attach station result (lifecycle.record .attach (station, [])).world.2
      (lifecycle.record .attach (station, [])).log := by
  obtain ⟨calls, hevents, hkept, hcut⟩ := (accounted_attach hphase).record hresult
  rw [hevents]
  constructor
  · exact hkept.kept
  · exact fun hne => absurd hphase hne
  · intro _ _ failure hfailure
    obtain ⟨cut, rest, rfl, hbroken⟩ := hcut failure hfailure
    exact ⟨cut, _, List.append_assoc .., hbroken⟩
  · rintro ⟨⟩

theorem FailuresKept.of_detach {handle : Handle} {name : String} {pair : LinePair L}
    {result : Except Failure Unit} (hphase : station.phase = .attached)
    (hcurrent : station.current = some handle)
    (hholding : station.controllers handle = ⟨name, .holding pair⟩)
    (hresult : (lifecycle.record .detach (station, [])).outcome = .ofExcept result) :
    lifecycle.FailuresKept .detach station result (lifecycle.record .detach (station, [])).world.2
      (lifecycle.record .detach (station, [])).log := by
  obtain ⟨calls, hevents, hkept, hdown⟩ :=
    (accounted_detach hphase hcurrent hholding).record hresult
  rw [hevents]
  constructor
  · exact hkept.kept
  · exact fun hne => absurd hphase hne
  · rintro ⟨⟩
  · exact fun _ _ => ⟨_, calls, rfl, hdown⟩

/-- No failure of a call is lost, and none takes the place of an earlier one. -/
theorem failuresKept (hcalm : lifecycle.hardware.Calm) {around : Surroundings W}
    (h : lifecycle.Reachable around station) (verb : Verb)
    (hdone : ∀ message, (lifecycle.perform verb station).outcome ≠ .crashed message) :
    ∃ result later log events,
      lifecycle.perform verb station = ⟨.ofExcept result, later, log⟩ ∧
      lifecycle.record verb (station, []) = ⟨.ofExcept result, (later, events), log⟩ ∧
      lifecycle.FailuresKept verb station result events log := by
  obtain ⟨history, hcourse⟩ := h.course hcalm
  obtain ⟨rest, -, hrest⟩ := hcourse.settled hcalm
  have hperform := record_eq hcalm verb station []
  rcases hrun : lifecycle.record verb (station, []) with ⟨outcome, ⟨later, events⟩, log⟩
  rw [hrun] at hperform
  obtain ⟨result, rfl⟩ | ⟨message, rfl⟩ := outcome.answered_or_crashed
  case inr => exact absurd (congrArg Run.outcome hperform).symm (hdone message)
  refine ⟨result, later, log, events, hperform.symm, rfl, ?_⟩
  by_cases hphase : station.phase = verb.phase
  case neg =>
    rw [record_refused lifecycle [] hphase] at hrun
    obtain ⟨hresult, hworld, -⟩ := Run.mk.inj hrun
    obtain rfl : .error _ = result := Outcome.ofExcept_inj.1 hresult
    obtain ⟨-, rfl⟩ := Prod.mk.inj hworld
    exact .of_refused hphase log
  case pos =>
    have hresult : (lifecycle.record verb (station, [])).outcome = .ofExcept result := by rw [hrun]
    cases verb with
    | attach =>
      have hkept := FailuresKept.of_attach hphase hresult
      rwa [hrun] at hkept
    | detach =>
      cases hrest with
      | unattached hunattached => exact absurd (hunattached.symm.trans hphase) (by decide)
      | attached _ hcurrent hholding =>
        have hkept := FailuresKept.of_detach hphase hcurrent hholding hresult
        rwa [hrun] at hkept

/-- The startup fails, and then both releases do: the failure of the startup is handed on. -/
theorem failuresKept_dryRun :
    let faulty := dryRun [⟨"boot-select-line", .set, 1, false⟩, ⟨"reset-line", .release, 1, false⟩,
      ⟨"boot-select-line", .release, 1, false⟩]
    let failure := Failure.internal ("injected " ++ "set" ++ " failure on " ++ "boot-select-line")
    faulty.Reachable .any dryStation ∧
      ∃ later log events,
        faulty.record .attach (dryStation, []) = ⟨.failed failure, (later, events), log⟩ ∧
        (events.filterMap Event.failure?).length = 3 ∧
        faulty.FailuresKept .attach dryStation (.error failure) events log := by
  intro faulty failure
  have hreachable : faulty.Reachable .any dryStation :=
    .initial dryStation.world dryStation.publisher trivial
  obtain ⟨result, later, log, events, -, hrecord, hkept⟩ :=
    failuresKept (dryRun_calm (by simp)) hreachable .attach fun _ => nofun
  have houtcome : (faulty.record .attach (dryStation, [])).outcome = .failed failure := rfl
  rw [hrecord] at houtcome
  obtain rfl : result = .error failure := Outcome.ofExcept_inj.1 houtcome
  refine ⟨hreachable, later, log, events, hrecord, ?_, hkept⟩
  have hcount : ((faulty.record .attach (dryStation, [])).world.2.filterMap
    Event.failure?).length = 3 := by decide +kernel
  rwa [hrecord] at hcount

end Lifecycle

end CoprocReset
