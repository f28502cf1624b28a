import CoprocReset.Proofs.Lifecycle.History
import CoprocReset.Proofs.Report

/-!
# A lifecycle recounted

`Recounts` says of a script what it leads to from a station where that much has happened and that
much has been logged: the result, the station, the history and the log have a property. There is one
rule for each way a script is put together, and one for each function that cleans up. A rule asks for
the answers of the calls in their order, each from the world that the call before has left, so it
serves those who know what the calls do to the lines as well as those who do not.
-/

namespace CoprocReset

namespace Lifecycle

variable {W L P : Type}

/-- Unless it crashes, the script leads from a station, a history and a log to a result, a station,
a history and a log with the property. -/
def Recounts {α : Type} (lifecycle : Lifecycle W L P) (script : LifecycleScript L α)
    (station : Station W L P) (past : List (Event L)) (said : Log)
    (post : Except Failure α → Station W L P → List (Event L) → Log → Prop) : Prop :=
  (lifecycle.recorded script).Reports (station, past) fun result later log =>
    post result later.1 later.2 (said ++ log)

/-- The entry that is made if a result is a failure. -/
def complaint {α : Type} (text : String) : Except Failure α → Log
  | .ok _ => []
  | .error failure => [⟨.error, text ++ failure.message⟩]

variable {lifecycle : Lifecycle W L P} {α β : Type} {station : Station W L P}
  {past : List (Event L)} {said : Log}

section Rules

variable {post : Except Failure α → Station W L P → List (Event L) → Log → Prop}

theorem recounts_finish {result : Except Failure α} (h : post result station past said) :
    lifecycle.Recounts (.finish result) station past said post := by
  rw [Recounts, recorded, Script.exec_finish, Action.reports_ofExcept]
  simpa using h

theorem recounts_bind {x : LifecycleScript L α} {f : α → LifecycleScript L β}
    {post : Except Failure β → Station W L P → List (Event L) → Log → Prop}
    (h : lifecycle.Recounts x station past said fun result station past said =>
      match result with
      | .ok value => lifecycle.Recounts (f value) station past said post
      | .error failure => post (.error failure) station past said) :
    lifecycle.Recounts (x >>= f) station past said post := by
  rw [Recounts, recorded, Script.exec_bind]
  refine Action.reports_bind (h.mono fun result later log hl => ?_)
  cases result with
  | ok value => exact hl.mono fun result later log' hpost => by rwa [List.append_assoc] at hpost
  | error failure => exact hl

theorem recounts_attempt {x : LifecycleScript L α}
    {post : Except Failure (Except Failure α) → Station W L P → List (Event L) → Log → Prop}
    (h : lifecycle.Recounts x station past said fun result => post (.ok result)) :
    lifecycle.Recounts x.attempt station past said post := by
  rw [Recounts, recorded, Script.exec_attempt]
  exact Action.reports_attempt h

theorem Recounts.mono {x : LifecycleScript L α}
    {post' : Except Failure α → Station W L P → List (Event L) → Log → Prop}
    (h : lifecycle.Recounts x station past said post)
    (himp : ∀ result station past said, post result station past said →
      post' result station past said) : lifecycle.Recounts x station past said post' :=
  Action.Reports.mono h fun _ _ _ => himp _ _ _ _

theorem recounts_ask {request : LifecycleCall L α}
    (h : (lifecycle.carryOut request).Reports station fun answer later log =>
      post answer later (past ++ entry request answer) (said ++ log)) :
    lifecycle.Recounts (Script.ask request) station past said post := by
  rw [Recounts, recorded, Script.exec_ask]
  exact Script.reports_recording h

theorem recounts_keep {action : Action (Books L) α}
    (h : action.Reports station.books fun answer later log =>
      post answer (Station.booksPart.set later station) past (said ++ log)) :
    lifecycle.Recounts (Scripted.keep action) station past said post := by
  refine recounts_ask (Action.reports_on (h.mono fun answer later log hl => ?_))
  rwa [entry, List.append_nil]

end Rules

/-! ## Rules for what a lifecycle does -/

section Functions

variable {post : Except Failure Unit → Station W L P → List (Event L) → Log → Prop}

theorem recounts_note {severity : Severity} {text : String}
    (h : post (.ok ()) station past (said ++ [⟨severity, text⟩])) :
    lifecycle.Recounts (Scripted.note severity text) station past said post :=
  recounts_keep (Action.reports_note _ _ h)

/-- What is cleaned up after a failure may fail itself. That is logged, and the first failure is
handed on. -/
theorem recounts_cleanUp {failure : Failure} {text : String} {x : LifecycleScript L Unit}
    {post : Except Failure α → Station W L P → List (Event L) → Log → Prop}
    (h : lifecycle.Recounts x station past said fun result station past said =>
      post (.error failure) station past (said ++ complaint text result)) :
    lifecycle.Recounts
      (do
        if let .error refusal ← x.attempt then
          Scripted.note .error (text ++ refusal.message)
        Script.fail failure)
      station past said post := by
  refine recounts_bind (recounts_attempt (h.mono fun result station past said hl => ?_))
  cases result with
  | ok _ =>
    rw [complaint, List.append_nil] at hl
    exact recounts_finish hl
  | error refusal => exact recounts_bind (recounts_note (recounts_finish hl))

theorem recounts_look {next : Books L → LifecycleScript L β}
    {post : Except Failure β → Station W L P → List (Event L) → Log → Prop}
    (h : lifecycle.Recounts (next station.books) station past said post) :
    lifecycle.Recounts (Scripted.keep Action.world >>= next) station past said post := by
  refine recounts_bind (recounts_keep (Action.reports_of_run (.ok station.books) rfl ?_))
  rw [Station.booksPart.set_get, List.append_nil]
  exact h

theorem recounts_setPhase {phase : Phase}
    (h : post (.ok ()) { station with phase } past said) :
    lifecycle.Recounts (Scripted.setPhase phase) station past said post := by
  refine recounts_keep (Action.reports_of_run (.ok ()) rfl ?_)
  rw [List.append_nil]
  exact h

theorem recounts_setCurrent {current : Option Handle}
    (h : post (.ok ()) { station with current } past said) :
    lifecycle.Recounts (Scripted.setCurrent current) station past said post := by
  refine recounts_keep (Action.reports_of_run (.ok ()) rfl ?_)
  rw [List.append_nil]
  exact h

theorem recounts_makeController {name : String} {pair : LinePair L}
    {post : Except Failure Handle → Station W L P → List (Event L) → Log → Prop}
    (h : post (.ok station.made)
      { station with
        controllers := Station.replace station.controllers station.made (.ofPair name pair)
        made := station.made + 1 } past said) :
    lifecycle.Recounts (Scripted.keep (Books.makeController name pair)) station past said post := by
  refine recounts_keep (Action.reports_of_run (.ok station.made) rfl ?_)
  rw [List.append_nil]
  exact h

/-- Publishing and withdrawing leaves the books as they are. -/
theorem recounts_publisher {request : LifecycleCall L Unit}
    (hrequest : request = .unpublish ∨ ∃ handle, request = .publish handle)
    (h : ∀ answer later more, later.books = station.books →
      post answer later (past ++ entry request answer) (said ++ more)) :
    lifecycle.Recounts (Script.ask request) station past said post := by
  have hentry : ∀ answer, entry request answer ≠ [] := by
    rintro answer
    obtain rfl | ⟨handle, rfl⟩ := hrequest <;> exact List.cons_ne_nil _ _
  refine recounts_ask ((carryOut_keeps_books hentry station).reports.mono ?_)
  exact fun answer later log hbooks => h answer later log hbooks

/-- A stretch of calls on a pair of lines. The lines are driven to the levels of a command. -/
theorem recounts_drive {pair : LinePair L} {command : Command}
    (h : (lifecycle.hardware.set pair.reset command.resetLevel).Reports station.world
      fun reset world log =>
        match reset with
        | .error failure => post (.error failure) { station with world }
            (past ++ [.set pair.reset command.resetLevel (.error failure)]) (said ++ log)
        | .ok _ => (lifecycle.hardware.set pair.bootSelect command.bootSelectLevel).Reports world
            fun bootSelect world log' => post bootSelect { station with world }
              (past ++ [.set pair.reset command.resetLevel (.ok ())] ++
                [.set pair.bootSelect command.bootSelectLevel bootSelect]) (said ++ log ++ log')) :
    lifecycle.Recounts (Scripted.drive pair command) station past said post := by
  refine recounts_bind (recounts_ask (Action.reports_on (h.mono fun reset world log hl => ?_)))
  cases reset with
  | error failure => exact hl
  | ok _ => exact recounts_ask (Action.reports_on hl)

/-- Both lines are released, even if the first release fails. -/
theorem recounts_release {pair : LinePair L}
    (h : (lifecycle.hardware.release pair.reset).Reports station.world fun reset world log =>
      (lifecycle.hardware.release pair.bootSelect).Reports world fun bootSelect world log' =>
        post (reset >>= fun () => bootSelect) { station with world }
          (past ++ [.release pair.reset reset] ++ [.release pair.bootSelect bootSelect])
          (said ++ log ++ log' ++ complaint "Failed to release boot-select line: " bootSelect)) :
    lifecycle.Recounts (Scripted.release pair) station past said post := by
  refine recounts_bind (recounts_attempt (recounts_ask (Action.reports_on ?_)))
  refine h.mono fun reset world log hreset => ?_
  refine recounts_bind (recounts_attempt (recounts_ask (Action.reports_on ?_)))
  refine hreset.mono fun bootSelect world log' hl => ?_
  cases bootSelect with
  | error failure => exact recounts_bind (recounts_note (recounts_finish hl))
  | ok _ => exact recounts_finish (by rwa [complaint, List.append_nil] at hl)

/-- The controller is without lines after it was torn down. If it was before, no call is made. -/
theorem recounts_tearDown {handle : Handle} {name : String} {pair : LinePair L}
    (hholding : station.controllers handle = ⟨name, .holding pair⟩)
    (h : lifecycle.Recounts (Scripted.drive pair .hold)
      { station with controllers := Station.replace station.controllers handle ⟨name, .vacant⟩ }
      past said fun forced station past said =>
        lifecycle.Recounts (Scripted.release pair) station past
          (said ++ complaint ("Failed to force " ++ name ++ " into reset: ") forced ++
            [⟨.info, name ++ " is now under reset and cannot be used"⟩]) post) :
    lifecycle.Recounts (Scripted.tearDown handle) station past said post := by
  have htake : Books.takePair handle station.books = ⟨.done (name, pair),
      { station.books with
        controllers := Station.replace station.controllers handle ⟨name, .vacant⟩ }, []⟩ := by
    simp only [Books.takePair, show station.books.controllers handle = _ from hholding]
    rfl
  refine recounts_bind (recounts_bind (recounts_keep ?_))
  refine Action.reports_of_run (.ok (name, pair)) htake ?_
  refine recounts_bind (recounts_attempt ?_)
  rw [List.append_nil]
  refine h.mono fun forced station past said hl => ?_
  cases forced with
  | error failure =>
    exact recounts_bind (recounts_note (recounts_bind (recounts_note (recounts_finish hl))))
  | ok _ =>
    rw [complaint, List.append_nil] at hl
    exact recounts_bind (recounts_note (recounts_finish hl))

end Functions

/-! ## Starting up -/

/-- The call of a lifecycle. -/
def StartupCall.request : StartupCall L → LifecycleCall L Unit
  | .set line level => .set line level
  | .wait ms => .wait ms

/-- What the call does with the lines. -/
def StartupCall.action (hw : Hardware W L) : StartupCall L → Action W Unit
  | .set line level => hw.set line level
  | .wait ms => hw.wait ms

theorem recounts_startupCall {call : StartupCall L}
    {post : Except Failure Unit → Station W L P → List (Event L) → Log → Prop}
    (h : (call.action lifecycle.hardware).Reports station.world fun answer world log =>
      post answer { station with world } (past ++ [call.event answer]) (said ++ log)) :
    lifecycle.Recounts (Script.ask call.request) station past said post := by
  cases call with
  | set line level => exact recounts_ask (Action.reports_on h)
  | wait ms => exact recounts_ask (Action.reports_on h)

/-- A startup makes its calls in their order up to the first that fails. What is known of the world
may depend on the calls that were made. -/
theorem recounts_startUp {pair : LinePair L} (known : List (StartupCall L) → W → Prop)
    {post : Except Failure Unit → Station W L P → List (Event L) → Log → Prop}
    (hbegin : known [] station.world)
    (hcall : ∀ made call left world,
      startupCalls lifecycle.target.settle pair = made ++ call :: left → known made world →
      (call.action lifecycle.hardware).Reports world fun answer later _ =>
        match answer with
        | .ok _ => known (made ++ [call]) later
        | .error failure => ∀ more, post (.error failure) { station with world := later }
            (past ++ (made.map (StartupCall.event (.ok ())) ++ [call.event (.error failure)]))
            (said ++ more))
    (hdone : ∀ world more, known (startupCalls lifecycle.target.settle pair) world →
      post (.ok ()) { station with world }
        (past ++ (startupCalls lifecycle.target.settle pair).map (StartupCall.event (.ok ())))
        (said ++ more)) :
    lifecycle.Recounts (Scripted.startUp lifecycle pair) station past said post := by
  -- where a script goes on from, once that many calls were made
  let After (made : List (StartupCall L)) (next : LifecycleScript L Unit) : Prop :=
    ∀ world more, known made world →
      lifecycle.Recounts next { station with world }
        (past ++ made.map (StartupCall.event (.ok ()))) (said ++ more) post
  have hnote {made : List (StartupCall L)} {severity : Severity} {text : String}
      {next : LifecycleScript L Unit} (h : After made next) :
      After made (Scripted.note severity text >>= fun _ => next) := by
    intro world more hknown
    refine recounts_bind (recounts_note ?_)
    rw [List.append_assoc]
    exact h world _ hknown
  have hmade (call : StartupCall L) {made left : List (StartupCall L)}
      {next : LifecycleScript L Unit}
      (hsplit : startupCalls lifecycle.target.settle pair = made ++ call :: left)
      (h : After (made ++ [call]) next) :
      After made (Script.ask call.request >>= fun _ => next) := by
    intro world more hknown
    refine recounts_bind (recounts_startupCall ?_)
    refine (hcall made call left world hsplit hknown).mono fun answer world log hl => ?_
    rw [List.append_assoc, List.append_assoc]
    cases answer with
    | error failure => exact hl _
    | ok _ => simpa using h world (more ++ log) hl
  suffices After [] (Scripted.startUp lifecycle pair) by
    simpa using this station.world [] hbegin
  have hend : After (startupCalls lifecycle.target.settle pair)
      (Scripted.note .info "Reset sequence finished, device can now be used") := by
    intro world more hknown
    refine recounts_note ?_
    rw [List.append_assoc]
    exact hdone world _ hknown
  simp only [Scripted.startUp, Scripted.drive, bind_assoc]
  refine hnote (hnote (hmade (.set pair.reset .low) rfl ?_))
  refine hmade (.set pair.bootSelect .high) rfl (hnote ?_)
  refine hmade (.wait lifecycle.target.settle.least) rfl (hnote ?_)
  exact hmade (.set pair.reset .high) rfl (hmade (.set pair.bootSelect .low) rfl hend)

/-! ## Making known -/

/-- A controller is made and published. It still has its lines when they have to be taken down because
publishing failed. -/
theorem recounts_announce {pair : LinePair L}
    {post : Except Failure Handle → Station W L P → List (Event L) → Log → Prop}
    (hdone : ∀ later more,
      post (.ok station.made) later (past ++ [.publish (.ok ())]) (said ++ more))
    (hfailed : ∀ failure later more,
      later.controllers station.made = ⟨lifecycle.target.attributeName, .holding pair⟩ →
      lifecycle.Recounts (Scripted.tearDown station.made) later
        (past ++ [.publish (.error failure)]) (said ++ more) fun result later past said =>
          post (.error failure) later past
            (said ++ complaint "Teardown after failed publish failed: " result)) :
    lifecycle.Recounts
      (do
        let handle ← Scripted.keep (Books.makeController lifecycle.target.attributeName pair)
        if let .error failure ← (Script.ask (.publish handle)).attempt then
          if let .error refusal ← (Scripted.tearDown handle).attempt then
            Scripted.note .error ("Teardown after failed publish failed: " ++ refusal.message)
          Script.fail failure
        return handle)
      station past said post := by
  refine recounts_bind (recounts_makeController ?_)
  refine recounts_bind (recounts_attempt (recounts_publisher (.inr ⟨_, rfl⟩) ?_))
  intro published later more hbooks
  cases published with
  | ok _ => exact recounts_finish (hdone later more)
  | error failure =>
    have hcontroller : later.controllers station.made =
        Station.replace station.controllers station.made
          (.ofPair lifecycle.target.attributeName pair) station.made :=
      congrFun (congrArg Books.controllers hbooks) _
    exact recounts_cleanUp (hfailed failure later more (hcontroller.trans (Station.replace_same ..)))

end Lifecycle

end CoprocReset
