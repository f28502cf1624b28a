import CoprocReset.Proofs.Controller.Shared
import CoprocReset.Proofs.Line.Driven
import CoprocReset.Proofs.Station

/-!
# What a controller answers

A controller that has its lines answers a request from the levels of the lines, and a command leaves
its own levels on them. `Request.answer` and `Request.leaves` say so without a line in sight;
reliable lines bear it out, for the controller alone (`delivers_request`) and for the controller at a
station (`request_answers`). A controller without lines has one answer to every operation, and does
nothing (`exec_refused`).
-/

namespace CoprocReset

namespace Request

variable {α : Type}

/-- What a request is answered while the lines are at the levels. -/
def answer : Request α → Level × Level → Except Failure α
  | .read, levels => .ok (.classify levels.1 levels.2)
  | .content, levels => .ok (toString (LogicalState.classify levels.1 levels.2).code ++ "\n")
  | .write _, _ => .ok ()
  | .store input, _ => (Command.parse input).map fun _ => input.utf8ByteSize

/-- The command that a request carries out, if it carries one out. -/
def command? : Request α → Option Command
  | .write command => some command
  | .store input => (Command.parse input).toOption
  | .read | .content => none

/-- The levels that a request leaves. -/
def leaves (request : Request α) (levels : Level × Level) : Level × Level :=
  (request.command?.map Command.levels).getD levels

end Request

namespace Controller

variable {W L α β : Type} {hw : Hardware W L} {world : W}

theorem exec_content (hw : Hardware W L) :
    exec hw content = exec hw read >>= fun state => pure (toString state.code ++ "\n") := by
  rw [content, exec, Script.exec_bind]
  rfl

/-! ## With lines -/

section Holding

variable {pair : LinePair L}

/-- A stay comes to what its calls come to. -/
theorem delivers_inside {name : String} {stay : Section L β} (hkeeps : stay.keepsLines = true)
    {post : Except Failure β → W × Controller L → Prop}
    (h : (hw.exec (stay.routine pair)).Delivers world fun result later =>
      post result (later, ⟨name, .holding pair⟩)) :
    (exec hw (inside stay)).Delivers (world, ⟨name, .holding pair⟩) post := by
  obtain ⟨result, houtcome, hpost⟩ := h
  have hcustody : stay.custodyAfter pair (.ofExcept result) = .holding pair := by
    cases result <;> simp [Outcome.ofExcept, Section.custodyAfter, hkeeps]
  rw [exec, inside, Script.exec_ask]
  refine ⟨result, houtcome, ?_⟩
  change post result (_, ⟨name, stay.custodyAfter pair (hw.exec (stay.routine pair) world).outcome⟩)
  rw [houtcome, hcustody]
  exact hpost

theorem delivers_noted {severity : Severity} {text : String} {controller : Controller L}
    {post : Except Failure Unit → W × Controller L → Prop}
    (h : post (.ok ()) (world, controller)) :
    (exec hw (note severity text)).Delivers (world, controller) post := by
  rw [exec, note, Script.exec_ask]
  exact ⟨.ok (), rfl, h⟩

/-- A command comes to what driving the lines comes to. -/
theorem delivers_write {name called : String} {command : Command}
    {post : Except Failure Unit → W × Controller L → Prop}
    (h : (hw.exec (pair.drive command)).Delivers world fun result later =>
      post result (later, ⟨name, .holding pair⟩)) :
    (exec hw (write called command)).Delivers (world, ⟨name, .holding pair⟩) post := by
  rw [write, exec, Script.exec_bind]
  refine .bind (delivers_inside rfl (h.mono fun result later hlater => ?_))
  cases result with
  | ok _ => exact delivers_noted hlater
  | error failure => exact hlater

/-- A text that is no command ends a write, and a command comes to what driving the lines comes
to. -/
theorem delivers_store {name called input : String}
    {post : Except Failure Nat → W × Controller L → Prop}
    (hrejected : ∀ failure, Command.parse input = .error failure →
      post (.error failure) (world, ⟨name, .holding pair⟩))
    (haccepted : ∀ command, Command.parse input = .ok command →
      (hw.exec (pair.drive command)).Delivers world fun result later =>
        post (result.map fun _ => input.utf8ByteSize) (later, ⟨name, .holding pair⟩)) :
    (exec hw (store called input)).Delivers (world, ⟨name, .holding pair⟩) post := by
  rw [store, exec, Script.exec_bind]
  refine .bind (delivers_inside rfl ⟨.ok (), rfl, ?_⟩)
  cases hparse : Command.parse input with
  | error failure =>
    change (exec hw (note .error (called ++ ": " ++ failure.message) >>= fun _ =>
      Script.fail failure)).Delivers _ _
    rw [exec, Script.exec_bind]
    exact .bind (delivers_noted ((Action.delivers_fail _).2 (hrejected failure hparse)))
  | ok command =>
    change (exec hw (write called command >>= fun _ => pure input.utf8ByteSize)).Delivers _ _
    rw [exec, Script.exec_bind]
    refine .bind (delivers_write ((haccepted command hparse).mono fun result later hlater => ?_))
    cases result with
    | ok _ => exact (Action.delivers_pure _).2 hlater
    | error failure => exact hlater

variable {levels : W → Level × Level} {inOrder : W → Prop}

/-- On reliable lines a request is answered from their levels, and a command leaves its own. -/
theorem delivers_request (h : pair.Reliable hw levels inOrder) (horder : inOrder world)
    (name called : String) (request : Request α) :
    (exec hw (request.script called)).Delivers (world, ⟨name, .holding pair⟩) fun result later =>
      result = request.answer (levels world) ∧ inOrder later.1 ∧
        levels later.1 = request.leaves (levels world) ∧ later.2 = ⟨name, .holding pair⟩ := by
  have hread : (exec hw read).Delivers (world, ⟨name, .holding pair⟩) fun result later =>
      result = .ok (.classify (levels world).1 (levels world).2) ∧ inOrder later.1 ∧
        levels later.1 = levels world ∧ later.2 = ⟨name, .holding pair⟩ := by
    obtain ⟨hdone, horder', hsame⟩ := h.classify horder
    exact delivers_inside rfl ⟨.ok _, hdone, rfl, horder', hsame, rfl⟩
  have hdrive (command : Command) : (hw.exec (pair.drive command)).Delivers world
      fun result later =>
        result = .ok () ∧ inOrder later ∧ levels later = command.levels := by
    obtain ⟨hdone, horder', hlevels⟩ := h.drive horder command
    exact ⟨.ok (), hdone, rfl, horder', hlevels⟩
  cases request with
  | read => exact hread
  | write command =>
    refine delivers_write ((hdrive command).mono ?_)
    rintro result later ⟨rfl, horder', hlevels⟩
    exact ⟨rfl, horder', hlevels, rfl⟩
  | content =>
    rw [Request.script, exec_content]
    refine .bind (hread.mono ?_)
    rintro result later ⟨rfl, horder', hsame, hcontroller⟩
    exact (Action.delivers_pure _).2 ⟨rfl, horder', hsame, hcontroller⟩
  | store input =>
    refine delivers_store (fun failure hparse => ⟨?_, horder, ?_, rfl⟩) fun command hparse => ?_
    · simp [Request.answer, hparse, Except.map]
    · simp [Request.leaves, Request.command?, hparse, Except.toOption]
    · refine (hdrive command).mono ?_
      rintro result later ⟨rfl, horder', hlevels⟩
      refine ⟨?_, horder', ?_, rfl⟩
      · simp [Request.answer, hparse, Except.map]
      · simpa [Request.leaves, Request.command?, hparse, Except.toOption] using hlevels

end Holding

/-! ## Without lines -/

/-- What everyone is told who comes to a controller without lines. -/
def refusal? (controller : Controller L) : Option Failure :=
  match controller.custody with
  | .holding _ => none
  | .vacant => some controller.notReady
  | .poisoned => some controller.lockPoisoned

theorem enter_refused {controller : Controller L} {failure : Failure}
    (h : controller.refusal? = some failure) (stay : Section L β) :
    enter hw stay (world, controller) = ⟨.failed failure, (world, controller), []⟩ := by
  rcases controller with ⟨name, pair | _ | _⟩ <;> cases h <;> rfl

/-- A script that begins with a stay under the lock ends there. -/
theorem exec_inside_refused {controller : Controller L} {failure : Failure}
    (h : controller.refusal? = some failure) (stay : Section L β)
    (next : β → ControllerScript L α) :
    exec hw (inside stay >>= next) (world, controller) =
      ⟨.failed failure, (world, controller), []⟩ := by
  rw [exec, Script.exec_bind, inside, Script.exec_ask]
  exact Action.bind_failed (enter_refused h stay)

/-- Whatever is asked of a controller without lines, nothing is done, and the answer is the same. -/
theorem exec_refused {controller : Controller L} {failure : Failure}
    (h : controller.refusal? = some failure) (name : String) (operation : Operation L α) :
    exec hw (operation.script name) (world, controller) =
      ⟨.failed failure, (world, controller), []⟩ := by
  cases operation with
  | shutdown => exact exec_inside_refused h _ _
  | request asked =>
    cases asked with
    | read =>
      rw [Operation.script, Request.script, read, exec, inside, Script.exec_ask]
      exact enter_refused h _
    | content => exact exec_inside_refused h _ _
    | write command => exact exec_inside_refused h _ _
    | store input => exact exec_inside_refused h _ _

end Controller

namespace Station

variable {W L P α : Type} {hw : Hardware W L} {station : Station W L P} {handle : Handle}

/-- A controller at a station answers as it does alone, and nothing else at the station changes. -/
theorem request_answers {pair : LinePair L} {name : String} {levels : W → Level × Level}
    {inOrder : W → Prop} (h : pair.Reliable hw levels inOrder)
    (hholding : station.controllers handle = ⟨name, .holding pair⟩)
    (horder : inOrder station.world) (request : Request α) :
    let run := Station.request hw handle request station
    run.outcome = .ofExcept (request.answer (levels station.world)) ∧ inOrder run.world.world ∧
      levels run.world.world = request.leaves (levels station.world) ∧
      run.world = { station with world := run.world.world } := by
  obtain ⟨result, houtcome, rfl, horder', hlevels, hcontroller⟩ :=
    Controller.delivers_request h horder name name request
  rw [← hholding] at houtcome horder' hlevels hcontroller
  have hname : (station.controllers handle).name = name := congrArg Controller.name hholding
  have hrun : Station.request hw handle request station =
      (Controller.exec hw (request.script name)).on (device handle) station := by
    rw [Station.request, control, hname]
  refine ⟨hrun ▸ houtcome, hrun ▸ horder', hrun ▸ hlevels, ?_⟩
  rw [hrun]
  simp only [Action.on, device] at hcontroller ⊢
  rw [hcontroller, replace_self]

/-- A controller without lines answers every request alike, and nothing is done. -/
theorem request_refused {failure : Failure}
    (h : (station.controllers handle).refusal? = some failure) (request : Request α) :
    Station.request hw handle request station = ⟨.failed failure, station, []⟩ := by
  have hrun : Controller.exec hw (request.script (station.controllers handle).name)
      (station.world, station.controllers handle) =
        ⟨.failed failure, (station.world, station.controllers handle), []⟩ :=
    Controller.exec_refused h _ (.request request)
  simp only [Station.request, control, Action.on, device, hrun, replace_self]

end Station

end CoprocReset
