import CoprocReset.Proofs.Bus.Objects

/-!
# What a call on the bus is answered

A call asks a controller for what anyone may ask, and a failure becomes an error reply. So on
reliable lines a call that can be read is answered from their levels, and leaves the levels of the
command that it carries, if it carries one (`delivers_call`). A call that cannot be read reaches no
controller (`call_unreadable`), and one that carries no command leaves everything as it is
(`call_rejected`).
-/

namespace CoprocReset.Bus

variable {W L α : Type} {hw : Hardware W L}

namespace InterfaceCall

/-- What the call asks of the controller. -/
def asked : InterfaceCall α → Request α
  | .read => .content
  | .write data => .store data

/-- What the log says of the call to the controller of that name. -/
def noted (name : String) : InterfaceCall α → String
  | .read => "read called on " ++ name
  | .write data => "write called on " ++ name ++ " with data: " ++ Text.quote data

theorem script_eq (call : InterfaceCall α) (name : String) :
    (call.script name : ControllerScript L (Answer α)) =
      Controller.note .info (call.noted name) >>= fun _ => answering (call.asked.script name) := by
  cases call <;> rfl

/-- The answer to the call while the lines are at the levels. -/
def answer (call : InterfaceCall α) (levels : Level × Level) : Answer α :=
  (call.asked.answer levels).mapError Failure.reply

end InterfaceCall

/-- A failure is noted and becomes a reply. -/
theorem delivers_answering {script : ControllerScript L α} {world : W} {controller : Controller L}
    {post : Except Failure α → W × Controller L → Prop}
    (h : (Controller.exec hw script).Delivers (world, controller) post) :
    (Controller.exec hw (answering script)).Delivers (world, controller) fun result later =>
      ∃ inner, result = .ok (inner.mapError Failure.reply) ∧ post inner later := by
  rw [answering, Controller.exec, Script.exec_bind, Script.exec_attempt]
  refine .bind (.attempt (Action.Delivers.mono h fun inner later hlater => ?_))
  cases inner with
  | ok value => exact ⟨_, rfl, .ok value, rfl, hlater⟩
  | error failure =>
    dsimp only
    rw [Script.exec_bind]
    exact .bind (Controller.delivers_noted ⟨_, rfl, .error failure, rfl, hlater⟩)

section Served

variable {station : Station W L ObjectTable} {path name : String} {handle : Handle}
  {pair : LinePair L} {levels : W → Level × Level} {inOrder : W → Prop}

theorem hasObject_of_server {table : ObjectTable} {server : Server}
    (h : (table.object path).server = some server) : table.hasObject path = true := by
  rw [ObjectTable.hasObject]
  rw [ObjectTable.object] at h
  cases hlookup : table.lookup path with
  | none => rw [hlookup] at h; cases h
  | some object => rfl

/-- A call that cannot be read reaches nobody. -/
theorem call_unreadable (hserved : (station.publisher.object path).server = some (.station handle))
    {call : InterfaceCall α} (hcall : call.isReadable = false) :
    Bus.call hw path call station = ⟨.done (.error unreadable), station, []⟩ := by
  rw [Bus.call, Action.bind_done (rfl : Action.world station = ⟨.done station, station, []⟩)]
  simp only [hasObject_of_server hserved, hserved, hcall, if_true, Bool.false_eq_true, if_false]
  rfl

/-- A call is answered from the levels of the lines. -/
theorem delivers_call (h : pair.Reliable hw levels inOrder)
    (hserved : (station.publisher.object path).server = some (.station handle))
    (hholding : station.controllers handle = ⟨name, .holding pair⟩)
    (horder : inOrder station.world) {call : InterfaceCall α} (hcall : call.isReadable = true) :
    (Bus.call hw path call).Delivers station fun result later =>
      result = .ok (call.answer (levels station.world)) ∧ inOrder later.world ∧
        levels later.world = call.asked.leaves (levels station.world) ∧
        later = { station with world := later.world } := by
  have hasked := delivers_answering (Controller.delivers_request h horder name name call.asked)
  rw [Bus.call]
  refine .world_bind ?_
  simp only [hasObject_of_server hserved, hserved, hcall, if_true]
  refine Station.delivers_control.2 ?_
  rw [hholding, InterfaceCall.script_eq, Controller.exec, Script.exec_bind]
  refine .bind (Controller.delivers_noted (hasked.mono ?_))
  rintro _ ⟨world, controller⟩ ⟨_, rfl, rfl, horder', hlevels, rfl⟩
  refine ⟨rfl, horder', hlevels, ?_⟩
  rw [← hholding]
  simp only [Station.device, Station.replace_self]

/-- What is no command is refused, and nothing is changed. -/
theorem call_rejected (hserved : (station.publisher.object path).server = some (.station handle))
    (hholding : station.controllers handle = ⟨name, .holding pair⟩) {data : String}
    (hcall : (InterfaceCall.write data).isReadable = true) {failure : Failure}
    (hparse : Command.parse data = .error failure) :
    ∃ log, Bus.call hw path (.write data) station =
      ⟨.done (.error failure.reply), station, log⟩ := by
  have hexec : ∃ log, Controller.exec hw ((InterfaceCall.write data).script name)
      (station.world, ⟨name, .holding pair⟩) =
        ⟨.done (.error failure.reply), (station.world, ⟨name, .holding pair⟩), log⟩ := by
    simp only [InterfaceCall.script, Controller.store, hparse]
    exact ⟨_, rfl⟩
  obtain ⟨log, hexec⟩ := hexec
  refine ⟨log, ?_⟩
  rw [Bus.call, Action.bind_done (rfl : Action.world station = ⟨.done station, station, []⟩)]
  simp only [hasObject_of_server hserved, hserved, hcall, if_true, Station.control, Action.on,
    Station.device, hholding, hexec, List.nil_append]
  rw [← hholding, Station.replace_self]

end Served

end CoprocReset.Bus
