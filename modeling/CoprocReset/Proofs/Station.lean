import CoprocReset.Proofs.Line.Hardware
import CoprocReset.Publisher

/-!
# What others do at a station

Apart from the world and from what a publisher keeps, a station has its `Books`: the controllers,
the phase and the controller of the attached device. Requests to controllers and the scripts of a
publisher leave the books as they are (`request_keeps`, `publisher_keeps`): only a lifecycle makes
entries there. Neither do they change anything about the world that looking at lines and driving
them does not change.
-/

namespace CoprocReset

/-- What a station has beside the world and the publisher's part. -/
structure Books (L : Type) where
  controllers : Handle → Controller L
  made : Nat
  phase : Phase
  current : Option Handle

namespace Station

variable {W L P α : Type}

/-- The books as a part of the station. -/
def booksPart : Lens (Station W L P) (Books L) where
  get station := ⟨station.controllers, station.made, station.phase, station.current⟩
  set books station :=
    { station with
      controllers := books.controllers
      made := books.made
      phase := books.phase
      current := books.current }

/-- The books of the station. -/
abbrev books (station : Station W L P) : Books L := booksPart.get station

@[simp] theorem replace_self (controllers : Handle → Controller L) (handle : Handle) :
    replace controllers handle (controllers handle) = controllers := by
  funext other
  by_cases h : other = handle <;> simp [replace, h]

@[simp] theorem replace_same (controllers : Handle → Controller L) (handle : Handle)
    (controller : Controller L) : replace controllers handle controller handle = controller := by
  simp [replace]

end Station

/-- A call that leaves the lines with the controller. -/
def ControllerCall.KeepsLines {L : Type} : {β : Type} → ControllerCall L β → Prop
  | _, .enter stay => stay.keepsLines = true
  | _, .note .. => True

/-- No request takes the lines from a controller. -/
theorem Request.all_keepsLines {L α : Type} (name : String) (request : Request α) :
    (request.script name : ControllerScript L α).All ControllerCall.KeepsLines := by
  have hread : (Controller.read : ControllerScript L LogicalState).All
      ControllerCall.KeepsLines := Script.all_ask _ |>.2 rfl
  have hwrite (command : Command) : (Controller.write name command : ControllerScript L Unit).All
      ControllerCall.KeepsLines :=
    (Script.all_ask _ |>.2 rfl).bind fun _ => Script.all_ask _ |>.2 trivial
  cases request with
  | read => exact hread
  | content => exact hread.bind fun _ => Script.all_pure _
  | write command => exact hwrite command
  | store input =>
    refine (Script.all_ask _ |>.2 rfl).bind fun _ => ?_
    cases Command.parse input with
    | error failure => exact (Script.all_ask _ |>.2 trivial).bind fun _ => Script.all_fail _
    | ok command => exact (hwrite command).bind fun _ => Script.all_pure _

namespace Station

variable {W L P α : Type} {hw : Hardware W L} {J : W → Prop} {station : Station W L P}

/-- A stay that leaves the lines with the controller leaves the controller as it is. -/
theorem enter_keeps (hJ : hw.Keeps J) {β : Type} (stay : Section L β)
    (hkeeps : stay.keepsLines = true) (world : W) (controller : Controller L) (h : J world) :
    (Controller.enter hw stay).Yields (world, controller) fun _ later =>
      J later.1 ∧ later.2 = controller := by
  unfold Action.Yields Controller.enter
  rcases controller with ⟨name, _ | _ | _⟩
  case holding pair =>
    have hexec := hJ.exec (stay.routine pair) h
    unfold Action.Yields at hexec
    simp only [Section.custodyAfter, hkeeps]
    split <;> simp_all
  case vacant => exact ⟨h, rfl⟩
  case poisoned => exact ⟨h, rfl⟩

/-- A script on one controller works on the world and that controller. -/
theorem yields_control {handle : Handle} {script : String → ControllerScript L α}
    {post : Except Failure α → Station W L P → Prop} :
    (control hw handle script).Yields station post ↔
      (Controller.exec hw (script (station.controllers handle).name)).Yields
        (station.world, station.controllers handle)
        fun result later => post result ((device handle).set later station) :=
  @Action.yields_on _ _ _ station post (device handle)
    (Controller.exec hw (script (station.controllers handle).name))

theorem delivers_control {handle : Handle} {script : String → ControllerScript L α}
    {post : Except Failure α → Station W L P → Prop} :
    (control hw handle script).Delivers station post ↔
      (Controller.exec hw (script (station.controllers handle).name)).Delivers
        (station.world, station.controllers handle)
        fun result later => post result ((device handle).set later station) :=
  Iff.rfl

/-- A request leaves the books alone, and the world as far as looking at lines and driving them
leaves it alone. -/
theorem request_keeps (hJ : hw.Keeps J) (handle : Handle) (request : Request α)
    (h : J station.world) :
    (Station.request hw handle request : Action (Station W L P) α).Yields station fun _ later =>
      J later.world ∧ later.books = station.books := by
  have hexec : (Controller.exec hw (request.script (station.controllers handle).name)).Yields
      (station.world, station.controllers handle) fun _ later =>
        J later.1 ∧ later.2 = station.controllers handle :=
    Script.exec_keeps_of_all _ (fun {β} call (world, controller) hcall hI => by
      cases call with
      | enter stay => exact hI.2 ▸ enter_keeps hJ stay hcall world controller hI.1
      | note severity text => exact hI) (request.all_keepsLines _) ⟨h, rfl⟩
  refine yields_control.2 (hexec.mono fun result later hl => ⟨hl.1, ?_⟩)
  simp [books, booksPart, device, hl.2]

theorem calm_request (h : hw.Calm) (handle : Handle)
    (request : Request α) :
    (Station.request hw handle request : Action (Station W L P) α).Calm := by
  have hperform {β : Type} (call : ControllerCall L β) : (Controller.perform hw call).Calm := by
    cases call with
    | note severity text => exact Action.calm_note severity text
    | enter stay =>
      rintro ⟨world, name, pair | _ | _⟩ message
      · exact h.exec (stay.routine pair) world message
      · exact Action.calm_fail (α := β) _ (world, (⟨name, .vacant⟩ : Controller L)) message
      · exact Action.calm_fail (α := β) _ (world, (⟨name, .poisoned⟩ : Controller L)) message
  intro station
  have hexec : (Controller.exec hw (request.script (station.controllers handle).name)).Calm :=
    Script.calm_exec _ hperform _
  exact hexec ((device handle).get station)

/-- On hardware that does not crash this is so after every request. -/
theorem request_leaves (hcalm : hw.Calm) (hJ : hw.Keeps J) (handle : Handle) (request : Request α)
    (h : J station.world) :
    J (Station.request hw handle request station).world.world ∧
      (Station.request hw handle request station).world.books = station.books :=
  (request_keeps hJ handle request h).after (calm_request hcalm handle request station)

/-- So do the scripts of a publisher. -/
theorem publisher_keeps (hJ : hw.Keeps J) (script : PublisherScript P α) (h : J station.world) :
    (Publisher.exec hw script : Action (Station W L P) α).Yields station fun _ later =>
      J later.world ∧ later.books = station.books :=
  Script.exec_keeps _ (fun {β} call world hI => by
    cases call with
    | own action =>
      exact Action.yields_on.2 <| by
        unfold Action.Yields
        split <;> first | exact hI | trivial
    | request handle request =>
      exact (request_keeps hJ handle request hI.1).mono fun _ _ hl => ⟨hl.1, hl.2.trans hI.2⟩)
    script ⟨h, rfl⟩

end Station

end CoprocReset
