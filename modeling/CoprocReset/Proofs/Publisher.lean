import CoprocReset.Bench.Board
import CoprocReset.Bus.Objects
import CoprocReset.Proofs.Controller.Request

/-!
# Publishers that only look

A publisher that only looks leaves the lines and the books of a station as they are: it may act on
what it keeps itself and ask controllers for the state of their lines (`PublisherCall.Looks`,
`publisher_looks`). What it is told on the way is written down by `seen`, and as long as the lines of
a controller tell a state, it is told that state of it and no other (`seen_shows`). The bus and the
notice board publish that way.
-/

namespace CoprocReset

/-- The request only looks at the lines. -/
def Request.Looks {α : Type} : Request α → Prop
  | .read | .content => True
  | .write _ | .store _ => False

/-- The call leaves all lines as they are. -/
def PublisherCall.Looks {P α : Type} : PublisherCall P α → Prop
  | .own _ => True
  | .request _ asked => asked.Looks

theorem Bus.busPublisher_looks (name : String) (handle : Handle) :
    (Bus.busPublisher.publish name handle).All PublisherCall.Looks :=
  (Script.all_ask _).2 trivial

theorem Bench.boardPublisher_looks (name : String) (handle : Handle) :
    (Bench.boardPublisher.publish name handle).All PublisherCall.Looks := by
  have hshown : (Bench.Board.shown handle).All PublisherCall.Looks := ⟨trivial, fun _ => trivial⟩
  refine hshown.bind fun shown => ((Script.all_ask _).2 trivial).bind fun _ => ?_
  refine ((Script.all_ask _).2 trivial).bind fun board => ?_
  split
  · exact Script.all_fail _
  · exact (Script.all_ask _).2 trivial

/-- What a publisher is told of the lines of a controller. -/
inductive Sight where
  | state (handle : Handle) (answer : Except Failure LogicalState)
  | content (handle : Handle) (answer : Except Failure String)

/-- If it is about that controller, what is told is that state. -/
def Sight.Shows (handle : Handle) (state : LogicalState) : Sight → Prop
  | .state other answer => other = handle → answer = .ok state
  | .content other answer => other = handle → answer = .ok (toString state.code ++ "\n")

/-- What there is to be seen in a call of a publisher and its answer. -/
def PublisherCall.sights {P : Type} : {β : Type} → PublisherCall P β → Except Failure β → List Sight
  | _, .request handle .read, answer => [.state handle answer]
  | _, .request handle .content, answer => [.content handle answer]
  | _, _, _ => []

/-- The script of a publisher, carried out with what it sees written down. -/
def Publisher.watched {W L P α : Type} (hw : Hardware W L) (script : PublisherScript P α) :
    Action (Station W L P × List Sight) α :=
  script.exec (Script.recording (Publisher.perform hw) PublisherCall.sights)

/-- What the publisher sees as its script is carried out at the station. -/
def Publisher.seen {W L P α : Type} (hw : Hardware W L) (script : PublisherScript P α)
    (station : Station W L P) : List Sight :=
  (Publisher.watched hw script (station, [])).world.2

namespace Station

variable {W L P α β : Type} {hw : Hardware W L} {station : Station W L P} {handle : Handle}
  {pair : LinePair L} {name : String} {state : LogicalState}

/-! ## Requests that only look -/

theorem yields_look (hstill : hw.Still) {asked : Request α} (hlooks : asked.Looks) :
    (Station.request hw handle asked).Yields station fun _ later => later = station := by
  have hread (controller : Controller L) : (Controller.exec hw Controller.read).Yields
      (station.world, controller) fun _ later => later = (station.world, controller) := by
    rw [Controller.read, Controller.exec, Controller.inside, Script.exec_ask]
    rcases controller with ⟨name, pair | _ | _⟩
    case holding =>
      refine Action.yields_of_run fun result hresult => ?_
      have hsame := LinePair.classify_still hstill pair station.world
      change (_, (⟨name, Section.classify.custodyAfter pair _⟩ : Controller L)) = _
      rw [show (hw.exec (Section.classify.routine pair) station.world).world = _ from hsame,
        show (hw.exec (Section.classify.routine pair) station.world).outcome = _ from hresult]
      cases result <;> rfl
    all_goals exact (rfl : (_ : W × Controller L) = _)
  have hkept (part : W × Controller L) (h : part = (station.world, station.controllers handle)) :
      (device handle).set part station = station := by
    rw [h]
    exact (device handle).set_get station
  refine yields_control.2 ?_
  cases asked with
  | read => exact (hread _).mono fun _ later hl => hkept later hl
  | content =>
    rw [Request.script, Controller.exec_content, Action.yields_bind]
    refine (hread _).mono fun result later hl => ?_
    cases result <;> exact hkept later hl
  | write => exact hlooks.elim
  | store => exact hlooks.elim

/-- A controller says what its lines tell. -/
theorem request_read_of_tells (hholding : station.controllers handle = ⟨name, .holding pair⟩)
    (htells : pair.Tells hw state station.world) :
    (Station.request hw handle .read station).outcome = .done state := by
  change (Controller.exec hw Controller.read (station.world, station.controllers handle)).outcome = _
  rw [hholding, Controller.read, Controller.exec, Controller.inside, Script.exec_ask]
  exact htells

/-- The attribute's content is the code of that state. -/
theorem request_content_of_tells (hholding : station.controllers handle = ⟨name, .holding pair⟩)
    (htells : pair.Tells hw state station.world) :
    (Station.request hw handle .content station).outcome =
      .done (toString state.code ++ "\n") := by
  have hread : (Controller.exec hw Controller.read
      (station.world, station.controllers handle)).outcome = .done state :=
    request_read_of_tells hholding htells
  rcases hrun : Controller.exec hw Controller.read (station.world, station.controllers handle)
    with ⟨_, later, log⟩
  rw [hrun] at hread
  obtain rfl : _ = Outcome.done state := hread
  change (Controller.exec hw Controller.content
    (station.world, station.controllers handle)).outcome = _
  rw [Controller.exec_content, Action.bind_done hrun]
  rfl

/-! ## Scripts that only look -/

theorem yields_looks (hstill : hw.Still) {call : PublisherCall P β} (hlooks : call.Looks) :
    (Publisher.perform hw call).Yields station fun _ later =>
      later.world = station.world ∧ later.books = station.books := by
  cases call with
  | own action => exact Action.yields_on.2 (Action.yields_of_forall fun _ _ => ⟨rfl, rfl⟩)
  | request handle asked =>
    refine (yields_look hstill hlooks).mono ?_
    rintro _ _ rfl
    exact ⟨rfl, rfl⟩

/-- A publisher that only looks leaves the world and the books of a station as they are. -/
theorem publisher_looks (hstill : hw.Still) {script : PublisherScript P α}
    (hlooks : script.All PublisherCall.Looks) :
    (Publisher.exec hw script).Yields station fun _ later =>
      later.world = station.world ∧ later.books = station.books := by
  refine Script.exec_keeps_of_all _ (fun call later hcall hsame => ?_) hlooks ⟨rfl, rfl⟩
  refine (yields_looks hstill hcall).mono fun _ last hlast => ?_
  exact ⟨hlast.1.trans hsame.1, hlast.2.trans hsame.2⟩

theorem yields_sights (hholding : station.controllers handle = ⟨name, .holding pair⟩)
    (htells : pair.Tells hw state station.world) (call : PublisherCall P β) :
    (Publisher.perform hw call).Yields station fun answer _ =>
      ∀ sight ∈ call.sights answer, sight.Shows handle state := by
  refine Action.yields_of_run fun answer hanswer => ?_
  cases call with
  | own action => simp [PublisherCall.sights]
  | request other asked =>
    cases asked with
    | read =>
      simp only [PublisherCall.sights, List.forall_mem_singleton, Sight.Shows]
      rintro rfl
      exact Outcome.ofExcept_inj.1 (hanswer.symm.trans (request_read_of_tells hholding htells))
    | content =>
      simp only [PublisherCall.sights, List.forall_mem_singleton, Sight.Shows]
      rintro rfl
      exact Outcome.ofExcept_inj.1 (hanswer.symm.trans (request_content_of_tells hholding htells))
    | write => simp [PublisherCall.sights]
    | store => simp [PublisherCall.sights]

/-- Whatever a publisher that only looks sees of a controller is the state that the lines tell. -/
theorem seen_shows (hstill : hw.Still) {script : PublisherScript P α}
    (hlooks : script.All PublisherCall.Looks)
    (hholding : station.controllers handle = ⟨name, .holding pair⟩)
    (htells : pair.Tells hw state station.world)
    (hcalm : ∀ message, (Publisher.exec hw script station).outcome ≠ .crashed message) :
    ∀ sight ∈ Publisher.seen hw script station, sight.Shows handle state := by
  have hwatched : (Publisher.watched hw script).Yields (station, []) fun _ later =>
      (later.1.world = station.world ∧ later.1.books = station.books) ∧
        ∀ sight ∈ later.2, sight.Shows handle state := by
    refine Script.exec_keeps_of_all _ (fun {β} call whole hcall hsame => ?_) hlooks
      ⟨⟨rfl, rfl⟩, by simp⟩
    obtain ⟨later, record⟩ := whole
    obtain ⟨⟨hworld, hbooks⟩, hrecord⟩ := hsame
    have hcontrollers : later.controllers = station.controllers := congrArg Books.controllers hbooks
    have hlater : later.controllers handle = ⟨name, .holding pair⟩ := hcontrollers ▸ hholding
    rw [Script.yields_recording]
    refine ((yields_looks hstill hcall).and
      (yields_sights hlater (hworld ▸ htells) call)).mono fun answer last hlast => ?_
    obtain ⟨⟨hworld', hbooks'⟩, hsights⟩ := hlast
    refine ⟨⟨hworld'.trans hworld, hbooks'.trans hbooks⟩, fun sight hsight => ?_⟩
    rcases List.mem_append.1 hsight with hsight | hsight
    · exact hrecord sight hsight
    · exact hsights sight hsight
  have hsame := Script.exec_recording (Publisher.perform hw) PublisherCall.sights script station []
  have houtcome : (Publisher.watched hw script (station, [])).outcome =
      (Publisher.exec hw script station).outcome := congrArg Run.outcome hsame
  exact (hwatched.mono fun _ _ hlater => hlater.2).after fun message => houtcome ▸ hcalm message

end Station

end CoprocReset
