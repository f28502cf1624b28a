import CoprocReset.Proofs.Bus.Path
import CoprocReset.Proofs.Client.Reports
import CoprocReset.Proofs.Lifecycle.OnBus

/-!
# Clients of one attached device

While a device is attached on dependable lines its station stays so, with the lines at the levels of
the last command that was accepted, and every client on an errand is on its way to the verdict
(`Sound`). Every move of the clients keeps this (`Sound.move`), so whatever the order of their calls
is, every errand that ends does so with its verdict (`Sound.run`); and every errand ends once its
client has gone on for five times (`Sound.ends`). What this means for reports says
`reports_last_accepted`.
-/

namespace CoprocReset.Client

open Crowd (Move Event lastCommand lastCommand_snoc)

variable {W L : Type} {lifecycle : Lifecycle W L Bus.ObjectTable} {lines : lifecycle.Footing}
  {handle : Handle}

/-! ## Calls to an attached device -/

section Calls

variable {station : Station W L Bus.ObjectTable} {α : Type}

/-- The answer to a call on the bus is handed to the client. -/
theorem relay {hw : Hardware W L} {path : String} {call : Bus.InterfaceCall α}
    {answer : Bus.Answer α} {P : Station W L Bus.ObjectTable → Prop}
    (h : (Bus.call hw path call).Delivers station fun result later =>
      result = .ok answer ∧ P later) :
    ∃ later log, (Bus.call hw path call >>= fun answer =>
      (pure (answer.mapError .replied) : Action _ (Except Bus.CallError α))) station =
        ⟨.done (answer.mapError .replied), later, log⟩ ∧ P later := by
  obtain ⟨_, houtcome, rfl, hP⟩ := h
  rcases hcall : Bus.call hw path call station with ⟨outcome, later, log⟩
  rw [hcall] at houtcome hP
  obtain rfl : outcome = .done answer := houtcome
  rw [Action.bind_done hcall]
  exact ⟨later, log ++ [], rfl, hP⟩

theorem isReadable_write {data : String} :
    (Bus.InterfaceCall.write data).isReadable = true ↔ '\x00' ∉ data.toList := by
  simp [Bus.InterfaceCall.isReadable]

/-- A call to an attached device is answered from the last command, and leaves the levels of the
last command after it. -/
theorem perform_attached (h : lines.Attached handle station) {history : List Event}
    (hlevels : lines.levels station.world = (lastCommand history).levels) (client : Nat)
    (request : ClientCall α) :
    ∃ answer later log,
      perform lifecycle.hardware (objectPath lifecycle.target.attributeName) request station =
          ⟨.done answer, later, log⟩ ∧
        Told (lastCommand history) request answer ∧ lines.Attached handle later ∧
          lines.levels later.world =
            (lastCommand (history ++ [.called client request answer])).levels := by
  rw [objectPath_eq_pathOf]
  cases request with
  | read =>
    have hread := h.delivers_call (rfl : Bus.InterfaceCall.read.isReadable = true)
    obtain ⟨later, log, hrun, hlater, hsame⟩ := relay hread
    refine ⟨_, later, log, hrun, ?_, hlater, ?_⟩
    · rw [Bus.InterfaceCall.answer, hlevels]
      cases lastCommand history <;> rfl
    · rw [hsame, lastCommand_snoc]
      exact hlevels
  | write data =>
    by_cases hnull : '\x00' ∈ data.toList
    · have hcall : (Bus.InterfaceCall.write data).isReadable = false :=
        Bool.eq_false_iff.2 fun hreadable => isReadable_write.1 hreadable hnull
      have hrun : Bus.call lifecycle.hardware _ (.write data) station = _ :=
        Bus.call_unreadable h.serves.served hcall
      refine ⟨_, station, _, Action.bind_done hrun, .unreadable hnull, h, ?_⟩
      rw [lastCommand_snoc]
      exact hlevels
    · have hwrite := h.delivers_call (isReadable_write.2 hnull)
      obtain ⟨later, log, hrun, hlater, hsame⟩ := relay hwrite
      rw [hlevels] at hsame
      simp only [Bus.InterfaceCall.answer, Bus.InterfaceCall.asked, Request.answer, Request.leaves,
        Request.command?] at hrun hsame
      cases hparse : Command.parse data with
      | ok command =>
        rw [hparse] at hrun hsame
        refine ⟨.ok data.utf8ByteSize, later, log, hrun, .accepted hparse, hlater, ?_⟩
        rw [hsame, lastCommand_snoc, Crowd.command?_accepted hparse]
        rfl
      | error failure =>
        rw [hparse] at hrun hsame
        refine ⟨.error (.replied failure.reply), later, log, hrun, .rejected hparse, hlater, ?_⟩
        rw [hsame, lastCommand_snoc]
        rfl
  | pause ms =>
    have hwait : lifecycle.hardware.wait ms station.world = ⟨.done (), station.world, []⟩ :=
      lines.dependable.wait ms station.world
    have hrun : (lifecycle.hardware.within Station.worldPart).wait ms station =
        ⟨.done (), station, []⟩ := by
      simp only [Hardware.within, Action.on, Station.worldPart, hwait]
    refine ⟨_, station, _, Action.bind_done hrun, rfl, h, ?_⟩
    rw [lastCommand_snoc]
    exact hlevels

end Calls

/-! ## The crowd in order -/

/-- What an event may be after a history. -/
structure Fits (attributeName : String) (history : List Event) (event : Event) : Prop where
  /-- A call is answered from the last command. -/
  told {α : Type} : ∀ client (request : ClientCall α) answer,
    event = .called client request answer → Told (lastCommand history) request answer
  /-- An errand ends with its verdict. -/
  verdict : ∀ client errand result, event = .ended client errand result →
    Verdict attributeName client errand history result

theorem fits_began (attributeName : String) (history : List Event) (client : Nat)
    (errand : Errand) : Fits attributeName history (.began client errand) where
  told := by rintro _ _ _ _ ⟨⟩
  verdict := by rintro _ _ _ ⟨⟩

theorem fits_called {attributeName : String} {history : List Event} {client : Nat} {α : Type}
    {request : ClientCall α} {answer : Except Bus.CallError α}
    (h : Told (lastCommand history) request answer) :
    Fits attributeName history (.called client request answer) where
  told := by
    rintro _ _ _ _ ⟨⟩
    exact h
  verdict := by rintro _ _ _ ⟨⟩

theorem fits_ended {attributeName : String} {history : List Event} {client : Nat}
    {errand : Errand} {result : Except Bus.CallError String}
    (h : Verdict attributeName client errand history result) :
    Fits attributeName history (.ended client errand result) where
  told := by rintro _ _ _ _ ⟨⟩
  verdict := by
    rintro _ _ _ ⟨⟩
    exact h

/-- Every one of the events fits what was before it. -/
def AllFit (attributeName : String) : List Event → List Event → Prop
  | _, [] => True
  | history, event :: events =>
    Fits attributeName history event ∧ AllFit attributeName (history ++ [event]) events

theorem AllFit.append {attributeName : String} {history events later : List Event}
    (h : AllFit attributeName history events)
    (hlater : AllFit attributeName (history ++ events) later) :
    AllFit attributeName history (events ++ later) := by
  induction events generalizing history with
  | nil => rwa [List.append_nil] at hlater
  | cons event events ih =>
    rw [List.append_cons] at hlater
    exact ⟨h.1, ih h.2 hlater⟩

theorem AllFit.fits {attributeName : String} {history before after : List Event} {event : Event}
    (h : AllFit attributeName history (before ++ event :: after)) :
    Fits attributeName (history ++ before) event := by
  induction before generalizing history with
  | nil => rw [List.append_nil]; exact h.1
  | cons first before ih => rw [List.append_cons]; exact ih h.2

/-- The device is attached, its lines are at the levels of the last command, and every client is on
its way to the verdict. -/
structure Sound (lines : lifecycle.Footing) (handle : Handle) (history : List Event)
    (crowd : Crowd W L) : Prop where
  attached : lines.Attached handle crowd.station
  levels : lines.levels crowd.station.world = (lastCommand history).levels
  sure {client : Nat} {errand : Errand} {rest : Dialogue String}
    (h : crowd.callers client = .busy errand rest) :
    Sure lifecycle.target.attributeName client errand rest history

namespace Sound

variable {crowd : Crowd W L} {history : List Event} {client : Nat} {errand : Errand}
  {rest : Dialogue String}

/-- One client makes an event, and the others are where they were. -/
theorem put (h : Sound lines handle history crowd) {event : Event} (hclient : event.client = client)
    {caller : Caller} {station : Station W L Bus.ObjectTable}
    (hattached : lines.Attached handle station)
    (hlevels : lines.levels station.world = (lastCommand (history ++ [event])).levels)
    (hsure : ∀ errand rest, caller = .busy errand rest →
      Sure lifecycle.target.attributeName client errand rest (history ++ [event])) :
    Sound lines handle (history ++ [event]) (crowd.put client caller station) where
  attached := hattached
  levels := hlevels
  sure {other errand rest} hbusy := by
    rw [Crowd.put_callers] at hbusy
    split at hbusy
    · next hother => exact hother ▸ hsure errand rest hbusy
    · next hother =>
      refine (h.sure hbusy).others fun event' hevent => ?_
      rw [List.mem_singleton.1 hevent, hclient]
      exact Ne.symm hother

/-- A client on an errand goes on. -/
theorem goOn (h : Sound lines handle history crowd)
    (hbusy : crowd.callers client = .busy errand rest) :
    ∃ event, Fits lifecycle.target.attributeName history event ∧
      (crowd.goOn lifecycle.hardware lifecycle.target.attributeName client errand rest).2 =
        [event] ∧
      Sound lines handle (history ++ [event])
        (crowd.goOn lifecycle.hardware lifecycle.target.attributeName client errand rest).1 := by
  have hsure := h.sure hbusy
  cases rest with
  | finish result =>
    have hverdict := hsure [] (others_nil client)
    rw [List.append_nil] at hverdict
    refine ⟨.ended client errand result, fits_ended hverdict, rfl, h.put rfl h.attached ?_ ?_⟩
    · rw [lastCommand_snoc]
      exact h.levels
    · rintro _ _ ⟨⟩
  | call request next =>
    obtain ⟨answer, later, log, hrun, htold, hattached, hlevels⟩ :=
      perform_attached h.attached h.levels client request
    refine ⟨.called client request answer, fits_called htold, ?_, ?_⟩
    · simp only [Crowd.goOn, hrun]
    · simp only [Crowd.goOn, hrun]
      have hclient : (Event.called client request answer).client = client := rfl
      refine h.put hclient hattached hlevels fun _ _ hcaller => ?_
      cases hcaller
      have hnext := hsure [] answer (others_nil client)
      rw [List.append_nil] at hnext
      exact hnext htold

/-- Every move leaves the crowd in order. -/
theorem move (h : Sound lines handle history crowd) (move : Move) :
    AllFit lifecycle.target.attributeName history
        (crowd.move lifecycle.hardware lifecycle.target.attributeName move).2 ∧
      Sound lines handle
        (history ++ (crowd.move lifecycle.hardware lifecycle.target.attributeName move).2)
        (crowd.move lifecycle.hardware lifecycle.target.attributeName move).1 := by
  have hnothing : AllFit lifecycle.target.attributeName history [] ∧
      Sound lines handle (history ++ []) crowd :=
    ⟨trivial, (List.append_nil history).symm ▸ h⟩
  cases move with
  | begin client errand =>
    cases hcaller : crowd.callers client with
    | busy errand' rest => simpa only [Crowd.move, hcaller] using hnothing
    | idle =>
      simp only [Crowd.move, hcaller, Bus.dialogue_eq h.attached.path]
      refine ⟨⟨fits_began .., trivial⟩, h.put rfl h.attached ?_ fun _ _ hbegun => ?_⟩
      · rw [lastCommand_snoc]
        exact h.levels
      · cases hbegun
        exact sure_calls ..
  | advance client =>
    cases hcaller : crowd.callers client with
    | idle => simpa only [Crowd.move, hcaller] using hnothing
    | busy errand rest =>
      obtain ⟨event, hfits, hevents, hsound⟩ := h.goOn hcaller
      simp only [Crowd.move, hcaller, hevents]
      exact ⟨⟨hfits, trivial⟩, hsound⟩

/-- So does every row of moves. -/
theorem run (h : Sound lines handle history crowd) (moves : List Move) :
    AllFit lifecycle.target.attributeName history
        (crowd.run lifecycle.hardware lifecycle.target.attributeName moves).2 ∧
      Sound lines handle
        (history ++ (crowd.run lifecycle.hardware lifecycle.target.attributeName moves).2)
        (crowd.run lifecycle.hardware lifecycle.target.attributeName moves).1 := by
  induction moves generalizing crowd history with
  | nil => exact ⟨trivial, (List.append_nil history).symm ▸ h⟩
  | cons first moves ih =>
    obtain ⟨hfit, hnext⟩ := h.move first
    obtain ⟨hlater, hlast⟩ := ih hnext
    rw [List.append_assoc] at hlast
    exact ⟨hfit.append hlater, hlast⟩

end Sound

/-! ## Every errand ends -/

/-- Whatever the answers are, the dialogue ends after so many calls or fewer. -/
def EndsWithin : Dialogue String → Nat → Prop
  | .finish _, _ => True
  | .call .., 0 => False
  | .call _ next, calls + 1 => ∀ answer, EndsWithin (next answer) calls

/-- No errand has more than four calls. -/
theorem endsWithin_calls (attributeName : String) (errand : Errand) :
    EndsWithin (errand.calls attributeName) 4 := by
  have hlook (calls : Nat) : EndsWithin (look attributeName) (calls + 1) := by
    rintro (_ | _) <;> exact trivial
  have hlast (data : String) (calls : Nat) :
      EndsWithin (send data >>= fun _ => look attributeName) (calls + 2) := by
    rintro (_ | _)
    · exact trivial
    · exact hlook calls
  cases errand with
  | status => exact hlook 3
  | write data => exact hlast data 2
  | cycle holdMs =>
    rintro (_ | _)
    · exact trivial
    rintro (_ | _)
    · exact trivial
    · exact hlast _ 0

/-- A client on an errand stays where it is until its turn comes. -/
theorem move_elsewhere (hw : Hardware W L) (attributeName : String) {crowd : Crowd W L}
    {client : Nat} {errand : Errand} {rest : Dialogue String}
    (hbusy : crowd.callers client = .busy errand rest) {move : Move}
    (hmove : move.isTurnOf client = false) :
    (crowd.move hw attributeName move).1.callers client = .busy errand rest ∧
      ∀ event ∈ (crowd.move hw attributeName move).2, event.client ≠ client := by
  cases move with
  | begin other errand' =>
    cases hother : crowd.callers other with
    | busy => simpa [Crowd.move, hother] using hbusy
    | idle =>
      have hne : other ≠ client := by
        rintro rfl
        cases hother.symm.trans hbusy
      simp [Crowd.move, hother, Crowd.put_callers, hne.symm, hbusy, Event.client, hne]
  | advance other =>
    have hne : other ≠ client := by simpa [Move.isTurnOf] using hmove
    cases hother : crowd.callers other with
    | idle => simpa [Crowd.move, hother] using hbusy
    | busy errand' rest' =>
      simp only [Crowd.move, hother]
      cases rest' with
      | finish result =>
        simp [Crowd.goOn, Crowd.put_callers, hne.symm, hbusy, Event.client, hne]
      | call request next =>
        simp only [Crowd.goOn]
        split <;> simp [Crowd.put_callers, hne.symm, hbusy, Event.client, hne]

/-- The errand of the client ends among the events, before the client begins another. -/
def EndsAmong (client : Nat) (errand : Errand) (events : List Event) : Prop :=
  ∃ before result after, events = before ++ .ended client errand result :: after ∧
    ∀ errand', .began client errand' ∉ before

theorem EndsAmong.append {client : Nat} {errand : Errand} {events later : List Event}
    (h : EndsAmong client errand later) (hevents : ∀ errand', .began client errand' ∉ events) :
    EndsAmong client errand (events ++ later) := by
  obtain ⟨before, result, after, rfl, hbefore⟩ := h
  refine ⟨events ++ before, result, after, (List.append_assoc ..).symm, fun errand' hmem => ?_⟩
  exact (List.mem_append.1 hmem).elim (hevents errand') (hbefore errand')

/-- Once its turn has come often enough the errand of a client has ended. -/
theorem Sound.ends {crowd : Crowd W L} {history : List Event} {client : Nat} {errand : Errand}
    {rest : Dialogue String} (h : Sound lines handle history crowd)
    (hbusy : crowd.callers client = .busy errand rest) {calls : Nat} (hrest : EndsWithin rest calls)
    {moves : List Move} (hturns : calls < moves.countP (Move.isTurnOf client)) :
    EndsAmong client errand
      (crowd.run lifecycle.hardware lifecycle.target.attributeName moves).2 := by
  induction moves generalizing crowd history rest calls with
  | nil => exact absurd hturns (Nat.not_lt_zero _)
  | cons first moves ih =>
    have hnext := (h.move first).2
    rw [Crowd.run_cons]
    cases hfirst : first.isTurnOf client with
    | false =>
      obtain ⟨hstill, hothers⟩ := move_elsewhere lifecycle.hardware
        lifecycle.target.attributeName hbusy hfirst
      rw [List.countP_cons_of_neg (by simp [hfirst])] at hturns
      exact (ih hnext hstill hrest hturns).append fun errand' hmem => hothers _ hmem rfl
    | true =>
      obtain rfl : first = .advance client := by
        cases first with
        | begin => cases hfirst
        | advance other => exact congrArg _ (by simpa [Move.isTurnOf] using hfirst)
      rw [List.countP_cons_of_pos hfirst] at hturns
      cases rest with
      | finish result =>
        simp only [Crowd.move, hbusy, Crowd.goOn]
        exact ⟨[], result, _, rfl, fun _ hmem => by cases hmem⟩
      | call request next =>
        obtain ⟨answer, later, log, hrun, -⟩ :=
          perform_attached h.attached h.levels client request
        cases calls with
        | zero => exact hrest.elim
        | succ calls =>
          simp only [Crowd.move, hbusy, Crowd.goOn, hrun] at hnext ⊢
          refine (ih hnext (Crowd.put_callers_self ..) (hrest answer)
            (Nat.lt_of_succ_lt_succ hturns)).append fun _ hmem => ?_
          cases List.mem_singleton.1 hmem

/-- An errand that is begun ends after five turns of its client or fewer. -/
theorem Sound.begin_ends {crowd : Crowd W L} {history : List Event} {client : Nat}
    (h : Sound lines handle history crowd) (hidle : crowd.callers client = .idle) (errand : Errand)
    {later : List Move} (hturns : 5 ≤ later.countP (Move.isTurnOf client)) :
    ∃ events, (crowd.run lifecycle.hardware lifecycle.target.attributeName
        (.begin client errand :: later)).2 = .began client errand :: events ∧
      EndsAmong client errand events := by
  have hbegun := (h.move (.begin client errand)).2
  rw [Crowd.run_cons]
  simp only [Crowd.move, hidle, Bus.dialogue_eq h.attached.path] at hbegun ⊢
  exact ⟨_, rfl, hbegun.ends (Crowd.put_callers_self ..) (endsWithin_calls ..) hturns⟩

/-! ## From the attachment on -/

section Attachment

variable {station : Station W L Bus.ObjectTable}

/-- After an attachment the coprocessor runs, and nobody is on an errand yet. -/
theorem sound_opened (hbus : lifecycle.publisher = Bus.busPublisher) (h : lines.OnBus station)
    (hdone : (lifecycle.attach station).outcome = .done handle) :
    Sound lines station.made [] (.opened (lifecycle.attach station).world) := by
  cases h.inStep hbus with
  | unattached hphase hfree hforeign =>
    by_cases hadmits : station.publisher.Admits lifecycle.target.attributeName
    · obtain ⟨_, -, -, hattached, hlevels, -⟩ :=
        lines.delivers_attach_admitted hbus hphase hfree hforeign hadmits
      exact ⟨hattached, hlevels, fun hbusy => by cases hbusy⟩
    · obtain ⟨_, hfailed, rfl, -⟩ := lines.delivers_attach_refused hbus hphase hfree hadmits
      cases hdone.symm.trans hfailed
  | attached hattached =>
    have hphase : station.phase ≠ .unattached := by rw [hattached.phase]; decide
    rw [Lifecycle.attach_refused hphase] at hdone
    cases hdone

/-- What is no command changes nothing at an attached device. -/
theorem perform_rejected (h : lines.Attached handle station) {data : String} {failure : Failure}
    (hnull : '\x00' ∉ data.toList) (hparse : Command.parse data = .error failure) :
    ∃ log,
      perform lifecycle.hardware (objectPath lifecycle.target.attributeName) (.write data) station =
        ⟨.done (.error (.replied failure.reply)), station, log⟩ := by
  rw [objectPath_eq_pathOf]
  obtain ⟨log, hcall⟩ : ∃ log, Bus.call lifecycle.hardware _ (.write data) station = _ :=
    Bus.call_rejected h.serves.served h.holding (isReadable_write.2 hnull) hparse
  exact ⟨_, Action.bind_done hcall⟩

/-- From an attachment on, and in whatever order the calls of any number of clients come: every call
is answered from the last command, and every errand that ends has come to what it should. A text
that is no command changes nothing. And every errand ends. -/
theorem reports_last_accepted (lines : lifecycle.Footing)
    (hbus : lifecycle.publisher = Bus.busPublisher) (h : lines.OnBus station)
    (hdone : (lifecycle.attach station).outcome = .done handle) (moves : List Move) :
    let attributeName := lifecycle.target.attributeName
    let served := (Crowd.opened (lifecycle.attach station).world).run lifecycle.hardware
      attributeName moves
    (∀ {α : Type} before client (request : ClientCall α) answer after,
      served.2 = before ++ .called client request answer :: after →
        Told (lastCommand before) request answer) ∧
    (∀ before client errand result after,
      served.2 = before ++ .ended client errand result :: after →
        Concluded attributeName client errand before result) ∧
    (∀ data failure, '\x00' ∉ data.toList → Command.parse data = .error failure → ∃ log,
      perform lifecycle.hardware (objectPath attributeName) (.write data) served.1.station =
        ⟨.done (.error (.replied failure.reply)), served.1.station, log⟩) ∧
    ∀ client errand later, served.1.callers client = .idle →
      5 ≤ later.countP (Move.isTurnOf client) → ∃ events,
        (served.1.run lifecycle.hardware attributeName (.begin client errand :: later)).2 =
          .began client errand :: events ∧ EndsAmong client errand events := by
  intro attributeName served
  obtain ⟨hfit, hsound⟩ := (sound_opened hbus h hdone).run moves
  have hfits {before : List Event} {event : Event} {after : List Event}
      (hsplit : served.2 = before ++ event :: after) : Fits attributeName before event := by
    rw [show Crowd.run .. = served from rfl, hsplit] at hfit
    exact hfit.fits
  refine ⟨fun before client request answer after hsplit => ?_,
    fun before client errand result after hsplit => ?_, fun data failure hnull hparse => ?_,
    fun client errand later hidle hturns => ?_⟩
  · exact (hfits hsplit).told client request answer rfl
  · exact ((hfits hsplit).verdict client errand result rfl).concluded
  · exact perform_rejected hsound.attached hnull hparse
  · exact hsound.begin_ends hidle errand hturns

/-- One client lets the coprocessor start again while another asks for the state. -/
theorem reports_last_accepted_cycle :
    let lifecycle := inMemory .portenta Bus.busPublisher ⟨none, .activeHigh⟩ ⟨none, .activeHigh⟩
    let attached := lifecycle.attach (.initial .empty [])
    let later := [.begin 1 .status, .advance 0, .advance 1, .advance 0, .advance 0, .advance 0,
      .advance 1, .advance 0]
    let served := (Crowd.opened attached.world).run lifecycle.hardware "x8h7_reset"
      (.begin 0 (.cycle 50) :: later)
    attached.outcome = .done 0 ∧ ∃ before after,
      served.2 =
        before ++ .ended 0 (.cycle 50) (.ok (reportOn "x8h7_reset" .release)) :: after := by
  intro lifecycle attached later served
  let lines : lifecycle.Footing := Lifecycle.memoryFooting .portenta Bus.busPublisher (by decide)
  have hfree : lines.free MemoryBank.empty := ⟨rfl, rfl, rfl, rfl⟩
  have hforeign : Bus.ObjectTable.Foreign [] := fun _ _ h => by cases h
  have hadmits : Bus.ObjectTable.Admits [] "x8h7_reset" := ⟨if_pos (by decide), rfl⟩
  obtain ⟨_, hdone, rfl, -⟩ := @Lifecycle.Footing.delivers_attach_admitted _ _ lifecycle lines
    (.initial MemoryBank.empty []) rfl rfl hfree hforeign hadmits
  have hreports := reports_last_accepted lines rfl (.initial _ _ hfree hforeign) hdone
  obtain ⟨events, hevents, before, result, after, rfl, -⟩ :=
    (hreports []).2.2.2 0 (.cycle 50) later rfl (by decide)
  have hsplit : served.2 =
      (.began 0 (.cycle 50) :: before) ++ .ended 0 (.cycle 50) result :: after := hevents
  have hwriters : ∀ writer ∈ served.2.map Event.writer?, writer = none ∨ writer = some 0 := by
    decide +kernel
  have halone : ∀ event ∈ .began 0 (.cycle 50) :: before, ∀ writer,
      event.writer? = some writer → writer = 0 := by
    intro event hmem writer hwriter
    have hserved := List.mem_append_left (.ended 0 (.cycle 50) result :: after) hmem
    rw [← hsplit] at hserved
    rcases hwriters _ (List.mem_map_of_mem hserved) with hnone | hzero
    · cases hnone.symm.trans hwriter
    · exact Option.some.inj (hwriter.symm.trans hzero)
  have hresult := ((hreports _).2.1 _ _ _ _ _ hsplit).alone .release rfl halone
  exact ⟨hdone, _, after, hresult ▸ hsplit⟩

end Attachment

end CoprocReset.Client
