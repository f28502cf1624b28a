import CoprocReset.Client.Run
import CoprocReset.Proofs.Action

/-!
# Clients at one attribute

Any number of clients have errands at one attribute. An errand is cut into its calls, and a
scheduler picks which client is next to begin an errand or to make its next call (`Crowd.run`), so
the calls of several clients come in any order. An errand that no other client comes between is
`Client.carryOut` (`run_alone`).

The history says which command was carried out last (`lastCommand`).
-/

namespace CoprocReset.Client

variable {W L : Type}

/-- What a client is at. -/
inductive Caller where
  | idle
  /-- On an errand, with what is left of its dialogue. -/
  | busy (errand : Errand) (rest : Dialogue String)

/-- A station with the clients at one of its attributes. -/
structure Crowd (W L : Type) where
  station : Station W L Bus.ObjectTable
  callers : Nat → Caller

namespace Crowd

/-- What the scheduler picks: a client begins an errand, or goes on with its own. -/
inductive Move where
  | begin (client : Nat) (errand : Errand)
  | advance (client : Nat)

/-- The client goes on. -/
def Move.isTurnOf (client : Nat) : Move → Bool
  | .begin _ _ => false
  | .advance other => other == client

/-- What has happened, in its order. -/
inductive Event where
  | began (client : Nat) (errand : Errand)
  | called (client : Nat) {α : Type} (request : ClientCall α) (answer : Except Bus.CallError α)
  | ended (client : Nat) (errand : Errand) (result : Except Bus.CallError String)
  /-- A call came to no answer. -/
  | lost (client : Nat)

/-- Who it happened to. -/
def Event.client : Event → Nat
  | .began client _ | .called client _ _ | .ended client _ _ | .lost client => client

/-- Who wrote to the attribute. -/
def Event.writer? : Event → Option Nat
  | .called client (.write _) _ => some client
  | _ => none

/-- The command of a text that was accepted. -/
def Event.command? : Event → Option Command
  | .called _ (.write data) (.ok _) => (Command.parse data).toOption
  | _ => none

/-- The last command that was carried out. A coprocessor that was told nothing runs. -/
def lastCommand (history : List Event) : Command :=
  history.foldl (fun command event => event.command?.getD command) .release

theorem lastCommand_snoc (history : List Event) (event : Event) :
    lastCommand (history ++ [event]) = event.command?.getD (lastCommand history) := by
  simp [lastCommand]

theorem command?_accepted {client : Nat} {data : String} {size : Nat} {command : Command}
    (h : Command.parse data = .ok command) :
    (Event.called client (.write data) (.ok size)).command? = some command := by
  rw [Event.command?, h]
  rfl

/-- Where no command was carried out since, the last one is as it was. -/
theorem lastCommand_append {history since : List Event}
    (h : ∀ event ∈ since, event.command? = none) :
    lastCommand (history ++ since) = lastCommand history := by
  rw [lastCommand, List.foldl_append, ← lastCommand]
  induction since with
  | nil => rfl
  | cons event since ih =>
    rw [List.foldl_cons, h event List.mem_cons_self]
    exact ih fun event hevent => h event (List.mem_cons_of_mem _ hevent)

/-- A station with nobody at the attribute. -/
def opened (station : Station W L Bus.ObjectTable) : Crowd W L := ⟨station, fun _ => .idle⟩

/-- Another station, and one client at something else. -/
def put (crowd : Crowd W L) (client : Nat) (caller : Caller)
    (station : Station W L Bus.ObjectTable) : Crowd W L where
  station := station
  callers other := if other = client then caller else crowd.callers other

section Put

variable (crowd : Crowd W L) (client : Nat) (caller : Caller)
  (station : Station W L Bus.ObjectTable)

theorem put_callers (other : Nat) : (crowd.put client caller station).callers other =
    if other = client then caller else crowd.callers other := rfl

@[simp] theorem put_callers_self : (crowd.put client caller station).callers client = caller :=
  if_pos rfl

@[simp] theorem put_put (first second : Caller) (middle last : Station W L Bus.ObjectTable) :
    (crowd.put client first middle).put client second last = crowd.put client second last := by
  simp only [put, mk.injEq, true_and]
  funext other
  split <;> rfl

theorem put_self {crowd : Crowd W L} {client : Nat} {caller : Caller}
    (h : crowd.callers client = caller) (station : Station W L Bus.ObjectTable) :
    crowd.put client caller station = { crowd with station := station } := by
  simp only [put, mk.injEq, true_and]
  funext other
  split
  · next hother => rw [hother, h]
  · rfl

end Put

/-- What a client does next on an errand. -/
def goOn (hw : Hardware W L) (attributeName : String) (crowd : Crowd W L) (client : Nat)
    (errand : Errand) : Dialogue String → Crowd W L × List Event
  | .finish result => (crowd.put client .idle crowd.station, [.ended client errand result])
  | .call request next =>
    let run := perform hw (objectPath attributeName) request crowd.station
    match run.outcome with
    | .done answer =>
      (crowd.put client (.busy errand (next answer)) run.world, [.called client request answer])
    | _ => (crowd.put client .idle run.world, [.lost client])

/-- What comes of a move. A client begins an errand only when it is not on another one. -/
def move (hw : Hardware W L) (attributeName : String) (crowd : Crowd W L) :
    Move → Crowd W L × List Event
  | .begin client errand =>
    match crowd.callers client with
    | .idle =>
      (crowd.put client (.busy errand (errand.dialogue attributeName)) crowd.station,
        [.began client errand])
    | .busy .. => (crowd, [])
  | .advance client =>
    match crowd.callers client with
    | .idle => (crowd, [])
    | .busy errand rest => crowd.goOn hw attributeName client errand rest

/-- What comes of the moves that a scheduler picks, and what happens on the way. -/
def run (hw : Hardware W L) (attributeName : String) (crowd : Crowd W L) :
    List Move → Crowd W L × List Event
  | [] => (crowd, [])
  | first :: rest =>
    let (next, events) := crowd.move hw attributeName first
    let (last, later) := next.run hw attributeName rest
    (last, events ++ later)

theorem run_cons (hw : Hardware W L) (attributeName : String) (crowd : Crowd W L) (first : Move)
    (rest : List Move) :
    (crowd.run hw attributeName (first :: rest)).2 =
      (crowd.move hw attributeName first).2 ++
        ((crowd.move hw attributeName first).1.run hw attributeName rest).2 := rfl

/-! ## A client without others -/

section Alone

variable {crowd : Crowd W L} {client : Nat} {hw : Hardware W L} {attributeName : String}
  {errand : Errand} {result : Except Bus.CallError String}
  {later : Station W L Bus.ObjectTable} {log : Log}

/-- A client that is left alone goes on to the end of its dialogue. -/
theorem run_busy {rest : Dialogue String} (hbusy : crowd.callers client = .busy errand rest)
    (hrun : rest.run (perform hw (objectPath attributeName)) crowd.station =
      ⟨.done result, later, log⟩) :
    ∃ turns events, crowd.run hw attributeName (List.replicate turns (.advance client)) =
      (crowd.put client .idle later, events ++ [.ended client errand result]) := by
  induction rest generalizing crowd log with
  | finish ending =>
    obtain ⟨hending, hlater, -⟩ := Run.mk.inj hrun
    cases hending
    refine ⟨1, [], ?_⟩
    simp only [List.replicate_one, run, move, hbusy, goOn, List.nil_append, List.append_nil,
      ← hlater]
  | call request next ih =>
    rw [Script.run] at hrun
    rcases hcall : perform hw (objectPath attributeName) request crowd.station
      with ⟨answer | failure | message, middle, log'⟩
    · rcases hrest : (next answer).run (perform hw (objectPath attributeName)) middle
        with ⟨outcome, last, log''⟩
      rw [Action.bind_done hcall, hrest] at hrun
      obtain ⟨rfl, rfl, -⟩ := Run.mk.inj hrun
      obtain ⟨turns, events, hturns⟩ := ih answer (put_callers_self crowd client _ middle) hrest
      refine ⟨turns + 1, .called client request answer :: events, ?_⟩
      simp only [List.replicate_succ, run, move, hbusy, goOn, hcall, hturns, put_put]
      rfl
    · rw [Action.bind_failed hcall] at hrun
      cases hrun
    · rw [Action.bind_crashed hcall] at hrun
      cases hrun

/-- An errand that no other client comes between ends as it is carried out. -/
theorem run_alone (hidle : crowd.callers client = .idle)
    (hrun : carryOut hw ⟨attributeName, errand⟩ crowd.station = ⟨.done result, later, log⟩) :
    ∃ turns events,
      crowd.run hw attributeName (.begin client errand :: List.replicate turns (.advance client)) =
        ({ crowd with station := later },
          .began client errand :: (events ++ [.ended client errand result])) := by
  let begun := crowd.put client (.busy errand (errand.dialogue attributeName)) crowd.station
  have hbusy : begun.callers client = .busy errand (errand.dialogue attributeName) :=
    put_callers_self ..
  have hdialogue : (errand.dialogue attributeName).run (perform hw (objectPath attributeName))
      begun.station = ⟨.done result, later, log⟩ := hrun
  obtain ⟨turns, events, hturns⟩ := run_busy hbusy hdialogue
  refine ⟨turns, events, ?_⟩
  simp only [run, move, hidle]
  rw [hturns, put_put, put_self hidle]
  rfl

end Alone

end Crowd

end CoprocReset.Client
