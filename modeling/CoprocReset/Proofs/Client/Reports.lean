import CoprocReset.Proofs.Client.Crowd
import CoprocReset.Proofs.Command

/-!
# What clients report

As long as every call is answered from the last command that was accepted before it (`Told`), an
errand ends as its `Verdict` says, whatever other clients do between its calls: with the report on
the last command before its own look, or with the refusal of what was written (`sure_calls`). If
nobody else writes, the report is on the command that the errand asked for (`lastCommand_of_wrote`).
-/

namespace CoprocReset.Client

/-! ## Reports on clear states -/

/-- The code and the name of the state that the command asks for. -/
def shown : Command → String
  | .hold => "0 (held-in-reset)"
  | .release => "1 (running)"

/-- The report on an attribute whose coprocessor does as the command says. -/
def reportOn (attributeName : String) (command : Command) : String :=
  "---- DEVICE ----\n| attribute | state |\n| " ++ attributeName ++ " | " ++ shown command ++ " |"

/-- What a controller says of the state after a command is decoded as that state. -/
theorem report_content (attributeName : String) (command : Command) :
    report attributeName (toString command.target.code ++ "\n") =
      reportOn attributeName command := by
  have hcode : Text.trim (toString command.target.code ++ "\n") = toString command.target.code := by
    cases command <;> decide
  have hname : describe (toString command.target.code ++ "\n") = command.target.name := by
    cases command <;> decide
  have hshown : toString command.target.code ++ (" (" ++ (command.target.name ++ ") |")) =
      shown command ++ " |" := by
    cases command <;> decide
  unfold report reportOn
  rw [hcode, hname, String.append_assoc, String.append_assoc, String.append_assoc, hshown,
    ← String.append_assoc]

/-! ## What an errand comes to -/

namespace Errand

/-- The errand writes nothing that the daemon refuses. -/
def IsAccepted (errand : Errand) : Prop :=
  ∀ data, errand = .write data → ∃ command, Command.parse data = .ok command

/-- The text that is written last. -/
def lastWritten : Errand → Option String
  | .status => none
  | .write data => some data
  | .cycle _ => some (textOf .release)

/-- The command that the errand asks for in the end. -/
def asked : Errand → Option Command
  | .status => none
  | .write data => (Command.parse data).toOption
  | .cycle _ => some .release

/-- It is the one that is written last. -/
theorem parse_lastWritten {errand : Errand} {command : Command} (h : errand.asked = some command) :
    ∃ data, errand.lastWritten = some data ∧ Command.parse data = .ok command := by
  cases errand with
  | status => cases h
  | write data =>
    refine ⟨data, rfl, ?_⟩
    cases hparse : Command.parse data with
    | ok written =>
      rw [asked, hparse] at h
      cases h
      rfl
    | error failure =>
      rw [asked, hparse] at h
      cases h
  | cycle holdMs =>
    cases h
    exact ⟨_, rfl, parse_textOf .release⟩

theorem isAccepted_of_asked {errand : Errand} {command : Command}
    (h : errand.asked = some command) : errand.IsAccepted := by
  rintro data rfl
  obtain ⟨_, hlast, hparse⟩ := parse_lastWritten h
  cases hlast
  exact ⟨command, hparse⟩

end Errand

open Crowd (Event lastCommand)

/-- Other clients than this one have made the events. -/
def Others (client : Nat) (events : List Event) : Prop := ∀ event ∈ events, event.client ≠ client

theorem others_nil (client : Nat) : Others client [] := fun _ hevent => by cases hevent

theorem Others.append {client : Nat} {events later : List Event} (h : Others client events)
    (hlater : Others client later) : Others client (events ++ later) := fun event hevent =>
  (List.mem_append.1 hevent).elim (h event) (hlater event)

/-- What is answered to a text that is written. -/
inductive Received (data : String) : Except Bus.CallError Nat → Prop
  | accepted {command : Command} (h : Command.parse data = .ok command) :
    Received data (.ok data.utf8ByteSize)
  | rejected {failure : Failure} (h : Command.parse data = .error failure) :
    Received data (.error (.replied failure.reply))
  | unreadable (h : '\x00' ∈ data.toList) : Received data (.error (.replied Bus.unreadable))

/-- What a call is answered after the last command. -/
def Told (command : Command) : {α : Type} → ClientCall α → Except Bus.CallError α → Prop
  | _, .read, answer => answer = .ok (toString command.target.code ++ "\n")
  | _, .write data, answer => Received data answer
  | _, .pause _, answer => answer = .ok ()

/-- The last that the client did was to write what it writes last, if it writes, and that was
accepted. -/
def Wrote (client : Nat) (errand : Errand) (history : List Event) : Prop :=
  ∀ data, errand.lastWritten = some data → ∃ command earlier size since,
    Command.parse data = .ok command ∧
      history = earlier ++ .called client (.write data) (.ok size) :: since ∧ Others client since

/-- What an errand ends with after a history. -/
inductive Verdict (attributeName : String) (client : Nat) (errand : Errand) (history : List Event) :
    Except Bus.CallError String → Prop
  | reported {earlier since : List Event} {content : String}
    (h : history = earlier ++ .called client .read (.ok content) :: since)
    (hothers : Others client since) (hwrote : Wrote client errand earlier) :
    Verdict attributeName client errand history (.ok (reportOn attributeName (lastCommand earlier)))
  | rejected {data : String} {failure : Failure} (h : errand = .write data)
    (hparse : Command.parse data = .error failure) :
    Verdict attributeName client errand history (.error (.replied failure.reply))
  | unreadable {data : String} (h : errand = .write data) (hnull : '\x00' ∈ data.toList) :
    Verdict attributeName client errand history (.error (.replied Bus.unreadable))

/-- Whatever others do in between, if the calls are answered from the last command, the dialogue
ends with the verdict. -/
def Sure (attributeName : String) (client : Nat) (errand : Errand) :
    Dialogue String → List Event → Prop
  | .finish result, history =>
    ∀ since, Others client since → Verdict attributeName client errand (history ++ since) result
  | .call request next, history =>
    ∀ since answer, Others client since → Told (lastCommand (history ++ since)) request answer →
      Sure attributeName client errand (next answer)
        (history ++ since ++ [.called client request answer])

section Sure

variable {attributeName : String} {client : Nat} {errand : Errand} {history : List Event}

/-- What others do makes no difference. -/
theorem Sure.others {rest : Dialogue String} (h : Sure attributeName client errand rest history)
    {since : List Event} (hsince : Others client since) :
    Sure attributeName client errand rest (history ++ since) := by
  cases rest with
  | finish result =>
    intro later hlater
    rw [List.append_assoc]
    exact h _ (hsince.append hlater)
  | call request next =>
    intro later answer hlater htold
    have hrest := h (since ++ later) answer (hsince.append hlater)
    rw [← List.append_assoc] at hrest
    exact hrest htold

/-- A look ends with the report on the last command. -/
theorem sure_look (h : ∀ since, Others client since → Wrote client errand (history ++ since)) :
    Sure attributeName client errand (look attributeName) history := by
  rintro since _ hsince rfl later hlater
  rw [report_content, List.append_assoc _ [_] later]
  exact .reported rfl hlater (h since hsince)

/-- After what is written the errand goes on if the text was accepted, and else it ends. -/
theorem sure_send {data : String} {next : Unit → Dialogue String}
    (haccepted : ∀ command since, Command.parse data = .ok command → Others client since →
      Sure attributeName client errand (next ())
        (history ++ since ++ [.called client (.write data) (.ok data.utf8ByteSize)]))
    (hrefused : ∀ error, Received data (.error error) →
      ∀ events, Verdict attributeName client errand events (.error error)) :
    Sure attributeName client errand (send data >>= next) history := by
  intro since answer hsince htold
  cases htold with
  | accepted hparse => exact haccepted _ since hparse hsince
  | rejected hparse => exact fun later _ => hrefused _ (.rejected hparse) _
  | unreadable hnull => exact fun later _ => hrefused _ (.unreadable hnull) _

/-- After what is written last comes the look. -/
theorem sure_send_look {data : String} (hlast : errand.lastWritten = some data)
    (hrefused : ∀ error, Received data (.error error) →
      ∀ events, Verdict attributeName client errand events (.error error)) :
    Sure attributeName client errand (send data >>= fun _ => look attributeName) history := by
  refine sure_send (fun command since hparse _ => sure_look fun later hlater data' hdata' => ?_)
    hrefused
  obtain rfl := Option.some.inj (hlast.symm.trans hdata')
  exact ⟨command, history ++ since, _, later, hparse, List.append_assoc _ [_] later, hlater⟩

/-- The texts of commands are not refused. -/
theorem not_received_error {command : Command} {error : Bus.CallError} :
    ¬ Received (Errand.textOf command) (.error error) := by
  have hparse := Errand.parse_textOf command
  rintro (_ | h | hnull)
  · cases hparse.symm.trans h
  · exact Command.null_not_mem hparse hnull

/-- Every errand ends with the verdict. -/
theorem sure_calls (attributeName : String) (client : Nat) (errand : Errand)
    (history : List Event) :
    Sure attributeName client errand (errand.calls attributeName) history := by
  cases errand with
  | status => exact sure_look fun _ _ _ hnone => by cases hnone
  | write data =>
    refine sure_send_look rfl fun error herror events => ?_
    cases herror with
    | rejected hparse => exact .rejected rfl hparse
    | unreadable hnull => exact .unreadable rfl hnull
  | cycle holdMs =>
    refine sure_send (fun _ since _ _ => ?_) fun _ herror => absurd herror not_received_error
    rintro later _ - rfl
    exact sure_send_look rfl fun _ herror => absurd herror not_received_error

end Sure

/-! ## What the verdict says -/

section Verdict

variable {attributeName : String} {client : Nat} {errand : Errand} {history : List Event}
  {result : Except Bus.CallError String} {command : Command}

/-- An errand that is accepted ends with the report on the last command before its own look. -/
theorem Verdict.of_isAccepted (h : Verdict attributeName client errand history result)
    (haccepted : errand.IsAccepted) :
    ∃ earlier content since,
      history = earlier ++ .called client .read (.ok content) :: since ∧ Others client since ∧
        Wrote client errand earlier ∧
        result = .ok (reportOn attributeName (lastCommand earlier)) := by
  cases h with
  | reported h hothers hwrote => exact ⟨_, _, _, h, hothers, hwrote, rfl⟩
  | rejected h hparse =>
    obtain ⟨command, hcommand⟩ := haccepted _ h
    cases hcommand.symm.trans hparse
  | unreadable h hnull =>
    obtain ⟨command, hcommand⟩ := haccepted _ h
    exact absurd hnull (Command.null_not_mem hcommand)

/-- A text that is no command is refused. -/
theorem Verdict.of_rejected {data : String} {failure : Failure}
    (h : Verdict attributeName client (.write data) history result)
    (hnull : '\x00' ∉ data.toList) (hparse : Command.parse data = .error failure) :
    result = .error (.replied failure.reply) := by
  cases h with
  | reported _ _ hwrote =>
    obtain ⟨command, _, _, _, hcommand, -⟩ := hwrote data rfl
    cases hcommand.symm.trans hparse
  | rejected h hparse' =>
    cases h
    cases hparse.symm.trans hparse'
    rfl
  | unreadable h hnull' =>
    cases h
    exact absurd hnull' hnull

/-- If nobody else writes, the last command is the one that the client asked for last. -/
theorem lastCommand_of_wrote (h : Wrote client errand history)
    (hasked : errand.asked = some command)
    (halone : ∀ event ∈ history, ∀ writer, event.writer? = some writer → writer = client) :
    lastCommand history = command := by
  obtain ⟨data, hlast, hparse⟩ := Errand.parse_lastWritten hasked
  obtain ⟨_, earlier, size, since, -, rfl, hsince⟩ := h data hlast
  -- nothing that was written since is by the client, so nothing was
  have hnone : ∀ event ∈ since, event.command? = none := by
    intro event hevent
    unfold Event.command?
    split
    · next other data size =>
      have hsame := halone _ (List.mem_append_right _ (List.mem_cons_of_mem _ hevent)) other rfl
      exact absurd hsame (hsince _ hevent)
    · rfl
  rw [← List.singleton_append, ← List.append_assoc, Crowd.lastCommand_append hnone,
    Crowd.lastCommand_snoc, Crowd.command?_accepted hparse]
  rfl

/-- What an errand that has ended with a result after a history has come to. -/
structure Concluded (attributeName : String) (client : Nat) (errand : Errand) (history : List Event)
    (result : Except Bus.CallError String) : Prop where
  /-- If it wrote nothing but commands, it reports the last command before its own look. -/
  reported : errand.IsAccepted → ∃ earlier content since,
    history = earlier ++ .called client .read (.ok content) :: since ∧ Others client since ∧
      result = .ok (reportOn attributeName (lastCommand earlier))
  /-- If nobody else wrote, it reports what it asked for. -/
  alone : ∀ command, errand.asked = some command →
    (∀ event ∈ history, ∀ writer, event.writer? = some writer → writer = client) →
      result = .ok (reportOn attributeName command)
  /-- If it wrote a text that is no command, the daemon refused that. -/
  refused : ∀ data failure, errand = .write data → '\x00' ∉ data.toList →
    Command.parse data = .error failure → result =
      .error (.replied ⟨"org.freedesktop.DBus.Error.InvalidArgs", some failure.message⟩)

theorem Verdict.concluded (h : Verdict attributeName client errand history result) :
    Concluded attributeName client errand history result where
  reported haccepted := by
    obtain ⟨earlier, content, since, hhistory, hsince, -, hresult⟩ := h.of_isAccepted haccepted
    exact ⟨earlier, content, since, hhistory, hsince, hresult⟩
  alone command hasked halone := by
    obtain ⟨earlier, content, since, rfl, -, hwrote, rfl⟩ :=
      h.of_isAccepted (Errand.isAccepted_of_asked hasked)
    rw [lastCommand_of_wrote hwrote hasked fun event hevent =>
      halone event (List.mem_append_left _ hevent)]
  refused data failure herrand hnull hparse := by
    subst herrand
    obtain ⟨text, rfl⟩ := Command.parse_error hparse
    exact h.of_rejected hnull hparse

end Verdict

end CoprocReset.Client
