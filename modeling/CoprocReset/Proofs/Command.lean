import CoprocReset.Proofs.Text.Numeral
import CoprocReset.Reset.Command

/-!
# What is accepted as a command

A text is a command exactly if it is, between its outer blanks, a numeral of zero or of one
(`Command.parse_grammar`). Every other text is refused: with the value, if it is the numeral of
another integer of 64 bits, else with the text as it came.
-/

namespace CoprocReset

open Text

namespace CommandFault

theorem message_notInteger (input : String) (fault : IntegerFault) :
    (notInteger input fault).message =
      "Cannot parse " ++ quote input ++ " as an integer: " ++ fault.message ++
        " (expected 0 or 1)" := rfl

theorem message_noState (value : Int) :
    (noState value).message =
      "Invalid value for reset state: " ++ toString value ++ " (expected 0 or 1)" := rfl

/-- The value can be read off the message. -/
theorem message_noState_inj {v w : Int} :
    (noState v).message = (noState w).message ↔ v = w := by
  refine ⟨fun h => ?_, fun h => h ▸ rfl⟩
  rw [message_noState, message_noState, String.append_left_inj, String.append_right_inj] at h
  exact (numeral_toString v).unique (h ▸ numeral_toString w)

/-- The two refusals differ in the first letter. -/
theorem message_notInteger_ne (input : String) (fault : IntegerFault) (value : Int) :
    (notInteger input fault).message ≠ (noState value).message := by
  rw [message_notInteger, message_noState]
  intro h
  have := congrArg String.toList h
  simp at this

end CommandFault

namespace Command

theorem parse_error {input : String} {failure : Failure}
    (h : parse input = .error failure) : ∃ text, failure = .invalidCommand text := by
  rw [parse] at h
  cases hread : read input with
  | ok command => rw [hread] at h; cases h
  | error fault => rw [hread] at h; cases h; exact ⟨_, rfl⟩

/-- The integer that stands for the command. -/
def toInt : Command → Int
  | .hold => 0
  | .release => 1

theorem ofInt?_eq_some_iff {value : Int} {command : Command} :
    ofInt? value = some command ↔ value = command.toInt := by
  rw [ofInt?]
  split
  · cases command <;> simp_all [toInt]
  · split <;> cases command <;> simp_all [toInt]

theorem ofInt?_eq_none_iff {value : Int} : ofInt? value = none ↔ value ≠ 0 ∧ value ≠ 1 := by
  rw [ofInt?]
  split
  · simp_all
  · split <;> simp_all

variable {input : String} {command : Command} {value : Int}

/-- What is read is what is written between the outer blanks, if it is an integer of 64 bits. -/
theorem readInteger_trimChars :
    readInteger .signed64 (trimChars input.toList) = .ok value ↔
      Numeral (trimChars input.toList) value ∧ IntegerRange.signed64.contains value = true :=
  readInteger_eq_ok_iff rfl (by decide)

/-- The texts of a command are the numerals of its integer. -/
theorem read_eq_ok_iff :
    read input = .ok command ↔ Numeral (trimChars input.toList) command.toInt := by
  have range : IntegerRange.signed64.contains command.toInt = true := by cases command <;> rfl
  rw [← and_iff_left (a := Numeral _ _) range, ← readInteger_trimChars, read]
  cases readInteger .signed64 (trimChars input.toList) with
  | error fault => simp
  | ok value =>
    simp only [Except.ok.injEq, ← ofInt?_eq_some_iff]
    cases ofInt? value <;> simp

/-- The value is refused if it is an integer of 64 bits without a state. -/
theorem read_eq_noState_iff :
    read input = .error (.noState value) ↔
      Numeral (trimChars input.toList) value ∧ IntegerRange.signed64.contains value = true ∧
        value ≠ 0 ∧ value ≠ 1 := by
  rw [← and_assoc, ← readInteger_trimChars, ← ofInt?_eq_none_iff, read]
  cases readInteger .signed64 (trimChars input.toList) with
  | error fault => simp
  | ok n =>
    simp only [Except.ok.injEq]
    cases h : ofInt? n with
    | some command => simp; rintro rfl; simp [h]
    | none => simp; rintro rfl; exact h

/-- All other texts are refused as they are. -/
theorem read_eq_notInteger_iff :
    (∃ fault, read input = .error (.notInteger input fault)) ↔
      ¬ ∃ value, Numeral (trimChars input.toList) value ∧
        IntegerRange.signed64.contains value = true := by
  simp only [← readInteger_trimChars]
  rw [read]
  cases readInteger .signed64 (trimChars input.toList) with
  | error fault => simp
  | ok value => cases h : ofInt? value <;> simp [h]

theorem parse_of_read (h : read input = .ok command) : parse input = .ok command := by
  rw [parse, h]
  rfl

/-- A fault is handed on in words. -/
theorem parse_of_fault {fault : CommandFault} (h : read input = .error fault) :
    parse input = .error (.invalidCommand fault.message) := by
  rw [parse, h]
  rfl

theorem parse_eq_ok_iff : parse input = .ok command ↔ read input = .ok command := by
  cases h : read input with
  | ok read => simp [parse_of_read h]
  | error fault => simp [parse_of_fault h]

/-- What is accepted can be carried in a message. -/
theorem null_not_mem (h : parse input = .ok command) : '\x00' ∉ input.toList := by
  have hnumeral := read_eq_ok_iff.1 (parse_eq_ok_iff.1 h)
  obtain ⟨before, after, htext, hblank⟩ := (trimmed_trimChars input.toList).around
  rw [htext, List.append_assoc, List.mem_append, List.mem_append]
  rintro (hmem | hmem | hmem)
  · exact absurd (hblank _ (List.mem_append_left _ hmem)) (by decide)
  · exact absurd (hnumeral.mem hmem) (by decide)
  · exact absurd (hblank _ (List.mem_append_right _ hmem)) (by decide)

/-- The message tells a value without a state from any other fault. -/
theorem parse_eq_noState_iff :
    parse input = .error (.invalidCommand (CommandFault.noState value).message) ↔
      read input = .error (.noState value) := by
  rcases h : read input with (⟨text, fault⟩ | n) | command
  · simp [parse_of_fault h, CommandFault.message_notInteger_ne]
  · simp [parse_of_fault h, CommandFault.message_noState_inj]
  · simp [parse_of_read h]

/-- The text in the fault is the one that was to be read. -/
theorem read_eq_notInteger {text : String} {fault : IntegerFault}
    (h : read input = .error (.notInteger text fault)) : text = input := by
  rw [read] at h
  split at h
  · cases h
    rfl
  · split at h <;> cases h

theorem parse_eq_notInteger_iff :
    (∃ fault,
      parse input = .error (.invalidCommand (CommandFault.notInteger input fault).message)) ↔
        ∃ fault, read input = .error (.notInteger input fault) := by
  rcases h : read input with (⟨text, fault⟩ | value) | command
  · obtain rfl := read_eq_notInteger h
    exact ⟨fun _ => ⟨fault, rfl⟩, fun _ => ⟨fault, parse_of_fault h⟩⟩
  · simp [parse_of_fault h, (CommandFault.message_notInteger_ne _ _ _).symm]
  · simp [parse_of_read h]

/-- Every text is held against the grammar of the two commands, between its outer blanks. -/
theorem parse_grammar (input : String) :
    ∃ core, Trimmed input.toList core ∧
      (parse input = .ok .hold ↔
        ∃ mark ∈ [[], ['+'], ['-']], ∃ k, core = mark ++ List.replicate (k + 1) '0') ∧
      (parse input = .ok .release ↔
        ∃ mark ∈ [[], ['+']], ∃ k, core = mark ++ (List.replicate k '0' ++ ['1'])) ∧
      (∀ value : Int,
        parse input = .error (.invalidCommand
            ("Invalid value for reset state: " ++ toString value ++ " (expected 0 or 1)")) ↔
          Numeral core value ∧ IntegerRange.signed64.contains value = true ∧
            value ≠ 0 ∧ value ≠ 1) ∧
      ((∃ fault : IntegerFault,
        parse input = .error (.invalidCommand
            ("Cannot parse " ++ quote input ++ " as an integer: " ++ fault.message ++
              " (expected 0 or 1)"))) ↔
          ¬ ∃ value, Numeral core value ∧ IntegerRange.signed64.contains value = true) ∧
      ∀ failure, parse input = .error failure → ∃ text, failure = .invalidCommand text := by
  refine ⟨trimChars input.toList, trimmed_trimChars _, ?_, ?_, ?_, ?_, fun _ => parse_error⟩
  · rw [parse_eq_ok_iff, read_eq_ok_iff]
    exact numeral_zero
  · rw [parse_eq_ok_iff, read_eq_ok_iff]
    exact numeral_one
  · exact fun value => parse_eq_noState_iff.trans read_eq_noState_iff
  · exact parse_eq_notInteger_iff.trans read_eq_notInteger_iff

example : parse "\t+001\n" = .ok .release := by rfl
example : parse "-0" = .ok .hold := by rfl

end Command

end CoprocReset
