/-!
# Signed decimal numbers

`readInteger` reads an optional sign and at least one ASCII digit into a range of integers. It
takes the digits from left to right and stops at the first that is none or that leads out of the
range, so a number that is too large is called so even if it ends in a letter, and a letter is
called a bad digit even if the number before it could not grow any more.

Reading what `IntegerRange.contains` lets through gives the value of the digits
(`accumulate_eq_ok`); no other value is ever returned (`readInteger_contains`).
-/

namespace CoprocReset.Text

/-- Why a text is no integer of the range. -/
inductive IntegerFault where
  | empty
  | invalidDigit
  | tooLarge
  | tooSmall
  deriving DecidableEq, Repr

/-- The fault in words. -/
def IntegerFault.message : IntegerFault → String
  | .empty => "cannot parse integer from empty string"
  | .invalidDigit => "invalid digit found in string"
  | .tooLarge => "number too large to fit in target type"
  | .tooSmall => "number too small to fit in target type"

/-- The integers from `least` to `greatest`. -/
structure IntegerRange where
  least : Int
  greatest : Int
  deriving DecidableEq, Repr

/-- The integers of 64 bits with a sign. -/
def IntegerRange.signed64 : IntegerRange :=
  ⟨-9223372036854775808, 9223372036854775807⟩

/-- The natural numbers of 64 bits. -/
def IntegerRange.unsigned64 : IntegerRange := ⟨0, 18446744073709551615⟩

/-- Whether the range contains the integer. -/
def IntegerRange.contains (range : IntegerRange) (n : Int) : Bool :=
  range.least ≤ n && n ≤ range.greatest

/-- The value of an ASCII digit. -/
def digitValue (c : Char) : Option Nat :=
  if c.isDigit then some (c.toNat - '0'.toNat) else none

/-- The sign in front of the digits. -/
inductive Sign where
  | plus
  | minus
  deriving DecidableEq, Repr

/-- The number followed by one more digit, in the direction of the sign. -/
def Sign.extend (sign : Sign) (value : Int) (digit : Nat) : Int :=
  match sign with
  | .plus => value * 10 + digit
  | .minus => value * 10 - digit

/-- What a number that leaves its range in the direction of the sign is called. -/
def Sign.overflow : Sign → IntegerFault
  | .plus => .tooLarge
  | .minus => .tooSmall

/-- The number that the digits continue, as long as it stays in the range. -/
def accumulate (range : IntegerRange) (sign : Sign) (value : Int) :
    List Char → Except IntegerFault Int
  | [] => .ok value
  | c :: rest =>
    match digitValue c with
    | none => .error .invalidDigit
    | some digit =>
      if range.contains (sign.extend value digit) then
        accumulate range sign (sign.extend value digit) rest
      else .error sign.overflow

/-- The integer that the characters write. A sign alone is no number, and a minus sign is read as
one only where the range goes below zero. -/
def readInteger (range : IntegerRange) : List Char → Except IntegerFault Int
  | [] => .error .empty
  | [c] =>
    if c = '+' ∨ c = '-' then .error .invalidDigit else accumulate range .plus 0 [c]
  | c :: rest =>
    if c = '+' then accumulate range .plus 0 rest
    else if c = '-' ∧ range.least < 0 then accumulate range .minus 0 rest
    else accumulate range .plus 0 (c :: rest)

/-- The value of a list of digits, continued from `value`. -/
def digitsValue (sign : Sign) (value : Int) (digits : List Nat) : Int :=
  digits.foldl sign.extend value

/-- Reading succeeds only on digits, and then gives their value. -/
theorem accumulate_eq_ok {range : IntegerRange} {sign : Sign} {value result : Int}
    {cs : List Char} (h : accumulate range sign value cs = .ok result) :
    ∃ digits, cs.mapM digitValue = some digits ∧ result = digitsValue sign value digits := by
  induction cs generalizing value with
  | nil => exact ⟨[], rfl, by simpa [accumulate, digitsValue] using h.symm⟩
  | cons c rest ih =>
    rw [accumulate] at h
    split at h
    · simp at h
    · next digit hd =>
      split at h
      · obtain ⟨digits, hm, hv⟩ := ih h
        exact ⟨digit :: digits, by simp [List.mapM_cons, hd, hm], by simpa [digitsValue] using hv⟩
      · simp at h

/-- What is read from a number within the range stays within it. -/
theorem accumulate_contains {range : IntegerRange} {sign : Sign} {value result : Int}
    {cs : List Char} (hv : range.contains value = true)
    (h : accumulate range sign value cs = .ok result) : range.contains result = true := by
  induction cs generalizing value with
  | nil => simpa [accumulate] using (by simpa [accumulate] using h : value = result) ▸ hv
  | cons c rest ih =>
    rw [accumulate] at h
    split at h
    · simp at h
    · split at h
      · next hc => exact ih hc h
      · simp at h

/-- Only integers of the range are read. -/
theorem readInteger_contains {range : IntegerRange} {cs : List Char} {n : Int}
    (zero : range.contains 0 = true) (h : readInteger range cs = .ok n) :
    range.contains n = true := by
  unfold readInteger at h
  split at h
  · simp at h
  · split at h
    · simp at h
    · exact accumulate_contains zero h
  · split at h
    · exact accumulate_contains zero h
    · split at h <;> exact accumulate_contains zero h

end CoprocReset.Text
