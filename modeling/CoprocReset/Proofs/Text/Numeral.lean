import CoprocReset.Text.Blank
import CoprocReset.Text.Decimal

/-!
# Written integers

`Trimmed` and `Numeral` say what the text without its outer blanks is and which characters write
an integer in base ten, without a word on how either is found. `trimChars` finds the one
(`trimmed_iff`), and `readInteger` reads exactly the numerals of its range
(`readInteger_eq_ok_iff`): a number only grows with its digits, so a reader that stops at the
first step out of the range misses none inside it. Zero and one are the numerals of the last two
statements, with any number of zeros in front.
-/

namespace CoprocReset.Text

/-! ## The text without its outer blanks -/

/-- The characters in the middle, with nothing but blanks around them and none at either end. -/
structure Trimmed (text core : List Char) : Prop where
  around : ∃ before after, text = before ++ core ++ after ∧ ∀ c ∈ before ++ after, isBlank c = true
  head : ∀ c, core.head? = some c → isBlank c = false
  last : ∀ c, core.getLast? = some c → isBlank c = false

/-- Blanks in front are dropped up to the first character that is none. -/
theorem dropWhile_blanks {before rest : List Char} (hb : ∀ c ∈ before, isBlank c = true)
    (hr : ∀ c, rest.head? = some c → isBlank c = false) :
    (before ++ rest).dropWhile isBlank = rest := by
  rw [List.dropWhile_append_of_pos hb]
  cases rest with
  | nil => rfl
  | cons c rest => rw [List.dropWhile_cons_of_neg (by simp [hr c rfl])]

theorem trimmed_trimChars (text : List Char) : Trimmed text (trimChars text) := by
  have front : text = text.takeWhile isBlank ++ trimStart text :=
    List.takeWhile_append_dropWhile.symm
  have back : trimStart text =
      trimChars text ++ ((trimStart text).reverse.takeWhile isBlank).reverse := by
    rw [trimChars, trimEnd, ← List.reverse_append, List.takeWhile_append_dropWhile,
      List.reverse_reverse]
  refine ⟨⟨_, _, by rw [List.append_assoc, ← back]; exact front, fun c hc => ?_⟩,
    fun c hc => ?_, fun c hc => getLast_trimChars hc⟩
  · rcases List.mem_append.1 hc with hc | hc
    · exact List.all_eq_true.1 List.all_takeWhile c hc
    · exact List.all_eq_true.1 List.all_takeWhile c (List.mem_reverse.1 hc)
  · refine @head_trimStart text c ?_
    rw [back, List.head?_append, hc]
    rfl

/-- There is one such middle, the one that is found by dropping blanks at both ends. -/
theorem trimmed_iff {text core : List Char} : Trimmed text core ↔ core = trimChars text := by
  refine ⟨fun h => ?_, fun h => h ▸ trimmed_trimChars text⟩
  obtain ⟨before, after, rfl, hblank⟩ := h.around
  have hbefore : ∀ c ∈ before, isBlank c = true := fun c hc =>
    hblank c (List.mem_append_left _ hc)
  have hafter : ∀ c ∈ after.reverse, isBlank c = true := fun c hc =>
    hblank c (List.mem_append_right _ (List.mem_reverse.1 hc))
  by_cases hcore : core = []
  · subst hcore
    have hall : trimStart (before ++ [] ++ after) = [] := by
      rw [trimStart, List.append_nil, ← List.append_nil (before ++ after)]
      exact dropWhile_blanks hblank (by simp)
    rw [trimChars, hall]
    rfl
  · have hstart : trimStart (before ++ core ++ after) = core ++ after := by
      rw [trimStart, List.append_assoc]
      refine dropWhile_blanks hbefore fun c hc => h.head c ?_
      obtain ⟨d, rest, rfl⟩ := List.exists_cons_of_ne_nil hcore
      exact hc
    rw [trimChars, hstart, trimEnd, List.reverse_append,
      dropWhile_blanks hafter (by simpa [List.head?_reverse] using h.last), List.reverse_reverse]

/-! ## Numerals -/

/-- The ways to write the sign of a number. -/
def Sign.marks : Sign → List (List Char)
  | .plus => [[], ['+']]
  | .minus => [['-']]

/-- The natural number with the sign. -/
def Sign.apply : Sign → Nat → Int
  | .plus, n => n
  | .minus, n => -n

/-- The characters write the natural number: one ASCII digit or more, with any zeros in front. -/
def Digits (cs : List Char) (n : Nat) : Prop :=
  cs ≠ [] ∧ (∀ c ∈ cs, c.isDigit = true) ∧ n = Nat.ofDigitChars 10 cs 0

/-- The characters write the integer: a mark of its sign and then digits. -/
def Numeral (cs : List Char) (value : Int) : Prop :=
  ∃ sign : Sign, ∃ mark ∈ sign.marks, ∃ digits n,
    cs = mark ++ digits ∧ Digits digits n ∧ value = sign.apply n

theorem Digits.ne_mark {c : Char} {cs : List Char} {n : Nat} (h : Digits (c :: cs) n) :
    c ≠ '+' ∧ c ≠ '-' := by
  have hc := h.2.1 c List.mem_cons_self
  constructor <;> (rintro rfl; simp at hc)

theorem numeral_plus {cs : List Char} {value : Int} :
    Numeral ('+' :: cs) value ↔ ∃ n, Digits cs n ∧ value = Sign.plus.apply n := by
  refine ⟨?_, fun ⟨n, hn, hv⟩ => ⟨.plus, ['+'], by simp [Sign.marks], cs, n, rfl, hn, hv⟩⟩
  rintro ⟨sign, mark, hmark, digits, n, hcs, hn, hv⟩
  cases sign with
  | plus =>
    simp only [Sign.marks, List.mem_cons, List.not_mem_nil, or_false] at hmark
    rcases hmark with rfl | rfl
    · subst hcs
      exact absurd rfl hn.ne_mark.1
    · cases hcs
      exact ⟨n, hn, hv⟩
  | minus =>
    cases List.mem_singleton.1 hmark
    cases hcs

theorem numeral_minus {cs : List Char} {value : Int} :
    Numeral ('-' :: cs) value ↔ ∃ n, Digits cs n ∧ value = Sign.minus.apply n := by
  refine ⟨?_, fun ⟨n, hn, hv⟩ => ⟨.minus, ['-'], by simp [Sign.marks], cs, n, rfl, hn, hv⟩⟩
  rintro ⟨sign, mark, hmark, digits, n, hcs, hn, hv⟩
  cases sign with
  | plus =>
    simp only [Sign.marks, List.mem_cons, List.not_mem_nil, or_false] at hmark
    rcases hmark with rfl | rfl
    · subst hcs
      exact absurd rfl hn.ne_mark.2
    · cases hcs
  | minus =>
    cases List.mem_singleton.1 hmark
    cases hcs
    exact ⟨n, hn, hv⟩

/-- Without a mark the digits are those of a positive number or zero. -/
theorem numeral_bare {c : Char} {cs : List Char} {value : Int} (hplus : c ≠ '+')
    (hminus : c ≠ '-') :
    Numeral (c :: cs) value ↔ ∃ n, Digits (c :: cs) n ∧ value = Sign.plus.apply n := by
  refine ⟨?_, fun ⟨n, hn, hv⟩ => ⟨.plus, [], by simp [Sign.marks], c :: cs, n, rfl, hn, hv⟩⟩
  rintro ⟨sign, mark, hmark, digits, n, hcs, hn, hv⟩
  cases sign with
  | plus =>
    simp only [Sign.marks, List.mem_cons, List.not_mem_nil, or_false] at hmark
    rcases hmark with rfl | rfl
    · subst hcs
      exact ⟨n, hn, hv⟩
    · cases hcs
      exact absurd rfl hplus
  | minus =>
    cases List.mem_singleton.1 hmark
    cases hcs
    exact absurd rfl hminus

/-- A numeral has no characters but a mark and digits. -/
theorem Numeral.mem {cs : List Char} {value : Int} {c : Char} (h : Numeral cs value)
    (hc : c ∈ cs) : c = '+' ∨ c = '-' ∨ c.isDigit = true := by
  obtain ⟨sign, mark, hmark, digits, n, rfl, ⟨-, hdigits, -⟩, -⟩ := h
  rcases List.mem_append.1 hc with hc | hc
  · cases sign with
    | plus =>
      simp only [Sign.marks, List.mem_cons, List.not_mem_nil, or_false] at hmark
      rcases hmark with rfl | rfl
      · cases hc
      · exact .inl (List.mem_singleton.1 hc)
    | minus =>
      cases List.mem_singleton.1 hmark
      exact .inr (.inl (List.mem_singleton.1 hc))
  · exact .inr (.inr (hdigits c hc))

theorem not_numeral_nil {value : Int} : ¬ Numeral [] value := by
  rintro ⟨sign, mark, -, digits, n, hcs, hn, -⟩
  exact hn.1 (List.append_eq_nil_iff.1 hcs.symm).2

/-- A numeral writes one integer. -/
theorem Numeral.unique {cs : List Char} {v w : Int} (hv : Numeral cs v) (hw : Numeral cs w) :
    v = w := by
  have signed : ∀ (sign : Sign) (cs : List Char), (∃ n, Digits cs n ∧ v = sign.apply n) →
      (∃ n, Digits cs n ∧ w = sign.apply n) → v = w := by
    rintro sign cs ⟨_, ⟨-, -, rfl⟩, rfl⟩ ⟨_, ⟨-, -, rfl⟩, rfl⟩
    rfl
  cases cs with
  | nil => exact absurd hv not_numeral_nil
  | cons c cs =>
    by_cases hplus : c = '+'
    · subst hplus
      exact signed .plus cs (numeral_plus.1 hv) (numeral_plus.1 hw)
    · by_cases hminus : c = '-'
      · subst hminus
        exact signed .minus cs (numeral_minus.1 hv) (numeral_minus.1 hw)
      · exact signed .plus (c :: cs) ((numeral_bare hplus hminus).1 hv)
          ((numeral_bare hplus hminus).1 hw)

theorem digits_toDigits (n : Nat) : Digits (Nat.toDigits 10 n) n :=
  ⟨Nat.toDigits_ne_nil, fun _ hc => Nat.isDigit_of_mem_toDigits (by decide) (by decide) hc,
    Nat.ofDigitChars_ten_toDigits.symm⟩

/-- What an integer is printed as is one of its numerals. -/
theorem numeral_toString (value : Int) : Numeral (toString value).toList value := by
  rw [show toString value = value.repr from rfl, Int.repr_eq_if]
  split
  · rw [Nat.toList_repr]
    refine ⟨.plus, [], by simp [Sign.marks], _, _, rfl, digits_toDigits _, ?_⟩
    simp only [Sign.apply]
    omega
  · rw [String.toList_append, Nat.toList_repr]
    refine numeral_minus.2 ⟨_, digits_toDigits _, ?_⟩
    simp only [Sign.apply]
    omega

/-! ## Reading exactly the numerals -/

theorem Sign.extend_apply (sign : Sign) (n digit : Nat) :
    sign.extend (sign.apply n) digit = sign.apply (10 * n + digit) := by
  cases sign <;> simp only [extend, apply] <;> omega

/-- A range with zero and a number has all numbers of the same sign before it. -/
theorem IntegerRange.contains_apply {range : IntegerRange} {sign : Sign} {m n : Nat}
    (zero : range.contains 0 = true) (h : m ≤ n) (hn : range.contains (sign.apply n) = true) :
    range.contains (sign.apply m) = true := by
  simp only [contains, Bool.and_eq_true, decide_eq_true_eq] at *
  cases sign <;> simp only [Sign.apply] at * <;> omega

/-- Digits only lead further from zero. -/
theorem le_ofDigitChars (cs : List Char) (n : Nat) : n ≤ Nat.ofDigitChars 10 cs n := by
  induction cs generalizing n with
  | nil => exact Nat.le_refl n
  | cons c cs ih =>
    rw [Nat.ofDigitChars_cons]
    exact Nat.le_trans (by omega) (ih _)

/-- Digits are read to the end exactly if the number that they lead to is in the range. -/
theorem accumulate_eq_ok_iff {range : IntegerRange} {sign : Sign} {n : Nat} {cs : List Char}
    {value : Int} (zero : range.contains 0 = true) (hn : range.contains (sign.apply n) = true) :
    accumulate range sign (sign.apply n) cs = .ok value ↔
      (∀ c ∈ cs, c.isDigit = true) ∧ value = sign.apply (Nat.ofDigitChars 10 cs n) ∧
        range.contains value = true := by
  induction cs generalizing n with
  | nil =>
    simp only [accumulate, Nat.ofDigitChars_nil, Except.ok.injEq, List.not_mem_nil,
      false_implies, implies_true, true_and]
    exact ⟨fun h => ⟨h.symm, h ▸ hn⟩, fun h => h.1.symm⟩
  | cons c cs ih =>
    rw [accumulate, digitValue]
    by_cases hc : c.isDigit = true
    · have extended : sign.extend (sign.apply n) (c.toNat - '0'.toNat) =
          sign.apply (10 * n + (c.toNat - '0'.toNat)) := sign.extend_apply n _
      simp only [hc, if_true, extended, Nat.ofDigitChars_cons, List.forall_mem_cons, true_and]
      split
      · next inside => exact ih inside
      · next outside =>
        refine ⟨fun h => (by cases h), fun h => absurd ?_ outside⟩
        exact IntegerRange.contains_apply zero (le_ofDigitChars cs _) (h.2.1 ▸ h.2.2)
    · simp [hc]

/-- Digits after a sign are read exactly if the number is in the range. -/
theorem accumulate_digits {range : IntegerRange} {sign : Sign} {cs : List Char} {value : Int}
    (zero : range.contains 0 = true) (hcs : cs ≠ []) :
    accumulate range sign 0 cs = .ok value ↔
      (∃ n, Digits cs n ∧ value = sign.apply n) ∧ range.contains value = true := by
  have start : sign.apply 0 = 0 := by cases sign <;> rfl
  rw [← start, accumulate_eq_ok_iff zero (start ▸ zero)]
  constructor
  · rintro ⟨hdigits, hvalue, hin⟩
    exact ⟨⟨_, ⟨hcs, hdigits, rfl⟩, hvalue⟩, hin⟩
  · rintro ⟨⟨n, ⟨-, hdigits, rfl⟩, hvalue⟩, hin⟩
    exact ⟨hdigits, hvalue, hin⟩

/-- Exactly the numerals of the range are read, each as the integer that it writes. -/
theorem readInteger_eq_ok_iff {range : IntegerRange} {cs : List Char} {value : Int}
    (zero : range.contains 0 = true) (negative : range.least < 0) :
    readInteger range cs = .ok value ↔ Numeral cs value ∧ range.contains value = true := by
  match cs with
  | [] => simp [readInteger, not_numeral_nil]
  | [c] =>
    rw [readInteger]
    split
    · next mark =>
      -- A mark alone has no digit after it.
      have alone : ¬ Numeral [c] value := by
        rcases mark with rfl | rfl
        · rw [numeral_plus]
          exact fun ⟨n, hn, _⟩ => hn.1 rfl
        · rw [numeral_minus]
          exact fun ⟨n, hn, _⟩ => hn.1 rfl
      simp [alone]
    · next mark =>
      rw [not_or] at mark
      rw [accumulate_digits zero (List.cons_ne_nil _ _), numeral_bare mark.1 mark.2]
  | c :: d :: cs =>
    rw [readInteger]
    · by_cases hplus : c = '+'
      · subst hplus
        rw [if_pos rfl, accumulate_digits zero (List.cons_ne_nil _ _), numeral_plus]
      · by_cases hminus : c = '-'
        · subst hminus
          rw [if_neg hplus, if_pos ⟨rfl, negative⟩, accumulate_digits zero (List.cons_ne_nil _ _),
            numeral_minus]
        · rw [if_neg hplus, if_neg (fun h => hminus h.1),
            accumulate_digits zero (List.cons_ne_nil _ _), numeral_bare hplus hminus]
    · simp

/-! ## The numerals of zero and one -/

/-- A digit is the character of its value. -/
theorem digit_inj {c d : Char} (hc : c.isDigit = true) (hd : d.isDigit = true)
    (h : c.toNat - '0'.toNat = d.toNat - '0'.toNat) : c = d := by
  have zero : '0'.toNat = 48 := rfl
  rw [Char.isDigit, Bool.and_eq_true, decide_eq_true_eq, decide_eq_true_eq] at hc hd
  have hc' : 48 ≤ c.toNat := UInt32.le_iff_toNat_le.1 hc.1
  have hd' : 48 ≤ d.toNat := UInt32.le_iff_toNat_le.1 hd.1
  exact Char.toNat_inj.1 (by omega)

/-- Another digit makes every number but zero larger. -/
theorem eq_nil_of_ofDigitChars_eq {cs : List Char} {n : Nat} (hn : 0 < n)
    (h : Nat.ofDigitChars 10 cs n = n) : cs = [] := by
  cases cs with
  | nil => rfl
  | cons c cs =>
    rw [Nat.ofDigitChars_cons] at h
    have := le_ofDigitChars cs (10 * n + (c.toNat - '0'.toNat))
    omega

/-- Only zeros write zero. -/
theorem digits_zero {cs : List Char} : Digits cs 0 ↔ ∃ k, cs = List.replicate (k + 1) '0' := by
  induction cs with
  | nil => simp [Digits]
  | cons c cs ih =>
    constructor
    · rintro ⟨-, hdigits, hzero⟩
      rw [List.forall_mem_cons] at hdigits
      rw [Nat.ofDigitChars_cons] at hzero
      have hc := le_ofDigitChars cs (10 * 0 + (c.toNat - '0'.toNat))
      obtain rfl : c = '0' := digit_inj hdigits.1 rfl (by omega)
      by_cases hcs : cs = []
      · exact ⟨0, by rw [hcs]; rfl⟩
      · obtain ⟨k, rfl⟩ := ih.1 ⟨hcs, hdigits.2, hzero⟩
        exact ⟨k + 1, rfl⟩
    · rintro ⟨k, hk⟩
      obtain ⟨rfl, rfl⟩ := List.cons.inj hk
      cases k with
      | zero => exact ⟨List.cons_ne_nil _ _, by simp, rfl⟩
      | succ k =>
        obtain ⟨-, hdigits, hzero⟩ := ih.2 ⟨k, rfl⟩
        exact ⟨List.cons_ne_nil _ _, List.forall_mem_cons.2 ⟨rfl, hdigits⟩, hzero⟩

/-- Only zeros and then a one write one. -/
theorem digits_one {cs : List Char} :
    Digits cs 1 ↔ ∃ k, cs = List.replicate k '0' ++ ['1'] := by
  induction cs with
  | nil => simp [Digits]
  | cons c cs ih =>
    constructor
    · rintro ⟨-, hdigits, hone⟩
      rw [List.forall_mem_cons] at hdigits
      rw [Nat.ofDigitChars_cons] at hone
      have hc := le_ofDigitChars cs (10 * 0 + (c.toNat - '0'.toNat))
      by_cases hzero : c = '0'
      · subst hzero
        have hcs : cs ≠ [] := by
          rintro rfl
          cases hone
        obtain ⟨k, rfl⟩ := ih.1 ⟨hcs, hdigits.2, hone⟩
        exact ⟨k + 1, rfl⟩
      · have positive : c.toNat - '0'.toNat ≠ 0 := fun hd =>
          hzero (digit_inj hdigits.1 rfl (by omega))
        have one : '1'.toNat - '0'.toNat = 1 := rfl
        obtain rfl : c = '1' := digit_inj hdigits.1 rfl (by omega)
        obtain rfl : cs = [] := eq_nil_of_ofDigitChars_eq Nat.one_pos hone.symm
        exact ⟨0, rfl⟩
    · rintro ⟨k, hk⟩
      cases k with
      | zero =>
        obtain ⟨rfl, rfl⟩ := List.cons.inj hk
        exact ⟨List.cons_ne_nil _ _, by simp, rfl⟩
      | succ k =>
        obtain ⟨rfl, rfl⟩ := List.cons.inj hk
        obtain ⟨-, hdigits, hone⟩ := ih.2 ⟨k, rfl⟩
        exact ⟨List.cons_ne_nil _ _, List.forall_mem_cons.2 ⟨rfl, hdigits⟩, hone⟩

/-- The numerals of zero: any sign and at least one zero. -/
theorem numeral_zero {cs : List Char} :
    Numeral cs 0 ↔
      ∃ mark ∈ [[], ['+'], ['-']], ∃ k, cs = mark ++ List.replicate (k + 1) '0' := by
  constructor
  · rintro ⟨sign, mark, hmark, digits, n, rfl, hn, hv⟩
    obtain rfl : n = 0 := by cases sign <;> simp only [Sign.apply] at hv <;> omega
    obtain ⟨k, rfl⟩ := digits_zero.1 hn
    refine ⟨mark, ?_, k, rfl⟩
    cases sign <;> simp only [Sign.marks, List.mem_cons] at hmark ⊢ <;> grind
  · rintro ⟨mark, hmark, k, rfl⟩
    have hn := digits_zero.2 ⟨k, rfl⟩
    simp only [List.mem_cons, List.not_mem_nil, or_false] at hmark
    rcases hmark with rfl | rfl | rfl
    · exact ⟨.plus, [], by simp [Sign.marks], _, 0, rfl, hn, rfl⟩
    · exact numeral_plus.2 ⟨0, hn, rfl⟩
    · exact numeral_minus.2 ⟨0, hn, rfl⟩

/-- The numerals of one: no sign or a plus, any number of zeros and a one. -/
theorem numeral_one {cs : List Char} :
    Numeral cs 1 ↔
      ∃ mark ∈ [[], ['+']], ∃ k, cs = mark ++ (List.replicate k '0' ++ ['1']) := by
  constructor
  · rintro ⟨sign, mark, hmark, digits, n, rfl, hn, hv⟩
    cases sign with
    | plus =>
      obtain rfl : n = 1 := by simp only [Sign.apply] at hv; omega
      obtain ⟨k, rfl⟩ := digits_one.1 hn
      exact ⟨mark, hmark, k, rfl⟩
    | minus => simp only [Sign.apply] at hv; omega
  · rintro ⟨mark, hmark, k, rfl⟩
    exact ⟨.plus, mark, hmark, _, 1, rfl, digits_one.2 ⟨k, rfl⟩, rfl⟩

end CoprocReset.Text
