/-!
# Blank characters

`isBlank` is the property `White_Space` of Unicode: 25 characters, among them the line
separators and the no-break space, but neither the zero-width space nor the byte order mark.
`trim` takes the blanks from both ends of a text. Every character that core calls whitespace is
blank (`isBlank_of_isWhitespace`); a trimmed text neither starts nor ends with a blank
(`head_trimStart`, `getLast_trimChars`).
-/

namespace CoprocReset.Text

/-- Whether the character has the property `White_Space`. -/
def isBlank (c : Char) : Bool :=
  let n := c.toNat
  (0x9 ≤ n && n ≤ 0xD) || n == 0x20 || n == 0x85 || n == 0xA0 || n == 0x1680 ||
    (0x2000 ≤ n && n ≤ 0x200A) || n == 0x2028 || n == 0x2029 || n == 0x202F || n == 0x205F ||
    n == 0x3000

/-- The characters without the blanks in front. -/
def trimStart (cs : List Char) : List Char := cs.dropWhile isBlank

/-- The characters without the blanks at the end. -/
def trimEnd (cs : List Char) : List Char := (cs.reverse.dropWhile isBlank).reverse

/-- The characters without the blanks at either end. -/
def trimChars (cs : List Char) : List Char := trimEnd (trimStart cs)

/-- The text without the blanks at either end. -/
def trim (s : String) : String := String.ofList (trimChars s.toList)

theorem isBlank_of_isWhitespace {c : Char} (h : c.isWhitespace = true) : isBlank c = true := by
  simp only [Char.isWhitespace, Bool.or_eq_true, decide_eq_true_eq] at h
  rcases h with ((rfl | rfl) | rfl) | rfl <;> decide

/-- What is left after the blanks in front does not start with one. -/
theorem head_trimStart {cs : List Char} {c : Char} (h : (trimStart cs).head? = some c) :
    isBlank c = false := by
  induction cs with
  | nil => simp [trimStart] at h
  | cons d r ih =>
    by_cases hd : isBlank d = true
    · exact ih (by simpa [trimStart, List.dropWhile_cons, hd] using h)
    · simp [trimStart, hd] at h
      subst h
      simpa using hd

/-- A trimmed text does not end with a blank. -/
theorem getLast_trimChars {cs : List Char} {c : Char} (h : (trimChars cs).getLast? = some c) :
    isBlank c = false := by
  have : (trimStart (trimStart cs).reverse).head? = some c := by
    simpa [trimChars, trimEnd, trimStart, List.getLast?_reverse] using h
  exact head_trimStart this

end CoprocReset.Text
