/-!
# Readers

A reader takes something from the front of a list of characters and leaves the rest, or takes
nothing and fails. `<|>` tries its second reader where the first one stood. A repetition ends
where its reader fails; it is bounded by the number of characters left, which is enough for every
reader that takes at least one.
-/

namespace CoprocReset.Text

/-- Takes something from the front of the characters, or fails. -/
abbrev Reader := StateT (List Char) Option

namespace Reader

variable {α β : Type}

/-- Takes one character of a class. -/
def next (p : Char → Bool) : Reader Char
  | c :: rest => if p c then some (c, rest) else none
  | [] => none

/-- Takes one given character. -/
def char (c : Char) : Reader Unit := do
  let _ ← next (· = c)

/-- Takes the given characters. -/
def word (cs : List Char) : Reader Unit := cs.forM char

/-- Takes all characters of a class. -/
def span (p : Char → Bool) : Reader (List Char) := fun cs =>
  some (cs.takeWhile p, cs.dropWhile p)

/-- Takes as many characters of a class as asked for. -/
def exactly (p : Char → Bool) : Nat → Reader (List Char)
  | 0 => pure []
  | n + 1 => do
    let c ← next p
    return c :: (← exactly p n)

/-- Looks at the next character, which has to be there and of the class, without taking it. -/
def ahead (p : Char → Bool) : Reader Unit
  | c :: rest => if p c then some ((), c :: rest) else none
  | [] => none

/-- Takes nothing, but only at the end. -/
def ended : Reader Unit
  | [] => some ((), [])
  | _ :: _ => none

/-- Fails unless the condition holds. -/
def require (condition : Bool) : Reader Unit := if condition then pure () else failure

/-- Comes back with a value that may be missing. -/
def ofOption (value : Option α) : Reader α := fun cs => value.map (·, cs)

/-- Repeats a reader at most the given number of times. -/
def upTo (reader : Reader α) : Nat → Reader (List α)
  | 0 => pure []
  | n + 1 =>
    (do
      let first ← reader
      let others ← upTo reader n
      return first :: others) <|> pure []

/-- Repeats a reader that takes at least one character until it fails. -/
def many (reader : Reader α) : Reader (List α) := do upTo reader (← get).length

/-- Repeats a reader with a separator before each repetition. At least one is there. -/
def separated (reader : Reader α) (separator : Reader Unit) : Reader (List α) := do
  let first ← reader
  let others ← many do
    separator
    reader
  return first :: others

end Reader

end CoprocReset.Text
