import CoprocReset.Text.Reader

/-!
# Blanks, line ends, comments and strings

A line ends with a line feed, which a carriage return may precede. No other control character but
the tab may stand anywhere. A string stands between quotes or between three quotes, where it may
take several lines; between single quotes nothing is escaped.
-/

namespace CoprocReset.Toml

open Text (Reader)
open Text.Reader

/-! ## Between the words -/

/-- Space and tab. -/
def isSpace (c : Char) : Bool := c = ' ' || c = '\t'

/-- What may stand in a comment, and in a string as far as the quotes allow. -/
def isPlain (c : Char) : Bool := c = '\t' || (' ' ≤ c && c ≠ '\x7f')

/-- Spaces and tabs, or nothing. -/
def spaces : Reader Unit := do
  let _ ← span isSpace

/-- The end of a line. -/
def newline : Reader Unit := char '\n' <|> word ['\r', '\n']

/-- The end of a line or of the document. -/
def lineEnd : Reader Unit := newline <|> ended

/-- A comment up to the end of its line. -/
def comment : Reader Unit := do
  char '#'
  let _ ← span isPlain

/-- What may stand after the last word of a line, and the end of the line. -/
def lineRest : Reader Unit := do
  spaces
  let _ ← optional comment
  lineEnd

/-- Blanks, comments and line ends between the elements of an array. -/
def gap : Reader Unit := do
  spaces
  let _ ← many do
    comment <|> pure ()
    newline
    spaces

/-! ## Characters of a string -/

/-- What stands for itself between quotes. -/
def isUnescaped (c : Char) : Bool := isPlain c && c ≠ '"' && c ≠ '\\'

/-- What stands for itself between single quotes. -/
def isLiteral (c : Char) : Bool := isPlain c && c ≠ '\''

/-- Whether the character is a digit to the base sixteen. -/
def isHexDigit (c : Char) : Bool :=
  c.isDigit || ('a' ≤ c && c ≤ 'f') || ('A' ≤ c && c ≤ 'F')

/-- The value of a digit. -/
def digitValue (c : Char) : Nat :=
  if c.isDigit then c.toNat - '0'.toNat
  else if 'a' ≤ c then c.toNat - 'a'.toNat + 10
  else c.toNat - 'A'.toNat + 10

/-- The number that digits write. -/
def digitsValue (base : Nat) (digits : List Char) : Nat :=
  digits.foldl (fun value c => value * base + digitValue c) 0

/-- A character by its number in the given count of digits. -/
def numbered (count : Nat) : Reader Char := do
  let number := digitsValue 16 (← exactly isHexDigit count)
  require (number.isValidChar)
  return Char.ofNat number

/-- What a letter after a backslash stands for. -/
def namedEscape (c : Char) : Option Char :=
  [('b', '\x08'), ('t', '\t'), ('n', '\n'), ('f', '\x0c'), ('r', '\r'), ('"', '"'),
    ('\\', '\\')].lookup c

/-- A character written with a backslash. -/
def escaped : Reader Char := do
  char '\\'
  let c ← next fun _ => true
  if c = 'u' then numbered 4
  else if c = 'U' then numbered 8
  else ofOption (namedEscape c)

/-- A backslash at the end of a line, which takes the line end and all blanks after it away. -/
def joinedLines : Reader Unit := do
  char '\\'
  spaces
  newline
  let _ ← many (newline <|> do let _ ← next isSpace)

/-! ## Strings -/

/-- One or two quotes that do not belong to the closing three. -/
def innerQuotes (quote : Char) : Reader (List Char) :=
  (do
    word [quote, quote]
    ahead (· ≠ quote)
    return [quote, quote]) <|>
  (do
    char quote
    ahead (· ≠ quote)
    return [quote])

/-- The closing three quotes, with up to two more in front that belong to the string. -/
def closingQuotes (quote : Char) : Reader (List Char) :=
  (do
    word [quote, quote, quote, quote, quote]
    return [quote, quote]) <|>
  (do
    word [quote, quote, quote, quote]
    return [quote]) <|>
  (do
    word [quote, quote, quote]
    return [])

/-- A string over several lines, from pieces that stand for themselves or for something else. A
line end right after the opening quotes is no part of it, and every other is a line feed. -/
def longString (quote : Char) (piece : Reader (List Char)) : Reader (List Char) := do
  word [quote, quote, quote]
  let _ ← optional newline
  let pieces ← many
    (piece <|> (do newline; return ['\n']) <|> innerQuotes quote)
  return pieces.flatten ++ (← closingQuotes quote)

/-- A string with escapes on one line. -/
def basicString : Reader (List Char) := do
  char '"'
  let content ← many (next isUnescaped <|> escaped)
  char '"'
  return content

/-- A string without escapes on one line. -/
def literalString : Reader (List Char) := do
  char '\''
  let content ← span isLiteral
  char '\''
  return content

/-- A string with escapes over several lines. -/
def longBasicString : Reader (List Char) :=
  longString '"'
    ((do return [← next isUnescaped]) <|> (do joinedLines; return []) <|>
      (do return [← escaped]))

/-- A string without escapes over several lines. -/
def longLiteralString : Reader (List Char) := longString '\'' do return [← next isLiteral]

/-- A string of any sort. -/
def string : Reader String := do
  return String.ofList
    (← longBasicString <|> basicString <|> longLiteralString <|> literalString)

end CoprocReset.Toml
