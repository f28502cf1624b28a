import CoprocReset.Text.Decimal
import CoprocReset.Toml.Lexical
import CoprocReset.Toml.Value

/-!
# Numbers, dates and times

Integers have 64 bits and may be written to the base 16, 8 or 2 without a sign. Between two digits
there may be an underscore. A float is refused if it is too large to be finite, unless it is
negative. A date has to be one of the calendar.
-/

namespace CoprocReset.Toml

open Text (Reader IntegerRange)
open Text.Reader

/-! ## Digits -/

/-- A digit, which an underscore may precede. -/
def laterDigit (p : Char → Bool) : Reader Char :=
  next p <|> do
    char '_'
    next p

/-- Digits, with underscores between them left out. -/
def digitGroup (p : Char → Bool) : Reader (List Char) := do
  return (← next p) :: (← many (laterDigit p))

/-- Decimal digits of which the first is zero only if it is the only one. -/
def decimalDigits : Reader (List Char) :=
  (do return (← next fun c => c.isDigit && c ≠ '0') :: (← many (laterDigit Char.isDigit))) <|>
  (do return [← next (· = '0')])

/-- A sign, if there is one. Says whether it is a minus. -/
def sign : Reader Bool := (do char '-'; return true) <|> (do char '+'; return false) <|> pure false

/-! ## Integers -/

/-- An integer in range. -/
def ranged (number : Int) : Reader Value := do
  require (IntegerRange.signed64.contains number)
  return .integer number

/-- An integer to another base than ten, after the letter that says so. -/
def radixInteger (letter : Char) (base : Nat) (p : Char → Bool) : Reader Value := do
  word ['0', letter]
  ranged (digitsValue base (← digitGroup p))

/-- A decimal integer. -/
def decimalInteger : Reader Value := do
  let negative ← sign
  let magnitude : Int := digitsValue 10 (← decimalDigits)
  ranged (if negative then -magnitude else magnitude)

/-- An integer to any base. -/
def integer : Reader Value :=
  radixInteger 'x' 16 isHexDigit <|> radixInteger 'o' 8 (fun c => '0' ≤ c && c ≤ '7') <|>
    radixInteger 'b' 2 (fun c => c = '0' || c = '1') <|> decimalInteger

/-! ## Floats -/

/-- The power of ten that a float is multiplied by. -/
def exponent : Reader Int := do
  let _ ← next fun c => c = 'e' || c = 'E'
  let negative ← sign
  let magnitude : Int := digitsValue 10 (← digitGroup Char.isDigit)
  return if negative then -magnitude else magnitude

/-- The least number that no float of 64 bits is nearest to: half a step above the greatest. -/
def floatLimit : Nat := Nat.pow 2 1024 - Nat.pow 2 970

/-- Whether the number `mantissa * 10 ^ power` is finite as a float. Outside the powers from -400
to 400, the count of digits alone decides. -/
def isFiniteFloat (mantissa : List Char) (power : Int) : Bool :=
  let value := digitsValue 10 mantissa
  let leading : Int := (toString value).length + power
  if value = 0 || leading < -400 then true
  else if 400 < leading then false
  else if power < 0 then value < floatLimit * Nat.pow 10 (-power).toNat
  else value * Nat.pow 10 power.toNat < floatLimit

/-- A float with digits after a point, a power of ten, or both. -/
def decimalFloat : Reader Value := do
  let negative ← sign
  let whole ← decimalDigits
  let (fraction, power) ←
    (do return ([], ← exponent)) <|>
    (do
      char '.'
      let fraction ← digitGroup Char.isDigit
      return (fraction, (← optional exponent).getD 0))
  require (negative || isFiniteFloat (whole ++ fraction) (power - fraction.length))
  return .float

/-- A float that is no number or not finite. -/
def specialFloat : Reader Value := do
  let _ ← sign
  word ['i', 'n', 'f'] <|> word ['n', 'a', 'n']
  return .float

/-! ## Dates and times -/

/-- The value of a count of digits. -/
def digitCount (count : Nat) : Reader Nat := do
  return digitsValue 10 (← exactly Char.isDigit count)

/-- A number of two digits within bounds. -/
def twoDigits (least greatest : Nat) : Reader Nat := do
  let number ← digitCount 2
  require (least ≤ number && number ≤ greatest)
  return number

/-- How many days a month has. -/
def daysInMonth (year month : Nat) : Nat :=
  if month = 2 then
    if year % 4 = 0 ∧ (year % 100 ≠ 0 ∨ year % 400 = 0) then 29 else 28
  else if month = 4 ∨ month = 6 ∨ month = 9 ∨ month = 11 then 30
  else 31

/-- A date of the calendar. -/
def date : Reader Unit := do
  let year ← digitCount 4
  char '-'
  let month ← twoDigits 1 12
  char '-'
  let day ← twoDigits 1 31
  require (day ≤ daysInMonth year month)

/-- A time of day, with a leap second and a fraction of a second allowed. -/
def time : Reader Unit := do
  let _ ← twoDigits 0 23
  char ':'
  let _ ← twoDigits 0 59
  char ':'
  let _ ← twoDigits 0 60
  let _ ← optional do
    char '.'
    let _ ← next Char.isDigit
    span Char.isDigit

/-- How far local time is from universal time. -/
def zone : Reader Unit :=
  (do let _ ← next fun c => c = 'Z' || c = 'z') <|>
  (do
    let _ ← next fun c => c = '+' || c = '-'
    let _ ← twoDigits 0 23
    char ':'
    let _ ← twoDigits 0 59)

/-- A date, a time of day or both. -/
def dateTime : Reader Value :=
  (do
    date
    let _ ← optional do
      let _ ← next fun c => c = 'T' || c = 't' || c = ' '
      time
      optional zone
    return .dateTime) <|>
  (do
    time
    return .dateTime)

/-! ## All of them -/

/-- One of the two truth values. -/
def boolean : Reader Value :=
  (do word ['t', 'r', 'u', 'e']; return .boolean true) <|>
  (do word ['f', 'a', 'l', 's', 'e']; return .boolean false)

/-- A value that holds no other. -/
def scalar : Reader Value :=
  (do return .string (← string)) <|> boolean <|> dateTime <|> decimalFloat <|> specialFloat <|>
    integer

end CoprocReset.Toml
