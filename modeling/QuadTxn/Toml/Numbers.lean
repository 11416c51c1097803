import QuadTxn.Toml.Strings

/-!
# Numbers and moments of a document

Integers are signed 64-bit numbers. Of floating-point numbers and of moments (dates, times and both
together) only the form is checked: nothing that is read from a document depends on their value.
-/

namespace QuadTxn.Toml

open Reader

/-- A sign, if there is one: whether it is a minus. -/
def sign : Reader Bool := do
  match ← maybe (one fun c => c = '+' || c = '-') with
  | some c => return c = '-'
  | none => return false

/-- Digits, in which single underscores may stand between two digits. -/
def digits (p : Char → Bool) : Reader (List Char) := do
  let parts ← sepBy1 (takeWhile1 p) (char '_')
  return parts.flatten

/-- Decimal digits that begin with a zero only if it is the only one. -/
def wholeDigits : Reader (List Char) :=
  (do char '0'; return ['0']) <|> do
    let _ ← (fun s => (one (· ≠ '0') s).map fun _ => ((), s) : Reader Unit)
    digits Char.isDigit

/-- An integer, unless it does not fit into 64 bits. -/
def inRange (n : Int) : Reader Int :=
  if Int64.minValue.toInt ≤ n ∧ n ≤ Int64.maxValue.toInt then return n else failure

/-- An integer in one of the bases that are announced by a letter. -/
def basedInteger : Reader Int := do
  char '0'
  match ← one fun _ => true with
  | 'x' => inRange (number 16 (← digits isHexDigit))
  | 'o' => inRange (number 8 (← digits fun c => '0' ≤ c && c ≤ '7'))
  | 'b' => inRange (number 2 (← digits fun c => c = '0' || c = '1'))
  | _ => failure

/-- A decimal integer. -/
def decimalInteger : Reader Int := do
  let negative ← sign
  let n : Nat := number 10 (← wholeDigits)
  inRange (if negative then -n else n)

/-- An integer. -/
def integer : Reader Int := basedInteger <|> decimalInteger

/-! ## Floating-point numbers -/

/-- Whether `mantissa * 10 ^ exponent` lies beyond the largest double, so far that the nearest
double is infinite. -/
def overflows (mantissa : Nat) (exponent : Int) : Bool :=
  let magnitude := (Nat.toDigits 10 mantissa).length + exponent
  let limit := Nat.pow 2 1024 - Nat.pow 2 970
  if mantissa = 0 ∨ magnitude < 300 then false
  else if 400 < magnitude then true
  else if 0 ≤ exponent then limit ≤ mantissa * Nat.pow 10 exponent.toNat
  else limit * Nat.pow 10 (-exponent).toNat ≤ mantissa

/-- The exponent of a floating-point number. -/
def exponent : Reader Int := do
  let _ ← one fun c => c = 'e' || c = 'E'
  let negative ← sign
  let n : Nat := number 10 (← digits Char.isDigit)
  return if negative then -n else n

/-- A floating-point number with a fraction, an exponent or both; a positive one must not
overflow. -/
def finiteFloat : Reader Unit := do
  let negative ← sign
  let before ← wholeDigits
  let after ← maybe do
    char '.'
    digits Char.isDigit
  let power ← if after.isSome then maybe exponent else some <$> exponent
  let after := after.getD []
  if !negative ∧ overflows (number 10 (before ++ after)) (power.getD 0 - after.length) then failure

/-- An infinity, or a value that is no number. -/
def specialFloat : Reader Unit := do
  let _ ← sign
  text "inf" <|> text "nan"

/-- A floating-point number. -/
def float : Reader Unit := finiteFloat <|> specialFloat

/-! ## Moments -/

/-- A number of exactly `n` digits in a range. -/
def between (n low high : Nat) : Reader Nat := do
  let value := number 10 (← exactly n Char.isDigit)
  if low ≤ value ∧ value ≤ high then return value else failure

/-- The number of days of a month. -/
def daysIn (year month : Nat) : Nat :=
  if month = 2 then
    if year % 4 = 0 ∧ (year % 100 ≠ 0 ∨ year % 400 = 0) then 29 else 28
  else if month = 4 ∨ month = 6 ∨ month = 9 ∨ month = 11 then 30
  else 31

/-- A date. -/
def date : Reader Unit := do
  let year ← between 4 0 9999
  char '-'
  let month ← between 2 1 12
  char '-'
  let _ ← between 2 1 (daysIn year month)

/-- A time of day; a minute may have a leap second. -/
def time : Reader Unit := do
  let _ ← between 2 0 23
  char ':'
  let _ ← between 2 0 59
  char ':'
  let _ ← between 2 0 60
  let _ ← maybe do
    char '.'
    takeWhile1 Char.isDigit

/-- The distance of a time from universal time. -/
def offset : Reader Unit :=
  (do let _ ← one fun c => c = 'Z' || c = 'z') <|> do
    let _ ← one fun c => c = '+' || c = '-'
    let _ ← between 2 0 23
    char ':'
    let _ ← between 2 0 59

/-- A date, a time, or both with or without the distance from universal time. -/
def moment : Reader Unit :=
  (do
    date
    let _ ← maybe do
      let _ ← one fun c => c = 'T' || c = 't' || c = ' '
      time
      maybe offset) <|> time

end QuadTxn.Toml
