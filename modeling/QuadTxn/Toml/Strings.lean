import QuadTxn.Toml.Reader

/-!
# Blanks, comments and strings of a document

Characters of a document are the tab, the printable ASCII characters and everything beyond ASCII;
control characters are refused. Lines end with a line feed, which a carriage return may precede.
-/

namespace QuadTxn.Toml

open Reader

/-! ## Blanks -/

/-- A blank within a line. -/
def isBlank (c : Char) : Bool := c = ' ' || c = '\t'

/-- A character that may stand in a line: no control character except the tab. -/
def isPlain (c : Char) : Bool := c = '\t' || (' ' ≤ c && c ≠ '\x7f')

/-- Blanks within a line. -/
def blanks : Reader Unit := do let _ ← takeWhile isBlank

/-- The end of a line that is not the last. -/
def newline : Reader Unit := char '\n' <|> text "\r\n"

/-- The end of a line or of the text. -/
def lineEnd : Reader Unit := newline <|> atEnd

/-- A comment, up to the end of its line. -/
def comment : Reader Unit := do
  char '#'
  let _ ← takeWhile isPlain

/-- What may follow a definition in its line. -/
def lineRest : Reader Unit := do
  blanks
  let _ ← maybe comment
  lineEnd

/-- Blanks, comments and line ends between the parts of an array. -/
def gaps : Reader Unit := do
  let _ ← many do
    blanks
    let _ ← maybe comment
    newline
  blanks

/-! ## Strings -/

/-- The value of a hexadecimal digit. -/
def hexValue (c : Char) : Nat :=
  if '0' ≤ c ∧ c ≤ '9' then c.toNat - '0'.toNat
  else if 'a' ≤ c ∧ c ≤ 'f' then c.toNat - 'a'.toNat + 10
  else c.toNat - 'A'.toNat + 10

/-- Whether a character is a hexadecimal digit. -/
def isHexDigit (c : Char) : Bool :=
  c.isDigit || ('a' ≤ c && c ≤ 'f') || ('A' ≤ c && c ≤ 'F')

/-- The number that digits stand for in a base. -/
def number (base : Nat) (digits : List Char) : Nat :=
  digits.foldl (fun n c => n * base + hexValue c) 0

/-- A character given by its code point in `n` hexadecimal digits. -/
def codePoint (n : Nat) : Reader Char := do
  let value := number 16 (← exactly n isHexDigit)
  if value.isValidChar then return Char.ofNat value else failure

/-- A character written with a backslash. -/
def escaped : Reader Char := do
  char '\\'
  match ← one fun _ => true with
  | 'b' => return '\x08'
  | 't' => return '\t'
  | 'n' => return '\n'
  | 'f' => return '\x0c'
  | 'r' => return '\r'
  | '"' => return '"'
  | '\\' => return '\\'
  | 'u' => codePoint 4
  | 'U' => codePoint 8
  | _ => failure

/-- A string between double quotes, with escapes. -/
def basicString : Reader String := do
  char '"'
  let plain := takeWhile1 fun c => isPlain c && c ≠ '"' && c ≠ '\\'
  let parts ← many <| plain <|> (do return [← escaped])
  char '"'
  return String.ofList parts.flatten

/-- A string between single quotes, which stands for itself. -/
def literalString : Reader String := do
  char '\''
  let cs ← takeWhile fun c => isPlain c && c ≠ '\''
  char '\''
  return String.ofList cs

/-- A backslash at the end of a line, with all blanks and line ends that follow it. -/
def joinedLine : Reader Unit := do
  char '\\'
  blanks
  newline
  let _ ← many <| (do let _ ← takeWhile1 isBlank) <|> newline

/-- One or two quotes that do not begin the closing three. -/
def innerQuotes (quote : Char) : Reader (List Char) := fun s =>
  let quotes := s.takeWhile (· = quote)
  if quotes.isEmpty ∨ quotes.length > 2 then none else some (quotes, s.drop quotes.length)

/-- The closing three quotes, with up to two more before them that belong to the string. -/
def closingQuotes (quote : Char) : Reader (List Char) := fun s =>
  let quotes := s.takeWhile (· = quote)
  if quotes.length < 3 then none
  else
    let n := min quotes.length 5
    some (quotes.take (n - 3), s.drop n)

/-- A string of several lines between three quotes, made of pieces; a line end right after the
opening quotes does not count. -/
def multiline (quote : Char) (piece : Reader (List Char)) : Reader String := do
  text (String.ofList [quote, quote, quote])
  let _ ← maybe newline
  let parts ← many <| piece <|> (do newline; return ['\n']) <|> innerQuotes quote
  let last ← closingQuotes quote
  return String.ofList (parts.flatten ++ last)

/-- A string of several lines with escapes. -/
def multilineBasic : Reader String :=
  multiline '"' <|
    takeWhile1 (fun c => isPlain c && c ≠ '"' && c ≠ '\\') <|> (do joinedLine; return []) <|>
      (do return [← escaped])

/-- A string of several lines that stands for itself. -/
def multilineLiteral : Reader String :=
  multiline '\'' <| takeWhile1 fun c => isPlain c && c ≠ '\''

/-- A string of any of the four forms. -/
def anyString : Reader String :=
  multilineBasic <|> basicString <|> multilineLiteral <|> literalString

end QuadTxn.Toml
