/-!
# Escaped text

The text between the quotes of a shown literal. Tab, carriage return, line feed, both quotes and
the backslash are written with a backslash, the other printable ASCII characters stand for
themselves, and every remaining character is written as its code point in hexadecimal between
braces.
-/

namespace QuadTxn.Text

/-- The code point of a character, as lower-case hexadecimal digits without leading zeros. -/
def codePoint (c : Char) : List Char := Nat.toDigits 16 c.toNat

/-- The characters that `c` is written as. -/
def escapeChar (c : Char) : List Char :=
  match c with
  | '\t' => ['\\', 't']
  | '\r' => ['\\', 'r']
  | '\n' => ['\\', 'n']
  | '\'' => ['\\', '\'']
  | '"' => ['\\', '"']
  | '\\' => ['\\', '\\']
  | c =>
    if 0x20 ≤ c.toNat ∧ c.toNat ≤ 0x7e then [c]
    else ['\\', 'u', '\x7b'] ++ codePoint c ++ ['\x7d']

/-- A text with each of its characters escaped. -/
def escape (s : String) : String := String.ofList (s.toList.flatMap escapeChar)

end QuadTxn.Text
