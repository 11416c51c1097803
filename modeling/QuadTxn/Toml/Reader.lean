/-!
# Readers

A reader takes what it recognises off the front of a text, or recognises nothing. Readers are
combined with `do`, with `<|>` for a second choice, and with the repetitions below, which stop when
a round takes nothing off the text and therefore end.
-/

namespace QuadTxn.Toml

/-- A recogniser of a piece of text at the front of the rest of a text. -/
abbrev Reader (α : Type) := StateT (List Char) Option α

namespace Reader

variable {α β : Type}

/-- One character with a property. -/
def one (p : Char → Bool) : Reader Char := fun
  | c :: r => if p c then some (c, r) else none
  | [] => none

/-- One given character. -/
def char (c : Char) : Reader Unit := do let _ ← one (· = c)

/-- A given text. -/
def text (s : String) : Reader Unit := s.toList.forM char

/-- As many characters with a property as there are. -/
def takeWhile (p : Char → Bool) : Reader (List Char) := fun s =>
  some (s.takeWhile p, s.dropWhile p)

/-- At least one character with a property. -/
def takeWhile1 (p : Char → Bool) : Reader (List Char) := do
  let cs ← takeWhile p
  if cs.isEmpty then failure else return cs

/-- Exactly `n` characters with a property. -/
def exactly (n : Nat) (p : Char → Bool) : Reader (List Char) := fun s =>
  let cs := s.take n
  if cs.length = n ∧ cs.all p then some (cs, s.drop n) else none

/-- The end of the text. -/
def atEnd : Reader Unit := fun s => if s.isEmpty then some ((), s) else none

/-- What a reader recognises, if it recognises something. -/
def maybe (p : Reader α) : Reader (Option α) := some <$> p <|> pure none

/-- What a reader recognises, again and again. -/
def many (p : Reader α) (s : List Char) : Option (List α × List Char) :=
  match p s with
  | none => some ([], s)
  | some (a, r) =>
    if r.length < s.length then
      (many p r).map fun (as, r) => (a :: as, r)
    else some ([], s)
termination_by s.length

/-- Pieces with a separator between each two of them; at least one. -/
def sepBy1 (p : Reader α) (separator : Reader β) : Reader (List α) := do
  let first ← p
  let others ← many (do let _ ← separator; p)
  return first :: others

/-- Recognise the whole of a text. -/
def whole (p : Reader α) (s : String) : Option α :=
  match p s.toList with
  | some (a, []) => some a
  | _ => none

end Reader

end QuadTxn.Toml
