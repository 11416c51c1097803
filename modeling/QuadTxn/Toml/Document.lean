import QuadTxn.Toml.Node
import QuadTxn.Toml.Numbers

/-!
# Reading a document

A document is read line by line: a line opens a table by a header, or defines a key of the table
opened last. Values are nested to a fixed depth at most.
-/

namespace QuadTxn.Toml

open Reader

/-! ## Keys -/

/-- The length that a dotted key must not reach. -/
def keyLimit : Nat := 80

/-- A key without dots. -/
def simpleKey : Reader String :=
  basicString <|> literalString <|> do
    return String.ofList (← takeWhile1 fun c => c.isAlphanum || c = '_' || c = '-')

/-- A key, split into the path before its last part and the last part. -/
def key : Reader (List String × String) := do
  let parts ← sepBy1 (do blanks; let k ← simpleKey; blanks; return k) (char '.')
  match parts.getLast? with
  | some last => if parts.length < keyLimit then return (parts.dropLast, last) else failure
  | none => failure

/-! ## Values -/

/-- How deep arrays and inline tables may be nested. -/
def depthLimit : Nat := 79

/-- A value that has no values in it. -/
def scalar : Reader Node :=
  (do return .string (← anyString)) <|>
  (do text "true"; return .boolean true) <|>
  (do text "false"; return .boolean false) <|>
  (do moment; return .moment) <|>
  (do float; return .float) <|>
  (do return .integer (← integer))

/-- An array of values, which may go over several lines and end in a comma. -/
def array (value : Reader Node) : Reader Node := do
  char '['
  let item : Reader Node := do
    gaps
    let v ← value
    gaps
    return v
  let items ← maybe (sepBy1 item (char ','))
  if items.isSome then
    let _ ← maybe (char ',')
  gaps
  char ']'
  return .array (items.getD [])

/-- A definition of a key, up to the value. -/
def definition (value : Reader Node) : Reader ((List String × String) × Node) := do
  let k ← key
  char '='
  blanks
  let v ← value
  return (k, v)

/-- An inline table, which stays in its line. -/
def inlineTable (value : Reader Node) : Reader Node := do
  char '\x7b'
  let pairs ← maybe <| sepBy1 (do let d ← definition value; blanks; return d) (char ',')
  blanks
  char '\x7d'
  let entries := (pairs.getD []).foldlM (fun (es : Entries) (d : (List String × String) × Node) =>
    es.define d.1.1 d.1.2 d.2) []
  match entries with
  | some es => return .table .inline es
  | none => failure

/-- A value with at most the given nesting. -/
def value : Nat → Reader Node
  | 0 => scalar
  | depth + 1 => scalar <|> array (value depth) <|> inlineTable (value depth)

/-! ## Lines -/

/-- What a line of a document says. -/
inductive Line where
  /-- it opens a table -/
  | table (path : List String) (key : String)
  /-- it opens one more table of several that share a header -/
  | element (path : List String) (key : String)
  /-- it defines a key of the open table -/
  | define (path : List String) (key : String) (node : Node)
  /-- it says nothing -/
  | empty

/-- A line, with the blanks that follow it. -/
def line : Reader Line := do
  let l ← (do comment; lineEnd; return Line.empty) <|>
    (do
      text "[["
      let k ← key
      text "]]"
      lineRest
      return .element k.1 k.2) <|>
    (do
      char '['
      let k ← key
      char ']'
      lineRest
      return .table k.1 k.2) <|>
    (do newline; return .empty) <|>
    (do
      let d ← definition (value depthLimit)
      lineRest
      return .define d.1.1 d.1.2 d.2)
  blanks
  return l

/-- What is known after some lines: the keys so far, and the path of the open table. -/
structure Progress where
  /-- the keys so far -/
  entries : Entries
  /-- the path of the open table -/
  header : List String

/-- Take one more line into account. -/
def Progress.step (p : Progress) : Line → Option Progress
  | .table path key => do
    return ⟨← p.entries.openTable path key, path ++ [key]⟩
  | .element path key => do
    return ⟨← p.entries.openElement path key, path ++ [key]⟩
  | .define path key node => do
    return ⟨← p.entries.defineBelow p.header path key node, p.header⟩
  | .empty => some p

/-- The keys that a document defines, unless it is no document. -/
def parse (s : String) : Option Entries := do
  let lines ← Reader.whole (do let _ ← maybe (char '\ufeff'); blanks; many line) s
  let p ← lines.foldlM Progress.step ⟨[], []⟩
  return p.entries

end QuadTxn.Toml
