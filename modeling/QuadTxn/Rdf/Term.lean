import QuadTxn.Text.Escape

/-!
# Terms

The terms of a statement: IRIs, blank nodes and literals.

Terms are totally ordered (`Std.TransOrd Term`, `Std.LawfulEqOrd Term`): IRIs come before blank
nodes and these before literals; terms of one kind are ordered by their text, literals by lexical
form, then datatype, then language, where an absent part comes before a present one.
-/

namespace QuadTxn

/-- A literal value with an optional datatype IRI and an optional language tag. -/
structure Literal where
  /-- the lexical form -/
  lexical : String
  /-- the datatype IRI, absent for plain literals -/
  datatype : Option String
  /-- the language tag, absent unless the literal is tagged -/
  language : Option String
  deriving DecidableEq, Repr, Inhabited

namespace Literal

instance : Ord Literal where
  compare := compareLex (compareOn lexical) (compareLex (compareOn datatype) (compareOn language))

theorem compare_def (a b : Literal) :
    compare a b = (compare a.lexical b.lexical).then
      ((compare a.datatype b.datatype).then (compare a.language b.language)) := rfl

instance : Std.TransOrd Literal :=
  inferInstanceAs <| Std.TransCmp <|
    compareLex (compareOn lexical) (compareLex (compareOn datatype) (compareOn language))

instance : Std.LawfulEqOrd Literal where
  compare_self := Std.ReflCmp.compare_self
  eq_of_compare {a b} h := by
    rw [compare_def, Ordering.then_eq_eq, Ordering.then_eq_eq] at h
    obtain ⟨h₁, h₂, h₃⟩ := h
    cases a; cases b
    simp only [mk.injEq]
    exact ⟨Std.LawfulEqOrd.eq_of_compare h₁, Std.LawfulEqOrd.eq_of_compare h₂,
      Std.LawfulEqOrd.eq_of_compare h₃⟩

/-- The written form: the quoted lexical form, followed by the language tag or else the datatype. -/
def render (l : Literal) : String :=
  "\"" ++ Text.escape l.lexical ++ "\"" ++
    match l.language, l.datatype with
    | some tag, _ => "@" ++ tag
    | none, some iri => "^^<" ++ iri ++ ">"
    | none, none => ""

end Literal

/-- A term. -/
inductive Term where
  /-- an absolute IRI -/
  | iri (iri : String)
  /-- a blank node with its label -/
  | blank (label : String)
  /-- a literal value -/
  | literal (value : Literal)
  deriving DecidableEq, Repr, Inhabited

namespace Term

/-- A literal with neither datatype nor language. -/
def plain (lexical : String) : Term := .literal ⟨lexical, none, none⟩

/-- A literal with a datatype. -/
def typed (lexical datatype : String) : Term := .literal ⟨lexical, some datatype, none⟩

/-- A literal with a language tag. -/
def tagged (lexical language : String) : Term := .literal ⟨lexical, none, some language⟩

/-- IRIs and blank nodes are resources, literals are not. -/
def isResource : Term → Bool
  | .iri _ | .blank _ => true
  | .literal _ => false

/-- Whether the term is an IRI. -/
def isIri : Term → Bool
  | .iri _ => true
  | .blank _ | .literal _ => false

/-- The written form of a term. -/
def render : Term → String
  | .iri text => "<" ++ text ++ ">"
  | .blank label => "_:" ++ label
  | .literal value => value.render

/-! ## The order of terms -/

/-- The place of a kind of term in the order of the kinds. -/
def rank : Term → Nat
  | .iri _ => 0
  | .blank _ => 1
  | .literal _ => 2

/-- What orders the terms of one kind; the text of an IRI or a blank node counts as a plain
lexical form. -/
def content : Term → Literal
  | .iri text | .blank text => ⟨text, none, none⟩
  | .literal value => value

instance : Ord Term where
  compare := compareLex (compareOn rank) (compareOn content)

theorem compare_def (a b : Term) :
    compare a b = (compare a.rank b.rank).then (compare a.content b.content) := rfl

instance : Std.TransOrd Term :=
  inferInstanceAs <| Std.TransCmp <| compareLex (compareOn rank) (compareOn content)

instance : Std.LawfulEqOrd Term where
  compare_self := Std.ReflCmp.compare_self
  eq_of_compare {a b} h := by
    rw [compare_def, Ordering.then_eq_eq] at h
    have hr := Std.LawfulEqOrd.eq_of_compare h.1
    have hc := Std.LawfulEqOrd.eq_of_compare h.2
    cases a <;> cases b <;> simp_all [rank, content]

end Term

end QuadTxn
