/-!
# The tree of a document

A document is a tree of tables. Where a table comes from decides how it may grow:

* a table of a header is complete when its header ends, though headers may add tables below it;
* a table that was only mentioned on the way to another one may still get a header of its own;
* a table of dotted keys grows by dotted keys, and headers may add tables below it;
* an inline table never grows.

`define` puts the value of a key in, `openTable` and `openElement` the tables of headers.
-/

namespace QuadTxn.Toml

/-- Where a table comes from. -/
inductive Origin where
  /-- from a header -/
  | header
  /-- from the header of a table below it -/
  | mentioned
  /-- from a dotted key -/
  | dotted
  /-- from an inline table -/
  | inline
  deriving DecidableEq, Repr, Inhabited

/-- A part of a document. -/
inductive Node where
  /-- a string -/
  | string (value : String)
  /-- an integer -/
  | integer (value : Int)
  /-- a truth value -/
  | boolean (value : Bool)
  /-- a floating-point number -/
  | float
  /-- a date, a time, or both -/
  | moment
  /-- an array -/
  | array (items : List Node)
  /-- a table with its keys -/
  | table (origin : Origin) (entries : List (String × Node))
  /-- the tables that share a header of double brackets, the last one first -/
  | tables (elements : List (List (String × Node)))
  deriving Inhabited

/-- The keys of a table, in the order of their definition. -/
abbrev Entries := List (String × Node)

namespace Entries

/-- Replace the node of a key. -/
def replace (es : Entries) (key : String) (node : Node) : Entries :=
  es.map fun e => if e.1 = key then (key, node) else e

/-- Whether a path may go through a table of the given origin. -/
def passable (dotted : Bool) : Origin → Bool
  | .header => !dotted
  | .mentioned | .dotted => true
  | .inline => false

/-- Change the table at the end of a path, with tables made on the way where there are none. The
change is given the origin of that table; of tables that share a header the last is meant. -/
def alter (dotted : Bool) (change : Origin → Entries → Option Entries) :
    List String → Origin → Entries → Option Entries
  | [], origin, es => change origin es
  | key :: path, _, es =>
    match es.lookup key with
    | none => do
      let origin := if dotted then Origin.dotted else .mentioned
      let sub ← alter dotted change path origin []
      return es ++ [(key, .table origin sub)]
    | some (.table origin sub) =>
      if passable dotted origin then do
        let sub ← alter dotted change path origin sub
        return es.replace key (.table origin sub)
      else none
    | some (.tables (last :: earlier)) => do
      let last ← alter dotted change path .header last
      return es.replace key (.tables (last :: earlier))
    | some _ => none

/-- Define a key, given with the dotted path that leads to it. The key must be new, and the path
must end in a table of dotted keys. -/
def define (es : Entries) (path : List String) (key : String) (node : Node) : Option Entries :=
  let put (origin : Origin) (es : Entries) : Option Entries :=
    if !path.isEmpty ∧ origin ≠ .dotted then none
    else if (es.lookup key).isSome then none
    else some (es ++ [(key, node)])
  alter true put path .header es

/-- Define a key below a header. -/
def defineBelow (es : Entries) (header path : List String) (key : String) (node : Node) :
    Option Entries :=
  alter false (fun _ es => es.define path key node) header .header es

/-- Open the table of a header. -/
def openTable (es : Entries) (path : List String) (key : String) : Option Entries :=
  let put (_ : Origin) (es : Entries) : Option Entries :=
    match es.lookup key with
    | none => some (es ++ [(key, .table .header [])])
    | some (.table .mentioned sub) => some (es.replace key (.table .header sub))
    | some _ => none
  alter false put path .header es

/-- Open one more table of a header of double brackets. -/
def openElement (es : Entries) (path : List String) (key : String) : Option Entries :=
  let put (_ : Origin) (es : Entries) : Option Entries :=
    match es.lookup key with
    | none => some (es ++ [(key, .tables [[]])])
    | some (.tables elements) => some (es.replace key (.tables ([] :: elements)))
    | some _ => none
  alter false put path .header es

end Entries

end QuadTxn.Toml
