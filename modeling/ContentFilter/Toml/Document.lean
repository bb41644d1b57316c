import ContentFilter.Text.Basic
/-!
Putting a TOML document together from its statements. A key gets a value once, a table gets a
header once, and a table is added to from elsewhere only while it is not complete.
-/
namespace ContentFilter.Toml

/-- How a table came about, which decides what may still be added to it. -/
inductive TableKind
  /-- Opened by a header of its own, or the table that everything stands in. -/
  | header
  /-- Only a part of the header of a table within it. -/
  | implied
  /-- A part of a key with dots. -/
  | dotted
  /-- Written in braces, and complete. -/
  | inline
  deriving DecidableEq, Repr

inductive Value
  | string (s : Text)
  | integer (n : Int)
  | boolean (b : Bool)
  | float (written : Text)
  | moment (written : Text)
  | array (items : List Value)
  | table (kind : TableKind) (entries : List (Text × Value))
  /-- An array of the tables under headers in double brackets. -/
  | tables (items : List (List (Text × Value)))

abbrev Entries := List (Text × Value)

namespace Entries

def get? (entries : Entries) (key : Text) : Option Value := entries.lookup key

def alter (key : Text) (f : Option Value → Option Value) : Entries → Option Entries
  | [] => (f none).map fun v => [(key, v)]
  | (k, v) :: rest =>
    if k = key then (f (some v)).map fun v => (k, v) :: rest
    else (alter key f rest).map ((k, v) :: ·)

end Entries

namespace Value

def items? : Value → Option (List Value)
  | array items => some items
  | tables items => some (items.map (table .header))
  | _ => none

def string? : Value → Option Text
  | string s => some s
  | _ => none

def integer? : Value → Option Int
  | integer n => some n
  | _ => none

def boolean? : Value → Option Bool
  | boolean b => some b
  | _ => none

def strings? (v : Value) : Option (List Text) := v.items?.bind (·.mapM string?)

end Value

structure Key where
  path : List Text := []
  name : Text
  deriving DecidableEq, Repr

inductive Statement
  | entry (key : Key) (value : Value)
  /-- The header of a table, which the entries after it belong to. -/
  | table (key : Key)
  /-- The header of one more table of an array. -/
  | tables (key : Key)

namespace Entries

/-- Where an array of tables is on the way, the way goes on in its last table. -/
def inLast (f : Entries → Option Entries) (items : List Entries) : Option Value :=
  match items.reverse with
  | [] => none
  | last :: before => (f last).map fun last => .tables (last :: before).reverse

/-- Makes a change in the table that a path leads to, and the tables that are missing on the way.
The way does not lead through complete tables, nor through those with a header if it belongs to a
key with dots. -/
def changeAt (dotted : Bool) (change : TableKind → Entries → Option Entries) :
    List Text → TableKind → Entries → Option Entries
  | [], kind, entries => change kind entries
  | key :: path, _, entries =>
    entries.alter key fun
      | none =>
        let kind : TableKind := if dotted then .dotted else .implied
        (changeAt dotted change path kind []).map (.table kind)
      | some (.table kind inner) =>
        if kind = .inline ∨ (dotted ∧ kind = .header) then none
        else (changeAt dotted change path kind inner).map (.table kind)
      | some (.tables items) => inLast (changeAt dotted change path .header) items
      | some _ => none

/-- Gives a key its value. A key with dots ends in a table that came about in this way. -/
def add (kind : TableKind) (entries : Entries) (key : Key) (value : Value) : Option Entries :=
  let dotted := !key.path.isEmpty
  let place (kind : TableKind) (entries : Entries) : Option Entries :=
    if dotted != (kind == .dotted) then none
    else entries.alter key.name fun
      | none => some value
      | some _ => none
  changeAt dotted place key.path kind entries

def openTable (entries : Entries) (key : Key) : Option Entries :=
  let place (_ : TableKind) (entries : Entries) : Option Entries :=
    entries.alter key.name fun
      | none => some (.table .header [])
      | some (.table .implied inner) => some (.table .header inner)
      | some _ => none
  changeAt false place key.path .header entries

def openItem (entries : Entries) (key : Key) : Option Entries :=
  let place (_ : TableKind) (entries : Entries) : Option Entries :=
    entries.alter key.name fun
      | none => some (.tables [[]])
      | some (.tables items) => some (.tables (items ++ [[]]))
      | some _ => none
  changeAt false place key.path .header entries

end Entries

structure Document where
  entries : Entries := []
  current : List Text := []

namespace Document

def apply (d : Document) : Statement → Option Document
  | .entry key value =>
    let place (kind : TableKind) (entries : Entries) := entries.add kind key value
    (Entries.changeAt false place d.current .header d.entries).map fun entries => { d with entries }
  | .table key =>
    (d.entries.openTable key).map fun entries => { entries, current := key.path ++ [key.name] }
  | .tables key =>
    (d.entries.openItem key).map fun entries => { entries, current := key.path ++ [key.name] }

def ofStatements? (statements : List Statement) : Option Entries :=
  (statements.foldlM apply {}).map (·.entries)

end Document

end ContentFilter.Toml
