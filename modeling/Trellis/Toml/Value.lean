/-!
TOML documents. A table remembers how it was made, which decides what may still be added to it: a table
with a header of its own is not opened again, one that stands on the way to a header or that dotted keys
made may get further entries, and an inline table gets none.
-/

namespace Trellis

/-- How a table was made. -/
inductive TableKind
  /-- By a header of its own. -/
  | header
  /-- On the way to the header of a table below it. -/
  | implicit
  /-- By dotted keys. -/
  | dotted
  /-- In braces. -/
  | inline
deriving DecidableEq, Repr

inductive Toml
  | string (text : String)
  | bool (value : Bool)
  /-- A number or a date, as it is written. -/
  | scalar (text : String)
  | array (items : List Toml)
  | table (kind : TableKind) (entries : List (String × Toml))
  /-- The tables of one doubled header, the latest last. -/
  | tables (elements : List (List (String × Toml)))

namespace Toml

/-- The entries of a table. -/
abbrev Entries := List (String × Toml)

namespace Entries

def get? (es : Entries) (key : String) : Option Toml :=
  (es.find? fun e => e.1 = key).map (·.2)

/-- Put a value at a key that is there already. -/
def replace (es : Entries) (key : String) (value : Toml) : Entries :=
  es.map fun e => if e.1 = key then (key, value) else e

def add (es : Entries) (key : String) (value : Toml) : Entries := es ++ [(key, value)]

/-- Add a value under a dotted key. The parts before the last name new tables, tables that dotted keys made
or that stand on the way to a header, or tables of a doubled header, of which the latest is meant; only
those that dotted keys made may get the value, as `mayHold` tells of the table at hand. -/
def insert? (value : Toml) (mayHold : Bool) : List String → Entries → Option Entries
  | [], _ => none
  | [key], es => match es.get? key with
    | none => if mayHold then some (es.add key value) else none
    | some _ => none
  | key :: rest, es => match es.get? key with
    | none => (insert? value true rest []).map fun inner => es.add key (.table .dotted inner)
    | some (.table .implicit inner) =>
      (insert? value false rest inner).map fun inner => es.replace key (.table .implicit inner)
    | some (.table .dotted inner) =>
      (insert? value true rest inner).map fun inner => es.replace key (.table .dotted inner)
    | some (.tables elements) => match elements.getLast? with
      | none => none
      | some inner => (insert? value false rest inner).map fun inner =>
        es.replace key (.tables (elements.dropLast ++ [inner]))
    | some _ => none

/-- Change the table at a path, making the tables on the way. Of several tables with one doubled
header the latest is meant. -/
def change? (last : String → Entries → Option Entries) : List String → Entries → Option Entries
  | [], _ => none
  | [key], es => last key es
  | key :: rest, es => match es.get? key with
    | none => (change? last rest []).map fun inner => es.add key (.table .implicit inner)
    | some (.table .inline _) => none
    | some (.table kind inner) =>
      (change? last rest inner).map fun inner => es.replace key (.table kind inner)
    | some (.tables elements) => match elements.getLast? with
      | none => none
      | some inner =>
        (change? last rest inner).map fun inner =>
          es.replace key (.tables (elements.dropLast ++ [inner]))
    | some _ => none

/-- Open the table of a header. -/
def openTable (key : String) (es : Entries) : Option Entries :=
  match es.get? key with
  | none => some (es.add key (.table .header []))
  | some (.table .implicit inner) => some (es.replace key (.table .header inner))
  | some _ => none

/-- Open one more table of a doubled header. -/
def openElement (key : String) (es : Entries) : Option Entries :=
  match es.get? key with
  | none => some (es.add key (.tables [[]]))
  | some (.tables elements) => some (es.replace key (.tables (elements ++ [[]])))
  | some _ => none

/-- Add a value to the table that a header has opened. -/
def insertBelow (path : List String) (value : Toml) (key : String) (es : Entries) :
    Option Entries :=
  match es.get? key with
  | some (.table kind inner) => (insert? value true path inner).map fun inner =>
    es.replace key (.table kind inner)
  | some (.tables elements) => match elements.getLast? with
    | none => none
    | some inner => (insert? value true path inner).map fun inner =>
      es.replace key (.tables (elements.dropLast ++ [inner]))
  | _ => none

/-- Add a value under a dotted key to the table of the latest header, or to the whole document before
the first one. -/
def insertAt? (header path : List String) (value : Toml) (es : Entries) : Option Entries :=
  match header with
  | [] => insert? value true path es
  | _ => change? (insertBelow path value) header es

end Entries

end Toml

end Trellis
