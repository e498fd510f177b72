import Handoff.Binary64.Basic

/-!
TOML values, and how keys and headers fill a table. A table remembers how it was begun, because that
decides what may still be added to it.
-/
namespace Handoff.Toml

/-- How a table was begun. -/
inductive Origin where
  /-- Between braces. -/
  | inline
  /-- By a header of its own. -/
  | header
  /-- By the header of a table inside it. -/
  | implied
  /-- By a key with dots. -/
  | dotted
  deriving DecidableEq

/-- A TOML value. A list of tables that headers have begun holds the latest one first. -/
inductive Value where
  | text (value : String)
  | integer (value : Int)
  | real (value : Binary64)
  | bool (value : Bool)
  /-- A date, a time of day or both, as it is written. -/
  | moment (written : String)
  | array (items : List Value)
  | table (origin : Origin) (entries : List (String × Value))
  | tables (latestFirst : List (List (String × Value)))

abbrev Entries := List (String × Value)

namespace Entries

def find? (entries : Entries) (key : String) : Option Value :=
  (List.find? (·.1 = key) entries).map Prod.snd

/-- Stores a value under a key, in place of any other. -/
def put (entries : Entries) (key : String) (value : Value) : Entries :=
  match entries with
  | [] => [(key, value)]
  | entry :: rest => if entry.1 = key then (key, value) :: rest else entry :: put rest key value

def add? (entries : Entries) (key : String) (value : Value) : Option Entries :=
  match entries.find? key with
  | none => some (entries.put key value)
  | some _ => none

/-- Changes the table at the end of a path, beginning the tables that are missing on the way. Tables
with headers of their own are closed to keys with dots, and tables in braces to everything. -/
def editAt (begun : Origin) (edit : Origin → Entries → Option Entries) :
    List String → Origin → Entries → Option Entries
  | [], origin, entries => edit origin entries
  | key :: path, _, entries =>
    match entries.find? key with
    | none => do
      let inner ← editAt begun edit path begun []
      return entries.put key (.table begun inner)
    | some (.table origin inner) => do
      if origin = .inline ∨ (begun = .dotted ∧ origin = .header) then none
      let inner ← editAt begun edit path origin inner
      return entries.put key (.table origin inner)
    | some (.tables (latest :: others)) => do
      if begun = .dotted then none
      let latest ← editAt begun edit path .header latest
      return entries.put key (.tables (latest :: others))
    | some _ => none

/-- Stores a value under a key with dots, given the parts before the last one. Only tables begun by
such keys are filled that way. -/
def assign (entries : Entries) (path : List String) (key : String) (value : Value) :
    Option Entries :=
  entries.editAt .dotted
    (fun origin inner =>
      if path.isEmpty ∨ origin = .dotted then inner.add? key value else none)
    path .header

/-- Begins the table of a header, given the parts before the last one. -/
def openTable (entries : Entries) (path : List String) (key : String) : Option Entries :=
  entries.editAt .implied
    (fun _ inner =>
      match inner.find? key with
      | none => some (inner.put key (.table .header []))
      | some (.table .implied begun) => some (inner.put key (.table .header begun))
      | some _ => none)
    path .header

/-- Begins another table of a list of tables, given the parts before the last one. -/
def openTables (entries : Entries) (path : List String) (key : String) : Option Entries :=
  entries.editAt .implied
    (fun _ inner =>
      match inner.find? key with
      | none => some (inner.put key (.tables [[]]))
      | some (.tables others) => some (inner.put key (.tables ([] :: others)))
      | some _ => none)
    path .header

/-- Stores a value under a key with dots in the table that a header has begun. -/
def assignIn (entries : Entries) (header path : List String) (key : String) (value : Value) :
    Option Entries :=
  entries.editAt .implied (fun _ inner => inner.assign path key value) header .header

end Entries

end Handoff.Toml
