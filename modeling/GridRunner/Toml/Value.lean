/-!
# Values of TOML

A document is a table of named values.  Texts, integers, truth values, dates and
tables are kept; fractions are recognised and kept as `other`.

Tables remember how they came about, since that decides who may add to them: a
table made by a header is closed to a second header of its name and to dotted
keys, one made by a dotted key only takes further dotted keys, one that merely
stands above a header may still get a header of its own, and an inline table
takes nothing more.
-/

namespace GridRunner.Toml

/-- How a table came about. -/
inductive Origin where
  /-- It stands above a table that has a header. -/
  | implied
  | header
  | dotted
  | inlined
  deriving DecidableEq, Repr

inductive Value where
  | integer (value : Int)
  | text (text : String)
  | bool (value : Bool)
  /-- A date, a time or both, in standard form. -/
  | moment (text : String)
  | table (origin : Origin) (entries : List (String × Value))
  /-- The tables under one double header, the last one first. -/
  | tables (reversed : List (List (String × Value)))
  /-- An array in brackets. -/
  | array (items : List Value)
  | other
  deriving Inhabited

/-- Named values in the order they were written. -/
abbrev Entries := List (String × Value)

namespace Entries

def put (key : String) (value : Value) : Entries → Entries
  | [] => [(key, value)]
  | (key', value') :: rest =>
      if key = key' then (key, value) :: rest else (key', value') :: put key value rest

/-- Changes the table that a header's path leads to, making tables on the way. -/
def underHeader (change : Entries → Option Entries) : List String → Entries → Option Entries
  | [], entries => change entries
  | key :: path, entries =>
      match entries.lookup key with
      | none => do
          let below ← underHeader change path []
          some (entries.put key (.table .implied below))
      | some (.table origin below) =>
          if origin = .inlined then none
          else do
            let below ← underHeader change path below
            some (entries.put key (.table origin below))
      | some (.tables (last :: earlier)) => do
          let last ← underHeader change path last
          some (entries.put key (.tables (last :: earlier)))
      | some _ => none

/-- Opens the table of a header.  A table that was only implied so far keeps its entries. -/
def openTable (key : String) (entries : Entries) : Option Entries :=
  match entries.lookup key with
  | none => some (entries.put key (.table .header []))
  | some (.table .implied below) => some (entries.put key (.table .header below))
  | some _ => none

/-- Opens one more table of a double header. -/
def openNext (key : String) (entries : Entries) : Option Entries :=
  match entries.lookup key with
  | none => some (entries.put key (.tables [[]]))
  | some (.tables reversed) => some (entries.put key (.tables ([] :: reversed)))
  | some _ => none

/-- Adds a value under a dotted key.  The key may lead through implied tables and the last table
under a double header, but the table it ends in is one made by dotted keys. -/
def assign (value : Value) : List String → Entries → Option Entries
  | [], _ => none
  | [key], entries =>
      match entries.lookup key with
      | none => some (entries.put key value)
      | some _ => none
  | key :: path, entries =>
      match entries.lookup key with
      | none => do
          let below ← assign value path []
          some (entries.put key (.table .dotted below))
      | some (.table origin below) =>
          if origin = .dotted || (origin = .implied && path.length > 1) then do
            let below ← assign value path below
            some (entries.put key (.table origin below))
          else none
      | some (.tables (last :: earlier)) =>
          if path.length > 1 then do
            let last ← assign value path last
            some (entries.put key (.tables (last :: earlier)))
          else none
      | some _ => none

end Entries
end GridRunner.Toml
