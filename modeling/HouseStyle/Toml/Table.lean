/-
This file defines how the lines of a document extend its tables.
-/

import HouseStyle.Toml.Basic

namespace HouseStyle.Toml.Entries

/-- This function replaces the value of a name. A new name comes last. -/
def put (name : Text) (value : Value) : Entries → Entries
  | [] => [(name, value)]
  | (other, old) :: entries =>
      if other = name then (name, value) :: entries else (other, old) :: put name value entries

/-- A name may get a value only once. -/
def addNew (name : Text) (value : Value) (entries : Entries) : Option Entries :=
  if (entries.lookup name).isSome then none else some (put name value entries)

/-- This function gives a value to a dotted key. A dotted key may extend only the tables that other
dotted keys opened. It may pass through a table that a header implies. -/
def assign (value : Value) : List Text → Entries → Option Entries
  | [], _ => none
  | [name], entries => addNew name value entries
  | name :: second :: path, entries =>
      match entries.lookup name with
      | none =>
          (assign value (second :: path) []).map fun inside =>
            put name (.table .dotted inside) entries
      | some (.table .dotted inside) =>
          (assign value (second :: path) inside).map fun inside =>
            put name (.table .dotted inside) entries
      | some (.table .implied inside) =>
          if path.isEmpty then none
          else
            (assign value (second :: path) inside).map fun inside =>
              put name (.table .implied inside) entries
      | _ => none

/-- This function changes the table at the end of a path. Missing tables on the way are implied. Of
several tables with the same double header, the last one counts. -/
def within (change : Entries → Option Entries) : List Text → Entries → Option Entries
  | [], entries => change entries
  | name :: path, entries =>
      match entries.lookup name with
      | none =>
          (within change path []).map fun inside => put name (.table .implied inside) entries
      | some (.table .inline _) => none
      | some (.table origin inside) =>
          (within change path inside).map fun inside => put name (.table origin inside) entries
      | some (.tables items) =>
          match items.getLast? with
          | some (.table origin inside) =>
              (within change path inside).map fun inside =>
                put name (.tables (items.dropLast ++ [.table origin inside])) entries
          | _ => none
      | some _ => none

/-- A header opens a new table, or a table that was implied so far. -/
def openTable (name : Text) (entries : Entries) : Option Entries :=
  match entries.lookup name with
  | none => some (put name (.table .header []) entries)
  | some (.table .implied inside) => some (put name (.table .header inside) entries)
  | some _ => none

/-- A double header appends a table to a list of tables. -/
def appendTable (name : Text) (entries : Entries) : Option Entries :=
  match entries.lookup name with
  | none => some (put name (.tables [.table .header []]) entries)
  | some (.tables items) => some (put name (.tables (items ++ [.table .header []])) entries)
  | some _ => none

end HouseStyle.Toml.Entries
