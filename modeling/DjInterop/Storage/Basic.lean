/-
The **state** the storage facade works on: the connection `make_attached_db` opens, with
`m.db` attached as `music` and `p.db` as `perfdata`, and the version the library was
opened at.

Each attached database is kept as the tables `el_storage.cpp` reads or writes, by their
SQL names, together with its `sqlite_master` catalogue, which `get_version` counts.
Tables the storage code never touches (`AlbumArt`, `Crate*`, …) are left out. A table is
a `Sqlite.Table`, so its primary-key constraint is part of the state: a library in which
two `Track` rows share an id, or two `MetaData` rows a `(id, type)` slot, is not a state.

`at_most_one` is the callback every `get_*` method passes to a `SELECT`: the first row
sets the result and a second one throws. On a `WHERE` over the whole key it never
throws (`at_most_one_find`), and that is why no getter can raise
`track_database_inconsistency`.
-/
import DjInterop.Sqlite.Table
import DjInterop.SemanticVersion

set_option autoImplicit false

namespace DjInterop

open Sqlite

/-- A row of `sqlite_master`: one schema object (a table, an index, a trigger or a view),
by its name, the one column `get_version` reads; `type`, `tbl_name`, `rootpage` and `sql`
are read by nothing the storage code does. -/
structure MasterRow where
  name : String
deriving DecidableEq, Repr

/-- The music database (`m.db`, attached as `music`). -/
structure MusicDb where
  sqlite_master : List MasterRow
  Information : Option (Table ["id"])
  Track : Table ["id"]
  MetaData : Table ["id", "type"]
  MetaDataInteger : Table ["id", "type"]

/-- The performance database (`p.db`, attached as `perfdata`). -/
structure PerfdataDb where
  sqlite_master : List MasterRow
  Information : Option (Table ["id"])
  PerformanceData : Table ["id"]

/-- The connection of `make_attached_db` and `make_temporary_db`: an empty main database
with the two stores attached. -/
structure Database where
  music : MusicDb
  perfdata : PerfdataDb

/-- `el_storage`: the connection and the schema version it was opened at. (The directory
and the schema creator/validator are only used by the constructors.) -/
structure el_storage where
  db : Database
  version : semantic_version

namespace el_storage

variable (s : el_storage)

/-- The storage with its `Track` table replaced. -/
def with_Track (t : Table ["id"]) : el_storage := { s with db.music.Track := t }

/-- The storage with its `MetaData` table replaced. -/
def with_MetaData (t : Table ["id", "type"]) : el_storage := { s with db.music.MetaData := t }

/-- The storage with its `MetaDataInteger` table replaced. -/
def with_MetaDataInteger (t : Table ["id", "type"]) : el_storage :=
  { s with db.music.MetaDataInteger := t }

/-- The storage with its `PerformanceData` table replaced. -/
def with_PerformanceData (t : Table ["id"]) : el_storage :=
  { s with db.perfdata.PerformanceData := t }

variable {s} {t : Table ["id"]} {u : Table ["id", "type"]}

@[simp] theorem with_Track_version : (s.with_Track t).version = s.version := rfl
@[simp] theorem with_Track_Track : (s.with_Track t).db.music.Track = t := rfl
@[simp] theorem with_Track_MetaData : (s.with_Track t).db.music.MetaData = s.db.music.MetaData :=
  rfl
@[simp] theorem with_Track_MetaDataInteger :
    (s.with_Track t).db.music.MetaDataInteger = s.db.music.MetaDataInteger := rfl
@[simp] theorem with_Track_PerformanceData :
    (s.with_Track t).db.perfdata.PerformanceData = s.db.perfdata.PerformanceData := rfl
@[simp] theorem with_MetaData_Track : (s.with_MetaData u).db.music.Track = s.db.music.Track := rfl
@[simp] theorem with_MetaData_PerformanceData :
    (s.with_MetaData u).db.perfdata.PerformanceData = s.db.perfdata.PerformanceData := rfl
@[simp] theorem with_MetaDataInteger_Track :
    (s.with_MetaDataInteger u).db.music.Track = s.db.music.Track := rfl
@[simp] theorem with_MetaDataInteger_PerformanceData :
    (s.with_MetaDataInteger u).db.perfdata.PerformanceData = s.db.perfdata.PerformanceData := rfl
@[simp] theorem with_PerformanceData_Track :
    (s.with_PerformanceData t).db.music.Track = s.db.music.Track := rfl
@[simp] theorem with_PerformanceData_MetaData :
    (s.with_PerformanceData t).db.music.MetaData = s.db.music.MetaData := rfl
@[simp] theorem with_PerformanceData_MetaDataInteger :
    (s.with_PerformanceData t).db.music.MetaDataInteger = s.db.music.MetaDataInteger := rfl
@[simp] theorem with_MetaData_version : (s.with_MetaData u).version = s.version := rfl
@[simp] theorem with_MetaData_MetaData : (s.with_MetaData u).db.music.MetaData = u := rfl
@[simp] theorem with_MetaData_MetaDataInteger :
    (s.with_MetaData u).db.music.MetaDataInteger = s.db.music.MetaDataInteger := rfl
@[simp] theorem with_MetaDataInteger_version : (s.with_MetaDataInteger u).version = s.version :=
  rfl
@[simp] theorem with_MetaDataInteger_MetaData :
    (s.with_MetaDataInteger u).db.music.MetaData = s.db.music.MetaData := rfl
@[simp] theorem with_MetaDataInteger_MetaDataInteger :
    (s.with_MetaDataInteger u).db.music.MetaDataInteger = u := rfl
@[simp] theorem with_PerformanceData_version : (s.with_PerformanceData t).version = s.version :=
  rfl
@[simp] theorem with_PerformanceData_PerformanceData :
    (s.with_PerformanceData t).db.perfdata.PerformanceData = t := rfl

end el_storage

/-- The `i`-th parameter of a row callback: the row's `i`-th cell, read as the parameter's
C++ type (a parameter past the last column reads NULL). -/
def column {α : Type} [Column α] (v : List Value) (i : Nat) : α := Column.get_col (v.getD i .null)

@[simp] theorem column_cons_zero {α : Type} [Column α] (a : Value) (v : List Value) :
    (column (a :: v) 0 : α) = Column.get_col a := rfl

@[simp] theorem column_cons_succ {α : Type} [Column α] (a : Value) (v : List Value) (i : Nat) :
    (column (a :: v) (i + 1) : α) = column v i := rfl

/-- The callback of the `get_*` methods: the first row sets the result, and a second one
throws `err` of what it read. -/
def at_most_one {α : Type} (err : α → Error) (rows : List α) : Except Error (Option α) :=
  rows.foldlM (fun result a => if result.isSome then throw (err a) else pure (some a)) none

/-- On at most one row the callback never throws: it returns that row, if any. -/
@[simp] theorem at_most_one_toList {α : Type} (err : α → Error) (o : Option α) :
    at_most_one err o.toList = .ok o := by
  cases o <;> rfl

/-- A `SELECT` on the whole key, read through the callback: the row the key finds. -/
theorem at_most_one_find {pk : List String} {p : Row → Bool} {α : Type} (t : Table pk)
    (hp : KeySelector pk p) (err : α → Error) (cols : List String) (f : List Value → α) :
    at_most_one err ((t.select cols p).map f) =
      .ok ((t.rows.find? p).map fun r => f (cols.map r)) := by
  rw [select_eq_find t hp]
  cases t.rows.find? p <;> rfl

end DjInterop
