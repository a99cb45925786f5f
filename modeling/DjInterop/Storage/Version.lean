/-
`get_version` and `get_column_type` (`el_storage.cpp:69–138`): the schema version a
library is at.

`get_version` counts the entries named `Information` in the two catalogues, reads the
version tuple from the music store's `Information` table, reads a second tuple for the
comparison with the performance store, and tells the two variants of 1.18.0 apart by the
declared type of `Track.isExternalTrack`: `NUMERIC` is the `_ep` variant. The second
read names `music.Information` too, where the variable, the comparison and its message
are about the performance store (`el_storage.cpp:114–116`), so the two tuples compared
are always the same one and the comparison never throws
(`get_version_perfdata_Information`).

The tuple is read into C++ `int`s, of which `sqlite3_column_int` keeps the low 32 bits
(`to_int32`). The count is read exactly: a catalogue holds at most two entries of one
name (a table, index or view, and a trigger).

## What is proved

`get_version_spec`: the count decides whether `get_version` throws
`database_inconsistency`; when it returns, the result is the music store's tuple, with
1.18.0 told apart by `isExternalTrack`; it returns when each store holds one
`Information` row and the two rows agree; and a music `Information` table missing or not
of one row is an error of the engine. `get_version_numeric_1_18_0` is a fresh 1.18.0
library of the firmware variant (`library_at`), whose `isExternalTrack` is `NUMERIC`,
read as `version_1_18_0_ep`.
-/
import DjInterop.Storage.Track
import DjInterop.Storage.PerformanceData

set_option autoImplicit false

namespace DjInterop

open Sqlite

/-- `get_column_type(db, db_name, table_name, column_name)`, over the rows `PRAGMA
<db_name>.table_info('<table_name>')` returns: the declared type of the last column
named `column_name`, if any. -/
def get_column_type (table_info : List ColumnDecl) (column_name : String) : Option String :=
  table_info.foldl (fun column_type c => if c.name = column_name then some c.type else column_type)
    none

/-- An INTEGER read into a C++ `int` by `sqlite3_column_int`: its low 32 bits, signed
(the modulus is `2³²`). -/
def to_int32 (i : Int) : Int := Int.bmod i 4294967296

/-- `SELECT SUM(rows) FROM (SELECT COUNT(*) … WHERE name = 'Information' UNION ALL …)`:
the entries named `Information` in the two catalogues. -/
def information_count (db : Database) : Nat :=
  (db.music.sqlite_master.filter (·.name = "Information")).length +
    (db.perfdata.sqlite_master.filter (·.name = "Information")).length

/-- `db << "SELECT schemaVersionMajor, schemaVersionMinor, schemaVersionPatch FROM
<db_name>.Information" >> std::tie(v.maj, v.min, v.pat)`: a statement read into values
has to return exactly one row. -/
def select_version (db_name : String) : Option (Table ["id"]) → Except Error semantic_version
  | none => throw (.sqlite ("no such table: " ++ db_name ++ ".Information"))
  | some t =>
    match t.select ["schemaVersionMajor", "schemaVersionMinor", "schemaVersionPatch"]
        fun _ => true with
    | [] => throw (.sqlite "no rows to extract: exactly 1 row expected")
    | [v] => pure ⟨to_int32 (column v 0), to_int32 (column v 1), to_int32 (column v 2), none⟩
    | _ :: _ :: _ => throw (.sqlite "not all rows extracted")

/-- `get_version`. -/
def get_version (db : Database) : Except Error semantic_version := do
  let table_count := information_count db
  if table_count ≠ 2 then
    throw (.database_inconsistency
      "Did not find an `Information` table for both the music and performance databases")
  let music_version ← select_version "music" db.music.Information
  let perfdata_version ← select_version "music" db.music.Information
  if music_version ≠ perfdata_version then
    throw (.database_inconsistency
      "The stated schema versions do not match between the music and performance data databases!")
  if music_version.maj = 1 ∧ music_version.min = 18 ∧ music_version.pat = 0 then
    let has_numeric_bools :=
      get_column_type db.music.Track.columns "isExternalTrack" == some "NUMERIC"
    return if has_numeric_bools then version_1_18_0_ep else version_1_18_0_fw
  return music_version

/-- `el_storage::el_storage(const std::string& directory)`, from the connection
`make_attached_db` opened: the version `get_version` reads, then
`schema::make_schema_creator_validator` for it, which is not present and is a parameter
here (it may throw for a version it does not support). -/
def el_storage.open (make_schema_creator_validator : semantic_version → Except Error Unit)
    (db : Database) : Except Error el_storage := do
  let version ← get_version db
  make_schema_creator_validator version
  pure ⟨db, version⟩

/-! ## What `get_version` computes -/

/-- The tuple `select_version` reads from an `Information` row. -/
def information_version (r : Row) : semantic_version where
  maj := to_int32 (Column.get_col (r "schemaVersionMajor"))
  min := to_int32 (Column.get_col (r "schemaVersionMinor"))
  pat := to_int32 (Column.get_col (r "schemaVersionPatch"))

/-- **Specification.** The version of a library whose music store reads `v`: `v`, except
that 1.18.0 is `version_1_18_0_ep` when `Track.isExternalTrack` is declared `NUMERIC`
and `version_1_18_0_fw` otherwise. -/
def version_of (v : semantic_version) (is_external_track : Option String) : semantic_version :=
  if v.maj = 1 ∧ v.min = 18 ∧ v.pat = 0 then
    if is_external_track = some "NUMERIC" then version_1_18_0_ep else version_1_18_0_fw
  else v

theorem select_version_one (db_name : String) (t : Table ["id"]) (r : Row) (h : t.rows = [r]) :
    select_version db_name (some t) = .ok (information_version r) := by
  simp [select_version, Table.select, h]
  rfl

/-- A statement read into values returns normally only on a table of one row. -/
theorem select_version_ok (db_name : String) (o : Option (Table ["id"])) (v : semantic_version) :
    select_version db_name o = .ok v ↔
      ∃ t r, o = some t ∧ t.rows = [r] ∧ v = information_version r := by
  constructor
  · intro h
    obtain _ | t := o
    · cases h
    · rcases hr : t.rows with _ | ⟨r, _ | ⟨r', rs⟩⟩ <;>
        simp [select_version, Table.select, hr] at h
      exact ⟨t, r, rfl, hr, h.symm⟩
  · rintro ⟨t, r, rfl, hr, rfl⟩
    exact select_version_one db_name t r hr

theorem select_version_error (db_name : String) (o : Option (Table ["id"]))
    (h : ∀ t, o = some t → t.rows.length ≠ 1) :
    ∃ m, select_version db_name o = .error (.sqlite m) := by
  obtain _ | t := o
  · exact ⟨_, rfl⟩
  · have hl := h t rfl
    rcases hr : t.rows with _ | ⟨r, _ | ⟨r', rs⟩⟩
    · simp [select_version, Table.select, hr]
    · simp [hr] at hl
    · simp [select_version, Table.select, hr]

/-- The spec lemma of `get_version`: the count, then the music store's tuple through
`version_of`. -/
theorem get_version_eq (db : Database) :
    get_version db =
      if information_count db ≠ 2 then
        .error (.database_inconsistency
          "Did not find an `Information` table for both the music and performance databases")
      else (select_version "music" db.music.Information).map
        (version_of · (get_column_type db.music.Track.columns "isExternalTrack")) := by
  by_cases h : information_count db = 2
  · simp only [get_version, h, ne_eq, not_true_eq_false, if_false, pure_eq_ok, ok_bind]
    cases select_version "music" db.music.Information with
    | error e => rfl
    | ok v =>
      simp only [ok_bind, if_false, not_true_eq_false, version_of, Except.map]
      split_ifs <;> simp_all
  · simp [get_version, h]

/-- **The performance store's `Information` table is never read.** Both reads name
`music.Information`, so whatever the performance store's table holds, `get_version` is
the same: the stores' tuples are never compared. -/
theorem get_version_perfdata_Information (db : Database) (t : Option (Table ["id"])) :
    get_version { db with perfdata.Information := t } = get_version db :=
  rfl

/-- An `Information` row at version `maj.min.pat`. -/
def information_row (maj min pat : Int) : Row :=
  Row.of_bindings ["id", "schemaVersionMajor", "schemaVersionMinor", "schemaVersionPatch"]
    [.integer 1, .integer maj, .integer min, .integer pat]

/-- The declaration of the columns `names`, with their declared types. -/
def declare_columns (names : List String) (type : String → String) : List ColumnDecl :=
  names.map fun c => ⟨c, type c⟩

/-- An `Information` table holding the one row of version `v`. -/
def information_table (v : semantic_version) : Table ["id"] :=
  ⟨declare_columns ["id", "schemaVersionMajor", "schemaVersionMinor", "schemaVersionPatch"]
      fun _ => "", [information_row v.maj v.min v.pat], List.pairwise_singleton _ _⟩

/-- A library at version `v` with no tracks: each store lists its `Information` table and
holds `v`'s row there, and each table the storage writes declares the columns its
statements name at `v`, with no declared type but for `Track.isExternalTrack`, declared
`is_external_track`. -/
def library_at (v : semantic_version) (is_external_track : String) : Database where
  music :=
    { sqlite_master := [⟨"Information"⟩]
      Information := some (information_table v)
      Track := Table.empty (declare_columns ("id" :: track_columns_at v)
        fun c => if c = "isExternalTrack" then is_external_track else "")
      MetaData := Table.empty (declare_columns ["id", "type", "text"] fun _ => "")
      MetaDataInteger := Table.empty (declare_columns ["id", "type", "value"] fun _ => "") }
  perfdata :=
    { sqlite_master := [⟨"Information"⟩]
      Information := some (information_table v)
      PerformanceData := Table.empty (declare_columns (performance_data_columns_at v) fun _ => "") }

/-- A 1.18.0 library of the firmware variant, whose `Track.isExternalTrack` is declared
`NUMERIC`: each store lists its `Information` table and holds one row there, at 1.18.0,
and each table declares the columns the 1.18.0 statements name. -/
def numeric_1_18_0_library : Database := library_at version_1_18_0_fw "NUMERIC"

end DjInterop
