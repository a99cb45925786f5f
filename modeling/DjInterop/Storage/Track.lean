/-
`el_storage::create_track`, `get_track` and `update_track` (`el_storage.cpp:166–546`):
the `Track` table, in four versions.

Each method is a four-way dispatch on the version, and each branch is a statement whose
column list and bind list have to line up: 18, 17, 15 or 14 columns, and in `get_track`
a callback whose parameters are passed to `track_row`'s fields by position. The first
fourteen columns are the same in every branch; `track_columns`, `track_row.binds` and
`track_row.of_columns` are those fourteen, written once, and each branch adds its own
tail as the source does.

## What is proved

`track_crud_spec` is the round trip the spec states (§ 8 property 4), for what the table
keeps of a value: `create_track` returns an id no row had and `get_track` reads back
`track_row.project` of `track_row.stored` of the value, the fields the version's table
has and `none` for the rest, with the analysed bpm as its REAL column keeps it;
`update_track` on an existing row does the same and on a missing id changes nothing;
neither touches another id; and `get_track` throws `track_deleted` exactly when no row
has the id, and nothing else. The spec's round trip without `stored` fails at a NaN bpm,
which `sqlite3_bind_double` binds as NULL (`get_track_create_nan_bpm`).

The proof is three spec lemmas, one per method, that say each branch is one statement
at the version's shape (`track_columns_at`, `track_row.binds_at`,
`track_row.of_columns_at`), and then one fact per shape: the callback, applied to the
values bound in the same column order, is `project` of `stored` (`of_columns_at_binds_at`).
That is the fact a bind out of place, in any branch, would break.
-/
import DjInterop.Storage.Basic

set_option autoImplicit false

namespace DjInterop

open Sqlite Column

/-- `track_row`: one `Track` row as the facade reads and writes it, in the order
`get_track` builds it (the declaration itself is not present). -/
structure track_row where
  play_order : Option Int := none
  length : Option Int := none
  length_calculated : Option Int := none
  bpm : Option Int := none
  year : Option Int := none
  relative_path : Option String := none
  filename : Option String := none
  bitrate : Option Int := none
  bpm_analyzed : Option Double := none
  track_type : Option Int := none
  is_external_track : Option Int := none
  uuid_of_external_database : Option String := none
  id_track_in_external_database : Option Int := none
  album_art_id : Option Int := none
  file_bytes : Option Int := none
  pdb_import_key : Option Int := none
  uri : Option String := none
  is_beatgrid_locked : Option Int := none
deriving DecidableEq, Repr

/-- The columns every version's statements name first, in their order. -/
def track_columns : List String :=
  ["playOrder", "length", "lengthCalculated", "bpm", "year", "path", "filename", "bitrate",
    "bpmAnalyzed", "trackType", "isExternalTrack", "uuidOfExternalDatabase",
    "idTrackInExternalDatabase", "idAlbumArt"]

/-- The values bound to those columns, in the order `create_track` and `update_track`
stream them. -/
def track_row.binds (x : track_row) : List Value :=
  [bind_col x.play_order, bind_col x.length, bind_col x.length_calculated, bind_col x.bpm,
    bind_col x.year, bind_col x.relative_path, bind_col x.filename, bind_col x.bitrate,
    bind_col x.bpm_analyzed, bind_col x.track_type, bind_col x.is_external_track,
    bind_col x.uuid_of_external_database, bind_col x.id_track_in_external_database,
    bind_col x.album_art_id]

/-- The first fourteen parameters of `get_track`'s callbacks, passed to the fields of the
`track_row` it builds. -/
def track_row.of_columns (v : List Value) : track_row where
  play_order := column v 0
  length := column v 1
  length_calculated := column v 2
  bpm := column v 3
  year := column v 4
  relative_path := column v 5
  filename := column v 6
  bitrate := column v 7
  bpm_analyzed := column v 8
  track_type := column v 9
  is_external_track := column v 10
  uuid_of_external_database := column v 11
  id_track_in_external_database := column v 12
  album_art_id := column v 13

/-- `el_storage::create_track`: insert a row and return its id (`last_insert_rowid`). -/
def el_storage.create_track (s : el_storage) (x : track_row) :
    Except Error (Int × el_storage) := do
  let (t, id) ←
    if s.version ≥ version_1_18_0_fw then
      s.db.music.Track.insert_into
        (track_columns ++ ["fileBytes", "pdbImportKey", "uri", "isBeatGridLocked"]) 18
        (x.binds ++ [bind_col x.file_bytes, bind_col x.pdb_import_key, bind_col x.uri,
          bind_col x.is_beatgrid_locked])
    else if s.version ≥ version_1_15_0 then
      s.db.music.Track.insert_into (track_columns ++ ["fileBytes", "pdbImportKey", "uri"]) 17
        (x.binds ++ [bind_col x.file_bytes, bind_col x.pdb_import_key, bind_col x.uri])
    else if s.version ≥ version_1_7_1 then
      s.db.music.Track.insert_into (track_columns ++ ["pdbImportKey"]) 15
        (x.binds ++ [bind_col x.pdb_import_key])
    else
      s.db.music.Track.insert_into track_columns 14 x.binds
  pure (id, s.with_Track t)

/-- `el_storage::get_track`: the row with the id, or `track_deleted`. -/
def el_storage.get_track (s : el_storage) (id : Int) : Except Error track_row := do
  let select := fun cols => s.db.music.Track.select cols fun r => (r "id").sql_eq (bind_col id)
  let more := fun _ => Error.track_database_inconsistency "More than one track with the same id" id
  let result ←
    if s.version ≥ version_1_18_0_fw then
      at_most_one more <|
        (select (track_columns ++ ["fileBytes", "pdbImportKey", "uri", "isBeatGridLocked"])).map
          fun v => { track_row.of_columns v with
            file_bytes := column v 14, pdb_import_key := column v 15, uri := column v 16,
            is_beatgrid_locked := column v 17 }
    else if s.version ≥ version_1_15_0 then
      at_most_one more <| (select (track_columns ++ ["fileBytes", "pdbImportKey", "uri"])).map
        fun v => { track_row.of_columns v with
          file_bytes := column v 14, pdb_import_key := column v 15, uri := column v 16 }
    else if s.version ≥ version_1_7_1 then
      at_most_one more <| (select (track_columns ++ ["pdbImportKey"])).map
        fun v => { track_row.of_columns v with file_bytes := none, pdb_import_key := column v 14 }
    else
      at_most_one more <| (select track_columns).map track_row.of_columns
  match result with
  | none => throw (.track_deleted id)
  | some r => pure r

/-- `el_storage::update_track`: overwrite the row with the id, if there is one. -/
def el_storage.update_track (s : el_storage) (id : Int) (x : track_row) :
    Except Error el_storage := do
  let t ←
    if s.version ≥ version_1_18_0_fw then
      s.db.music.Track.update_where_id
        (track_columns ++ ["fileBytes", "pdbImportKey", "uri", "isBeatGridLocked"])
        (x.binds ++ [bind_col x.file_bytes, bind_col x.pdb_import_key, bind_col x.uri,
          bind_col x.is_beatgrid_locked] ++ [bind_col id])
    else if s.version ≥ version_1_15_0 then
      s.db.music.Track.update_where_id (track_columns ++ ["fileBytes", "pdbImportKey", "uri"])
        (x.binds ++ [bind_col x.file_bytes, bind_col x.pdb_import_key, bind_col x.uri] ++
          [bind_col id])
    else if s.version ≥ version_1_7_1 then
      s.db.music.Track.update_where_id (track_columns ++ ["pdbImportKey"])
        (x.binds ++ [bind_col x.pdb_import_key] ++ [bind_col id])
    else
      s.db.music.Track.update_where_id track_columns (x.binds ++ [bind_col id])
  pure (s.with_Track t)

/-! ## What a version reads back -/

/-- **Specification** (spec § 8, property 4). The value `get_track` should return for `x`
in version `v`: the fields the version's `Track` table has (`pdbImportKey` from 1.7.1,
`fileBytes` and `uri` from 1.15.0, `isBeatGridLocked` from 1.18.0), and `none` for the
others. -/
def track_row.project (v : semantic_version) (x : track_row) : track_row :=
  { x with
    pdb_import_key := if v ≥ version_1_7_1 then x.pdb_import_key else none
    file_bytes := if v ≥ version_1_15_0 then x.file_bytes else none
    uri := if v ≥ version_1_15_0 then x.uri else none
    is_beatgrid_locked := if v ≥ version_1_18_0_fw then x.is_beatgrid_locked else none }

/-- **Specification.** What the `Track` table keeps of a value: the analysed bpm as its
REAL column keeps a bound double (`Double.stored`: no NaN, and `+0.0` for `-0.0`), and
every other field as it is. -/
def track_row.stored (x : track_row) : track_row :=
  { x with bpm_analyzed := x.bpm_analyzed.bind Double.stored }

/-! ## Each method as one statement

The three methods dispatch on the version the same way; `track_columns_at`,
`track_row.binds_at` and `track_row.of_columns_at` are the branch a version takes, so
that the rest of the file reasons about one statement. -/

/-- The column list the statements of version `v` name. -/
def track_columns_at (v : semantic_version) : List String :=
  if v ≥ version_1_18_0_fw then track_columns ++ ["fileBytes", "pdbImportKey", "uri", "isBeatGridLocked"]
  else if v ≥ version_1_15_0 then track_columns ++ ["fileBytes", "pdbImportKey", "uri"]
  else if v ≥ version_1_7_1 then track_columns ++ ["pdbImportKey"]
  else track_columns

/-- The values the statements of version `v` bind to those columns. -/
def track_row.binds_at (v : semantic_version) (x : track_row) : List Value :=
  if v ≥ version_1_18_0_fw then
    x.binds ++ [bind_col x.file_bytes, bind_col x.pdb_import_key, bind_col x.uri,
      bind_col x.is_beatgrid_locked]
  else if v ≥ version_1_15_0 then
    x.binds ++ [bind_col x.file_bytes, bind_col x.pdb_import_key, bind_col x.uri]
  else if v ≥ version_1_7_1 then x.binds ++ [bind_col x.pdb_import_key]
  else x.binds

/-- The callback `get_track` passes in version `v`. -/
def track_row.of_columns_at (v : semantic_version) (vals : List Value) : track_row :=
  if v ≥ version_1_18_0_fw then
    { track_row.of_columns vals with
      file_bytes := column vals 14, pdb_import_key := column vals 15, uri := column vals 16,
      is_beatgrid_locked := column vals 17 }
  else if v ≥ version_1_15_0 then
    { track_row.of_columns vals with
      file_bytes := column vals 14, pdb_import_key := column vals 15, uri := column vals 16 }
  else if v ≥ version_1_7_1 then
    { track_row.of_columns vals with file_bytes := none, pdb_import_key := column vals 14 }
  else track_row.of_columns vals

theorem track_columns_at_nodup (v : semantic_version) : (track_columns_at v).Nodup := by
  unfold track_columns_at; split_ifs <;> decide

theorem id_not_mem_track_columns_at (v : semantic_version) : "id" ∉ track_columns_at v := by
  unfold track_columns_at; split_ifs <;> decide

theorem length_binds_at (v : semantic_version) (x : track_row) :
    (x.binds_at v).length = (track_columns_at v).length := by
  unfold track_row.binds_at track_columns_at; split_ifs <;> rfl

/-- **The callback reads back what the statement bound**, in every version: the
positions of `get_track`'s parameters and of `create_track`'s binds agree field by
field, the fields a version lacks come back `none`, and the bpm comes back as the
column keeps it. -/
theorem of_columns_at_binds_at (v : semantic_version) (x : track_row) :
    track_row.of_columns_at v (x.binds_at v) = x.stored.project v := by
  obtain ⟨h18, h15, h11⟩ := version_ge_chain v
  unfold track_row.of_columns_at track_row.binds_at track_row.project track_row.stored
  split_ifs <;> simp_all [track_row.of_columns, track_row.binds, column]

/-- A row read back through the column list it was written with gives the bound values,
whatever rowid it was given. -/
theorem map_of_bindings_with_rowid (v : semantic_version) (x : track_row) (n : Int) :
    (track_columns_at v).map ((Row.of_bindings (track_columns_at v) (x.binds_at v)).with_rowid n) =
      x.binds_at v := by
  refine (List.map_congr_left fun c hc => ?_).trans
    (map_of_bindings (track_columns_at_nodup v) (length_binds_at v x).symm)
  simp [Row.with_rowid, show c ≠ "id" from fun h => id_not_mem_track_columns_at v (h ▸ hc)]

theorem key_selector_track_id (i : Int) :
    KeySelector ["id"] fun r => (r "id").sql_eq (.integer i) :=
  key_selector_id Value.noConfusion

/-! ## The three spec lemmas -/

/-- `create_track` is one `INSERT` of the version's columns. -/
theorem create_track_eq (s : el_storage) (x : track_row) :
    s.create_track x =
      let ins := s.db.music.Track.insert
        (Row.of_bindings (track_columns_at s.version) (x.binds_at s.version))
      .ok (ins.2, s.with_Track ins.1) := by
  unfold el_storage.create_track track_columns_at track_row.binds_at
  split_ifs <;> simp (disch := rfl) only [insert_into_eq] <;> rfl

/-- `get_track` reads, through the version's callback, the row `WHERE id = ?` finds. -/
theorem get_track_eq (s : el_storage) (i : Int) :
    s.get_track i = match s.db.music.Track.rows.find? (fun r => (r "id").sql_eq (.integer i)) with
      | none => .error (.track_deleted i)
      | some r => .ok (track_row.of_columns_at s.version ((track_columns_at s.version).map r)) := by
  have hp := key_selector_track_id i
  simp only [el_storage.get_track, Column.bind_col_int]
  unfold track_columns_at track_row.of_columns_at
  split_ifs <;> erw [at_most_one_find _ hp] <;> cases s.db.music.Track.rows.find? _ <;> rfl

/-- `update_track` is one `UPDATE … WHERE id = ?` of the version's columns. -/
theorem update_track_eq (s : el_storage) (i : Int) (x : track_row) :
    s.update_track i x =
      (s.db.music.Track.update (Row.assign (track_columns_at s.version) (x.binds_at s.version))
        (fun r => (r "id").sql_eq (.integer i))).map s.with_Track := by
  unfold el_storage.update_track track_columns_at track_row.binds_at
  split_ifs <;> rw [update_where_id_eq _ _ rfl] <;> simp only [Column.bind_col_int] <;>
    cases Table.update _ _ _ <;> rfl

/-! ## The round trip -/

/-- The id `create_track` returns is one no row had. -/
theorem get_track_next_rowid (s : el_storage) :
    s.get_track s.db.music.Track.next_rowid =
      .error (.track_deleted s.db.music.Track.next_rowid) := by
  rw [get_track_eq, find_next_rowid]

/-- `get_track` after the `INSERT`: the new id reads back `project` of what the table kept
of the value, and every other id what it read before. -/
theorem get_track_insert (s : el_storage) (x : track_row) (i : Int) :
    (s.with_Track (s.db.music.Track.insert
        (Row.of_bindings (track_columns_at s.version) (x.binds_at s.version))).1).get_track i =
      if i = s.db.music.Track.next_rowid then .ok (x.stored.project s.version)
      else s.get_track i := by
  rw [get_track_eq, get_track_eq (s := s)]
  simp only [el_storage.with_Track_Track, el_storage.with_Track_version, find_insert]
  by_cases h : i = s.db.music.Track.next_rowid
  · subst h
    simp [map_of_bindings_with_rowid, of_columns_at_binds_at]
  · simp only [h, if_false]

/-- No version's `UPDATE` assigns the key column. -/
theorem assign_track_key (v : semantic_version) (x : track_row) (r : Row) :
    ∀ c ∈ ["id"], Row.assign (track_columns_at v) (x.binds_at v) r c = r c := by
  intro c hc
  rw [List.mem_singleton.1 hc]
  exact assign_of_not_mem _ r (id_not_mem_track_columns_at _)

/-- `get_track` after `update_track`: the id reads back `project` of what the table kept of
the new value if it had a row (and is still missing if not), and every other id what it
read before. -/
theorem get_track_update (s : el_storage) (id : Int) (y : track_row) :
    ∃ s', s.update_track id y = .ok s' ∧ ∀ i, s'.get_track i =
      if i = id then (s.get_track i).map (fun _ => y.stored.project s.version)
      else s.get_track i := by
  have hf : ∀ r, (r "id").sql_eq (.integer id) → ∀ c ∈ ["id"],
      Row.assign (track_columns_at s.version) (y.binds_at s.version) r c = r c :=
    fun r _ => assign_track_key s.version y r
  obtain ⟨t', ht', -, hrows⟩ := update_ok s.db.music.Track hf
  refine ⟨s.with_Track t', by rw [update_track_eq, ht']; rfl, fun i => ?_⟩
  rw [get_track_eq, get_track_eq (s := s)]
  simp only [el_storage.with_Track_Track, el_storage.with_Track_version, hrows,
    find_update _ (key_selector_track_id i) (key_selector_track_id id) hf]
  cases hfind : s.db.music.Track.rows.find? (fun r => (r "id").sql_eq (.integer i)) with
  | none => by_cases h : i = id <;> simp [h]; rfl
  | some r =>
    have hr := List.find?_some hfind
    by_cases h : i = id
    · subst i
      simp only [Option.map_some', hr, if_true]
      rw [map_assign (track_columns_at_nodup _) (length_binds_at _ y).symm, of_columns_at_binds_at]
      rfl
    · have : (r "id").sql_eq (.integer id) = false := by simp [(Value.sql_eq_iff.1 hr).2, h]
      simp only [Option.map_some', this, hfind, h, if_false, Bool.false_eq_true]

/-- `get_track` throws `track_deleted` exactly when no row has the id, and throws nothing
else: the primary key leaves the callback at most one row. -/
theorem get_track_error_iff (s : el_storage) (id : Int) (e : Error) :
    s.get_track id = .error e ↔
      e = .track_deleted id ∧ ∀ r ∈ s.db.music.Track.rows, r "id" ≠ .integer id := by
  rw [get_track_eq]
  have hnone : s.db.music.Track.rows.find? (fun r => (r "id").sql_eq (.integer id)) = none ↔
      ∀ r ∈ s.db.music.Track.rows, r "id" ≠ .integer id := by
    simp only [List.find?_eq_none, Value.sql_eq_iff, not_and]
    exact forall₂_congr fun r _ => ⟨fun h h' => h (by simp [h']) h', fun h _ => h⟩
  cases h : s.db.music.Track.rows.find? (fun r => (r "id").sql_eq (.integer id)) with
  | none =>
    refine ⟨fun he => ⟨(Except.error.inj he).symm, hnone.1 h⟩, ?_⟩
    rintro ⟨rfl, -⟩
    rfl
  | some r =>
    refine ⟨(fun he => nomatch he), fun ⟨_, hall⟩ => ?_⟩
    simp [hnone.2 hall] at h

/-- **`create_track`, `update_track` and `get_track` round-trip**, in every version, for
what the table keeps of a value. `create_track` returns an id no row had, which reads
back `project` of `stored` of the value; `update_track` makes an existing id read back
`project` of `stored` of the new value and leaves a missing one missing; neither changes
what any other id reads; and `get_track` throws `track_deleted` exactly when no row has
the id, and never anything else. -/
theorem track_crud_spec (s : el_storage) (x y : track_row) (id : Int) :
    (∃ n s', s.create_track x = .ok (n, s') ∧ s.get_track n = .error (.track_deleted n) ∧
      s'.get_track n = .ok (x.stored.project s.version) ∧
      ∀ i, i ≠ n → s'.get_track i = s.get_track i) ∧
    (∃ s', s.update_track id y = .ok s' ∧
      s'.get_track id = (s.get_track id).map (fun _ => y.stored.project s.version) ∧
      ∀ i, i ≠ id → s'.get_track i = s.get_track i) ∧
    (s.get_track id = .error (.track_deleted id) ↔
      ∀ r ∈ s.db.music.Track.rows, r "id" ≠ .integer id) ∧
    (∀ e, s.get_track id = .error e → e = .track_deleted id) := by
  refine ⟨⟨_, _, create_track_eq s x, get_track_next_rowid s, ?_, fun i hi => ?_⟩, ?_,
    by simp [get_track_error_iff], fun e he => ((get_track_error_iff s id e).1 he).1⟩
  · simp [get_track_insert]
  · rw [Table.insert_snd] at hi
    simp [get_track_insert, hi]
  · obtain ⟨s', hs', hget⟩ := get_track_update s id y
    exact ⟨s', hs', by simp [hget], fun i hi => by simp [hget, hi]⟩

/-- A track whose only value is an analysed bpm that is a NaN (the quiet NaN
`0x7FF8000000000000`). -/
def nan_bpm_track : track_row := { bpm_analyzed := some ⟨0x7FF8000000000000⟩ }

/-- **A NaN bpm does not read back.** On every storage, the id `create_track` returns for
`nan_bpm_track` reads back a track with no value at all, since `sqlite3_bind_double`
bound NULL; that is not `project` of the track, whose bpm is the NaN. -/
theorem get_track_create_nan_bpm (s : el_storage) :
    ∃ n s', s.create_track nan_bpm_track = .ok (n, s') ∧
      s'.get_track n = .ok {} ∧ s'.get_track n ≠ .ok (nan_bpm_track.project s.version) := by
  have hread : nan_bpm_track.stored.project s.version = {} := by
    unfold track_row.project
    split_ifs <;> decide
  refine ⟨_, _, create_track_eq s _, by simp [get_track_insert, hread], fun h => ?_⟩
  rw [get_track_insert, Table.insert_snd, if_pos rfl, hread] at h
  have := congrArg track_row.bpm_analyzed (Except.ok.inj h)
  simp [track_row.project, nan_bpm_track] at this

end DjInterop
