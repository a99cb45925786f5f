/-
`el_storage::clear_performance_data`, `get_performance_data` and `set_performance_data`
(`el_storage.cpp:746–936`): the `PerformanceData` table, in three versions.

A row is written whole with `INSERT OR REPLACE`, its six blob columns encoded by the
codecs of `performance_data_format.cpp`, and read back with the blobs decoded; a track
with no row reads as the default row `performance_data_row{id}`. The codecs are not in
the repository's sources, and nothing here depends on what they compute: each is a
`BlobCodec`, an encode/decode pair with the value a default-constructed object holds,
passed in as a parameter.

The version decides how many columns the statements name: twelve from 1.11.1, eleven
(no `hasTraktorValues`) from 1.7.1, ten (no `hasRekordboxValues` either) before. Since
`get` and `set` drop the same tail, a flag a version lacks is written nowhere and read
back as its default.

## What is proved

`performance_data_spec`: from an empty table, after any sequence of `set` and `clear` on
any ids, `get_performance_data` of an id returns the row of the last `set` on it, with
each blob `decode (encode b)` and the flags the version lacks reset, or the default row
if the last write on it was a `clear` or there was none; it never throws. The run is an
induction over the sequence (`get_run_performance_data`) whose step is
`get_set_performance_data` and `get_clear_performance_data`, which in turn rest on
`find_replace` and the `delete` lemmas of the table layer.
-/
import DjInterop.Storage.Basic

set_option autoImplicit false

namespace DjInterop

open Sqlite Column

/-- The six blob columns of `PerformanceData`. -/
inductive BlobKind
  | track_data
  | high_res_waveform_data
  | overview_waveform_data
  | beat_data
  | quick_cues_data
  | loops_data

/-- One blob shape of `performance_data_format.cpp`, which is not present: the value a
default-constructed object holds, and the shape's `encode` and `decode`. -/
structure BlobCodec (α : Type) where
  default : α
  encode : α → Blob
  decode : Blob → α

/-- `performance_data_row`, over the decoded type `β k` of each blob column `k`. -/
structure performance_data_row (β : BlobKind → Type) where
  id : Int
  is_analyzed : Int
  is_rendered : Int
  track_data : β .track_data
  high_res_waveform_data : β .high_res_waveform_data
  overview_waveform_data : β .overview_waveform_data
  beat_data : β .beat_data
  quick_cues_data : β .quick_cues_data
  loops_data : β .loops_data
  has_serato_values : Int
  has_rekordbox_values : Int := 0
  has_traktor_values : Int := 0

section Codecs

variable {β : BlobKind → Type} (codec : (k : BlobKind) → BlobCodec (β k))

/-- Modelled from the spec: `performance_data_row{id}`, whose member defaults are not
present; § 4.E gives "all blobs default, has-flags zero". -/
def performance_data_row.of_id (id : Int) : performance_data_row β where
  id := id
  is_analyzed := 0
  is_rendered := 0
  track_data := (codec .track_data).default
  high_res_waveform_data := (codec .high_res_waveform_data).default
  overview_waveform_data := (codec .overview_waveform_data).default
  beat_data := (codec .beat_data).default
  quick_cues_data := (codec .quick_cues_data).default
  loops_data := (codec .loops_data).default
  has_serato_values := 0

/-- The columns every version's statements name, in their order. -/
def performance_data_columns : List String :=
  ["id", "isAnalyzed", "isRendered", "trackData", "highResolutionWaveFormData",
    "overviewWaveFormData", "beatData", "quickCues", "loops", "hasSeratoValues"]

/-- The first ten parameters of `get_performance_data`'s callbacks, passed to the row
they build, with each blob decoded. -/
def performance_data_row.of_columns (v : List Value) : performance_data_row β where
  id := column v 0
  is_analyzed := column v 1
  is_rendered := column v 2
  track_data := (codec .track_data).decode (column v 3)
  high_res_waveform_data := (codec .high_res_waveform_data).decode (column v 4)
  overview_waveform_data := (codec .overview_waveform_data).decode (column v 5)
  beat_data := (codec .beat_data).decode (column v 6)
  quick_cues_data := (codec .quick_cues_data).decode (column v 7)
  loops_data := (codec .loops_data).decode (column v 8)
  has_serato_values := column v 9

/-- `el_storage::clear_performance_data`: delete the row, if any. -/
def el_storage.clear_performance_data (s : el_storage) (id : Int) : el_storage :=
  s.with_PerformanceData (s.db.perfdata.PerformanceData.delete fun r => (r "id").sql_eq (bind_col id))

/-- `el_storage::get_performance_data`: the decoded row, or the default one. -/
def el_storage.get_performance_data (s : el_storage) (id : Int) :
    Except Error (performance_data_row β) := do
  let select := fun cols =>
    s.db.perfdata.PerformanceData.select cols fun r => (r "id").sql_eq (bind_col id)
  let more := fun (r : performance_data_row β) =>
    Error.track_database_inconsistency "More than one track with the same id" r.id
  let result ←
    if s.version ≥ version_1_11_1 then
      at_most_one more <|
        (select (performance_data_columns ++ ["hasRekordboxValues", "hasTraktorValues"])).map
          fun v => { performance_data_row.of_columns codec v with
            has_rekordbox_values := column v 10, has_traktor_values := column v 11 }
    else if s.version ≥ version_1_7_1 then
      at_most_one more <| (select (performance_data_columns ++ ["hasRekordboxValues"])).map
        fun v => { performance_data_row.of_columns codec v with has_rekordbox_values := column v 10 }
    else
      at_most_one more <| (select performance_data_columns).map (performance_data_row.of_columns codec)
  match result with
  | none => pure (performance_data_row.of_id codec id)
  | some r => pure r

/-- `el_storage::set_performance_data`: write the whole row, blobs encoded. -/
def el_storage.set_performance_data (s : el_storage) (id is_analyzed is_rendered : Int)
    (track_data : β .track_data) (high_res_waveform_data : β .high_res_waveform_data)
    (overview_waveform_data : β .overview_waveform_data) (beat_data : β .beat_data)
    (quick_cues_data : β .quick_cues_data) (loops_data : β .loops_data)
    (has_serato_values has_rekordbox_values has_traktor_values : Int) :
    Except Error el_storage := do
  let binds := [bind_col id, bind_col is_analyzed, bind_col is_rendered,
    bind_col ((codec .track_data).encode track_data),
    bind_col ((codec .high_res_waveform_data).encode high_res_waveform_data),
    bind_col ((codec .overview_waveform_data).encode overview_waveform_data),
    bind_col ((codec .beat_data).encode beat_data),
    bind_col ((codec .quick_cues_data).encode quick_cues_data),
    bind_col ((codec .loops_data).encode loops_data), bind_col has_serato_values]
  let t ←
    if s.version ≥ version_1_11_1 then
      s.db.perfdata.PerformanceData.insert_or_replace
        (performance_data_columns ++ ["hasRekordboxValues", "hasTraktorValues"]) 12 1
        (binds ++ [bind_col has_rekordbox_values, bind_col has_traktor_values])
    else if s.version ≥ version_1_7_1 then
      s.db.perfdata.PerformanceData.insert_or_replace
        (performance_data_columns ++ ["hasRekordboxValues"]) 11 1
        (binds ++ [bind_col has_rekordbox_values])
    else
      s.db.perfdata.PerformanceData.insert_or_replace performance_data_columns 10 1 binds
  pure (s.with_PerformanceData t)

/-- `set_performance_data` with the fields of a row: what the facade's callers pass. -/
def el_storage.set_performance_data_row (s : el_storage) (r : performance_data_row β) :
    Except Error el_storage :=
  s.set_performance_data codec r.id r.is_analyzed r.is_rendered r.track_data
    r.high_res_waveform_data r.overview_waveform_data r.beat_data r.quick_cues_data r.loops_data
    r.has_serato_values r.has_rekordbox_values r.has_traktor_values

/-- **Specification.** What `get_performance_data` should read back in version `v` after
`r` was set: `r` with each blob `decode (encode b)`, and the flags the version's table
lacks (`hasRekordboxValues` before 1.7.1, `hasTraktorValues` before 1.11.1) at their
default. -/
def performance_data_row.reread (v : semantic_version) (r : performance_data_row β) :
    performance_data_row β :=
  { r with
    track_data := (codec .track_data).decode ((codec .track_data).encode r.track_data)
    high_res_waveform_data := (codec .high_res_waveform_data).decode
      ((codec .high_res_waveform_data).encode r.high_res_waveform_data)
    overview_waveform_data := (codec .overview_waveform_data).decode
      ((codec .overview_waveform_data).encode r.overview_waveform_data)
    beat_data := (codec .beat_data).decode ((codec .beat_data).encode r.beat_data)
    quick_cues_data := (codec .quick_cues_data).decode
      ((codec .quick_cues_data).encode r.quick_cues_data)
    loops_data := (codec .loops_data).decode ((codec .loops_data).encode r.loops_data)
    has_rekordbox_values := if v ≥ version_1_7_1 then r.has_rekordbox_values else 0
    has_traktor_values := if v ≥ version_1_11_1 then r.has_traktor_values else 0 }

/-! ## Each method as one statement -/

/-- The column list the statements of version `v` name. -/
def performance_data_columns_at (v : semantic_version) : List String :=
  if v ≥ version_1_11_1 then performance_data_columns ++ ["hasRekordboxValues", "hasTraktorValues"]
  else if v ≥ version_1_7_1 then performance_data_columns ++ ["hasRekordboxValues"]
  else performance_data_columns

/-- The values `set_performance_data` binds to them for the row `r`. -/
def performance_data_row.binds_at (v : semantic_version) (r : performance_data_row β) :
    List Value :=
  let binds := [bind_col r.id, bind_col r.is_analyzed, bind_col r.is_rendered,
    bind_col ((codec .track_data).encode r.track_data),
    bind_col ((codec .high_res_waveform_data).encode r.high_res_waveform_data),
    bind_col ((codec .overview_waveform_data).encode r.overview_waveform_data),
    bind_col ((codec .beat_data).encode r.beat_data),
    bind_col ((codec .quick_cues_data).encode r.quick_cues_data),
    bind_col ((codec .loops_data).encode r.loops_data), bind_col r.has_serato_values]
  if v ≥ version_1_11_1 then
    binds ++ [bind_col r.has_rekordbox_values, bind_col r.has_traktor_values]
  else if v ≥ version_1_7_1 then binds ++ [bind_col r.has_rekordbox_values]
  else binds

/-- The callback `get_performance_data` passes in version `v`. -/
def performance_data_row.of_columns_at (v : semantic_version) (vals : List Value) :
    performance_data_row β :=
  if v ≥ version_1_11_1 then
    { performance_data_row.of_columns codec vals with
      has_rekordbox_values := column vals 10, has_traktor_values := column vals 11 }
  else if v ≥ version_1_7_1 then
    { performance_data_row.of_columns codec vals with has_rekordbox_values := column vals 10 }
  else performance_data_row.of_columns codec vals

theorem performance_data_columns_at_nodup (v : semantic_version) :
    (performance_data_columns_at v).Nodup := by
  unfold performance_data_columns_at; split_ifs <;> decide

theorem length_performance_data_binds_at (v : semantic_version) (r : performance_data_row β) :
    (r.binds_at codec v).length = (performance_data_columns_at v).length := by
  unfold performance_data_row.binds_at performance_data_columns_at; split_ifs <;> rfl

/-- **The callback reads back what `set` bound**, in every version: blob by blob through
the codec, and the flags the version lacks at their default. -/
theorem of_columns_at_performance_data_binds_at (v : semantic_version)
    (r : performance_data_row β) :
    performance_data_row.of_columns_at codec v (r.binds_at codec v) = r.reread codec v := by
  obtain ⟨-, -, h11⟩ := version_ge_chain v
  unfold performance_data_row.of_columns_at performance_data_row.binds_at
    performance_data_row.reread
  split_ifs <;> simp_all [performance_data_row.of_columns, column]

/-- The row `set` writes has the row's id in its key column. -/
theorem of_bindings_performance_data_id (v : semantic_version) (r : performance_data_row β) :
    Row.of_bindings (performance_data_columns_at v) (r.binds_at codec v) "id" = .integer r.id := by
  unfold performance_data_columns_at performance_data_row.binds_at
  split_ifs <;> rfl

theorem key_selector_performance_data_id (i : Int) :
    KeySelector ["id"] fun r => (r "id").sql_eq (.integer i) :=
  key_selector_id Value.noConfusion

theorem set_performance_data_row_eq (s : el_storage) (r : performance_data_row β) :
    s.set_performance_data_row codec r =
      .ok (s.with_PerformanceData (s.db.perfdata.PerformanceData.replace
        (Row.of_bindings (performance_data_columns_at s.version)
          (r.binds_at codec s.version)))) := by
  unfold el_storage.set_performance_data_row el_storage.set_performance_data
    performance_data_columns_at performance_data_row.binds_at
  split_ifs <;> simp (disch := rfl) only [insert_or_replace_one] <;> rfl

/-- `get_performance_data` reads, through the version's callback, the row `WHERE id = ?`
finds, and the default row when there is none. -/
theorem get_performance_data_eq (s : el_storage) (i : Int) :
    s.get_performance_data codec i =
      match s.db.perfdata.PerformanceData.rows.find? (fun r => (r "id").sql_eq (.integer i)) with
      | none => .ok (performance_data_row.of_id codec i)
      | some r => .ok (performance_data_row.of_columns_at codec s.version
          ((performance_data_columns_at s.version).map r)) := by
  have hp := key_selector_performance_data_id i
  simp only [el_storage.get_performance_data, Column.bind_col_int]
  unfold performance_data_columns_at performance_data_row.of_columns_at
  split_ifs <;> erw [at_most_one_find _ hp] <;>
    cases s.db.perfdata.PerformanceData.rows.find? _ <;> rfl

/-! ## One write -/

/-- `get_performance_data` after `set`: the row's id reads back `reread` of it, and every
other id what it read before. -/
theorem get_set_performance_data (s : el_storage) (r : performance_data_row β) (i : Int) :
    ∃ s', s.set_performance_data_row codec r = .ok s' ∧
      s'.get_performance_data codec i =
        if i = r.id then .ok (r.reread codec s.version) else s.get_performance_data codec i := by
  refine ⟨_, set_performance_data_row_eq codec s r, ?_⟩
  rw [get_performance_data_eq, get_performance_data_eq (s := s)]
  simp only [el_storage.with_PerformanceData_PerformanceData,
    el_storage.with_PerformanceData_version,
    find_replace _ (key_selector_performance_data_id i), of_bindings_performance_data_id]
  by_cases h : i = r.id
  · subst h
    simp [map_of_bindings (performance_data_columns_at_nodup _)
      (length_performance_data_binds_at codec _ r).symm, of_columns_at_performance_data_binds_at]
  · simp [h, Ne.symm h]

/-- `get_performance_data` after `clear`: the id reads the default row, and every other id
what it read before. -/
theorem get_clear_performance_data (s : el_storage) (id i : Int) :
    (s.clear_performance_data id).get_performance_data codec i =
      if i = id then .ok (performance_data_row.of_id codec i)
      else s.get_performance_data codec i := by
  rw [get_performance_data_eq, get_performance_data_eq (s := s)]
  simp only [el_storage.clear_performance_data, el_storage.with_PerformanceData_PerformanceData,
    el_storage.with_PerformanceData_version, Column.bind_col_int]
  by_cases h : i = id
  · subst h
    rw [find_delete_self _ fun _ h => h, if_pos rfl]
  · rw [find_delete_of_disjoint _ fun a ha => ?_, if_neg h]
    simp only [Value.sql_eq_iff] at ha
    simp [ha.2, h]

/-! ## Any sequence of writes -/

/-- A write to `PerformanceData`: a `set` of a whole row, or a `clear` of an id. -/
inductive performance_data_write (β : BlobKind → Type)
  | set (r : performance_data_row β)
  | clear (id : Int)

/-- The id a write touches. -/
def performance_data_write.id : performance_data_write β → Int
  | .set r => r.id
  | .clear id => id

/-- The row a write leaves for its id: the row of a `set`, none after a `clear`. -/
def performance_data_write.row : performance_data_write β → Option (performance_data_row β)
  | .set r => some r
  | .clear _ => none

/-- Performing one write on the storage. -/
def el_storage.write_performance_data (s : el_storage) :
    performance_data_write β → Except Error el_storage
  | .set r => s.set_performance_data_row codec r
  | .clear id => .ok (s.clear_performance_data id)

/-- **Specification.** What the last write on `id` in `ws` left for it (`none` when no
write touched it). -/
def last_write_on (ws : List (performance_data_write β)) (id : Int) :
    Option (Option (performance_data_row β)) :=
  ((ws.filter (·.id = id)).getLast?).map (·.row)

/-- **Specification.** What `get_performance_data` should read for `id` when the row `o`
is what the last write left: `reread` of a set row, the default row otherwise. -/
def read_back (v : semantic_version) (id : Int) : Option (performance_data_row β) →
    performance_data_row β
  | some r => r.reread codec v
  | none => performance_data_row.of_id codec id

/-- One write, as a step: its id reads back what it left, every other id is unchanged. -/
theorem get_write_performance_data (s : el_storage) (w : performance_data_write β) :
    ∃ s', s.write_performance_data codec w = .ok s' ∧ s'.version = s.version ∧
      s'.db.music = s.db.music ∧ ∀ i, s'.get_performance_data codec i =
        if w.id = i then .ok (read_back codec s.version i w.row)
        else s.get_performance_data codec i := by
  cases w with
  | set r =>
    refine ⟨_, set_performance_data_row_eq codec s r, rfl, rfl, fun i => ?_⟩
    obtain ⟨s', hs', hget⟩ := get_set_performance_data codec s r i
    rw [set_performance_data_row_eq] at hs'
    cases hs'
    rw [hget]
    by_cases h : i = r.id
    · simp [h, performance_data_write.id, performance_data_write.row, read_back]
    · simp [h, Ne.symm h, performance_data_write.id]
  | clear id =>
    refine ⟨_, rfl, rfl, rfl, fun i => ?_⟩
    rw [get_clear_performance_data]
    by_cases h : i = id
    · simp [h, performance_data_write.id, performance_data_write.row, read_back]
    · simp [h, Ne.symm h, performance_data_write.id]

/-- **The run.** After any sequence of writes, an id reads back what the last write on it
left, and what it read before when none touched it. -/
theorem get_run_performance_data (s : el_storage) (ws : List (performance_data_write β)) :
    ∃ s', ws.foldlM (el_storage.write_performance_data codec) s = .ok s' ∧
      s'.version = s.version ∧ ∀ i, s'.get_performance_data codec i =
        match last_write_on ws i with
        | some o => .ok (read_back codec s.version i o)
        | none => s.get_performance_data codec i := by
  induction ws generalizing s with
  | nil => exact ⟨s, rfl, rfl, fun i => rfl⟩
  | cons w ws ih =>
    obtain ⟨s₁, hs₁, hv₁, -, hget₁⟩ := get_write_performance_data codec s w
    obtain ⟨s', hs', hv', hget'⟩ := ih s₁
    refine ⟨s', by rw [List.foldlM_cons, hs₁]; exact hs', hv'.trans hv₁, fun i => ?_⟩
    rw [hget', hv₁, hget₁]
    simp only [last_write_on, List.filter_cons]
    by_cases hw : w.id = i
    · simp only [hw, decide_True, if_true, List.getLast?_cons]
      cases (ws.filter (·.id = i)).getLast? <;> rfl
    · simp [hw]

/-- **`set_performance_data`, `clear_performance_data` and `get_performance_data`**, in
every version. From an empty table, after any sequence of `set`s and `clear`s on any ids,
an id reads back the row of the last `set` on it, each blob `decode (encode b)` and the
flags the version lacks at their default, or the default row when the last write on it
was a `clear` or there was none. And `get_performance_data` never throws, on any
table. -/
theorem performance_data_spec (s : el_storage) (ws : List (performance_data_write β)) :
    (∃ s', ws.foldlM (el_storage.write_performance_data codec)
        (s.with_PerformanceData (Table.empty s.db.perfdata.PerformanceData.columns)) = .ok s' ∧
      ∀ i, s'.get_performance_data codec i =
        .ok (read_back codec s.version i (last_write_on ws i).join)) ∧
    ∀ i, ∃ r, s.get_performance_data codec i = .ok r := by
  refine ⟨?_, fun i => ?_⟩
  · obtain ⟨s', hs', -, hget⟩ := get_run_performance_data codec
      (s.with_PerformanceData (Table.empty s.db.perfdata.PerformanceData.columns)) ws
    refine ⟨s', hs', fun i => ?_⟩
    rw [hget]
    cases last_write_on ws i with
    | some o => rfl
    | none => rw [get_performance_data_eq]; rfl
  · rw [get_performance_data_eq]
    split <;> exact ⟨_, rfl⟩

end Codecs

end DjInterop
