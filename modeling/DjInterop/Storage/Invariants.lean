/-
**Whole runs of the facade**, on the libraries where SQLite runs its statements as the
model does.

SQLite fails a statement that names a column its table does not declare, a check the
table model leaves out (`Table.declares`). The results over runs are therefore stated
for well-formed libraries (`el_storage.wf`): each table declares the columns the
version's statements name, so that check passes, and the metadata tables' type cells
are integers, as in every table the setters build. Every call keeps both, because no
statement changes a table's declaration or the version (`keeps_schema`), and the
setters write integer types.

## What is proved

`run_view`: the facade refines the abstract storage over whole runs. From a well-formed
library any sequence of calls succeeds, leaves it well formed, and leaves the getters as
the abstract run says, with every id `create_track` hands out one no row had; and
`get_all_meta_data` and its integer twin then list exactly the slots the abstract
storage holds a value for.

`create_track_run`: track ids are handed out one after another. While the largest id
plus the number of tracks created stays below SQLite's limit `2⁶³ - 1`, `create_track`
returns, after any sequence of calls, the id it would have returned at the start plus
the number of tracks created since.
-/
import DjInterop.Storage.Facade

set_option autoImplicit false

namespace DjInterop

open Sqlite

/-! ## Well-formed libraries -/

/-- The library's tables declare every column its version's statements name: `Track` the
version's columns and `id`, each metadata table `id`, `type` and its value column, and
`PerformanceData` the version's columns. -/
def el_storage.declares_columns (s : el_storage) : Bool :=
  s.db.music.Track.declares ("id" :: track_columns_at s.version) &&
    s.db.music.MetaData.declares ["id", "type", "text"] &&
    s.db.music.MetaDataInteger.declares ["id", "type", "value"] &&
    s.db.perfdata.PerformanceData.declares (performance_data_columns_at s.version)

/-- **A well-formed library**: SQLite's column check passes on every statement the storage
runs, and the metadata tables are slot-typed. -/
structure el_storage.wf (s : el_storage) : Prop where
  declares : s.declares_columns = true
  meta_data : slot_typed s.db.music.MetaData
  meta_data_integer : slot_typed s.db.music.MetaDataInteger

theorem wf_empty_storage : empty_storage.wf :=
  ⟨by decide, (fun _ h => nomatch h), fun _ h => nomatch h⟩

/-- What a call leaves as it was: the version and the declared columns of every table. -/
structure keeps_schema (s s' : el_storage) : Prop where
  version : s'.version = s.version
  Track : s'.db.music.Track.columns = s.db.music.Track.columns
  MetaData : s'.db.music.MetaData.columns = s.db.music.MetaData.columns
  MetaDataInteger : s'.db.music.MetaDataInteger.columns = s.db.music.MetaDataInteger.columns
  PerformanceData :
    s'.db.perfdata.PerformanceData.columns = s.db.perfdata.PerformanceData.columns

namespace keeps_schema

variable {s s' : el_storage}

/-- The column check reads only what a call keeps. -/
theorem declares_columns (h : keeps_schema s s') : s'.declares_columns = s.declares_columns := by
  simp only [el_storage.declares_columns, Table.declares, h.version, h.Track, h.MetaData,
    h.MetaDataInteger, h.PerformanceData]

theorem with_Track {t : Table ["id"]} (h : t.columns = s.db.music.Track.columns) :
    keeps_schema s (s.with_Track t) := ⟨rfl, h, rfl, rfl, rfl⟩

theorem with_MetaData {t : Table ["id", "type"]} (h : t.columns = s.db.music.MetaData.columns) :
    keeps_schema s (s.with_MetaData t) := ⟨rfl, rfl, h, rfl, rfl⟩

theorem with_MetaDataInteger {t : Table ["id", "type"]}
    (h : t.columns = s.db.music.MetaDataInteger.columns) :
    keeps_schema s (s.with_MetaDataInteger t) := ⟨rfl, rfl, rfl, h, rfl⟩

theorem with_PerformanceData {t : Table ["id"]}
    (h : t.columns = s.db.perfdata.PerformanceData.columns) :
    keeps_schema s (s.with_PerformanceData t) := ⟨rfl, rfl, rfl, rfl, h⟩

end keeps_schema

/-- `update_track` succeeds, and its `UPDATE` keeps the table's columns and the ids of
its rows. -/
theorem update_track_ok (s : el_storage) (id : Int) (y : track_row) :
    ∃ t, s.update_track id y = .ok (s.with_Track t) ∧
      t.columns = s.db.music.Track.columns ∧ t.rowids = s.db.music.Track.rowids := by
  obtain ⟨t, ht, hc, hrows⟩ := update_ok s.db.music.Track
    (p := fun r => (r "id").sql_eq (.integer id)) fun r _ => assign_track_key s.version y r
  exact ⟨t, by rw [update_track_eq, ht]; rfl, hc,
    rowids_of_map (fun r _ => assign_track_key s.version y r "id" (List.mem_singleton_self _))
      hrows⟩

section Runs

variable {β : BlobKind → Type} (codec : (k : BlobKind) → BlobCodec (β k)) (s : el_storage)

theorem apply_keeps_schema (op : storage_op β) :
    ∃ s', s.apply codec op = .ok s' ∧ keeps_schema s s' := by
  cases op with
  | create_track x =>
    exact ⟨_, by rw [el_storage.apply, create_track_eq]; rfl,
      keeps_schema.with_Track (Table.insert_columns _ _)⟩
  | update_track id y =>
    obtain ⟨t, ht, hc, -⟩ := update_track_ok s id y
    exact ⟨_, ht, keeps_schema.with_Track hc⟩
  | write_meta_data m =>
    cases m with
    | set_meta_data id type c =>
      exact ⟨_, set_meta_data_eq s id type c, keeps_schema.with_MetaData rfl⟩
    | set_meta_data_bulk id a b c d e f g h i j =>
      exact ⟨_, set_meta_data_bulk_eq s id a b c d e f g h i j,
        keeps_schema.with_MetaData (Table.foldl_replace_columns _ _)⟩
    | set_meta_data_integer id type c =>
      exact ⟨_, set_meta_data_integer_eq s id type c, keeps_schema.with_MetaDataInteger rfl⟩
    | set_meta_data_integer_bulk id a b c d e f =>
      exact ⟨_, set_meta_data_integer_bulk_eq s id a b c d e f,
        keeps_schema.with_MetaDataInteger (Table.foldl_replace_columns _ _)⟩
  | write_performance_data m =>
    cases m with
    | set r =>
      exact ⟨_, set_performance_data_row_eq codec s r, keeps_schema.with_PerformanceData rfl⟩
    | clear id => exact ⟨_, rfl, keeps_schema.with_PerformanceData rfl⟩

/-- **One call on a well-formed library**: it succeeds, refines the abstract step with a
fresh id for `create_track`, and leaves the library well formed. -/
theorem apply_step {s : el_storage} (hs : s.wf) (op : storage_op β) :
    ∃ s', s.apply codec op = .ok s' ∧
      s.get_track s.db.music.Track.next_rowid =
        .error (.track_deleted s.db.music.Track.next_rowid) ∧
      s'.view codec = (s.view codec).step codec s.db.music.Track.next_rowid op ∧ s'.wf := by
  obtain ⟨s', hs', hfresh, hv⟩ := apply_view codec s op
  obtain ⟨s₁, hs₁, hk⟩ := apply_keeps_schema codec s op
  obtain ⟨s₂, hs₂, hm, hi⟩ := slot_typed_apply codec s op hs.meta_data hs.meta_data_integer
  obtain rfl : s₁ = s' := Except.ok.inj (hs₁.symm.trans hs')
  obtain rfl : s₂ = s₁ := Except.ok.inj (hs₂.symm.trans hs₁)
  exact ⟨s₂, hs₂, hfresh, hv, ⟨by rw [hk.declares_columns]; exact hs.declares, hm, hi⟩⟩

/-- Whether a call is a `create_track`. -/
def storage_op.creates_track : storage_op β → Bool
  | .create_track _ => true
  | _ => false

/-- Below the limit, only `create_track` moves the largest track id, by one. -/
theorem apply_last_rowid (op : storage_op β) (h : s.db.music.Track.last_rowid < rowid_limit) :
    ∃ s', s.apply codec op = .ok s' ∧ s'.db.music.Track.last_rowid =
      s.db.music.Track.last_rowid + ([op].filter (·.creates_track)).length := by
  cases op with
  | create_track x =>
    exact ⟨_, by rw [el_storage.apply, create_track_eq]; rfl, last_rowid_insert _ _ h⟩
  | update_track id y =>
    obtain ⟨t, ht, -, hn⟩ := update_track_ok s id y
    exact ⟨_, ht, by simp [storage_op.creates_track, Table.last_rowid, hn]⟩
  | write_meta_data m =>
    obtain ⟨s', hs', -, ht, -⟩ := get_write_meta_data s m
    exact ⟨s', hs', by simp [storage_op.creates_track, ht]⟩
  | write_performance_data m =>
    obtain ⟨s', hs', -, hm, -⟩ := get_write_performance_data codec s m
    exact ⟨s', hs', by simp [storage_op.creates_track, hm]⟩

/-- Over a run that stays below the limit, the largest track id grows by the number of
tracks created, and the library stays well formed. -/
theorem last_rowid_run (ops : List (storage_op β)) (hs : s.wf)
    (h : s.db.music.Track.last_rowid + (ops.filter (·.creates_track)).length < rowid_limit) :
    ∃ s', ops.foldlM (el_storage.apply codec) s = .ok s' ∧ s'.wf ∧
      s'.db.music.Track.last_rowid =
        s.db.music.Track.last_rowid + (ops.filter (·.creates_track)).length := by
  induction ops generalizing s with
  | nil => exact ⟨s, rfl, hs, by simp⟩
  | cons op ops ih =>
    have hlen : ((op :: ops).filter (·.creates_track)).length =
        ([op].filter (·.creates_track)).length + (ops.filter (·.creates_track)).length := by
      rw [← List.length_append, ← List.filter_append]
      rfl
    obtain ⟨s₁, hs₁, hn₁⟩ := apply_last_rowid codec s op (by omega)
    obtain ⟨s₁', hs₁', -, -, hw₁⟩ := apply_step codec hs op
    obtain rfl : s₁' = s₁ := Except.ok.inj (hs₁'.symm.trans hs₁)
    obtain ⟨s', hs', hw', hn'⟩ := ih s₁' hw₁ (by omega)
    exact ⟨s', by rw [List.foldlM_cons, hs₁']; exact hs', hw', by omega⟩

/-- **Track ids are handed out one after another.** From a well-formed library whose
largest track id plus the number of tracks created stays below `2⁶³ - 1`, after any
sequence of calls, `create_track` returns the id it would have returned at the start
plus the number of tracks created since. -/
theorem create_track_run (ops : List (storage_op β)) (x : track_row) (hs : s.wf)
    (h : s.db.music.Track.last_rowid + (ops.filter (·.creates_track)).length < rowid_limit) :
    ∃ n s₀ s' s'', s.create_track x = .ok (n, s₀) ∧
      ops.foldlM (el_storage.apply codec) s = .ok s' ∧
      s'.create_track x = .ok (n + (ops.filter (·.creates_track)).length, s'') := by
  obtain ⟨s', hs', -, hn⟩ := last_rowid_run codec s ops hs h
  have hnext : s'.db.music.Track.next_rowid =
      s.db.music.Track.next_rowid + (ops.filter (·.creates_track)).length := by
    rw [Table.next_rowid, Table.next_rowid, if_pos (by omega), if_pos (by omega), hn]
    omega
  exact ⟨_, _, s', _, create_track_eq s x, hs', by
    simp only [create_track_eq, Table.insert_snd, hnext]; rfl⟩

/-- Two tracks created around an `update_track`, from the empty 1.18.0 storage. -/
theorem create_track_run_empty_storage :
    empty_storage.wf ∧ empty_storage.db.music.Track.last_rowid +
        ([(storage_op.create_track {} : storage_op fun _ => Blob), .update_track 1 {}].filter
          (·.creates_track)).length < rowid_limit ∧
      ∃ n s₀ s' s'', empty_storage.create_track {} = .ok (n, s₀) ∧
        [(storage_op.create_track {} : storage_op fun _ => Blob), .update_track 1 {}].foldlM
          (el_storage.apply identity_codec) empty_storage = .ok s' ∧
        s'.create_track {} = .ok (n + ([(storage_op.create_track {} : storage_op fun _ => Blob),
          .update_track 1 {}].filter (·.creates_track)).length, s'') :=
  ⟨wf_empty_storage, by decide,
    create_track_run identity_codec empty_storage _ {} wf_empty_storage (by decide)⟩

end Runs

end DjInterop
