/-
The **storage facade as a whole**: every mutating call of `el_storage`, and what a caller
observes of the storage through its getters.

`el_storage` keeps its tables behind one connection, and each call writes one of them
(a metadata write, `MetaData` or `MetaDataInteger`). `storage_op` lists the calls,
`el_storage.apply` performs one, and `view` is the abstract storage: the version and,
for every id and slot, what each getter returns. `view.step` says what a call does to
it: it rewrites the part of one getter that the call's table holds, and nothing else.

## What is proved

`apply_view`: the facade refines the abstract storage, one call at a time. Every call
succeeds and leaves the getters as `view.step` says: a call on one table changes no
getter of another, the version never changes, and `create_track` hands out an id no row
had. (SQLite would also fail a statement naming a column its table does not declare;
`Storage.Invariants` carries the results over whole runs, on libraries where it
cannot.) `get_all_meta_data_run`: from metadata tables the setters could have built,
after any sequence of calls, `get_all_meta_data` and its integer twin list exactly a
track's non-null slots, each once. `create_track_nan_bpm`: on the empty 1.18.0 storage,
a track whose analysed bpm is a NaN does not read back as `project` of itself.
-/
import DjInterop.Storage.Track
import DjInterop.Storage.PerformanceData
import DjInterop.Storage.MetaData
import DjInterop.Storage.Version

set_option autoImplicit false

namespace DjInterop

open Sqlite

/-- A mutating call on the facade. -/
inductive storage_op (β : BlobKind → Type)
  | create_track (x : track_row)
  | update_track (id : Int) (x : track_row)
  | write_meta_data (w : meta_data_write)
  | write_performance_data (w : performance_data_write β)

/-- **Specification.** What a caller observes of a storage: its version and what each
getter of one track or slot returns, for every id and slot. The listings
`get_all_meta_data` and its integer twin are not a field: they list the slots
`meta_data` holds a value for (`el_storage.lists_meta_data_slots`). -/
structure view (β : BlobKind → Type) where
  version : semantic_version
  track : Int → Except Error track_row
  meta_data : Int → metadata_str_type → Except Error (Option String)
  meta_data_integer : Int → metadata_int_type → Except Error (Option Int)
  performance_data : Int → Except Error (performance_data_row β)

section Facade

variable {β : BlobKind → Type} (codec : (k : BlobKind) → BlobCodec (β k))

/-- Performing one call; the id `create_track` returns is dropped. -/
def el_storage.apply (s : el_storage) : storage_op β → Except Error el_storage
  | .create_track x => (s.create_track x).map (·.2)
  | .update_track id x => s.update_track id x
  | .write_meta_data w => s.write_meta_data w
  | .write_performance_data w => s.write_performance_data codec w

/-- The view of a storage. -/
def el_storage.view (s : el_storage) : view β where
  version := s.version
  track := s.get_track
  meta_data := s.get_meta_data
  meta_data_integer := s.get_meta_data_integer
  performance_data := s.get_performance_data codec

/-- **Specification.** What one call does to the view, `n` being the id a `create_track`
receives. -/
def view.step (V : view β) (n : Int) : storage_op β → view β
  | .create_track x =>
    { V with track := fun i => if i = n then .ok (x.stored.project V.version) else V.track i }
  | .update_track id y =>
    { V with track := fun i =>
        if i = id then (V.track i).map (fun _ => y.stored.project V.version) else V.track i }
  | .write_meta_data w =>
    { V with
      meta_data := fun id type =>
        match last_write_to w.str_slots (id, type) with
        | some o => .ok o
        | none => V.meta_data id type
      meta_data_integer := fun id type =>
        match last_write_to w.int_slots (id, type) with
        | some o => .ok o
        | none => V.meta_data_integer id type }
  | .write_performance_data w =>
    { V with performance_data := fun i =>
        if w.id = i then .ok (read_back codec V.version i w.row) else V.performance_data i }

/-- **Specification.** A sequence of calls on the view, each with the id a
`create_track` receives. -/
def view.run (V : view β) : List (storage_op β × Int) → view β
  | [] => V
  | (op, n) :: rest => (V.step codec n op).run rest

/-- The ids handed out along a run are fresh: each reads `track_deleted` just before its
call. -/
def view.fresh (V : view β) : List (storage_op β × Int) → Prop
  | [] => True
  | (op, n) :: rest => V.track n = .error (.track_deleted n) ∧ (V.step codec n op).fresh rest

/-! ## Each getter reads its own table -/

variable {s s' : el_storage}

theorem get_track_frame (hv : s'.version = s.version) (ht : s'.db.music.Track = s.db.music.Track) :
    s'.get_track = s.get_track := by
  funext i
  rw [get_track_eq, get_track_eq s, hv, ht]

theorem get_meta_data_frame (h : s'.db.music.MetaData = s.db.music.MetaData) :
    s'.get_meta_data = s.get_meta_data := by
  funext id type
  rw [get_meta_data_eq, get_meta_data_eq s, h]

theorem get_meta_data_integer_frame (h : s'.db.music.MetaDataInteger = s.db.music.MetaDataInteger) :
    s'.get_meta_data_integer = s.get_meta_data_integer := by
  funext id type
  rw [get_meta_data_integer_eq, get_meta_data_integer_eq s, h]

theorem get_performance_data_frame (hv : s'.version = s.version)
    (h : s'.db.perfdata.PerformanceData = s.db.perfdata.PerformanceData) :
    s'.get_performance_data codec = s.get_performance_data codec := by
  funext i
  rw [get_performance_data_eq, get_performance_data_eq codec s, hv, h]

theorem update_track_with_Track {id : Int} {y : track_row} (h : s.update_track id y = .ok s') :
    ∃ t, s' = s.with_Track t := by
  rw [update_track_eq] at h
  cases hu : Table.update _ _ _ with
  | error e => rw [hu] at h; cases h
  | ok t => rw [hu] at h; cases h; exact ⟨t, rfl⟩

variable (s)

/-! ## One call -/

/-- **The facade refines the abstract storage.** Every call succeeds in the model (on a
library whose tables lack a column a statement names, SQLite would fail it; see
`el_storage.wf`) and leaves the getters as `view.step` says, with `create_track` handing
out an id no row had. -/
theorem apply_view (op : storage_op β) :
    ∃ s', s.apply codec op = .ok s' ∧
      s.get_track s.db.music.Track.next_rowid =
        .error (.track_deleted s.db.music.Track.next_rowid) ∧
      s'.view codec = (s.view codec).step codec s.db.music.Track.next_rowid op := by
  suffices ∃ s', s.apply codec op = .ok s' ∧
      s'.view codec = (s.view codec).step codec s.db.music.Track.next_rowid op by
    obtain ⟨s', h₁, h₂⟩ := this
    exact ⟨s', h₁, get_track_next_rowid s, h₂⟩
  cases op with
  | create_track x =>
    refine ⟨_, by rw [el_storage.apply, create_track_eq]; rfl, ?_⟩
    simp only [el_storage.view, view.step, view.mk.injEq]
    exact ⟨rfl, funext (get_track_insert s x), get_meta_data_frame (by simp),
      get_meta_data_integer_frame (by simp), get_performance_data_frame codec (by simp) (by simp)⟩
  | update_track id y =>
    obtain ⟨s', hs', hget⟩ := get_track_update s id y
    obtain ⟨t, rfl⟩ := update_track_with_Track hs'
    refine ⟨_, hs', ?_⟩
    simp only [el_storage.view, view.step, view.mk.injEq]
    exact ⟨rfl, funext hget, get_meta_data_frame (by simp), get_meta_data_integer_frame (by simp),
      get_performance_data_frame codec (by simp) (by simp)⟩
  | write_meta_data w =>
    obtain ⟨s', hs', hv, ht, hp, hm, hi, -⟩ := get_write_meta_data s w
    refine ⟨s', hs', ?_⟩
    simp only [el_storage.view, view.step, view.mk.injEq]
    exact ⟨hv, get_track_frame hv ht, funext fun id => funext (hm id),
      funext fun id => funext (hi id), get_performance_data_frame codec hv hp⟩
  | write_performance_data w =>
    obtain ⟨s', hs', hv, hmusic, hget⟩ := get_write_performance_data codec s w
    refine ⟨s', hs', ?_⟩
    simp only [el_storage.view, view.step, view.mk.injEq]
    exact ⟨hv, get_track_frame hv (by rw [hmusic]), get_meta_data_frame (by rw [hmusic]),
      get_meta_data_integer_frame (by rw [hmusic]), funext hget⟩

/-- Every call keeps the metadata tables slot-typed. -/
theorem slot_typed_apply (op : storage_op β) (hm : slot_typed s.db.music.MetaData)
    (hi : slot_typed s.db.music.MetaDataInteger) :
    ∃ s', s.apply codec op = .ok s' ∧ slot_typed s'.db.music.MetaData ∧
      slot_typed s'.db.music.MetaDataInteger := by
  cases op with
  | create_track x =>
    exact ⟨_, by rw [el_storage.apply, create_track_eq]; rfl, by simpa, by simpa⟩
  | update_track id y =>
    obtain ⟨s', hs', -⟩ := get_track_update s id y
    obtain ⟨t, rfl⟩ := update_track_with_Track hs'
    exact ⟨_, hs', by simpa, by simpa⟩
  | write_meta_data w =>
    obtain ⟨s', hs', -, -, -, -, -, hm', hi'⟩ := get_write_meta_data s w
    exact ⟨s', hs', hm' hm, hi' hi⟩
  | write_performance_data w =>
    obtain ⟨s', hs', -, hmusic, -⟩ := get_write_performance_data codec s w
    exact ⟨s', hs', by rw [hmusic]; exact hm, by rw [hmusic]; exact hi⟩

/-- What `get_all_meta_data` and its integer twin should list: exactly a track's
non-null slots, each once, with the value `get_meta_data` reads there. -/
def el_storage.lists_meta_data_slots (s : el_storage) : Prop :=
  (∀ id r, r ∈ s.get_all_meta_data id ↔ r.id = id ∧ s.get_meta_data id r.type = .ok (some r.text)) ∧
  (∀ id r, r ∈ s.get_all_meta_data_integer id ↔
    r.id = id ∧ s.get_meta_data_integer id r.type = .ok (some r.value)) ∧
  ∀ id, (s.get_all_meta_data id).Nodup ∧ (s.get_all_meta_data_integer id).Nodup

theorem lists_meta_data_slots_of_typed (hm : slot_typed s.db.music.MetaData)
    (hi : slot_typed s.db.music.MetaDataInteger) : s.lists_meta_data_slots :=
  ⟨fun id r => by rw [mem_get_all_meta_data _ _ hm, get_meta_data_eq]; simp,
    fun id r => by rw [mem_get_all_meta_data_integer _ _ hi, get_meta_data_integer_eq]; simp,
    fun id => ⟨get_all_meta_data_nodup _ _ hm, get_all_meta_data_integer_nodup _ _ hi⟩⟩

/-- **`get_all_meta_data` over any run.** From metadata tables whose rows are
slot-typed (empty tables, or any the setters built), after any sequence of calls,
`get_all_meta_data` and `get_all_meta_data_integer` list exactly a track's non-null
slots, each once. -/
theorem get_all_meta_data_run (ops : List (storage_op β))
    (hm : slot_typed s.db.music.MetaData) (hi : slot_typed s.db.music.MetaDataInteger) :
    ∃ s', ops.foldlM (el_storage.apply codec) s = .ok s' ∧ s'.lists_meta_data_slots := by
  induction ops generalizing s with
  | nil => exact ⟨s, rfl, lists_meta_data_slots_of_typed s hm hi⟩
  | cons op ops ih =>
    obtain ⟨s₁, hs₁, hm₁, hi₁⟩ := slot_typed_apply codec s op hm hi
    obtain ⟨s', hs', hl⟩ := ih s₁ hm₁ hi₁
    exact ⟨s', by rw [List.foldlM_cons, hs₁]; exact hs', hl⟩

end Facade

/-- A storage at 1.18.0, firmware variant, on a library of that version with no tracks. -/
def empty_storage : el_storage := ⟨library_at version_1_18_0_fw "NUMERIC", version_1_18_0_fw⟩

/-- **A NaN bpm does not read back**, on the empty 1.18.0 storage: the id `create_track`
returns for `nan_bpm_track` reads back a track with no value at all, not `project` of
the track, whose bpm is the NaN. -/
theorem create_track_nan_bpm :
    ∃ n s', empty_storage.create_track nan_bpm_track = .ok (n, s') ∧
      s'.get_track n = .ok {} ∧ s'.get_track n ≠ .ok (nan_bpm_track.project version_1_18_0_fw) :=
  get_track_create_nan_bpm empty_storage

/-- Codecs that keep every blob as it is written. -/
def identity_codec : (k : BlobKind) → BlobCodec Blob := fun _ => ⟨[], id, id⟩

theorem get_all_meta_data_run_empty :
    slot_typed empty_storage.db.music.MetaData ∧
      slot_typed empty_storage.db.music.MetaDataInteger ∧
      ∃ s', [storage_op.write_meta_data (.set_meta_data 1 metadata_str_type.title (some "T"))].foldlM
          (el_storage.apply fun (_ : BlobKind) => (⟨[], id, id⟩ : BlobCodec Blob)) empty_storage =
        .ok s' ∧ s'.lists_meta_data_slots :=
  ⟨fun _ h => absurd h (List.not_mem_nil _), fun _ h => absurd h (List.not_mem_nil _),
    get_all_meta_data_run _ empty_storage _ (fun _ h => absurd h (List.not_mem_nil _))
      (fun _ h => absurd h (List.not_mem_nil _))⟩

end DjInterop
