/-
`el_storage::get_all_meta_data`, `get_meta_data`, `set_meta_data` and their `_integer`
twins (`el_storage.cpp:548–744`): the two metadata tables.

`MetaData` holds a track's string metadata and `MetaDataInteger` its integer metadata,
one row per slot `(id, type)`, the tables' primary key. Six of the methods come in pairs
that differ only in the table, the value column (`text` or `value`), the C++ value type
and the message of the duplicate-slot error, so each pair is one definition here with
those as parameters (`get_slot`, `get_all_slots`, `set_slot`), and each method is that
definition at its own table, column and message. The two bulk writes keep their own
statements: fifteen `(?, ?, ?)` tuples for the strings, twelve for the integers in the
order hardware players write them, with the literals the players expect in the slots no
caller fills.

`slot_value` reads one slot of a table: what the row of key `(id, type)` holds in the
value column, none when there is no such row or its cell is NULL. It is the abstraction
from a table to the map a caller sees, and the getters return it (`get_slot_eq`,
`mem_get_all_slots`).

## What is proved

`meta_data_spec`: from empty tables, after any sequence of single and bulk writes of
either kind on any tracks, each slot reads back what the last write that touched it left
there (`meta_data_write.str_slots` and `int_slots` say which slots a write touches and
with what), the getters never throw, and `get_all_*` lists exactly the non-null slots of
a track, each once. Each write is a sequence of `REPLACE`s of slot rows
(`write_meta_data_eq`, where the bulk statements' 45 and 36 bound values are cut into
their rows), and after a sequence of `REPLACE`s each key finds the last row written with
it (`find_foldl_replace`).
-/
import DjInterop.Storage.Basic

set_option autoImplicit false

namespace DjInterop

open Sqlite Column

/-! ## The slot statements of both tables -/

section Slots

variable {α : Type} [Column α] (t : Table ["id", "type"]) (col : String)

/-- `SELECT <col> FROM t WHERE id = ? AND type = ? AND <col> IS NOT NULL`, read by the
callback of `get_meta_data*`: the first row sets the result, a second throws `what`. -/
def get_slot (what : String) (id type : Int) : Except Error (Option α) :=
  at_most_one (fun _ => .track_database_inconsistency what id) <|
    (t.select [col] fun r =>
      (r "id").sql_eq (bind_col id) && (r "type").sql_eq (bind_col type) && r col != .null).map
      fun v => column v 0

/-- `SELECT id, type, <col> FROM t WHERE id = ? AND <col> IS NOT NULL`, each row as the
callback of `get_all_meta_data*` receives it. -/
def get_all_slots (id : Int) : List (Int × Int × α) :=
  (t.select ["id", "type", col] fun r => (r "id").sql_eq (bind_col id) && r col != .null).map
    fun v => (column v 0, column v 1, column v 2)

/-- `REPLACE INTO t (id, type, <col>) VALUES (?, ?, ?)`. -/
def set_slot (id type : Int) (content : Value) : Except Error (Table ["id", "type"]) :=
  t.insert_or_replace ["id", "type", col] 3 1 [bind_col id, bind_col type, content]

/-- `WHERE id = ? AND type = ?`: the whole key of a metadata table. -/
def slot_key (id type : Int) (r : Row) : Bool :=
  (r "id").sql_eq (.integer id) && (r "type").sql_eq (.integer type)

/-- What slot `(id, type)` of `t` holds in the value column, read as `α`: none when no row
has that key or its cell is NULL. -/
def slot_value (id type : Int) : Option α :=
  ((t.rows.find? (slot_key id type)).filter fun r => r col != .null).map fun r => get_col (r col)

/-- The row a write of `v` to slot `(id, type)` stores. -/
def slot_row (id type : Int) (v : Value) : Row :=
  Row.of_bindings ["id", "type", col] [.integer id, .integer type, v]

/-- Every row's `type` cell holds an INTEGER, as in every table the setters build. -/
def slot_typed : Prop :=
  ∀ r ∈ t.rows, ∃ k : Int, r "type" = .integer k

theorem key_selector_slot (id type : Int) : KeySelector ["id", "type"] (slot_key id type) :=
  key_selector_id_type Value.noConfusion Value.noConfusion

@[simp] theorem slot_row_id (id type : Int) (v : Value) :
    slot_row col id type v "id" = .integer id :=
  rfl

@[simp] theorem slot_row_type (id type : Int) (v : Value) :
    slot_row col id type v "type" = .integer type := by
  simp [slot_row, Row.of_bindings, lookup_cons_self, lookup_cons_ne]

theorem slot_row_col (hcol : col ≠ "id" ∧ col ≠ "type") (id type : Int) (v : Value) :
    slot_row col id type v col = v := by
  simp [slot_row, Row.of_bindings, lookup_cons_self, lookup_cons_ne, hcol.1, hcol.2]

/-- `get_meta_data*` never throws: it returns the slot's value. -/
theorem get_slot_eq (what : String) (id type : Int) :
    (get_slot t col what id type : Except Error (Option α)) = .ok (slot_value t col id type) := by
  show at_most_one _ ((t.select [col] fun r => slot_key id type r && r col != .null).map _) = _
  rw [select_and_find t (key_selector_slot id type)]
  unfold slot_value
  cases (t.rows.find? (slot_key id type)).filter _ <;> rfl

/-- The rows a `get_all_meta_data*` selects are those of the track, each under its own
slot. -/
theorem get_all_slots_rows (ht : slot_typed t) {id : Int} {r : Row}
    (hr : r ∈ t.rows.filter fun r => (r "id").sql_eq (bind_col id) && r col != .null) :
    ∃ k, r "id" = .integer id ∧ r "type" = .integer k ∧ r col ≠ .null ∧
      t.rows.find? (slot_key id k) = some r := by
  obtain ⟨hr, hp⟩ := List.mem_filter.1 hr
  simp only [bind_col_int, Bool.and_eq_true, Value.sql_eq_iff, bne_iff_ne] at hp
  obtain ⟨k, hk⟩ := ht r hr
  refine ⟨k, hp.1.2, hk, hp.2, find_of_mem t (key_selector_slot id k) hr ?_⟩
  simp [slot_key, hp.1.2, hk]

/-- **`get_all_meta_data*` lists the track's non-null slots**, each with its value. -/
theorem mem_get_all_slots (ht : slot_typed t) (id : Int) (x : Int × Int × α) :
    x ∈ get_all_slots t col id ↔ x.1 = id ∧ slot_value t col id x.2.1 = some x.2.2 := by
  obtain ⟨i, k, a⟩ := x
  simp only [get_all_slots, Table.select, List.map_map, List.mem_map, Function.comp_def,
    List.map_cons, List.map_nil, column_cons_zero, column_cons_succ]
  constructor
  · rintro ⟨r, hr, he⟩
    obtain ⟨k', hi, hk, hn, hf⟩ := get_all_slots_rows t col ht hr
    simp only [Prod.mk.injEq, hi, hk, get_col_integer] at he
    obtain ⟨rfl, rfl, rfl⟩ := he
    simp [slot_value, hf, Option.filter, hn]
  · rintro ⟨rfl, hv⟩
    simp only [slot_value, Option.map_eq_some', Option.filter_eq_some, bne_iff_ne] at hv
    obtain ⟨r, ⟨hf, hn⟩, rfl⟩ := hv
    have hkey := List.find?_some hf
    simp only [slot_key, Bool.and_eq_true, Value.sql_eq_iff] at hkey
    exact ⟨r, List.mem_filter.2 ⟨List.mem_of_find?_eq_some hf, by simp [hkey.1.2, hn]⟩,
      by simp [hkey.1.2, hkey.2.2]⟩

/-- **`get_all_meta_data*` lists each slot once**: two rows of one track differ in type. -/
theorem get_all_slots_nodup (ht : slot_typed t) (id : Int) :
    (get_all_slots t col id : List (Int × Int × α)).Nodup := by
  simp only [get_all_slots, Table.select, List.map_map]
  refine List.pairwise_map.2 ((t.keyed.filter _).imp_of_mem fun ha hb hab => ?_)
  obtain ⟨ka, hia, hka, -, -⟩ := get_all_slots_rows t col ht ha
  obtain ⟨kb, hib, hkb, -, -⟩ := get_all_slots_rows t col ht hb
  simp only [Row.key_match, List.all_cons, List.all_nil, Bool.and_true, hia, hib, hka, hkb,
    Value.sql_eq_integer, decide_True, Bool.true_and, decide_eq_false_iff_not] at hab
  simp [Function.comp_def, hka, hkb, hab]

end Slots

/-! ## A sequence of slot writes

The writes of one statement, or of a whole run, as a list of slots and what each
receives: `((id, k), o)` stores `o` in slot `(id, k)`, where `k` is an enumerator and
`val k` its integer. -/

section Writes

variable {τ β : Type} [Column β] (col : String) (val : τ → Int)

/-- The rows a list of slot writes stores, in order. -/
def slot_rows (slots : List ((Int × τ) × Option β)) : List Row :=
  slots.map fun w => slot_row col w.1.1 (val w.1.2) (bind_col w.2)

/-- **Specification.** What the last write to slot `k` in `slots` left in it: `none` when
no write touched it, `some none` when it stored NULL. -/
def last_write_to {κ : Type} [DecidableEq κ] (slots : List (κ × Option β)) (k : κ) :
    Option (Option β) :=
  ((slots.filter (·.1 = k)).getLast?).map (·.2)

@[simp] theorem slot_rows_nil : slot_rows col val ([] : List ((Int × τ) × Option β)) = [] := rfl

theorem slot_rows_append (a b : List ((Int × τ) × Option β)) :
    slot_rows col val (a ++ b) = slot_rows col val a ++ slot_rows col val b :=
  List.map_append _ _ _

variable {col val}

theorem filter_slot_rows [DecidableEq τ] (hval : Function.Injective val)
    (slots : List ((Int × τ) × Option β)) (id : Int) (k : τ) :
    (slot_rows col val slots).filter (slot_key id (val k)) =
      slot_rows col val (slots.filter (·.1 = (id, k))) := by
  simp only [slot_rows, List.filter_map]
  congr 1
  refine List.filter_congr fun w _ => ?_
  simp [slot_key, hval.eq_iff, Prod.ext_iff]

/-- A cell written from an optional value reads back as it. -/
theorem slot_value_row [LawfulColumn β] (hcol : col ≠ "id" ∧ col ≠ "type") (id type : Int)
    (o : Option β) :
    ((some (slot_row col id type (bind_col o))).filter fun r => r col != .null).map
      (fun r => (get_col (r col) : β)) = o := by
  cases o <;> simp [slot_row_col col hcol, Option.filter, bind_col]

/-- **Last writer wins.** After the rows of `slots` are `REPLACE`d into a table, a slot
holds what the last write to it left, and what it held before when none touched it. -/
theorem slot_value_foldl_replace [DecidableEq τ] [LawfulColumn β]
    (hcol : col ≠ "id" ∧ col ≠ "type") (hval : Function.Injective val) (t : Table ["id", "type"]) (slots : List ((Int × τ) × Option β)) (id : Int) (k : τ) :
    (slot_value ((slot_rows col val slots).foldl Table.replace t) col id (val k) : Option β) =
      match last_write_to slots (id, k) with
      | some o => o
      | none => slot_value t col id (val k) := by
  simp only [slot_value, last_write_to,
    find_foldl_replace t (key_selector_slot id (val k)), filter_slot_rows hval]
  cases h : (slots.filter (·.1 = (id, k))).getLast? with
  | none => simp [slot_rows, List.getLast?_map, h]
  | some w =>
    simp only [slot_rows, List.getLast?_map, h, Option.map_some', Option.or_some]
    exact slot_value_row hcol _ _ _

theorem slot_typed_foldl_replace (t : Table ["id", "type"]) (ht : slot_typed t)
    (slots : List ((Int × τ) × Option β)) :
    slot_typed ((slot_rows col val slots).foldl Table.replace t) := by
  induction slots generalizing t with
  | nil => exact ht
  | cons w ws ih =>
    refine ih _ fun r hr => ?_
    rcases List.mem_append.1 hr with hr | hr
    · exact ht r (List.mem_filter.1 hr).1
    · exact ⟨_, by rw [List.mem_singleton.1 hr]; exact slot_row_type col _ _ _⟩

end Writes

/-! ## `metadata_str_type`, `metadata_int_type` and the rows the getters list -/

/-- Modelled from the spec: `enum class metadata_str_type`, whose declaration is not
present. The storage code only casts it to and from `int64_t`, so it is its underlying
integer; the enumerators carry the numbers their names give. No result here depends on
the numbers. -/
structure metadata_str_type where
  val : Int
deriving DecidableEq, Repr

namespace metadata_str_type

def title : metadata_str_type := ⟨1⟩
def artist : metadata_str_type := ⟨2⟩
def album : metadata_str_type := ⟨3⟩
def genre : metadata_str_type := ⟨4⟩
def comment : metadata_str_type := ⟨5⟩
def publisher : metadata_str_type := ⟨6⟩
def composer : metadata_str_type := ⟨7⟩
def unknown_8 : metadata_str_type := ⟨8⟩
def unknown_9 : metadata_str_type := ⟨9⟩
def duration_mm_ss : metadata_str_type := ⟨10⟩
def ever_played : metadata_str_type := ⟨12⟩
def file_extension : metadata_str_type := ⟨13⟩
def unknown_15 : metadata_str_type := ⟨15⟩
def unknown_16 : metadata_str_type := ⟨16⟩
def unknown_17 : metadata_str_type := ⟨17⟩

theorem val_injective : Function.Injective val := fun ⟨_⟩ ⟨_⟩ h => congrArg _ h

end metadata_str_type

/-- Modelled from the spec: `enum class metadata_int_type`, whose declaration is not
present; § 4.E numbers its enumerators through the order hardware players write them
in. -/
structure metadata_int_type where
  val : Int
deriving DecidableEq, Repr

namespace metadata_int_type

def last_played_ts : metadata_int_type := ⟨1⟩
def last_modified_ts : metadata_int_type := ⟨2⟩
def last_accessed_ts : metadata_int_type := ⟨3⟩
def musical_key : metadata_int_type := ⟨4⟩
def rating : metadata_int_type := ⟨5⟩
def unknown_6 : metadata_int_type := ⟨6⟩
def unknown_7 : metadata_int_type := ⟨7⟩
def unknown_8 : metadata_int_type := ⟨8⟩
def unknown_9 : metadata_int_type := ⟨9⟩
def last_play_hash : metadata_int_type := ⟨10⟩
def unknown_11 : metadata_int_type := ⟨11⟩
def unknown_12 : metadata_int_type := ⟨12⟩

theorem val_injective : Function.Injective val := fun ⟨_⟩ ⟨_⟩ h => congrArg _ h

end metadata_int_type

/-- `meta_data_row`: one string slot of a track. -/
structure meta_data_row where
  id : Int
  type : metadata_str_type
  text : String
deriving DecidableEq, Repr

/-- `meta_data_integer_row`: one integer slot of a track. -/
structure meta_data_integer_row where
  id : Int
  type : metadata_int_type
  value : Int
deriving DecidableEq, Repr

/-! ## `el_storage`'s metadata methods -/

namespace el_storage

variable (s : el_storage) (id : Int)

/-- `el_storage::get_all_meta_data`. -/
def get_all_meta_data : List meta_data_row :=
  (get_all_slots s.db.music.MetaData "text" id).map fun x => ⟨x.1, ⟨x.2.1⟩, x.2.2⟩

/-- `el_storage::get_meta_data`. -/
def get_meta_data (type : metadata_str_type) : Except Error (Option String) :=
  get_slot s.db.music.MetaData "text"
    "More than one MetaData entry of the same type for the same track" id type.val

/-- `el_storage::set_meta_data(id, type, const std::string&)`. -/
def set_meta_data_string (type : metadata_str_type) (content : String) :
    Except Error el_storage := do
  let t ← set_slot s.db.music.MetaData "text" id type.val (bind_col content)
  pure (s.with_MetaData t)

/-- `el_storage::set_meta_data(id, type, stdx::optional<std::string>)`: a value goes
through the overload above, `nullopt` stores NULL. -/
def set_meta_data (type : metadata_str_type) : Option String → Except Error el_storage
  | some content => s.set_meta_data_string id type content
  | none => do
    let t ← set_slot s.db.music.MetaData "text" id type.val .null
    pure (s.with_MetaData t)

/-- `el_storage::set_meta_data(id, title, …, file_extension)`: the fifteen slots hardware
players expect, in one statement; a row is written even for a null value. -/
def set_meta_data_bulk (title artist album genre comment publisher composer duration_mm_ss
    ever_played file_extension : Option String) : Except Error el_storage := do
  let no_value : Option String := none
  let t ← s.db.music.MetaData.insert_or_replace ["id", "type", "text"] 3 15
    [bind_col id, bind_col metadata_str_type.title.val, bind_col title,
      bind_col id, bind_col metadata_str_type.artist.val, bind_col artist,
      bind_col id, bind_col metadata_str_type.album.val, bind_col album,
      bind_col id, bind_col metadata_str_type.genre.val, bind_col genre,
      bind_col id, bind_col metadata_str_type.comment.val, bind_col comment,
      bind_col id, bind_col metadata_str_type.publisher.val, bind_col publisher,
      bind_col id, bind_col metadata_str_type.composer.val, bind_col composer,
      bind_col id, bind_col metadata_str_type.unknown_8.val, bind_col no_value,
      bind_col id, bind_col metadata_str_type.unknown_9.val, bind_col no_value,
      bind_col id, bind_col metadata_str_type.duration_mm_ss.val, bind_col duration_mm_ss,
      bind_col id, bind_col metadata_str_type.ever_played.val, bind_col ever_played,
      bind_col id, bind_col metadata_str_type.file_extension.val, bind_col file_extension,
      bind_col id, bind_col metadata_str_type.unknown_15.val, bind_col "1",
      bind_col id, bind_col metadata_str_type.unknown_16.val, bind_col "1",
      bind_col id, bind_col metadata_str_type.unknown_17.val, bind_col no_value]
  pure (s.with_MetaData t)

/-- `el_storage::get_all_meta_data_integer`. -/
def get_all_meta_data_integer : List meta_data_integer_row :=
  (get_all_slots s.db.music.MetaDataInteger "value" id).map fun x => ⟨x.1, ⟨x.2.1⟩, x.2.2⟩

/-- `el_storage::get_meta_data_integer`. -/
def get_meta_data_integer (type : metadata_int_type) : Except Error (Option Int) :=
  get_slot s.db.music.MetaDataInteger "value"
    "More than one MetaDataInteger entry of the same type for the same track" id type.val

/-- `el_storage::set_meta_data_integer(id, type, stdx::optional<int64_t>)`. -/
def set_meta_data_integer (type : metadata_int_type) (content : Option Int) :
    Except Error el_storage := do
  let t ← set_slot s.db.music.MetaDataInteger "value" id type.val (bind_col content)
  pure (s.with_MetaDataInteger t)

/-- `el_storage::set_meta_data_integer(id, musical_key, …, last_play_hash)`: the twelve
slots hardware players expect, in the order they write them (4, 5, 1, 2, 3, 6, 8, 7, 9,
10, 11, 12), with `1` in the last two. -/
def set_meta_data_integer_bulk (musical_key rating last_played_timestamp
    last_modified_timestamp last_accessed_timestamp last_play_hash : Option Int) :
    Except Error el_storage := do
  let no_value : Option Int := none
  let t ← s.db.music.MetaDataInteger.insert_or_replace ["id", "type", "value"] 3 12
    [bind_col id, bind_col metadata_int_type.musical_key.val, bind_col musical_key,
      bind_col id, bind_col metadata_int_type.rating.val, bind_col rating,
      bind_col id, bind_col metadata_int_type.last_played_ts.val, bind_col last_played_timestamp,
      bind_col id, bind_col metadata_int_type.last_modified_ts.val,
        bind_col last_modified_timestamp,
      bind_col id, bind_col metadata_int_type.last_accessed_ts.val,
        bind_col last_accessed_timestamp,
      bind_col id, bind_col metadata_int_type.unknown_6.val, bind_col no_value,
      bind_col id, bind_col metadata_int_type.unknown_8.val, bind_col no_value,
      bind_col id, bind_col metadata_int_type.unknown_7.val, bind_col no_value,
      bind_col id, bind_col metadata_int_type.unknown_9.val, bind_col no_value,
      bind_col id, bind_col metadata_int_type.last_play_hash.val, bind_col last_play_hash,
      bind_col id, bind_col metadata_int_type.unknown_11.val, bind_col (1 : Int),
      bind_col id, bind_col metadata_int_type.unknown_12.val, bind_col (1 : Int)]
  pure (s.with_MetaDataInteger t)

end el_storage

/-! ## Writes and the slots they touch -/

/-- A write to the metadata tables: the single-slot setters with an optional value, and
the two bulk setters. -/
inductive meta_data_write
  | set_meta_data (id : Int) (type : metadata_str_type) (content : Option String)
  | set_meta_data_bulk (id : Int) (title artist album genre comment publisher composer
      duration_mm_ss ever_played file_extension : Option String)
  | set_meta_data_integer (id : Int) (type : metadata_int_type) (content : Option Int)
  | set_meta_data_integer_bulk (id : Int) (musical_key rating last_played_timestamp
      last_modified_timestamp last_accessed_timestamp last_play_hash : Option Int)

/-- Performing one write on the storage. -/
def el_storage.write_meta_data (s : el_storage) : meta_data_write → Except Error el_storage
  | .set_meta_data id type content => s.set_meta_data id type content
  | .set_meta_data_bulk id a b c d e f g h i j => s.set_meta_data_bulk id a b c d e f g h i j
  | .set_meta_data_integer id type content => s.set_meta_data_integer id type content
  | .set_meta_data_integer_bulk id a b c d e f => s.set_meta_data_integer_bulk id a b c d e f

namespace meta_data_write

open metadata_str_type in
/-- **Specification.** The string slots a write touches, with what it leaves in each
(`none`: NULL). A bulk write touches fifteen slots of its track: the given values, `"1"`
in `unknown_15` and `unknown_16`, and NULL in `unknown_8`, `unknown_9` and
`unknown_17`. -/
def str_slots : meta_data_write → List ((Int × metadata_str_type) × Option String)
  | .set_meta_data id type content => [((id, type), content)]
  | .set_meta_data_bulk id title artist album genre comment publisher composer duration_mm_ss
      ever_played file_extension =>
    [((id, .title), title), ((id, .artist), artist), ((id, .album), album),
      ((id, .genre), genre), ((id, .comment), comment), ((id, .publisher), publisher),
      ((id, .composer), composer), ((id, .unknown_8), none), ((id, .unknown_9), none),
      ((id, .duration_mm_ss), duration_mm_ss), ((id, .ever_played), ever_played),
      ((id, .file_extension), file_extension), ((id, .unknown_15), some "1"),
      ((id, .unknown_16), some "1"), ((id, .unknown_17), none)]
  | _ => []

/-- **Specification.** The integer slots a write touches, with what it leaves in each. A
bulk write touches twelve slots of its track, in the order 4, 5, 1, 2, 3, 6, 8, 7, 9,
10, 11, 12: the given values, NULL in `unknown_6` to `unknown_9`, and `1` in
`unknown_11` and `unknown_12`. -/
def int_slots : meta_data_write → List ((Int × metadata_int_type) × Option Int)
  | .set_meta_data_integer id type content => [((id, type), content)]
  | .set_meta_data_integer_bulk id musical_key rating last_played_timestamp
      last_modified_timestamp last_accessed_timestamp last_play_hash =>
    [((id, .musical_key), musical_key), ((id, .rating), rating),
      ((id, .last_played_ts), last_played_timestamp),
      ((id, .last_modified_ts), last_modified_timestamp),
      ((id, .last_accessed_ts), last_accessed_timestamp), ((id, .unknown_6), none),
      ((id, .unknown_8), none), ((id, .unknown_7), none), ((id, .unknown_9), none),
      ((id, .last_play_hash), last_play_hash), ((id, .unknown_11), some 1),
      ((id, .unknown_12), some 1)]
  | _ => []

end meta_data_write

/-! ## Each setter as its slots' `REPLACE`s -/

section Setters

variable (s : el_storage) (id : Int)

theorem set_meta_data_eq (type : metadata_str_type) (content : Option String) :
    s.set_meta_data id type content = .ok (s.with_MetaData (s.db.music.MetaData.replace
      (slot_row "text" id type.val (bind_col content)))) := by
  cases content <;>
    simp (disch := rfl) only [el_storage.set_meta_data, el_storage.set_meta_data_string, set_slot,
      insert_or_replace_one] <;> rfl

/-- The bulk statement's 45 bound values, cut into rows of three, are the fifteen slots
`str_slots` names, in order. -/
theorem set_meta_data_bulk_eq (a b c d e f g h i j : Option String) :
    s.set_meta_data_bulk id a b c d e f g h i j = .ok (s.with_MetaData
      ((slot_rows "text" metadata_str_type.val
        (meta_data_write.set_meta_data_bulk id a b c d e f g h i j).str_slots).foldl
          Table.replace s.db.music.MetaData)) := by
  simp (disch := rfl) only [el_storage.set_meta_data_bulk, insert_or_replace_eq]
  rfl

theorem set_meta_data_integer_eq (type : metadata_int_type) (content : Option Int) :
    s.set_meta_data_integer id type content = .ok (s.with_MetaDataInteger
      (s.db.music.MetaDataInteger.replace (slot_row "value" id type.val (bind_col content)))) := by
  simp (disch := rfl) only [el_storage.set_meta_data_integer, set_slot, insert_or_replace_one]
  rfl

/-- The bulk statement's 36 bound values, cut into rows of three, are the twelve slots
`int_slots` names, in the order hardware players write them. -/
theorem set_meta_data_integer_bulk_eq (a b c d e f : Option Int) :
    s.set_meta_data_integer_bulk id a b c d e f = .ok (s.with_MetaDataInteger
      ((slot_rows "value" metadata_int_type.val
        (meta_data_write.set_meta_data_integer_bulk id a b c d e f).int_slots).foldl
          Table.replace s.db.music.MetaDataInteger)) := by
  simp (disch := rfl) only [el_storage.set_meta_data_integer_bulk, insert_or_replace_eq]
  rfl

/-- A run of single-slot `set_meta_data` calls is the `REPLACE`s of their rows, in order. -/
theorem foldlM_set_meta_data (slots : List ((Int × metadata_str_type) × Option String)) :
    slots.foldlM (fun s w => s.set_meta_data w.1.1 w.1.2 w.2) s =
      .ok (s.with_MetaData ((slot_rows "text" metadata_str_type.val slots).foldl Table.replace
        s.db.music.MetaData)) := by
  induction slots generalizing s with
  | nil => rfl
  | cons w ws ih => rw [List.foldlM_cons, set_meta_data_eq, ok_bind, ih]; rfl

/-- A run of single-slot `set_meta_data_integer` calls is the `REPLACE`s of their rows, in
order. -/
theorem foldlM_set_meta_data_integer (slots : List ((Int × metadata_int_type) × Option Int)) :
    slots.foldlM (fun s w => s.set_meta_data_integer w.1.1 w.1.2 w.2) s =
      .ok (s.with_MetaDataInteger ((slot_rows "value" metadata_int_type.val slots).foldl
        Table.replace s.db.music.MetaDataInteger)) := by
  induction slots generalizing s with
  | nil => rfl
  | cons w ws ih => rw [List.foldlM_cons, set_meta_data_integer_eq, ok_bind, ih]; rfl

/-- **The bulk setters are the single-slot setters, row by row.** Each bulk statement
leaves the storage exactly as the single-slot setter called on each of its rows, in the
statement's order, would: the same rows with the same values, the literals and NULLs of
the slots no caller fills included. -/
theorem set_meta_data_bulk_singles (a b c d e f g h i j : Option String)
    (k l m n o p : Option Int) :
    s.set_meta_data_bulk id a b c d e f g h i j =
        (meta_data_write.set_meta_data_bulk id a b c d e f g h i j).str_slots.foldlM
          (fun s w => s.set_meta_data w.1.1 w.1.2 w.2) s ∧
      s.set_meta_data_integer_bulk id k l m n o p =
        (meta_data_write.set_meta_data_integer_bulk id k l m n o p).int_slots.foldlM
          (fun s w => s.set_meta_data_integer w.1.1 w.1.2 w.2) s := by
  rw [foldlM_set_meta_data, foldlM_set_meta_data_integer]
  exact ⟨set_meta_data_bulk_eq s id a b c d e f g h i j,
    set_meta_data_integer_bulk_eq s id k l m n o p⟩

end Setters

/-- **Each write is its slots' `REPLACE`s**, in order, and touches nothing else. -/
theorem write_meta_data_eq (s : el_storage) (w : meta_data_write) :
    ∃ s', s.write_meta_data w = .ok s' ∧ s'.version = s.version ∧
      s'.db.music.Track = s.db.music.Track ∧
      s'.db.perfdata.PerformanceData = s.db.perfdata.PerformanceData ∧
      s'.db.music.MetaData =
        (slot_rows "text" metadata_str_type.val w.str_slots).foldl Table.replace
          s.db.music.MetaData ∧
      s'.db.music.MetaDataInteger =
        (slot_rows "value" metadata_int_type.val w.int_slots).foldl Table.replace
          s.db.music.MetaDataInteger := by
  cases w with
  | set_meta_data id type content =>
    exact ⟨_, set_meta_data_eq s id type content, by simp, by simp, by simp,
      by simp [slot_rows, meta_data_write.str_slots], by simp [meta_data_write.int_slots]⟩
  | set_meta_data_bulk id a b c d e f g h i j =>
    exact ⟨_, set_meta_data_bulk_eq s id a b c d e f g h i j, by simp, by simp, by simp,
      el_storage.with_MetaData_MetaData, by simp [meta_data_write.int_slots]⟩
  | set_meta_data_integer id type content =>
    exact ⟨_, set_meta_data_integer_eq s id type content, by simp, by simp, by simp,
      by simp [meta_data_write.str_slots], by simp [slot_rows, meta_data_write.int_slots]⟩
  | set_meta_data_integer_bulk id a b c d e f =>
    exact ⟨_, set_meta_data_integer_bulk_eq s id a b c d e f, by simp, by simp, by simp,
      by simp [meta_data_write.str_slots], el_storage.with_MetaDataInteger_MetaDataInteger⟩

/-- **The run.** A sequence of writes stores the rows of all their slots, in order. -/
theorem run_meta_data (s : el_storage) (ws : List meta_data_write) :
    ∃ s', ws.foldlM el_storage.write_meta_data s = .ok s' ∧
      s'.db.music.MetaData =
        (slot_rows "text" metadata_str_type.val (ws.flatMap (·.str_slots))).foldl Table.replace
          s.db.music.MetaData ∧
      s'.db.music.MetaDataInteger =
        (slot_rows "value" metadata_int_type.val (ws.flatMap (·.int_slots))).foldl Table.replace
          s.db.music.MetaDataInteger := by
  induction ws generalizing s with
  | nil => exact ⟨s, rfl, rfl, rfl⟩
  | cons w ws ih =>
    obtain ⟨s₁, hs₁, -, -, -, hm₁, hi₁⟩ := write_meta_data_eq s w
    obtain ⟨s', hs', hm', hi'⟩ := ih s₁
    refine ⟨s', by rw [List.foldlM_cons, hs₁]; exact hs', ?_, ?_⟩
    · rw [hm', hm₁, List.flatMap_cons, slot_rows_append, List.foldl_append]
    · rw [hi', hi₁, List.flatMap_cons, slot_rows_append, List.foldl_append]

/-! ## The getters -/

section Getters

variable (s : el_storage) (id : Int)

theorem get_meta_data_eq (type : metadata_str_type) :
    s.get_meta_data id type = .ok (slot_value s.db.music.MetaData "text" id type.val) :=
  get_slot_eq _ _ _ _ _

theorem get_meta_data_integer_eq (type : metadata_int_type) :
    s.get_meta_data_integer id type =
      .ok (slot_value s.db.music.MetaDataInteger "value" id type.val) :=
  get_slot_eq _ _ _ _ _

theorem mem_get_all_meta_data (ht : slot_typed s.db.music.MetaData) (r : meta_data_row) :
    r ∈ s.get_all_meta_data id ↔
      r.id = id ∧ slot_value s.db.music.MetaData "text" id r.type.val = some r.text := by
  obtain ⟨i, ⟨k⟩, a⟩ := r
  refine ⟨fun h => ?_,
    fun h => List.mem_map.2 ⟨(i, k, a), (mem_get_all_slots _ _ ht id _).2 h, rfl⟩⟩
  obtain ⟨⟨i', k', a'⟩, hx, he⟩ := List.mem_map.1 h
  cases he
  exact (mem_get_all_slots _ _ ht id _).1 hx

theorem mem_get_all_meta_data_integer (ht : slot_typed s.db.music.MetaDataInteger)
    (r : meta_data_integer_row) :
    r ∈ s.get_all_meta_data_integer id ↔
      r.id = id ∧ slot_value s.db.music.MetaDataInteger "value" id r.type.val = some r.value := by
  obtain ⟨i, ⟨k⟩, a⟩ := r
  refine ⟨fun h => ?_,
    fun h => List.mem_map.2 ⟨(i, k, a), (mem_get_all_slots _ _ ht id _).2 h, rfl⟩⟩
  obtain ⟨⟨i', k', a'⟩, hx, he⟩ := List.mem_map.1 h
  cases he
  exact (mem_get_all_slots _ _ ht id _).1 hx

theorem get_all_meta_data_nodup (ht : slot_typed s.db.music.MetaData) :
    (s.get_all_meta_data id).Nodup :=
  List.Pairwise.map _ (fun ⟨_, _, _⟩ ⟨_, _, _⟩ h he => h (by cases he; rfl))
    (get_all_slots_nodup _ _ ht id)

theorem get_all_meta_data_integer_nodup (ht : slot_typed s.db.music.MetaDataInteger) :
    (s.get_all_meta_data_integer id).Nodup :=
  List.Pairwise.map _ (fun ⟨_, _, _⟩ ⟨_, _, _⟩ h he => h (by cases he; rfl))
    (get_all_slots_nodup _ _ ht id)

end Getters

/-- **One write, as a step.** A slot it touches reads what it left there, every other
slot what it read before, and the rest of the storage is unchanged. -/
theorem get_write_meta_data (s : el_storage) (w : meta_data_write) :
    ∃ s', s.write_meta_data w = .ok s' ∧ s'.version = s.version ∧
      s'.db.music.Track = s.db.music.Track ∧
      s'.db.perfdata.PerformanceData = s.db.perfdata.PerformanceData ∧
      (∀ id type, s'.get_meta_data id type =
        match last_write_to w.str_slots (id, type) with
        | some o => .ok o
        | none => s.get_meta_data id type) ∧
      (∀ id type, s'.get_meta_data_integer id type =
        match last_write_to w.int_slots (id, type) with
        | some o => .ok o
        | none => s.get_meta_data_integer id type) ∧
      (slot_typed s.db.music.MetaData → slot_typed s'.db.music.MetaData) ∧
      (slot_typed s.db.music.MetaDataInteger → slot_typed s'.db.music.MetaDataInteger) := by
  obtain ⟨s', hs', hv, ht, hp, hm, hi⟩ := write_meta_data_eq s w
  refine ⟨s', hs', hv, ht, hp, fun id type => ?_, fun id type => ?_,
    fun h => hm ▸ slot_typed_foldl_replace _ h _,
    fun h => hi ▸ slot_typed_foldl_replace _ h _⟩
  · rw [get_meta_data_eq, get_meta_data_eq s, hm,
      slot_value_foldl_replace (by decide) metadata_str_type.val_injective]
    cases last_write_to w.str_slots (id, type) <;> rfl
  · rw [get_meta_data_integer_eq, get_meta_data_integer_eq s, hi,
      slot_value_foldl_replace (by decide) metadata_int_type.val_injective]
    cases last_write_to w.int_slots (id, type) <;> rfl

/-- A slot of a table built from empty by slot writes holds the last write to it. -/
theorem slot_value_of_empty {τ β : Type} [DecidableEq τ] [Column β] [LawfulColumn β]
    {col : String} {val : τ → Int} (hcol : col ≠ "id" ∧ col ≠ "type")
    (hval : Function.Injective val) (cs : List ColumnDecl) (slots : List ((Int × τ) × Option β))
    (id : Int) (k : τ) :
    (slot_value ((slot_rows col val slots).foldl Table.replace (Table.empty cs)) col id (val k) :
      Option β) = (last_write_to slots (id, k)).join := by
  rw [slot_value_foldl_replace hcol hval]
  cases last_write_to slots (id, k) <;> rfl

/-- **`set_meta_data`, `set_meta_data_integer`, their bulk forms and the getters.** From
empty metadata tables, after any sequence of writes on any tracks, a slot reads back
what the last write that touched it left there, `none` if that was NULL or no write
touched it; `get_all_meta_data` and `get_all_meta_data_integer` list exactly a track's
non-null slots, each once. And the getters never throw, on any tables. -/
theorem meta_data_spec (s : el_storage) (ws : List meta_data_write) :
    (∃ s', ws.foldlM el_storage.write_meta_data
        ((s.with_MetaData (Table.empty s.db.music.MetaData.columns)).with_MetaDataInteger
          (Table.empty s.db.music.MetaDataInteger.columns)) = .ok s' ∧
      (∀ id type, s'.get_meta_data id type =
        .ok (last_write_to (ws.flatMap (·.str_slots)) (id, type)).join) ∧
      (∀ id type, s'.get_meta_data_integer id type =
        .ok (last_write_to (ws.flatMap (·.int_slots)) (id, type)).join) ∧
      (∀ id r, r ∈ s'.get_all_meta_data id ↔
        r.id = id ∧ (last_write_to (ws.flatMap (·.str_slots)) (id, r.type)).join = some r.text) ∧
      (∀ id r, r ∈ s'.get_all_meta_data_integer id ↔
        r.id = id ∧
          (last_write_to (ws.flatMap (·.int_slots)) (id, r.type)).join = some r.value) ∧
      ∀ id, (s'.get_all_meta_data id).Nodup ∧ (s'.get_all_meta_data_integer id).Nodup) ∧
    ∀ id, (∀ type, ∃ v, s.get_meta_data id type = .ok v) ∧
      ∀ type, ∃ v, s.get_meta_data_integer id type = .ok v := by
  refine ⟨?_, fun id => ⟨fun type => ⟨_, get_meta_data_eq s id type⟩,
    fun type => ⟨_, get_meta_data_integer_eq s id type⟩⟩⟩
  obtain ⟨s', hs', hm, hi⟩ := run_meta_data ((s.with_MetaData
    (Table.empty s.db.music.MetaData.columns)).with_MetaDataInteger
      (Table.empty s.db.music.MetaDataInteger.columns)) ws
  simp only [el_storage.with_MetaDataInteger_MetaData, el_storage.with_MetaData_MetaData,
    el_storage.with_MetaDataInteger_MetaDataInteger] at hm hi
  have hsv : ∀ id type, slot_value s'.db.music.MetaData "text" id (metadata_str_type.val type) =
      (last_write_to (ws.flatMap (·.str_slots)) (id, type)).join := fun id type => by
    rw [hm]; exact slot_value_of_empty (by decide) metadata_str_type.val_injective _ _ _ _
  have hiv : ∀ id type,
      slot_value s'.db.music.MetaDataInteger "value" id (metadata_int_type.val type) =
        (last_write_to (ws.flatMap (·.int_slots)) (id, type)).join := fun id type => by
    rw [hi]; exact slot_value_of_empty (by decide) metadata_int_type.val_injective _ _ _ _
  have hst : slot_typed s'.db.music.MetaData :=
    hm ▸ slot_typed_foldl_replace _ (fun _ h => absurd h (List.not_mem_nil _)) _
  have hit : slot_typed s'.db.music.MetaDataInteger :=
    hi ▸ slot_typed_foldl_replace _ (fun _ h => absurd h (List.not_mem_nil _)) _
  refine ⟨s', hs', fun id type => ?_, fun id type => ?_, fun id r => ?_, fun id r => ?_,
    fun id => ⟨get_all_meta_data_nodup _ _ hst, get_all_meta_data_integer_nodup _ _ hit⟩⟩
  · rw [get_meta_data_eq, hsv]
  · rw [get_meta_data_integer_eq, hiv]
  · rw [mem_get_all_meta_data _ _ hst, hsv]
  · rw [mem_get_all_meta_data_integer _ _ hit, hiv]

end DjInterop
