/-
`schema_validate_utils.hpp`: the catalogue views a schema validator walks, and the
`validate` checks it runs on them.

A view (`master_list`, `table_info`, `index_list`, `index_info`) is a `std::set` of the
entries one catalogue query returns, ordered by an `operator<` that compares one field,
its key: the item name, the column name, the index name, the column's rank in the index.
A validator walks a view in lockstep with the list of entries it expects: at each
position `validate` checks that the set is not exhausted and that the current entry
agrees with the expected one on the fields it compares, and at the end
`validate_no_more` checks that nothing is left. The four `validate` overloads are
`validate_entry`, each with its own messages and its own checks in its own order.

The validators that run the walk (`schema_1_*.cpp`) are not present: the walk is
modelled from the spec (`validate_walk`). `std::string`'s `operator<` compares the bytes
of the UTF-8 encodings, which orders strings as Lean's `<` orders their characters.

## What is proved

`schema_validate_spec`: for each view, when the catalogue's keys are distinct, the walk
completes iff the catalogue's entries, in key order, agree with the expected list
position by position, and what it throws otherwise is a `database_inconsistency`. Key
order is `List.insertionSort` on the key; the set iterates in it because it is sorted by
key and holds exactly the catalogue's entries (`entries_of_list`).
-/
import DjInterop.Sqlite.Value
import Mathlib.Data.List.Sort
import Mathlib.Data.String.Basic

set_option autoImplicit false

namespace DjInterop.Schema

/-! ## 0. `std::set` under a key -/

section KeySet

variable {E K : Type} [LinearOrder K] (k : E → K)

/-- `std::set<E>::insert` when `operator<` compares the key `k`: `x` goes before the first
entry with a greater key, and is dropped when an entry has its key. -/
def set_insert (x : E) : List E → List E
  | [] => [x]
  | y :: ys =>
    if k x < k y then x :: y :: ys
    else if k y < k x then y :: set_insert x ys
    else y :: ys

/-- A `std::set<E>` under `k`: its entries in iteration order, strictly increasing in key. -/
structure KeySet where
  entries : List E
  sorted : entries.Sorted fun a b => k a < k b

variable {k}

theorem mem_set_insert {x y : E} {l : List E} (h : y ∈ set_insert k x l) : y = x ∨ y ∈ l := by
  induction l with
  | nil => simpa [set_insert] using h
  | cons z zs ih =>
    simp only [set_insert] at h
    split_ifs at h
    · exact List.mem_cons.1 h
    · rcases List.mem_cons.1 h with rfl | h
      · exact .inr (List.mem_cons_self _ _)
      · exact (ih h).imp_right (List.mem_cons_of_mem _)
    · exact .inr h

theorem sorted_set_insert (x : E) {l : List E} (h : l.Sorted fun a b => k a < k b) :
    (set_insert k x l).Sorted fun a b => k a < k b := by
  induction l with
  | nil => exact List.sorted_singleton x
  | cons y ys ih =>
    obtain ⟨hy, hys⟩ := List.sorted_cons.1 h
    simp only [set_insert]
    split_ifs with hlt hgt
    · refine List.sorted_cons.2 ⟨fun z hz => ?_, h⟩
      rcases List.mem_cons.1 hz with rfl | hz
      · exact hlt
      · exact hlt.trans (hy z hz)
    · refine List.sorted_cons.2 ⟨fun z hz => ?_, ih hys⟩
      rcases mem_set_insert hz with rfl | hz
      · exact hgt
      · exact hy z hz
    · exact h

/-- A new key is inserted, and nothing else changes. -/
theorem perm_set_insert (x : E) {l : List E} (h : ∀ y ∈ l, k y ≠ k x) :
    (set_insert k x l).Perm (x :: l) := by
  induction l with
  | nil => rfl
  | cons y ys ih =>
    simp only [set_insert]
    split_ifs with hlt hgt
    · rfl
    · exact ((ih fun z hz => h z (List.mem_cons_of_mem _ hz)).cons y).trans (List.Perm.swap x y ys)
    · exact absurd (le_antisymm (not_lt.1 hlt) (not_lt.1 hgt)) (h y (List.mem_cons_self _ _))

def KeySet.insert (s : KeySet k) (x : E) : KeySet k :=
  ⟨set_insert k x s.entries, sorted_set_insert x s.sorted⟩

variable (k)

def KeySet.empty : KeySet k := ⟨[], List.sorted_nil⟩

/-- The set a view's constructor builds: each entry of the query's result inserted in
turn. -/
def KeySet.of_list (O : List E) : KeySet k := O.foldl KeySet.insert (KeySet.empty k)

variable {k}

theorem perm_foldl_insert (O : List E) (s : KeySet k) (h : ((s.entries ++ O).map k).Nodup) :
    (O.foldl KeySet.insert s).entries.Perm (s.entries ++ O) := by
  induction O generalizing s with
  | nil => simp
  | cons x xs ih =>
    have hx : ∀ y ∈ s.entries, k y ≠ k x := fun y hy he => by
      rw [List.map_append, List.map_cons, List.nodup_append] at h
      exact h.2.2 (List.mem_map_of_mem k hy) (by rw [he]; exact List.mem_cons_self _ _)
    have hp : ((s.insert x).entries ++ xs).Perm (s.entries ++ x :: xs) := by
      simpa using
        ((perm_set_insert x hx).trans (List.perm_append_singleton x _).symm).append_right xs
    exact (ih (s.insert x) ((hp.map k).nodup_iff.2 h)).trans hp

/-- **The set iterates in key order.** Built from entries with distinct keys, it holds
them all, sorted by key. -/
theorem entries_of_list (O : List E) (hO : (O.map k).Nodup) :
    (KeySet.of_list k O).entries = O.insertionSort fun a b => k a ≤ k b := by
  haveI : IsTotal E fun a b => k a ≤ k b := ⟨fun _ _ => le_total _ _⟩
  haveI : IsTrans E fun a b => k a ≤ k b := ⟨fun _ _ _ => le_trans⟩
  haveI : IsAntisymm E fun a b => k a < k b :=
    ⟨fun _ _ h₁ h₂ => absurd (h₁.trans h₂) (lt_irrefl _)⟩
  have hperm := List.perm_insertionSort (fun a b => k a ≤ k b) O
  have hp : (KeySet.of_list k O).entries.Perm O := by
    simpa using perm_foldl_insert O (KeySet.empty k) (by simpa using hO)
  have hne : (O.insertionSort fun a b => k a ≤ k b).Pairwise fun a b => k a ≠ k b :=
    List.pairwise_map.1 ((hperm.map k).nodup_iff.2 hO)
  exact List.eq_of_perm_of_sorted (hp.trans hperm.symm) (KeySet.of_list k O).sorted
    (((List.sorted_insertionSort _ O).and hne).imp fun h => lt_of_le_of_ne h.1 h.2)

end KeySet

/-! ## 1. `validate`, `validate_no_more` and the walk -/

section Walk

variable {E ρ : Type}

/-- The shape of the four `validate` overloads, with `iter` the entries from the iterator
to the end of the set: at the end it throws `missing`; otherwise it runs `checks` on the
current entry in order, each a test that fails and its message, and throws the message
of the first that fails. -/
def validate_entry (missing : String) (checks : E → List (Bool × String)) :
    List E → Except Error Unit
  | [] => throw (.database_inconsistency missing)
  | e :: _ =>
    match (checks e).find? (·.1) with
    | some c => throw (.database_inconsistency c.2)
    | none => pure ()

/-- `validate_no_more`: the walk has reached the end of the set. -/
def validate_no_more (iter : List E) (validation_type item : String) : Except Error Unit :=
  if !iter.isEmpty then
    throw (.database_inconsistency
      (validation_type ++ " for " ++ item ++ " has more entries than expected"))
  else pure ()

/-- Modelled from the spec: a validator's walk over one view, whose code is not present.
From the first entry of the set, `validate` against each expected entry in turn,
stepping to the next entry after each, then `validate_no_more`. -/
def validate_walk (validate : List E → ρ → Except Error Unit)
    (no_more : List E → Except Error Unit) : List E → List ρ → Except Error Unit
  | iter, [] => no_more iter
  | iter, r :: rs => do
    validate iter r
    validate_walk validate no_more iter.tail rs

theorem validate_entry_ok {missing : String} {checks : E → List (Bool × String)}
    {iter : List E} :
    validate_entry missing checks iter = .ok () ↔
      ∃ e rest, iter = e :: rest ∧ ∀ c ∈ checks e, c.1 = false := by
  cases iter with
  | nil => simp [validate_entry]
  | cons e rest =>
    have : (∀ c ∈ checks e, c.1 = false) ↔ (checks e).find? (·.1) = none := by
      simp [List.find?_eq_none]
    simp only [validate_entry, List.cons.injEq, exists_and_left, exists_eq_left', exists_eq',
      and_true, this]
    split <;> simp_all

theorem validate_entry_error {missing : String} {checks : E → List (Bool × String)}
    {iter : List E} {err : Error} (h : validate_entry missing checks iter = .error err) :
    ∃ m, err = .database_inconsistency m := by
  cases iter with
  | nil => cases h; exact ⟨_, rfl⟩
  | cons e rest =>
    simp only [validate_entry] at h
    split at h <;> cases h
    exact ⟨_, rfl⟩

theorem except_seq_ok {x y : Except Error Unit} :
    (do x; y) = .ok () ↔ x = .ok () ∧ y = .ok () := by
  cases x <;> simp [bind, Except.bind]

variable {validate : List E → ρ → Except Error Unit}

/-- **The walk completes iff the entries agree with the expected ones**, position by
position, given that `validate` passes exactly on an entry that agrees. -/
theorem validate_walk_ok {agrees : E → ρ → Prop}
    (hok : ∀ iter r, validate iter r = .ok () ↔ ∃ e rest, iter = e :: rest ∧ agrees e r)
    (validation_type item : String) (L : List E) (R : List ρ) :
    validate_walk validate (validate_no_more · validation_type item) L R = .ok () ↔
      List.Forall₂ agrees L R := by
  induction R generalizing L with
  | nil => cases L <;> simp [validate_walk, validate_no_more, throw, throwThe, MonadExceptOf.throw]
  | cons r rs ih =>
    cases L with
    | nil => simp [validate_walk, except_seq_ok, hok]
    | cons e rest => simp [validate_walk, except_seq_ok, hok, ih]

/-- Whatever the walk throws is a `database_inconsistency`. -/
theorem validate_walk_error
    (herr : ∀ iter r err, validate iter r = .error err → ∃ m, err = .database_inconsistency m)
    (validation_type item : String) (L : List E) (R : List ρ) (err : Error)
    (h : validate_walk validate (validate_no_more · validation_type item) L R = .error err) :
    ∃ m, err = .database_inconsistency m := by
  induction R generalizing L with
  | nil =>
    simp only [validate_walk, validate_no_more] at h
    split at h <;> cases h
    exact ⟨_, rfl⟩
  | cons r rs ih =>
    simp only [validate_walk] at h
    cases hv : validate L r with
    | error e =>
      rw [hv] at h
      exact herr L r err (hv.trans (by cases h; rfl))
    | ok u => rw [hv] at h; exact ih L.tail h

/-- **A view's walk.** For a view keyed by `k` built from a catalogue with distinct keys,
and a `validate` that passes exactly on an entry that agrees with the expected one and
otherwise throws a `database_inconsistency`: the walk completes iff the catalogue's
entries in key order agree with the expected ones, position by position, and otherwise
throws a `database_inconsistency`. -/
theorem validate_walk_spec {K : Type} [LinearOrder K] {k : E → K} {agrees : E → ρ → Prop}
    (hok : ∀ iter r, validate iter r = .ok () ↔ ∃ e rest, iter = e :: rest ∧ agrees e r)
    (herr : ∀ iter r err, validate iter r = .error err → ∃ m, err = .database_inconsistency m)
    (validation_type item : String) (O : List E) (R : List ρ) (hO : (O.map k).Nodup) :
    (validate_walk validate (validate_no_more · validation_type item) (KeySet.of_list k O).entries
        R = .ok () ↔ List.Forall₂ agrees (O.insertionSort fun a b => k a ≤ k b) R) ∧
    ∀ err, validate_walk validate (validate_no_more · validation_type item)
        (KeySet.of_list k O).entries R = .error err → ∃ m, err = .database_inconsistency m := by
  rw [entries_of_list O hO]
  exact ⟨validate_walk_ok hok _ _ _ R, validate_walk_error herr _ _ _ R⟩

end Walk

/-! ## 2. The four views -/

/-- `master_list_entry`: an item of `sqlite_master`. -/
structure master_list_entry where
  db_name : String
  item_name : String
  table_name : String
deriving DecidableEq, Repr

/-- `table_info_entry`: a row of `PRAGMA table_info`. -/
structure table_info_entry where
  db_name : String
  table_name : String
  col_id : Int
  col_name : String
  col_type : String
  nullable : Int
  default_value : String
  part_of_pk : Int
deriving DecidableEq, Repr

/-- `index_list_entry`: a row of `PRAGMA index_list`. -/
structure index_list_entry where
  db_name : String
  table_name : String
  index_id : Int
  index_name : String
  unique : Int
  creation_method : String
  partial_index : Int
deriving DecidableEq, Repr

/-- `index_info_entry`: a row of `PRAGMA index_info`. -/
structure index_info_entry where
  db_name : String
  index_name : String
  col_index_id : Int
  col_table_id : Int
  col_name : String
deriving DecidableEq, Repr

/-- `struct master_list`: the `sqlite_master` items of one type, by item name. Its
constructor is `KeySet.of_list` of the entries the callback builds from the rows of
`SELECT name, tbl_name FROM <db>.sqlite_master WHERE type = '<item_type>'`. -/
abbrev master_list := KeySet master_list_entry.item_name

/-- `struct table_info`: the columns of a table, by column name. -/
abbrev table_info := KeySet table_info_entry.col_name

/-- `struct index_list`: the indices of a table, by index name. -/
abbrev index_list := KeySet index_list_entry.index_name

/-- `struct index_info`: the columns of an index, by rank in the index. -/
abbrev index_info := KeySet index_info_entry.col_index_id

/-- `validate(master_list::const_iterator, …)`. -/
def master_list.validate (iter : List master_list_entry)
    (db_name item_type item_name table_name : String) : Except Error Unit :=
  validate_entry
    ("Item " ++ item_name ++ " of type " ++ item_type ++ " (relating to table " ++ table_name ++
      ") missing from DB " ++ db_name)
    (fun e => [(e.item_name != item_name,
      "Item " ++ e.item_name ++ " of type " ++ item_type ++ " (relating to table " ++
        e.table_name ++ ") on " ++ db_name ++ " in wrong order, expected " ++ item_name ++
        " (relating to table " ++ table_name ++ ")")])
    iter

/-- `validate(table_info::const_iterator, …)`. -/
def table_info.validate (iter : List table_info_entry) (col_name col_type : String)
    (nullable : Int) (default_value : String) (part_of_pk : Int) : Except Error Unit :=
  validate_entry ("Column " ++ col_name ++ " missing")
    (fun e => [
      (e.col_name != col_name,
        "Column " ++ e.col_name ++ " on " ++ e.table_name ++ " in wrong order, expected " ++
          col_name),
      (e.col_type != col_type,
        "Column " ++ col_name ++ " on " ++ e.table_name ++ " has wrong type: " ++ e.col_type ++
          ", expected " ++ col_type),
      (e.nullable != nullable,
        "Column " ++ col_name ++ " on " ++ e.table_name ++ " has wrong nullability: " ++
          toString e.nullable),
      (e.default_value != default_value,
        "Column " ++ col_name ++ " on " ++ e.table_name ++ " has wrong default value: \"" ++
          e.default_value ++ "\", expected \"" ++ default_value ++ "\""),
      (e.part_of_pk != part_of_pk,
        "Column " ++ col_name ++ " on " ++ e.table_name ++ " has wrong PK membership: " ++
          toString e.part_of_pk)])
    iter

/-- `validate(index_list::const_iterator, …)`. -/
def index_list.validate (iter : List index_list_entry) (index_name : String) (unique : Int)
    (creation_method : String) (partial_index : Int) : Except Error Unit :=
  validate_entry ("Index " ++ index_name ++ " missing")
    (fun e => [
      (e.index_name != index_name,
        "Index " ++ e.index_name ++ " on " ++ e.table_name ++ " in wrong order, expected " ++
          index_name),
      (e.unique != unique,
        "Index " ++ index_name ++ " on " ++ e.table_name ++ " has wrong uniqueness: " ++
          toString e.unique),
      (e.creation_method != creation_method,
        "Index " ++ index_name ++ " on " ++ e.table_name ++ " has wrong creation method: \"" ++
          e.creation_method ++ "\""),
      (e.partial_index != partial_index,
        "Index " ++ index_name ++ " on " ++ e.table_name ++ " has wrong \"partiality\": " ++
          toString e.partial_index)])
    iter

/-- `validate(index_info::const_iterator, …)`: unlike the others, it checks the key (the
rank) before the name. -/
def index_info.validate (iter : List index_info_entry) (col_index_id : Int)
    (col_name : String) : Except Error Unit :=
  validate_entry ("Col " ++ col_name ++ " missing from index")
    (fun e => [
      (e.col_index_id != col_index_id,
        "Col " ++ col_name ++ " on " ++ e.index_name ++ " has wrong rank within the index: " ++
          toString e.col_index_id),
      (e.col_name != col_name,
        "Col " ++ e.col_name ++ " on " ++ e.index_name ++ " in wrong order, expected " ++
          col_name)])
    iter

/-! ## 3. What each `validate` compares -/

/-- **Specification.** A `sqlite_master` item is the expected one: same item name. -/
def master_list_entry.agrees (e r : master_list_entry) : Prop :=
  e.item_name = r.item_name

/-- **Specification.** A column is the expected one: same name, type, nullability,
default value and primary-key membership. -/
def table_info_entry.agrees (e r : table_info_entry) : Prop :=
  e.col_name = r.col_name ∧ e.col_type = r.col_type ∧ e.nullable = r.nullable ∧
    e.default_value = r.default_value ∧ e.part_of_pk = r.part_of_pk

/-- **Specification.** An index is the expected one: same name, uniqueness, creation
method and partiality. -/
def index_list_entry.agrees (e r : index_list_entry) : Prop :=
  e.index_name = r.index_name ∧ e.unique = r.unique ∧ e.creation_method = r.creation_method ∧
    e.partial_index = r.partial_index

/-- **Specification.** A column of an index is the expected one: same rank and name. -/
def index_info_entry.agrees (e r : index_info_entry) : Prop :=
  e.col_index_id = r.col_index_id ∧ e.col_name = r.col_name

theorem master_list.validate_ok (db_name item_type : String) (iter : List master_list_entry)
    (r : master_list_entry) :
    master_list.validate iter db_name item_type r.item_name r.table_name = .ok () ↔
      ∃ e rest, iter = e :: rest ∧ e.agrees r := by
  simp [master_list.validate, validate_entry_ok, master_list_entry.agrees]

theorem table_info.validate_ok (iter : List table_info_entry) (r : table_info_entry) :
    table_info.validate iter r.col_name r.col_type r.nullable r.default_value r.part_of_pk =
      .ok () ↔ ∃ e rest, iter = e :: rest ∧ e.agrees r := by
  simp [table_info.validate, validate_entry_ok, table_info_entry.agrees]

theorem index_list.validate_ok (iter : List index_list_entry) (r : index_list_entry) :
    index_list.validate iter r.index_name r.unique r.creation_method r.partial_index = .ok () ↔
      ∃ e rest, iter = e :: rest ∧ e.agrees r := by
  simp [index_list.validate, validate_entry_ok, index_list_entry.agrees]

theorem index_info.validate_ok (iter : List index_info_entry) (r : index_info_entry) :
    index_info.validate iter r.col_index_id r.col_name = .ok () ↔
      ∃ e rest, iter = e :: rest ∧ e.agrees r := by
  simp [index_info.validate, validate_entry_ok, index_info_entry.agrees]

/-! ## 4. The walk over each view -/

section Walks

variable (validation_type item : String)

/-- Modelled from the spec: a validator's walk over a `master_list`. -/
def master_list.validate_all (db_name item_type : String) (s : master_list)
    (R : List master_list_entry) : Except Error Unit :=
  validate_walk (fun iter r => master_list.validate iter db_name item_type r.item_name r.table_name)
    (validate_no_more · validation_type item) s.entries R

/-- Modelled from the spec: a validator's walk over a `table_info`. -/
def table_info.validate_all (s : table_info) (R : List table_info_entry) : Except Error Unit :=
  validate_walk (fun iter r =>
      table_info.validate iter r.col_name r.col_type r.nullable r.default_value r.part_of_pk)
    (validate_no_more · validation_type item) s.entries R

/-- Modelled from the spec: a validator's walk over an `index_list`. -/
def index_list.validate_all (s : index_list) (R : List index_list_entry) : Except Error Unit :=
  validate_walk (fun iter r =>
      index_list.validate iter r.index_name r.unique r.creation_method r.partial_index)
    (validate_no_more · validation_type item) s.entries R

/-- Modelled from the spec: a validator's walk over an `index_info`. -/
def index_info.validate_all (s : index_info) (R : List index_info_entry) : Except Error Unit :=
  validate_walk (fun iter r => index_info.validate iter r.col_index_id r.col_name)
    (validate_no_more · validation_type item) s.entries R

/-- **`validate` and `validate_no_more`, over the four views.** For each view, built from
a catalogue whose keys are distinct, the walk against the expected entries completes iff
the catalogue's entries in key order agree with them position by position on every
field `validate` compares, and otherwise throws a `database_inconsistency`: a missing
entry, an extra one at any position, a reordering and a mismatch in a compared field
all throw. -/
theorem schema_validate_spec :
    (∀ (db_name item_type : String) (O R : List master_list_entry),
      (O.map (·.item_name)).Nodup →
      (master_list.validate_all validation_type item db_name item_type (KeySet.of_list _ O) R =
          .ok () ↔
        List.Forall₂ master_list_entry.agrees (O.insertionSort fun a b => a.item_name ≤ b.item_name)
          R) ∧
      ∀ err, master_list.validate_all validation_type item db_name item_type (KeySet.of_list _ O) R =
        .error err → ∃ m, err = .database_inconsistency m) ∧
    (∀ O R : List table_info_entry, (O.map (·.col_name)).Nodup →
      (table_info.validate_all validation_type item (KeySet.of_list _ O) R = .ok () ↔
        List.Forall₂ table_info_entry.agrees (O.insertionSort fun a b => a.col_name ≤ b.col_name)
          R) ∧
      ∀ err, table_info.validate_all validation_type item (KeySet.of_list _ O) R = .error err →
        ∃ m, err = .database_inconsistency m) ∧
    (∀ O R : List index_list_entry, (O.map (·.index_name)).Nodup →
      (index_list.validate_all validation_type item (KeySet.of_list _ O) R = .ok () ↔
        List.Forall₂ index_list_entry.agrees
          (O.insertionSort fun a b => a.index_name ≤ b.index_name) R) ∧
      ∀ err, index_list.validate_all validation_type item (KeySet.of_list _ O) R = .error err →
        ∃ m, err = .database_inconsistency m) ∧
    (∀ O R : List index_info_entry, (O.map (·.col_index_id)).Nodup →
      (index_info.validate_all validation_type item (KeySet.of_list _ O) R = .ok () ↔
        List.Forall₂ index_info_entry.agrees
          (O.insertionSort fun a b => a.col_index_id ≤ b.col_index_id) R) ∧
      ∀ err, index_info.validate_all validation_type item (KeySet.of_list _ O) R = .error err →
        ∃ m, err = .database_inconsistency m) :=
  ⟨fun db_name item_type O R hO => validate_walk_spec (master_list.validate_ok db_name item_type)
      (fun _ _ _ h => validate_entry_error h) _ _ O R hO,
    fun O R hO => validate_walk_spec table_info.validate_ok
      (fun _ _ _ h => validate_entry_error h) _ _ O R hO,
    fun O R hO => validate_walk_spec index_list.validate_ok
      (fun _ _ _ h => validate_entry_error h) _ _ O R hO,
    fun O R hO => validate_walk_spec index_info.validate_ok
      (fun _ _ _ h => validate_entry_error h) _ _ O R hO⟩

end Walks

end DjInterop.Schema
