/-
The **tables** of the two attached databases, and the statements `el_storage.cpp` runs
on them.

A table is its declared columns and its rows in rowid order, and it carries SQLite's
primary-key constraint as a field: no two rows agree on the key, so a table that breaks
it cannot be built, and every statement below has to show it keeps it. The statements
are the shapes the storage code uses and nothing more:

| statement | here |
|---|---|
| `INSERT INTO t (cols) VALUES (?, …)` | `Table.insert_into` (fresh rowid) |
| `INSERT OR REPLACE INTO t (cols) VALUES (…), (…)` | `Table.insert_or_replace` |
| `UPDATE t SET c = ?, … WHERE id = ?` | `Table.update_where_id` |
| `DELETE FROM t WHERE …` | `Table.delete` |
| `SELECT cols FROM t WHERE …` | `Table.select` |

A statement names its columns and the storage code binds its values separately, in
order (`bind_params`); which value lands in which column is decided by position alone.
That is where a bind out of place would show, and it is why the model keeps the column
lists and the bind lists apart instead of writing rows as records.

SQLite also fails a statement that names a column its table does not declare. The
statements here do not make that check; it is `Table.declares`, and the storage's results
over runs are stated for libraries on which it passes. A row inserted without an id gets
SQLite's next rowid (`Table.next_rowid`), which no row has (`next_rowid_fresh`).

What the storage proofs need from this file is `filter_eq_find` (a `WHERE` on the whole
key selects at most one row), `find_replace` and its iterate `find_foldl_replace` (a
replaced row is the one the key finds afterwards: last writer wins), and the two
`map_*` lemmas (a row read back through the column list it was written with gives the
bound values, in order).
-/
import DjInterop.Sqlite.Value
import Mathlib.Data.List.Basic

set_option autoImplicit false

namespace DjInterop.Sqlite

/-- A row: the cell each column holds. -/
abbrev Row := String → Value

/-- The row an `INSERT` writes: column `cols[k]` holds `vals[k]`, and a column the
statement does not name holds NULL. -/
def Row.of_bindings (cols : List String) (vals : List Value) : Row :=
  fun c => ((cols.zip vals).lookup c).getD .null

/-- `SET c₁ = ?, …`: the named columns take the bound values, the others keep theirs. -/
def Row.assign (cols : List String) (vals : List Value) (r : Row) : Row :=
  fun c => ((cols.zip vals).lookup c).getD (r c)

/-- Two rows agree on every column of the key `pk`: a uniqueness conflict. -/
def Row.key_match (pk : List String) (a b : Row) : Bool :=
  pk.all fun c => (a c).sql_eq (b c)

/-! ## Reading back what was bound -/

section Lookup

variable {a k : String} {v : Value} {es : List (String × Value)}

theorem lookup_cons_self : ((a, v) :: es).lookup a = some v := by
  rw [List.lookup_cons, beq_self_eq_true]

theorem lookup_cons_ne (h : a ≠ k) : ((k, v) :: es).lookup a = es.lookup a := by
  rw [List.lookup_cons, beq_eq_false_iff_ne.2 h]

end Lookup

/-- Looking up each column of a duplicate-free column list in its own bindings gives the
bound values, in order. -/
theorem map_lookup_zip {cols : List String} {vals : List Value} (h : cols.Nodup)
    (hl : cols.length = vals.length) :
    cols.map (fun c => (cols.zip vals).lookup c) = vals.map some := by
  induction cols generalizing vals with
  | nil => cases vals <;> simp_all
  | cons c cs ih =>
    obtain _ | ⟨v, vs⟩ := vals
    · simp at hl
    · simp only [List.nodup_cons] at h
      have hrest : ∀ c' ∈ cs, ((c :: cs).zip (v :: vs)).lookup c' = (cs.zip vs).lookup c' :=
        fun c' hc' => lookup_cons_ne fun he => h.1 (he ▸ hc')
      rw [List.map_cons, List.map_congr_left hrest, ih h.2 (by simpa using hl)]
      simp [lookup_cons_self]

theorem lookup_zip_of_mem {cols : List String} {vals : List Value} (h : cols.Nodup)
    (hl : cols.length = vals.length) {c : String} (hc : c ∈ cols) :
    ∃ v, (cols.zip vals).lookup c = some v := by
  have := List.mem_map_of_mem (fun c => (cols.zip vals).lookup c) hc
  rw [map_lookup_zip h hl] at this
  obtain ⟨v, -, hv⟩ := List.mem_map.1 this
  exact ⟨v, hv.symm⟩

theorem map_of_bindings {cols : List String} {vals : List Value} (h : cols.Nodup)
    (hl : cols.length = vals.length) : cols.map (Row.of_bindings cols vals) = vals := by
  have := congrArg (List.map (Option.getD · Value.null)) (map_lookup_zip h hl)
  simpa [Row.of_bindings, Function.comp_def] using this

theorem map_assign {cols : List String} {vals : List Value} (h : cols.Nodup)
    (hl : cols.length = vals.length) (r : Row) : cols.map (Row.assign cols vals r) = vals := by
  refine (List.map_congr_left fun c hc => ?_).trans (map_of_bindings h hl)
  obtain ⟨v, hv⟩ := lookup_zip_of_mem h hl hc
  simp [Row.assign, Row.of_bindings, hv]

/-- A column the statement does not name keeps its cell. -/
theorem assign_of_not_mem {cols : List String} {c : String} (vals : List Value) (r : Row)
    (hc : c ∉ cols) : Row.assign cols vals r c = r c := by
  have : (cols.zip vals).lookup c = none := by
    induction cols generalizing vals with
    | nil => rfl
    | cons d ds ih =>
      cases vals with
      | nil => rfl
      | cons v vs =>
        simp only [List.mem_cons, not_or] at hc
        rw [List.zip_cons_cons, lookup_cons_ne hc.1, ih vs hc.2]
  simp [Row.assign, this]

/-! ## Tables -/

/-- One column of a table's declaration, as `PRAGMA table_info` lists it: its name and
declared type (the empty string for none). The other fields of that row (`cid`,
`notnull`, `dflt_value`, `pk`) are read by nothing the storage code does. -/
structure ColumnDecl where
  name : String
  type : String
deriving DecidableEq, Repr

/-- A table with primary key `pk`: its declared columns and its rows in rowid order. No
two rows agree on the key, as SQLite's primary-key constraint keeps it. -/
@[ext] structure Table (pk : List String) where
  columns : List ColumnDecl
  rows : List Row
  keyed : rows.Pairwise fun a b => Row.key_match pk a b = false

variable {pk : List String}

/-- A table with no rows. -/
def Table.empty (columns : List ColumnDecl) : Table pk := ⟨columns, [], .nil⟩

/-- Whether `t` declares every column of `cols`. SQLite makes this check when it prepares
a statement, and fails one that names a column its table lacks (`table … has no column
named …`, `no such column: …`). The statements below leave it out: the storage's
results are stated for libraries whose tables declare what their statements name
(`el_storage.declares_columns`), where it always passes. -/
def Table.declares (t : Table pk) (cols : List String) : Bool :=
  cols.all fun c => (t.columns.map (·.name)).contains c

/-- `SELECT cols FROM t WHERE p`: the named cells of every row `p` selects (the column
check, `Table.declares`, aside). -/
def Table.select (t : Table pk) (cols : List String) (p : Row → Bool) : List (List Value) :=
  (t.rows.filter p).map fun r => cols.map r

/-- `DELETE FROM t WHERE p`. -/
def Table.delete (t : Table pk) (p : Row → Bool) : Table pk :=
  ⟨t.columns, t.rows.filter (fun r => !p r), t.keyed.filter _⟩

theorem keyed_replace (t : Table pk) (r : Row) :
    (t.rows.filter (fun a => !Row.key_match pk a r) ++ [r]).Pairwise
      fun a b => Row.key_match pk a b = false := by
  refine List.pairwise_append.2 ⟨t.keyed.filter _, List.pairwise_singleton _ _, ?_⟩
  intro a ha b hb
  simp only [List.mem_singleton] at hb
  simpa [hb] using (List.mem_filter.1 ha).2

/-- `REPLACE` one row: every row that conflicts with it on the key is deleted, and it is
appended with the next rowid. -/
def Table.replace (t : Table pk) (r : Row) : Table pk :=
  ⟨t.columns, t.rows.filter (fun a => !Row.key_match pk a r) ++ [r], keyed_replace t r⟩

/-- `UPDATE t SET … WHERE p`: each row `p` selects becomes `f` of itself; an update after
which two rows agree on the key fails the constraint and changes nothing. -/
def Table.update (t : Table pk) (f : Row → Row) (p : Row → Bool) : Except Error (Table pk) :=
  let rows := t.rows.map fun r => if p r then f r else r
  if h : rows.Pairwise (fun a b => Row.key_match pk a b = false) then .ok ⟨t.columns, rows, h⟩
  else .error (.sqlite "UNIQUE constraint failed")

/-- The largest rowid, `2⁶³ - 1`. -/
def rowid_limit : Int := 9223372036854775807

/-- The rowids of the table's rows. -/
def Table.rowids (t : Table ["id"]) : List Int := t.rows.map fun r => Column.get_col (r "id")

/-- The largest rowid of the table, and 0 for an empty one. -/
def Table.last_rowid (t : Table ["id"]) : Int := t.rowids.max?.getD 0

/-- The least positive integer not in `ids`; one of the first `ids.length + 1` is. -/
def least_unused (ids : List Int) : Int :=
  (((List.range (ids.length + 1)).map fun i : Nat => (i : Int) + 1).find? (· ∉ ids)).getD 0

/-- The rowid SQLite gives a row inserted without one: one past the largest, and 1 in an
empty table. Once the largest is `2⁶³ - 1`, SQLite tries positive rowids at random until
it finds an unused one; the model takes the least unused one, which that search may
return, and no result depends on which unused rowid it is. -/
def Table.next_rowid (t : Table ["id"]) : Int :=
  if t.last_rowid < rowid_limit then t.last_rowid + 1 else least_unused t.rowids

/-! ### Rowid facts -/

theorem le_foldl_max (l : List Int) (a : Int) : a ≤ l.foldl max a ∧ ∀ k ∈ l, k ≤ l.foldl max a := by
  induction l generalizing a with
  | nil => simp
  | cons x xs ih =>
    obtain ⟨h₁, h₂⟩ := ih (max a x)
    refine ⟨by simp only [List.foldl_cons]; omega, fun k hk => ?_⟩
    rcases List.mem_cons.1 hk with rfl | hk
    · simp only [List.foldl_cons]; omega
    · exact h₂ k hk

theorem foldl_max_le {l : List Int} {a b : Int} (ha : a ≤ b) (h : ∀ k ∈ l, k ≤ b) :
    l.foldl max a ≤ b := by
  induction l generalizing a with
  | nil => exact ha
  | cons x xs ih =>
    exact ih (by have := h x (List.mem_cons_self _ _); omega) fun k hk =>
      h k (List.mem_cons_of_mem _ hk)

theorem le_last_rowid (t : Table ["id"]) {k : Int} (hk : k ∈ t.rowids) : k ≤ t.last_rowid := by
  unfold Table.last_rowid
  cases h : t.rowids with
  | nil => simp [h] at hk
  | cons x xs =>
    rw [h] at hk
    rw [List.max?_cons', Option.getD_some]
    rcases List.mem_cons.1 hk with rfl | hk
    · exact (le_foldl_max xs _).1
    · exact (le_foldl_max xs _).2 k hk

/-- A row's integer id is among the rowids. -/
theorem mem_rowids (t : Table ["id"]) {r : Row} (hr : r ∈ t.rows) {k : Int}
    (hk : r "id" = .integer k) : k ∈ t.rowids :=
  List.mem_map.2 ⟨r, hr, by rw [hk]; rfl⟩

theorem least_unused_not_mem (ids : List Int) : least_unused ids ∉ ids := by
  unfold least_unused
  cases h : ((List.range (ids.length + 1)).map fun i : Nat => (i : Int) + 1).find? (· ∉ ids) with
  | some c => simpa using List.find?_some h
  | none =>
    have hsub : ((List.range (ids.length + 1)).map fun i : Nat => (i : Int) + 1) ⊆ ids :=
      fun c hc => by simpa using List.find?_eq_none.1 h c hc
    have hnd : ((List.range (ids.length + 1)).map fun i : Nat => (i : Int) + 1).Nodup :=
      List.Pairwise.map _ (fun a b hab he => hab (by omega)) (List.nodup_range _)
    have := (List.subperm_of_subset hnd hsub).length_le
    simp only [List.length_map, List.length_range] at this
    omega

/-- **The next rowid is fresh**: no row has it. -/
theorem next_rowid_fresh (t : Table ["id"]) {r : Row} (hr : r ∈ t.rows) :
    r "id" ≠ .integer t.next_rowid := by
  intro hk
  have hmem := mem_rowids t hr hk
  unfold Table.next_rowid at hmem
  split at hmem
  · have := le_last_rowid t hmem; omega
  · exact least_unused_not_mem _ hmem

/-- The row `r` with its `id` cell set to the rowid `n`. -/
def Row.with_rowid (r : Row) (n : Int) : Row := fun c => if c = "id" then .integer n else r c

theorem keyed_insert (t : Table ["id"]) (r : Row) :
    (t.rows ++ [r.with_rowid t.next_rowid]).Pairwise
      fun a b => Row.key_match ["id"] a b = false := by
  refine List.pairwise_append.2 ⟨t.keyed, List.pairwise_singleton _ _, ?_⟩
  intro a ha b hb
  simp only [List.mem_singleton] at hb
  subst hb
  simp only [Row.key_match, Row.with_rowid, List.all_cons, List.all_nil, if_pos, Bool.and_true,
    Bool.eq_false_iff, ne_eq, Value.sql_eq_iff, not_and, not_not]
  exact fun _ => next_rowid_fresh t ha

/-- `INSERT` a row that names no rowid: it gets the next one, which is returned. -/
def Table.insert (t : Table ["id"]) (r : Row) : Table ["id"] × Int :=
  (⟨t.columns, t.rows ++ [r.with_rowid t.next_rowid], keyed_insert t r⟩, t.next_rowid)

@[simp] theorem Table.insert_snd (t : Table ["id"]) (r : Row) : (t.insert r).2 = t.next_rowid :=
  rfl

/-! ## Statements, with their bindings -/

/-- Binding values to a statement with `n` placeholders, in order: a placeholder left
unbound reads NULL, and a value past the last one fails (`SQLITE_RANGE`). -/
def bind_params (n : Nat) (vals : List Value) : Except Error (List Value) :=
  if vals.length ≤ n then .ok (vals ++ List.replicate (n - vals.length) .null)
  else .error (.sqlite "column index out of range")

theorem bind_params_of_length {n : Nat} {vals : List Value} (h : vals.length = n) :
    bind_params n vals = .ok vals := by
  simp [bind_params, h]

/-- The `tuples` rows of a multi-row `VALUES` list of width `w`, from its bound values. -/
def tuples_of (w : Nat) : Nat → List Value → List (List Value)
  | 0, _ => []
  | k + 1, vs => vs.take w :: tuples_of w k (vs.drop w)

/-- The error of a statement whose `VALUES` width is not its column count. -/
def values_mismatch (n m : Nat) : Error :=
  .sqlite (toString n ++ " values for " ++ toString m ++ " columns")

/-- `INSERT INTO t (cols) VALUES (?, …)` with `n` placeholders; returns the new rowid. -/
def Table.insert_into (t : Table ["id"]) (cols : List String) (n : Nat) (vals : List Value) :
    Except Error (Table ["id"] × Int) := do
  if n ≠ cols.length then throw (values_mismatch n cols.length)
  let vs ← bind_params n vals
  pure (t.insert (Row.of_bindings cols vs))

/-- `INSERT OR REPLACE INTO t (cols) VALUES (?, …), …`: `tuples` rows of width `w`, each
replacing what conflicts with it, in order. -/
def Table.insert_or_replace (t : Table pk) (cols : List String) (w tuples : Nat)
    (vals : List Value) : Except Error (Table pk) := do
  if w ≠ cols.length then throw (values_mismatch w cols.length)
  let vs ← bind_params (w * tuples) vals
  pure ((tuples_of w tuples vs).foldl (fun t row => t.replace (Row.of_bindings cols row)) t)

/-- `UPDATE t SET c₁ = ?, …, cₙ = ? WHERE id = ?`: the value bound last is the id. -/
def Table.update_where_id (t : Table ["id"]) (cols : List String) (vals : List Value) :
    Except Error (Table ["id"]) := do
  let vs ← bind_params (cols.length + 1) vals
  t.update (Row.assign cols vs) (fun r => (r "id").sql_eq (vs.getD cols.length .null))

/-! ## Selecting on the key

A `WHERE` clause that fixes every key column selects at most one row, and which row it
selects after a `REPLACE`, an `UPDATE` or a `DELETE` is decided by the key alone. These
are the facts the `get_*` methods rest on. -/

/-- `p` selects on the whole key `pk`: two rows it selects agree on the key, and a row
that agrees on the key with a selected one is selected too. `WHERE id = ?` is one on
`["id"]`, `WHERE id = ? AND type = ?` one on `["id", "type"]`. -/
structure KeySelector (pk : List String) (p : Row → Bool) : Prop where
  match_of_sel : ∀ a b, p a → p b → Row.key_match pk a b
  sel_of_match : ∀ a b, p a → Row.key_match pk a b → p b

/-- `WHERE id = ?`, with a non-NULL id, selects on the key `["id"]`. -/
theorem key_selector_id {v : Value} (hv : v ≠ .null) :
    KeySelector ["id"] fun r => (r "id").sql_eq v where
  match_of_sel a b ha hb := by
    simp only [Value.sql_eq_iff] at ha hb
    simp [Row.key_match, ha.2, hb.2, hv]
  sel_of_match a b ha hab := by
    simp only [Value.sql_eq_iff, Row.key_match, List.all_cons, List.all_nil, Bool.and_true] at *
    exact ⟨hab.2 ▸ ha.1, hab.2 ▸ ha.2⟩

/-- `WHERE id = ? AND type = ?`, with non-NULL values, selects on `["id", "type"]`. -/
theorem key_selector_id_type {v w : Value} (hv : v ≠ .null) (hw : w ≠ .null) :
    KeySelector ["id", "type"] fun r => (r "id").sql_eq v && (r "type").sql_eq w where
  match_of_sel a b ha hb := by
    simp only [Bool.and_eq_true, Value.sql_eq_iff] at ha hb
    simp [Row.key_match, ha.1.2, ha.2.2, hb.1.2, hb.2.2, hv, hw]
  sel_of_match a b ha hab := by
    simp only [Bool.and_eq_true, Value.sql_eq_iff, Row.key_match, List.all_cons, List.all_nil,
      Bool.and_true] at *
    exact ⟨⟨hab.1.2 ▸ ha.1.1, hab.1.2 ▸ ha.1.2⟩,
      ⟨hab.2.2 ▸ ha.2.1, hab.2.2 ▸ ha.2.2⟩⟩

section Selector

variable {p q : Row → Bool} (t : Table pk)

/-- **At most one row.** A `WHERE` on the whole key selects exactly what `find?` finds. -/
theorem filter_eq_find (hp : KeySelector pk p) : t.rows.filter p = (t.rows.find? p).toList := by
  obtain ⟨_, rows, keyed⟩ := t
  induction rows with
  | nil => rfl
  | cons r rs ih =>
    obtain ⟨hr, hrs⟩ := List.pairwise_cons.1 keyed
    by_cases h : p r
    · have : rs.filter p = [] := List.filter_eq_nil_iff.2 fun a ha hpa => by
        simpa [hp.match_of_sel r a h hpa] using hr a ha
      simp [h, this]
    · simp [h, ih hrs]

theorem select_eq_find (hp : KeySelector pk p) (cols : List String) :
    t.select cols p = ((t.rows.find? p).map fun r => cols.map r).toList := by
  rw [Table.select, filter_eq_find t hp]
  cases t.rows.find? p <;> rfl

/-- A `WHERE` on the whole key and a further condition selects the row the key finds, if
it meets the condition. -/
theorem select_and_find (hp : KeySelector pk p) (q : Row → Bool) (cols : List String) :
    t.select cols (fun r => p r && q r) =
      (((t.rows.find? p).filter q).map fun r => cols.map r).toList := by
  have : t.rows.filter (fun r => p r && q r) = (t.rows.filter p).filter q := by
    rw [List.filter_filter]
    exact List.filter_congr fun r _ => Bool.and_comm _ _
  rw [Table.select, this, filter_eq_find t hp]
  cases t.rows.find? p with
  | none => rfl
  | some r => by_cases h : q r <;> simp [h, Option.filter]

/-- A row the key selects is the one it finds. -/
theorem find_of_mem (hp : KeySelector pk p) {r : Row} (hr : r ∈ t.rows) (hpr : p r) :
    t.rows.find? p = some r := by
  have : r ∈ (t.rows.find? p).toList := filter_eq_find t hp ▸ List.mem_filter.2 ⟨hr, hpr⟩
  simpa using this

/-- **Last writer wins, one write.** After a `REPLACE`, the key finds the new row if it has
that key, and what it found before otherwise. -/
theorem find_replace (hp : KeySelector pk p) (r : Row) :
    (t.replace r).rows.find? p = if p r then some r else t.rows.find? p := by
  have hkept : (t.rows.filter fun a => !Row.key_match pk a r).find? p =
      if p r then none else t.rows.find? p := by
    rw [List.find?_filter]
    split
    · refine List.find?_eq_none.2 fun a _ ha => ?_
      simp only [Bool.not_eq_true', decide_eq_true_eq] at ha
      simpa [ha.1] using hp.match_of_sel a r ha.2 ‹_›
    · congr 1
      funext a
      by_cases ha : p a
      · have : Row.key_match pk a r = false :=
          Bool.eq_false_iff.2 fun hm => ‹¬p r = true› (hp.sel_of_match a r ha hm)
        simp [ha, this]
      · simp [ha]
  simp only [Table.replace, List.find?_append, hkept]
  split <;> simp [*]

/-- **Last writer wins.** After a sequence of `REPLACE`s, the key finds the last row written
with that key, or what it found before when none was. -/
theorem find_foldl_replace (hp : KeySelector pk p) (rows : List Row) :
    (rows.foldl Table.replace t).rows.find? p = ((rows.filter p).getLast?).or (t.rows.find? p) := by
  induction rows generalizing t with
  | nil => simp
  | cons r rs ih =>
    rw [List.foldl_cons, ih, find_replace _ hp]
    by_cases h : p r
    · rw [if_pos h, List.filter_cons_of_pos h, List.getLast?_cons]
      cases (rs.filter p).getLast? <;> rfl
    · rw [if_neg h, List.filter_cons_of_neg h]

theorem find_delete_self (hq : ∀ a, p a → q a) : (t.delete q).rows.find? p = none :=
  List.find?_eq_none.2 fun a ha hpa => by simp_all [Table.delete]

theorem find_delete_of_disjoint (hq : ∀ a, p a → q a = false) :
    (t.delete q).rows.find? p = t.rows.find? p := by
  simp only [Table.delete, List.find?_filter]
  congr 1
  funext a
  by_cases ha : p a <;> simp [ha, hq a]

/-- An `UPDATE` that leaves every key column alone succeeds, and maps the rows it selects. -/
theorem update_ok {f : Row → Row} (hf : ∀ r, p r → ∀ c ∈ pk, f r c = r c) :
    ∃ t', t.update f p = .ok t' ∧ t'.columns = t.columns ∧
      t'.rows = t.rows.map fun r => if p r then f r else r := by
  have hkey : ∀ r, ∀ c ∈ pk, (if p r then f r else r) c = r c := fun r c hc => by
    split <;> simp_all
  have hmatch : ∀ a b, Row.key_match pk (if p a then f a else a) (if p b then f b else b) =
      Row.key_match pk a b := fun a b => by
    rw [Bool.eq_iff_iff]
    simp only [Row.key_match, List.all_eq_true]
    constructor <;> intro h c hc <;> simpa [hkey a c hc, hkey b c hc] using h c hc
  have hpw := t.keyed.map (fun r => if p r then f r else r)
    (S := fun a b => Row.key_match pk a b = false) fun a b h => (hmatch a b).trans h
  exact ⟨_, dif_pos hpw, rfl, rfl⟩

end Selector

/-! ## The statements' effect

Each statement shape, with its values bound as the storage code binds them, is the
table operation above; and `WHERE id = ?` after an `INSERT` or an `UPDATE` finds what the
statement wrote. -/

section Statements

variable {cols : List String} {vals : List Value}

theorem insert_into_eq (t : Table ["id"]) {n : Nat} (hn : cols.length = n)
    (hl : vals.length = n) :
    t.insert_into cols n vals = .ok (t.insert (Row.of_bindings cols vals)) := by
  simp [Table.insert_into, hn, bind_params_of_length hl]

/-- An `INSERT OR REPLACE` of `k` rows, with one value bound per placeholder, replaces the
rows in order. -/
theorem insert_or_replace_eq {pk : List String} (t : Table pk) {w k : Nat} (hn : cols.length = w)
    (hl : vals.length = w * k) :
    t.insert_or_replace cols w k vals =
      .ok (((tuples_of w k vals).map (Row.of_bindings cols)).foldl Table.replace t) := by
  simp [Table.insert_or_replace, hn, bind_params_of_length hl, List.foldl_map]

/-- A single-row `INSERT OR REPLACE` is one `REPLACE`. -/
theorem insert_or_replace_one {pk : List String} (t : Table pk) {w : Nat} (hn : cols.length = w)
    (hl : vals.length = w) :
    t.insert_or_replace cols w 1 vals = .ok (t.replace (Row.of_bindings cols vals)) := by
  rw [insert_or_replace_eq t hn (by rw [hl, Nat.mul_one])]
  simp [tuples_of, ← hl]

theorem update_where_id_eq (t : Table ["id"]) (v : Value) (hl : vals.length = cols.length) :
    t.update_where_id cols (vals ++ [v]) =
      t.update (Row.assign cols vals) (fun r => (r "id").sql_eq v) := by
  have hz : cols.zip (vals ++ [v]) = cols.zip vals := by
    simpa using @List.zip_append _ _ cols [] vals [v] hl.symm
  have hv : (vals ++ [v]).getD cols.length .null = v := by
    rw [← hl]; simp
  simp only [Table.update_where_id,
    @bind_params_of_length (cols.length + 1) (vals ++ [v]) (by simp [hl])]
  show t.update (Row.assign cols (vals ++ [v]))
    (fun r => (r "id").sql_eq ((vals ++ [v]).getD cols.length .null)) = _
  have ha : Row.assign cols (vals ++ [v]) = Row.assign cols vals := by
    funext r c; simp only [Row.assign, hz]
  rw [ha, hv]

/-- No row has the next rowid yet. -/
theorem find_next_rowid (t : Table ["id"]) :
    t.rows.find? (fun a => (a "id").sql_eq (.integer t.next_rowid)) = none :=
  List.find?_eq_none.2 fun _ ha h => next_rowid_fresh t ha (Value.sql_eq_iff.1 h).2

/-- `WHERE id = ?` after an `INSERT`: the new row for its rowid, what was there before for
any other id. -/
theorem find_insert (t : Table ["id"]) (r : Row) (i : Int) :
    (t.insert r).1.rows.find? (fun a => (a "id").sql_eq (.integer i)) =
      if i = t.next_rowid then some (r.with_rowid i)
      else t.rows.find? (fun a => (a "id").sql_eq (.integer i)) := by
  simp only [Table.insert, List.find?_append]
  split
  · subst i
    simp [find_next_rowid, Row.with_rowid]
  · simp [Row.with_rowid, Ne.symm ‹_›]

/-- `WHERE id = ?` after an `UPDATE … WHERE id = ?` that leaves the key alone: the
updated row for that id, and what was there before for any other. -/
theorem find_update {p q : Row → Bool} {pk : List String} (t : Table pk) {f : Row → Row}
    (hp : KeySelector pk p) (hq : KeySelector pk q)
    (hf : ∀ r, q r → ∀ c ∈ pk, f r c = r c) :
    (t.rows.map fun r => if q r then f r else r).find? p =
      (t.rows.find? p).map fun r => if q r then f r else r := by
  have hmatch : ∀ r, q r → Row.key_match pk r (f r) ∧ Row.key_match pk (f r) r :=
    fun r hr => by
    have hrr := hq.match_of_sel r r hr hr
    simp only [Row.key_match, List.all_eq_true, Value.sql_eq_iff] at hrr ⊢
    exact ⟨fun c hc => ⟨(hrr c hc).1, (hf r hr c hc).symm⟩,
      fun c hc => ⟨hf r hr c hc ▸ (hrr c hc).1, hf r hr c hc⟩⟩
  have hsame : ∀ r, p (if q r then f r else r) = p r := fun r => by
    split
    · rw [Bool.eq_iff_iff]
      exact ⟨fun h => hp.sel_of_match _ r h (hmatch r ‹_›).2,
        fun h => hp.sel_of_match r _ h (hmatch r ‹_›).1⟩
    · rfl
  rw [List.find?_map]
  congr 1
  exact congrArg (List.find? · t.rows) (funext hsame)

end Statements

/-! ## What the statements keep

No statement changes a table's declared columns, and only an `INSERT` changes the rowids,
adding the next one. -/

section Keeps

@[simp] theorem Table.replace_columns (t : Table pk) (r : Row) :
    (t.replace r).columns = t.columns := rfl

@[simp] theorem Table.delete_columns (t : Table pk) (p : Row → Bool) :
    (t.delete p).columns = t.columns := rfl

@[simp] theorem Table.insert_columns (t : Table ["id"]) (r : Row) :
    (t.insert r).1.columns = t.columns := rfl

@[simp] theorem Table.foldl_replace_columns (t : Table pk) (rows : List Row) :
    (rows.foldl Table.replace t).columns = t.columns := by
  induction rows generalizing t with
  | nil => rfl
  | cons r rs ih => exact ih (t.replace r)

theorem Table.update_columns {t t' : Table pk} {f : Row → Row} {p : Row → Bool}
    (h : t.update f p = .ok t') : t'.columns = t.columns := by
  dsimp only [Table.update] at h
  split at h
  · cases h; rfl
  · cases h

theorem rowids_insert (t : Table ["id"]) (r : Row) :
    (t.insert r).1.rowids = t.rowids ++ [t.next_rowid] := by
  simp [Table.rowids, Table.insert, Row.with_rowid]

/-- The largest of a list with one more element above all the others is that element. -/
theorem max?_getD_append_of_le {l : List Int} {a : Int} (h : ∀ k ∈ l, k ≤ a) :
    (l ++ [a]).max?.getD 0 = a := by
  cases l with
  | nil => rfl
  | cons x xs =>
    rw [List.cons_append, List.max?_cons', Option.getD_some, List.foldl_append, List.foldl_cons,
      List.foldl_nil]
    have := foldl_max_le (h x (List.mem_cons_self _ _)) fun k hk => h k (List.mem_cons_of_mem _ hk)
    omega

/-- Below the limit, an `INSERT` takes the rowid one past the largest, which becomes the
largest. -/
theorem last_rowid_insert (t : Table ["id"]) (r : Row) (h : t.last_rowid < rowid_limit) :
    (t.insert r).1.last_rowid = t.last_rowid + 1 := by
  rw [Table.last_rowid, rowids_insert, Table.next_rowid, if_pos h]
  exact max?_getD_append_of_le fun k hk => by have := le_last_rowid t hk; omega

/-- A statement that keeps every row's `id` keeps the rowids. -/
theorem rowids_of_map {t t' : Table ["id"]} {f : Row → Row} {p : Row → Bool}
    (hf : ∀ r, p r → f r "id" = r "id")
    (h : t'.rows = t.rows.map fun r => if p r then f r else r) : t'.rowids = t.rowids := by
  rw [Table.rowids, h, List.map_map]
  exact List.map_congr_left fun r _ => by by_cases hp : p r <;> simp [hp, hf]

end Keeps

end DjInterop.Sqlite
