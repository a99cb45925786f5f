/-
**Schema versions**, and the order the storage code dispatches on.

Every versioned method of `el_storage.cpp` is a chain
`if (version >= version_1_18_0_fw) … else if (version >= version_1_15_0) …`, so all a
proof needs of a version is where it falls against the few named ones. The order is
lexicographic on (major, minor, patch) and ignores the variant tag, which is what lets
`version_1_18_0_fw` and `version_1_18_0_ep` take the same branches.

The declaration of `semantic_version` and of the named versions is not in the
repository's sources; they are modelled from the spec (§ 3, "Semantic version").
-/
import Mathlib.Logic.Basic

set_option autoImplicit false

namespace DjInterop

/-- Modelled from the spec: `semantic_version`, whose declaration is not present. An
ordered (major, minor, patch) triple, with a tag telling apart the two variants of
1.18.0 (§ 3: "firmware-style `_fw` and desktop-style `_ep`"). -/
structure semantic_version where
  maj : Int
  min : Int
  pat : Int
  variant : Option String := none
deriving DecidableEq, Repr

namespace semantic_version

/-- `a < b`: lexicographic on (major, minor, patch); the variant tag takes no part. -/
protected def lt (a b : semantic_version) : Prop :=
  a.maj < b.maj ∨ a.maj = b.maj ∧ (a.min < b.min ∨ a.min = b.min ∧ a.pat < b.pat)

instance : LT semantic_version := ⟨semantic_version.lt⟩

/-- `a >= b` is `!(a < b)`. -/
instance : LE semantic_version := ⟨fun a b => ¬ b < a⟩

instance (a b : semantic_version) : Decidable (a < b) :=
  inferInstanceAs (Decidable (a.maj < b.maj ∨ a.maj = b.maj ∧
    (a.min < b.min ∨ a.min = b.min ∧ a.pat < b.pat)))

instance (a b : semantic_version) : Decidable (a ≤ b) := inferInstanceAs (Decidable (¬ b < a))

theorem le_iff (a b : semantic_version) :
    a ≤ b ↔
      ¬ (b.maj < a.maj ∨ b.maj = a.maj ∧ (b.min < a.min ∨ b.min = a.min ∧ b.pat < a.pat)) :=
  Iff.rfl

end semantic_version

/-- Modelled from the spec: the named versions the storage code compares against. -/
def version_1_7_1 : semantic_version := ⟨1, 7, 1, none⟩
def version_1_11_1 : semantic_version := ⟨1, 11, 1, none⟩
def version_1_15_0 : semantic_version := ⟨1, 15, 0, none⟩
def version_1_18_0_fw : semantic_version := ⟨1, 18, 0, some "fw"⟩
def version_1_18_0_ep : semantic_version := ⟨1, 18, 0, some "ep"⟩

/-- The named versions are ordered as their numbers: a version past a later one is past
every earlier one. These are the steps that make the branches of a dispatch chain
nested, which every versioned proof uses. -/
theorem version_ge_chain (v : semantic_version) :
    (v ≥ version_1_18_0_fw → v ≥ version_1_15_0) ∧
      (v ≥ version_1_15_0 → v ≥ version_1_11_1) ∧
      (v ≥ version_1_11_1 → v ≥ version_1_7_1) := by
  simp only [GE.ge, semantic_version.le_iff, version_1_18_0_fw, version_1_15_0, version_1_11_1,
    version_1_7_1]
  omega

end DjInterop
