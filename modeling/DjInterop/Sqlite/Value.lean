/-
The **cells** the storage code exchanges with SQLite, and the **exceptions** it raises.

`el_storage.cpp` talks to SQLite through sqlite_modern_cpp: `db << sql << a << b` binds
C++ values to the statement's `?` placeholders in order, and `>> [&](T₁ x₁, …)` reads
each result column into the type of the callback's parameter. Neither library is part
of this repository, so what is modelled of them is what the storage code can observe:

* a cell holds one of SQLite's five storage classes (`Value`);
* binding a C++ value stores it in one class, reading a cell into a C++ type converts
  it, and `stdx::optional<T>` maps `nullopt` to NULL and back (`Column`);
* `a = b` in a `WHERE` clause holds only when neither side is NULL (`Value.sql_eq`).

SQLite converts between storage classes when a cell is read as another type than the
one it holds. The model reads such a cell as NULL would be read instead. That is the one
place where it is coarser than the engine, and it is never reached: `get_bind` is the
fact every storage proof uses, and it says a cell is read back as the type it was bound
from.

A `double` is the exception. `sqlite3_bind_double` binds a NaN as NULL, and a column of
REAL affinity stores a double with no fractional part as an integer, so `-0.0` comes back
as `+0.0`. What the column keeps of a bound double is `Double.stored`, and `double` is
not a `LawfulColumn`.
-/
import Mathlib.Logic.Basic

set_option autoImplicit false

namespace DjInterop

/-- A C++ `double`, kept as the eight bytes of its IEEE-754 encoding. The storage code
binds doubles and reads them back but never computes with one, so the encoding is all
there is to model, and it has decidable equality where `Float` has none. -/
structure Double where
  bits : UInt64
deriving DecidableEq, Repr

namespace Double

/-- A NaN: every exponent bit set and a nonzero fraction, so the encoding without its sign
bit lies above that of infinity. -/
def is_nan (d : Double) : Bool := 0x7FF0000000000000 < d.bits &&& 0x7FFFFFFFFFFFFFFF

/-- `-0.0`: only the sign bit set. -/
def neg_zero : Double := ⟨0x8000000000000000⟩

/-- What a REAL column holds after a double is bound to it: nothing for a NaN, which
`sqlite3_bind_double` binds as NULL, and `+0.0` for `-0.0`, which REAL affinity stores as
the integer 0. Every other double is kept as it is. -/
def stored (d : Double) : Option Double :=
  if d.is_nan then none else if d = neg_zero then some ⟨0⟩ else some d

example : stored ⟨0x7FF8000000000000⟩ = none := by decide
example : stored ⟨0x405E000000000000⟩ = some ⟨0x405E000000000000⟩ := by decide

end Double

/-- The bytes of a BLOB cell, and of the `std::vector<char>` the codecs produce. -/
abbrev Blob := List UInt8

namespace Sqlite

/-- A cell: one of SQLite's storage classes. -/
inductive Value where
  | null
  | integer (v : Int)
  | real (v : Double)
  | text (v : String)
  | blob (v : Blob)
deriving DecidableEq, Repr

/-- `a = b` in a `WHERE` clause. A comparison with NULL is NULL, which selects nothing.
Values of two storage classes compare unequal (SQLite would compare an INTEGER with a
REAL numerically; no key column the storage code writes holds a REAL). -/
def Value.sql_eq : Value → Value → Bool
  | .null, _ => false
  | a, b => a == b

@[simp] theorem Value.sql_eq_iff {a b : Value} : a.sql_eq b = true ↔ a ≠ .null ∧ a = b := by
  cases a <;> simp [sql_eq]

@[simp] theorem Value.sql_eq_integer (a b : Int) :
    (Value.integer a).sql_eq (.integer b) = decide (a = b) := by
  rw [Bool.eq_iff_iff, sql_eq_iff]
  simp

theorem Value.sql_eq_comm (a b : Value) : a.sql_eq b = b.sql_eq a := by
  rw [Bool.eq_iff_iff, sql_eq_iff, sql_eq_iff]
  constructor <;> rintro ⟨h, rfl⟩ <;> exact ⟨h, rfl⟩

/-- A C++ type sqlite_modern_cpp can bind with `<<` and read into a callback parameter. -/
class Column (α : Type) where
  bind_col : α → Value
  get_col : Value → α

/-- `int64_t`: `sqlite3_bind_int64` and `sqlite3_column_int64`, where NULL reads as 0. -/
instance : Column Int where
  bind_col := .integer
  get_col | .integer v => v | _ => 0

/-- `std::string` and `const char*`: TEXT, where NULL reads as the empty string. -/
instance : Column String where
  bind_col := .text
  get_col | .text s => s | _ => ""

/-- `double`: REAL, of which the cell keeps `Double.stored` (a NaN binds NULL), and where
NULL reads as `0.0`, whose encoding is all zero bits. -/
instance : Column Double where
  bind_col d := match d.stored with
    | some e => .real e
    | none => .null
  get_col | .real d => d | _ => ⟨0⟩

/-- `std::vector<char>`: BLOB, where NULL reads as the empty vector. -/
instance : Column Blob where
  bind_col := .blob
  get_col | .blob b => b | _ => []

/-- `stdx::optional<T>`: `nullopt` binds NULL, and a NULL cell reads as `nullopt`. -/
instance {α : Type} [Column α] : Column (Option α) where
  bind_col | none => .null | some a => Column.bind_col a
  get_col | .null => none | v => some (Column.get_col v)

/-- Binding an `int64_t` stores an INTEGER. -/
@[simp] theorem Column.bind_col_int (i : Int) : Column.bind_col i = Value.integer i := rfl

@[simp] theorem Column.get_col_integer (i : Int) : (Column.get_col (Value.integer i) : Int) = i :=
  rfl

/-- A column type whose values survive a round trip through a cell and never bind
NULL: the C++ types the storage code binds, but for `double`. -/
class LawfulColumn (α : Type) [Column α] : Prop where
  get_bind (a : α) : Column.get_col (Column.bind_col a) = a
  bind_ne_null (a : α) : Column.bind_col a ≠ .null

instance : LawfulColumn Int := ⟨fun _ => rfl, fun _ => Value.noConfusion⟩
instance : LawfulColumn String := ⟨fun _ => rfl, fun _ => Value.noConfusion⟩
instance : LawfulColumn Blob := ⟨fun _ => rfl, fun _ => Value.noConfusion⟩

section Lawful

variable {α : Type} [Column α] [LawfulColumn α]

@[simp] theorem Column.get_bind (a : α) : Column.get_col (Column.bind_col a) = a :=
  LawfulColumn.get_bind a

@[simp] theorem Column.bind_ne_null (a : α) : Column.bind_col a ≠ .null :=
  LawfulColumn.bind_ne_null a

/-- An optional value also survives the round trip: `nullopt` as NULL, a value as itself. -/
@[simp] theorem Column.get_bind_option (o : Option α) :
    (Column.get_col (Column.bind_col o) : Option α) = o := by
  cases o with
  | none => rfl
  | some a =>
    show (match Column.bind_col a with | .null => none | v => some (Column.get_col v)) = some a
    split
    · exact absurd ‹_› (Column.bind_ne_null a)
    · simp

end Lawful

/-- An optional double reads back what the column keeps of it. -/
@[simp] theorem Column.get_bind_option_double (o : Option Double) :
    (Column.get_col (Column.bind_col o) : Option Double) = o.bind Double.stored := by
  cases o with
  | none => rfl
  | some d =>
    show (match Column.bind_col d with | .null => none | v => some (Column.get_col v)) = d.stored
    cases h : d.stored <;> simp only [Column.bind_col, h]
    rfl

end Sqlite

/-- The exceptions the storage code raises or lets through: the three of
`djinterop/exceptions.hpp` it throws itself, and a failure of SQLite or of
sqlite_modern_cpp, with its message. -/
inductive Error where
  | database_inconsistency (what : String)
  | track_deleted (id : Int)
  | track_database_inconsistency (what : String) (id : Int)
  | sqlite (what : String)
deriving DecidableEq, Repr

/-- `throw` in the storage code's monad is an error result. -/
@[simp] theorem throw_eq_error {α : Type} (e : Error) : (throw e : Except Error α) = .error e :=
  rfl

/-- `pure` in the storage code's monad is an ok result. -/
@[simp] theorem pure_eq_ok {α : Type} (a : α) : (pure a : Except Error α) = .ok a := rfl

@[simp] theorem ok_bind {α β : Type} (a : α) (f : α → Except Error β) :
    (Except.ok a >>= f) = f a :=
  rfl

@[simp] theorem error_bind {α β : Type} (e : Error) (f : α → Except Error β) :
    (Except.error e >>= f) = .error e :=
  rfl

end DjInterop
