/-!
# Values with their types

The support library hands out a value at a requested type only if that is the value's own type. The
types are integers, truth values, characters, strings, and tuples, options and vectors of types. A
value is a datum together with its type. `Typed.downcast` is the comparison of types, and
`Typed.extract` applies it to the value in an option.
-/

namespace EnumCases

/-- A type. -/
inductive Ty where
  | u8
  | u16
  | u32
  | u64
  | i8
  | i16
  | i32
  | i64
  | bool
  | char
  /-- A string that owns its text. -/
  | string
  /-- A reference to a text that is always there. -/
  | str
  | tuple (slots : List Ty)
  | option (element : Ty)
  | vec (element : Ty)

namespace Ty

mutual

/-- Whether two types are the same. -/
def same : Ty → Ty → Bool
  | .u8, .u8 | .u16, .u16 | .u32, .u32 | .u64, .u64 => true
  | .i8, .i8 | .i16, .i16 | .i32, .i32 | .i64, .i64 => true
  | .bool, .bool | .char, .char | .string, .string | .str, .str => true
  | .tuple a, .tuple b => sameAll a b
  | .option a, .option b => a.same b
  | .vec a, .vec b => a.same b
  | _, _ => false

/-- Whether two lists of types are the same. -/
def sameAll : List Ty → List Ty → Bool
  | [], [] => true
  | a :: as, b :: bs => a.same b && sameAll as bs
  | _, _ => false

end

mutual

theorem eq_of_same : ∀ {a b : Ty}, a.same b = true → a = b
  | .u8, b, h | .u16, b, h | .u32, b, h | .u64, b, h | .i8, b, h | .i16, b, h | .i32, b, h
  | .i64, b, h | .bool, b, h | .char, b, h | .string, b, h | .str, b, h => by
    cases b <;> simp_all [same]
  | .tuple as, b, h => by
    cases b <;> simp_all [same]
    exact eq_of_sameAll h
  | .option a, b, h => by
    cases b <;> simp_all [same]
    exact eq_of_same h
  | .vec a, b, h => by
    cases b <;> simp_all [same]
    exact eq_of_same h

theorem eq_of_sameAll : ∀ {as bs : List Ty}, sameAll as bs = true → as = bs
  | [], bs, h => by cases bs <;> simp_all [sameAll]
  | a :: as, bs, h => by
    cases bs with
    | nil => simp [sameAll] at h
    | cons b bs =>
      simp only [sameAll, Bool.and_eq_true] at h
      rw [eq_of_same h.1, eq_of_sameAll h.2]

end

mutual

theorem same_self : ∀ a : Ty, a.same a = true
  | .u8 | .u16 | .u32 | .u64 | .i8 | .i16 | .i32 | .i64 | .bool | .char | .string | .str => rfl
  | .tuple as => by simpa [same] using sameAll_self as
  | .option a => by simpa [same] using same_self a
  | .vec a => by simpa [same] using same_self a

theorem sameAll_self : ∀ as : List Ty, sameAll as as = true
  | [] => rfl
  | a :: as => by simp [sameAll, same_self a, sameAll_self as]

end

instance : DecidableEq Ty := fun a b =>
  decidable_of_iff (a.same b = true) ⟨eq_of_same, fun h => h ▸ same_self a⟩

end Ty

/-- A datum: what a value is apart from its type. -/
inductive Datum where
  | integer (n : Int)
  | boolean (b : Bool)
  /-- A character or a string. -/
  | text (s : String)
  | tuple (slots : List Datum)
  /-- An option without a value. -/
  | absent
  /-- An option with a value. -/
  | present (value : Datum)
  | vector (elements : List Datum)

/-- A value: a datum and its type. -/
structure Typed where
  /-- The type. -/
  type : Ty
  /-- The datum. -/
  datum : Datum

/-- The datum of a value, if the value is of the requested type. -/
def Typed.downcast (target : Ty) (v : Typed) : Option Datum :=
  if v.type = target then some v.datum else none

/-- The value as an option that is there. -/
def Typed.wrap (v : Typed) : Typed := ⟨.option v.type, .present v.datum⟩

/-- What an option holds. -/
def Datum.take : Datum → Option Datum
  | .present value => some value
  | _ => none

/-- The datum of a value at a requested type. The value is put into an option, the option is
downcast to one of the requested type, and what it holds is taken out. -/
def Typed.extract (target : Ty) (v : Typed) : Option Datum :=
  (v.wrap.downcast (.option target)).bind Datum.take

/-- A value is handed out at its own type and at no other. -/
theorem Typed.extract_eq_downcast (target : Ty) (v : Typed) :
    v.extract target = v.downcast target := by
  unfold extract downcast wrap
  by_cases h : v.type = target
  · simp [h, Datum.take]
  · simp [h]

/-- The tuple of values. -/
def Typed.tuple (vs : List Typed) : Typed := ⟨.tuple (vs.map (·.type)), .tuple (vs.map (·.datum))⟩

end EnumCases
