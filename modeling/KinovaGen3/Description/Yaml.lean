import KinovaGen3.Core.Double
import KinovaGen3.Library.RaisingSort
import Mathlib.Data.List.DropRight

/-!
The Python objects a YAML document parses to, with what Python's operators do with them. Objects refer
to one another, so the shared and the recursive ones that aliases make are objects like the others.
-/

namespace KinovaGen3

/-- A Python `str`, by its code points. -/
abbrev Str := List UInt32

def Str.of (text : String) : Str := text.toList.map Char.val

namespace Python

inductive Exception where
  | valueError (message : String)
  | typeError
  | overflowError
  | keyError
  deriving DecidableEq

def Exception.isValueError : Exception → Bool
  | valueError _ => true
  | _ => false

/-- The objects that can be keys. A date is given by its day, a time by its microsecond. -/
inductive Scalar where
  | none
  | bool (value : Bool)
  | int (value : Int)
  | float (value : Double)
  | str (value : Str)
  | bytes (value : List UInt8)
  | date (day : Int)
  | datetime (aware : Bool) (microsecond : Int)
  deriving DecidableEq

namespace Scalar

/-- A number's value: a `bool` is an `int`, and an `int` compares with a `float` without rounding. -/
def number? : Scalar → Option Double
  | bool value => some (.finite (if value then 1 else 0))
  | int value => some (.finite value)
  | float value => some value
  | _ => Option.none

/-- `==`. -/
def eq (a b : Scalar) : Bool :=
  match a.number?, b.number? with
  | some x, some y => x.eq y
  | Option.none, Option.none => decide (a = b)
  | _, _ => false

/-- `<`. -/
def less (a b : Scalar) : Except Exception Bool :=
  match a, b with
  | str s, str t => .ok (decide (s < t))
  | bytes s, bytes t => .ok (decide (s < t))
  | date s, date t => .ok (decide (s < t))
  | datetime aware s, datetime aware' t => if aware = aware' then .ok (decide (s < t)) else .error .typeError
  | _, _ =>
    match a.number?, b.number? with
    | some x, some y => .ok (x.lt y)
    | _, _ => .error .typeError

end Scalar

/-- A `dict` in the order of its insertions. -/
structure Dict (ρ : Type) where
  entries : List (Scalar × ρ)
  distinct : (entries.map Prod.fst).Pairwise fun a b => a.eq b = false

inductive Object (ρ : Type) where
  | scalar (value : Scalar)
  | list (items : List ρ)
  | dict (mapping : Dict ρ)
  /-- What the tags `!!set`, `!!omap` and `!!pairs` make. -/
  | set (items : List Scalar)
  | tuple (items : List ρ)

/-- What `yaml.safe_load` returns. -/
structure Document (ρ : Type) where
  object : ρ → Object ρ
  root : ρ

section
variable {ρ : Type}

def Dict.keys (mapping : Dict ρ) : List Scalar := mapping.entries.map Prod.fst

/-- `key in mapping`, for a `str`. -/
def Dict.has (mapping : Dict ρ) (key : Str) : Bool := mapping.keys.any (·.eq (.str key))

/-- `mapping[key]`, for a `str`. -/
def Dict.get (mapping : Dict ρ) (key : Str) : Except Exception ρ :=
  match mapping.entries.find? (·.1.eq (.str key)) with
  | some entry => .ok entry.2
  | none => .error .keyError

end

def sorted (keys : List Scalar) : Except Exception (List Scalar) := RaisingSort.sort Scalar.less keys

/-- From this size on an `int` rounds to more than the largest `float`. -/
@[irreducible] def tooLarge : Nat := 2 ^ 1024 - 2 ^ 970

/-- `math.isfinite`, which converts an `int` to a `float` first. -/
def isfinite : Scalar → Except Exception Bool
  | .float value => .ok value.isFinite
  | .int value => if value.natAbs < tooLarge then .ok true else .error .overflowError
  | .bool _ => .ok true
  | _ => .error .typeError

/-- The code points that `str.isspace` holds of. -/
def isspace (c : UInt32) : Bool :=
  (0x9 ≤ c && c ≤ 0xD) || (0x1C ≤ c && c ≤ 0x20) || c == 0x85 || c == 0xA0 || c == 0x1680 ||
    (0x2000 ≤ c && c ≤ 0x200A) || c == 0x2028 || c == 0x2029 || c == 0x202F || c == 0x205F || c == 0x3000

def strip (s : Str) : Str := (s.dropWhile isspace).rdropWhile isspace

/-! ### What can be compared -/

/-- The classes of keys that `<` works within. `None` is not even less than, or not less than, itself. -/
inductive Kind where
  | number | str | bytes | date | naive | aware
  deriving DecidableEq

def Scalar.kind : Scalar → Option Kind
  | .none => Option.none
  | .bool _ | .int _ | .float _ => some .number
  | .str _ => some .str
  | .bytes _ => some .bytes
  | .date _ => some .date
  | .datetime aware _ => some (if aware then .aware else .naive)

theorem comparable_iff {a b : Scalar} :
    RaisingSort.Comparable Scalar.less a b ↔ ∃ kind, a.kind = some kind ∧ b.kind = some kind := by
  unfold RaisingSort.Comparable
  cases a with
  | datetime aware s =>
    cases b with
    | datetime aware' t => cases aware <;> cases aware' <;> simp [Scalar.less, Scalar.kind, Except.isOk, Except.toBool]
    | _ => cases aware <;> simp [Scalar.less, Scalar.kind, Scalar.number?, Except.isOk, Except.toBool]
  | _ =>
    cases b with
    | datetime aware' t => cases aware' <;> simp [Scalar.less, Scalar.kind, Scalar.number?, Except.isOk, Except.toBool]
    | _ => simp [Scalar.less, Scalar.kind, Scalar.number?, Except.isOk, Except.toBool]

theorem less_classes : RaisingSort.Classes Scalar.less where
  symm a b able := by
    obtain ⟨kind, left, right⟩ := comparable_iff.mp able
    exact comparable_iff.mpr ⟨kind, right, left⟩
  trans a b c able able' := by
    obtain ⟨kind, left, middle⟩ := comparable_iff.mp able
    obtain ⟨kind', middle', right⟩ := comparable_iff.mp able'
    obtain rfl : kind = kind' := Option.some.inj (middle.symm.trans middle')
    exact comparable_iff.mpr ⟨kind, left, right⟩

end Python
end KinovaGen3
