import Mathlib.Data.Int.Log
import Mathlib.Data.Rat.Floor
import Mathlib.Data.Nat.Log
import Mathlib.Data.Nat.Sqrt

/-!
C++ doubles with the finite and non-finite values kept apart. A finite value is an exact rational:
the two zeros are one value and arithmetic does not round.
-/

namespace KinovaGen3

inductive Double where
  | finite (value : Rat)
  | inf (negative : Bool)
  | nan
  deriving DecidableEq

namespace Double

instance : Inhabited Double := ⟨finite 0⟩

def isFinite : Double → Bool
  | finite _ => true
  | _ => false

/-- `a < b`: false whenever an operand is NaN. -/
def lt : Double → Double → Bool
  | finite a, finite b => decide (a < b)
  | finite _, inf negative => !negative
  | inf negative, finite _ => negative
  | inf a, inf b => a && !b
  | _, _ => false

def le : Double → Double → Bool
  | finite a, finite b => decide (a ≤ b)
  | finite _, inf negative => !negative
  | inf negative, finite _ => negative
  | inf a, inf b => a || !b
  | _, _ => false

def eq : Double → Double → Bool
  | finite a, finite b => decide (a = b)
  | inf a, inf b => a == b
  | _, _ => false

def add : Double → Double → Double
  | finite a, finite b => finite (a + b)
  | finite _, inf negative => inf negative
  | inf negative, finite _ => inf negative
  | inf a, inf b => if a = b then inf a else nan
  | _, _ => nan

def mul : Double → Double → Double
  | finite a, finite b => finite (a * b)
  | finite a, inf negative => if a = 0 then nan else inf (decide (a < 0) ^^ negative)
  | inf negative, finite a => if a = 0 then nan else inf (decide (a < 0) ^^ negative)
  | inf a, inf b => inf (a ^^ b)
  | _, _ => nan

def abs : Double → Double
  | finite a => finite |a|
  | inf _ => inf false
  | nan => nan

/-- `std::sqrt`, rounded down to sixty binary places. -/
def sqrt : Double → Double
  | finite a => if a < 0 then nan else finite (Nat.sqrt ⌊a * 2 ^ 120⌋₊ / 2 ^ 60)
  | inf negative => if negative then nan else inf false
  | nan => nan

/-- The nearest integer, ties to even, as the default rounding mode prints it. -/
def roundEven (value : Rat) : Int :=
  let low := ⌊value⌋
  let rest := value - low
  if rest < 1 / 2 ∨ (rest = 1 / 2 ∧ low % 2 = 0) then low else low + 1

/-- The value as a `float`: 24 binary digits, the last of them not below `2⁻¹⁴⁹`. -/
def toFloat : Double → Double
  | finite a =>
    if a = 0 then finite 0
    else
      let ulp : Rat := 2 ^ max (Int.log 2 |a| - 23) (-149)
      let rounded := roundEven (a / ulp) * ulp
      if 2 ^ 128 ≤ |rounded| then inf (decide (a < 0)) else finite rounded
  | inf negative => inf negative
  | nan => nan

def fixedPoint (digits places : Nat) : String :=
  let whole := toString (digits / 10 ^ places)
  let part := toString (digits % 10 ^ places)
  if places = 0 then whole
  else whole ++ "." ++ String.ofList (List.replicate (places - part.length) '0') ++ part

def sign (value : Rat) : String := if value < 0 then "-" else ""

/-- `std::to_string`: six decimal places. -/
def toFixed : Double → String
  | finite a => sign a ++ fixedPoint (roundEven (|a| * 10 ^ 6)).natAbs 6
  | inf negative => if negative then "-inf" else "inf"
  | nan => "nan"

def exponent (value : Rat) : Int :=
  if 1 ≤ value then Nat.log 10 ⌊value⌋₊ else -(Nat.clog 10 ⌈value⁻¹⌉₊ : Int)

def trimZeros (text : String) : String :=
  if text.contains '.' then
    let kept := text.toList.reverse.dropWhile (· == '0')
    String.ofList (kept.dropWhile (· == '.')).reverse
  else text

/-- `%g`: six significant digits, in exponent notation outside `10⁻⁴ … 10⁶`. -/
def toGeneral : Double → String
  | finite a =>
    if a = 0 then "0"
    else
      let magnitude := |a|
      let first := exponent magnitude
      let scaled := (roundEven (magnitude * (10 : Rat) ^ (5 - first))).natAbs
      let power := if scaled = 10 ^ 6 then first + 1 else first
      let digits := if scaled = 10 ^ 6 then 10 ^ 5 else scaled
      if -4 ≤ power ∧ power < 6 then
        sign a ++ trimZeros (fixedPoint digits (5 - power).toNat)
      else
        let width := toString power.natAbs
        sign a ++ trimZeros (fixedPoint digits 5) ++ (if power < 0 then "e-" else "e+") ++
          (if width.length < 2 then "0" else "") ++ width
  | inf negative => if negative then "-inf" else "inf"
  | nan => "nan"

theorem eq_sound {a b : Double} (h : a.eq b = true) : a = b := by
  cases a <;> cases b <;> simp_all [eq]

end Double
end KinovaGen3
