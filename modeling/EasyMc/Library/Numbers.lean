import Mathlib.Algebra.Ring.Int.Defs
import EasyMc.Library.Values

/-!
# JavaScript's numbers, as far as they are compared

A number is read off its text as a mantissa and a power of ten.  `Json.toNumber` is what an operator such as `>` makes
of any value, and `exceeds` and `isBelow` compare a number with a whole one.
-/

inductive JsNumber
  | nan
  | infinite (negative : Bool)
  | finite (mantissa : Int) (exponent : Int)
  deriving DecidableEq, Repr

namespace JsNumber

/-- A whole number. -/
def ofInt (n : Int) : JsNumber :=
  .finite n 0

def digitValue (c : Char) : Nat :=
  if c.isDigit then c.toNat - '0'.toNat else c.toLower.toNat - 'a'.toNat + 10

/-- A digit of a system of numbers, in any letter case. -/
def isDigitOf (radix : Nat) (c : Char) : Bool :=
  (c.isDigit || ('a' ≤ c.toLower && c.toLower ≤ 'f')) && digitValue c < radix

def natValue (radix : Nat) (digits : List Char) : Nat :=
  digits.foldl (fun value digit => radix * value + digitValue digit) 0

def ofDigits (radix : Nat) (digits : List Char) : JsNumber :=
  if !digits.isEmpty && digits.all (isDigitOf radix) then .finite (natValue radix digits) 0 else .nan

/-- What follows the digits of a decimal number: nothing, or an exponent. -/
def readExponent : List Char → Option Int
  | [] => some 0
  | e :: text =>
    let digits := match text with
      | '+' :: digits => digits
      | '-' :: digits => digits
      | digits => digits
    if (e = 'e' || e = 'E') && !digits.isEmpty && digits.all Char.isDigit then
      some (if text.head? = some '-' then -(natValue 10 digits : Int) else natValue 10 digits)
    else none

/-- A decimal number without a sign: its digits as one number, and its power of ten. -/
def readDecimal (text : List Char) : Option (Nat × Int) :=
  let whole := text.takeWhile Char.isDigit
  let rest := text.dropWhile Char.isDigit
  let fraction := match rest with
    | '.' :: rest => rest.takeWhile Char.isDigit
    | _ => []
  let rest := match rest with
    | '.' :: rest => rest.dropWhile Char.isDigit
    | rest => rest
  if whole.isEmpty && fraction.isEmpty then none
  else (readExponent rest).map fun exponent => (natValue 10 (whole ++ fraction), exponent - fraction.length)

def ofUnsigned (negative : Bool) (text : List Char) : JsNumber :=
  if text = "Infinity".toList then .infinite negative
  else
    match readDecimal text with
    | some (mantissa, exponent) => .finite (if negative then -(mantissa : Int) else mantissa) exponent
    | none => .nan

/-- `Number(text)`. -/
def ofText (text : String) : JsNumber :=
  match Text.trim text.toList with
  -- A text without digits is zero; only decimal numbers have a sign.
  | [] => .finite 0 0
  | '0' :: 'x' :: digits => ofDigits 16 digits
  | '0' :: 'X' :: digits => ofDigits 16 digits
  | '0' :: 'o' :: digits => ofDigits 8 digits
  | '0' :: 'O' :: digits => ofDigits 8 digits
  | '0' :: 'b' :: digits => ofDigits 2 digits
  | '0' :: 'B' :: digits => ofDigits 2 digits
  | '-' :: text => ofUnsigned true text
  | '+' :: text => ofUnsigned false text
  | text => ofUnsigned false text

/-- `Number.isFinite`. -/
def isFinite : JsNumber → Bool
  | .finite _ _ => true
  | _ => false

/-- `number > bound`. -/
def exceeds (bound : Int) : JsNumber → Bool
  | .nan => false
  | .infinite negative => !negative
  | .finite mantissa exponent => bound * 10 ^ (-exponent).toNat < mantissa * 10 ^ exponent.toNat

/-- `number < bound`. -/
def isBelow (bound : Int) : JsNumber → Bool
  | .nan => false
  | .infinite negative => negative
  | .finite mantissa exponent => mantissa * 10 ^ exponent.toNat < bound * 10 ^ (-exponent).toNat

/-- `number >= bound`. -/
def atLeast (bound : Int) : JsNumber → Bool
  | .nan => false
  | number => !number.isBelow bound

/-- `Math.max(bound, number)`. -/
def max (bound : Int) : JsNumber → JsNumber
  | .nan => .nan
  | number => if number.exceeds bound then number else ofInt bound

/-- `Math.floor` of a finite number. -/
def floor (mantissa exponent : Int) : Int :=
  mantissa * 10 ^ exponent.toNat / 10 ^ (-exponent).toNat

theorem atLeast_finite (bound mantissa exponent : Int) :
    (finite mantissa exponent).atLeast bound = true ↔ bound ≤ floor mantissa exponent := by
  have hpos : (0 : Int) < 10 ^ (-exponent).toNat := Int.pow_pos (by decide)
  rw [floor, Int.le_ediv_iff_mul_le hpos]
  simp [atLeast, isBelow]

/-- A number that is at least a bound is at least every smaller one. -/
theorem atLeast_of_le {number : JsNumber} {bound bound' : Int} (h : number.atLeast bound = true)
    (hle : bound' ≤ bound) : number.atLeast bound' = true := by
  cases number with
  | nan => cases h
  | infinite negative => exact h
  | finite mantissa exponent => exact (atLeast_finite _ _ _).2 (Int.le_trans hle ((atLeast_finite _ _ _).1 h))

/-- The larger one of a bound and a number is at least the bound, unless it is not a number. -/
theorem atLeast_max (bound : Int) (number : JsNumber) :
    number.max bound = .nan ∨ (number.max bound).atLeast bound = true := by
  cases number with
  | nan => exact .inl rfl
  | infinite negative => cases negative <;> simp [max, exceeds, ofInt, atLeast, isBelow]
  | finite mantissa exponent =>
    have hmax : (finite mantissa exponent).max bound =
        if (finite mantissa exponent).exceeds bound then finite mantissa exponent else ofInt bound := rfl
    rw [hmax]
    split
    · rename_i hexceeds
      simp only [exceeds, decide_eq_true_eq] at hexceeds
      simp only [atLeast, isBelow, Bool.not_eq_true', decide_eq_false_iff_not]
      exact .inr (by omega)
    · simp [ofInt, atLeast, isBelow]

end JsNumber

namespace Json

open Throwing (JsError)

/-- `Number(value)`. -/
def toNumber : Json → Except JsError JsNumber
  | .null => .ok (.finite 0 0)
  | .bool value => .ok (.finite (if value then 1 else 0) 0)
  | value => do
    let text ← value.toText
    .ok (.ofText text)

end Json
