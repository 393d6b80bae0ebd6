import EasyMc.Library.Numbers
import EasyMc.Library.Values

/-!
# Reading JSON values that need not be there

`read` is `value.key`, which throws if the value is `undefined` or `null`, and `listOf` is the array that a method such
as `map` needs.  `anyThrows` and `findThrows` are `some` and `find` with a test that may throw: both stop at the first
value that passes.  `firstFailure` runs checks one after the other, up to the first that fails or throws.
-/

namespace Json

open Throwing (JsError bind_eq_ok)

/-- `value.key`. -/
def read (key : String) : Option Json → Except JsError (Option Json)
  | none => .error .typeError
  | some .null => .error .typeError
  | some value => .ok (value.member key)

/-- The entries of `value ?? []`, for a method that only an array has. -/
def listOf (value : Option Json) : Except JsError (List Json) :=
  match present value with
  | none => .ok []
  | some (.arr values) => .ok values
  | some _ => .error .typeError

/-- `values.some(test)`. -/
def anyThrows (test : Json → Except JsError Bool) : List Json → Except JsError Bool
  | [] => .ok false
  | value :: values => do
    let found ← test value
    if found then .ok true else anyThrows test values

/-- `values.find(test)`. -/
def findThrows (test : Json → Except JsError Bool) : List Json → Except JsError (Option Json)
  | [] => .ok none
  | value :: values => do
    let found ← test value
    if found then .ok (some value) else findThrows test values

/-- The result of the first check that has one. -/
def firstFailure {ρ : Type} : List (Except JsError (Option ρ)) → Except JsError (Option ρ)
  | [] => .ok none
  | check :: checks => do
    match ← check with
    | some failure => .ok (some failure)
    | none => firstFailure checks

theorem read_eq_ok {key : String} {value found : Option Json} (h : read key value = .ok found) :
    found = get key value := by
  unfold read at h
  split at h
  · cases h
  · cases h
  · exact (Except.ok.inj h).symm

theorem anyThrows_eq_false {test : Json → Except JsError Bool} {values : List Json} :
    anyThrows test values = .ok false ↔ ∀ value ∈ values, test value = .ok false := by
  induction values with
  | nil => simp [anyThrows]
  | cons value values ih =>
    rw [anyThrows, bind_eq_ok, List.forall_mem_cons, ← ih]
    constructor
    · rintro ⟨found, hfound, h⟩
      cases found with
      | true => cases h
      | false => exact ⟨hfound, h⟩
    · rintro ⟨hfound, h⟩
      exact ⟨false, hfound, h⟩

theorem firstFailure_eq_none {ρ : Type} {checks : List (Except JsError (Option ρ))} :
    firstFailure checks = .ok none ↔ ∀ check ∈ checks, check = .ok none := by
  induction checks with
  | nil => simp [firstFailure]
  | cons check checks ih =>
    rw [firstFailure, bind_eq_ok, List.forall_mem_cons, ← ih]
    constructor
    · rintro ⟨failure, hfailure, h⟩
      cases failure with
      | some failure => cases h
      | none => exact ⟨hfailure, h⟩
    · rintro ⟨hfailure, h⟩
      exact ⟨none, hfailure, h⟩

/-- What is in a set has been put there. -/
theorem IdSet.mem_of_mem_ofList {ids : List (Option Json)} {id : Option Json} (h : id ∈ IdSet.ofList ids) : id ∈ ids := by
  suffices ∀ (ids : List (Option Json)) (start : IdSet), id ∈ ids.foldl IdSet.add start → id ∈ start ∨ id ∈ ids by
    simpa using this ids [] h
  intro ids
  induction ids with
  | nil => exact fun start h => .inl h
  | cons first ids ih =>
    intro start h
    rcases ih _ h with h | h
    · unfold IdSet.add at h
      split_ifs at h
      · exact .inl h
      · rw [List.mem_append, List.mem_singleton] at h
        rcases h with h | rfl
        · exact .inl h
        · exact .inr List.mem_cons_self
    · exact .inr (List.mem_cons_of_mem _ h)

/-- A path into an object literal whose keys are distinct. -/
theorem path_object {fields : List (String × Option Json)} (hkeys : (fields.map Prod.fst).Nodup) (key : String)
    (keys : List String) : (object fields).path (key :: keys) = (fields.lookup key).join.bind fun value => value.path keys := by
  rw [path, member_object hkeys]

end Json

namespace JsNumber

/-- `number < number'`. -/
def lt : JsNumber → JsNumber → Bool
  | .nan, _ => false
  | _, .nan => false
  | .infinite negative, .infinite negative' => negative && !negative'
  | .infinite negative, .finite _ _ => negative
  | .finite _ _, .infinite negative => !negative
  | .finite mantissa exponent, .finite mantissa' exponent' =>
    mantissa * 10 ^ (exponent - min exponent exponent').toNat < mantissa' * 10 ^ (exponent' - min exponent exponent').toNat

/-- The whole number that the number is. -/
def toWhole : JsNumber → Option Int
  | .finite mantissa exponent =>
    if 0 ≤ exponent then some (mantissa * 10 ^ exponent.toNat)
    else if mantissa % 10 ^ (-exponent).toNat = 0 then some (mantissa / 10 ^ (-exponent).toNat)
    else none
  | _ => none

end JsNumber
