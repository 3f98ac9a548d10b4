import Mathlib.Data.List.Basic
import PatternAudit.Json.Parser

/-! Whole numbers are read as they were written: in digits without a needless zero in front, and
without a fraction or an exponent.
-/

namespace PatternAudit.Json

/-- What follows does not continue a number. -/
def EndsNumber (rest : List Char) : Prop :=
  ∀ char ∈ rest.head?, char.isDigit = false ∧ char ≠ '.' ∧ char ≠ 'e' ∧ char ≠ 'E'

section Ending

variable {rest : List Char} (ends : EndsNumber rest)

include ends

/-- The digits at the front are those before the end of the number. -/
theorem digits_append {front : List Char} (allDigits : ∀ char ∈ front, char.isDigit)
    : digits (front ++ rest) = (front, rest) := by
  have none : rest.takeWhile Char.isDigit = [] ∧ rest.dropWhile Char.isDigit = rest := by
    cases rest with
    | nil => exact ⟨rfl, rfl⟩
    | cons char rest => simp [(ends char rfl).1]
  rw [digits, List.takeWhile_append_of_pos allDigits, List.dropWhile_append_of_pos allDigits,
    none.1, none.2, List.append_nil]

/-- There is no fraction. -/
theorem fraction?_of_ends : fraction? rest = some ([], rest) := by
  rw [fraction?]
  rintro after rfl
  exact (ends '.' rfl).2.1 rfl

/-- There is no exponent. -/
theorem exponent?_of_ends : exponent? rest = some ([], rest) := by
  cases rest with
  | nil => rfl
  | cons char rest =>
      obtain ⟨-, -, small, capital⟩ := ends char rfl
      simp [exponent?, small, capital]

end Ending

/-- The digits of a number are digits. -/
theorem isDigit_toDigits (value : Nat) : ∀ char ∈ Nat.toDigits 10 value, char.isDigit :=
  fun _ member => Nat.isDigit_of_mem_toDigits (by decide) (by decide) member

/-- The digits of a number other than zero do not begin with zero. -/
theorem head?_toDigits {value : Nat} (positive : 0 < value)
    : (Nat.toDigits 10 value).head? ≠ some '0' := by
  induction value using Nat.strongRecOn with
  | ind value ih =>
      by_cases small : value < 10
      · rw [Nat.toDigits_of_lt_base small, List.head?_singleton, Ne, Option.some_inj,
          Nat.digitChar_eq_zero]
        exact Nat.ne_of_gt positive
      · have higher := ih (value / 10) (by omega) (by omega)
        rw [Nat.toDigits_of_base_le (by decide) (by omega),
          List.head?_append_of_ne_nil _ Nat.toDigits_ne_nil]
        exact higher

/-- The whole part of a whole number is all of it. -/
theorem whole?_toDigits (value : Nat) {rest : List Char} (ends : EndsNumber rest)
    : whole? (Nat.toDigits 10 value ++ rest) = some (Nat.toDigits 10 value, rest) := by
  rw [whole?, digits_append ends (isDigit_toDigits value)]
  rcases value.eq_zero_or_pos with rfl | positive
  · rfl
  · have notZero := head?_toDigits positive
    split
    · next none => exact absurd (congrArg Prod.fst none) Nat.toDigits_ne_nil
    · next zero =>
        rw [(Prod.mk.inj zero).1] at notZero
        exact absurd rfl notZero
    · next same => rw [same]

/-- A whole number is read as it was written. -/
theorem number?_toDigits (value : Nat) {rest : List Char} (ends : EndsNumber rest)
    : number? (Nat.toDigits 10 value ++ rest) = some (.ofNat value, rest) := by
  have unsigned : ((Nat.toDigits 10 value ++ rest).take 1).filter (· == '-') = [] := by
    obtain ⟨first, more, shape⟩ :=
      List.exists_cons_of_ne_nil (Nat.toDigits_ne_nil : Nat.toDigits 10 value ≠ [])
    have isDigit := isDigit_toDigits value first (by simp [shape])
    have notSign : first ≠ '-' := by
      rintro rfl
      cases isDigit
    simp [shape, notSign]
  simp only [number?, unsigned, List.length_nil, List.drop_zero, whole?_toDigits value ends,
    Option.bind_eq_bind, Option.bind_some, fraction?_of_ends ends, exponent?_of_ends ends,
    List.nil_append, List.append_nil, Option.pure_def, ofNat, Nat.toString_eq_ofList_toDigits]

/-- Digits denote the number that they were written for. -/
theorem decimal_toDigits (value : Nat) : decimal (Nat.toDigits 10 value) = value := by
  have same := Nat.ofDigitChars_ten_toDigits (n := value)
  rw [Nat.ofDigitChars_eq_foldl] at same
  simpa only [decimal, Nat.mul_comm] using same

/-- A whole number up to the limit is understood as itself. -/
theorem natUpTo?_ofNat {limit value : Nat} (within : value ≤ limit)
    : natUpTo? limit (.ofNat value) = some value := by
  have allDigits : (Nat.toDigits 10 value).any (!·.isDigit) = false := by
    simpa using isDigit_toDigits value
  simp [natUpTo?, ofNat, decimal_toDigits, allDigits, within]

end PatternAudit.Json
