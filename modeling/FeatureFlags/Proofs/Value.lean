import FeatureFlags.Value
import Mathlib.Data.Nat.Basic

namespace FeatureFlags

def IsDecimal (digits : List Char) : Prop := digits ≠ [] ∧ ∀ c ∈ digits, c.isDigit = true

theorem le_ofDigitChars (digits : List Char) (value : Nat) : value ≤ Nat.ofDigitChars 10 digits value := by
  induction digits generalizing value with
  | nil => exact Nat.le_refl value
  | cons c rest ih =>
    rw [Nat.ofDigitChars_cons]
    have later := ih (10 * value + (c.toNat - '0'.toNat))
    omega

namespace IntegerType

/-- What a text says as an integer: an optional sign before decimal digits. A minus needs a type with a
    sign, even before a zero. -/
inductive Denotes (type : IntegerType) : List Char → Int → Prop where
  | unsigned {digits : List Char} (decimal : IsDecimal digits) :
    Denotes type digits (Nat.ofDigitChars 10 digits 0)
  | plus {digits : List Char} (decimal : IsDecimal digits) :
    Denotes type ('+' :: digits) (Nat.ofDigitChars 10 digits 0)
  | minus {digits : List Char} (signed : type.signed = true) (decimal : IsDecimal digits) :
    Denotes type ('-' :: digits) (-(Nat.ofDigitChars 10 digits 0 : Int))

variable {type : IntegerType}

theorem least_nonpos (type : IntegerType) : type.least ≤ 0 := by
  unfold least
  split <;> omega

theorem greatest_nonneg (type : IntegerType) : 0 ≤ type.greatest := by
  have positive : 0 < type.magnitude := Nat.pow_pos (by decide)
  unfold greatest
  omega

def withSign (negative : Bool) (value : Nat) : Int := if negative then -(value : Int) else value

theorem withSign_next (negative : Bool) (value digit : Nat) :
    (if negative then withSign negative value * 10 - digit else withSign negative value * 10 + digit) =
      withSign negative (10 * value + digit) := by
  cases negative <;> simp only [withSign, Bool.false_eq_true, ↓reduceIte] <;> omega

/-- Digits only lead away from zero, so a number that has left the bounds does not come back. -/
theorem withSign_bounds {negative : Bool} {value next : Nat} (grows : value ≤ next)
    (low : type.least ≤ withSign negative next) (high : withSign negative next ≤ type.greatest) :
    type.least ≤ withSign negative value ∧ withSign negative value ≤ type.greatest := by
  have below := type.least_nonpos
  have above := type.greatest_nonneg
  cases negative <;> simp only [withSign, Bool.false_eq_true, ↓reduceIte] at low high ⊢ <;> omega

theorem readDigits_eq_ok_iff (negative : Bool) {value : Nat} {digits : List Char} {result : Int}
    (low : type.least ≤ withSign negative value) (high : withSign negative value ≤ type.greatest) :
    type.readDigits negative (withSign negative value) digits = .ok result ↔
      (∀ c ∈ digits, c.isDigit = true) ∧
        result = withSign negative (Nat.ofDigitChars 10 digits value) ∧
          type.least ≤ result ∧ result ≤ type.greatest := by
  -- The bounds on the value so far carry the induction: a digit that leaves them is refused at once.
  induction digits generalizing value with
  | nil =>
    rw [readDigits, Except.ok.injEq, Nat.ofDigitChars_nil]
    constructor
    · rintro rfl
      exact ⟨by simp, rfl, low, high⟩
    · rintro ⟨-, rfl, -⟩
      rfl
  | cons c rest ih =>
    cases digit : c.isDigit with
    | false => simp [readDigits, digit?, digit]
    | true =>
      simp only [readDigits, digit?, digit, ↓reduceIte, withSign_next, List.forall_mem_cons, true_and,
        Nat.ofDigitChars_cons]
      generalize 10 * value + (c.toNat - '0'.toNat) = next at ih ⊢
      by_cases within : type.least ≤ withSign negative next ∧ withSign negative next ≤ type.greatest
      · rw [if_neg (Int.not_lt.mpr within.1), if_neg (Int.not_lt.mpr within.2), ih within.1 within.2]
      · have refused : (if withSign negative next < type.least then Except.error ReadError.tooSmall
            else if type.greatest < withSign negative next then .error .tooLarge
            else type.readDigits negative (withSign negative next) rest) ≠ .ok result := by
          rw [not_and_or, Int.not_le, Int.not_le] at within
          rcases within with small | large
          · rw [if_pos small]
            simp
          · rw [if_pos large]
            split <;> simp
        refine ⟨fun read => absurd read refused, ?_⟩
        rintro ⟨-, rfl, least, greatest⟩
        exact absurd (withSign_bounds (le_ofDigitChars rest next) least greatest) within

theorem readDigits_zero_eq_ok_iff (negative : Bool) {digits : List Char} {result : Int} :
    type.readDigits negative 0 digits = .ok result ↔
      (∀ c ∈ digits, c.isDigit = true) ∧ result = withSign negative (Nat.ofDigitChars 10 digits 0) ∧
        type.least ≤ result ∧ result ≤ type.greatest := by
  have zero : (0 : Int) = withSign negative 0 := by cases negative <;> rfl
  rw [zero]
  exact readDigits_eq_ok_iff negative (zero ▸ type.least_nonpos) (zero ▸ type.greatest_nonneg)

theorem denotes_plus_iff {digits : List Char} {value : Int} :
    type.Denotes ('+' :: digits) value ↔
      IsDecimal digits ∧ value = withSign false (Nat.ofDigitChars 10 digits 0) := by
  constructor
  · intro denotes
    cases denotes with
    | unsigned decimal => exact absurd (decimal.2 '+' List.mem_cons_self) (by decide)
    | plus decimal => exact ⟨decimal, rfl⟩
  · rintro ⟨decimal, rfl⟩
    exact .plus decimal

theorem denotes_minus_iff {digits : List Char} {value : Int} :
    type.Denotes ('-' :: digits) value ↔
      type.signed = true ∧ IsDecimal digits ∧ value = withSign true (Nat.ofDigitChars 10 digits 0) := by
  constructor
  · intro denotes
    cases denotes with
    | unsigned decimal => exact absurd (decimal.2 '-' List.mem_cons_self) (by decide)
    | minus signed decimal => exact ⟨signed, decimal, rfl⟩
  · rintro ⟨signed, decimal, rfl⟩
    exact .minus signed decimal

theorem denotes_unsigned_iff {digits : List Char} {value : Int} (plus : ∀ rest, digits ≠ '+' :: rest)
    (minus : ∀ rest, digits ≠ '-' :: rest) :
    type.Denotes digits value ↔
      IsDecimal digits ∧ value = withSign false (Nat.ofDigitChars 10 digits 0) := by
  constructor
  · intro denotes
    cases denotes with
    | unsigned decimal => exact ⟨decimal, rfl⟩
    | plus _ => exact absurd rfl (plus _)
    | minus _ _ => exact absurd rfl (minus _)
  · rintro ⟨decimal, rfl⟩
    exact .unsigned decimal

theorem read_eq_ok_iff {text : String} {value : Int} :
    type.read text = .ok value ↔
      type.Denotes text.toList value ∧ type.least ≤ value ∧ value ≤ type.greatest := by
  rw [read]
  generalize text.toList = written
  unfold readText
  split
  · rw [denotes_unsigned_iff (by simp) (by simp)]
    simp [IsDecimal]
  · simp [denotes_plus_iff, IsDecimal]
  · simp [denotes_minus_iff, IsDecimal]
  · rename_i digits filled
    have nonempty : digits ≠ [] := filled
    rw [denotes_plus_iff, readDigits_zero_eq_ok_iff, IsDecimal, and_iff_right nonempty, and_assoc]
  · rename_i digits filled
    have nonempty : digits ≠ [] := filled
    cases signed : type.signed with
    | false => simp [denotes_minus_iff, signed]
    | true =>
      rw [if_pos rfl, denotes_minus_iff, readDigits_zero_eq_ok_iff, IsDecimal, and_iff_right signed,
        and_iff_right nonempty, and_assoc]
  · rename_i nothing _ _ plus minus
    have nonempty : written ≠ [] := nothing
    rw [denotes_unsigned_iff plus minus, readDigits_zero_eq_ok_iff, IsDecimal, and_iff_right nonempty,
      and_assoc]

end IntegerType

end FeatureFlags
