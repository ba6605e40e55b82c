import Mathlib.Algebra.Order.BigOperators.Group.List
import Mathlib.Algebra.Order.Group.Unbundled.Int
import Mathlib.Algebra.Ring.Int.Defs
import Mathlib.Data.Nat.Log

/-! Decimal arithmetic in a context of limited precision, on coefficients that share one
exponent: every result is rounded half to even to its leading digits. -/

set_option autoImplicit false

namespace InventoryManagement.Decimal

variable {precision : Nat} {value : Int} {values : List Int}

def digits (value : Int) : Nat := Nat.log 10 value.natAbs + 1

/-- The digits of a value that a context has no room for. -/
def excess (precision : Nat) (value : Int) : Nat := digits value - precision

/-- The closest multiple of a unit, the even one of two that are equally close. -/
def roundHalfEven (unit value : Int) : Int :=
  let quotient := value / unit
  let rest := value % unit
  if 2 * rest < unit ∨ 2 * rest = unit ∧ quotient % 2 = 0 then quotient * unit
  else (quotient + 1) * unit

def round (precision : Nat) (value : Int) : Int :=
  roundHalfEven (10 ^ excess precision value) value

/-- A running total, rounded after each addition. -/
def sum (precision : Nat) (values : List Int) : Int :=
  values.foldl (fun total value => round precision (total + value)) 0

theorem roundHalfEven_dvd (unit value : Int) : unit ∣ roundHalfEven unit value := by
  unfold roundHalfEven
  dsimp only
  split <;> exact Int.dvd_mul_left _ _

theorem roundHalfEven_of_dvd {unit : Int} (positive : 0 < unit) (whole : unit ∣ value) :
    roundHalfEven unit value = value := by
  have rest : value % unit = 0 := Int.emod_eq_zero_of_dvd whole
  rw [roundHalfEven, if_pos (.inl (by omega))]
  exact Int.ediv_mul_cancel whole

/-- A value without significant digits among those there is no room for. -/
def Representable (precision : Nat) (value : Int) : Prop := 10 ^ excess precision value ∣ value

theorem round_eq_iff : round precision value = value ↔ Representable precision value := by
  constructor
  · intro same
    have divides := roundHalfEven_dvd (10 ^ excess precision value) value
    rwa [show roundHalfEven _ value = value from same] at divides
  · exact roundHalfEven_of_dvd (Int.pow_pos (by decide))

theorem excess_eq_zero (fits : value.natAbs < 10 ^ precision) (some : 0 < precision) :
    excess precision value = 0 := by
  have digit : digits value ≤ precision := by
    unfold digits
    exact Nat.log_lt_of_lt_pow' (by omega) fits
  exact Nat.sub_eq_zero_of_le digit

theorem representable_of_fits (fits : value.natAbs < 10 ^ precision) :
    Representable precision value := by
  unfold Representable
  by_cases some : 0 < precision
  · rw [excess_eq_zero fits some, pow_zero]
    exact one_dvd value
  · have none : value = 0 := by
      rw [show precision = 0 by omega, pow_zero] at fits
      omega
    rw [none]
    exact Int.dvd_zero _

/-- A value with more digits than there is room for is rounded to a multiple of ten. -/
theorem not_representable_of_long (long : 10 ^ precision ≤ value.natAbs)
    (last : ¬ (10 : Int) ∣ value) : ¬ Representable precision value := by
  intro divides
  have more : excess precision value ≠ 0 := by
    have digit : precision ≤ Nat.log 10 value.natAbs :=
      Nat.le_log_of_pow_le (by decide) long
    unfold excess digits
    omega
  exact last ((dvd_pow_self 10 more).trans divides)

/-- Every running total has room. -/
def Roomy (precision : Nat) (values : List Int) : Prop :=
  ∀ count, Representable precision (values.take count).sum

theorem roomy_of_nonneg (nonneg : ∀ value ∈ values, 0 ≤ value)
    (fits : values.sum.natAbs < 10 ^ precision) : Roomy precision values := by
  intro count
  apply representable_of_fits
  have here : 0 ≤ (values.take count).sum :=
    List.sum_nonneg (fun value listed => nonneg value (List.mem_of_mem_take listed))
  have later : 0 ≤ (values.drop count).sum :=
    List.sum_nonneg (fun value listed => nonneg value (List.mem_of_mem_drop listed))
  have total := values.sum_take_add_sum_drop count
  omega

theorem sum_of_roomy (roomy : Roomy precision values) : sum precision values = values.sum := by
  suffices running : ∀ (rest : List Int) (total : Int),
      (∀ count, Representable precision (total + (rest.take count).sum)) →
        rest.foldl (fun total value => round precision (total + value)) total = total + rest.sum by
    rw [sum, running values 0 (by simpa [Roomy] using roomy), zero_add]
  intro rest
  induction rest with
  | nil => simp
  | cons value rest ih =>
      intro total room
      have first := room 1
      rw [List.take_succ_cons, List.take_zero, List.sum_singleton] at first
      rw [List.foldl_cons, round_eq_iff.mpr first, ih, List.sum_cons, add_assoc]
      intro count
      have next := room (count + 1)
      rwa [List.take_succ_cons, List.sum_cons, ← add_assoc] at next

end InventoryManagement.Decimal
