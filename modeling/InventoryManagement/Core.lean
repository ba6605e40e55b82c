import Mathlib.Algebra.Ring.Int.Defs
import Mathlib.Algebra.Ring.Nat
import Mathlib.Data.List.Basic

/-! What every part of the application shares: identifiers, the settings it is
deployed with, and the exceptions its layers raise. -/

set_option autoImplicit false

namespace InventoryManagement

structure UUID where
  int : Fin (2 ^ 128)
deriving DecidableEq

instance UUID.neZero : NeZero (2 ^ 128) := ⟨by decide⟩

private def hexDigit (digit : Nat) : Char :=
  if digit < 10 then Char.ofNat (48 + digit) else Char.ofNat (87 + digit)

/-- The 32 lower-case hexadecimal digits, most significant first. -/
def UUID.hex (id : UUID) : List Char :=
  (List.range 32).map (fun position => hexDigit (id.int / 16 ^ (31 - position) % 16))

/-- `str(id)`: the digits in groups of 8, 4, 4, 4 and 12. -/
def UUID.str (id : UUID) : String :=
  String.ofList (id.hex.take 8 ++ '-' :: (id.hex.drop 8).take 4 ++ '-' :: (id.hex.drop 12).take 4 ++
    '-' :: (id.hex.drop 16).take 4 ++ '-' :: id.hex.drop 20)

private theorem hexDigit_injective :
    ∀ left right : Fin 16, hexDigit left = hexDigit right → left = right := by decide

private theorem hexDigit_ne_dash : ∀ digit : Fin 16, hexDigit digit ≠ '-' := by decide

/-- Numbers with the same `count` last hexadecimal digits and no others are equal. -/
private theorem eq_of_digits (count : Nat) {left right : Nat} (small : left < 16 ^ count)
    (smallToo : right < 16 ^ count)
    (same : ∀ position < count, left / 16 ^ position % 16 = right / 16 ^ position % 16) :
    left = right := by
  induction count generalizing left right with
  | zero => omega
  | succ count ih =>
      rw [Nat.pow_succ] at small smallToo
      have low := same 0 (Nat.succ_pos count)
      rw [Nat.pow_zero, Nat.div_one, Nat.div_one] at low
      have high : left / 16 = right / 16 := by
        apply ih (by omega) (by omega)
        intro position bound
        have digit := same (position + 1) (by omega)
        rwa [Nat.pow_succ', ← Nat.div_div_eq_div_mul, ← Nat.div_div_eq_div_mul] at digit
      omega

theorem UUID.hex_injective {left right : UUID} (same : left.hex = right.hex) : left = right := by
  have digits := List.map_inj_left.mp same
  have equal : left.int.val = right.int.val := by
    apply eq_of_digits 32 left.int.isLt right.int.isLt
    intro position bound
    have digit := digits (31 - position) (List.mem_range.mpr (by omega))
    rw [show 31 - (31 - position) = position by omega] at digit
    exact congrArg Fin.val (hexDigit_injective ⟨_, Nat.mod_lt _ (by decide)⟩
      ⟨_, Nat.mod_lt _ (by decide)⟩ digit)
  cases left
  cases right
  exact congrArg UUID.mk (Fin.ext equal)

/-- Without its dashes a UUID's text is its digits. -/
private theorem UUID.str_digits (id : UUID) :
    id.str.toList.filter (fun char => decide (char ≠ '-')) = id.hex := by
  have kept : ∀ part : List Char, part.Sublist id.hex →
      part.filter (fun char => decide (char ≠ '-')) = part := by
    intro part included
    rw [List.filter_eq_self]
    intro char member
    obtain ⟨position, _, rfl⟩ := List.mem_map.mp (included.subset member)
    exact decide_eq_true (hexDigit_ne_dash ⟨_, Nat.mod_lt _ (by decide)⟩)
  have group : ∀ skip count : Nat, ((id.hex.drop skip).take count).filter
      (fun char => decide (char ≠ '-')) = (id.hex.drop skip).take count :=
    fun skip count => kept _ ((List.take_sublist _ _).trans (List.drop_sublist _ _))
  have next : ∀ skip count : Nat, (id.hex.drop skip).take count ++ id.hex.drop (skip + count) =
      id.hex.drop skip := by
    intro skip count
    rw [← List.drop_drop, List.take_append_drop]
  simp only [UUID.str, String.toList_ofList, List.filter_append, List.filter_cons, group,
    kept _ (List.take_sublist 8 id.hex), kept _ (List.drop_sublist 20 id.hex), ne_eq,
    not_true_eq_false, decide_false, Bool.false_eq_true, if_false, List.append_assoc, next 16 4,
    next 12 4, next 8 4, List.take_append_drop]

theorem UUID.str_injective {left right : UUID} (same : left.str = right.str) : left = right := by
  apply UUID.hex_injective
  rw [← UUID.str_digits, ← UUID.str_digits, same]

/-- `sorted((left, right), key=str)`; the sort is stable. Irreducible, so that no
proof about a transfer compares strings. -/
@[irreducible] def sortedByStr (left right : UUID) : UUID × UUID :=
  if right.str < left.str then (right, left) else (left, right)

/-- The values an `Integer` column can hold. -/
def Integer.fits (value : Int) : Bool :=
  decide (-2 ^ 31 ≤ value) && decide (value < 2 ^ 31)

/-- PostgreSQL has no text with a NUL character. -/
def Text.sendable (text : String) : Bool := !text.toList.contains (Char.ofNat 0)

theorem Integer.fits_ten : Integer.fits 10 = true := by decide

/-- The settings the services read. That the `Integer` column of the alerts can hold the
default threshold is assumed of a deployment: `config.py` does not check it. -/
structure Settings where
  lowStockAlertThresholdDefault : Int := 10
  lowStockAlertThresholdDefault_fits : Integer.fits lowStockAlertThresholdDefault = true := by
    first | exact Integer.fits_ten | decide

/-- The domain exceptions of `app.core.exceptions`, followed by what reaches the
services from the database driver, the ORM and an `assert`. The last one is not
raised by the code: it marks the end of a loop's step allowance. -/
inductive Exception where
  | notFoundError (message : String)
  | conflictError (message : String)
  | validationError (message : String)
  | insufficientStockError (message : String)
  | inactiveResourceError (message : String)
  | multipleResultsFound
  | integrityError
  | dataError
  | operationalError
  | invalidRequestError
  | assertionError
  | outOfFuel
deriving DecidableEq

def Exception.isAppException : Exception → Bool
  | .notFoundError _ | .conflictError _ | .validationError _ | .insufficientStockError _
  | .inactiveResourceError _ => true
  | _ => false

end InventoryManagement
