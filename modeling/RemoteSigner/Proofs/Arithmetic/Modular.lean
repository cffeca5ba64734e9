import Mathlib.Data.Int.ModEq
import Mathlib.Data.Nat.ModEq
import Mathlib.Tactic.Ring
import RemoteSigner.Arithmetic.Modular

/-!
# What the arithmetic modulo a number computes

## Main results

* `power_eq`: the power is the remainder of the power
* `inverse?_sound`: an inverse that is found is one
-/

namespace RemoteSigner.Modular

/-! ## Powers -/

/-- The product is multiplied by the power, once all bits of the exponent have been looked at.  Each
bit halves the exponent and squares the base. -/
theorem powerFrom_eq (modulus : Nat) {bits base exponent product : Nat}
    (bound : exponent < 2 ^ bits) (reduced : product % modulus = product) :
    powerFrom modulus bits base exponent product = product * base ^ exponent % modulus := by
  induction bits generalizing base exponent product with
  | zero =>
    have none : exponent = 0 := by simpa using bound
    rw [powerFrom, none, pow_zero, Nat.mul_one, reduced]
  | succ bits ih =>
    have half : exponent / 2 < 2 ^ bits := by omega
    have square : (base * base % modulus) ^ (exponent / 2) ≡
        base ^ (2 * (exponent / 2)) [MOD modulus] := by
      rw [pow_mul, pow_two]
      exact (Nat.mod_modEq _ _).pow _
    rw [powerFrom]
    split
    next odd =>
      have split : exponent = 2 * (exponent / 2) + 1 := by omega
      rw [ih half (Nat.mod_mod _ _)]
      calc product * base % modulus * (base * base % modulus) ^ (exponent / 2) % modulus
          = product * base * base ^ (2 * (exponent / 2)) % modulus :=
            (Nat.mod_modEq _ _).mul square
        _ = product * base ^ exponent % modulus := by
            conv_rhs => rw [split]
            ring_nf
    next even =>
      have split : exponent = 2 * (exponent / 2) := by omega
      rw [ih half reduced]
      calc product * (base * base % modulus) ^ (exponent / 2) % modulus
          = product * base ^ (2 * (exponent / 2)) % modulus := square.mul_left product
        _ = product * base ^ exponent % modulus := by rw [← split]

theorem power_eq (modulus base exponent : Nat) :
    power modulus base exponent = base ^ exponent % modulus := by
  rw [power, powerFrom_eq modulus Nat.lt_log2_self (Nat.mod_mod _ _)]
  have product : 1 % modulus * (base % modulus) ^ exponent ≡ 1 * base ^ exponent [MOD modulus] :=
    (Nat.mod_modEq _ _).mul ((Nat.mod_modEq _ _).pow _)
  rw [Nat.one_mul] at product
  exact product

/-! ## Inverses -/

/-- The factor that Euclid's algorithm gives makes its remainder out of the number, as it does in
every step.  Both remainders stay multiples of the number, by the given factors. -/
theorem euclid_sound {modulus n : Int} (steps : Nat) {a b : Nat} {x y : Int}
    (first : x * n ≡ a [ZMOD modulus]) (second : y * n ≡ b [ZMOD modulus]) :
    (euclid steps a b x y).2 * n ≡ (euclid steps a b x y).1 [ZMOD modulus] := by
  induction steps generalizing a b x y with
  | zero => exact first
  | succ steps ih =>
    rw [euclid]
    split
    · exact first
    · refine ih second ?_
      have remainder : ((a % b : Nat) : Int) = a - (a / b : Nat) * b := by
        have whole : ((a % b + a / b * b : Nat) : Int) = a := congrArg Nat.cast (Nat.mod_add_div' a b)
        rw [Nat.cast_add, Nat.cast_mul] at whole
        exact eq_sub_of_add_eq whole
      rw [remainder, sub_mul, mul_assoc]
      exact first.sub (second.mul_left _)

/-- An inverse that is found is one. -/
theorem inverse?_sound {modulus n inverse : Nat} (positive : 0 < modulus)
    (found : inverse? modulus n = some inverse) : inverse * n ≡ 1 [MOD modulus] := by
  have first : (0 : Int) * n ≡ modulus [ZMOD modulus] := by
    rw [zero_mul]
    exact Int.modEq_zero_iff_dvd.mpr dvd_rfl |>.symm
  have second : (1 : Int) * n ≡ (n % modulus : Nat) [ZMOD modulus] := by
    rw [one_mul, Int.natCast_mod]
    exact (Int.mod_modEq _ _).symm
  have sound := euclid_sound (2 * Nat.log2 modulus + 4) first second
  simp only [inverse?] at found
  split at found
  next one =>
    rw [one] at sound
    have value : (inverse : Int) =
        (euclid (2 * Nat.log2 modulus + 4) modulus (n % modulus) 0 1).2 % modulus := by
      rw [← Option.some.inj found]
      exact Int.toNat_of_nonneg (Int.emod_nonneg _ (Int.natCast_ne_zero.mpr positive.ne'))
    rw [← Int.natCast_modEq_iff, Nat.cast_mul, value]
    exact ((Int.mod_modEq _ _).mul_right _).trans sound
  next => cases found

end RemoteSigner.Modular
