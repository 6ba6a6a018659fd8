import ProofTrial.Proofs.Field.Power
import Mathlib.Data.Set.Function

/-! The Montgomery scale. A residue whose scale is taken off is the one element that has that
residue when it is scaled. -/
namespace ProofTrial.Field

/-- Half of `prime + 1` halves, so its power undoes the scale. -/
theorem montgomeryRInv_mul : montgomeryRInv * 2 ^ 64 ≡ 1 [MOD prime] := by
  have hhalf : (prime + 1) / 2 * 2 ≡ 1 [MOD prime] := by decide
  calc montgomeryRInv * 2 ^ 64
      ≡ ((prime + 1) / 2) ^ 64 * 2 ^ 64 [MOD prime] := (pow_modEq _ _).mul_right _
    _ = ((prime + 1) / 2 * 2) ^ 64 := (Nat.mul_pow _ _ _).symm
    _ ≡ 1 ^ 64 [MOD prime] := hhalf.pow 64
    _ = 1 := Nat.one_pow 64

theorem fromMontgomery_mul (residue : Nat) :
    fromMontgomery residue * 2 ^ 64 ≡ residue [MOD prime] := by
  calc fromMontgomery residue * 2 ^ 64
      ≡ residue * montgomeryRInv * 2 ^ 64 [MOD prime] := (mul_modEq _ _).mul_right _
    _ = residue * (montgomeryRInv * 2 ^ 64) := Nat.mul_assoc _ _ _
    _ ≡ residue * 1 [MOD prime] := montgomeryRInv_mul.mul_left _
    _ = residue := Nat.mul_one _

/-- Residues below the prime come back when the scale is put on again. -/
theorem fromMontgomery_mul_mod {residue : Nat} (h : residue < prime) :
    fromMontgomery residue * 2 ^ 64 % prime = residue :=
  Eq.trans (fromMontgomery_mul residue) (Nat.mod_eq_of_lt h)

theorem montgomeryR_eq : montgomeryR = 2 ^ 64 % prime := by decide

theorem mul_montgomeryR (x : Nat) : mul x montgomeryR = x * 2 ^ 64 % prime := by
  rw [mul, montgomeryR_eq, Nat.mul_mod_mod]

theorem fromMontgomery_mul_montgomeryR (x : Nat) :
    fromMontgomery (mul x montgomeryR) ≡ x [MOD prime] := by
  have hscale : mul x montgomeryR ≡ x * 2 ^ 64 [MOD prime] := by
    rw [mul_montgomeryR]
    exact Nat.mod_modEq _ _
  calc fromMontgomery (mul x montgomeryR)
      ≡ mul x montgomeryR * montgomeryRInv [MOD prime] := mul_modEq _ _
    _ ≡ x * 2 ^ 64 * montgomeryRInv [MOD prime] := hscale.mul_right _
    _ = x * (montgomeryRInv * 2 ^ 64) := by ring
    _ ≡ x * 1 [MOD prime] := montgomeryRInv_mul.mul_left _
    _ = x := Nat.mul_one _

/-- Putting the scale on and taking it off undo each other below the prime. -/
theorem fromMontgomery_invOn :
    Set.InvOn (fun x => mul x montgomeryR) fromMontgomery (Set.Iio prime) (Set.Iio prime) where
  left _ h := (mul_montgomeryR _).trans (fromMontgomery_mul_mod h)
  right x h := Nat.ModEq.eq_of_lt_of_lt (fromMontgomery_mul_montgomeryR x)
    (fromMontgomery_lt_prime _) h

theorem fromMontgomery_bijOn : Set.BijOn fromMontgomery (Set.Iio prime) (Set.Iio prime) :=
  fromMontgomery_invOn.bijOn (fun _ _ => fromMontgomery_lt_prime _) fun _ _ => mul_lt_prime _ _

end ProofTrial.Field
