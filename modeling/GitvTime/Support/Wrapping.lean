import Mathlib.Algebra.Ring.Int.Defs
import Mathlib.Algebra.Ring.Nat

/-!
# Numbers kept in a signed integer of a fixed width

`overflow` is what a number loses when it is kept modulo `modulus`.
-/
namespace GitvTime.Support

def overflow (modulus : Nat) (x : Int) : Int := x - x.bmod modulus

theorem bmod_eq_sub_overflow (modulus : Nat) (x : Int) :
    x.bmod modulus = x - overflow modulus x := by
  unfold overflow
  omega

/-- Exactly the numbers in range are kept. -/
theorem bmod_eq_self_iff (half : Nat) (positive : 0 < half) {x : Int} :
    x.bmod (2 * half) = x ↔ -(half : Int) ≤ x ∧ x < half := by
  constructor
  · intro kept
    have low := Int.le_bmod (x := x) (m := 2 * half) (by omega)
    have high := Int.bmod_lt (x := x) (m := 2 * half) (by omega)
    omega
  · rintro ⟨low, high⟩
    exact Int.bmod_eq_of_le (by omega) (by omega)

theorem overflow_eq_zero_iff (half : Nat) (positive : 0 < half) {x : Int} :
    overflow (2 * half) x = 0 ↔ -(half : Int) ≤ x ∧ x < half := by
  rw [← bmod_eq_self_iff half positive, overflow]
  omega

end GitvTime.Support
