import Mathlib.Data.Int.Log
import Mathlib.Data.Rat.Floor
import Mathlib.Algebra.Order.Round
import Mathlib.Tactic.Positivity
import Mathlib.Tactic.FieldSimp
import Mathlib.Tactic.Linarith

/-!
# Rounding to double precision

A rational is rounded to 53 significant bits, ties to even. The exponent is not
bounded: the numbers this is used for are far from overflow and underflow.
-/
namespace GitvTime.Support

/-- The nearest integer, the even one of two. -/
def halfEven (q : ℚ) : ℤ :=
  let below := ⌊q⌋
  if q - below < 1 / 2 then below
  else if 1 / 2 < q - below then below + 1
  else if below % 2 = 0 then below
  else below + 1

/-- The exponent of the last of 53 bits. -/
def lastBit (q : ℚ) : ℤ := Int.log 2 |q| - 52

def toDouble (q : ℚ) : ℚ :=
  if q = 0 then 0 else halfEven (q / (2 : ℚ) ^ lastBit q) * (2 : ℚ) ^ lastBit q

/-! ### Rounding to an integer -/

@[simp] theorem halfEven_intCast (n : ℤ) : halfEven n = n := by
  simp [halfEven]

theorem halfEven_mono {a b : ℚ} (le : a ≤ b) : halfEven a ≤ halfEven b := by
  have floors : ⌊a⌋ ≤ ⌊b⌋ := Int.floor_mono le
  rcases lt_or_eq_of_le floors with less | same
  · have up : halfEven a ≤ ⌊a⌋ + 1 := by
      unfold halfEven
      simp only
      split_ifs <;> omega
    have down : ⌊b⌋ ≤ halfEven b := by
      unfold halfEven
      simp only
      split_ifs <;> omega
    omega
  · unfold halfEven
    simp only [same]
    have shift : a - (⌊b⌋ : ℚ) ≤ b - ⌊b⌋ := by linarith
    split_ifs <;> first | omega | (exfalso; linarith)

/-! ### Rounding to 53 bits -/

theorem lastBit_pos (q : ℚ) : (0 : ℚ) < (2 : ℚ) ^ lastBit q := zpow_pos (by norm_num) _

theorem toDouble_of_ne {q : ℚ} (ne : q ≠ 0) :
    toDouble q = halfEven (q / (2 : ℚ) ^ lastBit q) * (2 : ℚ) ^ lastBit q := if_neg ne

/-- The first of the 53 bits in units of the last. -/
theorem leading_bit (q : ℚ) (n : ℤ) :
    (n * 2 ^ 52 : ℤ) * (2 : ℚ) ^ lastBit q = n * (2 : ℚ) ^ Int.log 2 |q| := by
  have shift : Int.log 2 |q| = 52 + lastBit q := by
    rw [lastBit]
    ring
  rw [shift, zpow_add₀ (by norm_num : (2 : ℚ) ≠ 0)]
  push_cast
  rw [mul_assoc]

/-- A multiple of the last bit bounds the rounded number if it bounds the number. -/
theorem toDouble_le {q : ℚ} (ne : q ≠ 0) {n : ℤ} (le : q ≤ n * (2 : ℚ) ^ lastBit q) :
    toDouble q ≤ n * (2 : ℚ) ^ lastBit q := by
  have scaled : halfEven (q / (2 : ℚ) ^ lastBit q) ≤ n := by
    rw [← halfEven_intCast n]
    exact halfEven_mono ((div_le_iff₀ (lastBit_pos q)).mpr le)
  rw [toDouble_of_ne ne]
  exact mul_le_mul_of_nonneg_right (by exact_mod_cast scaled) (lastBit_pos q).le

theorem le_toDouble {q : ℚ} (ne : q ≠ 0) {n : ℤ} (le : n * (2 : ℚ) ^ lastBit q ≤ q) :
    n * (2 : ℚ) ^ lastBit q ≤ toDouble q := by
  have scaled : n ≤ halfEven (q / (2 : ℚ) ^ lastBit q) := by
    rw [← halfEven_intCast n]
    exact halfEven_mono ((le_div_iff₀ (lastBit_pos q)).mpr le)
  rw [toDouble_of_ne ne]
  exact mul_le_mul_of_nonneg_right (by exact_mod_cast scaled) (lastBit_pos q).le

/-- A rounded number stays between the powers of two around it. -/
theorem toDouble_binade {q : ℚ} (ne : q ≠ 0) {n : ℤ} :
    (q ≤ n * (2 : ℚ) ^ Int.log 2 |q| → toDouble q ≤ n * (2 : ℚ) ^ Int.log 2 |q|) ∧
      (n * (2 : ℚ) ^ Int.log 2 |q| ≤ q → n * (2 : ℚ) ^ Int.log 2 |q| ≤ toDouble q) := by
  rw [← leading_bit]
  exact ⟨toDouble_le ne, le_toDouble ne⟩

theorem binade_le {q : ℚ} (ne : q ≠ 0) : (2 : ℚ) ^ Int.log 2 |q| ≤ |q| := by
  exact_mod_cast Int.zpow_log_le_self one_lt_two (abs_pos.mpr ne)

theorem lt_binade (q : ℚ) : |q| < 2 * (2 : ℚ) ^ Int.log 2 |q| := by
  have below := Int.lt_zpow_succ_log_self one_lt_two |q|
  rw [zpow_add₀ (by norm_num), zpow_one, mul_comm] at below
  exact_mod_cast below

theorem toDouble_nonneg {q : ℚ} (nonneg : 0 ≤ q) : 0 ≤ toDouble q := by
  by_cases zero : q = 0
  · simp [toDouble, zero]
  · simpa using le_toDouble (n := 0) zero (by simpa using nonneg)

theorem toDouble_nonpos {q : ℚ} (nonpos : q ≤ 0) : toDouble q ≤ 0 := by
  by_cases zero : q = 0
  · simp [toDouble, zero]
  · simpa using toDouble_le (n := 0) zero (by simpa using nonpos)

/-- Different binades are a factor of two apart. -/
theorem next_binade {a b : ℚ} (ne : a ≠ 0) (le : |a| ≤ |b|)
    (binade : Int.log 2 |a| ≠ Int.log 2 |b|) :
    2 * (2 : ℚ) ^ Int.log 2 |a| ≤ (2 : ℚ) ^ Int.log 2 |b| := by
  have grows : Int.log 2 |a| ≤ Int.log 2 |b| := Int.log_mono_right (abs_pos.mpr ne) le
  have powers := zpow_le_zpow_right₀ (by norm_num : (1 : ℚ) ≤ 2)
    (by omega : Int.log 2 |a| + 1 ≤ Int.log 2 |b|)
  rwa [zpow_add₀ (by norm_num), zpow_one, mul_comm] at powers

/-- Numbers of one sign and different binades are kept apart by a power of two. -/
theorem toDouble_apart {a b : ℚ} (le : a ≤ b) (sign : 0 < a ∨ b < 0)
    (binade : Int.log 2 |a| ≠ Int.log 2 |b|) : toDouble a ≤ toDouble b := by
  rcases sign with positive | negative
  · have abs_a : |a| = a := abs_of_pos positive
    have abs_b : |b| = b := abs_of_pos (lt_of_lt_of_le positive le)
    have ne_b : b ≠ 0 := (lt_of_lt_of_le positive le).ne'
    have powers := next_binade positive.ne' (by rwa [abs_a, abs_b]) binade
    have below := lt_binade a
    have above := binade_le ne_b
    have upper := (toDouble_binade positive.ne' (n := 2)).1 (by push_cast; linarith)
    have lower := (toDouble_binade ne_b (n := 1)).2 (by push_cast; linarith)
    push_cast at upper lower
    linarith
  · have abs_a : |a| = -a := abs_of_neg (lt_of_le_of_lt le negative)
    have abs_b : |b| = -b := abs_of_neg negative
    have ne_a : a ≠ 0 := (lt_of_le_of_lt le negative).ne
    have powers := next_binade negative.ne (by rw [abs_a, abs_b]; linarith) binade.symm
    have below := lt_binade b
    have above := binade_le ne_a
    have upper := (toDouble_binade ne_a (n := -1)).1 (by push_cast; linarith)
    have lower := (toDouble_binade negative.ne (n := -2)).2 (by push_cast; linarith)
    push_cast at upper lower
    linarith

/-- Rounding keeps the order. -/
theorem toDouble_mono {a b : ℚ} (le : a ≤ b) : toDouble a ≤ toDouble b := by
  by_cases straddle : a ≤ 0 ∧ 0 ≤ b
  · exact le_trans (toDouble_nonpos straddle.1) (toDouble_nonneg straddle.2)
  have sign : 0 < a ∨ b < 0 := by
    by_cases positive : 0 < a
    · exact .inl positive
    · exact .inr (not_le.mp fun h => straddle ⟨not_lt.mp positive, h⟩)
  by_cases binade : Int.log 2 |a| = Int.log 2 |b|
  · have ha : a ≠ 0 := by
      rintro rfl
      rcases sign with positive | negative
      · exact lt_irrefl _ positive
      · exact absurd le (not_le.mpr negative)
    have hb : b ≠ 0 := by
      rintro rfl
      rcases sign with positive | negative
      · exact absurd le (not_le.mpr positive)
      · exact lt_irrefl _ negative
    have unit : lastBit a = lastBit b := by rw [lastBit, lastBit, binade]
    rw [toDouble_of_ne ha, toDouble_of_ne hb, unit]
    have rounded := halfEven_mono ((div_le_div_iff_of_pos_right (lastBit_pos b)).mpr le)
    exact mul_le_mul_of_nonneg_right (by exact_mod_cast rounded) (lastBit_pos b).le
  · exact toDouble_apart le sign binade

/-- Integers of at most 53 bits are exact. -/
theorem toDouble_intCast {n : ℤ} (small : |n| < 2 ^ 53) : toDouble n = n := by
  by_cases zero : n = 0
  · simp [toDouble, zero]
  have ne : (n : ℚ) ≠ 0 := by exact_mod_cast zero
  have bits : Int.log 2 |(n : ℚ)| ≤ 52 := by
    have below : (2 : ℚ) ^ Int.log 2 |(n : ℚ)| < (2 : ℚ) ^ (53 : ℤ) :=
      lt_of_le_of_lt (binade_le ne) (by exact_mod_cast small)
    have exponents := (zpow_lt_zpow_iff_right₀ (by norm_num : (1 : ℚ) < 2)).mp below
    omega
  obtain ⟨k, places⟩ : ∃ k : ℕ, lastBit (n : ℚ) = -k :=
    ⟨(52 - Int.log 2 |(n : ℚ)|).toNat, by rw [lastBit]; omega⟩
  have whole : (n : ℚ) / (2 : ℚ) ^ lastBit (n : ℚ) = ((n * 2 ^ k : ℤ) : ℚ) := by
    rw [places, zpow_neg, zpow_natCast, div_inv_eq_mul]
    push_cast
    rfl
  rw [toDouble_of_ne ne, whole, halfEven_intCast, ← whole]
  exact div_mul_cancel₀ _ (lastBit_pos _).ne'

end GitvTime.Support
