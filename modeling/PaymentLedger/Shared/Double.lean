import Mathlib.Algebra.Order.Ring.Nat
import Mathlib.Data.Nat.Dist
import Mathlib.Tactic.Positivity
import Mathlib.Tactic.NormNum
import Mathlib.Tactic.Ring

set_option autoImplicit false

-- Only integer values occur: a decimal string without a fraction is read as the nearest
-- double, ties to even, and becomes infinite from 2 ^ 1024 on.

namespace Double

def maxSafeInteger : Nat := 2 ^ 53 - 1

def roundNat (n : Nat) : Nat :=
  let shift := n.log2 + 1 - 53
  let quotient := n / 2 ^ shift
  let rest := n % 2 ^ shift
  if 2 ^ shift < 2 * rest ∨ (2 ^ shift = 2 * rest ∧ quotient % 2 = 1) then
    (quotient + 1) * 2 ^ shift
  else quotient * 2 ^ shift

/-- The distance between the doubles around `n`. -/
def spacing (n : Nat) : Nat := 2 ^ (n.log2 + 1 - 53)

/-- A magnitude that a double has exactly, the exponent unbounded. -/
def Significant (m : Nat) : Prop := ∃ significand exponent, significand < 2 ^ 53 ∧
      m = significand * 2 ^ exponent

section Rounding

variable (n : Nat)

theorem spacing_positive : 0 < spacing n := Nat.pow_pos (by norm_num)

theorem quotient_bounds : n / spacing n < 2 ^ 53 ∧ (spacing n = 1 ∨ 2 ^ 52 ≤ n / spacing n) := by
  by_cases zero : n = 0
  · simp [zero, spacing]
  have below := Nat.log2_self_le zero
  have above : n < 2 ^ (n.log2 + 1) := (Nat.log2_lt zero).mp (Nat.lt_succ_self _)
  rcases Nat.lt_or_ge n.log2 53 with few | many
  · have one : spacing n = 1 := by simp [spacing, show n.log2 + 1 - 53 = 0 by omega]
    rw [one, Nat.div_one]
    exact ⟨lt_of_lt_of_le above (Nat.pow_le_pow_right (by norm_num) few), .inl rfl⟩
  · have split (k : Nat)
        (fits : k + (n.log2 + 1 - 53) = n.log2 + 1 ∨ k + (n.log2 + 1 - 53) = n.log2) :
        2 ^ k * spacing n = 2 ^ (k + (n.log2 + 1 - 53)) := (Nat.pow_add ..).symm
    have low : 2 ^ 52 * spacing n ≤ n := by
      rw [split 52 (by omega), show 52 + (n.log2 + 1 - 53) = n.log2 by omega]
      exact below
    have high : n < 2 ^ 53 * spacing n := by
      rw [split 53 (by omega), show 53 + (n.log2 + 1 - 53) = n.log2 + 1 by omega]
      exact above
    exact ⟨(Nat.div_lt_iff_lt_mul (spacing_positive n)).mpr high,
      .inr ((Nat.le_div_iff_mul_le (spacing_positive n)).mpr low)⟩

theorem roundNat_cases :
    (roundNat n = n / spacing n * spacing n ∧ 2 * (n % spacing n) ≤ spacing n ∧
        (2 * (n % spacing n) = spacing n → n / spacing n % 2 = 0)) ∨
      (roundNat n = (n / spacing n + 1) * spacing n ∧ spacing n ≤ 2 * (n % spacing n) ∧
        (2 * (n % spacing n) = spacing n → n / spacing n % 2 = 1)) := by
  have unfolded : roundNat n = if spacing n < 2 * (n % spacing n) ∨
      (spacing n = 2 * (n % spacing n) ∧ n / spacing n % 2 = 1) then
      (n / spacing n + 1) * spacing n else n / spacing n * spacing n := rfl
  rw [unfolded]
  split
  · exact .inr ⟨rfl, by omega, by omega⟩
  · exact .inl ⟨rfl, by omega, by omega⟩

variable {n} {m : Nat}

theorem roundNat_significant : Significant (roundNat n) := by
  have below := (quotient_bounds n).1
  rcases roundNat_cases n with ⟨down, -⟩ | ⟨up, -⟩
  · exact ⟨_, _, below, down⟩
  · by_cases carry : n / spacing n + 1 = 2 ^ 53
    · refine ⟨2 ^ 52, n.log2 + 1 - 53 + 1, by norm_num, ?_⟩
      rw [up, carry, spacing]
      ring
    · exact ⟨_, _, by omega, up⟩

/-- No double lies strictly between the two multiples of the spacing around `n`. -/
theorem Significant.outside (significant : Significant m) :
    m ≤ n / spacing n * spacing n ∨ (n / spacing n + 1) * spacing n ≤ m := by
  obtain ⟨significand, exponent, fits, rfl⟩ := significant
  rcases (quotient_bounds n).2 with one | normal
  · rw [one]
    omega
  by_contra inside
  push Not at inside
  obtain ⟨above, below⟩ := inside
  -- It would need the spacing as a factor, since its significand has 53 bits at most.
  have coarse : n.log2 + 1 - 53 ≤ exponent := by
    by_contra fine
    have half : 2 ^ exponent * 2 ≤ spacing n := by
      rw [← Nat.pow_succ]
      exact Nat.pow_le_pow_right (by norm_num) (by omega)
    have := Nat.mul_le_mul normal (le_refl (spacing n))
    have := Nat.mul_lt_mul_of_pos_right fits (Nat.pow_pos (by norm_num : 0 < 2) : 0 < 2 ^ exponent)
    omega
  have multiple : significand * 2 ^ exponent =
      significand * 2 ^ (exponent - (n.log2 + 1 - 53)) * spacing n := by
    rw [spacing, mul_assoc, ← Nat.pow_add, Nat.sub_add_cancel coarse]
  rw [multiple] at above below
  have := Nat.lt_of_mul_lt_mul_right above
  have := Nat.lt_of_mul_lt_mul_right below
  omega

theorem roundNat_nearest (significant : Significant m) :
    Nat.dist n (roundNat n) ≤ Nat.dist n m := by
  have parts : n / spacing n * spacing n + n % spacing n = n := Nat.div_add_mod' n _
  have rest := Nat.mod_lt n (spacing_positive n)
  have outside := significant.outside (n := n)
  rw [Nat.succ_mul] at outside
  simp only [Nat.dist]
  rcases roundNat_cases n with ⟨rounded, half, -⟩ | ⟨rounded, half, -⟩
  · omega
  · rw [Nat.succ_mul] at rounded
    omega

theorem roundNat_even (significant : Significant m) (other : m ≠ roundNat n)
    (tie : Nat.dist n m = Nat.dist n (roundNat n)) : ∃ k, roundNat n = 2 * k * spacing n := by
  have parts : n / spacing n * spacing n + n % spacing n = n := Nat.div_add_mod' n _
  have rest := Nat.mod_lt n (spacing_positive n)
  have outside := significant.outside (n := n)
  rw [Nat.succ_mul] at outside
  simp only [Nat.dist] at tie
  rcases roundNat_cases n with ⟨rounded, half, even⟩ | ⟨rounded, half, odd⟩
  · have := even (by omega)
    exact ⟨n / spacing n / 2,
      by rw [rounded, show 2 * (n / spacing n / 2) = n / spacing n by omega]⟩
  · have expanded := rounded
    rw [Nat.succ_mul] at expanded
    have := odd (by omega)
    exact ⟨(n / spacing n + 1) / 2,
      by rw [rounded, show 2 * ((n / spacing n + 1) / 2) = n / spacing n + 1 by omega]⟩

end Rounding

theorem roundNat_small (n : Nat) (small : n < 2 ^ 53) : roundNat n = n := by
  have near := roundNat_nearest (n := n) (m := n) ⟨n, 0, small, by simp⟩
  rw [Nat.dist_self, Nat.le_zero] at near
  exact (Nat.eq_of_dist_eq_zero near).symm

-- 2 ^ 53 is a double itself, so nothing above it is rounded to below it.
theorem roundNat_large (n : Nat) (large : 2 ^ 53 ≤ n) : 2 ^ 53 ≤ roundNat n := by
  have near := roundNat_nearest (n := n) ⟨2 ^ 52, 1, by norm_num, rfl⟩
  simp only [Nat.dist] at near
  omega

end Double

inductive Double where
  | finite (value : Int)
  | infinite (negative : Bool)
deriving DecidableEq

namespace Double

@[irreducible] def overflow (exponent : Nat) : Nat := 2 ^ exponent

theorem lt_overflow {n bits exponent : Nat} (small : n < 2 ^ bits) (fits : bits ≤ exponent) :
    n < overflow exponent := by
  unfold overflow
  exact lt_of_lt_of_le small (Nat.pow_le_pow_right (by norm_num) fits)

/-- The value of `Number(text)` for the decimal text of an integer. -/
def ofInt (z : Int) : Double :=
  if roundNat z.natAbs < overflow 1024 then .finite (z.sign * roundNat z.natAbs)
  else .infinite (decide (z < 0))

def isSafeInteger : Double → Bool
  | .finite value => decide (value.natAbs ≤ maxSafeInteger)
  | .infinite _ => false

theorem ofInt_safe (z : Int) (safe : z.natAbs ≤ maxSafeInteger) : ofInt z = .finite z := by
  have small : z.natAbs < 2 ^ 53 := by
    simp only [maxSafeInteger] at safe
    omega
  have below : z.natAbs < overflow 1024 := lt_overflow small (by norm_num)
  simp only [ofInt, roundNat_small _ small, below, if_true, Int.sign_mul_natAbs]

theorem ofInt_unsafe (z : Int) (large : maxSafeInteger < z.natAbs) :
    (ofInt z).isSafeInteger = false := by
  have rounded := roundNat_large z.natAbs (by simp only [maxSafeInteger] at large; omega)
  have sign : z.sign.natAbs = 1 := Int.natAbs_sign_of_ne_zero (by
    intro zero
    simp [zero] at large)
  unfold ofInt
  split
  · simp only [isSafeInteger, Int.natAbs_mul, sign, Int.natAbs_natCast, maxSafeInteger,
      decide_eq_false_iff_not]
    omega
  · rfl

end Double

structure SafeInteger where
  value : Int
  safe : value.natAbs ≤ Double.maxSafeInteger
deriving DecidableEq

namespace SafeInteger

def ofDouble : Double → Option SafeInteger
  | .finite value =>
  if safe : value.natAbs ≤ Double.maxSafeInteger then some ⟨value, safe⟩ else none
  | .infinite _ => none

def neg (n : SafeInteger) : SafeInteger := ⟨-n.value, by simpa using n.safe⟩

@[simp] theorem neg_value (n : SafeInteger) : n.neg.value = -n.value := rfl

@[simp] theorem mk_value (n : SafeInteger) : (⟨n.value, n.safe⟩ : SafeInteger) = n := rfl

/-- A total read back from its decimal text is exact, or no safe integer at all. -/
theorem ofDouble_ofInt (z : Int) :
    ofDouble (.ofInt z) =
      if safe : z.natAbs ≤ Double.maxSafeInteger then some ⟨z, safe⟩ else none := by
  by_cases safe : z.natAbs ≤ Double.maxSafeInteger
  · simp [Double.ofInt_safe z safe, ofDouble, safe]
  · have unsafe_ := Double.ofInt_unsafe z (by omega)
    cases rounded : Double.ofInt z with
    | finite value =>
      have large : ¬ value.natAbs ≤ Double.maxSafeInteger := by
        simpa [rounded, Double.isSafeInteger] using unsafe_
      simp [ofDouble, large, safe]
    | infinite negative => simp [ofDouble, safe]

theorem ofDouble_ofInt_eq_some {z : Int} {n : SafeInteger} :
    ofDouble (.ofInt z) = some n ↔ n.value = z := by
  rw [ofDouble_ofInt]
  constructor
  · intro found
    split at found
    · rw [← Option.some.inj found]
    · simp at found
  · intro same
    subst same
    simp [n.safe]

/-- The total itself while a number holds it; else the refusal of what it was rounded to. -/
def exactly {Error : Type} (refusal : Double → Error) (total : Int) : Except Error SafeInteger :=
  if safe : total.natAbs ≤ Double.maxSafeInteger then .ok ⟨total, safe⟩ else .error (refusal (.ofInt total))

variable {Error Raised : Type} {refusal : Double → Error} {total : Int}
    {result : Except Error SafeInteger}

theorem exactly_of_ofDouble
    (accepted : ∀ money, ofDouble (.ofInt total) = some money → result = .ok money)
    (declined : ofDouble (.ofInt total) = none → result = .error (refusal (.ofInt total))) :
    result = exactly refusal total := by
  rw [ofDouble_ofInt] at accepted declined
  unfold exactly
  split <;> rename_i safe
  · exact accepted _ (by simp [safe])
  · exact declined (by simp [safe])

theorem exactly_mapError (wrap : Error → Raised) :
    (exactly refusal total).mapError wrap = exactly (fun value => wrap (refusal value)) total := by
  unfold exactly
  split <;> rfl

end SafeInteger
