import Mathlib.Algebra.Order.Group.Nat

/-
This file gives the rounding of natural numbers to the integers that a binary64 number holds.
-/

namespace DiskServer.Library.Binary64

/-- The distance between two neighbours in the binade of a number. -/
def spacing (value : Nat) : Nat := Nat.pow 2 (Nat.log2 value - 52)

/-- The quotient nearest to a fraction, and the even one of two. -/
def roundQuotient (value step : Nat) : Nat :=
  if 2 * (value % step) < step ∨ (2 * (value % step) = step ∧ value / step % 2 = 0) then
    value / step
  else
    value / step + 1

/-- The number nearest to a natural number, and the even one of two. -/
def nearest (value : Nat) : Nat := roundQuotient value (spacing value) * spacing value

variable {value step first second : Nat}

theorem spacing_pos (value : Nat) : 0 < spacing value := Nat.pow_pos (by decide)

theorem roundQuotient_of_dvd (positive : 0 < step) (divides : step ∣ value) :
    roundQuotient value step = value / step := by
  have rest : value % step = 0 := Nat.mod_eq_zero_of_dvd divides
  exact if_pos (Or.inl (by omega))

theorem le_roundQuotient : value / step ≤ roundQuotient value step := by
  unfold roundQuotient
  split
  · exact le_rfl
  · exact Nat.le_succ _

theorem roundQuotient_le_succ : roundQuotient value step ≤ value / step + 1 := by
  unfold roundQuotient
  split
  · exact Nat.le_succ _
  · exact le_rfl

theorem roundQuotient_mono (ordered : first ≤ second) :
    roundQuotient first step ≤ roundQuotient second step := by
  have quotients : first / step ≤ second / step := Nat.div_le_div_right ordered
  rcases Nat.lt_or_eq_of_le quotients with less | same
  · exact Nat.le_trans roundQuotient_le_succ (Nat.le_trans less le_roundQuotient)
  · have firstParts := Nat.div_add_mod first step
    have secondParts := Nat.div_add_mod second step
    rw [same] at firstParts
    have rests : first % step ≤ second % step := by omega
    unfold roundQuotient
    rw [same]
    split <;> split <;> omega

theorem nearest_of_dvd (divides : spacing value ∣ value) : nearest value = value := by
  rw [nearest, roundQuotient_of_dvd (spacing_pos value) divides]
  exact Nat.div_mul_cancel divides

/-- Every number up to 2^53 is held exactly. -/
theorem nearest_of_le (small : value ≤ 9007199254740992) : nearest value = value := by
  rcases Nat.lt_or_eq_of_le small with less | rfl
  · rcases Nat.eq_zero_or_pos value with rfl | positive
    · decide
    · have exponent : Nat.log2 value < 53 := (Nat.log2_lt (Nat.ne_of_gt positive)).mpr less
      have unit : spacing value = 1 := by
        unfold spacing
        rw [Nat.sub_eq_zero_of_le (Nat.le_of_lt_succ exponent)]
      exact nearest_of_dvd (unit ▸ Nat.one_dvd value)
  · decide +kernel

theorem power_split {total upper lower : Nat} (sum : total = upper + lower) :
    Nat.pow 2 total = Nat.pow 2 upper * Nat.pow 2 lower := by
  rw [sum]
  exact Nat.pow_add 2 upper lower

/-- Rounding stays within the binade of a large number. -/
theorem nearest_binade (large : 52 ≤ Nat.log2 value) (positive : value ≠ 0) :
    Nat.pow 2 (Nat.log2 value) ≤ nearest value ∧ nearest value ≤ Nat.pow 2 (Nat.log2 value + 1) := by
  have split : Nat.pow 2 (Nat.log2 value) = Nat.pow 2 52 * spacing value := power_split (by omega)
  have next : Nat.pow 2 (Nat.log2 value + 1) = Nat.pow 2 53 * spacing value := power_split (by omega)
  have above : Nat.pow 2 (Nat.log2 value) ≤ value := Nat.log2_self_le positive
  have below : value < Nat.pow 2 (Nat.log2 value + 1) := Nat.lt_log2_self
  rw [split] at above
  rw [next] at below
  have least : Nat.pow 2 52 ≤ value / spacing value :=
    (Nat.le_div_iff_mul_le (spacing_pos value)).mpr above
  have most : value / spacing value < Nat.pow 2 53 :=
    (Nat.div_lt_iff_lt_mul (spacing_pos value)).mpr below
  rw [split, next]
  constructor
  · exact Nat.mul_le_mul_right _ (Nat.le_trans least le_roundQuotient)
  · exact Nat.mul_le_mul_right _ (Nat.le_trans roundQuotient_le_succ most)

theorem log2_mono (positive : first ≠ 0) (ordered : first ≤ second) : Nat.log2 first ≤ Nat.log2 second :=
  (Nat.le_log2 (by omega)).mpr (Nat.le_trans (Nat.log2_self_le positive) ordered)

/-- Rounding keeps the order. -/
theorem nearest_mono (ordered : first ≤ second) : nearest first ≤ nearest second := by
  rcases Nat.eq_zero_or_pos first with rfl | positive
  · exact Nat.zero_le _
  have nonzero : first ≠ 0 := Nat.ne_of_gt positive
  have exponents := log2_mono nonzero ordered
  rcases Nat.lt_or_ge (Nat.log2 second) 53 with small | large
  · have less : second ≤ 9007199254740992 :=
      Nat.le_of_lt ((Nat.log2_lt (by omega)).mp small)
    rw [nearest_of_le less, nearest_of_le (Nat.le_trans ordered less)]
    exact ordered
  · rcases Nat.lt_or_eq_of_le exponents with less | same
    · have upper := nearest_binade (Nat.le_of_lt large) (by omega)
      rcases Nat.lt_or_ge (Nat.log2 first) 52 with exact | beyond
      · have fits : first ≤ 9007199254740992 :=
          Nat.le_of_lt ((Nat.log2_lt nonzero).mp (Nat.lt_succ_of_lt exact))
        rw [nearest_of_le fits]
        have power : (9007199254740992 : Nat) ≤ Nat.pow 2 (Nat.log2 second) :=
          Nat.pow_le_pow_right Nat.zero_lt_two large
        exact Nat.le_trans fits (Nat.le_trans power upper.1)
      · have lower := nearest_binade beyond nonzero
        have powers : Nat.pow 2 (Nat.log2 first + 1) ≤ Nat.pow 2 (Nat.log2 second) :=
          Nat.pow_le_pow_right Nat.zero_lt_two less
        exact Nat.le_trans lower.2 (Nat.le_trans powers upper.1)
    · have steps : spacing first = spacing second := by rw [spacing, spacing, same]
      rw [nearest, nearest, steps]
      exact Nat.mul_le_mul_right _ (roundQuotient_mono ordered)

section Quotients

/-- The binary places behind the point that the quotient of two numbers keeps. -/
def places (value step : Nat) : Nat := 116 - Nat.log2 (value * Nat.pow 2 64 / step)

/-- The ceiling of the number nearest to a quotient. -/
def ceilQuotient (value step : Nat) : Nat :=
  (roundQuotient (value * Nat.pow 2 (places value step)) step + Nat.pow 2 (places value step) - 1) /
    Nat.pow 2 (places value step)

/-- A rounded quotient lies between the whole numbers around the quotient when the unit is not smaller than the step. -/
theorem ceil_roundQuotient {unit : Nat} (positive : 0 < step) (enough : step ≤ unit) :
    (roundQuotient (value * unit) step + unit - 1) / unit = (value + step - 1) / step := by
  have one : 0 < unit := positive.trans_le enough
  have above : value ≤ step * ((value + step - 1) / step) := by
    have rest := Nat.mod_lt (value + step - 1) positive
    have parts := Nat.div_add_mod (value + step - 1) step
    omega
  have below : step * ((value + step - 1) / step) ≤ value + step - 1 := Nat.mul_div_le _ _
  generalize (value + step - 1) / step = ceiling at above below
  have scaled : value * unit ≤ step * (ceiling * unit) := by
    rw [← Nat.mul_assoc]
    exact Nat.mul_le_mul_right unit above
  have upper : roundQuotient (value * unit) step ≤ ceiling * unit := by
    by_cases divides : step ∣ value * unit
    · rw [roundQuotient_of_dvd positive divides]
      exact Nat.div_le_of_le_mul scaled
    · have strict : value * unit < step * (ceiling * unit) := by
        apply Nat.lt_of_le_of_ne scaled
        rintro same
        exact divides ⟨_, same⟩
      exact roundQuotient_le_succ.trans (Nat.div_lt_of_lt_mul strict)
  cases ceiling with
  | zero =>
      rw [Nat.zero_mul] at upper
      rw [Nat.le_zero.mp upper]
      exact Nat.div_eq_of_lt (by omega)
  | succ before =>
      have lower : before * unit + 1 ≤ roundQuotient (value * unit) step := by
        apply Nat.le_trans _ le_roundQuotient
        rw [Nat.le_div_iff_mul_le positive]
        rw [Nat.mul_succ] at below
        have more : step * before + 1 ≤ value := by omega
        calc
          (before * unit + 1) * step
          _ = step * before * unit + step := by rw [Nat.succ_mul, Nat.mul_comm (before * unit), Nat.mul_assoc]
          _ ≤ step * before * unit + unit := Nat.add_le_add_left enough _
          _ = (step * before + 1) * unit := (Nat.succ_mul _ _).symm
          _ ≤ value * unit := Nat.mul_le_mul_right unit more
      rw [Nat.succ_mul] at upper
      apply Nat.div_eq_of_lt_le
      · rw [Nat.succ_mul]
        omega
      · rw [Nat.succ_mul, Nat.succ_mul]
        omega

/-- A small step and a numerator of 32 bits leave places enough to tell quotients from whole numbers. -/
theorem ceilQuotient_eq (positive : 0 < step) (least : step ≤ 128) (few : value < 4294967296) :
    ceilQuotient value step = (value + step - 1) / step := by
  have exponent : Nat.log2 (value * Nat.pow 2 64 / step) ≤ 96 := by
    by_contra large
    have nonzero : value * Nat.pow 2 64 / step ≠ 0 := by
      intro zero
      rw [zero] at large
      exact large (by decide)
    have reached : 2 ^ 97 ≤ value * Nat.pow 2 64 / step :=
      (Nat.le_log2 nonzero).mp (Nat.lt_of_not_le large)
    have below : value * Nat.pow 2 64 / step ≤ value * Nat.pow 2 64 := Nat.div_le_self _ _
    have product : value * Nat.pow 2 64 < 2 ^ 96 := by
      change value * 18446744073709551616 < 79228162514264337593543950336
      omega
    have powers : (2 : Nat) ^ 96 < 2 ^ 97 := by decide
    omega
  obtain ⟨more, split⟩ := Nat.exists_eq_add_of_le (show 20 ≤ places value step by unfold places; omega)
  have enough : step ≤ Nat.pow 2 (places value step) := by
    rw [power_split split]
    have one : 0 < Nat.pow 2 more := Nat.pow_pos (by decide)
    calc
      step ≤ Nat.pow 2 20 * 1 := least.trans (by decide)
      _ ≤ Nat.pow 2 20 * Nat.pow 2 more := Nat.mul_le_mul_left _ one
  exact ceil_roundQuotient positive enough

end Quotients

end DiskServer.Library.Binary64
