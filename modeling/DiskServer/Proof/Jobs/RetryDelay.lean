import DiskServer.Construction.Jobs.RetryDelay
import Mathlib.Tactic.Ring

namespace DiskServer.Jobs

/-- The delay without jitter doubles with every attempt up to the cap. -/
def saturatedDelay (attempts baseSeconds capSeconds : UInt32) : Nat :=
  min capSeconds.toNat (baseSeconds.toNat * 2 ^ min (max attempts.toNat 1 - 1) 31)

section Words

theorem exactWord_eq {result : Nat} {word : UInt64} (exactly : word.toNat = result) :
    exactWord result word = some word := by
  simp [exactWord, exactly]

theorem narrowWord_eq {word : UInt64} (small : word.toNat < 2 ^ 32) :
    narrowWord word = some word.toUInt32 := by
  simpa [narrowWord] using small

theorem toNat_add_word {first second : UInt64} (small : first.toNat + second.toNat < 2 ^ 64) :
    (first + second).toNat = first.toNat + second.toNat := by
  rw [UInt64.toNat_add]
  exact Nat.mod_eq_of_lt small

theorem toNat_shift_attempts (attempts : UInt32) :
    (attempts.toUInt64 <<< 32).toNat = attempts.toNat * 2 ^ 32 := by
  have small : attempts.toNat * 2 ^ 32 < 2 ^ 64 := by
    have narrow := attempts.toNat_lt
    omega
  rw [UInt64.toNat_shiftLeft, UInt32.toNat_toUInt64, Nat.shiftLeft_eq]
  exact Nat.mod_eq_of_lt small

theorem toNat_min_word (first second : UInt64) :
    (min first second).toNat = min first.toNat second.toNat := by
  change (if first ≤ second then first else second).toNat = _
  simp only [UInt64.le_iff_toNat_le]
  split <;> omega

theorem toNat_min_half (first second : UInt32) :
    (min first second).toNat = min first.toNat second.toNat := by
  change (if first ≤ second then first else second).toNat = _
  simp only [UInt32.le_iff_toNat_le]
  split <;> omega

theorem toNat_retryExponent (attempts : UInt32) :
    (retryExponent attempts).toNat = min (max attempts.toNat 1 - 1) 31 := by
  unfold retryExponent
  rw [toNat_min_half]
  congr 1
  simp only [UInt32.lt_iff_toNat_lt, UInt32.toNat_zero]
  split
  · rw [UInt32.toNat_sub_of_le _ _ (by rw [UInt32.le_iff_toNat_le]; simpa using by assumption)]
    simp only [UInt32.toNat_one]
    omega
  · simp only [UInt32.toNat_zero]
    omega

end Words

section Doubling

/-- Once the cap is reached, further doublings change nothing. -/
theorem min_doubled (capSeconds delay rounds : Nat) :
    min capSeconds (min (delay * 2) capSeconds * 2 ^ rounds) =
      min capSeconds (delay * 2 ^ (rounds + 1)) := by
  have grows : 1 ≤ 2 ^ rounds := Nat.one_le_two_pow
  rw [pow_succ]
  by_cases below : delay * 2 ≤ capSeconds
  · rw [min_eq_left below]
    congr 1
    ring
  · have reached : capSeconds ≤ capSeconds * 2 ^ rounds := Nat.le_mul_of_pos_right _ grows
    have passed : delay * 2 * 1 ≤ delay * 2 * 2 ^ rounds := Nat.mul_le_mul_left _ grows
    have same : delay * (2 ^ rounds * 2) = delay * 2 * 2 ^ rounds := by ring
    rw [min_eq_right (Nat.le_of_not_le below), same, min_eq_left reached, min_eq_left (by omega)]

variable {capSeconds : UInt32}

/-- The loop loses nothing and ends at the doubled delay or at the cap. -/
theorem doubleDelay_exact (rounds : Nat) (delay : UInt64) (within : delay.toNat ≤ capSeconds.toNat) :
    doubleDelayChecked capSeconds rounds delay = some (doubleDelay capSeconds rounds delay) ∧
      (doubleDelay capSeconds rounds delay).toNat = min capSeconds.toNat (delay.toNat * 2 ^ rounds) := by
  have small := capSeconds.toNat_lt
  induction rounds generalizing delay with
  | zero =>
      refine ⟨rfl, ?_⟩
      rw [doubleDelay, pow_zero, Nat.mul_one, min_eq_right within]
  | succ rounds ih =>
      have widened : capSeconds.toUInt64.toNat = capSeconds.toNat := UInt32.toNat_toUInt64 capSeconds
      have doubled : (delay * 2).toNat = delay.toNat * 2 := by
        rw [UInt64.toNat_mul]
        exact Nat.mod_eq_of_lt (by simp; omega)
      by_cases below : delay < capSeconds.toUInt64
      · have next : (min (delay * 2) capSeconds.toUInt64).toNat = min (delay.toNat * 2) capSeconds.toNat := by
          rw [toNat_min_word, doubled, widened]
        have kept := ih (min (delay * 2) capSeconds.toUInt64) (by omega)
        rw [next, min_doubled] at kept
        simp only [doubleDelayChecked, doubleDelay, if_pos below, exactWord_eq doubled]
        exact kept
      · have reached : delay.toNat = capSeconds.toNat := by
          rw [UInt64.lt_iff_toNat_lt, widened] at below
          omega
        have passed : capSeconds.toNat ≤ capSeconds.toNat * 2 ^ (rounds + 1) :=
          Nat.le_mul_of_pos_right _ Nat.one_le_two_pow
        simp only [doubleDelayChecked, doubleDelay, if_neg below, true_and]
        rw [reached, min_eq_left passed]

end Doubling

section Delay

variable (attempts : UInt32) {baseSeconds capSeconds : UInt32}

theorem saturatedDelay_le_cap : saturatedDelay attempts baseSeconds capSeconds ≤ capSeconds.toNat :=
  Nat.min_le_left _ _

/-- A delay is never below the base. -/
theorem base_le_saturatedDelay (ordered : baseSeconds ≤ capSeconds) :
    baseSeconds.toNat ≤ saturatedDelay attempts baseSeconds capSeconds :=
  Nat.le_min.mpr ⟨UInt32.le_iff_toNat_le.mp ordered, Nat.le_mul_of_pos_right _ Nat.one_le_two_pow⟩

/-- The delay is the doubled delay and a jitter, and no step on the way loses a part of its result. -/
theorem computeRetryDelaySeconds_exact (jobId : UInt64) (positive : 1 ≤ baseSeconds)
    (ordered : baseSeconds ≤ capSeconds) :
    ∃ result jitter, computeRetryDelaySeconds jobId attempts baseSeconds capSeconds = .ok result ∧
      retryDelayChecked jobId attempts baseSeconds capSeconds = some result ∧
      result.toNat = saturatedDelay attempts baseSeconds capSeconds + jitter ∧
      jitter ≤ saturatedDelay attempts baseSeconds capSeconds / 4 ∧
      saturatedDelay attempts baseSeconds capSeconds + jitter ≤ capSeconds.toNat := by
  have small := capSeconds.toNat_lt
  have widened : capSeconds.toUInt64.toNat = capSeconds.toNat := UInt32.toNat_toUInt64 capSeconds
  have allowed : ¬ (baseSeconds = 0 ∨ capSeconds < baseSeconds) := by
    rintro (zero | above)
    · rw [zero] at positive
      exact absurd positive (by decide)
    · exact absurd ordered (UInt32.not_le.mpr above)
  have looped := @doubleDelay_exact capSeconds (retryExponent attempts).toNat
    baseSeconds.toUInt64 (by simpa using UInt32.le_iff_toNat_le.mp ordered)
  rw [toNat_retryExponent, UInt32.toNat_toUInt64] at looped
  unfold computeRetryDelaySeconds retryDelayChecked
  rw [if_neg allowed, toNat_retryExponent, looped.1]
  generalize doubleDelay capSeconds _ baseSeconds.toUInt64 = delay at looped
  have exactly : delay.toNat = saturatedDelay attempts baseSeconds capSeconds := looped.2
  have within := exactly.trans_le (saturatedDelay_le_cap attempts)
  have remaining : (capSeconds.toUInt64 - delay).toNat = capSeconds.toNat - delay.toNat := by
    rw [UInt64.toNat_sub_of_le _ _ (by rw [UInt64.le_iff_toNat_le, widened]; exact within), widened]
  have window : (min (delay / 4) (capSeconds.toUInt64 - delay)).toNat =
      min (delay.toNat / 4) (capSeconds.toNat - delay.toNat) := by
    rw [toNat_min_word, remaining, UInt64.toNat_div]
    rfl
  rw [← exactly]
  simp only [Option.bind_eq_bind, Option.bind_some, exactWord_eq remaining]
  generalize min (delay / 4) (capSeconds.toUInt64 - delay) = jitterWindow at window
  split
  · have modulus : (jitterWindow + 1).toNat = jitterWindow.toNat + 1 := by
      apply toNat_add_word
      rw [window, UInt64.toNat_one]
      omega
    have shifted := toNat_shift_attempts attempts
    generalize hashed : mixRetrySeed (jobId ^^^ (attempts.toUInt64 <<< 32)) = seed
    have jitter : (seed % (jitterWindow + 1)).toNat ≤ jitterWindow.toNat := by
      rw [UInt64.toNat_mod, modulus]
      exact Nat.lt_succ_iff.mp (Nat.mod_lt _ (Nat.succ_pos _))
    have delayed : (delay + seed % (jitterWindow + 1)).toNat =
        delay.toNat + (seed % (jitterWindow + 1)).toNat := by
      apply toNat_add_word
      omega
    refine ⟨_, (seed % (jitterWindow + 1)).toNat, rfl, ?_, ?_, by omega, by omega⟩
    · rw [exactWord_eq shifted, Option.bind_some, exactWord_eq modulus, Option.bind_some, hashed,
        exactWord_eq delayed, Option.bind_some]
      exact narrowWord_eq (by omega)
    · rw [UInt64.toNat_toUInt32, delayed]
      exact Nat.mod_eq_of_lt (by omega)
  · refine ⟨delay.toUInt32, 0, rfl, ?_, ?_, Nat.zero_le _, within⟩
    · exact narrowWord_eq (by omega)
    · simp
      omega

/-- Up to the cap the doubling outgrows the largest jitter. -/
theorem saturatedDelay_next (started : 1 ≤ attempts) (early : attempts < 32) :
    min capSeconds.toNat (saturatedDelay attempts baseSeconds capSeconds +
      saturatedDelay attempts baseSeconds capSeconds / 4) ≤
        saturatedDelay (attempts + 1) baseSeconds capSeconds := by
  have first : 1 ≤ attempts.toNat := UInt32.le_iff_toNat_le.mp started
  have last : attempts.toNat < 32 := UInt32.lt_iff_toNat_lt.mp early
  have next : (attempts + 1).toNat = attempts.toNat + 1 := by
    rw [UInt32.toNat_add, UInt32.toNat_one]
    exact Nat.mod_eq_of_lt (by omega)
  obtain ⟨rounds, counted⟩ := Nat.exists_eq_add_of_le' first
  have exponent : min (max attempts.toNat 1 - 1) 31 = rounds := by omega
  have nextExponent : min (max (attempts + 1).toNat 1 - 1) 31 = rounds + 1 := by omega
  unfold saturatedDelay
  rw [exponent, nextExponent, pow_succ, ← Nat.mul_assoc]
  generalize baseSeconds.toNat * 2 ^ rounds = delay
  omega

/-- The delay lies between the doubled delay and a quarter more, it never leaves the bounds, and the next
attempt of any job never waits less. -/
theorem retry_delay_bounded (jobId : UInt64) (positive : 1 ≤ baseSeconds)
    (ordered : baseSeconds ≤ capSeconds) :
    ∃ result, computeRetryDelaySeconds jobId attempts baseSeconds capSeconds = .ok result ∧
      baseSeconds ≤ result ∧ result ≤ capSeconds ∧
      saturatedDelay attempts baseSeconds capSeconds ≤ result.toNat ∧
      result.toNat ≤ min capSeconds.toNat (saturatedDelay attempts baseSeconds capSeconds +
        saturatedDelay attempts baseSeconds capSeconds / 4) ∧
      (1 ≤ attempts → attempts < 32 → ∀ otherJobId, ∃ later,
        computeRetryDelaySeconds otherJobId (attempts + 1) baseSeconds capSeconds = .ok later ∧
          result ≤ later) ∧
      retryDelayChecked jobId attempts baseSeconds capSeconds = some result := by
  obtain ⟨result, jitter, computed, checked, split, quarter, capped⟩ :=
    computeRetryDelaySeconds_exact attempts jobId positive ordered
  have lower := base_le_saturatedDelay attempts ordered
  have upper : result.toNat ≤ min capSeconds.toNat (saturatedDelay attempts baseSeconds capSeconds +
      saturatedDelay attempts baseSeconds capSeconds / 4) := by omega
  refine ⟨result, computed, ?_, ?_, by omega, upper, ?_, checked⟩
  · rw [UInt32.le_iff_toNat_le]
    omega
  · rw [UInt32.le_iff_toNat_le]
    omega
  · intro started early otherJobId
    obtain ⟨later, _, recomputed, -, added, -⟩ :=
      computeRetryDelaySeconds_exact (attempts + 1) otherJobId positive ordered
    have outgrown := @saturatedDelay_next attempts baseSeconds capSeconds started early
    refine ⟨later, recomputed, ?_⟩
    rw [UInt32.le_iff_toNat_le]
    omega

/-- The delay of a third attempt. -/
theorem retry_delay_bounded_third_attempt :
    ∃ result, computeRetryDelaySeconds 7 3 5 3600 = .ok result ∧ 5 ≤ result ∧ result ≤ 3600 ∧
      saturatedDelay 3 5 3600 ≤ result.toNat ∧
      result.toNat ≤ min (3600 : UInt32).toNat (saturatedDelay 3 5 3600 + saturatedDelay 3 5 3600 / 4) ∧
      ((1 : UInt32) ≤ 3 → (3 : UInt32) < 32 → ∀ otherJobId, ∃ later,
        computeRetryDelaySeconds otherJobId (3 + 1) 5 3600 = .ok later ∧ result ≤ later) ∧
      retryDelayChecked 7 3 5 3600 = some result :=
  retry_delay_bounded 3 7 (by decide) (by decide)

end Delay

end DiskServer.Jobs
