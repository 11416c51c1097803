import Mathlib.Algebra.Ring.Nat
import QuadTxn.Txn.Retry

/-!
# Waiting before a repetition

A wait is computed in 64 bits, and a power or a product that takes more is replaced by the largest
number of 64 bits. What comes of it is all the same the number that unbounded arithmetic gives
(`RetryPolicy.backoff_exact`): a wait is cut at a number of 64 bits in the end, and what was
replaced before is beyond it, unless it is multiplied by zero.
-/

namespace QuadTxn.RetryPolicy

/-- An answer in 64 bits is the given number, and is missing only if the number takes more bits. -/
def Exact (answer : Option UInt64) (k : Nat) : Prop := ∀ a, answer = some a ↔ a.toNat = k

theorem toNat_ceiling : ceiling.toNat = UInt64.size - 1 := by decide

namespace Exact

variable {answer : Option UInt64} {k : Nat}

/-- A number of 64 bits is answered. -/
theorem of_lt {a : UInt64} (ha : a.toNat = k) : Exact (some a) k := by
  intro a'
  rw [Option.some.injEq, ← ha, ← UInt64.toNat_inj, eq_comm]

/-- A number of more than 64 bits is not. -/
theorem of_ge (hk : UInt64.size ≤ k) : Exact none k := by
  intro a
  have ha := a.toNat_lt_size
  exact ⟨nofun, fun h => by omega⟩

/-- With the largest number in the place of a missing one, an exact answer is the number itself or
the largest. -/
theorem toNat_getD (h : Exact answer k) :
    (answer.getD ceiling).toNat = min k (UInt64.size - 1) := by
  rcases hanswer : answer with _ | a
  · have hlarge : UInt64.size ≤ k := by
      refine Nat.le_of_not_lt fun hlt => ?_
      have hsome := (h (.ofNat k)).mpr (UInt64.toNat_ofNat_of_lt' hlt)
      rw [hanswer] at hsome
      cases hsome
    rw [Option.getD_none, toNat_ceiling, Nat.min_eq_right (by omega)]
  · have ha : a.toNat = k := (h a).mp hanswer
    have hlt := a.toNat_lt_size
    rw [Option.getD_some, ha, Nat.min_eq_left (by omega)]

end Exact

/-! ## The steps -/

/-- A power of two is exact. -/
theorem exact_power (e : UInt32) : Exact (power? e) (2 ^ e.toNat) := by
  unfold power?
  split
  · rename_i hlt
    have he : e.toNat < 64 := UInt32.lt_iff_toNat_lt.mp hlt
    have hpow : 2 ^ e.toNat < 2 ^ 64 := Nat.pow_lt_pow_right (by decide) he
    refine .of_lt ?_
    rw [UInt64.toNat_shiftLeft, UInt32.toNat_toUInt64, Nat.mod_eq_of_lt he, UInt64.toNat_one,
      Nat.one_shiftLeft, Nat.mod_eq_of_lt hpow]
  · rename_i hge
    have he : 64 ≤ e.toNat := Nat.le_of_not_lt fun hlt => hge (UInt32.lt_iff_toNat_lt.mpr hlt)
    exact .of_ge (Nat.pow_le_pow_right (by decide) he : 2 ^ 64 ≤ 2 ^ e.toNat)

/-- So it is for every number, since the power of one that is no exponent is beyond 64 bits. -/
theorem exact_factor (n : UInt64) : Exact ((exponent? n).bind power?) (2 ^ n.toNat) := by
  unfold exponent?
  split
  · rename_i hlt
    have hn : n.toUInt32.toNat = n.toNat := by
      rw [UInt64.toNat_toUInt32]
      exact Nat.mod_eq_of_lt hlt
    rw [Option.bind_some, ← hn]
    exact exact_power n.toUInt32
  · rename_i hge
    have hn : 64 ≤ n.toNat := Nat.le_trans (by decide) (Nat.le_of_not_lt hge)
    exact .of_ge (Nat.pow_le_pow_right (by decide) hn : 2 ^ 64 ≤ 2 ^ n.toNat)

/-- A product is exact. -/
theorem exact_product (a b : UInt64) : Exact (product? a b) (a.toNat * b.toNat) := by
  unfold product?
  split
  · rename_i hlt
    refine .of_lt ?_
    rw [UInt64.toNat_mul]
    exact Nat.mod_eq_of_lt hlt
  · rename_i hge
    exact .of_ge (Nat.le_of_not_lt hge)

/-- Of two numbers of 64 bits the smaller one is chosen. -/
theorem toNat_ite_le (a b : UInt64) : (if a ≤ b then a else b).toNat = min a.toNat b.toNat := by
  split
  · rename_i hle
    exact (Nat.min_eq_left (UInt64.le_iff_toNat_le.mp hle)).symm
  · rename_i hgt
    rw [UInt64.le_iff_toNat_le] at hgt
    exact (Nat.min_eq_right (by omega)).symm

/-- A factor and a product may be cut at a bound, if the result is cut at a number that is no
larger: either the other factor is zero, or what was cut was too large already. -/
theorem min_mul_min {bound least : Nat} (h : least ≤ bound) (a b : Nat) :
    min (min (a * min b bound) bound) least = min (a * b) least := by
  rcases Nat.eq_zero_or_pos a with rfl | ha
  · simp
  · rcases Nat.le_total b bound with hb | hb
    · rw [Nat.min_eq_left hb, Nat.min_assoc, Nat.min_eq_right h]
    · have hcut : bound ≤ a * bound := Nat.le_mul_of_pos_left bound ha
      have hfull : bound ≤ a * b := Nat.le_trans hb (Nat.le_mul_of_pos_left b ha)
      rw [Nat.min_eq_right hb, Nat.min_eq_right hcut, Nat.min_eq_right h,
        Nat.min_eq_right (Nat.le_trans h hfull)]

/-! ## The wait -/

theorem toNat_backoff (p : RetryPolicy) (n : UInt64) :
    (p.backoff n).toNat = min (p.baseDelay.toNat * 2 ^ n.toNat) p.maxDelay.toNat := by
  have hmax : p.maxDelay.toNat ≤ UInt64.size - 1 := by
    have := p.maxDelay.toNat_lt_size
    omega
  calc (p.backoff n).toNat
      = min ((product? p.baseDelay (((exponent? n).bind power?).getD ceiling)).getD ceiling).toNat
          p.maxDelay.toNat := toNat_ite_le _ _
    _ = min (min (p.baseDelay.toNat * min (2 ^ n.toNat) (UInt64.size - 1)) (UInt64.size - 1))
          p.maxDelay.toNat := by
        rw [(exact_product _ _).toNat_getD, (exact_factor n).toNat_getD]
    _ = min (p.baseDelay.toNat * 2 ^ n.toNat) p.maxDelay.toNat := min_mul_min hmax _ _

/-- The wait before a repetition is the first wait, doubled as often as the work has been run again,
and cut at the longest one, as if there were no largest number. It is never longer than the longest,
and never shorter than the one before it. Neither the power nor the product ever overflows: it is
exact, or it is found to take more than 64 bits. -/
theorem backoff_exact (p : RetryPolicy) (n : UInt64) :
    (p.backoff n).toNat = min (p.baseDelay.toNat * 2 ^ n.toNat) p.maxDelay.toNat ∧
      p.backoff n ≤ p.maxDelay ∧ (∀ n', n ≤ n' → p.backoff n ≤ p.backoff n') ∧
      Exact ((exponent? n).bind power?) (2 ^ n.toNat) ∧
      ∀ a b, Exact (product? a b) (a.toNat * b.toNat) := by
  refine ⟨p.toNat_backoff n, ?_, fun n' hn => ?_, exact_factor n, exact_product⟩
  · rw [UInt64.le_iff_toNat_le, toNat_backoff]
    exact Nat.min_le_right _ _
  · have hpow : 2 ^ n.toNat ≤ 2 ^ n'.toNat :=
      Nat.pow_le_pow_right (by decide) (UInt64.le_iff_toNat_le.mp hn)
    have hdelay := Nat.mul_le_mul_left p.baseDelay.toNat hpow
    rw [UInt64.le_iff_toNat_le, toNat_backoff, toNat_backoff]
    omega

/-- The largest power of 64 bits, the first one that is cut, and a first wait of zero. -/
example : (⟨3, 1, ceiling⟩ : RetryPolicy).backoff 63 = 2 ^ 63 ∧
    (⟨3, 1, ceiling⟩ : RetryPolicy).backoff 64 = ceiling ∧
    (⟨3, 0, ceiling⟩ : RetryPolicy).backoff ceiling = 0 := by
  decide +kernel

end QuadTxn.RetryPolicy
