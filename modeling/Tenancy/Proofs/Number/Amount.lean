/-
# What a number amounts to

An integer and a number with a point are kept apart everywhere, except where they are compared. To
say that the comparison is one of values, a number in the binary format is given the rational number
it stands for. It equals an integer exactly where the two amount to the same. Two numbers with a
point are compared by their parts, and this comes to the same thing for the forms that rounding
gives, where every value has one form only. Every number that is read or computed has such a form.
-/

import Mathlib.Algebra.Order.Field.Rat
import Mathlib.Algebra.Order.Ring.Abs
import Mathlib.Data.Rat.Cast.Order
import Mathlib.Tactic.NormNum
import Tenancy.Number.Binary64

namespace Tenancy

/-- What a number amounts to. -/
inductive Amount where
  | finite (x : ℚ)
  | infinite (negative : Bool)

namespace Binary64

/-- The rational number `± significand · 2 ^ exponent`. -/
def rational (negative : Bool) (significand : Nat) (exponent : Int) : ℚ :=
  (if negative then -1 else 1) * significand * 2 ^ exponent

/-- What a number with a point amounts to. The undefined value amounts to nothing. -/
def amount? : Binary64 → Option Amount
  | .finite negative m q => some (.finite (rational negative m q))
  | .infinite negative => some (.infinite negative)
  | .nan => none

/-- The value has the form that rounding gives it: its significand has 53 binary digits, or its
exponent is the smallest there is. -/
def Standard : Binary64 → Prop
  | .finite _ m q => m < twoTo 53 ∧ minExponent ≤ q ∧ (twoTo 52 ≤ m ∨ q = minExponent)
  | _ => True

/-! ## Compared with an integer -/

/-- A natural number with a sign. -/
def signed (negative : Bool) (n : Nat) : Int :=
  if negative then -(n : Int) else n

theorem rational_eq (negative : Bool) (m : Nat) (q : Int) :
    rational negative m q = (signed negative m : ℚ) * 2 ^ q := by
  cases negative <;> simp [rational, signed]

theorem cast_twoTo (n : Nat) : (twoTo n : ℚ) = 2 ^ (n : Int) := by
  simp [twoTo]

theorem zpow_of_nonneg {q : Int} (h : 0 ≤ q) : (2 : ℚ) ^ q = (twoTo q.toNat : ℚ) := by
  rw [cast_twoTo, Int.toNat_of_nonneg h]

theorem zpow_of_neg {q : Int} (h : q < 0) : (2 : ℚ) ^ q = (twoTo (-q).toNat : ℚ)⁻¹ := by
  rw [← zpow_of_nonneg (by omega), zpow_neg, inv_inv]

theorem signed_mul (negative : Bool) (m k : Nat) :
    signed negative (m * k) = signed negative m * k := by
  cases negative <;> simp [signed]

theorem natAbs_signed (negative : Bool) (m : Nat) : (signed negative m).natAbs = m := by
  cases negative <;> simp [signed]

theorem toInt?_of_nonneg {negative : Bool} {m : Nat} {q : Int} (h : 0 ≤ q) :
    toInt? (.finite negative m q) = some (signed negative (m * twoTo q.toNat)) := by
  rw [toInt?]
  exact if_pos h

theorem toInt?_of_neg {negative : Bool} {m : Nat} {q : Int} (h : q < 0) :
    toInt? (.finite negative m q) =
      if m % twoTo (-q).toNat = 0 then some (signed negative (m / twoTo (-q).toNat)) else none := by
  rw [toInt?]
  exact if_neg (by omega)

/-- A number with a point equals an integer exactly where it amounts to it. -/
theorem equalsInt_iff (x : Binary64) (n : Int) :
    x.equalsInt n = true ↔ x.amount? = some (.finite n) := by
  rw [equalsInt, beq_iff_eq]
  cases x with
  | nan => simp [toInt?, amount?]
  | infinite negative => simp [toInt?, amount?]
  | finite negative m q =>
      rw [amount?, Option.some_inj, Amount.finite.injEq, rational_eq]
      rcases le_or_gt 0 q with hq | hq
      · rw [toInt?_of_nonneg hq, Option.some_inj, zpow_of_nonneg hq, signed_mul]
        exact_mod_cast Iff.rfl
      · rw [toInt?_of_neg hq, zpow_of_neg hq]
        have positive := twoTo_pos (-q).toNat
        generalize twoTo (-q).toNat = k at positive
        rw [mul_inv_eq_iff_eq_mul₀ (Nat.cast_ne_zero.mpr (Nat.ne_of_gt positive))]
        norm_cast
        split
        · rename_i hdvd
          have whole : signed negative m = signed negative (m / k) * k := by
            rw [← signed_mul, Nat.div_mul_cancel (Nat.dvd_of_mod_eq_zero hdvd)]
          rw [Option.some_inj, whole, Int.mul_eq_mul_right_iff (by omega)]
        · rename_i hdvd
          refine iff_of_false (fun h => nomatch h) fun h => hdvd ?_
          rw [← natAbs_signed negative m, h, Int.natAbs_mul, Int.natAbs_natCast, Nat.mul_mod_left]

/-! ## Compared with each other -/

theorem abs_rational (negative : Bool) (m : Nat) (q : Int) :
    |rational negative m q| = m * 2 ^ q := by
  have positive : (0 : ℚ) < 2 ^ q := zpow_pos (by norm_num) q
  rw [rational_eq, abs_mul, abs_of_pos positive]
  cases negative <;> simp [signed]

/-- Of two equal magnitudes in the standard form, the second has no larger exponent: its significand
would have to be small, and it is not. -/
theorem exponent_le {m m' : Nat} {q q' : Int} (hm : m < twoTo 53) (hq : minExponent ≤ q)
    (hm' : twoTo 52 ≤ m' ∨ q' = minExponent) (h : (m : ℚ) * 2 ^ q = m' * 2 ^ q') : q' ≤ q := by
  by_contra hlarger
  obtain ⟨k, rfl⟩ : ∃ k : Nat, q' = q + (k + 1 : Nat) := ⟨(q' - q - 1).toNat, by omega⟩
  have whole : m = m' * 2 ^ (k + 1) := by
    rw [zpow_add₀ (by norm_num), zpow_natCast, mul_left_comm, mul_comm,
      mul_right_inj' (zpow_ne_zero q (by norm_num))] at h
    exact_mod_cast h
  have full : twoTo 52 ≤ m' := hm'.resolve_right (by omega)
  have doubled : m' * 2 ≤ m := by
    rw [whole, Nat.pow_succ, ← Nat.mul_assoc, Nat.mul_right_comm]
    exact Nat.le_mul_of_pos_right _ (Nat.two_pow_pos k)
  have top : twoTo 53 = twoTo 52 * 2 := rfl
  omega

theorem rational_inj {s s' : Bool} {m m' : Nat} {q q' : Int} (hx : Standard (.finite s m q))
    (hy : Standard (.finite s' m' q')) (hm : m ≠ 0) (h : rational s m q = rational s' m' q') :
    s = s' ∧ m = m' ∧ q = q' := by
  have magnitudes : (m : ℚ) * 2 ^ q = m' * 2 ^ q' := by
    rw [← abs_rational s, ← abs_rational s', h]
  obtain ⟨hm53, hq, hmq⟩ := hx
  obtain ⟨hm53', hq', hmq'⟩ := hy
  obtain rfl : q = q' := Int.le_antisymm (exponent_le hm53' hq' hmq magnitudes.symm)
    (exponent_le hm53 hq hmq' magnitudes)
  rw [rational_eq, rational_eq, mul_left_inj' (zpow_ne_zero q (by norm_num))] at h
  have parts : signed s m = signed s' m' := by exact_mod_cast h
  obtain rfl : m = m' := by rw [← natAbs_signed s m, parts, natAbs_signed]
  refine ⟨?_, rfl, rfl⟩
  cases s <;> cases s' <;> simp [signed] at parts ⊢ <;> omega

/-- Two numbers with a point of the standard form are the same exactly where they amount to the
same. -/
theorem sameNumber_iff {x y : Binary64} (hx : x.Standard) (hy : y.Standard) :
    x.sameNumber y = true ↔ ∃ a, x.amount? = some a ∧ y.amount? = some a := by
  cases x with
  | nan => exact iff_of_false (fun h => nomatch h) fun ⟨_, h, _⟩ => nomatch h
  | infinite s =>
      cases y with
      | infinite s' =>
          rw [sameNumber, beq_iff_eq]
          exact ⟨fun h => ⟨_, rfl, h ▸ rfl⟩, fun ⟨_, h, h'⟩ => by cases h; cases h'; rfl⟩
      | finite => exact iff_of_false (fun h => nomatch h) fun ⟨_, h, h'⟩ => by cases h; cases h'
      | nan => exact iff_of_false (fun h => nomatch h) fun ⟨_, _, h'⟩ => nomatch h'
  | finite s m q =>
      cases y with
      | nan => exact iff_of_false (fun h => nomatch h) fun ⟨_, _, h'⟩ => nomatch h'
      | infinite => exact iff_of_false (fun h => nomatch h) fun ⟨_, h, h'⟩ => by cases h; cases h'
      | finite s' m' q' =>
          rw [sameNumber, Bool.or_eq_true, Bool.and_eq_true, Bool.and_eq_true, Bool.and_eq_true]
          simp only [beq_iff_eq, amount?, Option.some_inj, exists_eq_left', Amount.finite.injEq,
            and_assoc]
          constructor
          · rintro (⟨rfl, rfl⟩ | ⟨rfl, rfl, rfl⟩)
            · simp [rational]
            · rfl
          · intro h
            rcases Nat.eq_zero_or_pos m with rfl | hm
            · have magnitude := abs_rational s' m' q'
              rw [h] at magnitude
              exact .inl ⟨rfl, by simpa [rational, zpow_ne_zero] using magnitude⟩
            · exact .inr (rational_inj hx hy (Nat.ne_of_gt hm) h.symm)

/-! ## The form that rounding gives -/

/-- What is at most a quotient is at most the integer nearest to it. -/
theorem le_roundDiv {a num den : Nat} (hden : 0 < den) (h : a * den ≤ num) :
    a ≤ roundDiv num den := by
  have whole : a ≤ num / den := (Nat.le_div_iff_mul_le hden).mpr h
  unfold roundDiv
  dsimp only
  split_ifs <;> omega

/-- What is more than a quotient is at least the integer nearest to it. -/
theorem roundDiv_le {a num den : Nat} (hden : 0 < den) (h : num < a * den) :
    roundDiv num den ≤ a := by
  have whole : num / den < a := (Nat.div_lt_iff_lt_mul hden).mpr h
  unfold roundDiv
  dsimp only
  split_ifs <;> omega

/-- The integer nearest to `num / den / 2 ^ q`. -/
def significandAt (num den : Nat) (q : Int) : Nat :=
  if 0 ≤ q then roundDiv num (den * twoTo q.toNat) else roundDiv (num * twoTo (-q).toNat) den

/-- The logarithms of the numbers guess that of the quotient, or one too many. -/
theorem floorLog2_eq {num den : Nat} {guess : Int} (hguess : (num.log2 : Int) - den.log2 = guess) :
    floorLog2 num den = guess ∧ (2 : ℚ) ^ guess * den ≤ num ∨
      floorLog2 num den = guess - 1 ∧ (num : ℚ) < 2 ^ guess * den := by
  have reached_iff : (if 0 ≤ guess then den * twoTo guess.toNat ≤ num
      else den ≤ num * twoTo (-guess).toNat) ↔ (2 : ℚ) ^ guess * den ≤ num := by
    split
    · rename_i h
      rw [zpow_of_nonneg h, mul_comm]
      exact_mod_cast Iff.rfl
    · rename_i h
      have positive : (0 : ℚ) < twoTo (-guess).toNat := Nat.cast_pos.mpr (twoTo_pos _)
      rw [zpow_of_neg (by omega), inv_mul_le_iff₀' positive]
      exact_mod_cast Iff.rfl
  unfold floorLog2
  dsimp only
  rw [hguess]
  by_cases h : if 0 ≤ guess then den * twoTo guess.toNat ≤ num
    else den ≤ num * twoTo (-guess).toNat
  · exact .inl ⟨if_pos h, reached_iff.mp h⟩
  · exact .inr ⟨if_neg h, not_le.mp fun hreached => h (reached_iff.mpr hreached)⟩

section Quotient

variable {num den : Nat} (hden : 0 < den)
include hden

theorem le_significandAt {a : Nat} {q : Int} (h : (a : ℚ) * 2 ^ q * den ≤ num) :
    a ≤ significandAt num den q := by
  unfold significandAt
  split
  · rename_i hq
    rw [zpow_of_nonneg hq] at h
    refine le_roundDiv (Nat.mul_pos hden (twoTo_pos _)) ?_
    rw [← Nat.mul_assoc, Nat.mul_right_comm]
    exact_mod_cast h
  · rename_i hq
    rw [zpow_of_neg (by omega), mul_right_comm] at h
    have positive : (0 : ℚ) < twoTo (-q).toNat := Nat.cast_pos.mpr (twoTo_pos _)
    refine le_roundDiv hden ?_
    exact_mod_cast (mul_inv_le_iff₀ positive).mp h

theorem significandAt_le {a : Nat} {q : Int} (h : (num : ℚ) < a * 2 ^ q * den) :
    significandAt num den q ≤ a := by
  unfold significandAt
  split
  · rename_i hq
    rw [zpow_of_nonneg hq] at h
    refine roundDiv_le (Nat.mul_pos hden (twoTo_pos _)) ?_
    rw [← Nat.mul_assoc, Nat.mul_right_comm]
    exact_mod_cast h
  · rename_i hq
    rw [zpow_of_neg (by omega), mul_right_comm] at h
    have positive : (0 : ℚ) < twoTo (-q).toNat := Nat.cast_pos.mpr (twoTo_pos _)
    refine roundDiv_le hden ?_
    exact_mod_cast (lt_mul_inv_iff₀ positive).mp h

/-- A quotient lies between two powers of two. -/
theorem floorLog2_spec (hnum : 0 < num) :
    (2 : ℚ) ^ floorLog2 num den * den ≤ num ∧ (num : ℚ) < 2 ^ (floorLog2 num den + 1) * den := by
  have positive (q : Int) : (0 : ℚ) ≤ 2 ^ q := le_of_lt (zpow_pos (by norm_num) q)
  have numLow : (2 : ℚ) ^ (num.log2 : Int) ≤ num := by
    exact_mod_cast Nat.log2_self_le (Nat.ne_of_gt hnum)
  have numHigh : (num : ℚ) < 2 ^ ((num.log2 : Int) + 1) := by
    exact_mod_cast Nat.lt_log2_self
  have denLow : (2 : ℚ) ^ (den.log2 : Int) ≤ den := by
    exact_mod_cast Nat.log2_self_le (Nat.ne_of_gt hden)
  have denHigh : (den : ℚ) < 2 ^ ((den.log2 : Int) + 1) := by
    exact_mod_cast Nat.lt_log2_self
  obtain ⟨guess, hguess⟩ : ∃ guess, (num.log2 : Int) - den.log2 = guess := ⟨_, rfl⟩
  obtain ⟨hfloor, hreached⟩ | ⟨hfloor, hmissed⟩ := floorLog2_eq hguess
  · rw [hfloor]
    refine ⟨hreached, ?_⟩
    calc (num : ℚ) < 2 ^ ((num.log2 : Int) + 1) := numHigh
      _ = 2 ^ (guess + 1) * 2 ^ (den.log2 : Int) := by
        rw [← zpow_add₀ (by norm_num)]
        congr 1
        omega
      _ ≤ 2 ^ (guess + 1) * den := mul_le_mul_of_nonneg_left denLow (positive _)
  · rw [hfloor, sub_add_cancel]
    refine ⟨?_, hmissed⟩
    calc (2 : ℚ) ^ (guess - 1) * den ≤ 2 ^ (guess - 1) * 2 ^ ((den.log2 : Int) + 1) :=
          mul_le_mul_of_nonneg_left (le_of_lt denHigh) (positive _)
      _ = 2 ^ (num.log2 : Int) := by
        rw [← zpow_add₀ (by norm_num)]
        congr 1
        omega
      _ ≤ num := numLow

end Quotient

theorem standard_signedZero (negative : Bool) : (signedZero negative).Standard :=
  ⟨twoTo_pos 53, le_refl _, .inr rfl⟩

/-- Rounding gives a number its form. -/
theorem standard_ofRatio (negative : Bool) (num : Nat) {den : Nat} (hden : 0 < den) :
    (ofRatio negative num den).Standard := by
  unfold ofRatio
  split
  · exact standard_signedZero negative
  · rename_i hnum
    obtain ⟨hlow, hhigh⟩ := floorLog2_spec hden (Nat.pos_of_ne_zero hnum)
    generalize floorLog2 num den = k at hlow hhigh
    dsimp only
    rw [← significandAt]
    generalize hq : max (k - 52) minExponent = q
    have lowest : minExponent ≤ q := hq ▸ le_max_right _ _
    have small : significandAt num den q ≤ twoTo 53 := by
      refine significandAt_le hden (hhigh.trans_le ?_)
      have reach : k + 1 ≤ (53 : Nat) + q := by omega
      rw [cast_twoTo, ← zpow_add₀ (by norm_num)]
      exact mul_le_mul_of_nonneg_right (zpow_le_zpow_right₀ (by norm_num) reach) (Nat.cast_nonneg _)
    have large : q = minExponent ∨ twoTo 52 ≤ significandAt num den q := by
      refine (max_choice (k - 52) minExponent).symm.imp hq.symm.trans fun hk => ?_
      have exact_power : (52 : Nat) + q = k := by omega
      refine le_significandAt hden ?_
      rwa [cast_twoTo, ← zpow_add₀ (by norm_num), exact_power]
    have capped {m : Nat} {p : Int} (h : Standard (.finite negative m p)) :
        Standard (if maxExponent < p then .infinite negative else .finite negative m p) := by
      split
      · trivial
      · exact h
    split
    · have room : twoTo 52 < twoTo 53 := by decide
      exact capped ⟨room, by omega, .inl le_rfl⟩
    · rename_i hcarry
      exact capped ⟨lt_of_le_of_ne small hcarry, lowest, large.symm⟩

/-- Every decimal numeral is read as a number of this form. -/
theorem standard_ofDecimal (negative : Bool) (digits : Nat) (scale : Int) :
    (ofDecimal negative digits scale).Standard := by
  unfold ofDecimal
  dsimp only
  split_ifs
  · exact standard_signedZero negative
  · trivial
  · exact standard_signedZero negative
  · exact standard_ofRatio _ _ Nat.one_pos
  · exact standard_ofRatio _ _ (tenTo_pos _)

end Binary64

end Tenancy
