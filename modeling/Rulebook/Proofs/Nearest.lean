import Rulebook.Proofs.Rounding

/-!
# Rounding to the nearest double

`Double.ofRatio` finds an exponent, rounds a quotient to an integer and packs the two.  Here it is
compared with what rounding means: `Double.IsNearest q x` says that no double is nearer to `q` than
`x`, that of two doubles at the same distance `x` is the one with the even significand, and that
numbers from halfway beyond the greatest double on become an infinity.  This is what rounding gives
(`Double.isNearest_ofRatio`, `Double.isNearest_ofScientific`).  It determines the result
(`Double.IsNearest.unique`), and keeps the order of numbers (`Double.IsNearest.le_of_le`).

In units of the power of two that is chosen all doubles are integers, apart from those that are so
small that the least significand of 53 bits is nearer (`Double.IsDouble.exists_int_or_small`).  So the
question is one about the nearest integer (`Double.RoundsTo`).
-/

set_option autoImplicit false

namespace Rulebook
namespace Double

/-! ## What rounding means -/

/-- A number that a double stands for. -/
def IsDouble (r : ℚ) : Prop := ∃ x : Double, x.IsValid ∧ x.toExtended? = some (.value r)

/-- The number halfway between the greatest double and the power of two that comes next. -/
def overflowBound : ℚ := 2 ^ 1024 - 2 ^ 970

/-- Whether a double is what a number is rounded to: the nearest one, with an even significand when
there are two, or an infinity. -/
inductive IsNearest (q : ℚ) : Double → Prop
  | finite {negative : Bool} {m : Nat} {e : Int} {r : ℚ}
      (valid : (finite negative m e).IsValid) (normal : 2 ^ 52 ≤ m ∨ e = minExponent)
      (value : (Double.finite negative m e).toExtended? = some (.value r))
      (small : |q| < overflowBound) (nearest : ∀ s, IsDouble s → |q - r| ≤ |q - s|)
      (even : ∀ s, IsDouble s → s ≠ r → |q - s| = |q - r| → Even m) :
      IsNearest q (finite negative m e)
  | infinity (h : overflowBound ≤ q) : IsNearest q (infinity false)
  | negInfinity (h : q ≤ -overflowBound) : IsNearest q (infinity true)

/-! ## The numbers that doubles stand for -/

theorem twoPow_eq (e : Int) : twoPow e = (2 : ℚ) ^ e := by
  rw [twoPow]
  split
  · rename_i he
    obtain ⟨k, rfl⟩ := Int.eq_ofNat_of_zero_le he
    simp
  · rename_i he
    obtain ⟨k, hk⟩ := Int.eq_ofNat_of_zero_le (show 0 ≤ -e by omega)
    obtain rfl : e = -(k : Int) := by omega
    rw [neg_neg, Int.toNat_natCast, Rat.mkRat_eq_div, zpow_neg, zpow_natCast]
    simp

theorem toExtended?_finite (negative : Bool) (m : Nat) (e : Int) :
    (finite negative m e).toExtended? =
      some (.value ((if negative then -(m : ℚ) else m) * 2 ^ e)) := by
  rw [toExtended?, twoPow_eq]

/-- The doubles are the multiples of powers of two that are in reach. -/
theorem isDouble_iff {r : ℚ} : IsDouble r ↔ ∃ k e : ℤ, k.natAbs < 2 ^ 53 ∧ minExponent ≤ e ∧
    e ≤ maxExponent ∧ r = k * 2 ^ e := by
  constructor
  · rintro ⟨x, hvalid, hx⟩
    cases x with
    | finite negative m e =>
      rw [toExtended?_finite, Option.some.injEq, Extended.value.injEq] at hx
      refine ⟨if negative then -m else m, e, ?_, hvalid.2.1, hvalid.2.2, ?_⟩
      · have hm := hvalid.1
        split_ifs <;> simpa
      · rw [← hx]
        split_ifs <;> simp
    | infinity negative => cases negative <;> cases hx
    | nan => cases hx
  · rintro ⟨k, e, hk, hmin, hmax, rfl⟩
    refine ⟨finite (decide (k < 0)) k.natAbs e, ⟨hk, hmin, hmax⟩, ?_⟩
    rw [toExtended?_finite]
    congr 3
    rcases lt_or_ge k 0 with hneg | hpos
    · simp [hneg, abs_of_neg]
    · simp [hpos.not_gt, abs_of_nonneg hpos]

theorem isDouble_zero : IsDouble 0 :=
  isDouble_iff.mpr ⟨0, minExponent, by decide, le_rfl, by decide, by simp⟩

theorem IsDouble.neg {r : ℚ} (h : IsDouble r) : IsDouble (-r) := by
  obtain ⟨k, e, hk, hmin, hmax, rfl⟩ := isDouble_iff.mp h
  exact isDouble_iff.mpr ⟨-k, e, by rwa [Int.natAbs_neg], hmin, hmax, by push_cast; ring⟩

/-- From the exponent that a number is rounded at, doubles look like integers, apart from those that
are less than the significands of that exponent. -/
theorem IsDouble.exists_int_or_small {s : ℚ} (h : IsDouble s) (e : ℤ) :
    (∃ k : ℤ, s = k * 2 ^ e) ∨ minExponent < e ∧ |s| < 2 ^ 52 * 2 ^ e := by
  obtain ⟨k, e', hk, hmin, -, rfl⟩ := isDouble_iff.mp h
  rcases le_or_gt e e' with hle | hlt
  · obtain ⟨j, rfl⟩ := Int.le.dest hle
    refine .inl ⟨k * 2 ^ j, ?_⟩
    rw [zpow_add₀ two_ne_zero]
    push_cast
    rw [zpow_natCast]
    ring
  · refine .inr ⟨hmin.trans_lt hlt, ?_⟩
    have hk : |(k : ℚ)| < 2 ^ 53 := by
      rw [← Int.cast_abs, Int.abs_eq_natAbs]
      exact_mod_cast hk
    have hpow : (0 : ℚ) < 2 ^ e' := zpow_pos two_pos e'
    rw [abs_mul, abs_of_pos hpow]
    calc |(k : ℚ)| * 2 ^ e' < 2 ^ 53 * 2 ^ e' := by gcongr
      _ = 2 ^ 52 * 2 ^ (e' + 1) := by rw [zpow_add_one₀ two_ne_zero]; ring
      _ ≤ 2 ^ 52 * 2 ^ e := by
        gcongr
        · exact one_le_two
        · omega

/-! ## Rounding to the nearest integer -/

/-- Whether an integer is what a number is rounded to, with ties to the even one. -/
structure RoundsTo (y : ℚ) (m : ℤ) : Prop where
  near : |y - m| ≤ 1 / 2
  even : |y - m| = 1 / 2 → Even m

variable {y : ℚ} {m k : ℤ}

theorem half_le_of_ne (h : RoundsTo y m) (hk : k ≠ m) : 1 / 2 ≤ |y - k| := by
  have hone : (1 : ℚ) ≤ |(k : ℚ) - m| := by
    exact_mod_cast Int.one_le_abs (sub_ne_zero.mpr hk)
  have hsum : |(k : ℚ) - m| ≤ |y - m| + |y - k| := by
    rw [abs_sub_comm y k, add_comm]
    exact abs_sub_le _ _ _
  have hnear := h.near
  linarith

theorem RoundsTo.le (h : RoundsTo y m) (k : ℤ) : |y - m| ≤ |y - k| := by
  rcases eq_or_ne k m with rfl | hk
  · exact le_rfl
  · exact h.near.trans (half_le_of_ne h hk)

theorem RoundsTo.even_of_eq (h : RoundsTo y m) (hk : k ≠ m) (heq : |y - k| = |y - m|) : Even m :=
  h.even (le_antisymm h.near (heq ▸ half_le_of_ne h hk))

theorem RoundsTo.le_of_le (h : RoundsTo y m) (hk : k ≤ y) : k ≤ m := by
  by_contra hlt
  have hm : (m : ℚ) + 1 ≤ k := by exact_mod_cast not_le.mp hlt
  have hnear := (abs_le.mp h.near).2
  linarith

theorem roundsTo_of_abs_lt (h : |y - m| < 1 / 2) : RoundsTo y m :=
  ⟨h.le, fun heq ↦ absurd heq h.ne⟩

/-- **The quotient is rounded to the nearest integer.** -/
theorem roundsTo_roundQuotient (n : Nat) {d : Nat} (hd : d ≠ 0) :
    RoundsTo (n / d) (roundQuotient n d) := by
  have hpos : (0 : ℚ) < d := by exact_mod_cast Nat.pos_of_ne_zero hd
  have hmod : n % d < d := Nat.mod_lt n (Nat.pos_of_ne_zero hd)
  have hquotient : (n : ℚ) / d = (n / d : Nat) + (n % d : Nat) / d := by
    rw [div_eq_iff hpos.ne', add_mul, div_mul_cancel₀ _ hpos.ne', mul_comm]
    exact_mod_cast (Nat.div_add_mod n d).symm
  rw [roundQuotient, hquotient]
  -- From here on only the quotient `q` and the part `f` that is left over of one matter.
  generalize n / d = q, n % d = r at hmod
  obtain ⟨f, hf⟩ : ∃ f : ℚ, f = r / d := ⟨_, rfl⟩
  have hless : f < 1 / 2 ↔ 2 * r < d := by
    rw [hf, div_lt_div_iff₀ hpos two_pos, one_mul, mul_comm]
    exact_mod_cast Iff.rfl
  have hmore : 1 / 2 < f ↔ d < 2 * r := by
    rw [hf, div_lt_div_iff₀ two_pos hpos, one_mul, mul_comm]
    exact_mod_cast Iff.rfl
  have hnonneg : 0 ≤ f := hf ▸ div_nonneg (Nat.cast_nonneg _) hpos.le
  have hlt : f < 1 := by
    rw [hf, div_lt_iff₀ hpos, one_mul]
    exact_mod_cast hmod
  have hhalf : ¬ 2 * r < d → ¬ d < 2 * r → f = 1 / 2 := fun h h' ↦
    le_antisymm (not_lt.mp (hmore.not.mpr h')) (not_lt.mp (hless.not.mpr h))
  rw [← hf]
  split_ifs with h h' heven
  · have hf := hless.mpr h
    refine roundsTo_of_abs_lt ?_
    rw [Int.cast_natCast, add_sub_cancel_left, abs_of_nonneg hnonneg]
    exact hf
  · have hf := hmore.mpr h'
    refine roundsTo_of_abs_lt ?_
    rw [abs_lt]
    constructor <;> push_cast <;> linarith
  · rw [hhalf h h']
    refine ⟨?_, fun _ ↦ by exact_mod_cast Nat.even_iff.mpr heven⟩
    rw [Int.cast_natCast, add_sub_cancel_left, abs_of_nonneg (by norm_num)]
  · rw [hhalf h h']
    refine ⟨?_, fun _ ↦ ?_⟩
    · rw [abs_le]
      constructor <;> push_cast <;> linarith
    · exact_mod_cast (Nat.not_even_iff_odd.mp (Nat.even_iff.not.mpr heven)).add_one

/-! ## Rounding to the nearest double -/

/-- A number that is rounded to an integer in units of `2 ^ e` is rounded to a double, if its
significand has 53 bits wherever exponents less than `e` are in reach. -/
theorem RoundsTo.nearest {q : ℚ} {e : ℤ} (h : RoundsTo (q / 2 ^ e) m)
    (hbits : minExponent < e → 2 ^ 52 ≤ q / 2 ^ e) {s : ℚ} (hs : IsDouble s) :
    |q - m * 2 ^ e| ≤ |q - s| ∧ (s ≠ m * 2 ^ e → |q - s| = |q - m * 2 ^ e| → Even m) := by
  have hunit : (0 : ℚ) < 2 ^ e := zpow_pos two_pos e
  have hscale : ∀ t : ℚ, |q - t * 2 ^ e| = |q / 2 ^ e - t| * 2 ^ e := by
    intro t
    rw [← abs_of_pos hunit, ← abs_mul, abs_of_pos hunit, sub_mul, div_mul_cancel₀ _ hunit.ne']
  rcases hs.exists_int_or_small e with ⟨k, rfl⟩ | ⟨he, hsmall⟩
  · rw [hscale, hscale]
    refine ⟨mul_le_mul_of_nonneg_right (h.le k) hunit.le, fun hne heq ↦ ?_⟩
    exact h.even_of_eq (fun hk ↦ hne (by rw [hk])) (mul_right_cancel₀ hunit.ne' heq)
  · have hfar : |q - m * 2 ^ e| < |q - s| := by
      have hq : 2 ^ 52 * 2 ^ e ≤ q := (le_div_iff₀ hunit).mp (hbits he)
      have hs := (abs_lt.mp hsmall).2
      calc |q - m * 2 ^ e| ≤ |q - (2 ^ 52 : ℤ) * 2 ^ e| := by
            rw [hscale, hscale]
            exact mul_le_mul_of_nonneg_right (h.le _) hunit.le
        _ = q - 2 ^ 52 * 2 ^ e := by
            push_cast
            exact abs_of_nonneg (by linarith)
        _ < q - s := by linarith
        _ ≤ |q - s| := le_abs_self _
    exact ⟨hfar.le, fun _ heq ↦ absurd heq hfar.ne'⟩

theorem IsNearest.negate {q : ℚ} {x : Double} (h : IsNearest q x) : IsNearest (-q) x.negate := by
  have hdist : ∀ s : ℚ, |-q - s| = |q - -s| := fun s ↦ by
    rw [← abs_neg, neg_sub, sub_neg_eq_add, sub_neg_eq_add, add_comm]
  cases h with
  | @finite negative m e r valid normal value small nearest even =>
    rw [toExtended?_finite, Option.some.injEq, Extended.value.injEq] at value
    refine .finite (r := -r) valid normal ?_ (by rwa [abs_neg]) ?_ ?_
    · rw [toExtended?_finite, ← value]
      cases negative <;> simp
    · intro s hs
      rw [hdist, hdist, neg_neg]
      exact nearest (-s) hs.neg
    · intro s hs hne heq
      rw [hdist, hdist, neg_neg] at heq
      exact even (-s) hs.neg (fun h ↦ hne (by rw [← h, neg_neg])) heq
  | infinity h => exact .negInfinity (neg_le_neg h)
  | negInfinity h => exact .infinity (le_neg_of_le_neg h)

theorem pow_floorLog2_le {n : Nat} (hn : n ≠ 0) (d : Nat) :
    (d : ℚ) * 2 ^ floorLog2 n d ≤ n := by
  rw [floorLog2]
  split
  · have hnlog : (2 : ℚ) ^ Nat.log2 n ≤ n := by exact_mod_cast Nat.log2_self_le hn
    have hdlog : (d : ℚ) ≤ 2 ^ (Nat.log2 d + 1) := by exact_mod_cast Nat.lt_log2_self.le
    calc (d : ℚ) * 2 ^ ((Nat.log2 n : Int) - Nat.log2 d - 1)
        ≤ 2 ^ (Nat.log2 d + 1) * 2 ^ ((Nat.log2 n : Int) - Nat.log2 d - 1) := by gcongr
      _ = 2 ^ Nat.log2 n := by
        rw [← zpow_natCast, ← zpow_natCast, ← zpow_add₀ two_ne_zero]
        congr 1
        omega
      _ ≤ n := hnlog
  · rename_i h
    exact not_lt.mp ((scaled_lt_iff n d _).not.mp h)

theorem pow_toNat {b : ℚ} (hb : b ≠ 0) (e : ℤ) : b ^ e.toNat = b ^ e * b ^ (-e).toNat := by
  rcases Int.le_total 0 e with he | he
  · obtain ⟨k, rfl⟩ := Int.eq_ofNat_of_zero_le he
    rw [Int.toNat_natCast, zpow_natCast, Int.toNat_of_nonpos (by omega), pow_zero, mul_one]
  · obtain ⟨k, hk⟩ := Int.eq_ofNat_of_zero_le (Int.neg_nonneg_of_nonpos he)
    obtain rfl : e = -(k : ℤ) := by omega
    rw [neg_neg, Int.toNat_natCast, zpow_neg, zpow_natCast, Int.toNat_of_nonpos (by omega), pow_zero,
      inv_mul_cancel₀ (pow_ne_zero k hb)]

/-- Scaling a fraction by a power of two on the side where it is a whole number. -/
theorem scaled_div (n d : Nat) (e : ℤ) :
    ((n * Nat.pow 2 (-e).toNat : Nat) : ℚ) / (d * Nat.pow 2 e.toNat : Nat) = n / d / 2 ^ e := by
  rw [Nat.pow_eq, Nat.pow_eq]
  push_cast
  rw [pow_toNat two_ne_zero e, ← mul_assoc, mul_div_mul_right _ _ (pow_ne_zero _ two_ne_zero), div_div]

theorem overflowBound_eq : overflowBound = (2 ^ 53 - 1 / 2) * 2 ^ maxExponent := by
  have hbound : ∀ k : Nat, (2 : ℚ) ^ (53 + (k + 1)) - 2 ^ k = (2 ^ 53 - 1 / 2) * 2 ^ (k + 1) :=
    fun k ↦ by ring
  exact hbound 970

/-- What a significand of 53 bits is found for is less than the halfway point to the next one that
would have more. -/
theorem RoundsTo.lt_of_lt (h : RoundsTo y m) (hm : m < 2 ^ 53) : y < 2 ^ 53 - 1 / 2 := by
  have hnear := (abs_le.mp h.near).2
  rcases Int.lt_or_eq_of_le (Int.le_sub_one_of_lt hm) with hlt | rfl
  · have hm' : (m : ℚ) + 1 ≤ 2 ^ 53 - 1 := by exact_mod_cast hlt
    linarith
  · -- The greatest significand is odd.
    have hne : y - (2 ^ 53 - 1 : ℤ) ≠ 1 / 2 := fun heq ↦
      absurd (h.even (by rw [heq]; norm_num)) (by decide)
    have hlt := lt_of_le_of_ne hnear hne
    push_cast at hlt
    linarith

section Overflow

variable {q : ℚ} {e : ℤ}

theorem lt_overflowBound_of_lt (h : q / 2 ^ e < 2 ^ 53 - 1 / 2) (he : e ≤ maxExponent) :
    q < overflowBound := by
  have hunit : (0 : ℚ) < 2 ^ e := zpow_pos two_pos e
  calc q < (2 ^ 53 - 1 / 2) * 2 ^ e := (div_lt_iff₀ hunit).mp h
    _ ≤ (2 ^ 53 - 1 / 2) * 2 ^ maxExponent :=
      mul_le_mul_of_nonneg_left (zpow_le_zpow_right₀ one_le_two he) (by norm_num)
    _ = overflowBound := overflowBound_eq.symm

theorem overflowBound_le_of_le (h : 2 ^ 53 - 1 / 2 ≤ q / 2 ^ e) (he : maxExponent ≤ e) :
    overflowBound ≤ q := by
  have hunit : (0 : ℚ) < 2 ^ e := zpow_pos two_pos e
  calc overflowBound = (2 ^ 53 - 1 / 2) * 2 ^ maxExponent := overflowBound_eq
    _ ≤ (2 ^ 53 - 1 / 2) * 2 ^ e :=
      mul_le_mul_of_nonneg_left (zpow_le_zpow_right₀ one_le_two he) (by norm_num)
    _ ≤ q := (le_div_iff₀ hunit).mp h

/-- A significand of 53 bits is packed into an infinity when the number is beyond the doubles. -/
theorem RoundsTo.lt_overflowBound_iff (h : RoundsTo (q / 2 ^ e) m) (hm : m < 2 ^ 53)
    (hbits : minExponent < e → 2 ^ 52 ≤ q / 2 ^ e) : q < overflowBound ↔ e ≤ maxExponent := by
  refine ⟨fun hsmall ↦ ?_, lt_overflowBound_of_lt (h.lt_of_lt hm)⟩
  by_contra hmax
  have hmin : minExponent < maxExponent := by decide
  have hq : q / 2 ^ (e - 1) = q / 2 ^ e * 2 := by
    rw [zpow_sub_one₀ two_ne_zero, div_mul_eq_div_div, div_inv_eq_mul]
  refine hsmall.not_ge (overflowBound_le_of_le (e := e - 1) ?_ (by omega))
  linarith [hbits (by omega)]

/-- So is the next power of two. -/
theorem RoundsTo.lt_overflowBound_iff_of_eq (h : RoundsTo (q / 2 ^ e) (2 ^ 53 : Nat))
    (hlt : q / 2 ^ e < 2 ^ 53) : q < overflowBound ↔ e + 1 ≤ maxExponent := by
  refine ⟨fun hsmall ↦ ?_, lt_overflowBound_of_lt ?_⟩
  · by_contra hmax
    have hnear := (abs_le.mp h.near).1
    push_cast at hnear
    have hlarge : 2 ^ 53 - 1 / 2 ≤ q / 2 ^ e := by linarith
    exact hsmall.not_ge (overflowBound_le_of_le hlarge (by omega))
  · rw [zpow_add_one₀ two_ne_zero, div_mul_eq_div_div, div_lt_iff₀ two_pos]
    linarith

theorem isNearest_pack {m : Nat} (hm : m < 2 ^ 53) (hmin : minExponent ≤ e)
    (hnormal : 2 ^ 52 ≤ m ∨ e = minExponent) (hq : 0 ≤ q)
    (hbound : q < overflowBound ↔ e ≤ maxExponent)
    (hnearest : ∀ s, IsDouble s → |q - m * 2 ^ e| ≤ |q - s| ∧
      (s ≠ m * 2 ^ e → |q - s| = |q - m * 2 ^ e| → Even m)) : IsNearest q (pack false m e) := by
  rw [pack]
  split
  · rename_i hmax
    exact .finite ⟨hm, hmin, hmax⟩ hnormal (toExtended?_finite false m e)
      (by rw [abs_of_nonneg hq]; exact hbound.mpr hmax) (fun s hs ↦ (hnearest s hs).1)
      fun s hs ↦ (hnearest s hs).2
  · rename_i hmax
    exact .infinity (not_lt.mp (hbound.not.mpr hmax))

/-- A number that is rounded to an integer in units of `2 ^ e` is rounded to a double whose
significand is that integer, or half of it when it is the next power of two. -/
theorem isNearest_of_roundsTo {m : Nat} (h : RoundsTo (q / 2 ^ e) m) (hle : m ≤ 2 ^ 53)
    (hmin : minExponent ≤ e) (hbits : minExponent < e → 2 ^ 52 ≤ q / 2 ^ e) (hq : 0 ≤ q)
    (hlt : q / 2 ^ e < 2 ^ 53) :
    IsNearest q (if m < Nat.pow 2 53 then pack false m e else pack false (m / 2) (e + 1)) := by
  split_ifs with hm
  · have hnormal : 2 ^ 52 ≤ m ∨ e = minExponent := by
      rcases hmin.lt_or_eq with hlt | heq
      · have hm : (2 ^ 52 : ℤ) ≤ m := h.le_of_le (by push_cast; exact hbits hlt)
        exact .inl (by exact_mod_cast hm)
      · exact .inr heq.symm
    have hbound := h.lt_overflowBound_iff (by exact_mod_cast hm) hbits
    refine isNearest_pack hm hmin hnormal hq hbound fun s hs ↦ ?_
    exact_mod_cast h.nearest hbits hs
  · obtain rfl : m = 2 ^ 53 := le_antisymm hle (not_lt.mp hm)
    have hvalue : ((2 ^ 53 / 2 : Nat) : ℚ) * 2 ^ (e + 1) = (2 ^ 53 : Nat) * 2 ^ e := by
      rw [zpow_add_one₀ two_ne_zero]
      norm_num
      ring
    refine isNearest_pack (by decide) (by omega) (.inl (by decide)) hq
      (h.lt_overflowBound_iff_of_eq hlt) fun s hs ↦ ?_
    rw [hvalue]
    exact ⟨by exact_mod_cast (h.nearest hbits hs).1, fun _ _ ↦ by decide⟩

end Overflow

/-- Numbers that are less than half of the least positive double. -/
theorem isNearest_of_tiny (negative : Bool) {q : ℚ} (h : |q / 2 ^ minExponent| < 1 / 2) :
    IsNearest q (finite negative 0 minExponent) := by
  have hround : RoundsTo (q / 2 ^ minExponent) (0 : ℤ) :=
    roundsTo_of_abs_lt (by rwa [Int.cast_zero, sub_zero])
  refine .finite (r := (0 : ℤ) * 2 ^ minExponent) ⟨by decide, le_rfl, by decide⟩ (.inr rfl) ?_ ?_
    (fun s hs ↦ (hround.nearest (fun h ↦ absurd h (lt_irrefl _)) hs).1) fun _ _ _ _ ↦ Even.zero
  · rw [toExtended?_finite]
    simp
  · have hunit : (0 : ℚ) < 2 ^ minExponent := zpow_pos two_pos _
    have hq : |q / 2 ^ minExponent| = |q| / 2 ^ minExponent := by
      rw [div_eq_mul_inv, abs_mul, abs_of_pos (inv_pos.mpr hunit), ← div_eq_mul_inv]
    rw [hq, div_lt_iff₀ hunit] at h
    calc |q| < 1 / 2 * 2 ^ minExponent := h
      _ ≤ (2 ^ 53 - 1 / 2) * 2 ^ maxExponent := by
        gcongr
        · norm_num
        · exact one_le_two
        · decide
      _ = overflowBound := overflowBound_eq.symm

theorem isNearest_ofRatio_false (n : Nat) {d : Nat} (hd : d ≠ 0) :
    IsNearest (n / d) (ofRatio false n d) := by
  have hq : (0 : ℚ) ≤ n / d := div_nonneg n.cast_nonneg d.cast_nonneg
  rw [ofRatio]
  split
  · rename_i hn
    exact isNearest_of_tiny false (by rw [hn, Nat.cast_zero, zero_div, zero_div, abs_zero]; norm_num)
  · rename_i hn
    obtain ⟨e, he⟩ : ∃ e, e = max minExponent (floorLog2 n d - 52) := ⟨_, rfl⟩
    have hround := roundsTo_roundQuotient (n * Nat.pow 2 (-e).toNat) (d := d * Nat.pow 2 e.toNat)
      (Nat.mul_pos (Nat.pos_of_ne_zero hd) (Nat.pow_pos (by decide : 0 < 2))).ne'
    rw [scaled_div] at hround
    have hunit : (0 : ℚ) < 2 ^ e := zpow_pos two_pos e
    have hdpos : (0 : ℚ) < d := by exact_mod_cast Nat.pos_of_ne_zero hd
    simp only [← he]
    refine isNearest_of_roundsTo hround (roundQuotient_le_pow hd (by omega)) (by omega) ?_ hq ?_
    · intro hmin
      rw [le_div_iff₀ hunit, le_div_iff₀ hdpos, ← zpow_natCast, ← zpow_add₀ two_ne_zero, mul_comm]
      calc (d : ℚ) * 2 ^ (((52 : Nat) : ℤ) + e) = d * 2 ^ floorLog2 n d := by
            rw [show ((52 : Nat) : ℤ) + e = floorLog2 n d by omega]
        _ ≤ n := pow_floorLog2_le hn d
    · rw [div_lt_iff₀ hunit, div_lt_iff₀ hdpos, ← zpow_natCast, ← zpow_add₀ two_ne_zero, mul_comm]
      calc (n : ℚ) < d * 2 ^ (floorLog2 n d + 1) := lt_floorLog2 hd
        _ ≤ d * 2 ^ (((53 : Nat) : ℤ) + e) := by
          refine mul_le_mul_of_nonneg_left (zpow_le_zpow_right₀ one_le_two ?_) hdpos.le
          omega

theorem ofRatio_true (n d : Nat) : ofRatio true n d = (ofRatio false n d).negate := by
  rw [ofRatio, ofRatio]
  dsimp only [pack]
  split_ifs <;> rfl

/-- **A fraction is rounded to the nearest double.** -/
theorem isNearest_ofRatio (negative : Bool) (n : Nat) {d : Nat} (hd : d ≠ 0) :
    IsNearest ((if negative then -(n : ℚ) else n) / d) (ofRatio negative n d) := by
  cases negative with
  | false => exact isNearest_ofRatio_false n hd
  | true =>
    rw [if_pos rfl, neg_div, ofRatio_true]
    exact (isNearest_ofRatio_false n hd).negate

/-! ## Powers of ten -/

theorem digitCount_of_ne_zero {m : Nat} (hm : m ≠ 0) : digitCount m = (Nat.toDigits 10 m).length :=
  if_neg hm

theorem lt_pow_digitCount {m : Nat} (hm : m ≠ 0) : m < 10 ^ digitCount m := by
  rw [digitCount_of_ne_zero hm]
  exact (Nat.length_toDigits_le_iff (by decide) Nat.length_toDigits_pos).mp le_rfl

theorem pow_le_of_lt_digitCount {m k : Nat} (hm : m ≠ 0) (hk : k < digitCount m) : 10 ^ k ≤ m := by
  rw [digitCount_of_ne_zero hm] at hk
  rcases Nat.eq_zero_or_pos k with rfl | hpos
  · exact Nat.one_le_iff_ne_zero.mpr hm
  · exact not_lt.mp ((Nat.length_toDigits_le_iff (by decide) hpos).not.mp (not_le.mpr hk))

theorem pow_le_ten_pow {k : Nat} (hk : k ≤ 3 * 400) : (2 : ℚ) ^ k ≤ 10 ^ 400 :=
  calc (2 : ℚ) ^ k ≤ 2 ^ (3 * 400) := pow_le_pow_right₀ one_le_two hk
    _ = 8 ^ 400 := by rw [pow_mul]; norm_num
    _ ≤ 10 ^ 400 := pow_le_pow_left₀ (by norm_num) (by norm_num) 400

theorem isNearest_ofScientific_false (m : Nat) (e : ℤ) :
    IsNearest (m * 10 ^ e) (ofScientific false m e) := by
  have hten : (0 : ℚ) < 10 := by norm_num
  have hpow : ∀ {a b : ℤ}, a ≤ b → (10 : ℚ) ^ a ≤ 10 ^ b := zpow_le_zpow_right₀ (by norm_num)
  have hhalf : ∀ k : Nat, ((2 : ℚ) ^ (k + 1))⁻¹ = 1 / 2 * 2 ^ (-(k : ℤ)) := by
    intro k
    rw [zpow_neg, zpow_natCast, pow_succ, mul_inv, mul_comm, one_div]
  rw [ofScientific]
  split_ifs with htiny hhuge he
  · refine isNearest_of_tiny false ?_
    rcases eq_or_ne m 0 with rfl | hm
    · norm_num
    · have hsize := htiny.resolve_left hm
      have hm : (m : ℚ) < 10 ^ (digitCount m : ℤ) := by exact_mod_cast lt_pow_digitCount hm
      have hunit : (0 : ℚ) < 2 ^ minExponent := zpow_pos two_pos _
      rw [abs_of_nonneg (div_nonneg (mul_nonneg m.cast_nonneg (zpow_pos hten e).le) hunit.le),
        div_lt_iff₀ hunit]
      calc (m : ℚ) * 10 ^ e < 10 ^ (digitCount m : ℤ) * 10 ^ e :=
            mul_lt_mul_of_pos_right hm (zpow_pos hten e)
        _ = 10 ^ (digitCount m + e) := (zpow_add₀ hten.ne' _ _).symm
        _ ≤ 10 ^ (-400 : ℤ) := hpow hsize.le
        _ = (10 ^ 400)⁻¹ := by rw [zpow_neg, ← zpow_natCast, Nat.cast_ofNat]
        _ ≤ (2 ^ 1075)⁻¹ := by
          gcongr
          exact pow_le_ten_pow (by decide)
        _ = 1 / 2 * 2 ^ minExponent := hhalf 1074
  · have hm : m ≠ 0 := fun hm ↦ htiny (.inl hm)
    have hpos : 0 < digitCount m := by
      rw [digitCount_of_ne_zero hm]
      exact Nat.length_toDigits_pos
    have hsize : ((10 ^ (digitCount m - 1) : Nat) : ℚ) ≤ m := by
      exact_mod_cast pow_le_of_lt_digitCount hm (Nat.sub_lt hpos Nat.one_pos)
    refine .infinity ?_
    calc overflowBound ≤ 2 ^ 1024 := sub_le_self _ (pow_nonneg zero_le_two _)
      _ ≤ 10 ^ 400 := pow_le_ten_pow (by decide)
      _ = 10 ^ (400 : ℤ) := by rw [← zpow_natCast, Nat.cast_ofNat]
      _ ≤ 10 ^ ((digitCount m - 1 : Nat) + e) := hpow (by omega)
      _ = (10 ^ (digitCount m - 1) : Nat) * 10 ^ e := by
        rw [zpow_add₀ hten.ne', zpow_natCast]
        push_cast
        rfl
      _ ≤ m * 10 ^ e := mul_le_mul_of_nonneg_right hsize (zpow_pos hten e).le
  · obtain ⟨k, rfl⟩ := Int.eq_ofNat_of_zero_le he
    have hratio := isNearest_ofRatio_false (m * Nat.pow 10 k) one_ne_zero
    rw [Nat.cast_one, div_one, Nat.pow_eq] at hratio
    push_cast at hratio
    exact hratio
  · obtain ⟨k, hk⟩ := Int.eq_ofNat_of_zero_le (show 0 ≤ -e by omega)
    obtain rfl : e = -(k : ℤ) := by omega
    have hratio := isNearest_ofRatio_false m (Nat.pow_pos (n := k) (by decide : 0 < 10)).ne'
    rw [zpow_neg, ← div_eq_mul_inv, neg_neg]
    push_cast at hratio
    exact hratio

/-- **A decimal is rounded to the nearest double.** -/
theorem isNearest_ofScientific (negative : Bool) (m : Nat) (e : ℤ) :
    IsNearest ((if negative then -(m : ℚ) else m) * 10 ^ e) (ofScientific negative m e) := by
  cases negative with
  | false => exact isNearest_ofScientific_false m e
  | true =>
    have hneg : ofScientific true m e = (ofScientific false m e).negate := by
      rw [ofScientific, ofScientific]
      simp only [ofRatio_true]
      split_ifs <;> rfl
    rw [if_pos rfl, neg_mul, hneg]
    exact (isNearest_ofScientific_false m e).negate

/-! ## The nearest double is determined -/

theorem isDouble_natCast_mul {m : Nat} {e : ℤ} (h : (finite false m e).IsValid) :
    IsDouble (m * 2 ^ e) :=
  ⟨_, h, toExtended?_finite false m e⟩

/-- Of two doubles with no double between them, one has an odd significand. -/
theorem not_even_of_gap {m m' : Nat} {e e' : ℤ} (hx : (finite false m e).IsValid)
    (hy : (finite false m' e').IsValid) (hnormal : 2 ^ 52 ≤ m ∨ e = minExponent)
    (hlt : (m : ℚ) * 2 ^ e < m' * 2 ^ e')
    (hgap : ∀ s, IsDouble s → (m : ℚ) * 2 ^ e < s → (m' : ℚ) * 2 ^ e' ≤ s) (heven : Even m) :
    ¬ Even m' := by
  obtain ⟨hm, hmin, hmax⟩ := hx
  have hunit : (0 : ℚ) < 2 ^ e := zpow_pos two_pos e
  -- What comes next after the first one is the second one.
  have hnext : (m' : ℚ) * 2 ^ e' = (m + 1 : Nat) * 2 ^ e := by
    have hm : m + 1 < 2 ^ 53 := by
      obtain ⟨k, rfl⟩ := heven
      omega
    refine le_antisymm (hgap _ (isDouble_natCast_mul ⟨hm, hmin, hmax⟩) ?_) ?_
    · push_cast
      linarith
    · rcases (isDouble_natCast_mul hy).exists_int_or_small e with ⟨k, hk⟩ | ⟨he, hsmall⟩
      · rw [hk] at hlt ⊢
        have hlt : (m : ℤ) < k := by exact_mod_cast lt_of_mul_lt_mul_right hlt hunit.le
        refine mul_le_mul_of_nonneg_right ?_ hunit.le
        exact_mod_cast hlt
      · have hm : (2 ^ 52 : ℚ) ≤ m := by exact_mod_cast hnormal.resolve_right he.ne'
        have hle := mul_le_mul_of_nonneg_right hm hunit.le
        have hsmall := (abs_lt.mp hsmall).2
        linarith
  rcases lt_or_ge e e' with he | he
  · obtain ⟨j, rfl⟩ := Int.le.dest he.le
    rw [zpow_add₀ two_ne_zero, zpow_natCast, mul_comm _ ((2 : ℚ) ^ j), ← mul_assoc] at hnext
    have hdouble : m' * 2 ^ j = m + 1 := by exact_mod_cast mul_right_cancel₀ hunit.ne' hnext
    have hj : Even (2 ^ j) := (Nat.even_pow.mpr ⟨even_two, by omega⟩)
    exact absurd (hdouble ▸ hj.mul_left m') (Nat.not_even_iff_odd.mpr heven.add_one)
  · obtain ⟨j, rfl⟩ := Int.le.dest he
    have hunit : (0 : ℚ) < 2 ^ e' := zpow_pos two_pos e'
    rw [zpow_add₀ two_ne_zero, zpow_natCast, mul_comm _ ((2 : ℚ) ^ j), ← mul_assoc] at hnext
    have hdouble : m' = (m + 1) * 2 ^ j := by exact_mod_cast mul_right_cancel₀ hunit.ne' hnext
    rcases Nat.eq_zero_or_pos j with rfl | hj
    · rw [hdouble, pow_zero, mul_one]
      exact Nat.not_even_iff_odd.mpr heven.add_one
    · have hm : 2 ^ 52 ≤ m := hnormal.resolve_right (by have := hy.2.1; omega)
      have htwo : 2 ≤ 2 ^ j := Nat.pow_le_pow_right two_pos hj
      have hlarge := Nat.mul_le_mul (Nat.succ_le_succ hm) htwo
      exact absurd (hlarge.trans_lt (hdouble ▸ hy.1)) (by decide)

namespace IsNearest

variable {q r r' : ℚ} {x y : Double}

/-- What is known of the number that a nearest double stands for. -/
theorem exists_significand (h : IsNearest q x) (hr : x.toExtended? = some (.value r)) :
    ∃ (m : Nat) (e : ℤ), (Double.finite false m e).IsValid ∧ (2 ^ 52 ≤ m ∨ e = minExponent) ∧
      |r| = m * 2 ^ e ∧ IsDouble r ∧ (∀ s, IsDouble s → |q - r| ≤ |q - s|) ∧
      ∀ s, IsDouble s → s ≠ r → |q - s| = |q - r| → Even m := by
  cases h with
  | @finite negative m e r' valid normal value small nearest even =>
    obtain rfl : r' = r := Extended.value.inj (Option.some.inj (value.symm.trans hr))
    refine ⟨m, e, valid, normal, ?_, ⟨_, valid, value⟩, nearest, even⟩
    have hunit : (0 : ℚ) < 2 ^ e := zpow_pos two_pos e
    rw [toExtended?_finite, Option.some.injEq, Extended.value.injEq] at value
    rw [← value, abs_mul, abs_of_pos hunit]
    cases negative <;> simp
  | infinity | negInfinity => cases hr

theorem toExtended?_negate (hr : x.toExtended? = some (.value r)) :
    x.negate.toExtended? = some (.value (-r)) := by
  cases x with
  | finite negative m e =>
    rw [toExtended?_finite, Option.some.injEq, Extended.value.injEq] at hr
    rw [Double.negate, toExtended?_finite, ← hr]
    cases negative <;> simp
  | infinity negative => cases negative <;> cases hr
  | nan => cases hr

theorem abs_sub_lt_of_between {s : ℚ} (hdist : |q - r| = |q - r'|) (hlt : r < s) (hlt' : s < r') :
    |q - s| < |q - r| := by
  have hmid : q - r = r' - q := by
    rcases abs_eq_abs.mp hdist with h | h <;> linarith
  rw [abs_lt, hmid, abs_of_pos (by linarith)]
  constructor <;> linarith

theorem not_lt_of_nonneg (hx : IsNearest q x) (hy : IsNearest q y)
    (hr : x.toExtended? = some (.value r)) (hr' : y.toExtended? = some (.value r')) (hpos : 0 ≤ r) :
    ¬ r < r' := by
  intro hlt
  obtain ⟨m, e, hvalid, hnormal, habs, hdouble, hnearest, heven⟩ := hx.exists_significand hr
  obtain ⟨m', e', hvalid', -, habs', hdouble', hnearest', heven'⟩ := hy.exists_significand hr'
  have hdist : |q - r| = |q - r'| := le_antisymm (hnearest r' hdouble') (hnearest' r hdouble)
  rw [abs_of_nonneg hpos] at habs
  rw [abs_of_pos (hpos.trans_lt hlt)] at habs'
  refine not_even_of_gap hvalid hvalid' hnormal (habs ▸ habs' ▸ hlt) (fun s hs hlt' ↦ ?_)
    (heven r' hdouble' hlt.ne' hdist.symm) (heven' r hdouble hlt.ne hdist)
  rw [← habs']
  rw [← habs] at hlt'
  by_contra hbetween
  exact (hnearest s hs).not_gt (abs_sub_lt_of_between hdist hlt' (not_le.mp hbetween))

theorem not_lt_of_value (hx : IsNearest q x) (hy : IsNearest q y)
    (hr : x.toExtended? = some (.value r)) (hr' : y.toExtended? = some (.value r')) : ¬ r < r' := by
  rcases le_or_gt 0 r with hpos | hneg
  · exact not_lt_of_nonneg hx hy hr hr' hpos
  rcases le_or_gt r' 0 with hneg' | hpos'
  · have hreflect := not_lt_of_nonneg hy.negate hx.negate (toExtended?_negate hr')
      (toExtended?_negate hr) (neg_nonneg.mpr hneg')
    rwa [neg_lt_neg_iff] at hreflect
  · -- Zero would be nearer than both.
    obtain ⟨-, -, -, -, -, hdouble, hnearest, -⟩ := hx.exists_significand hr
    obtain ⟨-, -, -, -, -, hdouble', hnearest', -⟩ := hy.exists_significand hr'
    have hdist : |q - r| = |q - r'| := le_antisymm (hnearest r' hdouble') (hnearest' r hdouble)
    exact absurd (abs_sub_lt_of_between hdist hneg hpos') (hnearest 0 isDouble_zero).not_gt

theorem overflowBound_pos : 0 < overflowBound := by
  rw [overflowBound_eq]
  exact mul_pos (by norm_num) (zpow_pos two_pos _)

/-- **A number is rounded to one number or infinity only.** -/
theorem unique (hx : IsNearest q x) (hy : IsNearest q y) : x.toExtended? = y.toExtended? := by
  have hbound := overflowBound_pos
  cases hx with
  | @finite negative m e r valid normal hr small nearest even =>
    have hx : IsNearest q (.finite negative m e) := .finite valid normal hr small nearest even
    have hsmall := abs_lt.mp small
    cases hy with
    | @finite negative' m' e' r' valid' normal' hr' small' nearest' even' =>
      have hy : IsNearest q (.finite negative' m' e') :=
        .finite valid' normal' hr' small' nearest' even'
      have hle := not_lt.mp (hy.not_lt_of_value hx hr' hr)
      have hge := not_lt.mp (hx.not_lt_of_value hy hr hr')
      rw [hr, hr', le_antisymm hle hge]
    | infinity h => linarith
    | negInfinity h => linarith
  | infinity h =>
    cases hy with
    | finite _ _ _ small =>
      have hsmall := abs_lt.mp small
      linarith
    | infinity => rfl
    | negInfinity h' => linarith
  | negInfinity h =>
    cases hy with
    | finite _ _ _ small =>
      have hsmall := abs_lt.mp small
      linarith
    | infinity h' => linarith
    | negInfinity => rfl

/-- What is at least as near to the greater of two numbers lies beyond the middle. -/
theorem add_le_of_abs_sub_le {a b : ℚ} (hlt : b < a) (h : |r - a| ≤ |r - b|) : a + b ≤ 2 * r := by
  have hsquare := sq_le_sq.mpr h
  by_contra hless
  have hproduct := mul_pos (sub_pos.mpr hlt) (sub_pos.mpr (not_le.mp hless))
  linarith [show (r - a) ^ 2 - (r - b) ^ 2 = (a - b) * (a + b - 2 * r) by ring]

/-- **Rounding keeps the order of numbers.** -/
theorem le_of_le (hx : IsNearest q x) {q' : ℚ} (hy : IsNearest q' y) (h : q ≤ q') :
    x.le y = true := by
  have hbound := overflowBound_pos
  have hunique : ∀ {z : Double}, IsNearest q z → x.toExtended? = z.toExtended? := hx.unique
  cases hx with
  | @finite negative m e r valid normal hr small nearest even =>
    have hsmall := abs_lt.mp small
    cases hy with
    | @finite negative' m' e' r' valid' normal' hr' small' nearest' even' =>
      rw [Double.le, compare?, hr, hr']
      refine (Bool.not_eq_true' _).mpr (decide_eq_false fun hlt ↦ ?_)
      -- Both numbers would lie in the middle, and be one number with two nearest doubles.
      have hmiddle := add_le_of_abs_sub_le hlt (nearest r' ⟨_, valid', hr'⟩)
      have hmiddle' := add_le_of_abs_sub_le (r := -q') (neg_lt_neg hlt) (by
        have hnear := nearest' r ⟨_, valid, hr⟩
        rwa [← abs_neg, ← abs_neg (q' - r), neg_sub', neg_sub'] at hnear)
      obtain rfl : q = q' := by linarith
      have hsame := hunique (.finite valid' normal' hr' small' nearest' even')
      rw [hr, hr', Option.some.injEq, Extended.value.injEq] at hsame
      exact hlt.ne' hsame
    | infinity h' =>
      rw [Double.le, compare?, hr]
      rfl
    | negInfinity h' => linarith
  | infinity h' =>
    cases hy with
    | finite _ _ _ small =>
      have hsmall := abs_lt.mp small
      linarith
    | infinity => rfl
    | negInfinity h'' => linarith
  | negInfinity h' =>
    cases hy with
    | finite _ _ value =>
      rw [Double.le, compare?, value]
      rfl
    | infinity | negInfinity => rfl

end IsNearest

end Double
end Rulebook
