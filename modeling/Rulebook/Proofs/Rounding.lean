import Rulebook.Rule.Magnitude
import Mathlib.Algebra.Order.Field.Power
import Mathlib.Data.Rat.Cast.Order
import Mathlib.Tactic.FieldSimp
import Mathlib.Tactic.Linarith
import Mathlib.Tactic.NormNum
import Mathlib.Tactic.Ring

/-!
# How great a double can be

A double has a significand of 53 bits and an exponent that is in reach (`Double.IsValid`), and rounding
gives nothing else (`Double.isValid_ofRatio`).  So an integer that a double stands for, and an integer
that is rounded to a double, is less than `2 ^ 1025`.
-/

set_option autoImplicit false

namespace Rulebook
namespace Double

/-- A double whose significand and exponent are in reach. -/
def IsValid : Double → Prop
  | finite _ m e => m < 2 ^ 53 ∧ minExponent ≤ e ∧ e ≤ maxExponent
  | _ => True

/-! ## Rounding -/

theorem roundQuotient_le (n d : Nat) : roundQuotient n d ≤ n / d + 1 := by
  rw [roundQuotient]
  split_ifs <;> omega

/-- Scaling by a power of two on the side where it is a whole number. -/
theorem scaled_lt_iff (n d : Nat) (x : Int) :
    n * Nat.pow 2 (-x).toNat < d * Nat.pow 2 x.toNat ↔ (n : ℚ) < d * 2 ^ x := by
  rw [Nat.pow_eq, Nat.pow_eq]
  rcases Int.le_total 0 x with hx | hx
  · obtain ⟨k, rfl⟩ := Int.eq_ofNat_of_zero_le hx
    simp only [Int.toNat_natCast, zpow_natCast]
    rw [show (-(k : Int)).toNat = 0 by omega]
    norm_num
    exact_mod_cast Iff.rfl
  · obtain ⟨k, hk⟩ := Int.eq_ofNat_of_zero_le (Int.neg_nonneg_of_nonpos hx)
    obtain rfl : x = -(k : Int) := by omega
    rw [show (-(k : Int)).toNat = 0 by omega, neg_neg, Int.toNat_natCast, zpow_neg, zpow_natCast,
      ← div_eq_mul_inv, lt_div_iff₀ (by positivity)]
    norm_num
    exact_mod_cast Iff.rfl

theorem lt_floorLog2 {n d : Nat} (hd : d ≠ 0) : (n : ℚ) < d * 2 ^ (floorLog2 n d + 1) := by
  rw [floorLog2]
  split
  · rename_i h
    rw [sub_add_cancel]
    exact (scaled_lt_iff n d _).mp h
  · have hn : (n : ℚ) < 2 ^ (Nat.log2 n + 1) := by exact_mod_cast Nat.lt_log2_self
    have hdlog : (2 : ℚ) ^ Nat.log2 d ≤ d := by exact_mod_cast Nat.log2_self_le hd
    calc (n : ℚ) < 2 ^ (Nat.log2 n + 1) := hn
      _ = 2 ^ Nat.log2 d * 2 ^ ((Nat.log2 n : Int) - Nat.log2 d + 1) := by
        rw [← zpow_natCast, ← zpow_natCast, ← zpow_add₀ two_ne_zero]
        congr 1
        omega
      _ ≤ d * 2 ^ ((Nat.log2 n : Int) - Nat.log2 d + 1) := by gcongr

/-- The significand that is found for a quotient has 53 bits, or is the next power of two. -/
theorem roundQuotient_le_pow {n d : Nat} (hd : d ≠ 0) {e : Int} (he : floorLog2 n d - 52 ≤ e) :
    roundQuotient (n * Nat.pow 2 (-e).toNat) (d * Nat.pow 2 e.toNat) ≤ 2 ^ 53 := by
  have hlt : (n : ℚ) < (2 ^ 53 * d : Nat) * 2 ^ e := by
    calc (n : ℚ) < d * 2 ^ (floorLog2 n d + 1) := lt_floorLog2 hd
      _ ≤ d * 2 ^ (53 + e) := by
        refine mul_le_mul_of_nonneg_left (zpow_le_zpow_right₀ one_le_two ?_) d.cast_nonneg
        omega
      _ = (2 ^ 53 * d : Nat) * 2 ^ e := by
        rw [zpow_add₀ two_ne_zero]
        push_cast
        ring
  have hquotient : n * Nat.pow 2 (-e).toNat / (d * Nat.pow 2 e.toNat) < 2 ^ 53 := by
    have hpos : 0 < d * Nat.pow 2 e.toNat :=
      Nat.mul_pos (Nat.pos_of_ne_zero hd) (Nat.pow_pos (by decide : 0 < 2))
    rw [Nat.div_lt_iff_lt_mul hpos, ← mul_assoc]
    exact (scaled_lt_iff n _ e).mpr hlt
  exact (roundQuotient_le _ _).trans hquotient

/-- **Rounding gives doubles.** -/
theorem isValid_ofRatio (negative : Bool) (n : Nat) {d : Nat} (hd : d ≠ 0) :
    (ofRatio negative n d).IsValid := by
  have hpack : ∀ (m : Nat) (e : Int), m < 2 ^ 53 → minExponent ≤ e → (pack negative m e).IsValid := by
    intro m e hm he
    rw [pack]
    split
    · rename_i hmax
      exact ⟨hm, he, hmax⟩
    · trivial
  rw [ofRatio]
  split
  · exact ⟨by decide, le_refl _, by decide⟩
  · have hround := roundQuotient_le_pow (n := n) hd (le_max_right minExponent (floorLog2 n d - 52))
    dsimp only
    split
    · rename_i hm
      exact hpack _ _ hm (le_max_left _ _)
    · refine hpack _ _ ?_ ((le_max_left _ _).trans (Int.le_add_one (le_refl _)))
      omega

theorem isValid_ofScientific (negative : Bool) (m : Nat) (e : Int) :
    (ofScientific negative m e).IsValid := by
  rw [ofScientific]
  split_ifs
  · exact ⟨by decide, le_refl _, by decide⟩
  · trivial
  · exact isValid_ofRatio _ _ one_ne_zero
  · exact isValid_ofRatio _ _ (Nat.pow_pos (by decide : 0 < 10)).ne'

theorem isValid_of_special? {negative : Bool} {name : List Char} {x : Double}
    (h : special? negative name = some x) : x.IsValid := by
  rw [special?] at h
  split_ifs at h <;> obtain rfl := Option.some.inj h <;> trivial

theorem isValid_ofText? {s : String} {x : Double} (h : ofText? s = some x) : x.IsValid := by
  have hnumeral : ∀ {o : Option Scientific}, (o >>= fun n ↦ some (ofNumeral n)) = some x →
      x.IsValid := by
    intro o ho
    obtain ⟨n, -, hn⟩ := Option.bind_eq_some_iff.mp ho
    obtain rfl := Option.some.inj hn
    exact isValid_ofScientific _ _ _
  rw [ofText?] at h
  dsimp only at h
  split at h
  · rename_i hx
    exact isValid_of_special? (hx.trans h)
  · split at h
    · obtain ⟨joined, -, h⟩ := Option.bind_eq_some_iff.mp h
      exact hnumeral h
    · exact hnumeral h

theorem isValid_toDouble (d : Decimal) : d.toDouble.IsValid := by
  cases d with
  | finite negative c e => exact isValid_ofScientific negative c e
  | _ => trivial

/-! ## Integers -/

/-- A number of bits in which every integer that is a double can be written. -/
def bits : Nat := 1025

theorem pow_mul_lt_bits {m k : Nat} (hm : m < 2 ^ 53) (hk : k ≤ 972) : m * 2 ^ k < 2 ^ bits :=
  calc m * 2 ^ k < 2 ^ 53 * 2 ^ k := Nat.mul_lt_mul_of_pos_right hm (Nat.pow_pos (by decide))
    _ = 2 ^ (53 + k) := (pow_add 2 53 k).symm
    _ ≤ 2 ^ bits := Nat.pow_le_pow_right (by decide) (by rw [bits]; omega)

/-- An integer that a double stands for has so many bits. -/
theorem natAbs_lt_of_toInt? {x : Double} (hx : x.IsValid) {n : Int} (h : x.toInt? = some n) :
    n.natAbs < 2 ^ bits := by
  cases x with
  | finite negative m e =>
    obtain ⟨hm, -, hmax⟩ := hx
    obtain ⟨k, hk, rfl⟩ := Option.map_eq_some_iff.mp h
    have hbound : k.natAbs < 2 ^ bits := by
      split_ifs at hk with he hdiv
      · obtain rfl := Option.some.inj hk
        refine pow_mul_lt_bits hm ?_
        rw [maxExponent] at hmax
        omega
      · obtain rfl := Option.some.inj hk
        refine (Nat.div_le_self m _).trans_lt ?_
        exact (mul_one m) ▸ pow_mul_lt_bits (k := 0) hm (by decide)
      · cases hk
    cases negative with
    | false => exact hbound
    | true => rwa [if_pos rfl, Int.natAbs_neg]
  | _ => cases h

theorem log2_le_floorLog2 (n : Nat) : (Nat.log2 n : Int) - 1 ≤ floorLog2 n 1 := by
  have hone : Nat.log2 1 = 0 := by decide
  rw [floorLog2, hone]
  split <;> omega

/-- An integer that is rounded to a double has so many bits. -/
theorem natAbs_lt_of_ofInt? {n : Int} {x : Double} (h : ofInt? n = some x) : n.natAbs < 2 ^ bits := by
  have hpack : ∀ {negative : Bool} {m : Nat} {e : Int}, pack negative m e = x →
      (∀ b, x ≠ .infinity b) → e ≤ maxExponent := by
    intro negative m e hx hfinite
    rw [pack] at hx
    split at hx
    · assumption
    · exact (hfinite negative hx.symm).elim
  have hx : ofRatio (decide (n < 0)) n.natAbs 1 = x ∧ ∀ b, x ≠ .infinity b := by
    rw [ofInt?] at h
    split at h
    · cases h
    · rename_i hne
      obtain rfl := Option.some.inj h
      exact ⟨rfl, fun b hb ↦ hne b hb⟩
  obtain ⟨hround, hfinite⟩ := hx
  have hlog : Nat.log2 n.natAbs ≤ 1024 := by
    have hfloor := log2_le_floorLog2 n.natAbs
    rw [ofRatio] at hround
    dsimp only at hround
    split_ifs at hround with hzero
    · rw [hzero]
      decide
    · have hmax := hpack hround hfinite
      rw [maxExponent] at hmax
      omega
    · have hmax := hpack hround hfinite
      rw [maxExponent] at hmax
      omega
  calc n.natAbs < 2 ^ (Nat.log2 n.natAbs + 1) := Nat.lt_log2_self
    _ ≤ 2 ^ bits := Nat.pow_le_pow_right (by decide) (by rw [bits]; omega)

end Double
end Rulebook
