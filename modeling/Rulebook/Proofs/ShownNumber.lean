import Rulebook.Proofs.WrittenNumeral
import Rulebook.Value.Display
import Mathlib.Data.List.DropRight

/-!
# Numbers are shown as numerals

The text of a number is a numeral (`Numeral.Written`): an integer is written as its digits, and a decimal
and a double are laid out with a point or an exponent (`Decimal.exists_text_eq`,
`Double.exists_text_eq`).  For a double that rests on the search for its shortest digits.  A grid of
seventeen digits is finer than the interval of numbers that round to the double, so that the search finds
a decimal in that interval (`Double.onGrid_seventeen`), and in this interval there is no zero.
-/

set_option autoImplicit false

namespace Rulebook

namespace Numeral

/-! ## Digits and layouts -/

namespace Digits

/-- The digits of a natural number. -/
def ofNat (n : Nat) : Digits :=
  ⟨Nat.toDigits 10 n, fun _ ↦ Nat.isDigit_of_mem_toDigits (by decide) (by decide)⟩

/-- A number of zeros. -/
def zeros (k : Nat) : Digits :=
  ⟨List.replicate k '0', fun _ hc ↦ by rw [List.eq_of_mem_replicate hc]; decide⟩

/-- Digits followed by digits. -/
def append (ds es : Digits) : Digits :=
  ⟨ds.chars ++ es.chars, List.forall_mem_append.mpr ⟨ds.isDigit, es.isDigit⟩⟩

/-- The first digits. -/
def take (k : Nat) (ds : Digits) : Digits :=
  ⟨ds.chars.take k, fun c hc ↦ ds.isDigit c (List.mem_of_mem_take hc)⟩

/-- All but the first digits. -/
def drop (k : Nat) (ds : Digits) : Digits :=
  ⟨ds.chars.drop k, fun c hc ↦ ds.isDigit c (List.mem_of_mem_drop hc)⟩

variable {ds : Digits} {k : Nat}

theorem ofNat_ne_nil (n : Nat) : (ofNat n).chars ≠ [] := Nat.toDigits_ne_nil

theorem take_ne_nil (hds : ds.chars ≠ []) (hk : k ≠ 0) : (ds.take k).chars ≠ [] :=
  fun h ↦ (List.take_eq_nil_iff.mp h).elim hk hds

end Digits

/-- The exponent `x`, written with a sign and the digits `es`. -/
def Exponent.signed (capital : Bool) (x : Int) (es : Digits) (hes : es.chars ≠ []) : Exponent :=
  ⟨capital, if x < 0 then .minus else .plus, es, hes⟩

theorem Exponent.chars_signed (capital : Bool) (x : Int) (es : Digits) (hes : es.chars ≠ []) :
    (signed capital x es hes).chars =
      (if capital then 'E' else 'e') :: (if x < 0 then '-' else '+') :: es.chars := by
  rw [signed, chars]
  split_ifs <;> rfl

/-- Whether characters are a numeral without a sign. -/
def IsUnsigned (cs : List Char) : Prop := ∃ w : Written, w.sign = .unwritten ∧ w.chars = cs

/-- A numeral gets its sign. -/
theorem IsUnsigned.exists_chars_eq {cs : List Char} (h : IsUnsigned cs) (negative : Bool) :
    ∃ w : Written, w.chars = (if negative then ['-'] else []) ++ cs := by
  obtain ⟨w, hsign, rfl⟩ := h
  cases negative with
  | false => exact ⟨w, rfl⟩
  | true =>
    refine ⟨{ w with sign := .minus }, ?_⟩
    rw [Written.chars, Written.chars, hsign]
    rfl

section Layouts

variable {ds : Digits} (hds : ds.chars ≠ [])
include hds

theorem isUnsigned_whole : IsUnsigned ds.chars :=
  ⟨⟨.unwritten, ds, none, none, fun h ↦ absurd h hds⟩, rfl, List.append_nil _⟩

theorem isUnsigned_point (fs : Digits) : IsUnsigned (ds.chars ++ '.' :: fs.chars) := by
  refine ⟨⟨.unwritten, ds, some fs, none, fun h ↦ absurd h hds⟩, rfl, ?_⟩
  change ds.chars ++ '.' :: (fs.chars ++ []) = _
  rw [List.append_nil]

/-- One digit before the point and an exponent behind them all. -/
theorem isUnsigned_scientific (x : Exponent) : IsUnsigned
    (ds.chars.take 1 ++ (if ds.chars.length ≤ 1 then [] else '.' :: ds.chars.drop 1) ++ x.chars) := by
  refine ⟨⟨.unwritten, ds.take 1, if ds.chars.length ≤ 1 then none else some (ds.drop 1), some x,
    fun h ↦ absurd h (Digits.take_ne_nil hds one_ne_zero)⟩, rfl, ?_⟩
  rw [List.append_assoc]
  split_ifs <;> rfl

/-- The point among the digits. -/
theorem isUnsigned_split {k : Nat} (hk : k ≠ 0) :
    IsUnsigned (ds.chars.take k ++ '.' :: ds.chars.drop k) :=
  isUnsigned_point (Digits.take_ne_nil hds hk) (ds.drop k)

/-- Zeros behind the digits, and one behind the point. -/
theorem isUnsigned_trailing (k : Nat) :
    IsUnsigned (ds.chars ++ List.replicate k '0' ++ ['.', '0']) :=
  @isUnsigned_point (ds.append (.zeros k)) (List.append_ne_nil_of_left_ne_nil hds _) (.zeros 1)

end Layouts

/-- Zeros between the point and the digits. -/
theorem isUnsigned_zeros (k : Nat) (ds : Digits) :
    IsUnsigned ('0' :: '.' :: (List.replicate k '0' ++ ds.chars)) :=
  @isUnsigned_point (.zeros 1) (List.cons_ne_nil _ _) ((Digits.zeros k).append ds)

end Numeral

open Numeral

/-! ## Integers and decimals -/

theorem exists_showInteger_eq {n : Int} {s : String} (h : showInteger n = .ok s) :
    ∃ w : Written, s = String.ofList w.chars := by
  rw [showInteger] at h
  split at h
  · cases h
  rw [← Except.ok.inj h, integerText]
  by_cases hneg : n < 0
  all_goals
    obtain ⟨w, hw⟩ :=
      (isUnsigned_whole (Digits.ofNat_ne_nil n.natAbs)).exists_chars_eq (decide (n < 0))
    refine ⟨w, ?_⟩
    rw [hw]
    simp [hneg, Digits.ofNat]

namespace Decimal

theorem isUnsigned_layout {ds : Digits} (hds : ds.chars ≠ []) (e : Int) :
    IsUnsigned (layout ds.chars e) := by
  rw [layout]
  dsimp only
  split
  · split_ifs with hzero hpoint
    · exact isUnsigned_whole hds
    · exact isUnsigned_zeros _ ds
    · exact isUnsigned_split hds (by omega)
  · have hshown := isUnsigned_scientific hds (.signed true ((ds.chars.length : Int) + e - 1)
      (.ofNat ((ds.chars.length : Int) + e - 1).natAbs) (Digits.ofNat_ne_nil _))
    rwa [Exponent.chars_signed] at hshown

/-- **The text of a decimal** is a numeral. -/
theorem exists_text_eq (negative : Bool) (c : Nat) (e : Int) :
    ∃ w : Written, (finite negative c e).text = String.ofList w.chars := by
  obtain ⟨w, hw⟩ :=
    (isUnsigned_layout (Digits.ofNat_ne_nil c) e).exists_chars_eq negative
  exact ⟨w, congrArg String.ofList hw.symm⟩

end Decimal

/-! ## Doubles -/

namespace Double

/-- The exponent of a double has digits, the padding among them. -/
theorem exists_digits_paddedNumeral (width n : Nat) :
    ∃ es : Digits, es.chars ≠ [] ∧ es.chars = paddedNumeral width n := by
  refine ⟨(Digits.zeros _).append (.ofNat n), ?_, rfl⟩
  exact List.append_ne_nil_of_right_ne_nil _ (Digits.ofNat_ne_nil n)

theorem isUnsigned_layout {ds : Digits} (hds : ds.chars ≠ []) (point : Int) :
    IsUnsigned (layout plainStyle ds.chars point) := by
  rw [layout]
  split
  · split_ifs with hpoint hlength
    · exact isUnsigned_zeros _ ds
    · exact isUnsigned_trailing hds _
    · exact isUnsigned_split hds (by omega)
  · obtain ⟨es, hes, hchars⟩ := exists_digits_paddedNumeral 2 (point - 1).natAbs
    have hshown := isUnsigned_scientific hds (.signed false (point - 1) es hes)
    rwa [Exponent.chars_signed, hchars] at hshown

/-- Digits that are not all zeros are left when the zeros at their end are dropped. -/
theorem exists_digits_dropTrailingZeros {n : Nat} (hn : n ≠ 0) :
    ∃ ds : Digits, ds.chars ≠ [] ∧ ds.chars = dropTrailingZeros (Nat.toDigits 10 n) := by
  refine ⟨⟨dropTrailingZeros (Nat.toDigits 10 n), fun c hc ↦ ?_⟩, fun hnil ↦ hn ?_, rfl⟩
  · exact (Digits.ofNat n).isDigit c ((List.rdropWhile_prefix _ _).subset hc)
  · have hzeros : Nat.toDigits 10 n = List.replicate (Nat.toDigits 10 n).length '0' :=
      List.eq_replicate_of_mem fun c hc ↦ eq_of_beq (List.rdropWhile_eq_nil_iff.mp hnil c hc)
    rw [← Nat.ofDigitChars_toDigits (n := n) (b := 10) (by decide) (by decide), hzeros,
      Nat.ofDigitChars_replicate_zero, mul_zero]

/-! ### The search for the shortest digits -/

namespace RoundingInterval

variable {i : RoundingInterval} {d : Nat} {p : Int}

/-- What the search needs to know about an interval: that it has no zero in it, and that it is wider than
the seventeenth digit of its middle. -/
structure IsWide (i : RoundingInterval) : Prop where
  denominator_ne_zero : i.denominator ≠ 0
  low_ne_zero : i.low ≠ 0
  low_le_mid : i.low ≤ i.mid
  mid_lt_high : i.mid < i.high
  wide : i.mid + i.low * 10 ^ 16 < i.high * 10 ^ 16

theorem isWide_interval {m : Nat} (hm : m ≠ 0) (hlt : m < 2 ^ 53) (e : Int) :
    (interval m e).IsWide := by
  have hscale : 0 < Nat.pow 2 (e - 2).toNat := Nat.pow_pos (by decide)
  obtain ⟨below, hbelow, hcases⟩ : ∃ below,
      below = (if m = Nat.pow 2 52 ∧ minExponent < e then 1 else 2) ∧
        (below = 2 ∨ below = 1 ∧ m = 2 ^ 52) := by
    refine ⟨_, rfl, ?_⟩
    split_ifs with h
    · exact .inr ⟨rfl, h.1⟩
    · exact .inl rfl
  have hwide : 4 * m + (4 * m - below) * 10 ^ 16 < (4 * m + 2) * 10 ^ 16 := by omega
  rw [interval, ← hbelow]
  constructor
  · exact (Nat.pow_pos (by decide)).ne'
  · exact (Nat.mul_pos (by omega) hscale).ne'
  · exact Nat.mul_le_mul_right _ (by omega)
  · exact Nat.mul_lt_mul_of_pos_right (by omega) hscale
  · calc 4 * m * Nat.pow 2 (e - 2).toNat + (4 * m - below) * Nat.pow 2 (e - 2).toNat * 10 ^ 16
        = (4 * m + (4 * m - below) * 10 ^ 16) * Nat.pow 2 (e - 2).toNat := by ring
      _ < (4 * m + 2) * 10 ^ 16 * Nat.pow 2 (e - 2).toNat :=
        Nat.mul_lt_mul_of_pos_right hwide hscale
      _ = (4 * m + 2) * Nat.pow 2 (e - 2).toNat * 10 ^ 16 := by ring

/-- A multiple of a power of ten that does not round to the double lies below the interval or above. -/
theorem le_or_ge_of_not_holds (h : i.holds d p = false) :
    d * (i.denominator * Nat.pow 10 p.toNat) ≤ i.low * Nat.pow 10 (-p).toNat ∨
      i.high * Nat.pow 10 (-p).toNat ≤ d * (i.denominator * Nat.pow 10 p.toNat) := by
  rw [← mul_assoc]
  rw [holds] at h
  split at h <;> simp only [Bool.and_eq_false_iff, decide_eq_false_iff_not] at h <;> omega

theorem holds_zero (hlow : i.low ≠ 0) (p : Int) : i.holds 0 p = false := by
  have hpos : 0 < i.low * Nat.pow 10 (-p).toNat :=
    Nat.mul_pos (Nat.pos_of_ne_zero hlow) (Nat.pow_pos (by decide))
  rw [holds]
  simp only [Nat.zero_mul]
  rw [decide_eq_false (by omega : ¬ _ ≤ 0), decide_eq_false (by omega : ¬ _ < 0)]
  simp

/-- No decimal that is found is zero. -/
theorem ne_zero_of_onGrid (hlow : i.low ≠ 0) (h : i.onGrid p = some d) : d ≠ 0 := by
  have hfound : ∀ {k : Nat}, i.holds k p = true → k ≠ 0 := by
    rintro k hk rfl
    rw [holds_zero hlow] at hk
    cases hk
  rw [onGrid] at h
  split at h
  · rename_i hfloor _
    obtain rfl := Option.some.inj h
    split_ifs
    exacts [hfound hfloor, Nat.succ_ne_zero _, hfound hfloor, Nat.succ_ne_zero _]
  · rename_i hfloor _
    exact Option.some.inj h ▸ hfound hfloor
  · exact Option.some.inj h ▸ Nat.succ_ne_zero _
  · cases h

/-- A grid that is finer than the interval has a point in it. -/
theorem onGrid_ne_none (hi : i.IsWide)
    (hfine : i.denominator * Nat.pow 10 p.toNat + i.low * Nat.pow 10 (-p).toNat <
      i.high * Nat.pow 10 (-p).toNat) : i.onGrid p ≠ none := by
  have hwidth : 0 < i.denominator * Nat.pow 10 p.toNat :=
    Nat.mul_pos (Nat.pos_of_ne_zero hi.denominator_ne_zero) (Nat.pow_pos (by decide))
  have hmid : i.low * Nat.pow 10 (-p).toNat ≤ i.mid * Nat.pow 10 (-p).toNat :=
    Nat.mul_le_mul_right _ hi.low_le_mid
  have hmid' : i.mid * Nat.pow 10 (-p).toNat < i.high * Nat.pow 10 (-p).toNat :=
    Nat.mul_lt_mul_of_pos_right hi.mid_lt_high (Nat.pow_pos (by decide))
  rw [onGrid]
  split
  iterate 3 nofun
  -- Neither neighbour of the middle would lie between the ends, which are farther apart than they.
  rename_i hfloor hceil
  have hle := Nat.div_mul_le_self (i.mid * Nat.pow 10 (-p).toNat) (i.denominator * Nat.pow 10 p.toNat)
  have hlt := Nat.lt_div_mul_add (a := i.mid * Nat.pow 10 (-p).toNat) hwidth
  have hfloor := le_or_ge_of_not_holds hfloor
  have hceil := le_or_ge_of_not_holds hceil
  rw [Nat.add_mul, Nat.one_mul] at hceil
  omega

/-- The magnitude of an interval is that of a power of ten that is at most its middle. -/
theorem pow_magnitude_le (hmid : i.mid ≠ 0) (hdenominator : i.denominator ≠ 0) :
    (i.denominator : ℚ) * 10 ^ i.magnitude ≤ i.mid := by
  have hmidpos := Nat.pos_of_ne_zero hmid
  rw [magnitude]
  split_ifs with hle
  · have hquotient : i.mid / i.denominator ≠ 0 :=
      (Nat.div_pos hle (Nat.pos_of_ne_zero hdenominator)).ne'
    have hdigits : 0 < digitCount (i.mid / i.denominator) := by
      rw [digitCount_of_ne_zero hquotient]
      exact Nat.length_toDigits_pos
    have hpow : i.denominator * 10 ^ (digitCount (i.mid / i.denominator) - 1) ≤ i.mid :=
      (Nat.mul_le_mul_left _ (pow_le_of_lt_digitCount hquotient (Nat.sub_lt hdigits Nat.one_pos))).trans
        (Nat.mul_div_le _ _)
    rw [← Nat.cast_one, ← Nat.cast_sub hdigits, zpow_natCast]
    exact_mod_cast hpow
  · have hdivision := Nat.lt_div_mul_add (a := i.denominator + i.mid - 1) hmidpos
    have htwo : 2 ≤ (i.denominator + i.mid - 1) / i.mid :=
      (Nat.le_div_iff_mul_le hmidpos).mpr (by omega)
    generalize (i.denominator + i.mid - 1) / i.mid = ceil at hdivision htwo ⊢
    have hceil : ceil ≤ 10 ^ digitCount (ceil - 1) := by
      have hlt := lt_pow_digitCount (m := ceil - 1) (by omega)
      omega
    have hpow : i.denominator ≤ i.mid * 10 ^ digitCount (ceil - 1) :=
      calc i.denominator ≤ i.mid * ceil := by rw [Nat.mul_comm]; omega
        _ ≤ i.mid * 10 ^ digitCount (ceil - 1) := Nat.mul_le_mul_left _ hceil
    rw [zpow_neg, zpow_natCast, ← div_eq_mul_inv, div_le_iff₀ (by positivity)]
    exact_mod_cast hpow

/-- The grid of the seventeenth digit has a point in the interval. -/
theorem onGrid_seventeen (hi : i.IsWide) : i.onGrid (i.magnitude - 16) ≠ none := by
  have hten : (10 : ℚ) ≠ 0 := by norm_num
  have hlow := hi.low_ne_zero
  have hmagnitude : (i.denominator : ℚ) * 10 ^ i.magnitude ≤ i.mid :=
    pow_magnitude_le (by have := hi.low_le_mid; omega) hi.denominator_ne_zero
  have hwide : (i.mid : ℚ) + i.low * 10 ^ 16 < i.high * 10 ^ 16 := by exact_mod_cast hi.wide
  have hgrid : (i.denominator : ℚ) * 10 ^ (i.magnitude - 16) + i.low < i.high := by
    rw [zpow_sub₀ hten, mul_div_assoc']
    norm_num at hwide ⊢
    linarith
  refine onGrid_ne_none hi ?_
  have hscale : (0 : ℚ) < 10 ^ (-(i.magnitude - 16)).toNat := by positivity
  have hfine : (i.denominator : ℚ) * 10 ^ (i.magnitude - 16).toNat +
      i.low * 10 ^ (-(i.magnitude - 16)).toNat < i.high * 10 ^ (-(i.magnitude - 16)).toNat := by
    rw [pow_toNat hten, ← mul_assoc, ← add_mul]
    exact mul_lt_mul_of_pos_right hgrid hscale
  exact_mod_cast hfine

end RoundingInterval

open RoundingInterval

variable {i : RoundingInterval}

/-- A search that comes to a grid with a point in the interval finds a decimal that is not zero. -/
theorem shortestFrom_ne_zero (hlow : i.low ≠ 0) :
    ∀ {fuel j : Nat} {k : Int}, j < fuel → i.onGrid (i.magnitude - (k + j) + 1) ≠ none →
      (shortestFrom i k fuel).1 ≠ 0
  | fuel + 1, j, k, hj, hgrid => by
    rw [shortestFrom]
    split
    · rename_i d hd
      exact ne_zero_of_onGrid hlow hd
    · rename_i hnone
      cases j with
      | zero => exact absurd (by simpa using hnone) hgrid
      | succ j =>
        refine shortestFrom_ne_zero hlow (j := j) (by omega) ?_
        rwa [show k + 1 + j = k + (j + 1 : Nat) by push_cast; omega]

theorem shortest_ne_zero {m : Nat} (hm : m ≠ 0) (hlt : m < 2 ^ 53) (e : Int) :
    (shortest m e).1 ≠ 0 := by
  have hi := isWide_interval hm hlt e
  refine shortestFrom_ne_zero hi.low_ne_zero (j := 16) (by decide) ?_
  have hgrid := onGrid_seventeen hi
  rwa [show (interval m e).magnitude - (1 + (16 : Nat)) + 1 = (interval m e).magnitude - 16 by omega]

/-- **The text of a double** is a numeral. -/
theorem exists_text_eq {negative : Bool} {m : Nat} {e : Int} (h : (finite negative m e).IsValid) :
    ∃ w : Written, (finite negative m e).text = String.ofList w.chars := by
  have hunsigned : ∃ cs, IsUnsigned cs ∧ (finite negative m e).text =
      String.ofList ((if negative then ['-'] else []) ++ cs) := by
    by_cases hm : m = 0
    · exact ⟨_, isUnsigned_zeros 1 ⟨[], List.forall_mem_nil _⟩, by rw [text, if_pos hm]; rfl⟩
    · obtain ⟨ds, hne, hds⟩ := exists_digits_dropTrailingZeros (shortest_ne_zero hm h.1 e)
      exact ⟨_, hds ▸ isUnsigned_layout hne _, by rw [text, if_neg hm]⟩
  obtain ⟨cs, hcs, htext⟩ := hunsigned
  obtain ⟨w, hw⟩ := hcs.exists_chars_eq negative
  exact ⟨w, by rw [htext, hw]⟩

end Double
end Rulebook
