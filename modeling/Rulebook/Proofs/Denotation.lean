import Rulebook.Proofs.Comparison

/-!
# Numbers that values denote

An integer, a decimal and a text that is a numeral denote a rational number (`Value.Denotes`).  The
rules take the double that is nearest to it (`Value.Denotes.exists_nearest`), and so what they judge
is that double (`RuleContext.JudgesNearest`).  The answer is right for all numbers that are doubles.
For others it can be wrong, since several numbers have the same nearest double, but only in one way:
as rounding keeps the order of numbers, it makes different numbers equal and never turns them around.

Integers from halfway beyond the greatest double on are refused (`Value.succeeds_toNumber_int_iff`).
-/

set_option autoImplicit false

namespace Rulebook

open Double

/-! ## Doubles that are integers -/

namespace Double

theorem isInteger_iff {x : Double} :
    x.isInteger = true ↔ ∃ n : ℤ, x.toExtended? = some (.value n) := by
  cases x with
  | nan => exact iff_of_false nofun nofun
  | infinity negative => exact iff_of_false nofun (by cases negative <;> exact nofun)
  | finite negative m e =>
    obtain ⟨z, hz, hm⟩ : ∃ z : ℤ, (z : ℚ) = (if negative then -(m : ℚ) else m) ∧ z.natAbs = m :=
      ⟨if negative then -m else m, by split_ifs <;> simp, by split_ifs <;> simp⟩
    rw [toExtended?_finite, ← hz, isInteger, toInt?, Option.isSome_map]
    simp only [Option.some.injEq, Extended.value.injEq]
    rcases le_or_gt 0 e with he | he
    · obtain ⟨k, rfl⟩ := Int.eq_ofNat_of_zero_le he
      rw [if_pos he]
      exact iff_of_true rfl ⟨z * 2 ^ k, by push_cast; rw [zpow_natCast]⟩
    · obtain ⟨k, hk⟩ := Int.eq_ofNat_of_zero_le (Int.neg_nonneg_of_nonpos he.le)
      obtain rfl : e = -(k : ℤ) := by omega
      have hpow : (2 : ℚ) ^ k ≠ 0 := pow_ne_zero k two_ne_zero
      have hwhole : (∃ n : ℤ, (z : ℚ) * 2 ^ (-(k : ℤ)) = n) ↔ m % 2 ^ k = 0 := by
        rw [← Nat.dvd_iff_mod_eq_zero, ← hm, ← Int.natCast_dvd]
        push_cast
        constructor
        · rintro ⟨n, hn⟩
          rw [zpow_neg, zpow_natCast, ← div_eq_mul_inv, div_eq_iff hpow] at hn
          exact ⟨n, by rw [mul_comm]; exact_mod_cast hn⟩
        · rintro ⟨n, rfl⟩
          refine ⟨n, ?_⟩
          push_cast
          rw [zpow_neg, zpow_natCast, mul_right_comm, mul_inv_cancel₀ hpow, one_mul]
      rw [hwhole, if_neg he.not_ge, neg_neg, Int.toNat_natCast, Nat.pow_eq]
      split_ifs with h <;> simp [h]

end Double

namespace Comparison

/-- How two rational numbers compare. -/
def relation : Comparison → ℚ → ℚ → Prop
  | less, p, q => p < q
  | atMost, p, q => p ≤ q
  | greater, p, q => q < p
  | atLeast, p, q => q ≤ p
  | equal, p, q => p = q
  | different, p, q => p ≠ q

theorem holds_iff_relation {x y : Double} {p q : ℚ} (hx : x.toExtended? = some (.value p))
    (hy : y.toExtended? = some (.value q)) (c : Comparison) :
    c.holds x y = true ↔ c.relation p q := by
  cases c <;> simp [holds, relation, Double.lt, Double.le, Double.eq, compare?, hx, hy, Extended.lt,
    Extended.le]

/-- What an order that keeps the order of two numbers says about them: whatever is strict in it is
true, and whatever is true and not strict holds in it. -/
theorem relation_of_admits {p q : ℚ} {o : Ordering} (hle : p ≤ q → o.isLE = true)
    (hge : q ≤ p → o.isGE = true) :
    (∀ c ∈ [less, greater, different], c.admits o = true → c.relation p q) ∧
      ∀ c ∈ [atMost, atLeast, equal], c.relation p q → c.admits o = true := by
  cases o with
  | lt =>
    have hlt : p < q := not_le.mp fun h ↦ Bool.false_ne_true (hge h)
    simp [admits, relation, hlt, hlt.ne, hlt.le]
  | eq => simp [admits, relation]
  | gt =>
    have hgt : q < p := not_le.mp fun h ↦ Bool.false_ne_true (hle h)
    simp [admits, relation, hgt, hgt.ne', hgt.le]

end Comparison

/-! ## Denoting a number -/

namespace Value

/-- Whether a value denotes a rational number: an integer, a decimal, or a text that is a numeral. -/
inductive Denotes : Value → ℚ → Prop
  | int (n : ℤ) : Denotes (.int n) n
  | decimal (negative : Bool) (c : Nat) (e : ℤ) :
      Denotes (.decimal (.finite negative c e)) ((if negative then -(c : ℚ) else c) * 10 ^ e)
  | text {s : String} (w : Numeral.Written) (hs : Text.trimChars s.toList = w.chars) :
      Denotes (.text s) w.value

/-- Values that are no integers, or integers that are not beyond all doubles. -/
def InRange : Value → Prop
  | .int n => |(n : ℚ)| < overflowBound
  | _ => True

variable {v : Value} {q : ℚ}

theorem isNearest_ofRatio_int (n : ℤ) : IsNearest n (ofRatio (decide (n < 0)) n.natAbs 1) := by
  have hnearest := isNearest_ofRatio (decide (n < 0)) n.natAbs one_ne_zero
  have hvalue : (if decide (n < 0) then -((n.natAbs : Nat) : ℚ) else n.natAbs) / (1 : Nat) = n := by
    rw [Nat.cast_one, div_one, Nat.cast_natAbs]
    rcases lt_or_ge n 0 with hneg | hpos
    · simp [hneg, abs_of_neg]
    · simp [hpos.not_gt, abs_of_nonneg hpos]
  rwa [hvalue] at hnearest

theorem toNumber_int (n : ℤ) : (Value.int n).toNumber =
    match ofInt? n with
    | some x => .ok ((some x).filter (!·.isNaN))
    | none => .error .integerTooLarge := by
  rw [toNumber]
  cases ofInt? n <;> rfl

theorem exists_nearest_int {n : ℤ} (h : |(n : ℚ)| < overflowBound) :
    ∃ x, (Value.int n).toNumber = .ok (some x) ∧ IsNearest n x := by
  have hnearest := isNearest_ofRatio_int n
  rw [toNumber_int, ofInt?]
  generalize ofRatio (decide (n < 0)) n.natAbs 1 = x at hnearest
  cases hnearest with
  | finite valid normal value small nearest even =>
    exact ⟨_, rfl, .finite valid normal value small nearest even⟩
  | infinity hge => exact absurd h (hge.trans (le_abs_self _)).not_gt
  | negInfinity hle => exact absurd h ((le_neg_of_le_neg hle).trans (neg_le_abs _)).not_gt

/-- Integers from halfway beyond the greatest double on are refused, and no others. -/
theorem succeeds_toNumber_int_iff {n : ℤ} :
    Succeeds (Value.int n).toNumber ↔ |(n : ℚ)| < overflowBound := by
  refine ⟨fun h ↦ ?_, fun h ↦ ?_⟩
  · have hnearest := isNearest_ofRatio_int n
    rw [toNumber_int, ofInt?] at h
    generalize ofRatio (decide (n < 0)) n.natAbs 1 = x at hnearest h
    cases hnearest with
    | finite _ _ _ small => exact small
    | infinity | negInfinity => exact absurd h (not_succeeds_error _)
  · obtain ⟨x, hx, -⟩ := exists_nearest_int h
    exact ⟨_, hx⟩

/-- **A value is taken as the double nearest to the number that it denotes.** -/
theorem Denotes.exists_nearest (h : v.Denotes q) (hrange : v.InRange) :
    ∃ x, v.toNumber = .ok (some x) ∧ IsNearest q x := by
  have hfilter : ∀ {x : Double}, IsNearest q x → (some x).filter (!·.isNaN) = some x := by
    intro x hx
    cases hx <;> rfl
  cases h with
  | int n => exact exists_nearest_int hrange
  | decimal negative c e =>
    have hnearest := isNearest_ofScientific negative c e
    exact ⟨_, congrArg Except.ok (hfilter hnearest), hnearest⟩
  | text w hs =>
    obtain ⟨x, hx, hnearest⟩ := exists_nearest_ofText? w hs
    refine ⟨x, ?_, hnearest⟩
    rw [toNumber, hx]
    exact congrArg Except.ok (hfilter hnearest)

end Value

namespace Double

/-- Doubles are in reach. -/
theorem IsDouble.abs_lt_overflowBound {q : ℚ} (h : IsDouble q) : |q| < overflowBound := by
  obtain ⟨k, e, hk, -, hmax, rfl⟩ := isDouble_iff.mp h
  have hunit : (0 : ℚ) < 2 ^ e := zpow_pos two_pos e
  have hk : |(k : ℚ)| ≤ 2 ^ 53 - 1 := by
    have habs : |k| ≤ 2 ^ 53 - 1 := by
      rw [Int.abs_eq_natAbs]
      omega
    rw [← Int.cast_abs]
    exact_mod_cast habs
  rw [abs_mul, abs_of_pos hunit, overflowBound_eq]
  calc |(k : ℚ)| * 2 ^ e ≤ (2 ^ 53 - 1) * 2 ^ e := mul_le_mul_of_nonneg_right hk hunit.le
    _ < (2 ^ 53 - 1 / 2) * 2 ^ e := mul_lt_mul_of_pos_right (by norm_num) hunit
    _ ≤ (2 ^ 53 - 1 / 2) * 2 ^ maxExponent :=
      mul_le_mul_of_nonneg_left (zpow_le_zpow_right₀ one_le_two hmax) (by norm_num)

/-- A number that is a double is rounded to itself. -/
theorem IsNearest.toExtended?_of_isDouble {q : ℚ} {x : Double} (hx : IsNearest q x)
    (hq : IsDouble q) : x.toExtended? = some (.value q) := by
  have hsmall := abs_lt.mp hq.abs_lt_overflowBound
  cases hx with
  | @finite negative m e r valid normal value small nearest even =>
    have hdist := nearest q hq
    rw [sub_self, abs_zero] at hdist
    rw [value, sub_eq_zero.mp (abs_eq_zero.mp (le_antisymm hdist (abs_nonneg _)))]
  | infinity h => linarith
  | negInfinity h => linarith

/-- **An integer is rounded to an integer**, or to an infinity. -/
theorem IsNearest.exists_int {n : ℤ} {x : Double} (hx : IsNearest n x)
    (hn : |(n : ℚ)| < overflowBound) : ∃ k : ℤ, x.toExtended? = some (.value k) := by
  obtain ⟨r, hr⟩ : ∃ r, x.toExtended? = some (.value r) := by
    cases hx with
    | finite _ _ value => exact ⟨_, value⟩
    | infinity h => exact absurd hn (h.trans (le_abs_self _)).not_gt
    | negInfinity h => exact absurd hn ((le_neg_of_le_neg h).trans (neg_le_abs _)).not_gt
  rcases Nat.lt_or_ge n.natAbs (2 ^ 53) with hsmall | hlarge
  · have hdouble : IsDouble n :=
      isDouble_iff.mpr ⟨n, 0, hsmall, by decide, by decide, by rw [zpow_zero, mul_one]⟩
    exact ⟨n, hx.toExtended?_of_isDouble hdouble⟩
  · obtain ⟨m, e, ⟨hm, -, -⟩, -, habs, -, hnearest, -⟩ := hx.exists_significand hr
    rcases le_or_gt 0 e with he | he
    · obtain ⟨k, rfl⟩ := Int.eq_ofNat_of_zero_le he
      rw [zpow_natCast] at habs
      rcases (abs_eq (by positivity)).mp habs with h | h
      · exact ⟨m * 2 ^ k, by rw [hr, h]; push_cast; rfl⟩
      · exact ⟨-(m * 2 ^ k), by rw [hr, h]; push_cast; rfl⟩
    · -- The double `2 ^ 53` of the sign of `n` would be nearer.
      have hr : |r| < 2 ^ 52 :=
        calc |r| = m * 2 ^ e := habs
          _ ≤ m * 2 ^ (-1 : ℤ) :=
            mul_le_mul_of_nonneg_left (zpow_le_zpow_right₀ one_le_two (by omega)) m.cast_nonneg
          _ < 2 ^ 53 * 2 ^ (-1 : ℤ) :=
            mul_lt_mul_of_pos_right (by exact_mod_cast hm) (zpow_pos two_pos _)
          _ = 2 ^ 52 := by norm_num
      have hr := abs_lt.mp hr
      have hdouble : IsDouble (2 ^ 53) :=
        isDouble_iff.mpr ⟨2 ^ 52, 1, by decide, by decide, by decide, by norm_num⟩
      rcases (by omega : (2 ^ 53 : ℤ) ≤ n ∨ n ≤ -(2 ^ 53)) with hge | hle
      · have hge : (2 ^ 53 : ℚ) ≤ n := by exact_mod_cast hge
        have hnear := (le_abs_self _).trans (hnearest _ hdouble)
        rw [abs_of_nonneg (sub_nonneg.mpr hge)] at hnear
        linarith
      · have hle : (n : ℚ) ≤ -2 ^ 53 := by exact_mod_cast hle
        have hnear := (neg_le_abs _).trans (hnearest _ hdouble.neg)
        rw [abs_of_nonpos (sub_nonpos.mpr hle)] at hnear
        linarith

end Double

namespace RuleContext

open Value

variable {ctx : RuleContext} {p : Value} {r q : ℚ}

theorem integer_passes_iff [Platform] (ctx : RuleContext) :
    ctx.integer = .ok .pass ↔ ∃ x, ctx.value.toNumber = .ok (some x) ∧ x.isInteger = true := by
  rw [integer, bind_eq_ok_iff]
  constructor
  · rintro ⟨x, hx, h⟩
    rw [require] at h
    split_ifs at h with hinteger
    · obtain ⟨y, rfl, hy⟩ := (Option.any_eq_true _ _).mp hinteger
      exact ⟨y, hx, hy⟩
    · exact absurd h (reject_ne_pass _ _ _)
  · rintro ⟨x, hx, hinteger⟩
    exact ⟨some x, hx, if_pos hinteger⟩

/-- How the rules judge a value that denotes `r` with a parameter that denotes `q`. -/
structure JudgesNearest [Platform] (ctx : RuleContext) (p : Value) (r q : ℚ) : Prop where
  /-- Comparisons hold as they do of the doubles nearest to the two numbers. -/
  compared : ∃ x y, IsNearest r x ∧ IsNearest q y ∧
    ∀ c : Comparison, c.Passes ctx p ↔ c.holds x y = true
  /-- They are right about numbers that are doubles. -/
  exact : IsDouble r → IsDouble q → ∀ c : Comparison, c.Passes ctx p ↔ c.relation r q
  /-- What passes as less, greater or different is so. -/
  sound : ∀ c ∈ [Comparison.less, .greater, .different], c.Passes ctx p → c.relation r q
  /-- What is at most as great, at least as great or equal passes as such. -/
  complete : ∀ c ∈ [Comparison.atMost, .atLeast, .equal], c.relation r q → c.Passes ctx p
  /-- What passes as an integer is a number whose nearest double is one. -/
  whole : ∃ x, IsNearest r x ∧
    (StandardRule.integer.judge ctx = .ok .pass ↔ ∃ n : ℤ, x.toExtended? = some (.value n))
  /-- All integers that are not beyond the doubles pass as such. -/
  integer : |r| < overflowBound → (∃ n : ℤ, r = n) → StandardRule.integer.judge ctx = .ok .pass
  /-- This is right as well about numbers that are doubles. -/
  exactInteger : IsDouble r → (StandardRule.integer.judge ctx = .ok .pass ↔ ∃ n : ℤ, r = n)

/-- **The rules on numbers judge the nearest doubles.** -/
theorem judges_nearest [Platform] (hv : ctx.value.Denotes r) (hp : p.Denotes q)
    (hv' : ctx.value.InRange)
    (hp' : p.InRange) (ht : ctx.CanTell p) : ctx.JudgesNearest p r q := by
  obtain ⟨x, hx, hxnear⟩ := hv.exists_nearest hv'
  obtain ⟨y, hy, hynear⟩ := hp.exists_nearest hp'
  have hpasses : ∀ c : Comparison, c.Passes ctx p ↔ c.holds x y = true := passes_iff_holds hx hy ht
  have hinteger : StandardRule.integer.judge ctx = .ok .pass ↔
      ∃ n : ℤ, x.toExtended? = some (.value n) := by
    rw [← isInteger_iff]
    refine (integer_passes_iff ctx).trans ⟨?_, fun h ↦ ⟨x, hx, h⟩⟩
    rintro ⟨x', hx', h⟩
    obtain rfl := Option.some.inj (Except.ok.inj (hx.symm.trans hx'))
    exact h
  obtain ⟨o, ho⟩ := Comparison.exists_ordering (isNaN_of_toNumber hx) (isNaN_of_toNumber hy)
  have hle : r ≤ q → o.isLE = true := fun h ↦ (ho .atMost).symm.trans (hxnear.le_of_le hynear h)
  have hge : q ≤ r → o.isGE = true := fun h ↦ (ho .atLeast).symm.trans (hynear.le_of_le hxnear h)
  obtain ⟨hsound, hcomplete⟩ := Comparison.relation_of_admits hle hge
  refine ⟨⟨x, y, hxnear, hynear, hpasses⟩, fun hr hq c ↦ ?_, ?_, ?_, ⟨x, hxnear, hinteger⟩, ?_,
    fun hr ↦ ?_⟩
  · rw [hpasses]
    exact c.holds_iff_relation (hxnear.toExtended?_of_isDouble hr)
      (hynear.toExtended?_of_isDouble hq)
  · exact fun c hc h ↦ hsound c hc ((ho c).symm.trans ((hpasses c).mp h))
  · exact fun c hc h ↦ (hpasses c).mpr ((ho c).trans (hcomplete c hc h))
  · rintro hr ⟨n, rfl⟩
    exact hinteger.mpr (hxnear.exists_int hr)
  · rw [hinteger, hxnear.toExtended?_of_isDouble hr]
    simp only [Option.some.injEq, Extended.value.injEq]

namespace Neighbours

open scoped Platform

/-- The numeral `1.5e3`. -/
def numeral : Numeral.Written where
  sign := .unwritten
  whole := ⟨['1'], List.forall_mem_singleton.mpr rfl⟩
  fractionPart := some ⟨['5'], List.forall_mem_singleton.mpr rfl⟩
  exponentPart :=
    some ⟨false, .unwritten, ⟨['3'], List.forall_mem_singleton.mpr rfl⟩, List.cons_ne_nil _ _⟩
  ne_nil := nofun

/-- The text of a numeral between blanks, to be judged with the bundled messages. -/
def text : RuleContext := { Seven.seven with value := .text " 1.5e3 " }

/-- The text is judged with the least positive integer that is no double. -/
theorem judges_nearest_numeral :
    text.value.Denotes numeral.value ∧ (Value.int 9007199254740993).Denotes (9007199254740993 : ℤ) ∧
      text.value.InRange ∧ (Value.int 9007199254740993).InRange ∧
      text.CanTell (.int 9007199254740993) ∧
      text.JudgesNearest (.int 9007199254740993) numeral.value (9007199254740993 : ℤ) := by
  have hv : text.value.Denotes numeral.value := .text numeral (by decide)
  have hp : (Value.int 9007199254740993).Denotes (9007199254740993 : ℤ) := .int _
  have hp' : (Value.int 9007199254740993).InRange := succeeds_toNumber_int_iff.mp ⟨_, rfl⟩
  have ht : text.CanTell (.int 9007199254740993) :=
    canTell_of_isNumeric (.inr ⟨"en", "en", rfl⟩) ⟨_, rfl⟩
  exact ⟨hv, hp, trivial, hp', ht, judges_nearest hv hp trivial hp' ht⟩

/-- Two integers next to each other pass as equal. -/
theorem not_forall_exact :
    ¬ ∀ (ctx : RuleContext) (p : Value) (r q : ℚ), ctx.value.Denotes r → p.Denotes q →
      ctx.CanTell p → (∀ c : Comparison, c.Passes ctx p ↔ c.relation r q) ∧
        (StandardRule.integer.judge ctx = .ok .pass ↔ ∃ n : ℤ, r = n) := by
  intro hall
  have hx : (Value.int 9007199254740993).toNumber = .ok (some (.finite false (2 ^ 52) 1)) := rfl
  have hp : (Value.int 9007199254740992).toNumber = .ok (some (.finite false (2 ^ 52) 1)) := rfl
  have ht : ({ Seven.seven with value := .int 9007199254740993 } : RuleContext).CanTell
      (.int 9007199254740992) := canTell_of_isNumeric (.inr ⟨"en", "en", rfl⟩) ⟨_, hp⟩
  have hpass : Comparison.equal.Passes { Seven.seven with value := .int 9007199254740993 }
      (.int 9007199254740992) :=
    (passes_iff_holds hx hp ht .equal).mpr
      (by simp [Comparison.holds, Double.eq, compare?, Double.toExtended?])
  have hequal := ((hall _ _ _ _ (.int _) (.int _) ht).1 .equal).mp hpass
  exact absurd (Int.cast_injective hequal) (by decide)

end Neighbours

end RuleContext
end Rulebook
