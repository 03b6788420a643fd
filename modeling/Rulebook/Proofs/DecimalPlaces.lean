import Rulebook.Proofs.Fault
import Rulebook.Proofs.LengthBounds
import Rulebook.Proofs.ShownNumber

/-!
# The rule on decimal places

A number that is written as a numeral has the decimal places that stand behind its point, and its exponent
makes them fewer or more (`Numeral.Written.decimalPlaces`).  The rule on decimal places counts whatever
stands behind the point instead, the letter, the sign and the digits of the exponent included
(`Numeral.Written.decimalPlaces_chars`).  The two are the same for a numeral without an exponent, and
hardly ever for one with an exponent (`Numeral.Written.charsBehindPoint_eq_iff`).  Since a double is
written with an exponent when it is very great or very small, and a decimal when it is very small, this is
not only about texts.

Every number is shown as a numeral, so that the rule is described for all of them
(`RuleContext.countsPlaces`).  Its bounds are natural numbers, however they are written; those that are no
doubles are rounded, but that does not change how they compare to a count (`Double.atLeast_iff`,
`Double.atMost_iff`).
-/

set_option autoImplicit false

namespace Rulebook

open Double Numeral

/-! ## What is counted -/

namespace Numeral.Written

variable (w : Written)

/-- How many decimal places the number has that is written. -/
def decimalPlaces : Nat := (w.places - w.exponent).toNat

/-- How many characters stand behind the point, if there is one. -/
def charsBehindPoint : Nat :=
  w.fractionPart.elim 0 fun ds ↦ ds.chars.length + w.exponentChars.length

/-- When the characters behind the point are as many as the decimal places: without a point, if the
exponent does not make places; with a point, if it makes as many as it has characters, as in `1.5e-3`. -/
def CountedRight : Prop :=
  if w.fractionPart.isSome then w.exponent = -(w.exponentChars.length : ℤ) else 0 ≤ w.exponent

instance : Decidable w.CountedRight :=
  inferInstanceAs (Decidable (if w.fractionPart.isSome then _ = _ else _ ≤ _))

/-- The sign and the digits in front of the point are no point, and neither is the exponent. -/
theorem ne_point : (∀ c ∈ w.sign.chars ++ w.whole.chars, c ≠ '.') ∧ ∀ c ∈ w.exponentChars, c ≠ '.' := by
  have hsign : ∀ s : Sign, ∀ c ∈ s.chars, c ≠ '.' := by
    intro s
    cases s <;> simp [Sign.chars]
  have hdigits : ∀ ds : Digits, ∀ c ∈ ds.chars, c ≠ '.' := fun ds c hc ↦
    ne_of_isDigit (ds.isDigit c hc) (by decide)
  refine ⟨List.forall_mem_append.mpr ⟨hsign _, hdigits _⟩, ?_⟩
  rw [exponentChars]
  cases w.exponentPart with
  | none => exact List.forall_mem_nil _
  | some x =>
    refine List.forall_mem_cons.mpr ⟨by cases x.capital <;> decide, ?_⟩
    exact List.forall_mem_append.mpr ⟨hsign _, hdigits _⟩

/-- **The rule counts what stands behind the point.** -/
theorem decimalPlaces_chars : Rulebook.decimalPlaces w.chars = w.charsBehindPoint := by
  obtain ⟨hfront, hexponent⟩ := w.ne_point
  have hskip : ∀ {cs : List Char}, (∀ c ∈ cs, c ≠ '.') → ∀ c ∈ cs, (c != '.') = true :=
    fun h c hc ↦ bne_iff_ne.mpr (h c hc)
  rw [Rulebook.decimalPlaces, chars, ← List.append_assoc, List.dropWhile_append_of_pos (hskip hfront),
    ending, charsBehindPoint]
  cases w.fractionPart with
  | none => rw [Option.elim, Option.elim, List.dropWhile_eq_nil_iff.mpr (hskip hexponent)]; rfl
  | some ds => simp

theorem exponentChars_eq_nil_iff : w.exponentChars = [] ↔ w.exponentPart = none := by
  rw [exponentChars]
  cases w.exponentPart <;> simp [Exponent.chars]

/-- **The count is right** for exactly the numerals of this form. -/
theorem charsBehindPoint_eq_iff : w.charsBehindPoint = w.decimalPlaces ↔ w.CountedRight := by
  have hnone : w.exponentChars.length = 0 → w.exponent = 0 := by
    rw [List.length_eq_zero_iff, exponentChars_eq_nil_iff, exponent]
    rintro h
    rw [h]
    rfl
  rw [charsBehindPoint, decimalPlaces, CountedRight, places, fraction]
  cases w.fractionPart with
  | none =>
    simp only [Option.elim, Option.getD_none, Option.isSome_none, Bool.false_eq_true, if_false,
      List.length_nil]
    omega
  | some ds =>
    simp only [Option.elim, Option.getD_some, Option.isSome_some, if_true]
    omega

end Numeral.Written

/-! ## Values that are written as numerals -/

namespace Value

/-- A number, or a text that is a numeral.  Numbers are in reach: integers are not beyond all doubles, and
floats are doubles. -/
inductive HasNumeral : Value → Prop
  | int {n : Int} (h : (Value.int n).InRange) : HasNumeral (.int n)
  | float {negative : Bool} {m : Nat} {e : Int} (h : (finite negative m e).IsValid) :
      HasNumeral (.float (.finite negative m e))
  | decimal (negative : Bool) (c : Nat) (e : Int) : HasNumeral (.decimal (.finite negative c e))
  | text {s : String} (w : Written) (hs : Text.trimChars s.toList = w.chars) : HasNumeral (.text s)

/-- Whether a value is written as a numeral: a text once the blanks around it are gone, and anything else
in the form in which it is shown. -/
def Writes [Platform] (v : Value) (w : Written) : Prop :=
  match v with
  | .text s => Text.trimChars s.toList = w.chars
  | v => v.display = .ok (String.ofList w.chars)

variable {v : Value} {w : Written}

/-- **Every number is written as a numeral.** -/
theorem HasNumeral.exists_writes [Platform] (h : v.HasNumeral) : ∃ w, v.Writes w := by
  cases h with
  | @int n h =>
    obtain ⟨x, hx, -⟩ := exists_nearest_int h
    obtain ⟨s, hs⟩ := succeeds_display_of_toNumber hx
    obtain ⟨w, rfl⟩ := exists_showInteger_eq hs
    exact ⟨w, hs⟩
  | float h =>
    obtain ⟨w, hw⟩ := Double.exists_text_eq h
    exact ⟨w, congrArg Except.ok hw⟩
  | decimal negative c e =>
    obtain ⟨w, hw⟩ := Decimal.exists_text_eq negative c e
    exact ⟨w, congrArg Except.ok hw⟩
  | text w hs => exact ⟨w, hs⟩

theorem HasNumeral.isNumeric (h : v.HasNumeral) : v.IsNumeric := by
  cases h with
  | @int n h =>
    obtain ⟨x, hx, -⟩ := exists_nearest_int h
    exact ⟨x, hx⟩
  | float h => exact ⟨_, rfl⟩
  | decimal negative c e =>
    obtain ⟨x, hx, -⟩ := (Denotes.decimal negative c e).exists_nearest trivial
    exact ⟨x, hx⟩
  | text w hs =>
    obtain ⟨x, hx, -⟩ := (Denotes.text w hs).exists_nearest trivial
    exact ⟨x, hx⟩

/-! ## Bounds -/

theorem Denotes.toNumber_of_not_inRange {q : ℚ} (h : v.Denotes q) (hrange : ¬ v.InRange) :
    v.toNumber = .error .integerTooLarge := by
  cases h with
  | int n =>
    have hfails : ¬ Succeeds (Value.int n).toNumber := succeeds_toNumber_int_iff.not.mpr hrange
    rw [toNumber_int] at hfails ⊢
    cases hn : ofInt? n with
    | none => rfl
    | some x => exact absurd (succeeds_ok _) (by simpa only [hn] using hfails)
  | decimal | text => exact absurd trivial hrange

/-- An integer beyond all doubles makes reading the bounds fail. -/
theorem mapM_toNumber_of_not_inRange {bounds : List Value} (h : ∀ p ∈ bounds, ∃ q, p.Denotes q)
    (hlarge : ∃ p ∈ bounds, ¬ p.InRange) : bounds.mapM toNumber = .error .integerTooLarge := by
  induction bounds with
  | nil =>
    obtain ⟨p, hp, -⟩ := hlarge
    cases hp
  | cons p r ih =>
    obtain ⟨⟨q, hq⟩, hr⟩ := List.forall_mem_cons.mp h
    rw [List.mapM_cons]
    by_cases hrange : p.InRange
    · obtain ⟨x, hx, -⟩ := hq.exists_nearest hrange
      have hlarge : ∃ p ∈ r, ¬ p.InRange :=
        (List.or_exists_of_exists_mem_cons hlarge).resolve_left (not_not_intro hrange)
      rw [hx, ih hr hlarge]
      rfl
    · rw [hq.toNumber_of_not_inRange hrange]
      rfl

end Value

namespace Double

variable {a b n : Nat} {x y : Double}

/-- A small natural number is its own nearest double. -/
theorem exists_nearest_natCast (h : n ≤ 2 ^ 53) :
    ∃ z, IsNearest (n : ℚ) z ∧ z.toExtended? = some (.value (n : ℚ)) := by
  have hnear : IsNearest ((n : ℤ) : ℚ) _ := Value.isNearest_ofRatio_int n
  rw [Int.cast_natCast] at hnear
  exact ⟨_, hnear, hnear.toExtended?_of_isDouble (isDouble_natCast h)⟩

/-- To be at least a double is to be a double that is. -/
theorem atLeast_eq_le {z : Double} (hz : z.toExtended? = some (.value (n : ℚ))) :
    RuleContext.atLeast n x = x.le z := by
  rw [RuleContext.atLeast, Double.le, compare?, hz]
  cases x.toExtended? <;> rfl

theorem atMost_eq_le {z : Double} (hz : z.toExtended? = some (.value (n : ℚ))) :
    RuleContext.atMost n y = z.le y := by
  rw [RuleContext.atMost, Double.le, compare?, hz]
  cases y.toExtended? <;> rfl

/-- What lies between two numbers shows their order. -/
theorem le_of_le_of_le {p q : ℚ} {z z' : Double} (hz : z.toExtended? = some (.value p))
    (hz' : z'.toExtended? = some (.value q)) (h : z.le x = true) (h' : x.le z' = true) : p ≤ q := by
  rw [Double.le, compare?, hz] at h
  rw [Double.le, compare?, hz'] at h'
  cases hx : x.toExtended? with
  | none => simp [hx] at h
  | some r =>
    simp only [hx, Extended.le] at h h'
    cases r with
    | value r =>
      simp only [Extended.lt, Bool.not_eq_true', decide_eq_false_iff_not, not_lt] at h h'
      exact h.trans h'
    | negInfinity => cases h
    | posInfinity => cases h'

/-- A count is at least a bound if it is at least what the bound is rounded to. -/
theorem atLeast_iff (hn : n < 2 ^ 53) (hx : IsNearest (a : ℚ) x) :
    RuleContext.atLeast n x = true ↔ a ≤ n := by
  obtain ⟨z, hz, hvalue⟩ := exists_nearest_natCast hn.le
  rw [atLeast_eq_le hvalue]
  refine ⟨fun hle ↦ ?_, fun hle ↦ hx.le_of_le hz (by exact_mod_cast hle)⟩
  -- A greater bound is not rounded below the double that comes after the count.
  by_contra hlt
  obtain ⟨next, hnext, hsucc⟩ := exists_nearest_natCast (n := n + 1) hn
  have hover := hnext.le_of_le hx (by exact_mod_cast not_le.mp hlt)
  have hsucc_le : ((n + 1 : Nat) : ℚ) ≤ n := le_of_le_of_le hsucc hvalue hover hle
  exact absurd (by exact_mod_cast hsucc_le : n + 1 ≤ n) (Nat.not_succ_le_self n)

/-- A count is at most a bound if it is at most what the bound is rounded to. -/
theorem atMost_iff (hn : n < 2 ^ 53) (hy : IsNearest (b : ℚ) y) :
    RuleContext.atMost n y = true ↔ n ≤ b := by
  obtain ⟨z, hz, hvalue⟩ := exists_nearest_natCast hn.le
  rw [atMost_eq_le hvalue]
  refine ⟨fun hle ↦ ?_, fun hle ↦ hz.le_of_le hy (by exact_mod_cast hle)⟩
  -- A smaller bound is a double itself.
  by_contra hlt
  obtain ⟨bound, hbound, hsame⟩ := exists_nearest_natCast (n := b) (by omega)
  have hunder := hy.le_of_le hbound le_rfl
  have hle : (n : ℚ) ≤ b := le_of_le_of_le hvalue hsame hle hunder
  exact hlt (by exact_mod_cast hle)

end Double

namespace RuleContext

variable {ctx : RuleContext} {w : Written} {p q : Value} {a b n : Nat} {x y : Double}

section

variable [Platform]

/-- The message on decimal places can be made, with numbers for parameters and whatever places it is
given. -/
def CanTellPlaces (ctx : RuleContext) : Prop :=
  ∀ params : List Value, (∀ p ∈ params, p.IsNumeric) → ∀ (places : String) (actual : Nat),
    Succeeds (({ ctx with params := params } : RuleContext).translate "validator.decimalPlaces"
      [(.text "places", .text places), (.text "actualPlaces", .int actual)])

/-- **The message on decimal places can be made** from the bundled catalogs, and without a translator. -/
theorem canTellPlaces
    (ht : ctx.translator = none ∨ ∃ cur fb, ctx.translator = some (.bundled cur fb)) :
    ctx.CanTellPlaces := by
  intro params _ places actual
  rcases ht with ht | ⟨cur, fb, ht⟩
  · rw [translate, ht]
    exact succeeds_ok _
  · have ht : ({ ctx with params := params } : RuleContext).translator = some (.bundled cur fb) := ht
    exact (failsOnly_translate_bundled ht "decimalPlaces" rfl (fun h ↦ absurd h (by decide))
      ((Showable.nil.skip (by decide) _).cons _ (failsOnly_ok _))).succeeds

theorem numeralText_of_writes (h : ctx.value.Writes w) :
    ctx.numeralText = .ok w.chars := by
  rw [numeralText.eq_def]
  split
  · rename_i s hs
    rw [hs] at h
    exact congrArg Except.ok h
  · rename_i hnot
    rw [Value.Writes.eq_def] at h
    split at h
    · rename_i s hs
      exact absurd hs (hnot s)
    · exact bind_eq_ok_iff.mpr ⟨_, h, congrArg Except.ok String.toList_ofList⟩

/-- What the rule asks, with one number or two for bounds. -/
theorem decimalPlaces_passes_iff (ht : ctx.CanTellPlaces) (hv : ctx.value.IsNumeric)
    (hw : ctx.value.Writes w) {bounds : List Value} {numbers : List (Option Double)}
    (hlength : bounds.length ≤ 2) (hnumbers : bounds.mapM Value.toNumber = .ok numbers)
    (hlow : numbers.head?.join = some x) (hhigh : numbers.getLast?.join = some y) :
    StandardRule.decimalPlaces.judge { ctx with params := bounds } = .ok .pass ↔
      liesBetween w.charsBehindPoint x y = true := by
  obtain ⟨z, hz⟩ := hv
  have hbounds : bounds.take 2 = bounds := List.take_of_length_le hlength
  have hall := exists_number_of_mem_bounds hlength (mapM_eq_ok_iff.mp hnumbers) hlow hhigh
  have hne : bounds.isEmpty = false := by
    cases bounds with
    | nil => cases Except.ok.inj hnumbers; cases hlow
    | cons => rfl
  have htext : ({ ctx with params := bounds } : RuleContext).numeralText = .ok w.chars :=
    numeralText_of_writes hw
  obtain ⟨shown, hshown⟩ : Succeeds (bounds.mapM Value.display) := by
    refine FailsOnly.succeeds (failsOnly_mapM fun p hp ↦ ?_)
    obtain ⟨y, hy⟩ := hall p hp
    exact (Value.succeeds_display_of_toNumber hy).failsOnly
  obtain ⟨message, hmessage⟩ := ht bounds hall (joinWith "-" shown) w.charsBehindPoint
  have hverdict : ({ ctx with params := bounds } : RuleContext).decimalPlaces =
      .ok (.ofBool (liesBetween w.charsBehindPoint x y) message) := by
    rw [decimalPlaces]
    simp only [hbounds, hne, hz, htext, hnumbers, hshown, bind, Except.bind, Bool.false_eq_true, if_false,
      Option.isNone_some, hlow, hhigh, w.decimalPlaces_chars, hmessage]
    rfl
  rw [StandardRule.judge, hverdict]
  exact Iff.trans ⟨Except.ok.inj, congrArg Except.ok⟩ Verdict.ofBool_eq_pass_iff

/-! ## How values are counted -/

/-- Whether the rule takes the value for one with `n` decimal places: with one natural number it passes if
that is `n`, and with two if `n` lies between them, however they are written. -/
structure Counts (ctx : RuleContext) (n : Nat) : Prop where
  exact : ∀ {p : Value} {a : Nat}, p.Denotes a → p.InRange →
    (StandardRule.decimalPlaces.judge { ctx with params := [p] } = .ok .pass ↔ a = n)
  range : ∀ {p q : Value} {a b : Nat}, p.Denotes a → q.Denotes b → p.InRange → q.InRange →
    (StandardRule.decimalPlaces.judge { ctx with params := [p, q] } = .ok .pass ↔ a ≤ n ∧ n ≤ b)

/-- Whether integers beyond all doubles are refused as bounds. -/
def RefusesTooLarge (ctx : RuleContext) : Prop :=
  ∀ bounds : List Value, bounds.length ≤ 2 → (∀ p ∈ bounds, ∃ q, p.Denotes q) →
    (∃ p ∈ bounds, ¬ p.InRange) →
      StandardRule.decimalPlaces.judge { ctx with params := bounds } = .error .integerTooLarge

end

theorem liesBetween_iff (hn : n < 2 ^ 53) (hx : IsNearest (a : ℚ) x) (hy : IsNearest (b : ℚ) y) :
    liesBetween n x y = true ↔ a ≤ n ∧ n ≤ b := by
  rw [liesBetween_eq, Bool.and_eq_true, atLeast_iff hn hx, atMost_iff hn hy]

/-- **The rule counts the characters behind the point.** -/
theorem counts_charsBehindPoint [Platform] (ht : ctx.CanTellPlaces) (hv : ctx.value.IsNumeric)
    (hw : ctx.value.Writes w) (hn : w.charsBehindPoint < 2 ^ 53) : ctx.Counts w.charsBehindPoint := by
  constructor
  · intro p a hp hrange
    obtain ⟨x, hx, hnear⟩ := hp.exists_nearest hrange
    rw [decimalPlaces_passes_iff ht hv hw (by simp) (mapM_eq_ok_iff.mpr (.cons hx .nil)) rfl rfl,
      liesBetween_iff hn hnear hnear]
    exact Nat.le_antisymm_iff.symm
  · intro p q a b hp hq hrange hrange'
    obtain ⟨x, hx, hnear⟩ := hp.exists_nearest hrange
    obtain ⟨y, hy, hnear'⟩ := hq.exists_nearest hrange'
    rw [decimalPlaces_passes_iff ht hv hw (by simp) (mapM_eq_ok_iff.mpr (.cons hx (.cons hy .nil))) rfl
      rfl, liesBetween_iff hn hnear hnear']

/-- A value is taken for one with one number of decimal places only. -/
theorem Counts.unique [Platform] {m : Nat} (hn : ctx.Counts n) (hm : ctx.Counts m)
    (hsmall : n < 2 ^ 53) : n = m := by
  have hdenotes : (Value.int n).Denotes (n : ℚ) := by exact_mod_cast Value.Denotes.int n
  obtain ⟨x, hx, -⟩ := Value.toNumber_natCast hsmall
  have hrange : (Value.int n).InRange := Value.succeeds_toNumber_int_iff.mp ⟨_, hx⟩
  exact (hm.exact hdenotes hrange).mp ((hn.exact hdenotes hrange).mpr rfl)

theorem refusesTooLarge [Platform] (hv : ctx.value.IsNumeric) (hw : ctx.value.Writes w) :
    ctx.RefusesTooLarge := by
  intro bounds hlength hdenotes hlarge
  obtain ⟨x, hx⟩ := hv
  have hbounds : bounds.take 2 = bounds := List.take_of_length_le hlength
  have hne : bounds.isEmpty = false := by
    obtain ⟨p, hp, -⟩ := hlarge
    exact List.isEmpty_eq_false_iff.mpr (List.ne_nil_of_mem hp)
  have htext : ({ ctx with params := bounds } : RuleContext).numeralText = .ok w.chars :=
    numeralText_of_writes hw
  have hnumbers := Value.mapM_toNumber_of_not_inRange hdenotes hlarge
  rw [StandardRule.judge, decimalPlaces]
  simp only [hbounds, hne, hx, htext, hnumbers, bind, Except.bind, Bool.false_eq_true, if_false,
    Option.isNone_some]

/-- **The rule on decimal places** counts the characters behind the point of the numeral that the value is
written as, and this is the number of decimal places exactly for numerals of one form. -/
theorem countsPlaces [Platform] (hv : ctx.value.HasNumeral) (ht : ctx.CanTellPlaces) :
    (∃ w, ctx.value.Writes w) ∧ ctx.RefusesTooLarge ∧
      ∀ w, ctx.value.Writes w → w.charsBehindPoint < 2 ^ 53 →
        ctx.Counts w.charsBehindPoint ∧ (ctx.Counts w.decimalPlaces ↔ w.CountedRight) := by
  obtain ⟨w, hw⟩ := hv.exists_writes
  refine ⟨⟨w, hw⟩, refusesTooLarge hv.isNumeric hw, fun w hw hn ↦ ?_⟩
  have hcounts := counts_charsBehindPoint ht hv.isNumeric hw hn
  refine ⟨hcounts, ?_⟩
  rw [← w.charsBehindPoint_eq_iff]
  exact ⟨fun h ↦ hcounts.unique h hn, fun h ↦ h ▸ hcounts⟩

namespace Tiny

open scoped Platform

/-- The double nearest to `0.00000015`. -/
def double : Double := .finite false 5666839779443574 (-75)

/-- The numeral `1.5e-07`. -/
def numeral : Written where
  sign := .unwritten
  whole := .ofNat 1
  fractionPart := some (.ofNat 5)
  exponentPart := some (.signed false (-7) ((Digits.zeros 1).append (.ofNat 7)) (List.cons_ne_nil _ _))
  ne_nil := fun h ↦ absurd h (Digits.ofNat_ne_nil 1)

/-- The double, to be judged with the bundled messages. -/
def tiny : RuleContext := { Seven.seven with value := .float double }

theorem hasNumeral_tiny : tiny.value.HasNumeral := .float ⟨by decide, by decide, by decide⟩

theorem writes_tiny : tiny.value.Writes numeral := by
  have htext : double.text = String.ofList numeral.chars := by decide +kernel
  exact congrArg Except.ok htext

theorem canTellPlaces_tiny : tiny.CanTellPlaces := canTellPlaces (.inr ⟨"en", "en", rfl⟩)

/-- Five characters stand behind the point, but the number has eight decimal places. -/
theorem countsPlaces_tiny : tiny.value.HasNumeral ∧ tiny.CanTellPlaces ∧ tiny.RefusesTooLarge ∧
    tiny.Counts 5 ∧ ¬ tiny.Counts 8 := by
  obtain ⟨-, hlarge, hall⟩ := countsPlaces hasNumeral_tiny canTellPlaces_tiny
  obtain ⟨hcounts, hright⟩ := hall numeral writes_tiny (by decide)
  have hwrong : ¬ numeral.CountedRight := by decide
  exact ⟨hasNumeral_tiny, canTellPlaces_tiny, hlarge, hcounts, hright.not.mpr hwrong⟩

/-- The rule refuses the double with the number of its decimal places. -/
theorem not_forall_counts_decimalPlaces :
    ¬ ∀ (ctx : RuleContext) (w : Written), ctx.value.HasNumeral → ctx.CanTellPlaces →
      ctx.value.Writes w → ctx.Counts w.decimalPlaces := by
  intro hall
  have height : tiny.Counts 8 := hall tiny numeral hasNumeral_tiny canTellPlaces_tiny writes_tiny
  have hfive : tiny.Counts 5 :=
    counts_charsBehindPoint canTellPlaces_tiny hasNumeral_tiny.isNumeric writes_tiny (by decide)
  exact absurd (hfive.unique height (by decide)) (by decide)

end Tiny

end RuleContext
end Rulebook
