import Rulebook.Proofs.Denotation

/-!
# The rules on the length of a text

A length can be bounded from both sides by one rule, or from either side by a rule of its own; for a text
that is not blank that is the same (`RuleContext.LengthsAgree.range`).  With one number, the rule for
both sides asks for exactly that length.  But it then measures the trimmed text, and only that
(`RuleContext.LengthsAgree.trimmed`): for a text with blanks at an end an exact length is not the length
from a number to the same number (`RuleContext.exactLength_iff`).

A rule that has a number for a bound looks its message up before it measures, so that all of this is said
of contexts in which these messages can be made (`RuleContext.CanTellLengths`), as they always can from the
bundled catalogs.  A number that is beyond all doubles makes every one of the rules fail in the same way.
-/

set_option autoImplicit false

namespace Rulebook

open Double

/-! ## Numbers that bound a length -/

theorem Extended.le_and_le_iff {p q : Extended} : (p.le q && q.le p) = true ↔ p = q := by
  by_cases h : p = q
  · simp [h, le, lt_self]
  · rcases lt_or_gt h with ⟨hlt, -⟩ | ⟨-, hgt⟩ <;> simp [le, *]

theorem liesBetween_eq (n : Nat) (x y : Double) :
    liesBetween n x y = (RuleContext.atLeast n x && RuleContext.atMost n y) := by
  rw [liesBetween, RuleContext.atLeast, RuleContext.atMost]
  cases x.toExtended? <;> cases y.toExtended? <;> simp

theorem liesBetween_self_iff {n : Nat} {x : Double} :
    liesBetween n x x = true ↔ x.toExtended? = some (.value (n : Rat)) := by
  rw [liesBetween]
  cases x.toExtended? with
  | none => simp
  | some q => rw [Option.some.injEq]; exact Extended.le_and_le_iff

/-- Natural numbers are doubles up to the least one that has more bits than a significand. -/
theorem Double.isDouble_natCast {n : Nat} (h : n ≤ 2 ^ 53) : IsDouble (n : ℚ) := by
  rcases h.lt_or_eq with hlt | rfl
  · exact isDouble_iff.mpr ⟨n, 0, by simpa using hlt, by decide, by decide, by simp⟩
  · exact isDouble_iff.mpr ⟨2 ^ 52, 1, by decide, by decide, by decide, by norm_num⟩

/-- A bound of zero is the same with either sign. -/
theorem Double.toExtended?_of_isZero {x : Double} (h : x.isZero = true) :
    x.toExtended? = Double.zero.toExtended? := by
  cases x with
  | finite negative m e =>
    obtain rfl : m = 0 := by simpa [isZero] using h
    cases negative <;> simp [zero, toExtended?_finite]
  | _ => cases h

namespace Value

variable {p : Value} {q : ℚ}

/-- What denotes a number is taken as one, or is an integer beyond all doubles. -/
theorem Denotes.toNumber_ne (h : p.Denotes q) : p.toNumber ≠ .ok none := by
  by_cases hp : p.InRange
  · obtain ⟨x, hx, -⟩ := h.exists_nearest hp
    rw [hx]
    nofun
  · cases h with
    | int n =>
      intro hnone
      exact hp (succeeds_toNumber_int_iff.mp ⟨none, hnone⟩)
    | decimal | text => exact absurd trivial hp

/-- An integer with few digits is a double. -/
theorem toNumber_natCast {n : Nat} (h : n < 2 ^ 53) :
    ∃ x, (Value.int n).toNumber = .ok (some x) ∧ x.toExtended? = some (.value (n : Rat)) := by
  have hdouble : IsDouble (n : ℚ) := isDouble_natCast h.le
  obtain ⟨x, hx, hnear⟩ := exists_nearest_int (n := n) (by simpa using hdouble.abs_lt_overflowBound)
  exact ⟨x, hx, hnear.toExtended?_of_isDouble (by simpa using hdouble)⟩

end Value

namespace Text

variable {s : String}

/-- A text that keeps its length when it is trimmed is not changed. -/
theorem trim_eq_self_iff : trim s = s ↔ (trimChars s.toList).length = s.toList.length := by
  have hchars : trim s = s ↔ trimChars s.toList = s.toList := by
    rw [trim, ← String.toList_inj, String.toList_ofList]
  have hsublist : (trimChars s.toList).Sublist s.toList := by
    have hback := (List.dropWhile_sublist (l := (s.toList.dropWhile isBlank).reverse) isBlank).reverse
    rw [List.reverse_reverse] at hback
    exact hback.trans (List.dropWhile_sublist isBlank)
  rw [hchars]
  exact ⟨congrArg List.length, hsublist.eq_of_length⟩

end Text

namespace RuleContext

variable {ctx : RuleContext} {s : String} {p q : Value} {a b : ℚ}

/-! ## When the rules pass -/

section

variable [Platform]

/-- The messages of the rules on the length of a text can be made, whatever text is judged, with numbers
for parameters and whatever texts are put in. -/
def CanTellLengths (ctx : RuleContext) : Prop :=
  ∀ (s : String) (params : List Value), (∀ p ∈ params, p.IsNumeric) →
    ∀ word ∈ ["length", "lengthRange", "minLength", "maxLength"],
    ∀ shown : List Entry, (∀ e ∈ shown, ∃ name text, e = (.text name, .text text)) →
      Succeeds (({ ctx with value := .text s, params := params } : RuleContext).translate
        ("validator." ++ word) shown)

/-- **The messages of the rules on lengths can be made** from the bundled catalogs, and without a
translator. -/
theorem canTellLengths
    (ht : ctx.translator = none ∨ ∃ cur fb, ctx.translator = some (.bundled cur fb)) :
    ctx.CanTellLengths := by
  intro s params _ word hword shown hshown
  rcases ht with ht | ⟨cur, fb, ht⟩
  · rw [translate, ht]
    exact succeeds_ok _
  · obtain ⟨names, hnames, hsilent⟩ : ∃ names,
        Catalog.placeholders.lookup word = some names ∧ "ruleParams" ∉ names := by
      have hall : ∀ w ∈ ["length", "lengthRange", "minLength", "maxLength"], ∃ names,
          Catalog.placeholders.lookup w = some names ∧ "ruleParams" ∉ names := by
        simp only [List.forall_mem_cons]
        exact ⟨⟨_, rfl, by decide⟩, ⟨_, rfl, by decide⟩, ⟨_, rfl, by decide⟩, ⟨_, rfl, by decide⟩,
          List.forall_mem_nil _⟩
      exact hall word hword
    have ht : ({ ctx with value := .text s, params := params } : RuleContext).translator =
      some (.bundled cur fb) := ht
    refine FailsOnly.succeeds (failsOnly_translate_bundled ht word hnames
      (fun hname ↦ absurd hname hsilent) fun e he _ _ _ ↦ ?_)
    obtain ⟨name, text, rfl⟩ := hshown e he
    exact failsOnly_ok text

theorem length_passes_range (ht : ctx.CanTellLengths) (hp : p.toNumber ≠ .ok none)
    (hq : q.toNumber ≠ .ok none) : ctx.PassesOn .length s [p, q] ↔
      ∃ x y, p.toNumber = .ok (some x) ∧ q.toNumber = .ok (some y) ∧
        liesBetween s.toList.length x y = true := by
  rw [PassesOn, StandardRule.judge, length]
  simp only [bind_eq_ok_iff]
  constructor
  · rintro ⟨x, hx, y, hy, h⟩
    have hx : p.toNumber = .ok x := hx
    have hy : q.toNumber = .ok y := hy
    cases x with
    | none => exact absurd hx hp
    | some x =>
      cases y with
      | none => exact absurd hy hq
      | some y =>
        obtain ⟨message, -, h⟩ := bind_eq_ok h
        exact ⟨x, y, hx, hy, Verdict.ofBool_eq_pass_iff.mp (Except.ok.inj h)⟩
  · rintro ⟨x, y, hx, hy, h⟩
    refine ⟨some x, hx, some y, hy, ?_⟩
    obtain ⟨message, hmessage⟩ := ht s [p, q] (by simpa using ⟨⟨x, hx⟩, ⟨y, hy⟩⟩) "lengthRange"
      (by decide) [(.text "minLength", .text (countText x)), (.text "maxLength", .text (countText y))]
      (by simp)
    exact bind_eq_ok_iff.mpr
      ⟨message, hmessage, congrArg Except.ok (Verdict.ofBool_eq_pass_iff.mpr h)⟩

theorem length_passes_exact (ht : ctx.CanTellLengths) (hp : p.toNumber ≠ .ok none) :
    ctx.PassesOn .length s [p] ↔ ∃ x, p.toNumber = .ok (some x) ∧
      x.toExtended? = some (.value ((Text.trimChars s.toList).length : Rat)) := by
  rw [PassesOn, StandardRule.judge, length]
  simp only [bind_eq_ok_iff]
  constructor
  · rintro ⟨x, hx, y, hy, h⟩
    have hx : p.toNumber = .ok x := hx
    obtain rfl : none = y := Except.ok.inj hy
    cases x with
    | none => exact absurd hx hp
    | some x =>
      obtain ⟨message, -, h⟩ := bind_eq_ok h
      exact ⟨x, hx, eq_of_beq (Verdict.ofBool_eq_pass_iff.mp (Except.ok.inj h))⟩
  · rintro ⟨x, hx, h⟩
    refine ⟨some x, hx, none, rfl, ?_⟩
    obtain ⟨message, hmessage⟩ := ht s [p] (by simpa using ⟨x, hx⟩) "length" (by decide)
      [(.text "length", .text (countText x))] (by simp)
    exact bind_eq_ok_iff.mpr
      ⟨message, hmessage, congrArg Except.ok (Verdict.ofBool_eq_pass_iff.mpr (beq_iff_eq.mpr h))⟩

/-- A bound on one side: the text is measured as it is, unless it is blank. -/
theorem boundLength_passes (ht : ctx.CanTellLengths) (hs : Text.isBlankText s = false)
    (hp : p.toNumber ≠ .ok none) (holds : Nat → Double → Bool)
    (hzero : ∀ n x, x.isZero = true → holds n .zero = holds n x) (word param : String)
    (hword : word ∈ ["length", "lengthRange", "minLength", "maxLength"]) :
    ({ ctx with value := .text s, params := [p] } : RuleContext).boundLength holds
        ("validator." ++ word) param = .ok .pass ↔
      ∃ x, p.toNumber = .ok (some x) ∧ holds s.toList.length x = true := by
  have hfirst : ({ ctx with value := .text s, params := [p] } : RuleContext).firstNumber =
    p.toNumber := rfl
  have hempty : ({ ctx with value := .text s, params := [p] } : RuleContext).value.isEmpty = false := hs
  rw [boundLength, bound, hfirst, hempty]
  cases hx : p.toNumber with
  | error f => exact iff_of_false nofun nofun
  | ok x =>
    cases x with
    | none => exact absurd hx hp
    | some x =>
      have hlimit : holds s.toList.length (if x.isZero then .zero else x) =
          holds s.toList.length x := by
        split
        · rename_i h; exact hzero _ x h
        · rfl
      have hiff : ∀ limit, limit = (if x.isZero then Double.zero else x) →
          ((({ ctx with value := .text s, params := [p] } : RuleContext).translate
            ("validator." ++ word) [(.text param, .text (countText limit))] >>= fun message ↦
              (pure (Verdict.ofBool (holds s.toList.length limit) message) : Judgement)) = .ok .pass ↔
            holds s.toList.length x = true) := by
        rintro limit rfl
        obtain ⟨message, hmessage⟩ := ht s [p] (by simpa using ⟨x, hx⟩) word hword
          [(.text param, .text (countText _))] (by simp)
        rw [hmessage, ← hlimit]
        exact Iff.trans ⟨Except.ok.inj, congrArg Except.ok⟩ Verdict.ofBool_eq_pass_iff
      refine (hiff _ rfl).trans ⟨fun h ↦ ⟨x, rfl, h⟩, ?_⟩
      rintro ⟨y, hy, h⟩
      obtain rfl := Option.some.inj (Except.ok.inj hy)
      exact h

theorem minLength_passes (ht : ctx.CanTellLengths) (hs : Text.isBlankText s = false)
    (hp : p.toNumber ≠ .ok none) : ctx.PassesOn .minLength s [p] ↔
      ∃ x, p.toNumber = .ok (some x) ∧ atLeast s.toList.length x = true :=
  boundLength_passes ht hs hp atLeast
    (fun n x hx ↦ by rw [atLeast, atLeast, Double.toExtended?_of_isZero hx]) "minLength" "minLength"
    (by decide)

theorem maxLength_passes (ht : ctx.CanTellLengths) (hs : Text.isBlankText s = false)
    (hp : p.toNumber ≠ .ok none) : ctx.PassesOn .maxLength s [p] ↔
      ∃ x, p.toNumber = .ok (some x) ∧ atMost s.toList.length x = true :=
  boundLength_passes ht hs hp atMost
    (fun n x hx ↦ by rw [atMost, atMost, Double.toExtended?_of_isZero hx]) "maxLength" "maxLength"
    (by decide)

/-! ## How the rules agree -/

/-- What the rules on the length of a text have to do with each other, for two parameters. -/
structure LengthsAgree (ctx : RuleContext) (s : String) (p q : Value) : Prop where
  /-- A length between two bounds is one that is at least the one and at most the other. -/
  range : ctx.PassesOn .length s [p, q] ↔
    ctx.PassesOn .minLength s [p] ∧ ctx.PassesOn .maxLength s [q]
  /-- An exact length is a length of the trimmed text between a bound and the same bound. -/
  trimmed : ctx.PassesOn .length s [p] ↔ ctx.PassesOn .length (Text.trim s) [p, p]

/-- An exact length is a length between a bound and the same bound, for all natural numbers. -/
def ExactLengthsAgree (ctx : RuleContext) (s : String) : Prop :=
  ∀ n : Nat, ctx.PassesOn .length s [.int n] ↔ ctx.PassesOn .length s [.int n, .int n]

theorem length_trimmed (ht : ctx.CanTellLengths) (hp : p.toNumber ≠ .ok none) :
    ctx.PassesOn .length s [p] ↔ ctx.PassesOn .length (Text.trim s) [p, p] := by
  rw [length_passes_exact ht hp, length_passes_range ht hp hp, Text.trim, String.toList_ofList]
  constructor
  · rintro ⟨x, hx, h⟩
    exact ⟨x, x, hx, hx, liesBetween_self_iff.mpr h⟩
  · rintro ⟨x, y, hx, hy, h⟩
    obtain rfl := Option.some.inj (Except.ok.inj (hx.symm.trans hy))
    exact ⟨x, hx, liesBetween_self_iff.mp h⟩

/-- A text passes with its own length for both bounds, and with it as the exact length only if there is
nothing to trim. -/
theorem exactLength_iff (ht : ctx.CanTellLengths) (hs : s.toList.length < 2 ^ 53) :
    ctx.ExactLengthsAgree s ↔ Text.trim s = s := by
  constructor
  · intro h
    obtain ⟨x, hx, hvalue⟩ := Value.toNumber_natCast hs
    have hp : (Value.int s.toList.length).toNumber ≠ .ok none := by rw [hx]; nofun
    have hrange : ctx.PassesOn .length s [.int s.toList.length, .int s.toList.length] :=
      (length_passes_range ht hp hp).mpr ⟨x, x, hx, hx, liesBetween_self_iff.mpr hvalue⟩
    obtain ⟨y, hy, hexact⟩ := (length_passes_exact ht hp).mp ((h _).mpr hrange)
    obtain rfl := Option.some.inj (Except.ok.inj (hx.symm.trans hy))
    rw [hvalue, Option.some.injEq, Extended.value.injEq, Nat.cast_inj] at hexact
    exact Text.trim_eq_self_iff.mpr hexact.symm
  · intro h n
    have htrimmed := length_trimmed (s := s) ht (Value.Denotes.int n).toNumber_ne
    rwa [h] at htrimmed

/-- **The rules on the length of a text agree**, for a text that is not blank and all numbers: two bounds
are one on either side; and an exact length is a length between a bound and the same bound, of the trimmed
text, and so of the text itself exactly when there is nothing to trim. -/
theorem lengthsAgree (ht : ctx.CanTellLengths) (hs : Text.isBlankText s = false)
    (hp : p.Denotes a)
    (hq : q.Denotes b) : ctx.LengthsAgree s p q ∧
      (s.toList.length < 2 ^ 53 → (ctx.ExactLengthsAgree s ↔ Text.trim s = s)) := by
  refine ⟨⟨?_, length_trimmed ht hp.toNumber_ne⟩, exactLength_iff ht⟩
  rw [length_passes_range ht hp.toNumber_ne hq.toNumber_ne, minLength_passes ht hs hp.toNumber_ne,
    maxLength_passes ht hs hq.toNumber_ne]
  simp only [liesBetween_eq, Bool.and_eq_true]
  constructor
  · rintro ⟨x, y, hx, hy, hleast, hmost⟩
    exact ⟨⟨x, hx, hleast⟩, y, hy, hmost⟩
  · rintro ⟨⟨x, hx, hleast⟩, y, hy, hmost⟩
    exact ⟨x, y, hx, hy, hleast, hmost⟩

end

namespace Padded

open scoped Platform

/-- What is judged under the bundled messages. -/
def bundled : RuleContext :=
  ⟨.null, [], some "Length", none, .text "code", .null, .null, .null, some (.bundled "en" "en"), []⟩

theorem canTellLengths_bundled : bundled.CanTellLengths := canTellLengths (.inr ⟨"en", "en", rfl⟩)

/-- A text with a blank at its end, between an integer and a numeral. -/
theorem lengthsAgree_padded :
    bundled.CanTellLengths ∧ Text.isBlankText "ab " = false ∧ (Value.int 3).Denotes (3 : ℤ) ∧
      (Value.text " 1.5e3 ").Denotes Neighbours.numeral.value ∧
      bundled.LengthsAgree "ab " (.int 3) (.text " 1.5e3 ") ∧
      ("ab ".toList.length < 2 ^ 53 → (bundled.ExactLengthsAgree "ab " ↔ Text.trim "ab " = "ab ")) := by
  have hs : Text.isBlankText "ab " = false := by decide
  have hp : (Value.int 3).Denotes (3 : ℤ) := .int 3
  have hq : (Value.text " 1.5e3 ").Denotes Neighbours.numeral.value := .text Neighbours.numeral (by decide)
  exact ⟨canTellLengths_bundled, hs, hp, hq, lengthsAgree canTellLengths_bundled hs hp hq⟩

/-- A text of three characters, the last of them blank, has a length from three to three, but not the
length three. -/
theorem not_forall_lengthsAgree :
    ¬ ∀ (ctx : RuleContext) (s : String) (m n : Nat), ctx.CanTellLengths → Text.isBlankText s = false →
      (ctx.PassesOn .length s [.int m, .int n] ↔
        ctx.PassesOn .minLength s [.int m] ∧ ctx.PassesOn .maxLength s [.int n]) ∧
      (ctx.PassesOn .length s [.int m] ↔ ctx.PassesOn .length s [.int m, .int m]) := by
  intro hall
  have hexact : bundled.ExactLengthsAgree "ab " := fun n ↦
    (hall bundled "ab " n n canTellLengths_bundled (by decide)).2
  have htrim := (exactLength_iff canTellLengths_bundled (by decide)).mp hexact
  exact absurd htrim (by decide)

end Padded

end RuleContext
end Rulebook
