import Rulebook.Proofs.Fault
import Rulebook.Proofs.Forms

/-!
# Empty values and the rules for optional fields

What a required field must not be is empty: null, a blank text, or a container without items.  Four rules
are meant for optional fields as well and let empty values pass.  The rules on the length of a text do,
whatever their parameters write (`RuleContext.boundLength_of_isEmpty`).  The rules on e-mail and web
addresses go by another notion, that of values that count as false, and a text of blanks counts as true.
Such a text is refused, since in every address there is a character that is not blank
(`Form.not_matchesStart_email`, `Form.not_matchesStart_url`).  So the four rules let an empty value pass
exactly if it is no text of one blank or more (`RuleContext.letsPass`).
-/

set_option autoImplicit false

namespace Rulebook

namespace Pattern

variable {p : Pattern} {f : Char → Prop} {s : String}

/-! ## How a match begins -/

/-- Wherever a pattern matches, there stands a character that satisfies a condition. -/
def BeginsWith (p : Pattern) (f : Char → Prop) : Prop :=
  ∀ k s, (run p k s).isSome = true → ∃ c r, s.rest = c :: r ∧ f c

theorem beginsWith_char {set : CharSet} (hset : ∀ c, set.holds c = true → f c) :
    (char set).BeginsWith f := by
  intro k s h
  rw [run] at h
  split at h
  · rename_i c r hrest
    split at h
    · rename_i hc
      exact ⟨c, r, hrest, hset c hc⟩
    · cases h
  · cases h

/-- A sequence begins as its first part does. -/
theorem BeginsWith.seq (hp : p.BeginsWith f) (q : Pattern) : (seq p q).BeginsWith f :=
  fun k s ↦ hp (run q k) s

theorem BeginsWith.exists_head (hp : p.BeginsWith f)
    (h : (Pattern.seq (anchor .textStart) p).matchesStart s = true) :
    ∃ c r, s.toList = c :: r ∧ f c :=
  hp some (.start s.toList) h

end Pattern

namespace Form

open Pattern

variable {s : String}

/-! ## Addresses are not blank -/

/-- In an e-mail address, and in a line of one, there is a sign between mailbox and domain. -/
theorem not_matchesStart_email (hs : Text.isBlankText s = true) : email.matchesStart s = false := by
  refine Bool.eq_false_iff.mpr fun h ↦ ?_
  have hsign : '@' ∉ s.toList := fun h ↦ absurd (List.all_eq_true.mp hs _ h) (by decide)
  rcases email_matches_iff.mp h with hemail | ⟨cs, hemail, hline⟩
  · obtain ⟨mailbox, domain, last, hcs, -⟩ := hemail
    exact hsign (by rw [hcs]; simp)
  · obtain ⟨mailbox, domain, last, rfl, -⟩ := hemail
    exact hsign (by rw [hline]; simp)

/-- A web address begins with a letter. -/
theorem not_matchesStart_url (hs : Text.isBlankText s = true) : url.matchesStart s = false := by
  have hletter : ∀ c, (CharSet.single .anyCase 'h'.toNat).holds c = true → c = 'h' ∨ c = 'H' := by
    intro c hc
    rw [CharSet.single, holds_oneOf] at hc
    simp only [List.mem_singleton, exists_eq_left] at hc
    rw [CharItem.holds_range_anyCase_of_letters (by decide) (by decide)] at hc
    rw [← Char.toNat_inj, ← Char.toNat_inj]
    simp only [Char.reduceToNat] at hc ⊢
    omega
  refine Bool.eq_false_iff.mpr fun h ↦ ?_
  obtain ⟨c, r, hcr, hc⟩ := (((beginsWith_char hletter).seq _).seq _).exists_head h
  have hblank : Text.isBlank c = true := List.all_eq_true.mp hs c (hcr ▸ List.mem_cons_self)
  rcases hc with rfl | rfl <;> exact absurd hblank (by decide)

end Form

namespace Value

variable {v : Value}

/-- A text of one blank or more. -/
def IsSpaces (v : Value) : Prop := ∃ s, v = .text s ∧ s ≠ "" ∧ Text.isBlankText s = true

/-- The number that a text writes can always be looked for. -/
theorem succeeds_toNumber_text (s : String) : Succeeds (Value.text s).toNumber :=
  succeeds_ok _

end Value

namespace RuleContext

open Form

variable {ctx : RuleContext}

/-! ## What the rules say about empty values -/

theorem required_passes_iff [Platform] : StandardRule.required.judge ctx = .ok .pass ↔
    ctx.value.isEmpty = false := by
  rw [StandardRule.judge, required, require_eq_pass_iff, Bool.not_eq_true']

theorem succeeds_bound (hparams : ∀ p ∈ ctx.params, ∃ s, p = .text s) : Succeeds ctx.bound := by
  refine FailsOnly.succeeds (failsOnly_bound fun p hp ↦ ?_)
  obtain ⟨s, rfl⟩ := hparams p (List.mem_of_mem_take hp)
  exact (Value.succeeds_toNumber_text s).failsOnly

/-- **A bound on the length** lets empty values pass. -/
theorem boundLength_of_isEmpty [Platform] (hempty : ctx.value.isEmpty = true)
    (hparams : ∀ p ∈ ctx.params, ∃ s, p = .text s) (holds : Nat → Double → Bool) (key param : String) :
    ctx.boundLength holds key param = .ok .pass := by
  obtain ⟨limit, hlimit⟩ := succeeds_bound hparams
  rw [boundLength, hlimit, hempty]
  rfl

/-- **An optional form** that no blank text is of lets empty values pass, but for texts of blanks. -/
theorem optionalForm_passes_iff [Platform] {p : Pattern} (key : String)
    (hempty : ctx.value.isEmpty = true)
    (hblank : ∀ s, Text.isBlankText s = true → p.matchesStart s = false) :
    ctx.optionalForm p key = .ok .pass ↔ ¬ ctx.value.IsSpaces := by
  rw [optionalForm]
  split
  · rename_i s hs
    rw [hs] at hempty
    rw [require_eq_pass_iff, hblank s hempty, Bool.or_false, String.isEmpty_iff]
    constructor
    · rintro rfl ⟨t, ht, hne, -⟩
      exact hne (Value.text.inj (hs.symm.trans ht)).symm
    · exact fun h ↦ by_contra fun hne ↦ h ⟨s, hs, hne, hempty⟩
  · rename_i hnot
    refine iff_of_true rfl ?_
    rintro ⟨s, hs, -⟩
    exact hnot s hs

/-- How the rules for optional fields judge an empty value. -/
structure LetsPass [Platform] (ctx : RuleContext) : Prop where
  minLength : StandardRule.minLength.judge ctx = .ok .pass
  maxLength : StandardRule.maxLength.judge ctx = .ok .pass
  email : StandardRule.email.judge ctx = .ok .pass ↔ ¬ ctx.value.IsSpaces
  url : StandardRule.url.judge ctx = .ok .pass ↔ ¬ ctx.value.IsSpaces

/-- **The rules for optional fields** let every value pass that a required field must not have, with texts
for parameters; but those on addresses refuse a text of one blank or more. -/
theorem letsPass [Platform] (hrequired : StandardRule.required.judge ctx ≠ .ok .pass)
    (hparams : ∀ p ∈ ctx.params, ∃ s, p = .text s) : ctx.LetsPass := by
  have hempty : ctx.value.isEmpty = true := by
    rwa [Ne, required_passes_iff, Bool.not_eq_false] at hrequired
  exact ⟨boundLength_of_isEmpty hempty hparams _ _ _, boundLength_of_isEmpty hempty hparams _ _ _,
    optionalForm_passes_iff _ hempty fun _ ↦ not_matchesStart_email,
    optionalForm_passes_iff _ hempty fun _ ↦ not_matchesStart_url⟩

namespace Spaces

open scoped Platform

/-- An ideographic space and a line feed, with a parameter that writes a number and one that does not. -/
def blank : RuleContext := { Lines.unnamed with value := .text "\u3000\n", params := [.text "3", .text "x"] }

theorem letsPass_blank : StandardRule.required.judge blank ≠ .ok .pass ∧
    (∀ p ∈ blank.params, ∃ s, p = .text s) ∧ blank.value.IsSpaces ∧ blank.LetsPass := by
  have hrequired : StandardRule.required.judge blank ≠ .ok .pass := by
    rw [Ne, required_passes_iff]
    decide
  have hparams : ∀ p ∈ blank.params, ∃ s, p = .text s := by
    rintro p hp
    rcases List.mem_cons.mp hp with rfl | hp
    · exact ⟨_, rfl⟩
    · exact ⟨_, List.mem_singleton.mp hp⟩
  exact ⟨hrequired, hparams, ⟨_, rfl, by decide, by decide⟩, letsPass hrequired hparams⟩

/-- One space, without parameters. -/
def space : RuleContext := { Lines.unnamed with value := .text " " }

/-- A space is as empty as nothing where a value is required, but it is no e-mail address. -/
theorem not_forall_letsPass :
    ¬ ∀ ctx : RuleContext, StandardRule.required.judge ctx ≠ .ok .pass →
      (∀ p ∈ ctx.params, ∃ s, p = .text s) →
      ∀ r ∈ [StandardRule.minLength, .maxLength, .email, .url], r.judge ctx = .ok .pass := by
  intro hall
  have hrequired : StandardRule.required.judge space ≠ .ok .pass := by
    rw [Ne, required_passes_iff]
    decide
  have hemail : space.optionalForm Form.email "validator.email" = .ok .pass :=
    hall space hrequired (List.forall_mem_nil _) .email (by decide)
  rw [optionalForm_passes_iff _ (by decide) fun _ ↦ not_matchesStart_email] at hemail
  exact hemail ⟨" ", rfl, by decide, by decide⟩

end Spaces

end RuleContext
end Rulebook
