import Rulebook.Proofs.Comparison
import Rulebook.Proofs.LetterCase
import Rulebook.Proofs.Matching

/-!
# What colours, identifiers and e-mail addresses are

Three rules ask for a text of a form, and the forms have grammars that can be said without patterns:
`Form.IsHexColor`, `Form.IsUuid` and `Form.IsEmail`.  The rules accept these texts, and besides each of them
with a line feed behind it, since the anchor at the end of their patterns lets that pass
(`RuleContext.acceptsForms`).  They accept nothing else.  For identifiers that needs an argument, as their
letters are compared without regard to case, in every script: but no character outside ASCII counts as a
hexadecimal digit.
-/

set_option autoImplicit false

namespace Rulebook

namespace Form

open Pattern

variable {c : Char} {cs : List Char} {s : String}

/-! ## The grammars -/

/-- A hexadecimal digit, of either case. -/
def IsHexDigit (c : Char) : Prop :=
  c.isDigit = true ∨ 'a' ≤ c ∧ c ≤ 'f' ∨ 'A' ≤ c ∧ c ≤ 'F'

/-- Some number of hexadecimal digits. -/
def IsHex (n : Nat) (cs : List Char) : Prop := cs.length = n ∧ ∀ c ∈ cs, IsHexDigit c

/-- A colour: a hash and three, four, six or eight hexadecimal digits. -/
def IsHexColor (cs : List Char) : Prop :=
  ∃ digits, cs = '#' :: digits ∧ (IsHex 3 digits ∨ IsHex 4 digits ∨ IsHex 6 digits ∨ IsHex 8 digits)

/-- The digit that says which version an identifier is of. -/
def IsVersion (c : Char) : Prop := '1' ≤ c ∧ c ≤ '5'

/-- The digit that says which variant an identifier is of. -/
def IsVariant (c : Char) : Prop := c ∈ ['8', '9', 'a', 'b', 'A', 'B']

/-- An identifier: groups of eight, four, four, four and twelve hexadecimal digits, the third of which
begins with the version and the fourth with the variant. -/
def IsUuid (cs : List Char) : Prop :=
  ∃ first second version third variant fourth fifth,
    cs = first ++ '-' :: (second ++ '-' :: version ::
        (third ++ '-' :: variant :: (fourth ++ '-' :: fifth))) ∧
      IsHex 8 first ∧ IsHex 4 second ∧ IsVersion version ∧ IsHex 3 third ∧ IsVariant variant ∧
      IsHex 3 fourth ∧ IsHex 12 fifth

/-- A character that may stand before the sign in an e-mail address. -/
def IsMailboxChar (c : Char) : Prop := c.isAlphanum = true ∨ c ∈ ['.', '_', '%', '+', '-']

/-- A character that may stand in a domain. -/
def IsDomainChar (c : Char) : Prop := c.isAlphanum = true ∨ c ∈ ['.', '-']

/-- An e-mail address: a mailbox, a domain and, behind the last point, two letters or more. -/
def IsEmail (cs : List Char) : Prop :=
  ∃ mailbox domain last, cs = mailbox ++ '@' :: (domain ++ '.' :: last) ∧
    (mailbox ≠ [] ∧ ∀ c ∈ mailbox, IsMailboxChar c) ∧ (domain ≠ [] ∧ ∀ c ∈ domain, IsDomainChar c) ∧
    2 ≤ last.length ∧ ∀ c ∈ last, c.isAlpha = true

instance : DecidablePred IsHexDigit := fun _ ↦ inferInstanceAs (Decidable (_ ∨ _))

instance : DecidablePred IsVersion := fun _ ↦ inferInstanceAs (Decidable (_ ∧ _))

instance : DecidablePred IsVariant := fun _ ↦ inferInstanceAs (Decidable (_ ∈ _))

instance : DecidablePred IsMailboxChar := fun _ ↦ inferInstanceAs (Decidable (_ ∨ _))

instance : DecidablePred IsDomainChar := fun _ ↦ inferInstanceAs (Decidable (_ ∨ _))

/-! ## Sets of characters -/

theorem holds_oneOf {rule : CaseRule} {items : List CharItem} :
    (⟨false, rule, items⟩ : CharSet).holds c = true ↔ ∃ i ∈ items, i.holds rule c = true := by
  simp [CharSet.holds]

theorem le_iff_toNat_le {d : Char} : c ≤ d ↔ c.toNat ≤ d.toNat :=
  Char.le_def.trans UInt32.le_iff_toNat_le

theorem holds_between {low high : Char} :
    (between low high).holds .exact c = true ↔ low ≤ c ∧ c ≤ high := by
  rw [between, CharItem.holds_range_exact, le_iff_toNat_le, le_iff_toNat_le]

theorem holds_digits : digits.holds .exact c = true ↔ c.isDigit = true := by
  rw [digits, holds_between, Char.isDigit_iff_toNat, le_iff_toNat_le, le_iff_toNat_le]

theorem holds_single (d : Char) : (CharSet.single .exact d.toNat).holds c = true ↔ c = d := by
  rw [CharSet.single, holds_oneOf]
  simp only [List.mem_singleton, exists_eq_left]
  rw [CharItem.holds_range_exact, ← Nat.le_antisymm_iff, Char.toNat_inj, eq_comm]

theorem holds_letters : (∃ i ∈ letters, i.holds .exact c = true) ↔ c.isAlpha = true := by
  have hupper : c.isUpper = true ↔ 'A' ≤ c ∧ c ≤ 'Z' := decide_eq_true_iff
  have hlower : c.isLower = true ↔ 'a' ≤ c ∧ c ≤ 'z' :=
    Bool.and_eq_true_iff.trans (and_congr decide_eq_true_iff decide_eq_true_iff)
  have halpha : c.isAlpha = true ↔ c.isUpper = true ∨ c.isLower = true := Bool.or_eq_true_iff
  rw [halpha, hupper, hlower, or_comm]
  simp only [letters, List.exists_mem_cons_iff, List.not_mem_nil, false_and, exists_false, or_false,
    holds_between]

theorem holds_each {chars : String} :
    (∃ i ∈ each chars, i.holds .exact c = true) ↔ c ∈ chars.toList := by
  simp [each, CharItem.holds_range_exact, ← Nat.le_antisymm_iff, Char.toNat_inj]

/-- The letters and digits, and some characters more. -/
theorem holds_alphanum_or_each (chars : String) :
    (⟨false, .exact, letters ++ [digits] ++ each chars⟩ : CharSet).holds c = true ↔
      c.isAlphanum = true ∨ c ∈ chars.toList := by
  simp only [holds_oneOf, List.mem_append, or_and_right, exists_or, holds_letters, holds_each,
    List.mem_singleton, exists_eq_left, holds_digits, Char.isAlphanum, Bool.or_eq_true]

theorem holds_hexDigits :
    (⟨false, .exact, [between 'A' 'F', between 'a' 'f', digits]⟩ : CharSet).holds c = true ↔
      IsHexDigit c := by
  simp only [holds_oneOf, List.mem_cons, List.not_mem_nil, or_false, exists_eq_or_imp, exists_eq_left,
    holds_between, holds_digits, IsHexDigit]
  tauto

/-- **Without regard to case** the hexadecimal digits are those of ASCII. -/
theorem holds_hexDigits_anyCase :
    (⟨false, .anyCase, [digits, between 'a' 'f']⟩ : CharSet).holds c = true ↔ IsHexDigit c := by
  simp only [holds_oneOf, List.mem_cons, List.not_mem_nil, or_false, exists_eq_or_imp, exists_eq_left]
  change (CharItem.range 0x30 0x39).holds .anyCase c = true ∨
    (CharItem.range 0x61 0x66).holds .anyCase c = true ↔ _
  rw [CharItem.holds_range_anyCase_of_lt (by decide),
    CharItem.holds_range_anyCase_of_letters (by decide) (by decide), IsHexDigit, Char.isDigit_iff_toNat]
  simp only [le_iff_toNat_le, Char.reduceToNat]
  omega

theorem holds_version :
    (⟨false, .anyCase, [between '1' '5']⟩ : CharSet).holds c = true ↔ IsVersion c := by
  simp only [holds_oneOf, List.mem_singleton, exists_eq_left, between]
  rw [CharItem.holds_range_anyCase_of_lt (by decide), IsVersion, le_iff_toNat_le, le_iff_toNat_le]

theorem holds_dash : (CharSet.single .anyCase '-'.toNat).holds c = true ↔ c = '-' := by
  rw [CharSet.single, holds_oneOf]
  simp only [List.mem_singleton, exists_eq_left]
  rw [CharItem.holds_range_anyCase_of_lt (by decide), ← Nat.le_antisymm_iff, Char.toNat_inj, eq_comm]

theorem holds_variant :
    (⟨false, .anyCase, each "89ab"⟩ : CharSet).holds c = true ↔ IsVariant c := by
  rw [holds_oneOf, each]
  simp only [String.reduceToList, List.map_cons, List.map_nil, List.mem_cons, List.not_mem_nil, or_false,
    exists_eq_or_imp, exists_eq_left, IsVariant, Char.reduceToNat, ← Char.toNat_inj]
  rw [CharItem.holds_range_anyCase_of_lt (by decide), CharItem.holds_range_anyCase_of_lt (by decide),
    CharItem.holds_range_anyCase_of_letters (by decide) (by decide),
    CharItem.holds_range_anyCase_of_letters (by decide) (by decide)]
  omega

/-! ## Lines -/

/-- A text of a form with a line feed behind it. -/
def IsLineOf (P : List Char → Prop) (s : String) : Prop := ∃ cs, P cs ∧ s.toList = cs ++ ['\n']

/-- What passes are the texts of a form and its lines, so that what passes is of the form if, and only if,
it is no line. -/
structure AcceptsLines (passes : Prop) (P : List Char → Prop) (s : String) : Prop where
  passes_iff : passes ↔ P s.toList ∨ IsLineOf P s
  agrees_iff : (passes ↔ P s.toList) ↔ ¬ IsLineOf P s

/-- Texts of a form without line feeds are no lines of it themselves. -/
theorem acceptsLines_of_iff {passes : Prop} {P : List Char → Prop} (hP : ∀ cs, P cs → '\n' ∉ cs)
    (hpasses : passes ↔ P s.toList ∨ IsLineOf P s) : AcceptsLines passes P s := by
  have hnot : IsLineOf P s → ¬ P s.toList := by
    rintro ⟨cs, -, hs⟩ h
    exact hP _ h (by simp [hs])
  refine ⟨hpasses, fun h hline ↦ hnot hline (h.mp (hpasses.mpr (.inr hline))), fun hline ↦ ?_⟩
  rw [hpasses]
  exact or_iff_left hline

theorem IsHex.lineFeed_notMem {n : Nat} (h : IsHex n cs) : '\n' ∉ cs := by
  intro hmem
  have hdigit : IsHexDigit '\n' := h.2 _ hmem
  exact absurd hdigit (by decide)

theorem IsHexColor.lineFeed_notMem (h : IsHexColor cs) : '\n' ∉ cs := by
  obtain ⟨digits, rfl, h⟩ := h
  have hdigits : '\n' ∉ digits := by
    rcases h with h | h | h | h <;> exact h.lineFeed_notMem
  simp [hdigits]

theorem IsUuid.lineFeed_notMem (h : IsUuid cs) : '\n' ∉ cs := by
  obtain ⟨first, second, version, third, variant, fourth, fifth, rfl, h₁, h₂, hversion, h₃, hvariant, h₄,
    h₅⟩ := h
  have hne : '\n' ≠ version ∧ '\n' ≠ variant := by
    constructor
    · rintro rfl
      exact absurd hversion (by decide)
    · rintro rfl
      exact absurd hvariant (by decide)
  simp [h₁.lineFeed_notMem, h₂.lineFeed_notMem, h₃.lineFeed_notMem, h₄.lineFeed_notMem,
    h₅.lineFeed_notMem, hne]

theorem IsEmail.lineFeed_notMem (h : IsEmail cs) : '\n' ∉ cs := by
  obtain ⟨mailbox, domain, last, rfl, ⟨-, hmailbox⟩, ⟨-, hdomain⟩, -, hlast⟩ := h
  have h₁ : '\n' ∉ mailbox := fun h ↦ absurd (hmailbox _ h) (by decide)
  have h₂ : '\n' ∉ domain := fun h ↦ absurd (hdomain _ h) (by decide)
  have h₃ : '\n' ∉ last := fun h ↦ absurd (hlast _ h) (by decide)
  simp [h₁, h₂, h₃]

/-! ## What the patterns match -/

/-- A pattern between anchors matches the texts of a form and its lines. -/
theorem matchesStart_iff {p : Pattern} {L : Language Char} {P : List Char → Prop} (hp : p.Finishes L)
    (hL : ∀ u, u ∈ L ↔ P u) :
    (seq (anchor .textStart) p).matchesStart s = true ↔ P s.toList ∨ IsLineOf P s := by
  rw [hp.matchesStart_iff]
  simp only [hL, and_or_left, exists_or, exists_eq_right', IsLineOf]

theorem mem_hex_iff {n : Nat} : cs ∈ stretch IsHexDigit n (some n) ↔ IsHex n cs := by
  rw [mem_stretch]
  constructor
  · rintro ⟨hleast, hmost, hall⟩
    exact ⟨(hmost n rfl).antisymm hleast, hall⟩
  · rintro ⟨rfl, hall⟩
    exact ⟨le_rfl, by simp, hall⟩

theorem mem_nonempty_iff {f : Char → Prop} : cs ∈ stretch f 1 none ↔ cs ≠ [] ∧ ∀ c ∈ cs, f c := by
  rw [mem_stretch]
  simp [Nat.one_le_iff_ne_zero]

theorem reads_times {set : CharSet} {f : Char → Prop} (hset : ∀ c, set.holds c = true ↔ f c) (n : Nat) :
    (times n (char set)).Reads (stretch f n (some n)) :=
  reads_stretch hset (by simp)

theorem reads_least {set : CharSet} {f : Char → Prop} (hset : ∀ c, set.holds c = true ↔ f c) (n : Nat) :
    (least n (char set)).Reads (stretch f n none) :=
  reads_stretch hset nofun

theorem hexColor_matches_iff :
    hexColor.matchesStart s = true ↔ IsHexColor s.toList ∨ IsLineOf IsHexColor s := by
  have hhash := reads_char fun _ ↦ holds_single '#'
  have hhex := reads_times fun _ ↦ holds_hexDigits
  have hfinishes := hhash.finishes
    (((hhex 3).alt ((hhex 4).alt ((hhex 6).alt (hhex 8)))).finishes finishes_lastLineEnd)
  refine matchesStart_iff hfinishes fun u ↦ ?_
  simp only [mem_oneOfThose_mul, mul_one, Language.mem_add, mem_hex_iff, IsHexColor, exists_eq_left]
  exact exists_congr fun _ ↦ and_comm

theorem uuid_matches_iff :
    uuid.matchesStart s = true ↔ IsUuid s.toList ∨ IsLineOf IsUuid s := by
  have hdash := reads_char fun _ ↦ holds_dash
  have hhex := reads_times fun _ ↦ holds_hexDigits_anyCase
  have hversion := reads_char fun _ ↦ holds_version
  have hvariant := reads_char fun _ ↦ holds_variant
  have hfinishes := (hhex 8).finishes <| hdash.finishes <| (hhex 4).finishes <| hdash.finishes <|
    hversion.finishes <| (hhex 3).finishes <| hdash.finishes <| hvariant.finishes <| (hhex 3).finishes <|
    hdash.finishes <| (hhex 12).finishes finishes_lastLineEnd
  refine matchesStart_iff hfinishes fun u ↦ ?_
  simp only [mem_parted, mem_oneOfThose_mul, mul_one, mem_hex_iff]
  constructor
  · rintro ⟨first, h₁, -, ⟨second, h₂, -, ⟨version, hversion, -, ⟨third, h₃, -,
      ⟨variant, hvariant, -, ⟨fourth, h₄, fifth, h₅, rfl⟩, rfl⟩, rfl⟩, rfl⟩, rfl⟩, rfl⟩
    exact ⟨first, second, version, third, variant, fourth, fifth, rfl, h₁, h₂, hversion, h₃, hvariant, h₄,
      h₅⟩
  · rintro ⟨first, second, version, third, variant, fourth, fifth, rfl, h₁, h₂, hversion, h₃, hvariant, h₄,
      h₅⟩
    exact ⟨first, h₁, _, ⟨second, h₂, _, ⟨version, hversion, _, ⟨third, h₃, _,
      ⟨variant, hvariant, _, ⟨fourth, h₄, fifth, h₅, rfl⟩, rfl⟩, rfl⟩, rfl⟩, rfl⟩, rfl⟩

theorem email_matches_iff :
    email.matchesStart s = true ↔ IsEmail s.toList ∨ IsLineOf IsEmail s := by
  have hmailbox := reads_least (fun _ ↦ holds_alphanum_or_each "._%+-") 1
  have hsign := reads_char fun _ ↦ holds_single '@'
  -- The domain may have points itself: it is enough that the text can be cut at one of them.
  have hdomain := reads_least (fun _ ↦ holds_alphanum_or_each ".-") 1
  have hpoint := reads_char fun _ ↦ holds_single '.'
  have hlast := reads_least (fun _ ↦ holds_oneOf.trans holds_letters) 2
  have hfinishes := hmailbox.finishes <| hsign.finishes <| hdomain.finishes <| hpoint.finishes <|
    hlast.finishes finishes_lastLineEnd
  refine matchesStart_iff hfinishes fun u ↦ ?_
  simp only [mem_parted, mul_one, mem_nonempty_iff]
  constructor
  · rintro ⟨mailbox, hmailbox, -, ⟨domain, hdomain, last, ⟨hleast, -, hall⟩, rfl⟩, rfl⟩
    exact ⟨mailbox, domain, last, rfl, hmailbox, hdomain, hleast, hall⟩
  · rintro ⟨mailbox, domain, last, rfl, hmailbox, hdomain, hleast, hall⟩
    exact ⟨mailbox, hmailbox, _, ⟨domain, hdomain, last, ⟨hleast, nofun, hall⟩, rfl⟩, rfl⟩

end Form

/-! ## What the rules accept -/

namespace RuleContext

open Form

variable {ctx : RuleContext} {s : String} {params : List Value}

section

variable [Platform]

theorem passesOn_form {p : Pattern} {key : String} :
    ({ ctx with value := .text s, params := params } : RuleContext).form p key = .ok .pass ↔
      p.matchesStart s = true := by
  rw [form, require_eq_pass_iff]
  rfl

theorem acceptsLines_hexColor :
    AcceptsLines (ctx.PassesOn .hexColor s params) IsHexColor s :=
  acceptsLines_of_iff (fun _ ↦ IsHexColor.lineFeed_notMem) (passesOn_form.trans hexColor_matches_iff)

theorem acceptsLines_uuid : AcceptsLines (ctx.PassesOn .uuid s params) IsUuid s :=
  acceptsLines_of_iff (fun _ ↦ IsUuid.lineFeed_notMem) (passesOn_form.trans uuid_matches_iff)

theorem acceptsLines_email (hs : s ≠ "") :
    AcceptsLines (ctx.PassesOn .email s params) IsEmail s := by
  have hempty : s.isEmpty = false := by simpa using hs
  have hpasses : ctx.PassesOn .email s params ↔ Form.email.matchesStart s = true := by
    rw [PassesOn, StandardRule.judge, email, optionalForm, require_eq_pass_iff, hempty, Bool.false_or]
  exact acceptsLines_of_iff (fun _ ↦ IsEmail.lineFeed_notMem) (hpasses.trans email_matches_iff)

/-- **The rules on the forms of texts accept their grammars**, and of other texts only those that are one of
these with a line feed behind it. -/
theorem acceptsForms (ctx : RuleContext) (s : String) (params : List Value) :
    AcceptsLines (ctx.PassesOn .hexColor s params) IsHexColor s ∧
      AcceptsLines (ctx.PassesOn .uuid s params) IsUuid s ∧
      (s ≠ "" → AcceptsLines (ctx.PassesOn .email s params) IsEmail s) :=
  ⟨acceptsLines_hexColor, acceptsLines_uuid, acceptsLines_email⟩

end

namespace Lines

open scoped Platform

/-- A value that is judged for itself, without names and translations. -/
def unnamed : RuleContext := ⟨.null, [], none, none, .null, .null, .null, .null, none, []⟩

/-- An e-mail address on a line. -/
def address : String := "ann@mail.example.org\n"

theorem acceptsForms_address :
    address ≠ "" ∧ AcceptsLines (unnamed.PassesOn .email address []) IsEmail address ∧
      IsLineOf IsEmail address := by
  have haddress : address ≠ "" := by decide
  have hmailbox : ∀ c ∈ "ann".toList, IsMailboxChar c := List.forall_iff_forall_mem.mp (by decide)
  have hdomain : ∀ c ∈ "mail.example".toList, IsDomainChar c := List.forall_iff_forall_mem.mp (by decide)
  have hlast : ∀ c ∈ "org".toList, c.isAlpha = true := List.forall_iff_forall_mem.mp (by decide)
  exact ⟨haddress, (acceptsForms unnamed address []).2.2 haddress, "ann@mail.example.org".toList,
    ⟨_, _, _, rfl, ⟨by decide, hmailbox⟩, ⟨by decide, hdomain⟩, by decide, hlast⟩, rfl⟩

/-- A colour on a line is accepted. -/
theorem not_forall_acceptsForms :
    ¬ ∀ (ctx : RuleContext) (s : String) (params : List Value),
      (ctx.PassesOn .hexColor s params ↔ IsHexColor s.toList) ∧
        (ctx.PassesOn .uuid s params ↔ IsUuid s.toList) ∧
        (s ≠ "" → (ctx.PassesOn .email s params ↔ IsEmail s.toList)) := by
  intro hall
  have hdigits : ∀ c ∈ "fff".toList, IsHexDigit c := List.forall_iff_forall_mem.mp (by decide)
  have hline : IsLineOf IsHexColor "#fff\n" := ⟨"#fff".toList, ⟨_, rfl, .inl ⟨rfl, hdigits⟩⟩, rfl⟩
  exact acceptsLines_hexColor.agrees_iff.mp (hall unnamed "#fff\n" []).1 hline

end Lines

end RuleContext
end Rulebook
