import Rulebook.Proofs.NearestLabel

/-!
# When the fallback speaks

A key is looked for in the locale that is asked for and then in the fallback (`Translator.lookup_eq`), but
a plural form is chosen only after that, from the entry that was found.  So an entry that is a section
without a usable form ends the search although it says nothing: the key comes back, even where the fallback
has a text.  That is the only case in which the fallback is not asked in place of a locale that has no text
for the key (`Translator.fallsBack_iff`).
-/

set_option autoImplicit false

namespace Rulebook
namespace Translator

variable {t : Translator} {loc key : String} {count v : Value} {params es : List Entry}
  {asking : Option String} {entry : Option Value}

/-! ## What a catalog has for a key -/

/-- The entry at a key that is written with points, in the catalog of a locale. -/
def entryFor (t : Translator) (loc key : String) : Option Value := t.entryAt loc (Catalog.path key)

/-- An entry gives a text: one that is no section gives its own, and a section that of the form which goes
with a count. -/
inductive Yields : (entry : Option Value) → (count : Value) → Value → Prop
  | text {count v : Value} (hnull : v ≠ .null) (hsection : ∀ es, v ≠ .dict es) :
      Yields (some v) count v
  | form {count v : Value} {es : List Entry} (hform : pluralForm es count = .ok (some v))
      (hnull : v ≠ .null) : Yields (some (.dict es)) count v

/-- An entry is a section that gives no text: it has no plural forms, or none that can be used for a
count. -/
inductive Unusable : (entry : Option Value) → (count : Value) → Prop
  | plain {count : Value} {es : List Entry}
      (hkeys : ∀ k ∈ pluralKeys, Value.lookup (.text k) es = none) : Unusable (some (.dict es)) count
  | missing {count : Value} {es : List Entry} (hform : pluralForm es count = .ok none) :
      Unusable (some (.dict es)) count
  | null {count : Value} {es : List Entry} (hform : pluralForm es count = .ok (some .null)) :
      Unusable (some (.dict es)) count

/-- An entry gives no text: there is none, it is null, or it is a section that gives none. -/
inductive Silent : (entry : Option Value) → (count : Value) → Prop
  | absent {count : Value} : Silent none count
  | null {count : Value} : Silent (some .null) count
  | unusable {entry : Option Value} {count : Value} (h : Unusable entry count) : Silent entry count

/-! ## Locales, counts and texts -/

/-- The translator that knows the fallback only. -/
def fallbackOnly (t : Translator) : Translator := { t with current := t.fallback }

/-- The count among parameters. -/
def countOf (params : List Entry) : Value := (Value.lookup (.text "count") params).getD .null

/-- A text with the parameters put in. -/
def message [Platform] (v : Value) (params : List Entry) : Except Failure String := do
  Template.interpolate (← v.display) params

/-! ## Looking a key up -/

theorem nodeAt_of_entryFor (h : t.entryFor loc key = some v) (hnull : v ≠ .null) :
    t.nodeAt loc key = some v := by
  rw [nodeAt, ← entryFor, h]
  cases v <;> first | rfl | exact absurd rfl hnull

theorem lookup_fallbackOnly (t : Translator) (key : String) :
    t.fallbackOnly.lookup key none = t.nodeAt t.fallback key := by
  rw [lookup_eq]
  exact Option.or_self

/-- A section without plural forms has none for any count. -/
theorem pluralForm_of_plain (h : ∀ k ∈ pluralKeys, Value.lookup (.text k) es = none) (count : Value) :
    pluralForm es count = .ok none := by
  rw [pluralForm, if_pos]
  · rfl
  · simpa using h

/-- A section without a usable form is found, and nothing is chosen from it. -/
theorem Unusable.exists_form [Platform] (h : Unusable entry count) :
    ∃ es form, entry = some (.dict es) ∧ pluralForm es count = .ok form ∧
      ∀ key params, worded key params form = .ok key := by
  cases h with
  | @plain _ es hkeys => exact ⟨es, none, rfl, pluralForm_of_plain hkeys count, fun _ _ ↦ rfl⟩
  | @missing _ es hform => exact ⟨es, none, rfl, hform, fun _ _ ↦ rfl⟩
  | @null _ es hform => exact ⟨es, some .null, rfl, hform, fun _ _ ↦ rfl⟩

/-- A locale without a text has a section that cannot be used, or nothing. -/
theorem unusable_or_of_silent (h : Silent (t.entryFor loc key) count) :
    Unusable (t.entryFor loc key) count ∨ t.nodeAt loc key = none := by
  rw [nodeAt, ← entryFor]
  generalize t.entryFor loc key = entry at h ⊢
  cases h with
  | absent => exact .inr rfl
  | null => exact .inr rfl
  | unusable h => exact .inl h

/-! ## Translating -/

section

variable [Platform]

/-- A text in the locale that is asked for is the one that is used. -/
theorem translate_of_yields
    (h : Yields (t.entryFor (t.asked asking) key) (countOf params) v) :
    t.translate key params asking = message v params := by
  rw [translate_eq, chosen, lookup_eq]
  generalize hentry : t.entryFor (t.asked asking) key = entry at h
  cases h with
  | text hnull hsection =>
    rw [nodeAt_of_entryFor hentry hnull, Option.some_or]
    cases v with
    | dict es => exact absurd rfl (hsection es)
    | null => exact absurd rfl hnull
    | _ => rfl
  | form hform hnull =>
    rw [nodeAt_of_entryFor hentry (by simp), Option.some_or]
    dsimp only
    rw [← countOf, hform]
    exact worded_some key params hnull

/-- **A section without a usable form gives the key back**, whatever the fallback has. -/
theorem translate_of_unusable
    (h : Unusable (t.entryFor (t.asked asking) key) (countOf params)) :
    t.translate key params asking = .ok key := by
  obtain ⟨es, form, hentry, hform, hworded⟩ := h.exists_form
  rw [translate_eq, chosen, lookup_eq, nodeAt_of_entryFor hentry (by simp), Option.some_or]
  dsimp only
  rw [← countOf, hform]
  exact hworded key params

/-- **Where there is no entry, or a null one, the fallback is asked.** -/
theorem translate_of_nodeAt_eq_none (h : t.nodeAt (t.asked asking) key = none)
    (params : List Entry) :
    t.translate key params asking = t.fallbackOnly.translate key params none := by
  rw [translate, translate, lookup_eq, h, Option.none_or, lookup_fallbackOnly]

/-- The key comes back where the fallback, asked by itself, has no text. -/
theorem translate_fallbackOnly_of_silent
    (h : Silent (t.entryFor t.fallback key) (countOf params)) :
    t.fallbackOnly.translate key params none = .ok key := by
  rcases unusable_or_of_silent h with h | h
  · exact translate_of_unusable (t := t.fallbackOnly) h
  · rw [translate_eq, chosen, lookup_fallbackOnly, h]
    rfl

/-- What is promised of a key, for parameters and a locale: the locale's own text is used if it has one;
without one the translation is that for the fallback alone; and the key itself is given back only if
neither has a text. -/
structure FallsBack (t : Translator) (key : String) (params : List Entry)
    (asking : Option String) :
    Prop where
  own : ∀ v, Yields (t.entryFor (t.asked asking) key) (countOf params) v →
    t.translate key params asking = message v params
  silent : Silent (t.entryFor (t.asked asking) key) (countOf params) →
    t.translate key params asking = t.fallbackOnly.translate key params none
  fallback : Silent (t.entryFor (t.asked asking) key) (countOf params) →
    ∀ v, Yields (t.entryFor t.fallback key) (countOf params) v →
      t.translate key params asking = message v params
  neither : Silent (t.entryFor (t.asked asking) key) (countOf params) →
    Silent (t.entryFor t.fallback key) (countOf params) → t.translate key params asking = .ok key

/-- **The fallback speaks for a locale without a text**, except where the locale has a section without a
usable form: there the key comes back, so that the promise is kept only if the fallback gives the key
back as well. -/
theorem fallsBack_iff (t : Translator) (key : String) (params : List Entry)
    (asking : Option String) :
    t.FallsBack key params asking ↔
      (Unusable (t.entryFor (t.asked asking) key) (countOf params) →
        t.fallbackOnly.translate key params none = .ok key) := by
  constructor
  · intro h hunusable
    rw [← h.silent (.unusable hunusable), translate_of_unusable hunusable]
  · intro h
    have hsilent : Silent (t.entryFor (t.asked asking) key) (countOf params) →
        t.translate key params asking = t.fallbackOnly.translate key params none := by
      intro hsilent
      rcases unusable_or_of_silent hsilent with hunusable | hnone
      · rw [translate_of_unusable hunusable, h hunusable]
      · exact translate_of_nodeAt_eq_none hnone params
    refine ⟨fun v ↦ translate_of_yields, hsilent, fun hown v hv ↦ ?_, fun hown hfallback ↦ ?_⟩
    · rw [hsilent hown]
      exact translate_of_yields (t := t.fallbackOnly) hv
    · rw [hsilent hown, translate_fallbackOnly_of_silent hfallback]

end

namespace Hint

open scoped Platform

/-- The section in use has a hint and no text. -/
def hint : List Entry := [(.text "hint", .text "Hallo")]

/-- Catalogs of which the one in use has a section where the fallback has a text. -/
def translator : Translator where
  catalogs := [("de", [(.text "greeting", .dict hint)]), ("en", [(.text "greeting", .text "Hello")])]
  current := "de"
  fallback := "en"

theorem entryFor_greeting (h : translator.catalog? loc = some [(.text "greeting", v)]) :
    translator.entryFor loc "greeting" = some v := by
  have hfound : Value.lookup (.text "greeting") [(.text "greeting", v)] = some v := by
    rw [Value.lookup, if_pos ((Value.sameKey_text_iff _ _).mpr rfl)]
  rw [entryFor, entryAt, h, Catalog.path_eq_singleton (by decide), Option.bind_some, Catalog.find?, hfound]
  rfl

/-- The section in use hides the text of the fallback. -/
theorem not_forall_fallsBack :
    ¬ ∀ (t : Translator) (key : String) (params : List Entry) (asking : Option String),
      t.FallsBack key params asking := by
  intro hall
  have hentry : translator.entryFor "de" "greeting" = some (.dict hint) := entryFor_greeting rfl
  have hfallback : translator.entryFor "en" "greeting" = some (.text "Hello") := entryFor_greeting rfl
  have hunusable : Unusable (translator.entryFor "de" "greeting") .null :=
    hentry ▸ .plain (by decide +kernel)
  have hyields : Yields (translator.entryFor "en" "greeting") .null (.text "Hello") :=
    hfallback ▸ .text (by simp) (by simp)
  have hkey : translator.translate "greeting" [] none = .ok "greeting" :=
    translate_of_unusable hunusable
  have hhello : message (.text "Hello") [] = .ok "Hello" := rfl
  have hsays := (hall translator "greeting" [] none).fallback (.unusable hunusable) _ hyields
  rw [hkey, hhello] at hsays
  exact absurd (Except.ok.inj hsays) (by decide)

end Hint

end Translator
end Rulebook
