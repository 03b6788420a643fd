import Rulebook.Proofs.Placeholder

/-!
# Messages that do not mention a parameter

A template that has no placeholder for a parameter comes to the same text whatever the value of the
parameter is (`Template.interpolate_congr`).  So does a message, when no text of the catalogs has one
(`Translator.translate_congr`).  The bundled catalogs nowhere mention the display name of the field
(`Translator.isSilent_bundled`), so that it cannot show in a message that is made from them.
-/

set_option autoImplicit false

namespace Rulebook

/-! ## Parameters that differ in one value -/

/-- Parameters that are the same except perhaps for the value under one name. -/
def AlikeBut (name : String) (ps qs : List Entry) : Prop :=
  List.Forall₂ (fun e d ↦ e.1 = d.1 ∧ (e.1 ≠ .text name → e.2 = d.2)) ps qs

section AlikeBut

variable {name n : String} {ps qs rs : List Entry}

theorem AlikeBut.refl (ps : List Entry) : AlikeBut name ps ps :=
  List.forall₂_same.mpr fun _ _ ↦ ⟨rfl, fun _ ↦ rfl⟩

theorem AlikeBut.cons (v w : Value) (h : AlikeBut name ps qs) :
    AlikeBut name ((.text name, v) :: ps) ((.text name, w) :: qs) :=
  List.Forall₂.cons ⟨rfl, fun hne ↦ absurd rfl hne⟩ h

theorem AlikeBut.same (e : Entry) (h : AlikeBut name ps qs) : AlikeBut name (e :: ps) (e :: qs) :=
  List.Forall₂.cons ⟨rfl, fun _ ↦ rfl⟩ h

theorem AlikeBut.lookup (h : AlikeBut name ps qs) (hn : n ≠ name) :
    Value.lookup (.text n) ps = Value.lookup (.text n) qs := by
  induction h with
  | nil => rfl
  | @cons e d ps qs hed _ ih =>
    rw [Value.lookup, Value.lookup, ← hed.1, ih]
    split
    · rename_i he
      have he := (Value.sameKey_text_iff e.1 n).mp he
      rw [hed.2 fun hname ↦ hn (Value.text.inj (he.symm.trans hname))]
    · rfl

theorem AlikeBut.insert (h : AlikeBut name ps qs) (k v : Value) :
    AlikeBut name (Value.insert k v ps) (Value.insert k v qs) := by
  induction h with
  | nil => exact AlikeBut.refl _
  | @cons e d ps qs hed hrest ih =>
    obtain ⟨k₁, v₁⟩ := e
    obtain ⟨k₂, v₂⟩ := d
    obtain ⟨rfl, hvalue⟩ := hed
    rw [Value.insert, Value.insert]
    split
    · exact AlikeBut.same _ hrest
    · exact List.Forall₂.cons ⟨rfl, hvalue⟩ ih

theorem AlikeBut.insertAll (h : AlikeBut name ps qs) (rs : List Entry) :
    AlikeBut name (rs.foldl (fun acc e ↦ Value.insert e.1 e.2 acc) ps)
      (rs.foldl (fun acc e ↦ Value.insert e.1 e.2 acc) qs) := by
  induction rs generalizing ps qs with
  | nil => exact h
  | cons e r ih => exact ih (h.insert e.1 e.2)

end AlikeBut

/-! ## Templates -/

namespace Template

/-- Whether a placeholder of a name stands somewhere in characters. -/
def mentions (name : List Char) : List Char → Bool
  | [] => false
  | c :: r => placeholder? (c :: r) == some name || mentions name r

variable [Platform]
variable {name : String} {ps qs : List Entry}

theorem fill_congr (h : AlikeBut name ps qs) {cs : List Char}
    (hcs : mentions name.toList cs = false) (skip : Nat) : fill ps skip cs = fill qs skip cs := by
  induction cs generalizing skip with
  | nil => cases skip <;> rfl
  | cons c r ih =>
    rw [mentions, Bool.or_eq_false_iff] at hcs
    have ih := ih hcs.2
    cases skip with
    | succ skip => exact ih skip
    | zero =>
      rw [fill, fill]
      cases hplace : placeholder? (c :: r) with
      | none => exact congrArg (· >>= fun rest ↦ pure (c :: rest)) (ih 0)
      | some found =>
        have hne : String.ofList found ≠ name := by
          rintro rfl
          simp [hplace] at hcs
        simp only [h.lookup hne, ih]

/-- A template does not show the value of a parameter that it does not mention. -/
theorem interpolate_congr (h : AlikeBut name ps qs) {template : String}
    (ht : mentions name.toList template.toList = false) :
    interpolate template ps = interpolate template qs := by
  rw [interpolate, interpolate, fill_congr h ht]

end Template

/-! ## Catalogs -/

namespace Value

mutual

/-- Whether a value is a tree of texts none of which mentions a name, with texts as plural forms. -/
def isSilent (name : String) : Value → Bool
  | text s => !Template.mentions name.toList s.toList
  | dict es => areSilent name es &&
      Translator.pluralKeys.all fun k ↦ (lookup (.text k) es).all fun v ↦ v.text?.isSome
  | _ => false

/-- Whether all values of a mapping are such trees. -/
def areSilent (name : String) : List (Value × Value) → Bool
  | [] => true
  | (_, v) :: r => isSilent name v && areSilent name r

end

variable {name : String} {es : List Entry} {k v : Value}

theorem isSilent_of_mem (h : areSilent name es = true) {e : Entry} (he : e ∈ es) :
    e.2.isSilent name = true := by
  induction es with
  | nil => cases he
  | cons d r ih =>
    obtain ⟨l, w⟩ := d
    rw [areSilent, Bool.and_eq_true] at h
    rcases List.mem_cons.mp he with rfl | he
    · exact h.1
    · exact ih h.2 he

theorem isSilent_of_lookup (h : isSilent name (.dict es) = true) (hv : lookup k es = some v) :
    v.isSilent name = true := by
  obtain ⟨e, he, rfl⟩ := Template.exists_mem_of_lookup hv
  rw [isSilent, Bool.and_eq_true] at h
  exact isSilent_of_mem h.1 he

theorem isSilent_of_find? {keys : List String} {w : Value} (h : v.isSilent name = true)
    (hw : Catalog.find? keys v = some w) : w.isSilent name = true := by
  induction keys generalizing v with
  | nil => exact Option.some.inj hw ▸ h
  | cons key keys ih =>
    cases v with
    | dict es =>
      rw [Catalog.find?, Option.bind_eq_some_iff] at hw
      obtain ⟨x, hx, hw⟩ := hw
      exact ih (isSilent_of_lookup h hx) hw
    | _ => cases hw

theorem isText_of_lookup_pluralKey (h : isSilent name (.dict es) = true) {key : String}
    (hkey : key ∈ Translator.pluralKeys) (hv : lookup (.text key) es = some v) :
    ∃ s, v = .text s ∧ Template.mentions name.toList s.toList = false := by
  have hsilent := isSilent_of_lookup h hv
  rw [isSilent, Bool.and_eq_true, List.all_eq_true] at h
  have htext := h.2 key hkey
  rw [hv] at htext
  cases v with
  | text s => exact ⟨s, rfl, by simpa [isSilent] using hsilent⟩
  | _ => cases htext

end Value

namespace Translator

variable {t u : Translator} {name : String} {ps qs : List Entry}

/-- Whether no text in the catalogs mentions a parameter. -/
def IsSilent (name : String) (t : Translator) : Prop :=
  ∀ c ∈ t.catalogs, (Value.dict c.2).isSilent name = true

theorem IsSilent.of_lookup (ht : t.IsSilent name) {key : String} {loc : Option String} {v : Value}
    (hv : t.lookup key loc = some v) : v.isSilent name = true := by
  obtain ⟨c, hc, hfind⟩ := exists_catalog_of_lookup hv
  exact Value.isSilent_of_find? (ht c hc) hfind

/-- A plural form is one of the forms that there are. -/
theorem exists_of_pluralForm {es : List Entry} {count v : Value}
    (h : pluralForm es count = .ok (some v)) :
    ∃ key ∈ pluralKeys, Value.lookup (.text key) es = some v := by
  -- Only three results are returned on the way, each of them the form under some key.
  have hresult : ∀ {key}, key ∈ pluralKeys →
      (pure (Value.lookup (.text key) es) : Except Failure (Option Value)) = .ok (some v) →
      ∃ key ∈ pluralKeys, Value.lookup (.text key) es = some v :=
    fun {key} hkey hreturn ↦ ⟨key, hkey, Except.ok.inj hreturn⟩
  have hother : (pure ((Value.lookup (.text "other") es).or (Value.lookup (.text "one") es)) :
      Except Failure (Option Value)) = .ok (some v) →
      ∃ key ∈ pluralKeys, Value.lookup (.text key) es = some v := by
    intro hreturn
    rcases Option.or_eq_some_iff.mp (Except.ok.inj hreturn) with hother | ⟨-, hone⟩
    · exact ⟨"other", by simp [pluralKeys], hother⟩
    · exact ⟨"one", by simp [pluralKeys], hone⟩
  have hrest : ∀ {x : Except Failure Bool}, (do
      if ← x then
        if (Value.lookup (.text "one") es).isSome then
          return Value.lookup (.text "one") es
      return (Value.lookup (.text "other") es).or (Value.lookup (.text "one") es)) =
        .ok (some v) → ∃ key ∈ pluralKeys, Value.lookup (.text key) es = some v := by
    intro x h
    obtain ⟨isOne, -, h⟩ := bind_eq_ok h
    dsimp only at h
    split at h
    · split at h
      · exact hresult (by simp [pluralKeys]) h
      · exact hother h
    · exact hother h
  rw [pluralForm] at h
  split at h
  · cases h
  · obtain ⟨isZero, -, h⟩ := bind_eq_ok h
    dsimp only at h
    split at h
    · split at h
      · exact hresult (by simp [pluralKeys]) h
      · exact hrest h
    · exact hrest h

/-- What is chosen from catalogs that do not mention a parameter is a text that does not. -/
theorem IsSilent.of_chosen (ht : t.IsSilent name) {key : String} {loc : Option String}
    {count v : Value} (hv : t.chosen key loc count = .ok (some v)) :
    ∃ s, v = .text s ∧ Template.mentions name.toList s.toList = false := by
  rw [chosen] at hv
  split at hv
  · rename_i es hes
    obtain ⟨form, hform, hv⟩ := exists_of_pluralForm hv
    exact Value.isText_of_lookup_pluralKey (ht.of_lookup hes) hform hv
  · rename_i hes
    have hsilent := ht.of_lookup (Except.ok.inj hv)
    cases v with
    | text s => exact ⟨s, rfl, by simpa [Value.isSilent] using hsilent⟩
    | dict es => exact (hes es (Except.ok.inj hv)).elim
    | _ => cases hsilent

/-- **A message does not show a parameter that the catalogs do not mention**, also when it is made by
two translators that have the same entry for it. -/
theorem translate_congr [Platform] (ht : t.IsSilent name) {key : String} {loc : Option String}
    (hlookup : u.lookup key loc = t.lookup key loc) (hcount : name ≠ "count")
    (hps : AlikeBut name ps qs) : u.translate key qs loc = t.translate key ps loc := by
  have hchosen : ∀ count, u.chosen key loc count = t.chosen key loc count :=
    fun count ↦ by rw [chosen, chosen, hlookup]
  rw [translate_eq, translate_eq, hps.lookup hcount.symm, hchosen]
  cases hentry : t.chosen key loc ((Value.lookup (.text "count") qs).getD .null) with
  | error f => rfl
  | ok entry =>
    cases entry with
    | none => rfl
    | some v =>
      obtain ⟨s, rfl, hs⟩ := ht.of_chosen hentry
      exact (Template.interpolate_congr hps hs).symm

end Translator

/-! ## The bundled catalogs -/

theorem Template.mentions_eq_false {name : String} {names : List String} (hname : name ∉ names)
    {cs : List Char} (h : mentionsOnly names cs = true) : mentions name.toList cs = false := by
  induction cs with
  | nil => rfl
  | cons c r ih =>
    rw [mentionsOnly, Bool.and_eq_true] at h
    rw [mentions, ih h.2, Bool.or_false, beq_eq_false_iff_ne]
    intro hplace
    rw [hplace] at h
    exact hname (by simpa using h.1)

namespace Value

/-- The forms of a message that goes with a count have placeholders that are listed. -/
theorem exists_lookup_pluralKey :
    ∀ key ∈ Translator.pluralKeys, ∃ names, Catalog.placeholders.lookup key = some names := by
  have hlisted : ∀ key ∈ Translator.pluralKeys, (Catalog.placeholders.lookup key).isSome = true := by
    decide +kernel
  exact fun key hkey ↦ Option.isSome_iff_exists.mp (hlisted key hkey)

mutual

/-- Where only listed placeholders are, a name that is not listed is not mentioned. -/
theorem isSilent_of_isListed {name : String} (hname : ∀ e ∈ Catalog.placeholders, name ∉ e.2)
    {key : String} : ∀ {v : Value}, v.isListed key = true → v.isSilent name = true
  | text s, h => by
    rw [isListed, Option.any_eq_true] at h
    obtain ⟨names, hkey, hs⟩ := h
    obtain ⟨before, after, heq, -⟩ := List.lookup_eq_some_iff.mp hkey
    have hnames := hname (key, names) (heq ▸ List.mem_append_right before List.mem_cons_self)
    rw [isSilent, Template.mentions_eq_false hnames hs]
    rfl
  | dict es, h => by
    rw [isListed, Bool.and_eq_true] at h
    exact isSilent_dict_of_areListed hname h.2

theorem isSilent_dict_of_areListed {name : String}
    (hname : ∀ e ∈ Catalog.placeholders, name ∉ e.2) {es : List (Value × Value)}
    (h : areListed es = true) : (dict es).isSilent name = true := by
  rw [isSilent, Bool.and_eq_true, List.all_eq_true]
  refine ⟨areSilent_of_areListed hname h, fun key hkey ↦ ?_⟩
  obtain ⟨names, hnames⟩ := exists_lookup_pluralKey key hkey
  cases hv : lookup (.text key) es with
  | none => rfl
  | some v =>
    obtain ⟨s, rfl, -⟩ := exists_text_of_isListed (isListed_of_lookup h hv) hnames
    rfl

theorem areSilent_of_areListed {name : String} (hname : ∀ e ∈ Catalog.placeholders, name ∉ e.2) :
    ∀ {es : List (Value × Value)}, areListed es = true → areSilent name es = true
  | [], _ => rfl
  | (k, v) :: r, h => by
    rw [areListed, Bool.and_eq_true, Option.any_eq_true] at h
    obtain ⟨⟨key, -, hv⟩, hr⟩ := h
    rw [areSilent, isSilent_of_isListed hname hv, areSilent_of_areListed hname hr]
    rfl

end

/-- Whatever is found in listed values is a text, or has listed values itself. -/
theorem text_or_dict_of_find? {keys : List String} {es : List Entry} {w : Value}
    (h : areListed es = true) (hw : Catalog.find? keys (.dict es) = some w) :
    (∃ s, w = .text s) ∨ ∃ fs, w = .dict fs ∧ areListed fs = true := by
  induction keys generalizing es with
  | nil => exact .inr ⟨es, (Option.some.inj hw).symm, h⟩
  | cons key keys ih =>
    rw [Catalog.find?, Option.bind_eq_some_iff] at hw
    obtain ⟨x, hx, hw⟩ := hw
    have hlisted := isListed_of_lookup h hx
    cases x with
    | text s =>
      cases keys with
      | nil => exact .inl ⟨s, (Option.some.inj hw).symm⟩
      | cons => cases hw
    | dict fs =>
      rw [isListed, Bool.and_eq_true] at hlisted
      exact ih hlisted.2 hw
    | _ => cases hlisted

end Value

namespace Translator

/-- The bundled catalogs do not mention the display name of the field. -/
theorem isSilent_bundled (cur fb : String) : (Translator.bundled cur fb).IsSilent "field" :=
  fun c hc ↦ Value.isSilent_dict_of_areListed (by decide +kernel)
    (Catalog.areListed_bundled cur fb c hc)

/-- The messages of the bundled catalogs can be read. -/
theorem legible_bundled [Platform] (cur fb : String) : (Translator.bundled cur fb).Legible := by
  refine legible_of_chosen fun key v hv ↦ ?_
  have hfound : ∀ w, (Translator.bundled cur fb).lookup key none = some w →
      (∃ s, w = .text s) ∨ ∃ fs, w = .dict fs ∧ Value.areListed fs = true := by
    intro w hw
    obtain ⟨c, hc, hfind⟩ := exists_catalog_of_lookup hw
    exact Value.text_or_dict_of_find? (Catalog.areListed_bundled cur fb c hc) hfind
  rw [chosen] at hv
  split at hv
  · rename_i es hes
    obtain ⟨s, hs⟩ | ⟨fs, hfs, hlisted⟩ := hfound _ hes
    · cases hs
    · obtain rfl := Value.dict.inj hfs
      -- The forms of a message are texts, so that none of them is shown as a mapping.
      obtain ⟨form, hform, hv⟩ := exists_of_pluralForm hv
      obtain ⟨names, hnames⟩ := Value.exists_lookup_pluralKey form hform
      obtain ⟨s, rfl, -⟩ :=
        Value.exists_text_of_isListed (Value.isListed_of_lookup hlisted hv) hnames
      exact Value.succeeds_display_text s
  · rename_i hdict
    obtain ⟨s, rfl⟩ | ⟨fs, rfl, -⟩ := hfound v (Except.ok.inj hv)
    · exact Value.succeeds_display_text s
    · exact absurd (Except.ok.inj hv) (hdict fs)

end Translator

end Rulebook
