import Rulebook.Proofs.Overlay

/-!
# What the bundled messages show

A message shows the parameters that it has placeholders for and no others, so that no other parameter
can be the reason why it cannot be made (`Template.failsOnly_fill_of_mentionsOnly`).  The messages in
the bundled catalogs have few placeholders, and those of one key have the same in all languages
(`Catalog.placeholders`): none of them shows the value that was judged or the name of its field.  So
whether the message of a rule can be made depends on the parameters of the rule only
(`RuleContext.failsOnly_translate_bundled`).
-/

set_option autoImplicit false

namespace Rulebook

variable {P : Failure → Prop} {names : List String} {values params : List Entry}

/-! ## Templates -/

/-- Parameters of which those with some names can be put into a message, unless that fails in some
way. -/
def Showable [Platform] (P : Failure → Prop) (names : List String) (params : List Entry) : Prop :=
  ∀ e ∈ params, ∀ name ∈ names, e.1 = .text name → FailsOnly P (Template.parameterText e.2)

namespace Template

/-- Whether all placeholders in characters have some names. -/
def mentionsOnly (names : List String) : List Char → Bool
  | [] => true
  | c :: r =>
    (placeholder? (c :: r)).all (fun name ↦ names.contains (String.ofList name)) &&
      mentionsOnly names r

theorem mem_of_lookup_text {name : String} {v : Value}
    (h : Value.lookup (.text name) values = some v) : (.text name, v) ∈ values := by
  induction values with
  | nil => cases h
  | cons e r ih =>
    obtain ⟨k, w⟩ := e
    rw [Value.lookup] at h
    split at h
    · rename_i hk
      rw [(Value.sameKey_text_iff k name).mp hk, Option.some.inj h]
      exact List.mem_cons_self
    · exact List.mem_cons_of_mem _ (ih h)

/-- A template is filled from the parameters that it mentions. -/
theorem failsOnly_fill_of_mentionsOnly [Platform] (h : Showable P names values) {cs : List Char}
    (hcs : mentionsOnly names cs = true) (skip : Nat) : FailsOnly P (fill values skip cs) := by
  induction cs generalizing skip with
  | nil => cases skip <;> exact failsOnly_ok _
  | cons c r ih =>
    rw [mentionsOnly, Bool.and_eq_true] at hcs
    have ih := ih hcs.2
    cases skip with
    | succ skip => exact ih skip
    | zero =>
      rw [fill]
      cases hplace : placeholder? (c :: r) with
      | none => exact (ih 0).bind fun _ _ ↦ failsOnly_ok _
      | some name =>
        have hname : String.ofList name ∈ names := by simpa [hplace] using hcs.1
        dsimp only
        cases hlookup : Value.lookup (.text (String.ofList name)) values with
        | none => exact (ih 0).bind fun _ _ ↦ failsOnly_ok _
        | some v =>
          have hv := h _ (mem_of_lookup_text hlookup) _ hname rfl
          exact hv.bind fun _ _ ↦ (ih _).bind fun _ _ ↦ failsOnly_ok _

end Template

/-! ## Parameters -/

namespace Showable

variable [Platform]

theorem nil : Showable P names [] := nofun

/-- A parameter that is not mentioned. -/
theorem skip (h : Showable P names params) {name : String} (hname : name ∉ names) (v : Value) :
    Showable P names ((.text name, v) :: params) :=
  List.forall_mem_cons.mpr ⟨fun _ hn hkey ↦ absurd (Value.text.inj hkey ▸ hn) hname, h⟩

/-- A parameter that can be shown. -/
theorem cons (h : Showable P names params) (k : Value) {v : Value}
    (hv : FailsOnly P (Template.parameterText v)) : Showable P names ((k, v) :: params) :=
  List.forall_mem_cons.mpr ⟨fun _ _ _ ↦ hv, h⟩

theorem insert (h : Showable P names params) {k v : Value}
    (hv : ∀ name ∈ names, k = .text name → FailsOnly P (Template.parameterText v)) :
    Showable P names (Value.insert k v params) := by
  induction params with
  | nil => exact List.forall_mem_singleton.mpr hv
  | cons e r ih =>
    obtain ⟨l, w⟩ := e
    obtain ⟨hl, hr⟩ := List.forall_mem_cons.mp h
    rw [Value.insert]
    split
    · rename_i hsame
      refine List.forall_mem_cons.mpr ⟨fun name hname hkey ↦ hv name hname ?_, hr⟩
      obtain rfl : l = .text name := hkey
      exact (Value.text_sameKey_iff name k).mp hsame
    · exact List.forall_mem_cons.mpr ⟨hl, ih hr⟩

theorem insertAll (h : Showable P names values) (hparams : Showable P names params) :
    Showable P names (params.foldl (fun acc e ↦ Value.insert e.1 e.2 acc) values) := by
  induction params generalizing values with
  | nil => exact h
  | cons e r ih =>
    obtain ⟨he, hr⟩ := List.forall_mem_cons.mp hparams
    exact ih (h.insert he) hr

end Showable

/-! ## The bundled messages -/

namespace Catalog

/-- The placeholders of messages, by the last part of their keys. -/
def placeholders : List (String × List String) :=
  (["multiple", "one", "required", "number", "integer", "string", "nonNullString", "email", "url",
    "fileName", "uuid", "json", "hexColor", "array", "arrayUnique"].map fun key ↦ (key, [])) ++
  (["zero", "other"].map fun key ↦ (key, ["count"])) ++
  (["invalidRule", "invalidMessage"].map fun key ↦ (key, ["rule"])) ++
  (["numberLessThan", "numberLessThanOrEquals", "numberGreaterThan", "numberGreaterThanOrEquals",
    "numberEquals", "numberIsDifferentFrom"].map fun key ↦ (key, ["ruleParams"])) ++
  [("invalidRuleParams", ["rule", "ruleParams"]), ("numberBetween", ["min", "max"]),
    ("length", ["length"]), ("lengthRange", ["minLength", "maxLength"]),
    ("minLength", ["minLength"]), ("maxLength", ["maxLength"]), ("startsWithOneOf", ["prefixes"]),
    ("endsWithOneOf", ["endings"]), ("regex", ["pattern"]), ("decimalPlaces", ["places"]),
    ("arrayMinLength", ["minLength"]), ("arrayMaxLength", ["maxLength"]),
    ("arrayLength", ["length"]), ("arrayContains", ["requiredValues"])]

end Catalog

namespace Value

mutual

/-- Whether a value under a key is a text with the placeholders that are listed for the key, or, when
none are, a mapping of such values. -/
def isListed (key : String) : Value → Bool
  | text s => (Catalog.placeholders.lookup key).any fun names ↦ Template.mentionsOnly names s.toList
  | dict es => (Catalog.placeholders.lookup key).isNone && areListed es
  | _ => false

/-- Whether all values of a mapping are such values under their keys. -/
def areListed : List (Value × Value) → Bool
  | [] => true
  | (k, v) :: r => (k.text?.any fun key ↦ isListed key v) && areListed r

end

variable {key : String} {es : List Entry} {v : Value}

/-- Values can be checked in parts. -/
theorem areListed_of_take (n : Nat) (hfront : areListed (es.take n) = true)
    (hback : areListed (es.drop n) = true) : areListed es = true := by
  induction n generalizing es with
  | zero => exact hback
  | succ n ih =>
    cases es with
    | nil => rfl
    | cons e r =>
      rw [List.take_succ_cons, areListed, Bool.and_eq_true] at hfront
      rw [areListed, hfront.1, ih hfront.2 hback]
      rfl

theorem isListed_of_mem (h : areListed es = true) {e : Entry} (he : e ∈ es) :
    ∃ key, e.1 = .text key ∧ e.2.isListed key = true := by
  induction es with
  | nil => cases he
  | cons d r ih =>
    obtain ⟨k, w⟩ := d
    rw [areListed, Bool.and_eq_true] at h
    rcases List.mem_cons.mp he with rfl | he
    · obtain ⟨key, hkey, hv⟩ := (Option.any_eq_true _ _).mp h.1
      cases k with
      | text s =>
        obtain rfl := Option.some.inj hkey
        exact ⟨s, rfl, hv⟩
      | _ => cases hkey
    · exact ih h.2 he

theorem isListed_of_lookup (h : areListed es = true) (hv : lookup (.text key) es = some v) :
    v.isListed key = true := by
  obtain ⟨key', hkey, hlisted⟩ := isListed_of_mem h (Template.mem_of_lookup_text hv)
  exact Value.text.inj hkey ▸ hlisted

/-- What stands under a listed key is a text. -/
theorem exists_text_of_isListed (h : v.isListed key = true)
    (hkey : Catalog.placeholders.lookup key = some names) :
    ∃ s, v = .text s ∧ Template.mentionsOnly names s.toList = true := by
  cases v with
  | text s => exact ⟨s, rfl, by simpa [isListed, hkey] using h⟩
  | dict es => simp [isListed, hkey] at h
  | _ => cases h

/-! ### Catalogs laid over each other -/

theorem areListed_insert (h : areListed es = true) (hv : v.isListed key = true) :
    areListed (insert (.text key) v es) = true := by
  induction es with
  | nil => simp [insert, areListed, text?, hv]
  | cons e r ih =>
    obtain ⟨k, w⟩ := e
    rw [areListed, Bool.and_eq_true] at h
    rw [insert]
    split
    · rename_i hk
      rw [(sameKey_text_iff k key).mp hk, areListed, h.2]
      simp [text?, hv]
    · rw [areListed, h.1, ih h.2]
      rfl

mutual

/-- A listed value stays one when it is laid over another. -/
theorem isListed_overlayValue {key : String} {old : Option Value}
    (hold : ∀ w ∈ old, w.isListed key = true) :
    ∀ {v : Value}, v.isListed key = true → (Catalog.overlayValue old v).isListed key = true
  | text s, h => h
  | dict es, h => by
    rw [isListed, Bool.and_eq_true] at h
    rw [Catalog.overlayValue, isListed, Bool.and_eq_true]
    refine ⟨h.1, areListed_overlay ?_ h.2⟩
    cases old with
    | none => rfl
    | some w =>
      cases w with
      | dict ds =>
        have hds := hold (dict ds) rfl
        rw [isListed, Bool.and_eq_true] at hds
        exact hds.2
      | _ => rfl

theorem areListed_overlay {base : List Entry} (hbase : areListed base = true) :
    ∀ {es : List (Value × Value)}, areListed es = true → areListed (Catalog.overlay base es) = true
  | [], _ => hbase
  | (k, v) :: r, h => by
    rw [areListed, Bool.and_eq_true, Option.any_eq_true] at h
    obtain ⟨⟨key, hkey, hv⟩, hr⟩ := h
    cases k with
    | text s =>
      obtain rfl := Option.some.inj hkey
      have hold : ∀ w ∈ lookup (.text s) base, w.isListed s = true := fun w hw ↦
        isListed_of_lookup hbase hw
      exact areListed_overlay (areListed_insert hbase (isListed_overlayValue hold hv)) hr
    | _ => cases hkey

end

end Value

namespace Catalog

theorem areListed_group {key : String} {es : List Entry} (hkey : placeholders.lookup key = none)
    (hes : Value.areListed es = true) : Value.areListed [group key es] = true := by
  simp [group, Value.areListed, Value.isListed, Value.text?, hkey, hes]

-- The messages are checked in parts, since checking them all at once takes much memory.

theorem areListed_english : Value.areListed english = true := by
  rw [english]
  exact areListed_group rfl (Value.areListed_of_take 12 (by decide +kernel)
    (Value.areListed_of_take 12 (by decide +kernel) (by decide +kernel)))

theorem areListed_french : Value.areListed french = true := by
  rw [french]
  exact areListed_group rfl (Value.areListed_of_take 12 (by decide +kernel)
    (Value.areListed_of_take 12 (by decide +kernel) (by decide +kernel)))

/-- All bundled messages have the placeholders that are listed, and no others. -/
theorem areListed_bundled (cur fb : String) : ∀ c ∈ (Translator.bundled cur fb).catalogs,
    Value.areListed c.2 = true := by
  intro c hc
  have hc : c ∈ [("en", overlay [] english), ("fr", overlay [] french)] := hc
  rcases List.mem_pair.mp hc with rfl | rfl
  · exact Value.areListed_overlay rfl areListed_english
  · exact Value.areListed_overlay rfl areListed_french

/-- No listed key has a point, and no message shows the value that was judged or the name of its
field. -/
theorem of_lookup_placeholders {key : String} (hkey : placeholders.lookup key = some names) :
    '.' ∉ key.toList ∧ "field" ∉ names ∧ "value" ∉ names := by
  have hall : ∀ e ∈ placeholders, '.' ∉ e.1.toList ∧ "field" ∉ e.2 ∧ "value" ∉ e.2 := by
    decide +kernel
  obtain ⟨before, after, heq, -⟩ := List.lookup_eq_some_iff.mp hkey
  exact hall (key, names) (heq ▸ List.mem_append_right before List.mem_cons_self)

/-- What is found under a listed key of a section is a text with the listed placeholders. -/
theorem exists_text_of_find? {c : Catalog} (hc : Value.areListed c = true) {key : String}
    (hkey : placeholders.lookup key = some names) {v : Value}
    (hv : find? (path ("validator." ++ key)) (.dict c) = some v) :
    ∃ s, v = .text s ∧ Template.mentionsOnly names s.toList = true := by
  have hpath : path ("validator." ++ key) = ["validator", key] := by
    have hsplit := @path_append "validator" key (by decide)
    rwa [path_eq_singleton (of_lookup_placeholders hkey).1] at hsplit
  rw [hpath, find?] at hv
  obtain ⟨w, hw, hv⟩ := Option.bind_eq_some_iff.mp hv
  cases w with
  | dict es =>
    rw [find?] at hv
    obtain ⟨u, hu, hv⟩ := Option.bind_eq_some_iff.mp hv
    obtain rfl := Option.some.inj hv
    have hes := Value.isListed_of_lookup hc hw
    rw [Value.isListed, Bool.and_eq_true] at hes
    exact Value.exists_text_of_isListed (Value.isListed_of_lookup hes.2 hu) hkey
  | _ => cases hv

end Catalog

variable [Platform]

/-- **A bundled message is made from the parameters that it has placeholders for.** -/
theorem Translator.failsOnly_translate_bundled (cur fb key : String)
    (hkey : Catalog.placeholders.lookup key = some names) (h : Showable P names params) :
    FailsOnly P ((bundled cur fb).translate ("validator." ++ key) params none) := by
  rw [translate]
  cases hfound : (bundled cur fb).lookup ("validator." ++ key) none with
  | none => exact failsOnly_ok _
  | some v =>
    obtain ⟨c, hc, hfind⟩ := exists_catalog_of_lookup hfound
    obtain ⟨s, rfl, hs⟩ :=
      Catalog.exists_text_of_find? (Catalog.areListed_bundled cur fb c hc) hkey hfind
    exact (Template.failsOnly_fill_of_mentionsOnly h hs 0).bind fun _ _ ↦ failsOnly_ok _

/-! ## The messages of rules -/

namespace RuleContext

variable {ctx : RuleContext} {cur fb : String}

/-- **Whether a rule can make a bundled message** depends on its parameters, when the message shows
them, and on what the rule adds to them. -/
theorem failsOnly_translate_bundled (ht : ctx.translator = some (.bundled cur fb)) (key : String)
    (hkey : Catalog.placeholders.lookup key = some names)
    (hruleParams : "ruleParams" ∈ names → FailsOnly P (Template.parameterText (.list ctx.params)))
    (hparams : Showable P names params) :
    FailsOnly P (ctx.translate ("validator." ++ key) params) := by
  obtain ⟨-, hfield, hvalue⟩ := Catalog.of_lookup_placeholders hkey
  have hlast : Showable P names [(.text "ruleParams", .list ctx.params)] := by
    by_cases hname : "ruleParams" ∈ names
    · exact Showable.nil.cons _ (hruleParams hname)
    · exact Showable.nil.skip hname _
  have hmessage : Showable P names ctx.messageParams :=
    ((hlast.cons _ (failsOnly_ok _)).skip hvalue _).skip hfield _
  rw [translate, ht]
  exact Translator.failsOnly_translate_bundled cur fb key hkey (hmessage.insertAll hparams)

end RuleContext
end Rulebook
