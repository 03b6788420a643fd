import Rulebook.Proofs.Shown
import Rulebook.Rule.Context

/-!
# When a message can be made

A message is made of the entry of a catalog and of the texts of its parameters, and to make it fails
only when one of them has no text.

* `Template.failsOnly_interpolate`: to put values into a template fails only as showing them does.
* `Translator.Legible` says that the entries for messages about values have texts, which holds where
  the entries that are chosen have texts (`Translator.legible_of_chosen`), and
  `Translator.Legible.failsOnly` that to make a message then fails only as showing its parameters
  does.  For the messages of rules this is `RuleContext.failsOnly_translate`.
-/

set_option autoImplicit false

namespace Rulebook

/-! ## Putting values into a template -/

namespace Template

variable {P : Failure → Prop} {values : List Entry}

/-- A value that can be shown can be put into a message. -/
theorem succeeds_parameterText [Platform] {v : Value} (h : Succeeds v.display) :
    Succeeds (parameterText v) := by
  rw [parameterText.eq_def]
  split
  · exact succeeds_ok _
  · rename_i xs
    refine FailsOnly.succeeds (FailsOnly.bind (failsOnly_mapM fun x hx ↦ ?_) fun _ _ ↦ failsOnly_ok _)
    exact (Value.succeeds_display_of_mem h (.inl rfl) hx).failsOnly
  · rename_i xs
    refine FailsOnly.succeeds (FailsOnly.bind (failsOnly_mapM fun x hx ↦ ?_) fun _ _ ↦ failsOnly_ok _)
    exact (Value.succeeds_display_of_mem h (.inr rfl) hx).failsOnly
  · exact h

/-- Items that can be shown can be put into a message one after the other. -/
theorem failsOnly_parameterText_list [Platform] {xs : List Value}
    (h : ∀ x ∈ xs, FailsOnly P x.display) : FailsOnly P (parameterText (.list xs)) :=
  (failsOnly_mapM h).bind fun _ _ ↦ failsOnly_ok _

theorem exists_mem_of_lookup {key v : Value} (h : Value.lookup key values = some v) :
    ∃ e ∈ values, e.2 = v := by
  induction values with
  | nil => cases h
  | cons e r ih =>
    obtain ⟨k, w⟩ := e
    rw [Value.lookup] at h
    split at h
    · exact ⟨(k, w), List.mem_cons_self, Option.some.inj h⟩
    · obtain ⟨e, he, heq⟩ := ih h
      exact ⟨e, List.mem_cons_of_mem _ he, heq⟩

theorem placeholder?_cons_of_ne {c : Char} (hc : c ≠ '%') (r : List Char) :
    placeholder? (c :: r) = none := by
  rw [placeholder?.eq_def]
  split
  · rename_i heq
    exact (hc (List.cons.inj heq).1).elim
  · rfl

variable [Platform]

theorem failsOnly_fill (h : ∀ e ∈ values, FailsOnly P (parameterText e.2)) (skip : Nat)
    (cs : List Char) : FailsOnly P (fill values skip cs) := by
  fun_induction fill values skip cs with
  | case1 skip => exact failsOnly_ok _
  | case2 skip c r ih => exact ih
  | case3 c r hnone ih => exact ih.bind fun _ _ ↦ failsOnly_ok _
  | case4 c r name hname hnone ih => exact ih.bind fun _ _ ↦ failsOnly_ok _
  | case5 c r name hname v hv ih =>
    obtain ⟨e, he, rfl⟩ := exists_mem_of_lookup hv
    exact (h e he).bind fun _ _ ↦ ih.bind fun _ _ ↦ failsOnly_ok _

theorem failsOnly_interpolate (h : ∀ e ∈ values, FailsOnly P (parameterText e.2))
    (template : String) : FailsOnly P (interpolate template values) :=
  (failsOnly_fill h 0 template.toList).bind fun _ _ ↦ failsOnly_ok _

end Template

/-! ## Translating -/

/-- Parameters of a message that can be put into it, unless that fails in some way, and among which
there is no count. -/
def Tells [Platform] (P : Failure → Prop) (params : List Entry) : Prop :=
  ∀ e ∈ params, Value.sameKey e.1 (.text "count") = false ∧ FailsOnly P (Template.parameterText e.2)

section Tells

variable [Platform]
variable {P : Failure → Prop} {params ps : List Entry} {k v : Value}

theorem tells_nil : Tells P [] := nofun

theorem Tells.cons {name : String} (h : Tells P params) (hname : name ≠ "count")
    (hv : FailsOnly P (Template.parameterText v)) : Tells P ((.text name, v) :: params) :=
  List.forall_mem_cons.mpr ⟨⟨by simpa [Value.sameKey, Value.equals] using hname, hv⟩, h⟩

/-- A value that can be shown among the parameters. -/
theorem Tells.shown {name : String} (h : Tells P params) (hname : name ≠ "count")
    (hv : Succeeds v.display) : Tells P ((.text name, v) :: params) :=
  h.cons hname (Template.succeeds_parameterText hv).failsOnly

/-- An integer among the parameters, which may have too many digits. -/
theorem Tells.integer {name : String} (h : Tells (· = .integerTooLong) params)
    (hname : name ≠ "count") (n : Int) :
    Tells (· = .integerTooLong) ((.text name, .int n) :: params) := by
  refine h.cons hname fun f hf ↦ ?_
  change showInteger n = .error f at hf
  rw [showInteger] at hf
  split at hf
  · exact (Except.error.inj hf).symm
  · cases hf

theorem Tells.lookup_count (h : Tells P params) : Value.lookup (.text "count") params = none := by
  induction params with
  | nil => rfl
  | cons e r ih =>
    obtain ⟨k, v⟩ := e
    obtain ⟨⟨hk, -⟩, hr⟩ := List.forall_mem_cons.mp h
    rw [Value.lookup, if_neg (Bool.eq_false_iff.mp hk), ih hr]

theorem Tells.insert (h : Tells P params) (hk : Value.sameKey k (.text "count") = false)
    (hv : FailsOnly P (Template.parameterText v)) : Tells P (Value.insert k v params) := by
  induction params with
  | nil => exact List.forall_mem_singleton.mpr ⟨hk, hv⟩
  | cons e r ih =>
    obtain ⟨l, w⟩ := e
    obtain ⟨hl, hr⟩ := List.forall_mem_cons.mp h
    rw [Value.insert]
    split
    · exact List.forall_mem_cons.mpr ⟨⟨hl.1, hv⟩, hr⟩
    · exact List.forall_mem_cons.mpr ⟨hl, ih hr⟩

theorem Tells.insertAll (h : Tells P params) (hps : Tells P ps) :
    Tells P (ps.foldl (fun acc e ↦ Value.insert e.1 e.2 acc) params) := by
  induction ps generalizing params with
  | nil => exact h
  | cons e r ih =>
    obtain ⟨he, hr⟩ := List.forall_mem_cons.mp hps
    exact ih (h.insert he.1 he.2) hr

end Tells

namespace Translator

variable {t : Translator} {P : Failure → Prop}

/-- The entry of a key, or the plural form of it that goes with a count. -/
def chosen (t : Translator) (key : String) (loc : Option String) (count : Value) :
    Except Failure (Option Value) :=
  match t.lookup key loc with
  | some (.dict es) => pluralForm es count
  | e => .ok e

section

variable [Platform]

/-- The text of an entry with the parameters put in; without an entry it is the key. -/
def worded (key : String) (params : List Entry) : Option Value → Except Failure String
  | none | some .null => .ok key
  | some v => do Template.interpolate (← v.display) params

theorem worded_some (key : String) (params : List Entry) {v : Value} (hv : v ≠ .null) :
    worded key params (some v) = v.display >>= fun s ↦ Template.interpolate s params := by
  cases v with
  | null => exact absurd rfl hv
  | _ => rfl

theorem translate_eq (key : String) (params : List Entry) (loc : Option String) :
    t.translate key params loc =
      t.chosen key loc ((Value.lookup (.text "count") params).getD .null) >>= worded key params := by
  rw [translate, chosen]
  cases t.lookup key loc with
  | none => rfl
  | some v =>
    cases v with
    | dict es =>
      refine bind_congr fun entry ↦ ?_
      cases entry with
      | none => rfl
      | some w => cases w <;> rfl
    | _ => rfl

/-- **The messages of a translator can be read**: whatever entry or plural form there is for a message
about values, it has a text. -/
def Legible (t : Translator) : Prop :=
  ∀ name, Succeeds (t.translate ("validator." ++ name) [] none)

theorem Legible.failsOnly (ht : t.Legible) (name : String) {params : List Entry}
    (h : Tells P params) : FailsOnly P (t.translate ("validator." ++ name) params none) := by
  have hempty := ht name
  rw [translate_eq, show Value.lookup (.text "count") [] = none from rfl, succeeds_bind_iff]
    at hempty
  obtain ⟨entry, hentry, hworded⟩ := hempty
  rw [translate_eq, h.lookup_count, hentry]
  cases entry with
  | none => exact failsOnly_ok _
  | some v =>
    by_cases hv : v = .null
    · exact hv ▸ failsOnly_ok _
    · rw [worded_some _ _ hv] at hworded
      obtain ⟨template, htemplate, -⟩ := succeeds_bind_iff.mp hworded
      refine FailsOnly.bind (failsOnly_ok (some v)) fun _ hw ↦ Except.ok.inj hw ▸ ?_
      rw [worded_some _ _ hv, htemplate]
      exact Template.failsOnly_interpolate (fun e he ↦ (h e he).2) template

/-! ### Translators whose messages can be read -/

/-- The values of a mapping that can be shown can be shown. -/
theorem succeeds_display_of_lookup {es : List Entry} {key v : Value}
    (h : Succeeds (Value.display (.dict es))) (hv : Value.lookup key es = some v) :
    Succeeds v.display := by
  obtain ⟨e, he, rfl⟩ := Template.exists_mem_of_lookup hv
  exact Value.succeeds_display_of_mem_entries h he

/-- Whatever is found in a value that can be shown can be shown. -/
theorem succeeds_display_of_find? {keys : List String} {v w : Value}
    (h : Succeeds v.display)
    (hw : Catalog.find? keys v = some w) : Succeeds w.display := by
  induction keys generalizing v with
  | nil => exact Option.some.inj hw ▸ h
  | cons key keys ih =>
    cases v with
    | dict es =>
      rw [Catalog.find?, Option.bind_eq_some_iff] at hw
      obtain ⟨x, hx, hw⟩ := hw
      exact ih (succeeds_display_of_lookup h hx) hw
    | _ => cases hw

end

theorem mem_catalogs_of_catalog? {loc : String} {c : Catalog} (h : t.catalog? loc = some c) :
    (loc, c) ∈ t.catalogs := by
  obtain ⟨before, after, heq, -⟩ := List.lookup_eq_some_iff.mp h
  exact heq ▸ List.mem_append_right before List.mem_cons_self

/-- Whatever is found at a key is at its path in one of the catalogs. -/
theorem exists_catalog_of_lookup {key : String} {loc : Option String} {v : Value}
    (h : t.lookup key loc = some v) :
    ∃ c ∈ t.catalogs, Catalog.find? (Catalog.path key) (.dict c.2) = some v := by
  obtain ⟨l, -, hl⟩ := List.exists_of_findSome?_eq_some h
  obtain ⟨c, hc, hentry⟩ := Option.bind_eq_some_iff.mp hl
  obtain ⟨hfind, -⟩ := Option.filter_eq_some_iff.mp hentry
  exact ⟨(l, c), mem_catalogs_of_catalog? hc, hfind⟩

/-- Without a count, the form of an entry is the one for other numbers, or else the one for one. -/
theorem pluralForm_null (es : List Entry) : pluralForm es .null = .ok
    (if pluralKeys.all fun k ↦ (Value.lookup (.text k) es).isNone then none
      else (Value.lookup (.text "other") es).or (Value.lookup (.text "one") es)) := by
  have hequals : ∀ n, Value.equals .null (.int n) = .ok false := fun n ↦ by
    simp [Value.equals, Value.isNumeric, Value.isSameCallable]
  rw [pluralForm]
  split
  · rfl
  · rw [hequals, hequals]
    rfl

/-- Without a count, there is nothing in which choosing an entry could fail. -/
theorem succeeds_chosen (t : Translator) (key : String) : Succeeds (t.chosen key none .null) := by
  rw [chosen]
  split
  · rename_i es _
    exact ⟨_, pluralForm_null es⟩
  · exact succeeds_ok _

variable [Platform]

theorem succeeds_display_of_chosen (h : ∀ c ∈ t.catalogs, Succeeds (Value.display (.dict c.2)))
    {key : String} {v : Value} (hv : t.chosen key none .null = .ok (some v)) :
    Succeeds v.display := by
  have hlookup : ∀ w, t.lookup key none = some w → Succeeds w.display := by
    intro w hw
    obtain ⟨c, hc, hfind⟩ := exists_catalog_of_lookup hw
    exact succeeds_display_of_find? (h c hc) hfind
  rw [chosen] at hv
  split at hv
  · rename_i es hes
    rw [pluralForm_null, Except.ok.injEq] at hv
    split at hv
    · cases hv
    · rcases Option.or_eq_some_iff.mp hv with hother | ⟨-, hone⟩
      · exact succeeds_display_of_lookup (hlookup _ hes) hother
      · exact succeeds_display_of_lookup (hlookup _ hes) hone
  · exact hlookup v (Except.ok.inj hv)

/-- Where the entries that are chosen for messages have texts, the messages can be read. -/
theorem legible_of_chosen
    (h : ∀ key v, t.chosen key none .null = .ok (some v) → Succeeds v.display) : t.Legible := by
  intro name
  obtain ⟨entry, hentry⟩ := succeeds_chosen t ("validator." ++ name)
  rw [translate_eq, succeeds_bind_iff]
  refine ⟨entry, hentry, ?_⟩
  cases entry with
  | none => exact succeeds_ok _
  | some v =>
    by_cases hv : v = .null
    · exact hv ▸ succeeds_ok _
    · obtain ⟨s, hs⟩ := h _ v hentry
      rw [worded_some _ _ hv, hs]
      exact (Template.failsOnly_interpolate nofun s).succeeds

/-- Where every catalog can be shown as a whole, its messages can be read. -/
theorem legible_of_shown (h : ∀ c ∈ t.catalogs, Succeeds (Value.display (.dict c.2))) :
    t.Legible :=
  legible_of_chosen fun _ _ ↦ succeeds_display_of_chosen h

end Translator

/-! ## Messages of rules -/

namespace RuleContext

variable {ctx : RuleContext} {t : Translator} {P : Failure → Prop} {ps : List Entry}

/-- What a rule sees, with messages from a translator. -/
def speaking (ctx : RuleContext) (t : Translator) : RuleContext := { ctx with translator := some t }

variable [Platform]

/-- What every message of a rule may tell can be shown: the value, the name of the field and the
parameters. -/
structure Sayable (ctx : RuleContext) : Prop where
  value : Succeeds ctx.value.display
  label : Succeeds ctx.label.display
  params : ∀ p ∈ ctx.params, Succeeds p.display

theorem Sayable.failsOnly_params (hs : ctx.Sayable) :
    FailsOnly P (Template.parameterText (.list ctx.params)) :=
  Template.failsOnly_parameterText_list fun p hp ↦ (hs.params p hp).failsOnly

theorem Sayable.tells_messageParams (hs : ctx.Sayable) : Tells P ctx.messageParams :=
  tells_nil.cons (by decide) hs.failsOnly_params
    |>.shown (by decide) (Value.succeeds_display_text _)
    |>.shown (by decide) hs.value
    |>.shown (by decide) hs.label

/-- **To make a message of a rule fails only as showing its parameters does.** -/
theorem failsOnly_translate (hs : ctx.Sayable) (ht : t.Legible) (name : String) (hps : Tells P ps) :
    FailsOnly P ((ctx.speaking t).translate ("validator." ++ name) ps) :=
  ht.failsOnly name (hs.tells_messageParams.insertAll hps)

end RuleContext
end Rulebook
