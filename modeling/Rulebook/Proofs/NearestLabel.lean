import Rulebook.Proofs.CatalogOverlay
import Rulebook.Proofs.Relabel

/-!
# The nearest class with a display name

The display names of a class are put together from the last ancestor to the class itself, each
section over those before.  Property by property this is a search the other way round
(`Record.label_nearest`): the display name is that of the nearest class in whose section the
property has one.  What is no display name, because it is blank or no text, does not end the search,
and neither does a class without a section or with something else in its place.

The section of a class is looked for twice, in the locale in use and in the fallback, and only as a
whole (`Labels.sectionOf`): a section in the locale in use hides the one in the fallback even where
it has no display name.
-/

set_option autoImplicit false

namespace Rulebook

/-! ## Keys of mappings -/

namespace Value

variable {es acc : List Entry} {k q v : Value}

/-- What is found after a value is put. -/
theorem lookup_insert (hk : k.isKey = true) (hq : q.isKey = true) (v : Value) (es : List Entry) :
    lookup q (insert k v es) = if sameKey k q then some v else lookup q es := by
  by_cases hkq : sameKey k q = true
  · have hqk : sameKey q k = true := by rwa [sameKey_comm hq hk]
    rw [if_pos hkq]
    induction es with
    | nil => rw [insert, lookup, if_pos hkq]
    | cons e r ih =>
      obtain ⟨l, w⟩ := e
      rw [insert]
      -- An entry has the key `k` exactly when it has the key `q`.
      by_cases hl : sameKey l k = true
      · have hlq := sameKey_trans (isKey_of_sameKey hk hl) hk hq hl hkq
        rw [if_pos hl, lookup, if_pos hlq]
      · have hlq : ¬ sameKey l q = true := fun hlq ↦
          hl (sameKey_trans (isKey_of_sameKey hq hlq) hq hk hlq hqk)
        rw [if_neg hl, lookup, if_neg hlq, ih]
  · rw [if_neg hkq, lookup_insert_of_ne hk hq (Bool.eq_false_iff.mpr hkq)]

/-- An entry that is found is the only one of its key. -/
theorem Distinct.lookup_tail_of_sameKey {e : Entry} (h : Distinct (e :: es))
    (hkeys : ∀ d ∈ e :: es, d.1.isKey = true) (hq : q.isKey = true)
    (heq : sameKey e.1 q = true) : lookup q es = none := by
  obtain ⟨he, hkeys⟩ := List.forall_mem_cons.mp hkeys
  refine lookup_of_forall_ne fun d hd ↦ ?_
  rw [sameKey_comm (hkeys d hd) hq, ← sameKey_congr he hq (hkeys d hd) heq]
  exact (List.pairwise_cons.mp h).1 d hd

/-- What is found after the entries of a mapping are put one after another. -/
theorem lookup_foldl_insert (h : Distinct es) (hkeys : ∀ e ∈ es, e.1.isKey = true)
    (hq : q.isKey = true) (acc : List Entry) :
    lookup q (es.foldl (fun acc e ↦ insert e.1 e.2 acc) acc) =
      (lookup q es).or (lookup q acc) := by
  induction es generalizing acc with
  | nil => rfl
  | cons e r ih =>
    obtain ⟨he, hr⟩ := List.forall_mem_cons.mp hkeys
    rw [List.foldl_cons, ih h.tail hr, lookup_insert he hq, lookup]
    split
    · rename_i heq
      rw [h.lookup_tail_of_sameKey hkeys hq heq]
      rfl
    · rfl

/-- What is found among the entries whose values pass a test. -/
theorem lookup_filter_of_isKey (h : Distinct es) (hkeys : ∀ e ∈ es, e.1.isKey = true)
    (hq : q.isKey = true) (p : Value → Bool) :
    lookup q (es.filter fun e ↦ p e.2) = (lookup q es).filter p := by
  induction es with
  | nil => rfl
  | cons e r ih =>
    have ih := ih h.tail (List.forall_mem_cons.mp hkeys).2
    rw [List.filter_cons, lookup]
    by_cases heq : sameKey e.1 q = true
    · rw [h.lookup_tail_of_sameKey hkeys hq heq] at ih
      rw [if_pos heq, Option.filter_some]
      split
      · rw [lookup, if_pos heq]
      · exact ih
    · rw [if_neg heq, ← ih]
      split
      · rw [lookup, if_neg heq]
      · rfl

end Value

/-! ## Sections -/

namespace Translator

variable {t : Translator} {key : String}

/-- The catalogs are mappings in which no key comes twice, at every depth. -/
def Tidy (t : Translator) : Prop :=
  ∀ c ∈ t.catalogs, (Value.dict c.2).Keyed fun k ↦ k.isKey = true

/-- The entry at a key that is written with points, in one locale; one that is null is none. -/
def nodeAt (t : Translator) (loc key : String) : Option Value :=
  (t.entryAt loc (Catalog.path key)).filter (!·.isNull)

/-- The locale that is asked for, which is the one in use unless another is given. -/
def asked (t : Translator) : Option String → String
  | some loc => if loc.isEmpty then t.current else loc
  | none => t.current

/-- A key is looked for in the locale that is asked for, and then in the fallback. -/
theorem lookup_eq (t : Translator) (key : String) (asking : Option String) :
    t.lookup key asking = (t.nodeAt (t.asked asking) key).or (t.nodeAt t.fallback key) := by
  have hnode : ∀ loc, (t.catalog? loc).bind (Catalog.entry? · (Catalog.path key)) =
      t.nodeAt loc key := by
    intro loc
    rw [nodeAt, entryAt]
    cases t.catalog? loc <;> rfl
  have hcandidates : t.candidates asking = [t.asked asking, t.fallback] := by
    cases asking <;> rfl
  rw [lookup, hcandidates, List.findSome?_cons, List.findSome?_singleton, hnode, hnode]
  cases t.nodeAt (t.asked asking) key <;> rfl

theorem Tidy.keyed_of_lookup (ht : t.Tidy) {v : Value} (h : t.lookup key none = some v) :
    v.Keyed fun k ↦ k.isKey = true := by
  have hnode : ∀ loc, t.nodeAt loc key = some v → v.Keyed fun k ↦ k.isKey = true := by
    intro loc hv
    obtain ⟨hentry, -⟩ := Option.filter_eq_some_iff.mp hv
    obtain ⟨c, hc, hfind⟩ := Option.bind_eq_some_iff.mp hentry
    exact Catalog.keyed_of_find? (ht _ (mem_catalogs_of_catalog? hc)) hfind
  rw [lookup_eq] at h
  rcases Option.or_eq_some_iff.mp h with h | ⟨-, h⟩
  · exact hnode _ h
  · exact hnode _ h

end Translator

namespace Labels

variable {t : Translator} {h : Hierarchy} {b c : ClassRef} {q : Value} {s : String}

/-- The section of a class: the entry at its key in the locale in use, or else in the fallback. -/
def sectionOf (t : Translator) (h : Hierarchy) (c : ClassRef) : Option Value :=
  match h.sectionKey c with
  | .text key => (t.nodeAt t.current key).or (t.nodeAt t.fallback key)
  | _ => none

/-- A class has a display name for a property: a text that is not blank, in a section that is a
mapping. -/
def Names (t : Translator) (h : Hierarchy) (c : ClassRef) (q : Value) (s : String) : Prop :=
  ∃ es, sectionOf t h c = some (.dict es) ∧ Value.lookup q es = some (.text s) ∧
    Text.isBlankText s = false

/-- The display name that a class itself has for a property. -/
def own? (t : Translator) (h : Hierarchy) (q : Value) (c : ClassRef) : Option Value :=
  (Value.lookup q (Catalog.entriesOf (sectionOf t h c))).filter isLabel

theorem isLabel_iff {v : Value} :
    isLabel v = true ↔ ∃ s, v = .text s ∧ Text.isBlankText s = false := by
  cases v <;> simp [isLabel]

theorem own?_eq_some_iff {v : Value} :
    own? t h q c = some v ↔ ∃ s, v = .text s ∧ Names t h c q s := by
  rw [own?, Option.filter_eq_some_iff, isLabel_iff]
  constructor
  · rintro ⟨hv, s, rfl, hs⟩
    refine ⟨s, rfl, ?_⟩
    cases hsection : sectionOf t h c with
    | none => rw [hsection] at hv; cases hv
    | some u =>
      rw [hsection] at hv
      cases u with
      | dict es => exact ⟨es, hsection, hv, hs⟩
      | _ => cases hv
  · rintro ⟨s, rfl, es, hsection, hv, hs⟩
    rw [hsection]
    exact ⟨hv, s, rfl, hs⟩

theorem own?_eq_none_iff : own? t h q c = none ↔ ∀ s, ¬ Names t h c q s := by
  rw [Option.eq_none_iff_forall_ne_some]
  constructor
  · exact fun hnone s hs ↦ hnone _ (own?_eq_some_iff.mpr ⟨s, rfl, hs⟩)
  · intro hnone v hv
    obtain ⟨s, -, hs⟩ := own?_eq_some_iff.mp hv
    exact hnone s hs

/-- What is found among the display names in the section of a class. -/
theorem exists_ofClass (ht : t.Tidy) (hkey : ∃ key, h.sectionKey c = .text key) :
    ∃ es, ofClass t h none c = .ok es ∧ Value.Distinct es ∧ (∀ e ∈ es, e.1.isKey = true) ∧
      ∀ q, q.isKey = true → Value.lookup q es = own? t h q c := by
  obtain ⟨key, hkey⟩ := hkey
  have hsection : t.sectionAt key none = Catalog.entriesOf (sectionOf t h c) := by
    rw [Translator.sectionAt, Translator.lookup_eq, sectionOf, hkey]
    rfl
  have htidy : Value.Distinct (t.sectionAt key none) ∧
      ∀ e ∈ t.sectionAt key none, e.1.isKey = true := by
    rw [Translator.sectionAt]
    cases hlookup : t.lookup key none with
    | none => exact ⟨.nil, List.forall_mem_nil _⟩
    | some v =>
      cases ht.keyed_of_lookup hlookup with
      | leaf hleaf =>
        cases v with
        | dict es => cases hleaf
        | _ => exact ⟨.nil, List.forall_mem_nil _⟩
      | dict keys distinct _ => exact ⟨distinct, keys⟩
  refine ⟨_, by rw [ofClass, hkey], htidy.1.filter _,
    fun e he ↦ htidy.2 e (List.mem_of_mem_filter he), fun q hq ↦ ?_⟩
  rw [Value.lookup_filter_of_isKey htidy.1 htidy.2 hq, own?, hsection]

/-! ## The nearest display name -/

/-- Puts the display names in the section of a class over others. -/
def putSection (t : Translator) (h : Hierarchy) (acc : List Entry) (c : ClassRef) :
    Except Failure (List Entry) := do
  return (← ofClass t h none c).foldl (fun acc e ↦ Value.insert e.1 e.2 acc) acc

/-- **Sections put over each other, the nearest one last, are searched from the nearest one on.** -/
theorem exists_foldlM_putSection (ht : t.Tidy) {order : List ClassRef}
    (hkeys : ∀ b ∈ order, ∃ key, h.sectionKey b = .text key) :
    ∃ labels, order.reverse.foldlM (putSection t h) [] = .ok labels ∧
      ∀ q, q.isKey = true → Value.lookup q labels = order.findSome? (own? t h q) := by
  induction order with
  | nil => exact ⟨[], rfl, fun _ _ ↦ rfl⟩
  | cons c r ih =>
    obtain ⟨hkey, hkeys⟩ := List.forall_mem_cons.mp hkeys
    obtain ⟨labels, hlabels, hfound⟩ := ih hkeys
    obtain ⟨es, hes, hdistinct, heskeys, hown⟩ := exists_ofClass ht hkey
    have hput : putSection t h labels c =
        .ok (es.foldl (fun acc e ↦ Value.insert e.1 e.2 acc) labels) := by
      rw [putSection, hes]
      rfl
    refine ⟨es.foldl (fun acc e ↦ Value.insert e.1 e.2 acc) labels, ?_, fun q hq ↦ ?_⟩
    · rw [List.reverse_cons, List.foldlM_append, hlabels]
      show [c].foldlM (putSection t h) labels = _
      rw [List.foldlM_cons, hput]
      rfl
    · rw [Value.lookup_foldl_insert hdistinct heskeys hq, hown q hq, hfound q hq,
        List.findSome?_cons]
      cases own? t h q c <;> rfl

/-- The classes among which display names are searched. -/
def searched (h : Hierarchy) (c : ClassRef) : List ClassRef :=
  (h.ancestors c).filter (· != objectClass)

theorem mem_searched_iff : b ∈ searched h c ↔ b ∈ h.ancestors c ∧ b ≠ objectClass := by
  simp [searched]

theorem exists_ofTarget (ht : t.Tidy) (hkeyed : Keyed h c) :
    ∃ labels, ofTarget t h c none = .ok labels ∧
      ∀ q, q.isKey = true → Value.lookup q labels = (searched h c).findSome? (own? t h q) := by
  rw [ofTarget, List.filter_reverse]
  refine exists_foldlM_putSection ht fun b hb ↦ ?_
  obtain ⟨hmem, hne⟩ := mem_searched_iff.mp hb
  exact hkeyed b hmem hne

/-- Something is found when one of the classes has a display name. -/
theorem exists_findSome?_searched_iff :
    (∃ l, (searched h c).findSome? (own? t h q) = some l) ↔
      ∃ b ∈ h.ancestors c, b ≠ objectClass ∧ ∃ s, Names t h b q s := by
  constructor
  · rintro ⟨l, hl⟩
    obtain ⟨b, hb, hown⟩ := List.exists_of_findSome?_eq_some hl
    obtain ⟨s, -, hs⟩ := own?_eq_some_iff.mp hown
    obtain ⟨hmem, hne⟩ := mem_searched_iff.mp hb
    exact ⟨b, hmem, hne, s, hs⟩
  · rintro ⟨b, hmem, hne, s, hs⟩
    rw [← Option.isSome_iff_exists, List.findSome?_isSome_iff]
    refine ⟨b, mem_searched_iff.mpr ⟨hmem, hne⟩, ?_⟩
    rw [own?_eq_some_iff.mpr ⟨s, rfl, hs⟩]
    rfl

/-- The search ends at the first class with a display name. -/
theorem findSome?_searched {nearer further : List ClassRef}
    (horder : h.ancestors c = nearer ++ b :: further)
    (hnone : ∀ a ∈ nearer, a ≠ objectClass → ∀ s, ¬ Names t h a q s) (hne : b ≠ objectClass)
    (hs : Names t h b q s) : (searched h c).findSome? (own? t h q) = some (.text s) := by
  have hnearer : (nearer.filter (· != objectClass)).findSome? (own? t h q) = none := by
    rw [List.findSome?_eq_none_iff]
    intro a ha
    obtain ⟨hmem, hne⟩ := List.mem_filter.mp ha
    exact own?_eq_none_iff.mpr (hnone a hmem (by simpa using hne))
  rw [searched, horder, List.filter_append, List.findSome?_append, hnearer,
    List.filter_cons_of_pos (by simpa using hne), List.findSome?_cons,
    own?_eq_some_iff.mpr ⟨s, rfl, hs⟩]
  rfl

/-- What is found among display names is one, so it is shown. -/
theorem shown_of_lookup {labels : List Entry} {order : List ClassRef}
    (hfound : Value.lookup q labels = order.findSome? (own? t h q)) :
    shown labels q = (Value.lookup q labels).getD q := by
  rw [shown]
  cases hl : Value.lookup q labels with
  | none => rfl
  | some l =>
    obtain ⟨b, -, hb⟩ := List.exists_of_findSome?_eq_some (hfound.symm.trans hl)
    exact if_pos (Option.filter_eq_some_iff.mp hb).2

end Labels

/-! ## Names that are shown -/

namespace Record

variable {v : Validator} {host : Host} {target : ClassRef} {data given : Value}
  {schema : Properties} {cs : List PropertyCheck} {c : PropertyCheck} {e : FieldError}

section

variable [Platform]

/-- The check of a property has the name that the display names of the class show. -/
theorem label_of_mem_prepare (h : prepare v target data given schema = .ok cs)
    (hc : c ∈ cs) :
    ∃ labels, Labels.ofTarget v.translator v.hierarchy target none = .ok labels ∧
      c.label = Labels.shown labels c.name := by
  obtain ⟨o, ho, -⟩ := bind_eq_ok h
  obtain ⟨labels, rfl, hlabels⟩ := prepare_eq_ok ho h
  obtain ⟨d, hd, rfl⟩ := List.mem_map.mp hc
  rcases hlabels with rfl | hlabels
  · cases hd
  · exact ⟨labels, hlabels, rfl⟩

theorem buildMessage_of_fault {value : Value} {message : String}
    {ruleName : Option String}
    {params : List Value} (h : (fault host c value message ruleName params).result = .ok (some e)) :
    e.property = c.name ∧
      (buildMessage host c e.value e.rawMessage e.ruleName e.params).2 = .ok e.message := by
  rw [fault] at h
  cases hbuilt : (buildMessage host c value message ruleName params).2 with
  | error f =>
    rw [Task.result_done, hbuilt] at h
    cases h
  | ok m =>
    rw [Task.result_done, hbuilt] at h
    obtain rfl := Option.some.inj (Except.ok.inj h)
    exact ⟨rfl, hbuilt⟩

/-- The message of a property that failed is what the builder makes of the name that is shown. -/
theorem buildMessage_of_result (h : (propertyTask v host c).result = .ok (some e)) :
    e.property = c.name ∧
      (buildMessage host c e.value e.rawMessage e.ruleName e.params).2 = .ok e.message := by
  rw [propertyTask] at h
  split at h
  · cases h
  · rw [Task.result_bind, conclude.eq_def] at h
    split at h
    · cases h
    · exact buildMessage_of_fault h
    · split at h
      · split at h
        · exact buildMessage_of_fault h
        · cases h
      · cases h

/-- A builder is given the name that is shown, and without one it stands in front. -/
theorem message_of_buildMessage {value : Value} {rawMessage : String}
    {ruleName : Option String}
    {params : List Value} {m : Value}
    (h : (buildMessage host c value rawMessage ruleName params).2 = .ok m) :
    if c.options.builder.truthy then
      (host.runBuilder c.options.builder c.label rawMessage
        (details c value rawMessage ruleName params)).2 = .ok m
    else ∃ shown, c.label.display = .ok shown ∧
      m = .text (FieldError.messageFor shown rawMessage) := by
  rw [buildMessage] at h
  split
  · rename_i hbuilder
    rw [if_pos hbuilder] at h
    exact h
  · rename_i hbuilder
    rw [if_neg hbuilder] at h
    obtain ⟨shown, hshown, hpure⟩ := bind_eq_ok h
    exact ⟨shown, hshown, (Except.ok.inj hpure).symm⟩

/-- **The display name of a property is that of the nearest class that has one.**  It is found when
some ancestor other than the class of everything has a section that is a mapping with a text that is
not blank for the property.  The property is shown by it, or else by its own name, wherever it fails
with a message: in front of the message, or to the builder if there is one. -/
theorem label_nearest (ht : v.translator.Tidy)
    (hkeyed : Labels.Keyed v.hierarchy target) :
    ∃ labels, Labels.ofTarget v.translator v.hierarchy target none = .ok labels ∧
      ∀ q, q.isKey = true →
        ((∃ l, Value.lookup q labels = some l) ↔ ∃ b ∈ v.hierarchy.ancestors target,
          b ≠ objectClass ∧ ∃ s, Labels.Names v.translator v.hierarchy b q s) ∧
        (∀ nearer b further s, v.hierarchy.ancestors target = nearer ++ b :: further →
          (∀ a ∈ nearer, a ≠ objectClass → ∀ s, ¬ Labels.Names v.translator v.hierarchy a q s) →
          b ≠ objectClass → Labels.Names v.translator v.hierarchy b q s →
          Value.lookup q labels = some (.text s)) ∧
        ∀ host data given schema cs c, prepare v target data given schema = .ok cs → c ∈ cs →
          c.name = q → c.label = (Value.lookup q labels).getD q ∧
          ∀ e, (propertyTask v host c).result = .ok (some e) → e.property = q ∧
            if c.options.builder.truthy then
              (host.runBuilder c.options.builder c.label e.rawMessage
                (details c e.value e.rawMessage e.ruleName e.params)).2 = .ok e.message
            else ∃ shown, c.label.display = .ok shown ∧
              e.message = .text (FieldError.messageFor shown e.rawMessage) := by
  obtain ⟨labels, hlabels, hfound⟩ := Labels.exists_ofTarget ht hkeyed
  refine ⟨labels, hlabels, fun q hq ↦ ⟨?_, ?_, ?_⟩⟩
  · rw [hfound q hq]
    exact Labels.exists_findSome?_searched_iff
  · intro nearer b further s horder hnone hne hs
    rw [hfound q hq]
    exact Labels.findSome?_searched horder hnone hne hs
  · intro host data given schema cs c hcs hc hname
    obtain ⟨labels', hlabels', hlabel⟩ := label_of_mem_prepare hcs hc
    obtain rfl : labels = labels' := Except.ok.inj (hlabels.symm.trans hlabels')
    refine ⟨?_, fun e he ↦ ?_⟩
    · rw [hlabel, hname]
      exact Labels.shown_of_lookup (hfound q hq)
    · obtain ⟨hproperty, hmessage⟩ := buildMessage_of_result he
      exact ⟨hproperty.trans hname, message_of_buildMessage hmessage⟩

end

/-! ### A blank name, a text in place of a section, and the fallback -/

namespace Staff

open scoped Platform

open Schema.Diamond (bottom left right top name nick)

/-- In the locale in use one side has a blank name, and there is a text in place of the section of
the class with both bases. -/
def german : Catalog := [(.text "Left", .dict [(name, .text " ")]), (.text "Bottom", .text "Unten")]

def english : Catalog :=
  [(.text "Right", .dict [(name, .text "Full name")]),
    (.text "Top", .dict [(name, .text "Name"), (nick, .text "Nickname")])]

def validator : Validator where
  registry := .empty
  translator := ⟨[("de", german), ("en", english)], "de", "en"⟩
  store := Schema.Diamond.store
  hierarchy := Schema.Diamond.hierarchy

theorem keyed_texts (ts : List (String × String)) (h : (ts.map Prod.fst).Nodup) :
    (Value.dict (ts.map fun t ↦ (.text t.1, .text t.2))).Keyed Value.IsRegularKey := by
  have hkeyed := Value.keyed_of_texts (ts.map fun t ↦ (t.1, Value.text t.2))
    (by simpa [Function.comp_def] using h) (List.forall_mem_map.mpr fun _ _ ↦ .leaf rfl)
  simpa [Function.comp_def] using hkeyed

theorem tidy_translator : validator.translator.Tidy := by
  have hgerman : (Value.dict german).Keyed Value.IsRegularKey := by
    refine Value.keyed_of_texts [("Left", .dict [(name, .text " ")]), ("Bottom", .text "Unten")]
      (by decide) ?_
    simp only [List.forall_mem_cons, List.not_mem_nil, false_imp_iff, implies_true, and_true]
    exact ⟨keyed_texts [("name", " ")] (by decide), .leaf rfl⟩
  have henglish : (Value.dict english).Keyed Value.IsRegularKey := by
    refine Value.keyed_of_texts [("Right", .dict [(name, .text "Full name")]),
      ("Top", .dict [(name, .text "Name"), (nick, .text "Nickname")])] (by decide) ?_
    simp only [List.forall_mem_cons, List.not_mem_nil, false_imp_iff, implies_true, and_true]
    exact ⟨keyed_texts [("name", "Full name")] (by decide),
      keyed_texts [("name", "Name"), ("nick", "Nickname")] (by decide)⟩
  refine List.forall_mem_cons.mpr ⟨?_, List.forall_mem_singleton.mpr ?_⟩
  · exact hgerman.mono fun _ h ↦ h.isKey
  · exact henglish.mono fun _ h ↦ h.isKey

theorem keyed_bottom : Labels.Keyed validator.hierarchy bottom := by
  show ∀ b ∈ [bottom, left, right, top, objectClass], _
  simp only [List.forall_mem_cons, List.not_mem_nil, false_imp_iff, implies_true, and_true]
  exact ⟨fun _ ↦ ⟨"Bottom", rfl⟩, fun _ ↦ ⟨"Left", rfl⟩, fun _ ↦ ⟨"Right", rfl⟩,
    fun _ ↦ ⟨"Top", rfl⟩, fun h ↦ (h rfl).elim⟩

/-- The name comes from the other side, in the fallback, and the nickname from the base. -/
theorem label_nearest_bottom : validator.translator.Tidy ∧
    Labels.Keyed validator.hierarchy bottom ∧ ∃ labels,
      Labels.ofTarget validator.translator validator.hierarchy bottom none = .ok labels ∧
      Value.lookup name labels = some (.text "Full name") ∧
      Value.lookup nick labels = some (.text "Nickname") := by
  have hbottom : Labels.own? validator.translator validator.hierarchy name bottom = none := by
    with_unfolding_all rfl
  have hleft : Labels.own? validator.translator validator.hierarchy name left = none := by
    with_unfolding_all rfl
  have hnick : ∀ a ∈ [bottom, left, right],
      Labels.own? validator.translator validator.hierarchy nick a = none := by
    simp only [List.forall_mem_cons, List.not_mem_nil, false_imp_iff, implies_true, and_true]
    with_unfolding_all exact ⟨rfl, rfl, rfl⟩
  obtain ⟨labels, hlabels, hnearest⟩ := label_nearest tidy_translator keyed_bottom
  refine ⟨tidy_translator, keyed_bottom, labels, hlabels, ?_, ?_⟩
  · refine (hnearest name rfl).2.1 [bottom, left] right [top, objectClass] _ rfl ?_ (by decide) ?_
    · rintro a ha -
      rcases List.mem_pair.mp ha with rfl | rfl
      · exact Labels.own?_eq_none_iff.mp hbottom
      · exact Labels.own?_eq_none_iff.mp hleft
    · exact ⟨[(name, .text "Full name")], by with_unfolding_all rfl, by with_unfolding_all rfl,
        by decide⟩
  · refine (hnearest nick rfl).2.1 [bottom, left, right] top [objectClass] _ rfl ?_ (by decide) ?_
    · exact fun a ha _ ↦ Labels.own?_eq_none_iff.mp (hnick a ha)
    · exact ⟨[(name, .text "Name"), (nick, .text "Nickname")], by with_unfolding_all rfl,
        by with_unfolding_all rfl, by decide⟩

end Staff

end Record
end Rulebook
