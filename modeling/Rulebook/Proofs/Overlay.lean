import Rulebook.Catalog.Bundled
import Rulebook.Proofs.Document
import Rulebook.Proofs.Key
import Rulebook.Proofs.Table

/-!
# A section laid over a catalog

What laying a catalog with one section over the catalog of a locale changes, entry by entry.

* An entry whose path begins with another name than that of the section stays what it was
  (`Translator.lookup_register_of_ne`).
* When the name of the section has no point, so that it is its own path, and there was no such section,
  the entries of it are what was laid over (`Translator.sectionAt_register`).
* When the name has a point, the section is never found: its entries are looked for along a path
  (`Translator.sectionAt_register_of_path`).
-/

set_option autoImplicit false

namespace Rulebook

/-! ## Texts as keys of mappings -/

namespace Value

variable {es : List Entry} {k v : Value} {q : String}

theorem lookup_insert_text (k v : Value) (es : List Entry) (q : String) :
    lookup (.text q) (insert k v es) =
      if sameKey k (.text q) then some v else lookup (.text q) es := by
  induction es with
  | nil => rfl
  | cons e r ih =>
    obtain ⟨l, w⟩ := e
    rw [insert]
    split
    · -- The key is there already: it is the text itself exactly when the new key is.
      rename_i hlk
      rw [lookup, lookup]
      have hsame : sameKey l (.text q) = sameKey k (.text q) := by
        rw [Bool.eq_iff_iff, sameKey_text_iff, sameKey_text_iff]
        constructor
        · rintro rfl
          exact (text_sameKey_iff q k).mp hlk
        · rintro rfl
          exact (sameKey_text_iff l q).mp hlk
      rw [hsame]
      split <;> rfl
    · rename_i hlk
      rw [lookup, lookup, ih]
      split
      · rename_i hl
        rw [if_neg]
        intro hk
        rw [sameKey_text_iff] at hl hk
        exact hlk (hl ▸ hk ▸ (sameKey_text_iff (.text q) q).mpr rfl)
      · rfl

theorem lookup_text_eq_none_iff : lookup (.text q) es = none ↔ ∀ e ∈ es, e.1 ≠ .text q := by
  induction es with
  | nil => simp [lookup]
  | cons e r ih =>
    rw [lookup, List.forall_mem_cons, ← ih, ne_eq, ← sameKey_text_iff]
    split <;> simp_all

theorem Distinct.tail {e : Entry} (h : Distinct (e :: es)) : Distinct es :=
  (List.pairwise_cons.mp h).2

/-- The first entry is the only one of its key. -/
theorem Distinct.lookup_tail {e : Entry} (h : Distinct (e :: es)) (hq : e.1 = .text q) :
    lookup (.text q) es = none := by
  rw [lookup_text_eq_none_iff]
  intro d hd hsame
  have hne := (List.pairwise_cons.mp h).1 d hd
  rw [hq, hsame, (sameKey_text_iff (.text q) q).mpr rfl] at hne
  cases hne

/-- What is found in a mapping that is put together from entries of distinct keys. -/
theorem lookup_ofEntries (h : Distinct es) (q : String) :
    lookup (.text q) (ofEntries es) = lookup (.text q) es := by
  have hfold : ∀ acc, lookup (.text q) (es.foldl (fun acc e ↦ insert e.1 e.2 acc) acc) =
      (lookup (.text q) es).or (lookup (.text q) acc) := by
    induction es with
    | nil => exact fun acc ↦ rfl
    | cons e r ih =>
      intro acc
      rw [List.foldl_cons, ih h.tail, lookup_insert_text, lookup]
      by_cases hq : sameKey e.1 (.text q) = true
      · rw [if_pos hq, if_pos hq, h.lookup_tail ((sameKey_text_iff e.1 q).mp hq)]
        rfl
      · rw [if_neg hq, if_neg hq]
  rw [ofEntries, hfold]
  exact Option.or_none

/-- What is found among the entries whose values pass a test. -/
theorem lookup_filter (h : Distinct es) (p : Value → Bool) (q : String) :
    lookup (.text q) (es.filter fun e ↦ p e.2) = (lookup (.text q) es).filter p := by
  induction es with
  | nil => rfl
  | cons e r ih =>
    have ih := ih h.tail
    rw [List.filter_cons, lookup]
    by_cases hq : sameKey e.1 (.text q) = true
    · rw [h.lookup_tail ((sameKey_text_iff e.1 q).mp hq)] at ih
      rw [if_pos hq]
      split
      · rename_i hp
        rw [lookup, if_pos hq, Option.filter_some, if_pos hp]
      · rename_i hp
        rw [ih, Option.filter_some, if_neg hp]
        rfl
    · rw [if_neg hq, ← ih]
      split
      · rw [lookup, if_neg hq]
      · rfl

end Value

/-! ## Paths -/

namespace Text

theorem parts_eq_singleton {sep : Char} {cs : List Char} (h : sep ∉ cs) : parts sep cs = [cs] := by
  induction cs with
  | nil => rfl
  | cons c r ih =>
    rw [List.mem_cons, not_or] at h
    rw [parts, if_neg (Ne.symm h.1), ih h.2]

/-- The first part ends at the first separator. -/
theorem parts_append {sep : Char} {cs : List Char} (h : sep ∉ cs) (rest : List Char) :
    parts sep (cs ++ sep :: rest) = cs :: parts sep rest := by
  induction cs with
  | nil => rw [List.nil_append, parts, if_pos rfl]
  | cons c r ih =>
    rw [List.mem_cons, not_or] at h
    rw [List.cons_append, parts, if_neg (Ne.symm h.1), ih h.2]

end Text

namespace Catalog

theorem path_eq_singleton {key : String} (h : '.' ∉ key.toList) : path key = [key] := by
  rw [path, Text.splitAt, Text.parts_eq_singleton h, List.map_singleton, String.ofList_toList]

theorem path_append {key rest : String} (h : '.' ∉ key.toList) :
    path (key ++ "." ++ rest) = key :: path rest := by
  have hchars : (key ++ "." ++ rest).toList = key.toList ++ '.' :: rest.toList := by
    rw [String.toList_append, String.toList_append, List.append_assoc]
    rfl
  rw [path, Text.splitAt, hchars, Text.parts_append h, List.map_cons, String.ofList_toList]
  rfl

/-- A path has a first name, which has no points. -/
theorem exists_path_eq_cons (key : String) :
    ∃ first rest, path key = first :: rest ∧ '.' ∉ first.toList := by
  by_cases h : '.' ∈ key.toList
  · obtain ⟨before, after, heq, hnot⟩ := List.eq_append_cons_of_mem h
    have hkey : key = String.ofList before ++ "." ++ String.ofList after := by
      simp [← String.toList_inj, heq]
    refine ⟨String.ofList before, path (String.ofList after), ?_, ?_⟩
    · rw [hkey, path_append]
      rwa [String.toList_ofList]
    · rwa [String.toList_ofList]
  · exact ⟨key, [], path_eq_singleton h, h⟩

/-! ## Laying over -/

/-- What is found in a catalog with another one laid over it. -/
theorem lookup_overlay {es : List Entry} (h : Value.Distinct es) (base : Catalog) (q : String) :
    Value.lookup (.text q) (overlay base es) =
      ((Value.lookup (.text q) es).map (overlayValue (Value.lookup (.text q) base))).or
        (Value.lookup (.text q) base) := by
  induction es generalizing base with
  | nil => rw [overlay]; rfl
  | cons e r ih =>
    obtain ⟨k, v⟩ := e
    rw [overlay, ih h.tail, Value.lookup_insert_text, Value.lookup]
    by_cases hq : Value.sameKey k (.text q) = true
    · obtain rfl := (Value.sameKey_text_iff k q).mp hq
      rw [if_pos hq, if_pos hq, h.lookup_tail rfl]
      rfl
    · rw [if_neg hq, if_neg hq]

theorem distinct_overlay {base : Catalog} (h : Value.Distinct base) (es : List Entry) :
    Value.Distinct (overlay base es) := by
  induction es generalizing base with
  | nil => rwa [overlay]
  | cons e r ih =>
    obtain ⟨k, v⟩ := e
    rw [overlay]
    exact ih (h.insert k _)

end Catalog

namespace Translator

variable {t : Translator} {loc name key first : String} {rest : List String} {v : Value}

theorem put_eq_putKey (loc : String) (c : Catalog) (cs : List (String × Catalog)) :
    put loc c cs = putKey loc c cs := by
  induction cs with
  | nil => rfl
  | cons e r ih => rw [put, putKey, ih]

theorem catalog?_register (t : Translator) (loc l : String) (c : Catalog) :
    (t.register loc c).catalog? l =
      if l = loc then some (Catalog.overlay ((t.catalog? loc).getD []) c) else t.catalog? l := by
  rw [register, catalog?, put_eq_putKey, lookup_putKey, catalog?, catalog?]

/-- **A section changes no entry whose path begins with another name.** -/
theorem lookup_register_of_ne (hpath : Catalog.path key = first :: rest) (hne : first ≠ name)
    (t : Translator) (loc : String) (v : Value) (l : Option String) :
    (t.register loc [(.text name, v)]).lookup key l = t.lookup key l := by
  have hother : Value.sameKey (.text name) (.text first) ≠ true :=
    fun h ↦ hne (Value.text.inj ((Value.text_sameKey_iff name _).mp h))
  have hentry : ∀ base, Catalog.entry? (Catalog.overlay base [(.text name, v)]) (first :: rest) =
      Catalog.entry? base (first :: rest) := by
    intro base
    rw [Catalog.entry?, Catalog.entry?, Catalog.find?, Catalog.find?,
      Catalog.lookup_overlay (List.pairwise_singleton _ _), Value.lookup, if_neg hother]
    rfl
  have hcatalog : ∀ l, ((t.register loc [(.text name, v)]).catalog? l).bind
      (Catalog.entry? · (first :: rest)) =
        (t.catalog? l).bind (Catalog.entry? · (first :: rest)) := by
    intro l
    rw [catalog?_register]
    split
    · rename_i hl
      rw [hl, Option.bind_some, hentry]
      cases t.catalog? loc <;> rfl
    · rfl
  rw [lookup, lookup, hpath]
  simp only [hcatalog]
  rfl

/-- **The entries of a new section that is named without a point are those that are laid over.** -/
theorem sectionAt_register (hname : '.' ∉ name.toList)
    (hnew : Value.lookup (.text name) ((t.catalog? t.current).getD []) = none) (es : List Entry) :
    (t.register t.current [(.text name, .dict es)]).sectionAt name none =
      Catalog.overlay [] es := by
  have hcatalog := catalog?_register t t.current t.current [(.text name, .dict es)]
  rw [if_pos rfl] at hcatalog
  have hsame : Value.sameKey (.text name) (.text name) = true :=
    (Value.sameKey_text_iff (.text name) name).mpr rfl
  have hentry : Catalog.entry? (Catalog.overlay ((t.catalog? t.current).getD [])
      [(.text name, .dict es)]) [name] = some (.dict (Catalog.overlay [] es)) := by
    rw [Catalog.entry?, Catalog.find?, Catalog.lookup_overlay (List.pairwise_singleton _ _),
      Value.lookup, if_pos hsame, hnew]
    rfl
  have hfirst : (t.register t.current [(.text name, .dict es)]).lookup name none =
      some (.dict (Catalog.overlay [] es)) := by
    rw [lookup, Catalog.path_eq_singleton hname]
    show List.findSome? _ [t.current, t.fallback] = _
    rw [List.findSome?_cons, hcatalog, Option.bind_some, hentry]
  rw [sectionAt, hfirst]
  rfl

/-- A section whose name has a point is not found. -/
theorem sectionAt_register_of_path (hname : '.' ∈ name.toList) (t : Translator) (loc : String)
    (v : Value) : (t.register loc [(.text name, v)]).sectionAt name none =
      t.sectionAt name none := by
  obtain ⟨first, rest, hpath, hfirst⟩ := Catalog.exists_path_eq_cons name
  have hne : first ≠ name := by
    rintro rfl
    exact hfirst hname
  rw [sectionAt, sectionAt, lookup_register_of_ne hpath hne]

/-! ## The bundled catalogs -/

/-- All messages of the bundled catalogs are in one section. -/
theorem lookup_bundled (cur fb l : String) (hname : name ≠ "validator") :
    Value.lookup (.text name) (((bundled cur fb).catalog? l).getD []) = none := by
  have hkeys : ∀ c ∈ (bundled "en" "en").catalogs, ∀ e ∈ c.2,
      Value.sameKey e.1 (.text "validator") = true := by
    decide +kernel
  cases hc : (bundled cur fb).catalog? l with
  | none => rfl
  | some c =>
    have hmem : (l, c) ∈ (bundled cur fb).catalogs := mem_catalogs_of_catalog? hc
    rw [Option.getD_some, Value.lookup_text_eq_none_iff]
    intro e he hkey
    have hvalidator := (Value.sameKey_text_iff e.1 _).mp (hkeys _ hmem e he)
    exact hname (Value.text.inj (hkey.symm.trans hvalidator))

/-- An entry outside of that section is in none of them. -/
theorem lookup_bundled_of_path (hpath : Catalog.path key = first :: rest)
    (hfirst : first ≠ "validator") (cur fb : String) (l : Option String) :
    (bundled cur fb).lookup key l = none := by
  rw [lookup, hpath, List.findSome?_eq_none_iff]
  intro loc _
  have hnone := lookup_bundled cur fb loc hfirst
  cases hc : (bundled cur fb).catalog? loc with
  | none => rfl
  | some c =>
    rw [hc, Option.getD_some] at hnone
    rw [Option.bind_some, Catalog.entry?, Catalog.find?, hnone]
    rfl

end Translator
end Rulebook
