import Rulebook.Proofs.FailFast
import Rulebook.Proofs.Mention
import Rulebook.Schema

/-!
# Rules with fixed parameters

An attachment with parameters holds a rule that is given itself, with its parameters fixed.  It is
run without a name, while the rule of the same name with the same parameters is found in the
registry and run under its name.  Both say the same about every value (`Request.told_factory`).

The name of a rule gets into two kinds of messages.  One is made for parameters that make no sense,
and there the rule tells its name itself.  The other stands in for a blank message, and no bundled
message is blank, because each begins with a character that can be seen
(`Catalog.beginsVisibly_bundled`).  So what a rule answers in the two contexts is the same
computation and has a message that is not blank (`Coincide`), rule by rule.
-/

set_option autoImplicit false

namespace Rulebook

/-! ## Computations that come to the same -/

/-- Two computations that are the same, and whose value, if they come to one, has a property. -/
structure Coincide {α : Type} (P : α → Prop) (x y : Except Failure α) : Prop where
  eq : y = x
  value : ∀ a, x = .ok a → P a

section Coincide

variable {α β : Type} {P : α → Prop} {Q : β → Prop} {x y : Except Failure α}
  {f g : α → Except Failure β}

theorem coincide_ok {a : α} (h : P a) : Coincide P (.ok a) (.ok a) :=
  ⟨rfl, fun _ hb ↦ Except.ok.inj hb ▸ h⟩

theorem coincide_self (x : Except Failure α) : Coincide (fun _ ↦ True) x x :=
  ⟨rfl, fun _ _ ↦ trivial⟩

theorem Coincide.bind (h : Coincide P x y) (hf : ∀ a, P a → Coincide Q (f a) (g a)) :
    Coincide Q (x >>= f) (y >>= g) := by
  obtain ⟨rfl, hP⟩ := h
  cases y with
  | error e => exact ⟨rfl, nofun⟩
  | ok a => exact hf a (hP a rfl)

end Coincide

/-! ## Messages that begin with a character that can be seen -/

namespace Template

/-- Whether a text begins with a visible character of ASCII that begins no placeholder.  The first
byte tells, so that the text need not be decoded. -/
def beginsVisibly (s : String) : Bool :=
  s.toByteArray.data.toList.head?.any fun b ↦
    decide (0x20 < b.toNat) && decide (b.toNat < 0x80) && decide (b.toNat ≠ 0x25)

/-- The first byte of a character is its code point, or no code point of ASCII. -/
theorem exists_head?_utf8EncodeChar (c : Char) : ∃ b, (String.utf8EncodeChar c).head? = some b ∧
    (b.toNat = c.toNat ∨ 0x80 ≤ b.toNat) := by
  have hbyte : ∀ n, n < 256 → (UInt8.ofNat n).toNat = n := fun n hn ↦ by
    rw [UInt8.toNat_ofNat']
    omega
  have hcode : c.val.toNat = c.toNat := rfl
  rw [String.utf8EncodeChar, hcode]
  split
  · exact ⟨_, rfl, .inl (hbyte _ (by omega))⟩
  · split
    · exact ⟨_, rfl, .inr (by rw [hbyte _ (by omega)]; omega)⟩
    · split
      · exact ⟨_, rfl, .inr (by rw [hbyte _ (by omega)]; omega)⟩
      · exact ⟨_, rfl, .inr (by rw [hbyte _ (by omega)]; omega)⟩

theorem isBlank_eq_false {c : Char} (hlow : 0x20 < c.toNat) (hhigh : c.toNat < 0x80) :
    Text.isBlank c = false := by
  have hranges : ∀ r ∈ Text.blankRanges, r.2 ≤ 0x20 ∨ 0x80 ≤ r.1 := by decide
  rw [Bool.eq_false_iff, Ne, Text.isBlank, Text.inRanges_iff]
  rintro ⟨r, hr, hc⟩
  have := hranges r hr
  omega

theorem exists_of_beginsVisibly {s : String} (h : beginsVisibly s = true) :
    ∃ c r, s.toList = c :: r ∧ c ≠ '%' ∧ Text.isBlank c = false := by
  rw [beginsVisibly, ← String.ofList_toList (s := s), String.toByteArray_ofList] at h
  cases hchars : s.toList with
  | nil =>
    rw [hchars] at h
    cases h
  | cons c r =>
    obtain ⟨b, hb, hcode⟩ := exists_head?_utf8EncodeChar c
    rw [hchars, List.utf8Encode, List.data_toByteArray, List.toList_toArray, List.flatMap_cons,
      List.head?_append, hb] at h
    simp only [Option.some_or, Option.any_some, Bool.and_eq_true, decide_eq_true_eq] at h
    refine ⟨c, r, rfl, ?_, isBlank_eq_false (by omega) (by omega)⟩
    rintro rfl
    have hpercent : '%'.toNat = 0x25 := rfl
    omega

/-- Such a template does not become blank when values are put in. -/
theorem isBlankText_interpolate [Platform] {template m : String} {values : List Entry}
    (h : beginsVisibly template = true) (hm : interpolate template values = .ok m) :
    Text.isBlankText m = false := by
  obtain ⟨c, r, hchars, hplace, hblank⟩ := exists_of_beginsVisibly h
  obtain ⟨cs, hcs, hm⟩ := bind_eq_ok hm
  rw [hchars, fill, placeholder?_cons_of_ne hplace] at hcs
  obtain ⟨rest, -, hrest⟩ := bind_eq_ok hcs
  rw [← Except.ok.inj hm, ← Except.ok.inj hrest, Text.isBlankText, String.toList_ofList,
    List.all_cons, hblank, Bool.false_and]

end Template

namespace Value

mutual

/-- The texts in a tree of mappings. -/
def texts : Value → List String
  | text s => [s]
  | dict es => textsOf es
  | _ => []

/-- The texts in the values of a mapping. -/
def textsOf : List (Value × Value) → List String
  | [] => []
  | (_, v) :: r => texts v ++ textsOf r

end

theorem mem_textsOf {es : List Entry} {e : Entry} (he : e ∈ es) {s : String}
    (hs : s ∈ e.2.texts) : s ∈ textsOf es := by
  induction es with
  | nil => cases he
  | cons d r ih =>
    obtain ⟨k, v⟩ := d
    rw [textsOf, List.mem_append]
    rcases List.mem_cons.mp he with rfl | he
    · exact .inl hs
    · exact .inr (ih he)

theorem mem_texts_of_find? {path : List String} {v : Value} {s : String}
    (h : Catalog.find? path v = some (.text s)) : s ∈ v.texts := by
  induction path generalizing v with
  | nil =>
    obtain rfl := Option.some.inj h
    rw [texts]
    exact List.mem_cons_self
  | cons p r ih =>
    cases v with
    | dict es =>
      obtain ⟨w, hw, hfind⟩ := Option.bind_eq_some_iff.mp h
      rw [texts]
      exact mem_textsOf (Template.mem_of_lookup_text hw) (ih hfind)
    | _ => cases h

end Value

namespace Catalog

/-- The bundled messages begin with a character that can be seen. -/
theorem beginsVisibly_bundled (cur fb : String) : ∀ c ∈ (Translator.bundled cur fb).catalogs,
    ∀ s ∈ (Value.dict c.2).texts, Template.beginsVisibly s = true := by
  have hall : ∀ c ∈ (Translator.bundled "en" "en").catalogs,
      ∀ s ∈ (Value.dict c.2).texts, Template.beginsVisibly s = true := by
    decide +kernel
  exact hall

/-- There is a message under a key, and it does not mention a parameter. -/
def Omits (name key : String) : Prop :=
  ∃ names, placeholders.lookup key = some names ∧ name ∉ names

end Catalog

namespace Translator

variable {name : String} {ps qs : List Entry}

/-- **A bundled message does not show a parameter that it does not mention, and is not blank.** -/
theorem coincide_translate_bundled [Platform] (cur fb key : String) (hkey : Catalog.Omits name key)
    (hps : AlikeBut name ps qs) : Coincide (fun m ↦ Text.isBlankText m = false)
      ((bundled cur fb).translate ("validator." ++ key) ps none)
      ((bundled cur fb).translate ("validator." ++ key) qs none) := by
  obtain ⟨names, hnames, hname⟩ := hkey
  rw [translate, translate]
  cases hfound : (bundled cur fb).lookup ("validator." ++ key) none with
  | none =>
    refine coincide_ok ?_
    rw [Text.isBlankText, String.toList_append, List.all_append]
    exact Bool.and_eq_false_imp.mpr fun hall ↦ absurd hall (by decide)
  | some v =>
    obtain ⟨c, hc, hfind⟩ := exists_catalog_of_lookup hfound
    obtain ⟨s, rfl, hs⟩ :=
      Catalog.exists_text_of_find? (Catalog.areListed_bundled cur fb c hc) hnames hfind
    have hbegins := Catalog.beginsVisibly_bundled cur fb c hc s (Value.mem_texts_of_find? hfind)
    exact ⟨(Template.interpolate_congr hps (Template.mentions_eq_false hname hs)).symm,
      fun m hm ↦ Template.isBlankText_interpolate hbegins hm⟩

end Translator

/-! ## A rule under another name -/

/-- A verdict whose message, if it has one, is not blank. -/
def Verdict.Speaks : Verdict → Prop
  | pass => True
  | fail message => Text.isBlankText message = false

theorem Verdict.speaks_ofBool (condition : Bool) {message : String}
    (h : Text.isBlankText message = false) : (Verdict.ofBool condition message).Speaks := by
  cases condition
  · exact h
  · trivial

namespace RuleContext

/-- Contexts with bundled messages that show a rule the same, except perhaps for its own name. -/
structure Renamed (c d : RuleContext) : Prop where
  value : d.value = c.value
  params : d.params = c.params
  label : d.label = c.label
  translator : d.translator = c.translator
  bundled : ∃ cur fb, c.translator = some (.bundled cur fb)

namespace Renamed

variable {c d : RuleContext} (h : Renamed c d)
include h

theorem coincide_translate [Platform] (key : String) (hkey : Catalog.Omits "rule" key)
    (ps : List Entry) :
    Coincide (fun m ↦ Text.isBlankText m = false) (c.translate ("validator." ++ key) ps)
      (d.translate ("validator." ++ key) ps) := by
  obtain ⟨cur, fb, hbundled⟩ := h.bundled
  have hparams : AlikeBut "rule" c.messageParams d.messageParams := by
    rw [messageParams, messageParams, h.label, h.value, h.params]
    exact .same _ (.same _ (.cons _ _ (.refl _)))
  rw [translate, translate, h.translator, hbundled]
  exact Translator.coincide_translate_bundled cur fb key hkey (hparams.insertAll ps)

theorem coincide_reject [Platform] (key : String) (hkey : Catalog.Omits "rule" key)
    (ps : List Entry) :
    Coincide Verdict.Speaks (c.reject ("validator." ++ key) ps)
      (d.reject ("validator." ++ key) ps) :=
  (h.coincide_translate key hkey ps).bind fun _ hm ↦ coincide_ok hm

/-- The message for parameters that make no sense shows the name that the rule tells. -/
theorem coincide_rejectParams [Platform] (rule : String) :
    Coincide Verdict.Speaks (c.rejectParams rule) (d.rejectParams rule) := by
  obtain ⟨cur, fb, hbundled⟩ := h.bundled
  have homits : Catalog.Omits "value" "invalidRuleParams" := ⟨_, rfl, by decide⟩
  have hsame : ∀ v : Value, Value.insert (.text "rule") v d.messageParams =
      Value.insert (.text "rule") v c.messageParams := by
    intro v
    rw [messageParams, messageParams, h.label, h.value, h.params]
    simp [Value.insert, Value.sameKey, Value.equals]
  have hmessage : Coincide (fun m ↦ Text.isBlankText m = false)
      (c.translate "validator.invalidRuleParams" [(.text "rule", .text rule)])
      (d.translate "validator.invalidRuleParams" [(.text "rule", .text rule)]) := by
    rw [translate, translate, h.translator, hbundled]
    simp only [List.foldl_cons, List.foldl_nil, hsame]
    exact Translator.coincide_translate_bundled cur fb "invalidRuleParams" homits (.refl _)
  exact hmessage.bind fun _ hm ↦ coincide_ok hm

/-! ### Numbers -/

theorem firstNumber_eq : d.firstNumber = c.firstNumber := by
  rw [firstNumber, firstNumber, h.params]

theorem coincide_compare [Platform] (key : String) (hkey : Catalog.Omits "rule" key)
    (holds : Double → Double → Bool) :
    Coincide Verdict.Speaks (c.compare holds ("validator." ++ key))
      (d.compare holds ("validator." ++ key)) := by
  refine (h.coincide_translate key hkey []).bind fun message hm ↦ ?_
  rw [h.value]
  refine (coincide_self _).bind fun x _ ↦ ?_
  cases x with
  | none => exact coincide_ok hm
  | some x =>
    rw [h.firstNumber_eq]
    refine (coincide_self _).bind fun y _ ↦ ?_
    cases y with
    | none => exact coincide_ok hm
    | some y => exact coincide_ok (Verdict.speaks_ofBool _ hm)

theorem coincide_numberBetween [Platform] :
    Coincide Verdict.Speaks c.numberBetween d.numberBetween := by
  have hparams := h.coincide_rejectParams "NumberBetween"
  rw [numberBetween, numberBetween, h.value, h.params]
  match c.params with
  | [] | [_] => exact hparams
  | low :: high :: _ =>
    refine (coincide_self _).bind fun x _ ↦ ?_
    cases x with
    | none => exact h.coincide_reject "number" ⟨_, rfl, by decide⟩ []
    | some x =>
      refine (coincide_self _).bind fun a _ ↦ (coincide_self _).bind fun b _ ↦ ?_
      cases a with
      | none => exact hparams
      | some a =>
        cases b with
        | none => exact hparams
        | some b =>
          simp only
          split
          · exact coincide_ok trivial
          · exact h.coincide_reject "numberBetween" ⟨_, rfl, by decide⟩ _

/-! ### Lengths -/

theorem numberAt_eq (i : Nat) : d.numberAt i = c.numberAt i := by
  rw [numberAt, numberAt, h.params]

variable [Platform]

theorem coincide_length : Coincide Verdict.Speaks c.length d.length := by
  rw [length, length, textOrEmpty, textOrEmpty, h.value, h.numberAt_eq, h.numberAt_eq]
  refine (coincide_self _).bind fun low _ ↦ (coincide_self _).bind fun high _ ↦ ?_
  cases low with
  | none => exact coincide_ok trivial
  | some low =>
    cases high with
    | none =>
      exact (h.coincide_translate "length" ⟨_, rfl, by decide⟩ _).bind fun _ hm ↦
        coincide_ok (Verdict.speaks_ofBool _ hm)
    | some high =>
      exact (h.coincide_translate "lengthRange" ⟨_, rfl, by decide⟩ _).bind fun _ hm ↦
        coincide_ok (Verdict.speaks_ofBool _ hm)

theorem coincide_boundLength (key : String) (hkey : Catalog.Omits "rule" key)
    (holds : Nat → Double → Bool) (param : String) :
    Coincide Verdict.Speaks (c.boundLength holds ("validator." ++ key) param)
      (d.boundLength holds ("validator." ++ key) param) := by
  have hbound : d.bound = c.bound := by rw [bound, bound, h.firstNumber_eq]
  rw [boundLength, boundLength, hbound, h.value]
  refine (coincide_self _).bind fun limit _ ↦ ?_
  split
  · exact coincide_ok trivial
  · exact (h.coincide_translate key hkey _).bind fun _ hm ↦
      coincide_ok (Verdict.speaks_ofBool _ hm)

/-! ### Beginnings and endings -/

theorem coincide_affix (key : String) (hkey : Catalog.Omits "rule" key)
    (isPart : List Char → List Char → Bool) (rule param : String) :
    Coincide Verdict.Speaks (c.affix isPart rule ("validator." ++ key) param)
      (d.affix isPart rule ("validator." ++ key) param) := by
  have haffixes : d.affixes = c.affixes := by rw [affixes, affixes, h.params]
  rw [affix, affix, haffixes, h.value, h.params]
  split
  · exact h.coincide_rejectParams rule
  · split
    · exact coincide_ok trivial
    · exact h.coincide_reject key hkey _

/-- **What a rule with parameters answers does not depend on its name.** -/
theorem coincide_judge {s : StandardRule} (hs : s ∈ Attachment.factories.map Prod.snd) :
    Coincide Verdict.Speaks (s.judge c) (s.judge d) := by
  simp only [Attachment.factories, List.map_cons, List.map_nil, List.mem_cons, List.not_mem_nil,
    or_false] at hs
  rcases hs with rfl | rfl | rfl | rfl | rfl | rfl | rfl | rfl | rfl | rfl | rfl | rfl
  · exact h.coincide_length
  · exact h.coincide_boundLength "minLength" ⟨_, rfl, by decide⟩ _ _
  · exact h.coincide_boundLength "maxLength" ⟨_, rfl, by decide⟩ _ _
  · exact h.coincide_compare "numberLessThan" ⟨_, rfl, by decide⟩ _
  · exact h.coincide_compare "numberLessThanOrEquals" ⟨_, rfl, by decide⟩ _
  · exact h.coincide_compare "numberGreaterThan" ⟨_, rfl, by decide⟩ _
  · exact h.coincide_compare "numberGreaterThanOrEquals" ⟨_, rfl, by decide⟩ _
  · exact h.coincide_compare "numberEquals" ⟨_, rfl, by decide⟩ _
  · exact h.coincide_compare "numberIsDifferentFrom" ⟨_, rfl, by decide⟩ _
  · exact h.coincide_numberBetween
  · exact h.coincide_affix "startsWithOneOf" ⟨_, rfl, by decide⟩ _ _ _
  · exact h.coincide_affix "endsWithOneOf" ⟨_, rfl, by decide⟩ _ _ _

end Renamed
end RuleContext

/-! ## What a request tells -/

namespace Request

/-- What is told by the end of validating a value: nothing when there is nothing to object, and else
the message, or the failure that was not stopped. -/
def told : Ending → Option (Except Failure String)
  | none => none
  | some (.refused e) => some (.ok e.message)
  | some (.failed f) => some (.error f)

/-- What is told when a single rule answers. -/
def toldOf [Platform] : Judgement → Option (Except Failure String)
  | .ok .pass => none
  | .ok (.fail message) => some (.ok message)
  | .error f => some (if f.isOrdinary then failureMessage f else .error f)

section Told

variable (r : Request) (host : Host) (registry : Registry) (t : Translator) (entry : RuleEntry)

/-- A rule whose message is not blank has the last word. -/
theorem told_afterRule [Platform] {j : Judgement} (hj : ∀ v, j = .ok v → v.Speaks) :
    told (r.afterRule t entry (j.map Verdict.toValue)).result = toldOf j := by
  cases j with
  | error f =>
    show told (r.afterRule t entry (.error f)).result = _
    rw [afterRule, toldOf]
    split
    · rw [Task.result_done, conclude, message?]
      cases failureMessage f <;> rfl
    · rfl
  | ok v =>
    cases v with
    | pass => rfl
    | fail message =>
      have hmessage : Text.isBlankText message = false := hj _ rfl
      show told (r.conclude t entry (.ok (.text message))) = _
      rw [conclude, message?, if_neg (Bool.eq_false_iff.mp hmessage)]
      rfl

/-- What a request with a single rule tells. -/
theorem told_run [Platform] {lines : List LogLine} {j : Judgement}
    (hresolved : Spec.resolveAll registry r.rules = (⟨[entry], []⟩, lines))
    (hrule : host.runRule entry.rule (r.contextFor t entry) = .done [] (j.map Verdict.toValue))
    (hj : ∀ v, j = .ok v → v.Speaks) : told (r.run host registry t).result = toldOf j := by
  obtain ⟨-, hresult⟩ := run_of_valid r host registry t hresolved rfl
  have hentry : (r.runEntry host t entry).result =
      (r.afterRule t entry (j.map Verdict.toValue)).result := by
    rw [runEntry, hrule, Task.result_bind, Task.result_done]
  rw [hresult, ← told_afterRule r t entry hj, ← hentry, runEntries, Task.result_bind]
  cases (r.runEntry host t entry).result <;> rfl

/-- The specifications that an attachment with parameters holds. -/
theorem factory?_eq {name : String} {s : StandardRule} (hs : (name, s) ∈ Attachment.factories)
    {ps : Value} {l : List Value} (hl : ps.items? = some l) :
    Attachment.factory? name ps = some [.bound (.rule s) l] := by
  have hlookup : ∀ e ∈ Attachment.factories, Attachment.factories.lookup e.1 = some e.2 := by
    decide
  have hparams : Attachment.paramsOf ps = l := by
    cases ps with
    | list xs | tuple xs => exact Option.some.inj hl
    | _ => cases hl
  rw [Attachment.factory?, hlookup _ hs, Option.map_some, Attachment.ofRule, hparams]

/-- A mapping with one entry stands for the rule of that name. -/
theorem resolveAll_of_find? [Platform] {registry : Registry} {name : String} {rule ps : Value}
    (hfind : registry.find? name = some rule) {l : List Value} (hl : ps.items? = some l) :
    Spec.resolveAll registry (.list [.dict [(.text name, ps)]]) =
      (⟨[.named ⟨name, name, l, rule⟩], []⟩, []) := by
  have hentry : Spec.resolveEntry registry (.text name) ps =
      (.ofRule (.named ⟨name, name, l, rule⟩), []) := by
    rw [Spec.resolveEntry, hfind, hl]
  simp only [Spec.resolveAll, Value.items?, Option.getD_some, List.foldl_cons, List.foldl_nil,
    Spec.resolve, hentry]
  rfl

/-- A request for a rule that is given itself, with its parameters. -/
def forFixed (s : StandardRule) (l : List Value) : Request :=
  { r with rules := .list [.bound (.rule s) l] }

/-- A request for the rule of a name with some parameters. -/
def forNamed (s : StandardRule) (ps : Value) : Request :=
  { r with rules := .list [.dict [(.text s.name, ps)]] }

/-- **An attachment with parameters and the rule of its name with these parameters say the same.**
Whatever value is validated by one of them, under bundled messages in any language, there is nothing
to object to it in both cases, or the message is the same. -/
theorem told_factory [Platform] {name : String} {s : StandardRule}
    (hs : (name, s) ∈ Attachment.factories) (hfind : registry.find? s.name = some (.rule s))
    {ps : Value} {l : List Value} (hl : ps.items? = some l) (cur fb : String) :
    ∃ specs, Attachment.factory? name ps = some specs ∧
      told ({ r with rules := .list specs }.run host registry (.bundled cur fb)).result =
        told ({ r with rules := .list [.dict [(.text s.name, ps)]] }.run host registry
          (.bundled cur fb)).result := by
  refine ⟨_, factory?_eq hs hl, ?_⟩
  have hrenamed : RuleContext.Renamed
      { (r.forFixed s l).contextFor (.bundled cur fb) (.bare (.bound (.rule s) l)) with
        params := l }
      ((r.forNamed s ps).contextFor (.bundled cur fb) (.named ⟨s.name, s.name, l, .rule s⟩)) :=
    ⟨rfl, rfl, rfl, rfl, cur, fb, rfl⟩
  obtain ⟨hsame, hspeaks⟩ := hrenamed.coincide_judge (List.mem_map_of_mem hs)
  have hfixed := told_run (r.forFixed s l) host registry (.bundled cur fb) _ rfl rfl hspeaks
  have hnamed := told_run (r.forNamed s ps) host registry (.bundled cur fb) _
    (resolveAll_of_find? hfind hl) rfl (hsame ▸ hspeaks)
  exact hfixed.trans ((congrArg toldOf hsame.symm).trans hnamed.symm)

end Told

/-! ### A text that is too short -/

namespace Short

open scoped Platform

/-- A text of two characters. -/
def request : Request where
  value := .text "ab"
  rules := .null
  fieldName := .text "name"
  context := .null
  extra := []

def rules : Registry := ⟨[("MinLength", .rule .minLength)], []⟩

/-- No caller. -/
def nobody : Host where
  call := fun _ _ ↦ ⟨none, .ok .null⟩
  build := fun _ _ _ _ ↦ .ok .null
  isBuilder := fun _ ↦ false

/-- A text that is too short is refused in both cases, with the message that tells how long it has
to be. -/
theorem told_factory_short :
    ("HasMinLength", StandardRule.minLength) ∈ Attachment.factories ∧
      rules.find? StandardRule.minLength.name = some (.rule .minLength) ∧
      (Value.list [.int 3]).items? = some [.int 3] ∧
      ∃ specs, Attachment.factory? "HasMinLength" (.list [.int 3]) = some specs ∧
        told ({ request with rules := .list specs }.run nobody rules (.bundled "fr" "en")).result =
          told ((request.forNamed .minLength (.list [.int 3])).run nobody rules
            (.bundled "fr" "en")).result ∧
        (told ((request.forNamed .minLength (.list [.int 3])).run nobody rules
          (.bundled "fr" "en")).result).bind Except.toOption =
            some "Ce champ doit contenir au moins 3 caractères" := by
  have hmem : ("HasMinLength", StandardRule.minLength) ∈ Attachment.factories := by decide
  have hitems : (Value.list [.int 3]).items? = some [.int 3] := rfl
  obtain ⟨specs, hspecs, htold⟩ := told_factory request nobody rules hmem rfl hitems "fr" "en"
  exact ⟨hmem, rfl, hitems, specs, hspecs, htold, by decide +kernel⟩

end Short

end Request
end Rulebook
