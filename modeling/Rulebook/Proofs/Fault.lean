import Rulebook.Proofs.Placeholder
import Rulebook.Proofs.Plain

/-!
# What a standard rule can fail with

With bundled messages, a standard rule comes to a verdict on plain values, whatever they are, but for a
few values at a limit (`StandardRule.CanFail`).  Which values of the request matter for this depends on
what the rule does with them: it takes some as numbers (`StandardRule.numbers`), shows some in messages
(`StandardRule.shown`), writes some as JSON (`StandardRule.serialized`) and compares some
(`StandardRule.compared`).  Two rules read a text that may be beyond what can be read: a JSON document,
or a pattern.

Everything else in the request, such as the name of the field, does not matter at all, since no bundled
message shows it.
-/

set_option autoImplicit false

namespace Rulebook

open Template

/-- The items of the value, if it is a list or a tuple. -/
def RuleContext.items (ctx : RuleContext) : List Value := ctx.value.items?.getD []

namespace StandardRule

/-! ## What a rule does with values -/

/-- The values that a rule takes as numbers. -/
def numbers (s : StandardRule) (ctx : RuleContext) : List Value :=
  match s with
  | integer => [ctx.value]
  | numberLessThan | numberLessThanOrEquals | numberGreaterThan | numberGreaterThanOrEquals
  | numberEquals | numberIsDifferentFrom => ctx.value :: ctx.params.take 1
  | numberBetween | decimalPlaces => ctx.value :: ctx.params.take 2
  | length => ctx.params.take 2
  | minLength | maxLength | arrayMinLength | arrayMaxLength | arrayLength => ctx.params.take 1
  | _ => []

/-- The values that a rule shows in a message. -/
def shown (s : StandardRule) (ctx : RuleContext) : List Value :=
  match s with
  | numberLessThan | numberLessThanOrEquals | numberGreaterThan | numberGreaterThanOrEquals
  | numberEquals | numberIsDifferentFrom | numberBetween | startsWithOneOf | endsWithOneOf | regex
  | decimalPlaces | arrayMinLength | arrayMaxLength | arrayLength | arrayContains => ctx.params
  | _ => []

/-- The values that a rule writes as JSON to compare them. -/
def serialized (s : StandardRule) (ctx : RuleContext) : List Value :=
  match s with
  | arrayContains => (ctx.items ++ ctx.params).filter Value.isContainer
  | arrayUnique => ctx.items.filter Value.isContainer
  | _ => []

/-- The values that a rule compares with each other. -/
def compared (s : StandardRule) (ctx : RuleContext) : List Value :=
  match s with
  | arrayContains => ctx.items ++ ctx.params
  | arrayUnique => ctx.items
  | _ => []

/-- A failure that a rule can end with. -/
inductive CanFail [Platform] (s : StandardRule) (ctx : RuleContext) : Failure → Prop
  /-- An integer that is taken as a number is beyond all doubles. -/
  | tooLarge {n : Int} (hn : .int n ∈ s.numbers ctx) (h : Double.ofInt? n = none) :
      CanFail s ctx .integerTooLarge
  /-- What is taken as a number is a signalling not-a-number. -/
  | signallingNumber {v : Value} (hv : v ∈ s.numbers ctx) (h : v.isSignalling = true) :
      CanFail s ctx .signallingNaN
  /-- An integer in a value that is shown or written as JSON has too many digits. -/
  | tooLong {v : Value} {n : Int} {d : Nat} (hv : v ∈ s.shown ctx ++ s.serialized ctx)
      (hn : (Value.int n).Within d v) (h : IsLong n) : CanFail s ctx .integerTooLong
  /-- Something lies deeper in a value that is shown than the platform goes. -/
  | shownTooDeep {v w : Value} {d : Nat} (hv : v ∈ s.shown ctx) (hw : w.Within d v)
      (h : Platform.shownDepth < d) : CanFail s ctx (.nestedTooDeep .shown)
  /-- A container or a value without a JSON form lies deeper in a value that is written as JSON than the
  platform goes. -/
  | writtenTooDeep {v w : Value} {d : Nat} (hv : v ∈ s.serialized ctx) (hw : w.Within d v)
      (hlevel : w.takesLevel = true) (h : Platform.writtenDepth ≤ d) :
      CanFail s ctx (.nestedTooDeep .written)
  /-- What is compared is a signalling not-a-number. -/
  | signallingItem {v : Value} (hv : v ∈ s.compared ctx) (h : v.isSignalling = true) :
      CanFail s ctx .signallingComparison
  /-- The JSON document is nested too deep. -/
  | tooDeep {document : String} {object : Bool} (hs : s = json) (hv : ctx.value = .text document)
      (h : Json.document document = .error (.nestedTooDeep object)) :
      CanFail s ctx (.nestedTooDeep (.read object))
  /-- The pattern asks for something that patterns do not support, or is nested too deep. -/
  | unsupported {pattern : String} {fault : Pattern.Fault} {f : Failure} (hs : s = regex)
      (hp : ctx.params.head? = some (.text pattern)) (hread : Pattern.read pattern = .error fault)
      (h : fault.failure? = some f) : CanFail s ctx f

end StandardRule

namespace RuleContext

variable {P : Failure → Prop} {ctx : RuleContext} {cur fb : String} {names : List String}
  {ps : List Entry}

/-! ## Numbers among the parameters -/

theorem failsOnly_firstNumber (h : ∀ p ∈ ctx.params.take 1, FailsOnly P p.toNumber) :
    FailsOnly P ctx.firstNumber := by
  rw [firstNumber]
  split
  · exact failsOnly_ok _
  · rename_i p r hps
    exact h p (by simp [hps])

theorem exists_of_firstNumber {x : Double} (h : ctx.firstNumber = .ok (some x)) :
    ∃ p ∈ ctx.params, p.toNumber = .ok (some x) := by
  rw [firstNumber] at h
  split at h
  · cases h
  · rename_i p r hps
    exact ⟨p, hps ▸ List.mem_cons_self, h⟩

theorem failsOnly_numberAt {i : Nat} (hi : i < 2)
    (h : ∀ p ∈ ctx.params.take 2, FailsOnly P p.toNumber) : FailsOnly P (ctx.numberAt i) := by
  rw [numberAt]
  split
  · exact failsOnly_ok _
  · rename_i p hp
    refine h p (List.mem_of_getElem? (i := i) ?_)
    rw [List.getElem?_take_of_lt hi, hp]

theorem failsOnly_bound (h : ∀ p ∈ ctx.params.take 1, FailsOnly P p.toNumber) :
    FailsOnly P ctx.bound := by
  refine (failsOnly_firstNumber h).bind fun x _ ↦ ?_
  cases x <;> exact failsOnly_ok _

theorem failsOnly_naturalParam (h : ∀ p ∈ ctx.params.take 1, FailsOnly P p.toNumber) :
    FailsOnly P ctx.naturalParam := by
  refine (failsOnly_firstNumber h).bind fun x _ ↦ ?_
  split <;> exact failsOnly_ok _

/-- A natural number that a parameter stands for can be shown. -/
theorem succeeds_display_naturalParam [Platform] (hparams : ∀ p ∈ ctx.params, p.IsPlain) {n : Nat}
    (h : ctx.naturalParam = .ok (some n)) : Succeeds (Value.display (.int n)) := by
  obtain ⟨x, hx, h⟩ := bind_eq_ok h
  split at h
  · rename_i k hk
    obtain ⟨y, rfl, hk⟩ := Option.bind_eq_some_iff.mp hk
    obtain ⟨p, hp, hy⟩ := exists_of_firstNumber hx
    have hbound := Double.natAbs_lt_of_toInt? ((hparams p hp).isValid_of_toNumber hy) hk
    split at h
    · cases h
    · obtain rfl := Option.some.inj (Except.ok.inj h)
      refine succeeds_showInteger_iff.mpr (not_isLong_of_lt ?_)
      omega
  · cases h

/-- The text of a number can be made. -/
theorem succeeds_numeralText [Platform] {x : Double} (hx : ctx.value.toNumber = .ok (some x)) :
    Succeeds ctx.numeralText := by
  rw [numeralText.eq_def]
  split
  · exact succeeds_ok _
  · exact succeeds_bind_pure_iff.mpr (Value.succeeds_display_of_toNumber hx)

/-- Of at most two bounds, the first and the last are all. -/
theorem exists_number_of_mem_bounds {bounds : List Value} {numbers : List (Option Double)}
    (hlength : bounds.length ≤ 2)
    (h : List.Forall₂ (fun p n ↦ Value.toNumber p = .ok n) bounds numbers) {low high : Double}
    (hlow : numbers.head?.join = some low) (hhigh : numbers.getLast?.join = some high) :
    ∀ p ∈ bounds, ∃ x, p.toNumber = .ok (some x) := by
  rcases h with _ | ⟨hp, _ | ⟨hq, _ | _⟩⟩
  · nofun
  · exact List.forall_mem_singleton.mpr ⟨low, hlow ▸ hp⟩
  · exact List.forall_mem_cons.mpr ⟨⟨low, hlow ▸ hp⟩, List.forall_mem_singleton.mpr ⟨high, hhigh ▸ hq⟩⟩
  · simp at hlength

/-! ## Items -/

theorem isPlain_of_mem_items (hvalue : ctx.value.IsPlain) {v : Value} (hv : v ∈ ctx.items) :
    v.IsPlain := by
  rw [items] at hv
  cases hitems : ctx.value.items? with
  | none =>
    rw [hitems] at hv
    cases hv
  | some xs =>
    rw [hitems] at hv
    exact hvalue.of_mem_items hitems hv

section Items

variable [Platform]
variable {xs : List Value} (hplain : ∀ v ∈ xs, v.IsPlain)
include hplain

/-- Only containers are written to be compared. -/
theorem failsOnly_comparable_of_mem
    (hserializable : ∀ v ∈ xs.filter Value.isContainer,
      Value.Serializable P Platform.writtenDepth v) :
    ∀ v ∈ xs, FailsOnly P v.comparable :=
  fun v hv ↦ (hplain v hv).failsOnly_comparable fun hc ↦
    hserializable v (List.mem_filter.mpr ⟨hv, hc⟩)

theorem comparable_of_mem
    (hquiet : ∀ v ∈ xs, v.isSignalling = true → P .signallingComparison) :
    ∀ v ∈ xs, ∀ key, v.comparable = .ok key → Value.Comparable P key :=
  fun v hv _ ↦ (hplain v hv).comparable_of_eq_ok (hquiet v hv)

end Items

/-! ## Rules -/

section Rules

variable [Platform]
variable (ht : ctx.translator = some (.bundled cur fb))
include ht

/-- A message that does not show the parameters of the rule as such. -/
theorem failsOnly_message (key : String) (hkey : Catalog.placeholders.lookup key = some names)
    (hsilent : "ruleParams" ∉ names) (hps : Showable P names ps) {f : String → Verdict} :
    FailsOnly P (ctx.translate ("validator." ++ key) ps >>= fun m ↦ pure (f m)) :=
  (failsOnly_translate_bundled ht key hkey (fun h ↦ absurd h hsilent) hps).bind
    fun _ _ ↦ failsOnly_ok _

theorem failsOnly_require (key : String) (condition : Bool)
    (hkey : Catalog.placeholders.lookup key = some []) :
    FailsOnly P (ctx.require condition ("validator." ++ key)) := by
  rw [require]
  split
  · exact failsOnly_ok _
  · exact failsOnly_message ht key hkey List.not_mem_nil .nil

theorem failsOnly_rejectParams (rule : String)
    (hparams : FailsOnly P (parameterText (.list ctx.params))) :
    FailsOnly P (ctx.rejectParams rule) := by
  refine (failsOnly_translate_bundled ht "invalidRuleParams" rfl (fun _ ↦ hparams) ?_).bind
    fun _ _ ↦ failsOnly_ok _
  exact Showable.nil.cons _ (failsOnly_ok _)

/-! ### Numbers -/

theorem failsOnly_compare (key : String) (holds : Double → Double → Bool)
    (hkey : Catalog.placeholders.lookup key = some ["ruleParams"])
    (hparams : FailsOnly P (parameterText (.list ctx.params)))
    (hnumbers : ∀ v ∈ ctx.value :: ctx.params.take 1, FailsOnly P v.toNumber) :
    FailsOnly P (ctx.compare holds ("validator." ++ key)) := by
  obtain ⟨hvalue, hfirst⟩ := List.forall_mem_cons.mp hnumbers
  refine (failsOnly_translate_bundled ht key hkey (fun _ ↦ hparams) .nil).bind fun message _ ↦ ?_
  refine hvalue.bind fun x _ ↦ ?_
  cases x with
  | none => exact failsOnly_ok _
  | some x =>
    refine (failsOnly_firstNumber hfirst).bind fun y _ ↦ ?_
    cases y <;> exact failsOnly_ok _

theorem failsOnly_integer (hvalue : FailsOnly P ctx.value.toNumber) : FailsOnly P ctx.integer :=
  hvalue.bind fun _ _ ↦ failsOnly_require ht "integer" _ rfl

/-- Bounds that are shown are numbers. -/
theorem failsOnly_numberBetween (hparams : FailsOnly P (parameterText (.list ctx.params)))
    (hnumbers : ∀ v ∈ ctx.value :: ctx.params.take 2, FailsOnly P v.toNumber) :
    FailsOnly P ctx.numberBetween := by
  have hreject := failsOnly_rejectParams ht "NumberBetween" hparams
  obtain ⟨hvalue, hbounds⟩ := List.forall_mem_cons.mp hnumbers
  rw [numberBetween]
  generalize hps : ctx.params = params at hbounds
  match params with
  | [] | [_] => exact hreject
  | low :: high :: _ =>
    refine hvalue.bind fun x _ ↦ ?_
    cases x with
    | none => exact failsOnly_message ht "number" rfl (by decide) .nil
    | some x =>
      refine (hbounds low (by simp)).bind fun a ha ↦ (hbounds high (by simp)).bind fun b hb ↦ ?_
      cases a with
      | none => exact hreject
      | some a =>
        cases b with
        | none => exact hreject
        | some b =>
          dsimp only
          split
          · exact failsOnly_ok _
          · have hlow := succeeds_parameterText (Value.succeeds_display_of_toNumber ha)
            have hhigh := succeeds_parameterText (Value.succeeds_display_of_toNumber hb)
            exact failsOnly_message ht "numberBetween" rfl (by decide)
              ((Showable.nil.cons _ hhigh.failsOnly).cons _ hlow.failsOnly)

/-- Numbers of places that are shown are numbers. -/
theorem failsOnly_decimalPlaces (hparams : FailsOnly P (parameterText (.list ctx.params)))
    (hnumbers : ∀ v ∈ ctx.value :: ctx.params.take 2, FailsOnly P v.toNumber) :
    FailsOnly P ctx.decimalPlaces := by
  have hreject := failsOnly_rejectParams ht "DecimalPlaces" hparams
  obtain ⟨hvalue, hbounds⟩ := List.forall_mem_cons.mp hnumbers
  rw [decimalPlaces]
  dsimp only
  split
  · exact hreject
  · refine hvalue.bind fun x hx ↦ ?_
    cases x with
    | none => exact failsOnly_message ht "number" rfl (by decide) .nil
    | some x =>
      refine (succeeds_numeralText hx).failsOnly.bind fun cs _ ↦ ?_
      refine (failsOnly_mapM hbounds).bind fun numbers hmapM ↦ ?_
      split
      · rename_i low high hlow hhigh
        have hnumber := exists_number_of_mem_bounds (List.length_take_le 2 ctx.params)
          (mapM_eq_ok_iff.mp hmapM) hlow hhigh
        refine (failsOnly_mapM fun p hp ↦ ?_).bind fun shown _ ↦ ?_
        · obtain ⟨y, hy⟩ := hnumber p hp
          exact (Value.succeeds_display_of_toNumber hy).failsOnly
        · exact failsOnly_message ht "decimalPlaces" rfl (by decide)
            ((Showable.nil.skip (by decide) _).cons _ (failsOnly_ok _))
      · exact hreject

/-! ### Lengths -/

theorem failsOnly_length (hnumbers : ∀ p ∈ ctx.params.take 2, FailsOnly P p.toNumber) :
    FailsOnly P ctx.length := by
  refine (failsOnly_numberAt (by decide) hnumbers).bind fun low _ ↦
    (failsOnly_numberAt (by decide) hnumbers).bind fun high _ ↦ ?_
  cases low with
  | none => exact failsOnly_ok _
  | some low =>
    cases high with
    | none =>
      exact failsOnly_message ht "length" rfl (by decide)
        (Showable.nil.cons _ (failsOnly_ok _))
    | some high =>
      exact failsOnly_message ht "lengthRange" rfl (by decide)
        ((Showable.nil.cons _ (failsOnly_ok _)).cons _ (failsOnly_ok _))

theorem failsOnly_boundLength (key : String) (holds : Nat → Double → Bool) {param : String}
    (hkey : Catalog.placeholders.lookup key = some names) (hsilent : "ruleParams" ∉ names)
    (hnumbers : ∀ p ∈ ctx.params.take 1, FailsOnly P p.toNumber) :
    FailsOnly P (ctx.boundLength holds ("validator." ++ key) param) := by
  refine (failsOnly_bound hnumbers).bind fun limit _ ↦ ?_
  split
  · exact failsOnly_ok _
  · exact failsOnly_message ht key hkey hsilent (Showable.nil.cons _ (failsOnly_ok _))

/-- A number of items that is shown comes from a number; how many items there are is not shown. -/
theorem failsOnly_itemCount (key : String) (holds : Nat → Nat → Bool) (rule : String) {param : String}
    (hplain : ∀ p ∈ ctx.params, p.IsPlain) (hkey : Catalog.placeholders.lookup key = some [param])
    (hsilent : "ruleParams" ∉ [param]) (hactual : "actualLength" ∉ [param])
    (hparams : FailsOnly P (parameterText (.list ctx.params)))
    (hnumbers : ∀ p ∈ ctx.params.take 1, FailsOnly P p.toNumber) :
    FailsOnly P (ctx.itemCount holds rule ("validator." ++ key) param) := by
  rw [itemCount]
  split
  · exact failsOnly_message ht "array" rfl (by decide) .nil
  · refine (failsOnly_naturalParam hnumbers).bind fun limit hlimit ↦ ?_
    cases limit with
    | none => exact failsOnly_rejectParams ht rule hparams
    | some limit =>
      dsimp only
      split
      · exact failsOnly_ok _
      · have hshown := succeeds_parameterText (succeeds_display_naturalParam hplain hlimit)
        exact failsOnly_message ht key hkey hsilent
          ((Showable.nil.skip hactual _).cons _ hshown.failsOnly)

/-! ### Forms -/

theorem failsOnly_optionalForm (key : String) (p : Pattern)
    (hkey : Catalog.placeholders.lookup key = some []) :
    FailsOnly P (ctx.optionalForm p ("validator." ++ key)) := by
  rw [optionalForm]
  split
  · exact failsOnly_require ht key _ hkey
  · exact failsOnly_ok _

theorem failsOnly_fileName : FailsOnly P ctx.fileName := by
  exact failsOnly_message ht "fileName" rfl (by decide) .nil

theorem failsOnly_json (hdeep : ∀ document object, ctx.value = .text document →
    Json.document document = .error (.nestedTooDeep object) →
      P (.nestedTooDeep (.read object))) :
    FailsOnly P ctx.json := by
  rw [json]
  split
  · rename_i document hdocument
    refine FailsOnly.bind ?_ fun _ _ ↦ failsOnly_require ht "json" _ rfl
    rw [Json.isDocument]
    split
    · exact failsOnly_ok _
    · exact failsOnly_ok _
    · rename_i object hread
      exact failsOnly_error (hdeep document object hdocument hread)
  · exact FailsOnly.bind (failsOnly_ok _) fun _ _ ↦ failsOnly_require ht "json" _ rfl

theorem failsOnly_regex (hparams : FailsOnly P (parameterText (.list ctx.params)))
    (hread : ∀ pattern fault f, ctx.params.head? = some (.text pattern) →
      Pattern.read pattern = .error fault → fault.failure? = some f → P f) :
    FailsOnly P ctx.regex := by
  have hreject := failsOnly_rejectParams ht "Regex" hparams
  rw [regex]
  split
  · rename_i pattern hpattern
    split
    · exact hreject
    · refine FailsOnly.bind ?_ fun p _ ↦ ?_
      · rw [Pattern.ofText?]
        split
        · exact failsOnly_ok _
        · rename_i fault hfault
          split
          · exact failsOnly_ok _
          · rename_i f hf
            exact failsOnly_error (hread pattern fault f hpattern hfault hf)
      · cases p with
        | none => exact hreject
        | some p =>
          dsimp only
          split
          · exact failsOnly_ok _
          · exact failsOnly_message ht "regex" rfl (by decide)
              (Showable.nil.cons _ (failsOnly_ok _))
  · exact hreject

theorem failsOnly_affix (key : String) (isPart : List Char → List Char → Bool) (rule : String)
    {param : String} (hkey : Catalog.placeholders.lookup key = some names)
    (hsilent : "ruleParams" ∉ names) (hparams : FailsOnly P (parameterText (.list ctx.params))) :
    FailsOnly P (ctx.affix isPart rule ("validator." ++ key) param) := by
  rw [affix]
  split
  · exact failsOnly_rejectParams ht rule hparams
  · split
    · exact failsOnly_ok _
    · exact failsOnly_message ht key hkey hsilent (Showable.nil.cons _ hparams)

/-! ### Items -/

theorem failsOnly_arrayContains (hitems : ∀ v ∈ ctx.items, v.IsPlain)
    (hplain : ∀ p ∈ ctx.params, p.IsPlain)
    (hparams : FailsOnly P (parameterText (.list ctx.params)))
    (hserializable : ∀ v ∈ (ctx.items ++ ctx.params).filter Value.isContainer,
      Value.Serializable P Platform.writtenDepth v)
    (hquiet : ∀ v ∈ ctx.items ++ ctx.params, v.isSignalling = true → P .signallingComparison) :
    FailsOnly P ctx.arrayContains := by
  rw [List.filter_append] at hserializable
  obtain ⟨hwrittenItems, hwrittenParams⟩ := List.forall_mem_append.mp hserializable
  obtain ⟨hquietItems, hquietParams⟩ := List.forall_mem_append.mp hquiet
  refine (failsOnly_translate_bundled ht "arrayContains" rfl
    (fun h ↦ absurd h (by decide)) (Showable.nil.cons _ hparams)).bind fun message _ ↦ ?_
  cases hxs : ctx.value.items? with
  | none => exact failsOnly_ok _
  | some xs =>
    obtain rfl : ctx.items = xs := by rw [items, hxs, Option.getD_some]
    dsimp only
    split
    · exact failsOnly_rejectParams ht "ArrayContains" hparams
    · have hmembers := failsOnly_comparable_of_mem hitems hwrittenItems
      refine (failsOnly_mapM hmembers).bind fun members hmapM ↦ ?_
      refine FailsOnly.bind ?_ fun _ _ ↦ failsOnly_ok _
      refine Value.failsOnly_allMembers (fun _ _ ↦ Value.Comparable.failsOnly_equals) ?_
        (failsOnly_comparable_of_mem hplain hwrittenParams) (comparable_of_mem hplain hquietParams)
      intro key hkey
      obtain ⟨v, hv, hok⟩ := Value.exists_mem_of_forall₂ (mapM_eq_ok_iff.mp hmapM).flip hkey
      exact comparable_of_mem hitems hquietItems v hv key hok

theorem failsOnly_arrayUnique (hitems : ∀ v ∈ ctx.items, v.IsPlain)
    (hserializable : ∀ v ∈ ctx.items.filter Value.isContainer,
      Value.Serializable P Platform.writtenDepth v)
    (hquiet : ∀ v ∈ ctx.items, v.isSignalling = true → P .signallingComparison) :
    FailsOnly P ctx.arrayUnique := by
  refine (failsOnly_translate_bundled ht "arrayUnique" rfl nofun .nil).bind
    fun message _ ↦ ?_
  cases hxs : ctx.value.items? with
  | none => exact failsOnly_ok _
  | some xs =>
    obtain rfl : ctx.items = xs := by rw [items, hxs, Option.getD_some]
    refine FailsOnly.bind ?_ fun _ _ ↦ failsOnly_ok _
    exact Value.failsOnly_allDistinct (fun _ _ ↦ Value.Comparable.failsOnly_equals) nofun
      (failsOnly_comparable_of_mem hitems hserializable) (comparable_of_mem hitems hquiet)

/-! ### All rules -/

/-- **With bundled messages a standard rule comes to a verdict on plain values,** unless one of the
values that it looks at is at a limit. -/
theorem failsOnly_judge (hvalue : ctx.value.IsPlain) (hplain : ∀ p ∈ ctx.params, p.IsPlain)
    (s : StandardRule) : FailsOnly (s.CanFail ctx) (s.judge ctx) := by
  have hitems : ∀ v ∈ ctx.items, v.IsPlain := fun v ↦ isPlain_of_mem_items hvalue
  have hnumbers : ∀ v ∈ s.numbers ctx, FailsOnly (s.CanFail ctx) v.toNumber := fun v hv ↦
    Value.Numerical.failsOnly_toNumber ⟨fun n hn ↦ .tooLarge (hn ▸ hv), .signallingNumber hv⟩
  have hprintable : ∀ v ∈ s.shown ctx, v.Printable (s.CanFail ctx) Platform.shownDepth :=
    fun v hv ↦ ⟨fun _ _ ↦ .tooLong (List.mem_append_left _ hv), fun _ _ ↦ .shownTooDeep hv⟩
  have hserializable : ∀ v ∈ s.serialized ctx,
      v.Serializable (s.CanFail ctx) Platform.writtenDepth :=
    fun v hv ↦ ⟨fun _ _ ↦ .tooLong (List.mem_append_right _ hv), fun _ _ ↦ .writtenTooDeep hv⟩
  have hcompared : ∀ v ∈ s.compared ctx, v.isSignalling = true →
      s.CanFail ctx .signallingComparison := fun v hv ↦ .signallingItem hv
  have hparams : ctx.params ⊆ s.shown ctx →
      FailsOnly (s.CanFail ctx) (parameterText (.list ctx.params)) := fun h ↦
    Value.IsPlain.failsOnly_parameterText_list hplain fun p hp ↦ hprintable p (h hp)
  have hself := List.Subset.refl ctx.params
  cases s with
  | required => exact failsOnly_require ht "required" _ rfl
  | nullable | empty | sometimes => exact failsOnly_ok _
  | number => exact failsOnly_require ht "number" _ rfl
  | integer => exact failsOnly_integer ht (hnumbers _ List.mem_cons_self)
  | numberBetween => exact failsOnly_numberBetween ht (hparams hself) hnumbers
  | numberLessThan =>
    exact failsOnly_compare ht "numberLessThan" _ rfl (hparams hself) hnumbers
  | numberLessThanOrEquals =>
    exact failsOnly_compare ht "numberLessThanOrEquals" _ rfl (hparams hself) hnumbers
  | numberGreaterThan =>
    exact failsOnly_compare ht "numberGreaterThan" _ rfl (hparams hself) hnumbers
  | numberGreaterThanOrEquals =>
    exact failsOnly_compare ht "numberGreaterThanOrEquals" _ rfl (hparams hself) hnumbers
  | numberEquals =>
    exact failsOnly_compare ht "numberEquals" _ rfl (hparams hself) hnumbers
  | numberIsDifferentFrom =>
    exact failsOnly_compare ht "numberIsDifferentFrom" _ rfl (hparams hself) hnumbers
  | string => exact failsOnly_require ht "string" _ rfl
  | nonNullString => exact failsOnly_require ht "nonNullString" _ rfl
  | length => exact failsOnly_length ht hnumbers
  | minLength => exact failsOnly_boundLength ht "minLength" _ rfl (by decide) hnumbers
  | maxLength => exact failsOnly_boundLength ht "maxLength" _ rfl (by decide) hnumbers
  | startsWithOneOf =>
    exact failsOnly_affix ht "startsWithOneOf" _ _ rfl (by decide) (hparams hself)
  | endsWithOneOf =>
    exact failsOnly_affix ht "endsWithOneOf" _ _ rfl (by decide) (hparams hself)
  | email => exact failsOnly_optionalForm ht "email" _ rfl
  | url => exact failsOnly_optionalForm ht "url" _ rfl
  | fileName => exact failsOnly_fileName ht
  | uuid => exact failsOnly_require ht "uuid" _ rfl
  | json => exact failsOnly_json ht fun _ _ ↦ .tooDeep rfl
  | hexColor => exact failsOnly_require ht "hexColor" _ rfl
  | regex => exact failsOnly_regex ht (hparams hself) fun _ _ _ ↦ .unsupported rfl
  | decimalPlaces => exact failsOnly_decimalPlaces ht (hparams hself) hnumbers
  | array => exact failsOnly_require ht "array" _ rfl
  | arrayMinLength =>
    exact failsOnly_itemCount ht "arrayMinLength" (fun n limit ↦ decide (limit ≤ n)) _
      hplain rfl (by decide) (by decide) (hparams hself) hnumbers
  | arrayMaxLength =>
    exact failsOnly_itemCount ht "arrayMaxLength" (fun n limit ↦ decide (n ≤ limit)) _
      hplain rfl (by decide) (by decide) (hparams hself) hnumbers
  | arrayLength =>
    exact failsOnly_itemCount ht "arrayLength" _ _ hplain rfl (by decide) (by decide)
      (hparams hself) hnumbers
  | arrayContains =>
    exact failsOnly_arrayContains ht hitems hplain (hparams hself) hserializable hcompared
  | arrayUnique => exact failsOnly_arrayUnique ht hitems hserializable hcompared

end Rules

open scoped Platform in
/-- A list of a text, a number and a list, of which the last is asked for: nothing in it is at a limit,
so there is a verdict. -/
theorem succeeds_judge_arrayContains :
    Succeeds (StandardRule.arrayContains.judge
      ((bare (.list [.text "a", .int 7, .list [.null]]) [.list [.null]]).speaking
        (.bundled "en" "de"))) := by
  have hlist : (Value.list [.null]).IsPlain := .list (List.forall_mem_singleton.mpr .null)
  have hvalue : (Value.list [.text "a", .int 7, .list [.null]]).IsPlain := .list <| by
    simp only [List.forall_mem_cons, List.not_mem_nil, false_imp_iff, implies_true, and_true]
    exact ⟨.text "a", .int 7, hlist⟩
  have hwithin : ∀ {w v : Value} {d : Nat}, v = .list [.null] → w.Within d v →
      w = .list [.null] ∧ d = 0 ∨ w = .null ∧ d = 1 := by
    rintro w _ d rfl (_ | ⟨hx, hw⟩)
    · exact .inl ⟨rfl, rfl⟩
    · obtain rfl := List.mem_singleton.mp hx
      obtain ⟨rfl, rfl⟩ := (Value.within_scalar_iff rfl).mp hw
      exact .inr ⟨rfl, rfl⟩
  refine FailsOnly.succeeds (FailsOnly.mono (failsOnly_judge rfl hvalue
    (List.forall_mem_singleton.mpr hlist) .arrayContains) fun f hf ↦ ?_)
  cases hf with
  | tooLarge hn => cases hn
  | signallingNumber hv => cases hv
  | @tooLong v n d hv hn =>
    have hv : v ∈ [Value.list [.null], .list [.null], .list [.null]] := hv
    obtain ⟨⟨⟩, -⟩ | ⟨⟨⟩, -⟩ := hwithin (by simpa using hv) hn
  | shownTooDeep hv hw h =>
    obtain ⟨-, rfl⟩ | ⟨-, rfl⟩ := hwithin (List.mem_singleton.mp hv) hw
    all_goals exact absurd h (by decide)
  | @writtenTooDeep v w d hv hw _ h =>
    have hv : v ∈ [Value.list [.null], .list [.null]] := hv
    obtain ⟨-, rfl⟩ | ⟨-, rfl⟩ := hwithin (by simpa using hv) hw
    all_goals exact absurd h (by decide)
  | @signallingItem v hv h =>
    have hquiet : ∀ v ∈ [Value.text "a", .int 7, .list [.null], .list [.null]],
        v.isSignalling = false := by decide
    exact Bool.false_ne_true ((hquiet v hv).symm.trans h)
  | tooDeep hs => cases hs
  | unsupported hs => cases hs

open scoped Platform in
/-- A pattern with a repetition count beyond what patterns support is neither searched for nor refused
as a parameter. -/
theorem not_forall_succeeds_judge :
    ¬ ∀ (s : StandardRule) (ctx : RuleContext) (cur fb : String),
      ctx.translator = some (.bundled cur fb) → ctx.value.IsPlain →
        (∀ p ∈ ctx.params, p.IsPlain) → Succeeds (s.judge ctx) := by
  intro hall
  have hread : (match Pattern.ofText? "x\x7b4294967296\x7d" with
      | .error .repetitionTooLarge => true
      | _ => false) = true := by
    decide +kernel
  obtain ⟨verdict, hverdict⟩ := hall .regex
    ((bare (.text "a") [.text "x\x7b4294967296\x7d"]).speaking (.bundled "en" "en")) "en" "en" rfl
    (.text "a") (List.forall_mem_singleton.mpr (.text _))
  obtain ⟨p, hp, -⟩ := bind_eq_ok (x := Pattern.ofText? "x\x7b4294967296\x7d") hverdict
  rw [hp] at hread
  cases hread

end RuleContext
end Rulebook
