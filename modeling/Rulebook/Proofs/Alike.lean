import Rulebook.Proofs.Data

/-!
# Rules that see the same

Two contexts are alike for a rule (`RuleContext.Alike`) when the rule sees the same value and the same
parameters in them, all of them data, and comes to the same messages.  Then every standard rule comes
to the same judgement, and if it fails, it is not with a failure of the caller's
(`RuleContext.twin_judge`).  The names of the field may be different ones.

Both are carried through a rule together: the computations on the two sides are twins (`Twin`), the
same computation, which does not fail in a way of the caller's.
-/

set_option autoImplicit false

namespace Rulebook

/-! ## Twins -/

/-- Two computations that are the same and do not fail with a failure of the caller's. -/
structure Twin {α : Type} (x y : Except Failure α) : Prop where
  eq : y = x
  own : FailsOnly Failure.IsOwn x

section Twin

variable {α β : Type} {x y : Except Failure α} {f g : α → Except Failure β}

theorem twin_self (h : FailsOnly Failure.IsOwn x) : Twin x x := ⟨rfl, h⟩

theorem twin_ok (a : α) : Twin (.ok a : Except Failure α) (.ok a) := twin_self (failsOnly_ok a)

theorem Twin.bind (h : Twin x y) (hf : ∀ a, x = .ok a → Twin (f a) (g a)) :
    Twin (x >>= f) (y >>= g) := by
  obtain ⟨rfl, hown⟩ := h
  refine ⟨?_, hown.bind fun a ha ↦ (hf a ha).own⟩
  cases hy : y with
  | error e => rfl
  | ok a => exact (hf a hy).eq

theorem twin_mapM {f g : β → Except Failure α} {l : List β} (h : ∀ b ∈ l, Twin (f b) (g b)) :
    Twin (l.mapM f) (l.mapM g) := by
  induction l with
  | nil => exact twin_ok []
  | cons b r ih =>
    obtain ⟨hb, hr⟩ := List.forall_mem_cons.mp h
    rw [List.mapM_cons, List.mapM_cons]
    exact hb.bind fun _ _ ↦ (ih hr).bind fun _ _ ↦ twin_ok _

end Twin

/-! ## Data in messages -/

variable [Platform]

namespace Value

/-- Data can be put into a message, unless an integer in it has too many digits. -/
theorem IsData.failsOnly_parameterText {v : Value} (h : v.IsData) :
    FailsOnly Failure.IsOwn (Template.parameterText v) := by
  have hdisplay := h.failsOnly_display
  cases h with
  | null => exact failsOnly_ok _
  | list h =>
    exact (failsOnly_mapM fun x hx ↦ (h x hx).failsOnly_display).bind fun _ _ ↦ failsOnly_ok _
  | tuple h =>
    exact (failsOnly_mapM fun x hx ↦ (h x hx).failsOnly_display).bind fun _ _ ↦ failsOnly_ok _
  | _ => exact hdisplay

end Value

theorem Tells.data {params : List Entry} {name : String} {v : Value}
    (h : Tells Failure.IsOwn params) (hname : name ≠ "count") (hv : v.IsData) :
    Tells Failure.IsOwn ((.text name, v) :: params) :=
  h.cons hname hv.failsOnly_parameterText

/-! ## Contexts that are alike -/

namespace RuleContext

/-- Contexts that show a rule the same data and have the same messages. -/
structure Alike (c d : RuleContext) : Prop where
  value : d.value = c.value
  params : d.params = c.params
  isData : c.value.IsData
  areData : ∀ p ∈ c.params, p.IsData
  translate : ∀ name ps, Tells Failure.IsOwn ps →
    Twin (c.translate ("validator." ++ name) ps) (d.translate ("validator." ++ name) ps)

section Rules

variable {c d : RuleContext} (h : Alike c d)
include h

theorem twin_reject (name : String) {ps : List Entry} (hps : Tells Failure.IsOwn ps) :
    Twin (c.reject ("validator." ++ name) ps) (d.reject ("validator." ++ name) ps) :=
  (h.translate name ps hps).bind fun _ _ ↦ twin_ok _

theorem twin_require (condition : Bool) (name : String) :
    Twin (c.require condition ("validator." ++ name))
      (d.require condition ("validator." ++ name)) := by
  rw [require, require]
  split
  · exact twin_ok _
  · exact twin_reject h name tells_nil

theorem twin_rejectParams (rule : String) : Twin (c.rejectParams rule) (d.rejectParams rule) := by
  exact twin_reject h "invalidRuleParams" (tells_nil.data (by decide) (.text rule))

/-! ### Presence and kind -/

theorem twin_required : Twin c.required d.required := by
  rw [required, required, h.value]
  exact twin_require h _ "required"

theorem twin_string : Twin c.string d.string := by
  rw [string, string, h.value]
  exact twin_require h _ "string"

theorem twin_nonNullString : Twin c.nonNullString d.nonNullString := by
  rw [nonNullString, nonNullString, h.value]
  exact twin_require h _ "nonNullString"

theorem twin_array : Twin c.array d.array := by
  rw [array, array, h.value]
  exact twin_require h _ "array"

/-! ### Numbers -/

theorem twin_firstNumber : Twin c.firstNumber d.firstNumber := by
  rw [firstNumber, firstNumber, h.params]
  split
  · exact twin_ok _
  · exact twin_self (Value.failsOnly_toNumber _)

theorem twin_number : Twin c.number d.number := by
  rw [number, number, h.value]
  exact twin_require h _ "number"

theorem twin_integer : Twin c.integer d.integer := by
  rw [integer, integer, h.value]
  exact (twin_self (Value.failsOnly_toNumber _)).bind fun _ _ ↦ twin_require h _ "integer"

theorem twin_compare (holds : Double → Double → Bool) (name : String) :
    Twin (c.compare holds ("validator." ++ name)) (d.compare holds ("validator." ++ name)) := by
  refine (h.translate name [] tells_nil).bind fun message _ ↦ ?_
  rw [h.value]
  refine (twin_self (Value.failsOnly_toNumber _)).bind fun x _ ↦ ?_
  cases x with
  | none => exact twin_ok _
  | some x =>
    refine (twin_firstNumber h).bind fun y _ ↦ ?_
    cases y with
    | none => exact twin_ok _
    | some y => exact twin_ok _

theorem twin_numberBetween : Twin c.numberBetween d.numberBetween := by
  have hparams := twin_rejectParams h "NumberBetween"
  rw [numberBetween, numberBetween, h.value, h.params]
  have hdata := h.areData
  generalize c.params = ps at hdata
  match ps with
  | [] | [_] => exact hparams
  | low :: high :: _ =>
    refine (twin_self (Value.failsOnly_toNumber _)).bind fun x _ ↦ ?_
    cases x with
    | none => exact twin_reject h "number" tells_nil
    | some x =>
      refine (twin_self (Value.failsOnly_toNumber low)).bind fun a _ ↦ ?_
      refine (twin_self (Value.failsOnly_toNumber high)).bind fun b _ ↦ ?_
      cases a with
      | none => exact hparams
      | some a =>
        cases b with
        | none => exact hparams
        | some b =>
          simp only
          split
          · exact twin_ok _
          · have hlow := hdata low List.mem_cons_self
            have hhigh := hdata high (List.mem_cons_of_mem _ List.mem_cons_self)
            exact twin_reject h "numberBetween"
              ((tells_nil.data (by decide) hhigh).data (by decide) hlow)

/-! ### Forms -/

theorem twin_optionalForm (p : Pattern) (name : String) :
    Twin (c.optionalForm p ("validator." ++ name)) (d.optionalForm p ("validator." ++ name)) := by
  rw [optionalForm, optionalForm, h.value]
  split
  · exact twin_require h _ name
  · exact twin_ok _

theorem twin_form (p : Pattern) (name : String) :
    Twin (c.form p ("validator." ++ name)) (d.form p ("validator." ++ name)) := by
  rw [form, form, h.value]
  exact twin_require h _ name

theorem twin_fileName : Twin c.fileName d.fileName := by
  refine (h.translate "fileName" [] tells_nil).bind fun message _ ↦ ?_
  rw [h.value]
  exact twin_ok _

theorem twin_json : Twin c.json d.json := by
  rw [json, json, h.value]
  split
  · exact (twin_self (Json.failsOnly_isDocument _)).bind fun _ _ ↦ twin_require h _ "json"
  · exact (twin_ok false).bind fun _ _ ↦ twin_require h _ "json"

theorem twin_regex : Twin c.regex d.regex := by
  have hparams := twin_rejectParams h "Regex"
  rw [regex, regex, h.value, h.params]
  split
  · rename_i written _
    split
    · exact hparams
    · refine (twin_self (Pattern.failsOnly_ofText? written)).bind fun p _ ↦ ?_
      cases p with
      | none => exact hparams
      | some p =>
        simp only
        split
        · exact twin_ok _
        · exact twin_reject h "regex" (tells_nil.data (by decide) (.text written))
  · exact hparams

theorem twin_affix (isPart : List Char → List Char → Bool) (rule name param : String)
    (hparam : param ≠ "count") :
    Twin (c.affix isPart rule ("validator." ++ name) param)
      (d.affix isPart rule ("validator." ++ name) param) := by
  have haffixes : d.affixes = c.affixes := by rw [affixes, affixes, h.params]
  rw [affix, affix, haffixes, h.value, h.params]
  split
  · exact twin_rejectParams h rule
  · split
    · exact twin_ok _
    · exact twin_reject h name (tells_nil.data hparam (.list h.areData))

/-! ### Lengths -/

theorem twin_numberAt (i : Nat) : Twin (c.numberAt i) (d.numberAt i) := by
  rw [numberAt, numberAt, h.params]
  split
  · exact twin_ok _
  · exact twin_self (Value.failsOnly_toNumber _)

theorem twin_bound : Twin c.bound d.bound := by
  refine (twin_firstNumber h).bind fun x _ ↦ ?_
  cases x with
  | none => exact twin_ok _
  | some x => exact twin_ok _

theorem twin_naturalParam : Twin c.naturalParam d.naturalParam := by
  refine (twin_firstNumber h).bind fun x _ ↦ ?_
  split <;> exact twin_ok _

theorem twin_length : Twin c.length d.length := by
  rw [length, length, textOrEmpty, textOrEmpty, h.value]
  refine (twin_numberAt h 0).bind fun low _ ↦ (twin_numberAt h 1).bind fun high _ ↦ ?_
  cases low with
  | none => exact twin_ok _
  | some low =>
    cases high with
    | none =>
      exact (h.translate "length" _ (tells_nil.data (by decide) (.text _))).bind
        fun _ _ ↦ twin_ok _
    | some high =>
      exact (h.translate "lengthRange" _
        ((tells_nil.data (by decide) (.text _)).data (by decide) (.text _))).bind
        fun _ _ ↦ twin_ok _

theorem twin_boundLength (holds : Nat → Double → Bool) (name param : String)
    (hparam : param ≠ "count") :
    Twin (c.boundLength holds ("validator." ++ name) param)
      (d.boundLength holds ("validator." ++ name) param) := by
  refine (twin_bound h).bind fun limit _ ↦ ?_
  rw [h.value]
  split
  · exact twin_ok _
  · exact (h.translate name _ (tells_nil.data hparam (.text _))).bind fun _ _ ↦ twin_ok _

theorem twin_itemCount (holds : Nat → Nat → Bool) (rule name param : String)
    (hparam : param ≠ "count") :
    Twin (c.itemCount holds rule ("validator." ++ name) param)
      (d.itemCount holds rule ("validator." ++ name) param) := by
  rw [itemCount, itemCount, h.value]
  split
  · exact twin_reject h "array" tells_nil
  · refine (twin_naturalParam h).bind fun limit _ ↦ ?_
    cases limit with
    | none => exact twin_rejectParams h rule
    | some limit =>
      simp only
      split
      · exact twin_ok _
      · exact twin_reject h name
          ((tells_nil.data (by decide) (.int _)).data hparam (.int _))

/-! ### Items -/

theorem twin_arrayContains : Twin c.arrayContains d.arrayContains := by
  rw [arrayContains, arrayContains, h.value, h.params]
  refine (h.translate "arrayContains" _
    (tells_nil.data (by decide) (.list h.areData))).bind fun message _ ↦ ?_
  split
  · exact twin_ok _
  · rename_i items hitems
    split
    · exact twin_rejectParams h "ArrayContains"
    · refine (twin_mapM fun x hx ↦ twin_self ?_).bind fun members _ ↦ ?_
      · exact (h.isData.of_mem_items hitems hx).failsOnly_comparable
      · refine (twin_self ?_).bind fun _ _ ↦ twin_ok _
        exact Value.failsOnly_allMembers (R := fun _ ↦ True) (fun k l _ _ ↦ Value.failsOnly_equals k l)
          (fun _ _ ↦ trivial) (fun p hp ↦ (h.areData p hp).failsOnly_comparable)
          fun _ _ _ _ ↦ trivial

theorem twin_arrayUnique : Twin c.arrayUnique d.arrayUnique := by
  rw [arrayUnique, arrayUnique, h.value]
  refine (h.translate "arrayUnique" [] tells_nil).bind fun message _ ↦ ?_
  split
  · exact twin_ok _
  · rename_i items hitems
    refine (twin_self ?_).bind fun _ _ ↦ twin_ok _
    exact Value.failsOnly_allDistinct (R := fun _ ↦ True) (fun k l _ _ ↦ Value.failsOnly_equals k l)
      nofun (fun x hx ↦ (h.isData.of_mem_items hitems hx).failsOnly_comparable) fun _ _ _ _ ↦ trivial

/-! ### Decimal places -/

theorem twin_numeralText : Twin c.numeralText d.numeralText := by
  rw [numeralText, numeralText, h.value]
  split
  · exact twin_ok _
  · exact (twin_self h.isData.failsOnly_display).bind fun _ _ ↦ twin_ok _

theorem twin_decimalPlaces : Twin c.decimalPlaces d.decimalPlaces := by
  have hparams := twin_rejectParams h "DecimalPlaces"
  have hbounds : ∀ p ∈ c.params.take 2, p.IsData := fun p hp ↦ h.areData p (List.mem_of_mem_take hp)
  rw [decimalPlaces, decimalPlaces, h.value, h.params]
  simp only
  split
  · exact hparams
  · refine (twin_self (Value.failsOnly_toNumber _)).bind fun x _ ↦ ?_
    split
    · exact twin_reject h "number" tells_nil
    · refine (twin_numeralText h).bind fun cs _ ↦ ?_
      refine (twin_mapM fun p _ ↦ twin_self (Value.failsOnly_toNumber p)).bind fun numbers _ ↦ ?_
      split
      · refine (twin_mapM fun p hp ↦ ?_).bind fun shown _ ↦ ?_
        · exact twin_self (hbounds p hp).failsOnly_display
        · exact (h.translate "decimalPlaces" _
            ((tells_nil.data (by decide) (.int _)).data (by decide) (.text _))).bind
            fun _ _ ↦ twin_ok _
      · exact hparams

/-! ### All rules -/

/-- **What a standard rule says depends on the value, the parameters and the messages only**, and if it
fails, then not with a failure of the caller's. -/
theorem twin_judge (s : StandardRule) : Twin (s.judge c) (s.judge d) := by
  cases s with
  | required => exact twin_required h
  | nullable | empty | sometimes => exact twin_ok _
  | number => exact twin_number h
  | integer => exact twin_integer h
  | numberBetween => exact twin_numberBetween h
  | numberLessThan => exact twin_compare h _ "numberLessThan"
  | numberLessThanOrEquals => exact twin_compare h _ "numberLessThanOrEquals"
  | numberGreaterThan => exact twin_compare h _ "numberGreaterThan"
  | numberGreaterThanOrEquals => exact twin_compare h _ "numberGreaterThanOrEquals"
  | numberEquals => exact twin_compare h _ "numberEquals"
  | numberIsDifferentFrom => exact twin_compare h _ "numberIsDifferentFrom"
  | string => exact twin_string h
  | nonNullString => exact twin_nonNullString h
  | length => exact twin_length h
  | minLength => exact twin_boundLength h _ "minLength" "minLength" (by decide)
  | maxLength => exact twin_boundLength h _ "maxLength" "maxLength" (by decide)
  | startsWithOneOf => exact twin_affix h _ _ "startsWithOneOf" "prefixes" (by decide)
  | endsWithOneOf => exact twin_affix h _ _ "endsWithOneOf" "endings" (by decide)
  | email => exact twin_optionalForm h _ "email"
  | url => exact twin_optionalForm h _ "url"
  | fileName => exact twin_fileName h
  | uuid => exact twin_form h _ "uuid"
  | json => exact twin_json h
  | hexColor => exact twin_form h _ "hexColor"
  | regex => exact twin_regex h
  | decimalPlaces => exact twin_decimalPlaces h
  | array => exact twin_array h
  | arrayMinLength =>
    exact twin_itemCount h (fun n limit ↦ decide (limit ≤ n)) "ArrayMinLength" "arrayMinLength"
      "minLength" (by decide)
  | arrayMaxLength =>
    exact twin_itemCount h (fun n limit ↦ decide (n ≤ limit)) "ArrayMaxLength" "arrayMaxLength"
      "maxLength" (by decide)
  | arrayLength => exact twin_itemCount h _ "ArrayLength" "arrayLength" _ (by decide)
  | arrayContains => exact twin_arrayContains h
  | arrayUnique => exact twin_arrayUnique h

end Rules
end RuleContext
end Rulebook
