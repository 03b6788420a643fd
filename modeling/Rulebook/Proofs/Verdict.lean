import Rulebook.Proofs.Translation
import Rulebook.Rule.Standard
import Mathlib.Data.Nat.Digits.Defs

/-!
# What a rule says in any language

A standard rule judges a value and may make a message for it, in some cases before it is known whether
the message is needed.  Two judgements are the same up to their messages (`SameVerdict`) when both
pass, both refuse the value, or both end with one failure.

Each rule says the same with every translator whose messages can be read (`sameVerdict_judge`).  A
message that is made once the value is refused may even fail: the value is refused then too
(`refuses_reject`).  A message that is made before has to succeed (`sameVerdict_translate`), and for
this what it tells has to be shown.
-/

set_option autoImplicit false

namespace Rulebook

/-! ## Verdicts up to their messages -/

section

variable [Platform]

/-- A failure that is stopped at the border of a rule and has a text. -/
structure Failure.IsMild (f : Failure) : Prop where
  ordinary : f.isOrdinary = true
  text : Succeeds f.text

theorem isMild_integerTooLong : Failure.integerTooLong.IsMild := ⟨rfl, ⟨_, rfl⟩⟩

/-- A judgement that refuses a value: with a message, or by a failure on the way to the message. -/
inductive Refuses : Judgement → Prop
  | fail (message : String) : Refuses (.ok (.fail message))
  | error {f : Failure} (hf : f.IsMild) : Refuses (.error f)

/-- Two judgements that differ at most in the message: both pass, or both end with one failure, or
both refuse the value. -/
inductive SameVerdict : Judgement → Judgement → Prop
  | passed : SameVerdict (.ok .pass) (.ok .pass)
  | failed (f : Failure) : SameVerdict (.error f) (.error f)
  | refused {j k : Judgement} (hj : Refuses j) (hk : Refuses k) : SameVerdict j k

theorem sameVerdict_ofBool (b : Bool) (m n : String) :
    SameVerdict (.ok (.ofBool b m)) (.ok (.ofBool b n)) := by
  cases b with
  | true => exact .passed
  | false => exact .refused (.fail m) (.fail n)

/-- What two judgements begin with together does not tell them apart. -/
theorem sameVerdict_bind {α : Type} {x : Except Failure α} {f g : α → Judgement}
    (h : ∀ a, x = .ok a → SameVerdict (f a) (g a)) : SameVerdict (x >>= f) (x >>= g) := by
  cases x with
  | error e => exact .failed e
  | ok a => exact h a rfl

end

namespace RuleContext

@[simp] theorem value_speaking (ctx : RuleContext) (t : Translator) :
    (ctx.speaking t).value = ctx.value := rfl

@[simp] theorem params_speaking (ctx : RuleContext) (t : Translator) :
    (ctx.speaking t).params = ctx.params := rfl

@[simp] theorem affixes_speaking (ctx : RuleContext) (t : Translator) :
    (ctx.speaking t).affixes = ctx.affixes := rfl

variable [Platform]
variable {ctx : RuleContext} {t u : Translator} {ps : List Entry}

section Messages

variable (hs : ctx.Sayable) (ht : t.Legible) (hu : u.Legible)
include hs ht

/-- To refuse a value refuses it, even if the message cannot be made because of an integer in it. -/
theorem refuses_reject (name : String) (hps : Tells (· = .integerTooLong) ps) :
    Refuses ((ctx.speaking t).reject ("validator." ++ name) ps) := by
  have hfails := failsOnly_translate hs ht name hps
  rw [reject]
  cases hm : (ctx.speaking t).translate ("validator." ++ name) ps with
  | error f => exact hfails f hm ▸ .error isMild_integerTooLong
  | ok m => exact .fail m

include hu

theorem sameVerdict_reject (name : String) (hps : Tells (· = .integerTooLong) ps) :
    SameVerdict ((ctx.speaking t).reject ("validator." ++ name) ps)
      ((ctx.speaking u).reject ("validator." ++ name) ps) :=
  .refused (refuses_reject hs ht name hps) (refuses_reject hs hu name hps)

theorem sameVerdict_require (condition : Bool) (name : String) :
    SameVerdict ((ctx.speaking t).require condition ("validator." ++ name))
      ((ctx.speaking u).require condition ("validator." ++ name)) := by
  rw [require, require]
  split
  · exact .passed
  · exact sameVerdict_reject hs ht hu name tells_nil

/-- A message that is made before it is known whether it is needed does not matter, if it can be
made. -/
theorem sameVerdict_translate (name : String) (hps : Tells (fun _ ↦ False) ps)
    {f g : String → Judgement} (h : ∀ m n, SameVerdict (f m) (g n)) :
    SameVerdict ((ctx.speaking t).translate ("validator." ++ name) ps >>= f)
      ((ctx.speaking u).translate ("validator." ++ name) ps >>= g) := by
  obtain ⟨m, hm⟩ := (failsOnly_translate hs ht name hps).succeeds
  obtain ⟨n, hn⟩ := (failsOnly_translate hs hu name hps).succeeds
  rw [hm, hn]
  exact h m n

end Messages

/-! ## The rules -/

/-- The text of the value has no more characters than can be counted in a message. -/
def Short (ctx : RuleContext) : Prop :=
  ∀ text, ctx.value.display = .ok text → text.length < 10 ^ maxShownDigits

theorem succeeds_display_nat {n : Nat} (h : n < 10 ^ maxShownDigits) :
    Succeeds (Value.display (.int n)) := by
  have hlength : (Nat.toDigits 10 n).length ≤ maxShownDigits :=
    Nat.toDigits_length 10 n maxShownDigits (by decide) h
  change Succeeds (showInteger n)
  rw [showInteger, Int.natAbs_natCast, if_neg (Nat.not_lt.mpr hlength)]
  exact succeeds_ok _

theorem succeeds_display_decimalPlaces (hshort : ctx.Short) {cs : List Char}
    (hcs : ctx.numeralText = .ok cs) :
    Succeeds (Value.display (.int (Rulebook.decimalPlaces cs))) := by
  have hplaces : Rulebook.decimalPlaces cs ≤ cs.length :=
    (Nat.sub_le _ _).trans (List.dropWhile_sublist _).length_le
  refine succeeds_display_nat (hplaces.trans_lt ?_)
  rw [numeralText.eq_def] at hcs
  split at hcs
  · rename_i s hs
    have hlength := (Text.length_trimChars_le s.toList).trans_lt
      (String.length_toList ▸ hshort s (by rw [hs]; rfl))
    exact Except.ok.inj hcs ▸ hlength
  · cases hd : ctx.value.display with
    | error f =>
      rw [hd] at hcs
      cases hcs
    | ok text =>
      rw [hd] at hcs
      obtain rfl := Except.ok.inj hcs
      exact String.length_toList ▸ hshort text hd

section Rules

variable (hs : ctx.Sayable) (ht : t.Legible) (hu : u.Legible)
include hs ht hu

theorem sameVerdict_rejectParams (rule : String) :
    SameVerdict ((ctx.speaking t).rejectParams rule) ((ctx.speaking u).rejectParams rule) := by
  exact sameVerdict_reject hs ht hu "invalidRuleParams"
    (tells_nil.shown (by decide) (Value.succeeds_display_text rule))

theorem sameVerdict_compare (holds : Double → Double → Bool) (name : String) :
    SameVerdict ((ctx.speaking t).compare holds ("validator." ++ name))
      ((ctx.speaking u).compare holds ("validator." ++ name)) := by
  refine sameVerdict_translate hs ht hu name tells_nil fun m n ↦ sameVerdict_bind fun x _ ↦ ?_
  cases x with
  | none => exact .refused (.fail m) (.fail n)
  | some x =>
    refine sameVerdict_bind fun y _ ↦ ?_
    cases y with
    | none => exact .refused (.fail m) (.fail n)
    | some y => exact sameVerdict_ofBool _ m n

theorem sameVerdict_numberBetween :
    SameVerdict (ctx.speaking t).numberBetween (ctx.speaking u).numberBetween := by
  have hparams := sameVerdict_rejectParams hs ht hu "NumberBetween"
  rw [numberBetween, numberBetween, value_speaking, value_speaking, params_speaking,
    params_speaking]
  have hshown := hs.params
  generalize ctx.params = ps at hshown
  match ps with
  | [] | [_] => exact hparams
  | low :: high :: _ =>
    refine sameVerdict_bind fun x _ ↦ ?_
    cases x with
    | none => exact sameVerdict_reject hs ht hu "number" tells_nil
    | some x =>
      refine sameVerdict_bind fun a _ ↦ sameVerdict_bind fun b _ ↦ ?_
      cases a with
      | none => exact hparams
      | some a =>
        cases b with
        | none => exact hparams
        | some b =>
          simp only
          split
          · exact .passed
          · have hlow := hshown low List.mem_cons_self
            have hhigh := hshown high (List.mem_cons_of_mem _ List.mem_cons_self)
            exact sameVerdict_reject hs ht hu "numberBetween"
              ((tells_nil.shown (by decide) hhigh).shown (by decide) hlow)

theorem sameVerdict_integer :
    SameVerdict (ctx.speaking t).integer (ctx.speaking u).integer :=
  sameVerdict_bind fun _ _ ↦ sameVerdict_require hs ht hu _ "integer"

theorem sameVerdict_optionalForm (p : Pattern) (name : String) :
    SameVerdict ((ctx.speaking t).optionalForm p ("validator." ++ name))
      ((ctx.speaking u).optionalForm p ("validator." ++ name)) := by
  rw [optionalForm, optionalForm, value_speaking, value_speaking]
  cases ctx.value with
  | text s => exact sameVerdict_require hs ht hu _ name
  | _ => exact .passed

theorem sameVerdict_fileName :
    SameVerdict (ctx.speaking t).fileName (ctx.speaking u).fileName :=
  sameVerdict_translate hs ht hu "fileName" tells_nil fun m n ↦ sameVerdict_ofBool _ m n

theorem sameVerdict_json : SameVerdict (ctx.speaking t).json (ctx.speaking u).json := by
  rw [json, json, value_speaking, value_speaking]
  split <;> exact sameVerdict_bind fun _ _ ↦ sameVerdict_require hs ht hu _ "json"

theorem sameVerdict_regex : SameVerdict (ctx.speaking t).regex (ctx.speaking u).regex := by
  have hparams := sameVerdict_rejectParams hs ht hu "Regex"
  rw [regex, regex, value_speaking, value_speaking, params_speaking, params_speaking]
  split
  · rename_i written _
    split
    · exact hparams
    · refine sameVerdict_bind fun p _ ↦ ?_
      cases p with
      | none => exact hparams
      | some p =>
        simp only
        split
        · exact .passed
        · exact sameVerdict_reject hs ht hu "regex"
            (tells_nil.shown (by decide) (Value.succeeds_display_text written))
  · exact hparams

theorem sameVerdict_affix (isPart : List Char → List Char → Bool) (rule name param : String)
    (hparam : param ≠ "count") :
    SameVerdict ((ctx.speaking t).affix isPart rule ("validator." ++ name) param)
      ((ctx.speaking u).affix isPart rule ("validator." ++ name) param) := by
  rw [affix, affix, affixes_speaking, affixes_speaking, value_speaking, value_speaking,
    params_speaking, params_speaking]
  split
  · exact sameVerdict_rejectParams hs ht hu rule
  · split
    · exact .passed
    · exact sameVerdict_reject hs ht hu name
        (tells_nil.cons hparam hs.failsOnly_params)

theorem sameVerdict_length : SameVerdict (ctx.speaking t).length (ctx.speaking u).length := by
  refine sameVerdict_bind fun low _ ↦ sameVerdict_bind fun high _ ↦ ?_
  cases low with
  | none => exact .passed
  | some low =>
    cases high with
    | none =>
      exact sameVerdict_translate hs ht hu "length"
        (tells_nil.shown (by decide) (Value.succeeds_display_text _))
        fun m n ↦ sameVerdict_ofBool _ m n
    | some high =>
      exact sameVerdict_translate hs ht hu "lengthRange"
        ((tells_nil.shown (by decide) (Value.succeeds_display_text _)).shown (by decide)
          (Value.succeeds_display_text _))
        fun m n ↦ sameVerdict_ofBool _ m n

theorem sameVerdict_boundLength (holds : Nat → Double → Bool) (name param : String)
    (hparam : param ≠ "count") :
    SameVerdict ((ctx.speaking t).boundLength holds ("validator." ++ name) param)
      ((ctx.speaking u).boundLength holds ("validator." ++ name) param) := by
  refine sameVerdict_bind fun limit _ ↦ ?_
  rw [value_speaking, value_speaking]
  split
  · exact .passed
  · exact sameVerdict_translate hs ht hu name
      (tells_nil.shown hparam (Value.succeeds_display_text _)) fun m n ↦ sameVerdict_ofBool _ m n

theorem sameVerdict_itemCount (holds : Nat → Nat → Bool) (rule name param : String)
    (hparam : param ≠ "count") :
    SameVerdict ((ctx.speaking t).itemCount holds rule ("validator." ++ name) param)
      ((ctx.speaking u).itemCount holds rule ("validator." ++ name) param) := by
  rw [itemCount, itemCount, value_speaking, value_speaking]
  cases ctx.value.items? with
  | none => exact sameVerdict_reject hs ht hu "array" tells_nil
  | some items =>
    refine sameVerdict_bind fun limit _ ↦ ?_
    cases limit with
    | none => exact sameVerdict_rejectParams hs ht hu rule
    | some limit =>
      simp only
      split
      · exact .passed
      · exact sameVerdict_reject hs ht hu name
          ((tells_nil.integer (by decide) _).integer hparam _)

theorem sameVerdict_arrayContains :
    SameVerdict (ctx.speaking t).arrayContains (ctx.speaking u).arrayContains := by
  refine sameVerdict_translate hs ht hu "arrayContains"
    (tells_nil.cons (by decide) hs.failsOnly_params) fun m n ↦ ?_
  rw [value_speaking, value_speaking, params_speaking, params_speaking]
  cases ctx.value.items? with
  | none => exact .refused (.fail m) (.fail n)
  | some items =>
    simp only
    split
    · exact sameVerdict_rejectParams hs ht hu "ArrayContains"
    · exact sameVerdict_bind fun _ _ ↦ sameVerdict_bind fun _ _ ↦ sameVerdict_ofBool _ m n

theorem sameVerdict_arrayUnique :
    SameVerdict (ctx.speaking t).arrayUnique (ctx.speaking u).arrayUnique := by
  refine sameVerdict_translate hs ht hu "arrayUnique" tells_nil fun m n ↦ ?_
  rw [value_speaking, value_speaking]
  cases ctx.value.items? with
  | none => exact .refused (.fail m) (.fail n)
  | some items => exact sameVerdict_bind fun _ _ ↦ sameVerdict_ofBool _ m n

/-- The number of decimal places is one that can be shown. -/
theorem sameVerdict_decimalPlaces (hshort : ctx.Short) :
    SameVerdict (ctx.speaking t).decimalPlaces (ctx.speaking u).decimalPlaces := by
  have hparams := sameVerdict_rejectParams hs ht hu "DecimalPlaces"
  rw [decimalPlaces, decimalPlaces, value_speaking, value_speaking, params_speaking,
    params_speaking]
  simp only
  split
  · exact hparams
  · refine sameVerdict_bind fun x _ ↦ ?_
    split
    · exact sameVerdict_reject hs ht hu "number" tells_nil
    · refine sameVerdict_bind fun cs hcs ↦ sameVerdict_bind fun numbers _ ↦ ?_
      split
      · refine sameVerdict_bind fun shown _ ↦ ?_
        exact sameVerdict_translate hs ht hu "decimalPlaces"
          ((tells_nil.shown (by decide) (succeeds_display_decimalPlaces hshort hcs)).shown
            (by decide) (Value.succeeds_display_text _))
          fun m n ↦ sameVerdict_ofBool _ m n
      · exact hparams

/-- **The language of messages does not change what a rule says.** -/
theorem sameVerdict_judge (hshort : ctx.Short) (s : StandardRule) :
    SameVerdict (s.judge (ctx.speaking t)) (s.judge (ctx.speaking u)) := by
  cases s with
  | required => exact sameVerdict_require hs ht hu _ "required"
  | nullable | empty | sometimes => exact .passed
  | number => exact sameVerdict_require hs ht hu _ "number"
  | integer => exact sameVerdict_integer hs ht hu
  | numberBetween => exact sameVerdict_numberBetween hs ht hu
  | numberLessThan => exact sameVerdict_compare hs ht hu _ "numberLessThan"
  | numberLessThanOrEquals => exact sameVerdict_compare hs ht hu _ "numberLessThanOrEquals"
  | numberGreaterThan => exact sameVerdict_compare hs ht hu _ "numberGreaterThan"
  | numberGreaterThanOrEquals => exact sameVerdict_compare hs ht hu _ "numberGreaterThanOrEquals"
  | numberEquals => exact sameVerdict_compare hs ht hu _ "numberEquals"
  | numberIsDifferentFrom => exact sameVerdict_compare hs ht hu _ "numberIsDifferentFrom"
  | string => exact sameVerdict_require hs ht hu _ "string"
  | nonNullString => exact sameVerdict_require hs ht hu _ "nonNullString"
  | length => exact sameVerdict_length hs ht hu
  | minLength => exact sameVerdict_boundLength hs ht hu _ "minLength" "minLength" (by decide)
  | maxLength => exact sameVerdict_boundLength hs ht hu _ "maxLength" "maxLength" (by decide)
  | startsWithOneOf => exact sameVerdict_affix hs ht hu _ _ "startsWithOneOf" "prefixes" (by decide)
  | endsWithOneOf => exact sameVerdict_affix hs ht hu _ _ "endsWithOneOf" "endings" (by decide)
  | email => exact sameVerdict_optionalForm hs ht hu _ "email"
  | url => exact sameVerdict_optionalForm hs ht hu _ "url"
  | fileName => exact sameVerdict_fileName hs ht hu
  | uuid => exact sameVerdict_require hs ht hu _ "uuid"
  | json => exact sameVerdict_json hs ht hu
  | hexColor => exact sameVerdict_require hs ht hu _ "hexColor"
  | regex => exact sameVerdict_regex hs ht hu
  | decimalPlaces => exact sameVerdict_decimalPlaces hs ht hu hshort
  | array => exact sameVerdict_require hs ht hu _ "array"
  | arrayMinLength =>
    exact sameVerdict_itemCount hs ht hu (fun n limit ↦ decide (limit ≤ n)) "ArrayMinLength"
      "arrayMinLength" "minLength" (by decide)
  | arrayMaxLength =>
    exact sameVerdict_itemCount hs ht hu (fun n limit ↦ decide (n ≤ limit)) "ArrayMaxLength"
      "arrayMaxLength" "maxLength" (by decide)
  | arrayLength => exact sameVerdict_itemCount hs ht hu _ _ "arrayLength" _ (by decide)
  | arrayContains => exact sameVerdict_arrayContains hs ht hu
  | arrayUnique => exact sameVerdict_arrayUnique hs ht hu

end Rules

end RuleContext
end Rulebook
