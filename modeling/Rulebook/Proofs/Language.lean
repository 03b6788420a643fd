import Rulebook.Proofs.FailFast
import Rulebook.Proofs.Verdict

/-!
# The language of messages does not change a verdict

A request whose rules are standard rules comes to the same with every translator whose messages can be
read, up to the message of a refusal (`run_sameEnding`): it passes with both or is refused with both,
and then for the same rule, or for the same specifications that do not resolve.  It does not matter
which messages there are; one that is missing, empty or blank is a refusal like any other.

That the messages can be read is needed.  A rule may make its message before it knows whether it needs
it, and where that fails, a value is refused that passes otherwise (`not_forall_sameEnding`).
-/

set_option autoImplicit false

namespace Rulebook
namespace Request

variable {r : Request} {host : Host} {registry : Registry} {t u : Translator} {entry : RuleEntry}

/-! ## Endings up to their messages -/

/-- Two endings that differ at most in the message of a refusal. -/
inductive SameEnding : Ending → Ending → Prop
  | passed : SameEnding none none
  | refused (e : RuleError) (message : String) :
      SameEnding (some (.refused e)) (some (.refused { e with message }))
  | failed (f : Failure) : SameEnding (some (.failed f)) (some (.failed f))

theorem SameEnding.refl (e : Ending) : SameEnding e e := by
  rcases e with _ | e | f
  · exact .passed
  · exact .refused e e.message
  · exact .failed f

variable [Platform]

/-- A request for standard rules whose value, names and parameters can be shown.  The text of the
value has no more characters than can be counted in a message. -/
structure Speakable (r : Request) (registry : Registry) : Prop where
  value : Succeeds r.value.display
  short : ∀ text, r.value.display = .ok text → text.length < 10 ^ maxShownDigits
  fieldName : Succeeds r.fieldName.display
  translatedName : Succeeds ((Value.lookup (.text "translated_name") r.extra).getD .null).display
  standard : ∀ e ∈ (Spec.resolveAll registry r.rules).1.rules, ∃ s, e.rule = .rule s
  params : ∀ e ∈ (Spec.resolveAll registry r.rules).1.rules, ∀ p ∈ e.params, Succeeds p.display

theorem Speakable.sayable (h : r.Speakable registry) (t : Translator)
    (he : entry ∈ (Spec.resolveAll registry r.rules).1.rules) :
    (r.contextFor t entry).Sayable := by
  refine ⟨h.value, ?_, h.params entry he⟩
  rw [RuleContext.label]
  split
  · exact h.translatedName
  · split
    · exact h.fieldName
    · exact Value.succeeds_display_text ""

/-! ## One rule -/

theorem succeeds_failureMessage {f : Failure} (h : Succeeds f.text) : Succeeds (failureMessage f) :=
  succeeds_bind_pure_iff.mpr h

section Entry

variable (hs : (r.contextFor t entry).Sayable) (ht : t.Legible)
include hs ht

theorem succeeds_defaultMessage (rule : Value) :
    Succeeds (defaultMessage t (r.contextFor t entry) rule) := by
  have hname : ∀ n : Option String, Succeeds (RuleError.textOrNull n).display := fun n ↦ by
    cases n <;> exact ⟨_, rfl⟩
  refine FailsOnly.succeeds (ht.failsOnly "invalidMessage" ?_)
  exact tells_nil.shown (by decide) hs.value
    |>.shown (by decide) hs.label
    |>.cons (by decide) hs.failsOnly_params
    |>.shown (by decide) (hname _)
    |>.shown (by decide) (hname _)
    |>.shown (by decide) (Value.succeeds_display_text _)

/-- A judgement that refuses the value has a message, be it of its own or not. -/
theorem exists_message {j : Judgement} (hj : Refuses j) :
    ∃ m, message? t (r.contextFor t entry) entry.rule (j.map Verdict.toValue) = .ok (some m) := by
  cases hj with
  | fail message =>
    show ∃ m, message? t (r.contextFor t entry) entry.rule (.ok (.text message)) = .ok (some m)
    rw [message?]
    split
    · obtain ⟨m, hm⟩ := succeeds_defaultMessage hs ht entry.rule
      exact ⟨m, by rw [hm]; rfl⟩
    · exact ⟨message, rfl⟩
  | @error f hf =>
    obtain ⟨m, hm⟩ := succeeds_failureMessage hf.text
    exact ⟨m, by rw [Except.map, message?, hm]; rfl⟩

/-- A judgement that refuses the value ends the request with a refusal. -/
theorem exists_refusal {j : Judgement} (hj : Refuses j) :
    ∃ m, (r.afterRule t entry (j.map Verdict.toValue)).result = some (r.ruleError entry m) := by
  have hraised : ∀ f, j.map Verdict.toValue = .error f → f.isOrdinary = true := by
    intro f hf
    cases hj with
    | fail message => cases hf
    | error hmild => exact Except.error.inj hf ▸ hmild.ordinary
  obtain ⟨m, hm⟩ := exists_message hs ht hj
  exact ⟨m, by rw [result_afterRule r t entry hraised, conclude, hm]⟩

end Entry

theorem result_runEntry_of_standard {s : StandardRule} (h : entry.rule = .rule s) :
    (r.runEntry host t entry).result =
      (r.afterRule t entry ((s.judge (r.contextFor t entry)).map Verdict.toValue)).result := by
  rw [runEntry, Task.result_bind, h, Host.runRule, Task.result_done]

/-- A failure of a rule is the same in every language. -/
theorem afterRule_error (f : Failure) :
    r.afterRule t entry (.error f) = r.afterRule u entry (.error f) := by
  rw [afterRule, afterRule]
  split <;> rfl

/-- **A standard rule ends a request in the same way in every language.** -/
theorem sameEnding_runEntry (h : r.Speakable registry) (ht : t.Legible) (hu : u.Legible)
    (he : entry ∈ (Spec.resolveAll registry r.rules).1.rules) :
    SameEnding (r.runEntry host t entry).result (r.runEntry host u entry).result := by
  obtain ⟨s, hs⟩ := h.standard entry he
  have hverdict : SameVerdict (s.judge (r.contextFor t entry)) (s.judge (r.contextFor u entry)) :=
    RuleContext.sameVerdict_judge (h.sayable t he) ht hu h.short s
  rw [result_runEntry_of_standard hs, result_runEntry_of_standard hs]
  revert hverdict
  generalize s.judge (r.contextFor t entry) = j
  generalize s.judge (r.contextFor u entry) = k
  intro hverdict
  cases hverdict with
  | passed => exact .passed
  | failed f => exact (afterRule_error f : r.afterRule t entry _ = r.afterRule u entry _) ▸ .refl _
  | refused hj hk =>
    obtain ⟨m, hm⟩ := exists_refusal (h.sayable t he) ht hj
    obtain ⟨n, hn⟩ := exists_refusal (h.sayable u he) hu hk
    rw [hm, hn]
    exact .refused _ n

/-! ## All rules -/

theorem sameEnding_runEntries (h : r.Speakable registry) (ht : t.Legible) (hu : u.Legible)
    {entries : List RuleEntry}
    (hentries : ∀ e ∈ entries, e ∈ (Spec.resolveAll registry r.rules).1.rules) :
    SameEnding (r.runEntries host t entries).result (r.runEntries host u entries).result := by
  induction entries with
  | nil => exact .passed
  | cons entry rest ih =>
    obtain ⟨he, hrest⟩ := List.forall_mem_cons.mp hentries
    have hfirst : SameEnding (r.runEntry host t entry).result (r.runEntry host u entry).result :=
      sameEnding_runEntry h ht hu he
    rw [runEntries, runEntries, Task.result_bind, Task.result_bind]
    revert hfirst
    generalize (r.runEntry host t entry).result = a
    generalize (r.runEntry host u entry).result = b
    intro hfirst
    cases hfirst with
    | passed => exact ih hrest
    | refused e message => exact .refused e message
    | failed f => exact .failed f

theorem exists_invalidError (ht : t.Legible) (invalid : List Value) :
    ∃ m, r.invalidError t invalid = .refused
      { message := m, request := r, rule := none, ruleName := none, rawRuleName := none, params := []
        invalidRules := invalid } := by
  have hseparator : Succeeds (separator t) := by
    rw [separator, succeeds_bind_pure_iff]
    exact ht "separators.multiple"
  have hparts : ∀ v ∈ invalid, Succeeds (invalidPart t v) := fun v _ ↦
    (ht.failsOnly "invalidRule"
      (tells_nil.shown (by decide) (Value.succeeds_display_text (invalidName v)))).succeeds
  obtain ⟨between, hbetween⟩ := hseparator
  obtain ⟨parts, hmap⟩ := succeeds_mapM_iff.mpr hparts
  exact ⟨_, invalidError_of_parts r t hbetween hmap⟩

/-- **The language of messages does not change a verdict.** -/
theorem run_sameEnding (h : r.Speakable registry) (ht : t.Legible) (hu : u.Legible) :
    SameEnding (r.run host registry t).result (r.run host registry u).result := by
  have hparsed := (Prod.eta (Spec.resolveAll registry r.rules)).symm
  by_cases hinvalid : (Spec.resolveAll registry r.rules).1.invalid = []
  · rw [(run_of_valid r host registry t hparsed hinvalid).2,
      (run_of_valid r host registry u hparsed hinvalid).2]
    exact sameEnding_runEntries h ht hu fun _ he ↦ he
  · obtain ⟨m, hm⟩ := exists_invalidError (r := r) ht (Spec.resolveAll registry r.rules).1.invalid
    obtain ⟨n, hn⟩ := exists_invalidError (r := r) hu (Spec.resolveAll registry r.rules).1.invalid
    rw [run_of_invalid r host registry t hparsed hinvalid,
      run_of_invalid r host registry u hparsed hinvalid, Task.result_done, Task.result_done, hm, hn]
    exact .refused _ n

end Request

/-! ### A message that has no text -/

namespace Request.Digits

open scoped Platform

/-- A request for a number that has to be less than ten. -/
def request (n : Int) : Request where
  value := .int n
  rules := .list [.text "NumberLessThan[10]"]
  fieldName := .null
  context := .null
  extra := []

def registry : Registry := ⟨[("NumberLessThan", .rule .numberLessThan)], []⟩

def entry : RuleEntry :=
  .named ⟨"NumberLessThan", "NumberLessThan[10]", [.text "10"], .rule .numberLessThan⟩

/-- A translator that has this message for the rule and no other one. -/
def saying (message : Value) : Translator :=
  ⟨[("en", [(.text "validator", .dict [(.text "numberLessThan", message)])])], "en", "en"⟩

theorem parsed (n : Int) :
    Spec.resolveAll registry (request n).rules = (⟨[entry], []⟩, []) := rfl

theorem speakable {n : Int} {text : String} (h : showInteger n = .ok text)
    (hshort : text.length < maxShownDigits) : (request n).Speakable registry := by
  have hentries : ∀ e ∈ (Spec.resolveAll registry (request n).rules).1.rules, e = entry :=
    fun e he ↦ List.mem_singleton.mp he
  have hvalue : (request n).value.display = .ok text := h
  exact {
    value := ⟨text, hvalue⟩
    short := fun shown hshown ↦ Except.ok.inj (hvalue.symm.trans hshown) ▸
      hshort.trans (Nat.lt_pow_self (by decide))
    fieldName := ⟨_, rfl⟩
    translatedName := ⟨_, rfl⟩
    standard := fun e he ↦ ⟨.numberLessThan, hentries e he ▸ rfl⟩
    params := fun e he p hp ↦ by
      rw [hentries e he] at hp
      exact List.mem_singleton.mp hp ▸ Value.succeeds_display_text "10" }

theorem speakable_five : (request 5).Speakable registry :=
  speakable (rfl : showInteger 5 = .ok "5") (by decide)

/-- With a blank message a number that is less than ten passes. -/
theorem result_run_blank :
    ((request 5).run sampleHost registry (saying (.text " "))).result = none := by
  with_unfolding_all rfl

theorem translate_saying (m : Int) (params : List Entry) :
    (saying (.int m)).translate "validator.numberLessThan" params none =
      showInteger m >>= fun s ↦ Template.interpolate s params := by
  have hchosen : ∀ count, (saying (.int m)).chosen "validator.numberLessThan" none count =
      .ok (some (.int m)) := by
    intro count
    with_unfolding_all rfl
  rw [Translator.translate_eq, hchosen]
  rfl

/-- The rule makes its message before it looks at the number. -/
theorem judge_saying (n : Int) {m : Int} {f : Failure} (hm : showInteger m = .error f) :
    StandardRule.numberLessThan.judge ((request n).contextFor (saying (.int m)) entry) =
      .error f := by
  have htranslate : ((request n).contextFor (saying (.int m)) entry).translate
      "validator.numberLessThan" [] = .error f := by
    rw [RuleContext.translate, contextFor]
    exact (translate_saying m _).trans (by rw [hm]; rfl)
  show RuleContext.compare _ _ _ = _
  rw [RuleContext.compare, htranslate]
  rfl

theorem result_run (n : Int) (t : Translator) :
    ((request n).run sampleHost registry t).result =
      ((request n).runEntry sampleHost t entry).result := by
  rw [(run_of_valid (request n) sampleHost registry t (parsed n) rfl).2, runEntries,
    Task.result_bind]
  cases ((request n).runEntry sampleHost t entry).result <;> rfl

theorem showInteger_natCast {m : Nat} (h : maxShownDigits < (Nat.toDigits 10 m).length) :
    showInteger m = .error .integerTooLong :=
  if_pos h

/-- A message that has too many digits to be shown refuses a number that passes with another
message. -/
theorem not_forall_sameEnding :
    ¬ ∀ (r : Request) (host : Host) (registry : Registry) (t u : Translator),
      r.Speakable registry →
      SameEnding (r.run host registry t).result (r.run host registry u).result := by
  intro hall
  have hlong : maxShownDigits < (Nat.toDigits 10 (16 ^ 3600 - 1)).length := by decide +kernel
  generalize 16 ^ 3600 - 1 = m at hlong
  have h := hall (request 5) sampleHost registry (saying (.text " ")) (saying (.int m))
    speakable_five
  rw [result_run_blank, result_run, result_runEntry_of_standard rfl,
    judge_saying 5 (showInteger_natCast hlong)] at h
  cases h

theorem legible_saying {message : Value}
    (h : Succeeds (Value.display
      (.dict [(.text "validator", .dict [(.text "numberLessThan", message)])]))) :
    (saying message).Legible :=
  Translator.legible_of_shown (List.forall_mem_singleton.mpr h)

/-- A number that is not less than ten, a blank message, and one with plural forms. -/
theorem run_sameEnding_twelve :
    (request 12).Speakable registry ∧ (saying (.text " ")).Legible ∧
      (saying (.dict [(.text "other", .text "too great")])).Legible ∧
      SameEnding ((request 12).run sampleHost registry (saying (.text " "))).result
        ((request 12).run sampleHost registry
          (saying (.dict [(.text "other", .text "too great")]))).result := by
  have hspeakable : (request 12).Speakable registry :=
    speakable (rfl : showInteger 12 = .ok "12") (by decide)
  have hblank : (saying (.text " ")).Legible := legible_saying ⟨_, rfl⟩
  have hforms : (saying (.dict [(.text "other", .text "too great")])).Legible :=
    legible_saying ⟨_, rfl⟩
  exact ⟨hspeakable, hblank, hforms, run_sameEnding hspeakable hblank hforms⟩

end Request.Digits
end Rulebook
