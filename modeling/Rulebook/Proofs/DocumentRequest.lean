import Rulebook.Proofs.Alike
import Rulebook.Proofs.Language
import Rulebook.Proofs.Mention
import Rulebook.Proofs.SpecList
import Rulebook.Proofs.StandardNames

/-!
# Requests from documents

A request from a document asks for standard rules by their names, and its value and the parameters of
the rules are data.  Two such requests that differ in the display name of the field at most end in the
same way, message included, when none of the messages mentions the field
(`Request.sameRefusal_run`).

A rule sees the same in both (`RuleContext.alike_of_shares`), so that it says the same
(`RuleContext.twin_judge`).  What else a message is made for does not depend on the display name
either.
-/

set_option autoImplicit false

namespace Rulebook

/-! ## Specifications that are data -/

/-- A standard rule that was found by its name, with data as parameters. -/
structure RuleEntry.IsStandard (e : RuleEntry) : Prop where
  rule : ∃ s, e.rule = .rule s
  params : ∀ p ∈ e.params, p.IsData

/-- A registry of standard rules only. -/
def Registry.IsStandard (r : Registry) : Prop := ∀ n f, r.find? n = some f → ∃ s, f = .rule s

/-- The registry of a command knows the standard rules only. -/
theorem Registry.isStandard_registerStandard [Platform] :
    (empty.registerStandard true).1.IsStandard := by
  have hdirect : ∀ n f, (empty.registerStandard true).1.direct? n = some f → ∃ s, f = .rule s := by
    intro n f hf
    rw [direct?_registerStandard_overwrite] at hf
    rcases Option.or_eq_some_iff.mp hf with hf | ⟨-, hf⟩
    · obtain ⟨s, -, rfl⟩ := Option.map_eq_some_iff.mp hf
      exact ⟨s, rfl⟩
    · cases hf
  intro n f hf
  rcases Option.or_eq_some_iff.mp hf with hf | ⟨-, hf⟩
  · exact hdirect n f hf
  · obtain ⟨k, -, hf⟩ := Option.bind_eq_some_iff.mp hf
    exact hdirect k f hf

namespace Spec

variable {registry : Registry}

/-- A rule that data asks for is a standard rule, since data is nothing that can be called. -/
theorem isStandard_of_comesTo (hregistry : registry.IsStandard) {spec : Value} (hspec : spec.IsData)
    {a : Asked} (ha : a ∈ asked spec) {e : RuleEntry} (h : ComesTo registry a (.inl e)) :
    e.IsStandard := by
  cases hspec with
  | text s =>
    rw [asked] at ha
    split at ha
    · cases ha
    · obtain rfl := List.mem_singleton.mp ha
      cases h with
      | text hread hrule =>
        refine ⟨hregistry _ _ hrule, fun p hp ↦ ?_⟩
        obtain ⟨s, -, rfl⟩ := List.mem_map.mp hp
        exact .text s
  | dict _ hvalues _ =>
    obtain ⟨⟨key, params⟩, hentry, rfl⟩ := List.mem_map.mp ha
    cases h with
    | key hrule =>
      refine ⟨hregistry _ _ hrule, fun p hp ↦ ?_⟩
      rw [RuleEntry.params] at hp
      cases hitems : params.items? with
      | none =>
        rw [hitems] at hp
        cases hp
      | some ps =>
        rw [hitems] at hp
        exact (hvalues _ hentry).of_mem_items hitems hp
  | _ => cases ha

/-- **Data asks for standard rules only.** -/
theorem isStandard_resolveAll [Platform] (hregistry : registry.IsStandard) {specs : List Value}
    (hspecs : ∀ v ∈ specs, v.IsData) :
    ∀ e ∈ (resolveAll registry (.list specs)).1.rules, e.IsStandard := by
  intro e he
  obtain ⟨a, ha, hcomes⟩ := (accounts_resolveAll registry (.list specs)).exists_asked he
  obtain ⟨v, hv, ha⟩ := List.mem_flatMap.mp ha
  exact isStandard_of_comesTo hregistry (hspecs v hv) ha hcomes

end Spec

/-! ## Messages that do not mention the field -/

/-- A translator with the messages of another one, which can be read and do not mention the field. -/
structure Translator.Shares [Platform] (t u : Translator) : Prop where
  silent : t.IsSilent "field"
  legible : t.Legible
  messages : ∀ message,
    u.lookup ("validator." ++ message) none = t.lookup ("validator." ++ message) none

variable {t u : Translator}

/-- A message is the same whatever the field is called. -/
theorem Translator.Shares.twin [Platform] (h : Shares t u) (name : String) {ps qs : List Entry}
    (hps : Tells Failure.IsOwn ps) (hqs : AlikeBut "field" ps qs) :
    Twin (t.translate ("validator." ++ name) ps none)
      (u.translate ("validator." ++ name) qs none) :=
  ⟨translate_congr h.silent (h.messages name) (by decide) hqs, h.legible.failsOnly name hps⟩

namespace RuleContext

variable {c d : RuleContext}

theorem tells_messageParams [Platform] (hlabel : c.label.IsData) (hvalue : c.value.IsData)
    (hparams : ∀ p ∈ c.params, p.IsData) : Tells Failure.IsOwn c.messageParams := by
  exact tells_nil.data (by decide) (.list hparams)
    |>.data (by decide) (.text _)
    |>.data (by decide) hvalue
    |>.data (by decide) hlabel

/-- What every message may tell differs in the name of the field only. -/
theorem alikeBut_messageParams (hvalue : d.value = c.value) (hparams : d.params = c.params)
    (hname : d.ruleName = c.ruleName) : AlikeBut "field" c.messageParams d.messageParams := by
  rw [messageParams, messageParams, hvalue, hparams, hname]
  exact (AlikeBut.refl _).cons c.label d.label

/-- **A rule sees the same whatever the field is called.** -/
theorem alike_of_shares [Platform] (h : Translator.Shares t u) (hc : c.translator = some t)
    (hd : d.translator = some u) (hvalue : d.value = c.value) (hparams : d.params = c.params)
    (hname : d.ruleName = c.ruleName) (hlabel : c.label.IsData) (hdata : c.value.IsData)
    (hareData : ∀ p ∈ c.params, p.IsData) : Alike c d where
  value := hvalue
  params := hparams
  isData := hdata
  areData := hareData
  translate name ps hps := by
    rw [translate, translate, hc, hd]
    have htells := tells_messageParams hlabel hdata hareData
    exact h.twin name (htells.insertAll hps)
      ((alikeBut_messageParams hvalue hparams hname).insertAll ps)

end RuleContext

/-! ## Requests -/

namespace Request

variable {r r' : Request} {host : Host} {registry : Registry} {entry : RuleEntry}

/-- Requests of documents that differ in the names of the field at most. -/
structure Twins (r r' : Request) : Prop where
  value : r'.value = r.value
  rules : r'.rules = r.rules
  isData : r.value.IsData
  specs : ∃ specs, r.rules = .list specs ∧ ∀ v ∈ specs, v.IsData
  label : ∀ t entry, (r.contextFor t entry).label.IsData

/-- Endings that refuse a value for the same reason. -/
inductive SameRefusal : Ending → Ending → Prop
  | passed : SameRefusal none none
  | refused {e e' : RuleError} (hmessage : e'.message = e.message)
      (hname : e'.ruleName = e.ruleName) (hparams : e'.params = e.params) :
      SameRefusal (some (.refused e)) (some (.refused e'))
  | failed {f : Failure} (hf : f.IsOwn) : SameRefusal (some (.failed f)) (some (.failed f))

/-- A failure of the library's own does not pass through a rule. -/
theorem isOrdinary_of_failsOnly {j : Judgement} (hj : FailsOnly Failure.IsOwn j) :
    ∀ f, j.map Verdict.toValue = .error f → f.isOrdinary = true := by
  intro f hf
  cases j with
  | error g => exact Except.error.inj hf ▸ (hj g rfl).isOrdinary
  | ok verdict => cases hf

variable [Platform]

section Run

variable (hr : Twins r r') (h : Translator.Shares t u)
include hr h

/-! ### One rule -/

theorem alike_contextFor (he : entry.IsStandard) :
    RuleContext.Alike (r.contextFor t entry) (r'.contextFor u entry) :=
  RuleContext.alike_of_shares h rfl rfl hr.value rfl rfl (hr.label t entry) hr.isData he.params

theorem twin_defaultMessage (he : entry.IsStandard) (rule : Value) :
    Twin (defaultMessage t (r.contextFor t entry) rule)
      (defaultMessage u (r'.contextFor u entry) rule) := by
  have hname : ∀ n : Option String, (RuleError.textOrNull n).IsData := fun n ↦ by
    cases n with
    | none => exact .null
    | some s => exact .text s
  have hparams : Value.IsData (.list (r.contextFor t entry).params) := .list he.params
  refine h.twin "invalidMessage" ?_ ?_
  · exact tells_nil.data (by decide) hr.isData
      |>.data (by decide) (hr.label t entry)
      |>.data (by decide) hparams
      |>.data (by decide) (hname _)
      |>.data (by decide) (hname _)
      |>.data (by decide) (.text _)
  · -- The name of the field stands between parameters that are the same.
    have hvalue : (r'.contextFor u entry).value = (r.contextFor t entry).value := hr.value
    rw [hvalue]
    exact (((((AlikeBut.refl _).cons _ _).same _).same _).same _).same _

theorem twin_message? (he : entry.IsStandard) (rule : Value) {j : Judgement}
    (hj : FailsOnly Failure.IsOwn j) :
    Twin (message? t (r.contextFor t entry) rule (j.map Verdict.toValue))
      (message? u (r'.contextFor u entry) rule (j.map Verdict.toValue)) := by
  cases j with
  | error f =>
    have hmessage := succeeds_failureMessage (hj f rfl).succeeds_text
    exact twin_self (succeeds_bind_pure_iff.mpr hmessage).failsOnly
  | ok verdict =>
    cases verdict with
    | pass => exact twin_ok none
    | fail message =>
      show Twin (message? t (r.contextFor t entry) rule (.ok (.text message)))
        (message? u (r'.contextFor u entry) rule (.ok (.text message)))
      rw [message?, message?]
      split
      · exact (twin_defaultMessage hr h he rule).bind fun _ _ ↦ twin_ok _
      · exact twin_ok _

theorem sameRefusal_conclude (he : entry.IsStandard) {j : Judgement}
    (hj : FailsOnly Failure.IsOwn j) :
    SameRefusal (r.conclude t entry (j.map Verdict.toValue))
      (r'.conclude u entry (j.map Verdict.toValue)) := by
  obtain ⟨heq, hown⟩ := twin_message? hr h he entry.rule hj
  rw [conclude, conclude, heq]
  cases hm : message? t (r.contextFor t entry) entry.rule (j.map Verdict.toValue) with
  | error f => exact .failed (hown f hm)
  | ok message =>
    cases message with
    | none => exact .passed
    | some m => exact .refused rfl rfl rfl

/-- **A standard rule refuses a value for the same reason whatever the field is called.** -/
theorem sameRefusal_runEntry (he : entry.IsStandard) :
    SameRefusal (r.runEntry host t entry).result (r'.runEntry host u entry).result := by
  obtain ⟨s, hs⟩ := he.rule
  obtain ⟨heq, hown⟩ := RuleContext.twin_judge (alike_contextFor hr h he) s
  have hraised := isOrdinary_of_failsOnly hown
  rw [result_runEntry_of_standard hs, result_runEntry_of_standard hs, heq,
    result_afterRule r t entry hraised, result_afterRule r' u entry hraised]
  exact sameRefusal_conclude hr h he hown

/-! ### All rules -/

theorem sameRefusal_runEntries {entries : List RuleEntry}
    (hentries : ∀ e ∈ entries, e.IsStandard) :
    SameRefusal (r.runEntries host t entries).result (r'.runEntries host u entries).result := by
  induction entries with
  | nil => exact .passed
  | cons entry rest ih =>
    obtain ⟨he, hrest⟩ := List.forall_mem_cons.mp hentries
    have hfirst : SameRefusal (r.runEntry host t entry).result (r'.runEntry host u entry).result :=
      sameRefusal_runEntry hr h he
    rw [runEntries, runEntries, Task.result_bind, Task.result_bind]
    revert hfirst
    generalize (r.runEntry host t entry).result = a
    generalize (r'.runEntry host u entry).result = b
    intro hfirst
    cases hfirst with
    | passed => exact ih hrest
    | refused hmessage hname hparams => exact .refused hmessage hname hparams
    | failed hf => exact .failed hf

omit hr in
theorem twin_invalidMessage (invalid : List Value) :
    Twin (invalidMessage t invalid) (invalidMessage u invalid) := by
  have hseparator : Twin (separator t) (separator u) :=
    (h.twin "separators.multiple" tells_nil (AlikeBut.refl [])).bind fun _ _ ↦ twin_ok _
  refine hseparator.bind fun between _ ↦ (twin_mapM fun v _ ↦ ?_).bind fun parts _ ↦ twin_ok _
  exact h.twin "invalidRule" (tells_nil.data (by decide) (.text _)) (AlikeBut.refl _)

/-- **A request from a document is refused for the same reason whatever the field is called.** -/
theorem sameRefusal_run (host : Host) (hregistry : registry.IsStandard) :
    SameRefusal (r.run host registry t).result (r'.run host registry u).result := by
  have hparsed := (Prod.eta (Spec.resolveAll registry r.rules)).symm
  have hparsed' : Spec.resolveAll registry r'.rules = ((Spec.resolveAll registry r.rules).1,
      (Spec.resolveAll registry r.rules).2) := by rw [hr.rules]
  by_cases hinvalid : (Spec.resolveAll registry r.rules).1.invalid = []
  · rw [(run_of_valid r host registry t hparsed hinvalid).2,
      (run_of_valid r' host registry u hparsed' hinvalid).2]
    obtain ⟨specs, hspecs, hdata⟩ := hr.specs
    rw [hspecs]
    exact sameRefusal_runEntries hr h (Spec.isStandard_resolveAll hregistry hdata)
  · obtain ⟨heq, hown⟩ := twin_invalidMessage h (Spec.resolveAll registry r.rules).1.invalid
    rw [run_of_invalid r host registry t hparsed hinvalid,
      run_of_invalid r' host registry u hparsed' hinvalid, Task.result_done, Task.result_done,
      invalidError, invalidError, heq]
    cases hm : invalidMessage t (Spec.resolveAll registry r.rules).1.invalid with
    | error f => exact .failed (hown f hm)
    | ok message => exact .refused rfl rfl rfl

end Run
end Request
end Rulebook
