import Rulebook.Proofs.CheckDocument
import Rulebook.Proofs.Placeholder

/-!
# A verdict on every word

The command that validates one word writes what comes of the request for the value that the word stands
for (`Command.Answers`): it writes that the value is valid and ends with 0, or writes the message of the
refusal and ends with 1.  A request from a command always ends in one of these two ways
(`Request.isVerdict_run`), because the bundled message for a refusal without one of its own can be made
whatever the value is.

So the command answers exactly when the word has a value (`Command.answers_iff`), whoever reads the
documents.  A word has no value when reading it as a document ends with a failure of the reader's own,
which is not taken for a word that is no document: the command ends with that failure.  The reader of
YAML documents has such failures for what looks like a date, a time or a number that does not exist.
-/

set_option autoImplicit false

namespace Rulebook

/-! ## Requests that end with a verdict -/

namespace Request

variable {r : Request} {cur fb : String} {entry : RuleEntry}

/-- An ending that is no failure: nothing is objected to, or the request is refused. -/
inductive IsVerdict : Ending → Prop
  | passed : IsVerdict none
  | refused (e : RuleError) : IsVerdict (some (.refused e))

variable [Platform]

/-- The bundled message of a rule that has none of its own names the rule only. -/
theorem succeeds_defaultMessage_bundled (ctx : RuleContext) (rule : Value) :
    Succeeds (defaultMessage (.bundled cur fb) ctx rule) := by
  refine FailsOnly.succeeds (Translator.failsOnly_translate_bundled cur fb "invalidMessage" rfl ?_)
  exact Showable.nil.skip (by decide) _
    |>.skip (by decide) _
    |>.skip (by decide) _
    |>.skip (by decide) _
    |>.skip (by decide) _
    |>.cons _ (failsOnly_ok _)

theorem isVerdict_conclude {j : Judgement} (hj : FailsOnly Failure.IsOwn j) :
    IsVerdict (r.conclude (.bundled cur fb) entry (j.map Verdict.toValue)) := by
  have hmessage : Succeeds (message? (.bundled cur fb) (r.contextFor (.bundled cur fb) entry)
      entry.rule (j.map Verdict.toValue)) := by
    cases j with
    | error f =>
      have hmessage := succeeds_failureMessage (hj f rfl).succeeds_text
      exact succeeds_bind_pure_iff.mpr hmessage
    | ok verdict =>
      cases verdict with
      | pass => exact succeeds_ok none
      | fail message =>
        show Succeeds (message? _ _ _ (.ok (.text message)))
        rw [message?]
        split
        · exact succeeds_bind_pure_iff.mpr (succeeds_defaultMessage_bundled _ _)
        · exact succeeds_ok _
  obtain ⟨message, hmessage⟩ := hmessage
  rw [conclude, hmessage]
  cases message with
  | none => exact .passed
  | some message => exact .refused _

section Run

variable (hr : Twins r r)
include hr

theorem isVerdict_runEntry (host : Host) (he : entry.IsStandard) :
    IsVerdict (r.runEntry host (.bundled cur fb) entry).result := by
  have hshares : Translator.Shares (.bundled cur fb) (.bundled cur fb) :=
    ⟨Translator.isSilent_bundled cur fb, Translator.legible_bundled cur fb, fun _ ↦ rfl⟩
  obtain ⟨s, hs⟩ := he.rule
  have hown := (RuleContext.twin_judge (alike_contextFor hr hshares he) s).own
  rw [result_runEntry_of_standard hs,
    result_afterRule r (.bundled cur fb) entry (isOrdinary_of_failsOnly hown)]
  exact isVerdict_conclude hown

theorem isVerdict_runEntries (host : Host) {entries : List RuleEntry}
    (hentries : ∀ e ∈ entries, e.IsStandard) :
    IsVerdict (r.runEntries host (.bundled cur fb) entries).result := by
  induction entries with
  | nil => exact .passed
  | cons entry rest ih =>
    obtain ⟨he, hrest⟩ := List.forall_mem_cons.mp hentries
    have hfirst : IsVerdict (r.runEntry host (.bundled cur fb) entry).result :=
      isVerdict_runEntry hr host he
    rw [runEntries, Task.result_bind]
    revert hfirst
    generalize (r.runEntry host (.bundled cur fb) entry).result = first
    intro hfirst
    cases hfirst with
    | passed => exact ih hrest
    | refused e => exact .refused e

/-- **A request from a document ends with a verdict.** -/
theorem isVerdict_run (host : Host) {registry : Registry} (hregistry : registry.IsStandard) :
    IsVerdict (r.run host registry (.bundled cur fb)).result := by
  have hparsed := (Prod.eta (Spec.resolveAll registry r.rules)).symm
  by_cases hinvalid : (Spec.resolveAll registry r.rules).1.invalid = []
  · rw [(run_of_valid r host registry (.bundled cur fb) hparsed hinvalid).2]
    obtain ⟨specs, hspecs, hdata⟩ := hr.specs
    rw [hspecs]
    exact isVerdict_runEntries hr host (Spec.isStandard_resolveAll hregistry hdata)
  · obtain ⟨message, hmessage⟩ := exists_invalidError (r := r)
      (Translator.legible_bundled cur fb) (Spec.resolveAll registry r.rules).1.invalid
    rw [run_of_invalid r host registry (.bundled cur fb) hparsed hinvalid, Task.result_done,
      hmessage]
    exact .refused _

end Run
end Request

namespace Command

variable {w : Surroundings} {reader : DocumentReader} {word : String} {rules : List String}
  {field loc : Option String} {raw verbose : Bool} {value : Value}

/-! ## The value of a word -/

/-- The value that a word is meant to stand for: that of the document it is, or the word itself when it
is none or is to be taken as it is. -/
def meaning (reader : DocumentReader) (word : String) (raw : Bool) : Value :=
  if raw then .text word
  else
    match reader.ofText word with
    | .ok v => v
    | .error _ => .text word

theorem isData_meaning (hreader : reader.YieldsData) (word : String) (raw : Bool) :
    (meaning reader word raw).IsData := by
  rw [meaning]
  split
  · exact .text word
  · split
    · exact hreader.ofText _ _ ‹_›
    · exact .text word

theorem wordValue_eq_meaning (h : raw = true ∨ ∀ f, reader.ofText word ≠ .error (.failed f)) :
    wordValue reader word raw = .ok (meaning reader word raw) := by
  cases raw with
  | true => rfl
  | false =>
    rw [wordValue, meaning, if_neg Bool.false_ne_true, if_neg Bool.false_ne_true]
    cases hread : reader.ofText word with
    | ok v => rfl
    | error refusal =>
      cases refusal with
      | malformed => rfl
      | failed f => exact (h.resolve_left Bool.false_ne_true f hread).elim

/-! ## The request -/

/-- The request for a value. -/
def request (value : Value) (rules : List String) (field : Option String) : Request where
  value := value
  rules := .list (rules.map .text)
  fieldName := RuleError.textOrNull field
  context := .null
  extra := []

/-- What comes of a request under the settings of a command. -/
def ending [Platform] (w : Surroundings) (loc : Option String) (r : Request) : Request.Ending :=
  (r.run Host.none (Registry.empty.registerStandard true).1
    (.bundled (settings w loc).current (settings w loc).fallback)).result

/-- The request for data is one from a document. -/
theorem twins_request (hvalue : value.IsData) (rules : List String) (field : Option String) :
    Request.Twins (request value rules field) (request value rules field) where
  value := rfl
  rules := rfl
  isData := hvalue
  specs := ⟨_, rfl, List.forall_mem_map.mpr fun s _ ↦ .text s⟩
  label t entry := by
    have hfield : (RuleError.textOrNull field).IsData := by
      cases field with
      | none => exact .null
      | some s => exact .text s
    rw [RuleContext.label]
    split
    · exact .null
    · split
      · exact hfield
      · exact .text ""

/-! ## Answers -/

/-- A run that says what came of a request: that nothing is objected to, with the code 0, or the message
of the refusal, with the code 1. -/
inductive Answers (w : Surroundings) : Request.Ending → Transcript → Prop
  | valid (err : List String) : Answers w none ⟨[w.written "✓ Valid"], err, .code 0⟩
  | refused (e : RuleError) (err : List String) :
      Answers w (some (.refused e)) ⟨[w.written e.message], err, .code 1⟩

theorem not_answers_failed (found : Request.Ending) (f : Failure) :
    ¬ Answers w found (.failed f) := by
  intro h
  generalize hfailed : Transcript.failed f = t at h
  cases h <;> cases hfailed

section Run

variable [Platform]
variable (hfolder : Settings.said (w.environment "RULEFORGE_CATALOG_DIR") = none)
include hfolder

/-- Without a value there is no answer. -/
theorem run_of_wordValue_error {f : Failure} (h : wordValue w.reader word raw = .error f) :
    (Invocation.mk verbose (.validate word rules field loc raw)).run w = .failed f := by
  show Transcript.ofExcept (runValidate w verbose word rules field loc raw) = _
  rw [runValidate, validator_eq hfolder, h]
  rfl

/-- A failure of the reader's own ends the run. -/
theorem run_of_failed {f : Failure} (h : w.reader.ofText word = .error (.failed f)) :
    (Invocation.mk verbose (.validate word rules field loc false)).run w = .failed f := by
  refine run_of_wordValue_error hfolder ?_
  rw [wordValue, if_neg Bool.false_ne_true, h]

/-- With a value there is an answer. -/
theorem answers_of_wordValue (h : wordValue w.reader word raw = .ok value) (hvalue : value.IsData) :
    Answers w (ending w loc (request value rules field))
      ((Invocation.mk verbose (.validate word rules field loc raw)).run w) := by
  have hverdict : Request.IsVerdict (ending w loc (request value rules field)) :=
    Request.isVerdict_run (twins_request hvalue rules field) Host.none
      Registry.isStandard_registerStandard
  show Answers w _ (Transcript.ofExcept (runValidate w verbose word rules field loc raw))
  generalize hending : ending w loc (request value rules field) = found at hverdict
  rw [ending, request] at hending
  simp only [runValidate, validator_eq hfolder, h, bind, Except.bind, hending]
  cases hverdict with
  | passed => exact .valid _
  | refused e => exact .refused e _

/-- **The command answers exactly when the word has a value**: not when reading the word as a document
ends with a failure of the reader's own, and then the run ends with that failure. -/
theorem answers_iff (hreader : w.reader.YieldsData) (verbose : Bool) (word : String)
    (rules : List String) (field loc : Option String) (raw : Bool) :
    (Answers w (ending w loc (request (meaning w.reader word raw) rules field))
        ((Invocation.mk verbose (.validate word rules field loc raw)).run w) ↔
      raw = true ∨ ∀ f, w.reader.ofText word ≠ .error (.failed f)) ∧
    ∀ f, raw = false → w.reader.ofText word = .error (.failed f) →
      (Invocation.mk verbose (.validate word rules field loc raw)).run w = .failed f := by
  refine ⟨⟨fun hanswers ↦ ?_, fun h ↦ ?_⟩, ?_⟩
  · by_contra hnot
    obtain ⟨rfl, f, hf⟩ : raw = false ∧ ∃ f, w.reader.ofText word = .error (.failed f) := by
      simpa using hnot
    rw [run_of_failed hfolder hf] at hanswers
    exact not_answers_failed _ f hanswers
  · exact answers_of_wordValue hfolder (wordValue_eq_meaning h) (isData_meaning hreader word raw)
  · rintro f rfl hf
    exact run_of_failed hfolder hf

end Run

/-! ## Two words -/

namespace Word

open scoped Platform

/-- Surroundings without settings and files, in which YAML documents are read. -/
def surroundings : Surroundings where
  environment := fun _ ↦ none
  find := fun _ ↦ .nothing
  reader := Yaml.reader
  written := Text.plainLine

theorem ofText_surroundings (s : String) : surroundings.reader.ofText s = Yaml.read s.toList := rfl

/-- A word that writes a number is valid where a number is asked for. -/
theorem answers_number :
    surroundings.reader.YieldsData ∧
      Answers surroundings none
        ((Invocation.mk false (.validate "42" ["Number"] none none false)).run surroundings) := by
  have hvalid : (match Yaml.read "42".toList with
      | .ok value => (ending surroundings none (request value ["Number"] none)).isNone
      | .error _ => false) = true := by
    decide +kernel
  refine ⟨Yaml.yieldsData_reader, ?_⟩
  split at hvalid
  · rename_i value hread
    have hanswers := (answers_iff (w := surroundings) rfl Yaml.yieldsData_reader false "42" ["Number"]
      none none false).1.mpr (.inr fun f ↦ by
        rw [ofText_surroundings, hread]
        exact nofun)
    have hmeaning : meaning surroundings.reader "42" false = value := by
      rw [meaning, if_neg Bool.false_ne_true, ofText_surroundings, hread]
    rwa [hmeaning, Option.isNone_iff_eq_none.mp hvalid] at hanswers
  · cases hvalid

/-- A word that looks like a date of a month that does not exist has no answer, whatever is asked. -/
theorem not_forall_answers :
    ¬ ∀ (w : Surroundings) (verbose : Bool) (word : String) (rules : List String)
      (field loc : Option String) (raw : Bool),
      Settings.said (w.environment "RULEFORGE_CATALOG_DIR") = none → w.reader.YieldsData →
      Answers w (ending w loc (request (meaning w.reader word raw) rules field))
        ((Invocation.mk verbose (.validate word rules field loc raw)).run w) := by
  intro hall
  have hfails : (match Yaml.read "2024-13-45".toList with
      | .error (.failed _) => true
      | _ => false) = true := by
    decide +kernel
  have hanswers := hall surroundings false "2024-13-45" ["Required"] none none false rfl
    Yaml.yieldsData_reader
  split at hfails
  · rename_i f hf
    rw [← ofText_surroundings] at hf
    rw [run_of_failed (w := surroundings) rfl hf] at hanswers
    exact not_answers_failed _ f hanswers
  · cases hfails

end Word

end Command
end Rulebook
