import Rulebook.Files.Document
import Rulebook.Proofs.Document
import Rulebook.Proofs.EmptyDocument
import Rulebook.Proofs.Refusal
import Rulebook.Proofs.Utf8

/-!
# What is known of a reader of files

Those who load files rely on four things (`DocumentReader.ReadsFiles`): what a file holds is data, a file
that holds something writes a text, a file without a token holds null, and a failure of the reader's own
is of one of seven families.  The reader of YAML documents does as they expect
(`Yaml.readsFiles_reader`).

What it may fail with is followed from the scalars (`Means`) through the results that are put together
(`BuildsProperly`) to the document (`Yaml.isProper_of_read_eq_error`).
-/

set_option autoImplicit false

namespace Rulebook
namespace DocumentReader

/-- The families under which a reader of documents may fail: bytes that write no text, parts of a text
that have the form of something and stand for nothing, and nesting that is too deep. -/
def ownKinds : List FailureKind :=
  [.decoding, .valueError, .keyError, .index, .missingAttribute, .overflow, .recursion]

/-- What those who load files rely on. -/
structure ReadsFiles (r : DocumentReader) : Prop extends r.YieldsData where
  /-- A file that holds something writes a text. -/
  writes : ∀ bytes v, r.ofBytes bytes = .ok v → ∃ cs, bytes = Text.utf8 cs
  /-- A file without a token holds null. -/
  idle : ∀ cs, Yaml.HasNoToken (Text.unifyLineEnds cs) → r.ofBytes (Text.utf8 cs) = .ok .null
  /-- A failure is of one of the families. -/
  kind_mem : ∀ bytes f, r.ofBytes bytes = .error (.failed f) → f.kind ∈ ownKinds

end DocumentReader

namespace Yaml

/-! ## Scalars

A tag that is written out may ask for a number, a truth value or a moment where there is none, and a
moment may have the form of one and not be in the calendar. -/

section Scalar

variable (text : String) (cs : List Char)

/-- A computation that fails only because a text stands for nothing. -/
abbrev Means {α : Type} (x : Except Failure α) : Prop := FailsOnly Failure.IsMeaningless x

theorem means_integerIn (base : Nat) : Means (integerIn base cs) := by
  rw [integerIn]
  dsimp only
  split
  · exact failsOnly_error trivial
  split
  · exact failsOnly_error trivial
  · exact failsOnly_ok _

theorem means_signedPart : Means (signedPart text) := by
  rw [signedPart]
  dsimp only
  split
  · exact failsOnly_error trivial
  · exact failsOnly_ok _

theorem means_integer : Means (integer text) := by
  refine (means_signedPart text).bind fun ⟨negative, cs⟩ _ ↦ ?_
  have hlast {x : Except Failure Int} (h : Means x) : Means (do
      let n ← x
      return Value.int (if negative then -n else n)) :=
    h.bind fun _ _ ↦ failsOnly_ok _
  dsimp only
  split
  · exact hlast (failsOnly_ok 0)
  · exact hlast (means_integerIn _ _)
  · exact hlast (means_integerIn _ _)
  · exact hlast (means_integerIn _ _)
  · exact failsOnly_error trivial
  split
  · refine (failsOnly_mapM fun part _ ↦ means_integerIn part 10).bind fun parts _ ↦ ?_
    exact hlast (failsOnly_ok (baseSixty parts))
  · exact hlast (means_integerIn _ _)

theorem means_double : Means (double cs) := by
  rw [double]
  split
  · exact failsOnly_ok _
  · exact failsOnly_error trivial

theorem means_float : Means (float text) := by
  refine (means_signedPart text).bind fun ⟨negative, cs⟩ _ ↦ ?_
  have hlast {x : Except Failure Double} (h : Means x) : Means (do
      let x ← x
      return Value.float (if negative then x.negate else x)) :=
    h.bind fun _ _ ↦ failsOnly_ok _
  dsimp only
  split
  · exact hlast (failsOnly_ok _)
  split
  · exact hlast (failsOnly_ok _)
  split
  · refine (failsOnly_mapM fun part _ ↦ means_double part).bind fun parts _ ↦ ?_
    exact hlast (failsOnly_ok (doubleBaseSixty parts))
  · exact hlast (means_double _)

theorem means_truth : Means (truth text) := by
  rw [truth]
  split
  · exact failsOnly_ok _
  · exact failsOnly_error trivial

theorem means_zoneMinutes (zone : Option (Option Bool × List Char × List Char)) :
    Means (zoneMinutes zone) := by
  unfold zoneMinutes
  split
  · exact failsOnly_ok _
  · exact failsOnly_ok _
  · dsimp only
    split
    · exact failsOnly_ok _
    · exact failsOnly_error trivial

theorem means_inCalendar (m : Moment) : Means (inCalendar m) := by
  unfold inCalendar
  repeat' split
  all_goals first | exact failsOnly_ok _ | exact failsOnly_error trivial

theorem means_timestamp : Means (timestamp text) := by
  rw [timestamp]
  split
  · exact failsOnly_error ⟨rfl, rfl⟩
  dsimp only
  split
  · exact (means_inCalendar _).bind fun m _ ↦ failsOnly_ok _
  · refine (means_zoneMinutes _).bind fun zone _ ↦ ?_
    exact (means_inCalendar _).bind fun m _ ↦ failsOnly_ok _

end Scalar

/-! ## Documents -/

section Build

variable {α β : Type}

/-- A result that goes wrong in a proper way only. -/
def BuildsProperly (x : Built α) : Prop := ∀ e, x = .error e → e.2.IsProper

theorem buildsProperly_ok (a : α) : BuildsProperly (.ok a) := nofun

theorem buildsProperly_malformed (depth : Nat) :
    BuildsProperly (.error (depth, .malformed) : Built α) :=
  fun _ h ↦ Except.error.inj h ▸ trivial

theorem BuildsProperly.bind {x : Built α} {f : α → Built β} (hx : BuildsProperly x)
    (hf : ∀ a, BuildsProperly (f a)) : BuildsProperly (x >>= f) := by
  cases x with
  | error e => exact fun e' he ↦ hx e' (congrArg Except.error (Except.error.inj he))
  | ok a => exact hf a

theorem BuildsProperly.map {x : Built α} (h : BuildsProperly x) (f : α → β) :
    BuildsProperly (x.map f) :=
  h.bind fun a ↦ buildsProperly_ok (f a)

/-- What goes wrong with several results is what goes wrong with one of them. -/
theorem mem_of_together_eq_error {xs : List (Built α)} {e : Nat × Refusal}
    (h : together xs = .error e) : .error e ∈ xs := by
  induction xs with
  | nil => cases h
  | cons x r ih =>
    rw [together.eq_def] at h
    dsimp only at h
    split at h <;> rename_i hr
    · cases h
    · cases h
      exact List.mem_cons_of_mem _ (ih hr)
    · cases h
      exact List.mem_cons_self
    · rw [Except.error.injEq] at h
      split at h <;> subst h
      · exact List.mem_cons_self
      · exact List.mem_cons_of_mem _ (ih hr)

theorem buildsProperly_together {xs : List (Built α)} (h : ∀ x ∈ xs, BuildsProperly x) :
    BuildsProperly (together xs) :=
  fun e he ↦ h _ (mem_of_together_eq_error he) e rfl

theorem buildsProperly_pair {key value : Built Value} (hkey : BuildsProperly key)
    (hvalue : BuildsProperly value) : BuildsProperly (pair key value) := by
  have h : BuildsProperly (together [key, value]) :=
    buildsProperly_together (by simp [hkey, hvalue])
  refine h.bind fun vs ↦ ?_
  split
  · exact buildsProperly_ok _
  · exact buildsProperly_malformed 0

theorem buildsProperly_atDepth {x : Except Failure α} (h : Means x) (depth : Nat) :
    BuildsProperly (atDepth depth x) := by
  cases x with
  | error f => exact fun e he ↦ Except.error.inj he ▸ h f rfl
  | ok a => exact buildsProperly_ok a

theorem buildsProperly_scalarValue (depth : Nat) (tag : Tag) (text : String) :
    BuildsProperly (scalarValue depth tag text) := by
  rw [scalarValue.eq_def]
  split
  · exact buildsProperly_ok _
  · exact buildsProperly_atDepth (means_truth text) depth
  · exact buildsProperly_atDepth (means_integer text) depth
  · exact buildsProperly_atDepth (means_float text) depth
  · exact buildsProperly_atDepth (means_timestamp text) depth
  · exact buildsProperly_ok _
  · dsimp only
    split
    · split
      · exact buildsProperly_ok _
      · exact buildsProperly_malformed depth
    · exact buildsProperly_malformed depth
  · exact buildsProperly_malformed depth

theorem buildsProperly_build (fuel depth : Nat) (n : Node) :
    BuildsProperly (build fuel depth n) := by
  induction fuel generalizing depth n with
  | zero => exact buildsProperly_malformed depth
  | succ fuel ih =>
    have hentries (es : List (Node × Node)) :
        BuildsProperly (together (es.map fun e ↦
          if e.1.tag.isContainer then .error (depth + 1, .malformed)
          else pair (build fuel (depth + 1) e.1) (build fuel (depth + 1) e.2))) := by
      refine buildsProperly_together (List.forall_mem_map.mpr fun e _ ↦ ?_)
      split
      · exact buildsProperly_malformed _
      · exact buildsProperly_pair (ih _ _) (ih _ _)
    rw [build.eq_def]
    dsimp only
    split
    · split
      · exact (buildsProperly_together (List.forall_mem_map.mpr fun item _ ↦ ih _ item)).map _
      · exact buildsProperly_malformed _
    · refine BuildsProperly.map ?_ _
      split
      · exact buildsProperly_malformed _
      · exact hentries _
    · refine BuildsProperly.map ?_ _
      split
      · exact buildsProperly_malformed _
      · exact hentries _
    -- An ordered mapping and a list of pairs are both lists of pairs.
    iterate 2
      split
      · refine (buildsProperly_together (List.forall_mem_map.mpr fun item _ ↦ ?_)).map _
        split
        · exact buildsProperly_pair (ih _ _) (ih _ _)
        · exact buildsProperly_malformed _
      · exact buildsProperly_malformed _
    · split
      · exact buildsProperly_scalarValue _ _ _
      · exact buildsProperly_malformed _

/-- **A document is refused for its form, or for a part that stands for nothing.** -/
theorem isProper_of_read_eq_error {text : List Char} {r : Refusal} (h : read text = .error r) :
    r.IsProper := by
  rw [read] at h
  cases hnodes : Node.ofTokens (tokens text) with
  | error e =>
    rw [hnodes] at h
    cases h
    exact isProper_of_ofTokens_eq_error isProper_of_mem_tokens hnodes
  | ok found =>
    rw [hnodes] at h
    cases found with
    | none => cases h
    | some n =>
      dsimp only [bind, Except.bind] at h
      split at h <;> rename_i heq <;> cases h
      exact buildsProperly_build _ _ _ _ heq

end Build

/-- **The reader of YAML documents reads files as it is expected to.** -/
theorem readsFiles_reader : reader.ReadsFiles where
  toYieldsData := yieldsData_reader
  writes bytes v h := by
    change readFile bytes = .ok v at h
    rw [readFile] at h
    split at h
    · cases h
    · exact ⟨_, Text.decodeUtf8_eq_ok_iff.mp ‹_›⟩
  idle cs h := by
    change readFile (Text.utf8 cs) = .ok .null
    rw [readFile, Text.decodeUtf8_eq_ok_iff.mpr rfl]
    exact read_eq_null h
  kind_mem bytes f h := by
    change readFile bytes = .error (.failed f) at h
    rw [readFile] at h
    split at h
    · rename_i hbytes
      cases h
      rw [Text.kind_of_decodeUtf8_eq_error hbytes]
      decide
    · have hf : f.IsMeaningless := isProper_of_read_eq_error h
      exact List.mem_cons_of_mem _ (List.mem_append_left [FailureKind.recursion] hf.kind_mem)

end Yaml
end Rulebook
