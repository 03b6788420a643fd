import Rulebook.Catalog.Folder
import Rulebook.Proofs.DocumentReader

/-!
# What comes of loading a catalog file

Loading a catalog is meant to give a mapping, or a failure of the catalogs' own family
(`Catalog.Settles`): a file may be missing, its structure may be malformed, and it may hold something else
than a mapping.  It does so for every reader of documents, except when the reader fails in a way of its
own: that failure is not stopped (`Catalog.ofFile_outcomes`).  Bytes that write no text never give a
catalog.
-/

set_option autoImplicit false

namespace Rulebook
namespace Catalog

variable {reader : DocumentReader} {path : String} {content : Option (List UInt8)}

/-- Loading comes to a catalog, or ends with a failure of the catalogs' own family. -/
def Settles (x : Except Failure Catalog) : Prop := FailsOnly (fun f ↦ f.kind = .catalog) x

/-- What a reader makes of a file: it knows what the file holds, or it finds no document in it, but it
does not fail in a way of its own. -/
def IsUnderstood (reader : DocumentReader) (bytes : List UInt8) : Prop :=
  (∃ v, reader.ofBytes bytes = .ok v) ∨ reader.ofBytes bytes = .error .malformed

/-- A failure of the catalogs' own family says which file it is about: one that cannot be read, or one
that holds no mapping. -/
inductive IsCatalogFault (path : String) : Failure → Prop
  | unreadable : IsCatalogFault path (.unreadableCatalog path)
  | notMapping : IsCatalogFault path (.catalogNotMapping path)

theorem IsCatalogFault.kind_eq {f : Failure} (h : IsCatalogFault path f) : f.kind = .catalog := by
  cases h <;> rfl

theorem IsCatalogFault.message_eq {f : Failure} (h : IsCatalogFault path f) :
    f.message = "Cannot load translation catalog " ++ path ∨
      f.message = "Translation catalog " ++ path ++ " must contain a mapping" := by
  cases h with
  | unreadable => exact .inl rfl
  | notMapping => exact .inr rfl

/-- A file that is missing, or that the reader understands, settles. -/
theorem failsOnly_ofFile (h : ∀ bytes ∈ content, IsUnderstood reader bytes) :
    FailsOnly (IsCatalogFault path) (ofFile reader path content) := by
  cases content with
  | none => exact failsOnly_error .unreadable
  | some bytes =>
    rw [ofFile]
    rcases h bytes rfl with ⟨v, hv⟩ | hmalformed
    · rw [hv]
      cases v with
      | null | dict => exact failsOnly_ok _
      | _ => exact failsOnly_error .notMapping
    · rw [hmalformed]
      exact failsOnly_error .unreadable

/-- A failure of the reader's own is not stopped. -/
theorem ofFile_of_failed {bytes : List UInt8} {f : Failure}
    (h : reader.ofBytes bytes = .error (.failed f)) : ofFile reader path (some bytes) = .error f := by
  rw [ofFile, h]

theorem isUnderstood_or (bytes : List UInt8) :
    IsUnderstood reader bytes ∨ ∃ f, reader.ofBytes bytes = .error (.failed f) := by
  rw [IsUnderstood]
  cases reader.ofBytes bytes with
  | ok v => exact .inl (.inl ⟨v, rfl⟩)
  | error refusal =>
    cases refusal with
    | malformed => exact .inl (.inr rfl)
    | failed f => exact .inr ⟨f, rfl⟩

/-- What is loaded is nothing, or the mapping that the file holds. -/
theorem of_ofFile_eq_ok {es : Catalog} (h : ofFile reader path content = .ok es) :
    ∃ bytes, content = some bytes ∧
      (reader.ofBytes bytes = .ok .null ∧ es = [] ∨ reader.ofBytes bytes = .ok (.dict es)) := by
  cases content with
  | none => cases h
  | some bytes =>
    refine ⟨bytes, rfl, ?_⟩
    rw [ofFile] at h
    split at h <;> cases h
    · exact .inl ⟨‹_›, rfl⟩
    · exact .inr ‹_›

section ReadsFiles

variable (hreader : reader.ReadsFiles)
include hreader

/-- Either a file settles, or the reader fails in a way of its own, and never both. -/
theorem ofFile_cases (path : String) (content : Option (List UInt8)) :
    ((∀ bytes ∈ content, IsUnderstood reader bytes) ∧
      FailsOnly (IsCatalogFault path) (ofFile reader path content)) ∨
    (¬ (∀ bytes ∈ content, IsUnderstood reader bytes) ∧
      ∃ f, f.kind ∈ DocumentReader.ownKinds ∧ ofFile reader path content = .error f) := by
  by_cases h : ∀ bytes ∈ content, IsUnderstood reader bytes
  · exact .inl ⟨h, failsOnly_ofFile h⟩
  · refine .inr ⟨h, ?_⟩
    obtain ⟨bytes, hbytes, hnot⟩ : ∃ bytes ∈ content, ¬ IsUnderstood reader bytes := by
      simpa using h
    obtain ⟨f, hf⟩ := (isUnderstood_or bytes).resolve_left hnot
    obtain rfl : content = some bytes := hbytes
    exact ⟨f, hreader.kind_mem bytes f hf, ofFile_of_failed hf⟩

/-- **What comes of loading a catalog.**  It settles for a file that is missing, and otherwise exactly when
the reader understands the file.  What is loaded is a mapping of data, and a file that writes no text is
never loaded; a file without a token is an empty catalog.  A failure of the catalogs' own family says
which file it is about, and every other failure is of one of the reader's own families. -/
theorem ofFile_outcomes (path : String) (content : Option (List UInt8)) :
    (Settles (ofFile reader path content) ↔ ∀ bytes ∈ content, IsUnderstood reader bytes) ∧
    (∀ es, ofFile reader path content = .ok es → (Value.dict es).IsData ∧
      ∃ cs, content = some (Text.utf8 cs) ∧ (reader.ofBytes (Text.utf8 cs) = .ok (.dict es) ∨
        reader.ofBytes (Text.utf8 cs) = .ok .null ∧ es = [])) ∧
    (∀ cs, content = some (Text.utf8 cs) → Yaml.HasNoToken (Text.unifyLineEnds cs) →
      ofFile reader path content = .ok []) ∧
    ∀ f, ofFile reader path content = .error f →
      (f.kind = .catalog ∧ (f.message = "Cannot load translation catalog " ++ path ∨
        f.message = "Translation catalog " ++ path ++ " must contain a mapping")) ∨
      f.kind ∈ DocumentReader.ownKinds := by
  refine ⟨?_, fun es hes ↦ ?_, ?_, fun f hf ↦ ?_⟩
  · rcases ofFile_cases hreader path content with ⟨hunderstood, h⟩ | ⟨hnot, f, hf, h⟩
    · exact iff_of_true (h.mono fun f hf ↦ hf.kind_eq) hunderstood
    · refine iff_of_false (fun hsettles ↦ ?_) hnot
      rw [hsettles f h] at hf
      exact absurd hf (by decide)
  · obtain ⟨bytes, rfl, h⟩ := of_ofFile_eq_ok hes
    rcases h with ⟨hnull, rfl⟩ | hdict
    · obtain ⟨cs, rfl⟩ := hreader.writes bytes _ hnull
      exact ⟨.dict nofun nofun .nil, cs, rfl, .inr ⟨hnull, rfl⟩⟩
    · obtain ⟨cs, rfl⟩ := hreader.writes bytes _ hdict
      exact ⟨hreader.ofBytes _ _ hdict, cs, rfl, .inl hdict⟩
  · rintro cs rfl h
    rw [ofFile, hreader.idle cs h]
  · rcases ofFile_cases hreader path content with ⟨-, h⟩ | ⟨-, g, hg, h⟩
    · exact .inl ⟨(h f hf).kind_eq, (h f hf).message_eq⟩
    · exact .inr (Except.error.inj (h.symm.trans hf) ▸ hg)

end ReadsFiles

/-- With the reader of YAML documents, a comment is an empty catalog, and bytes that write no text do not
settle. -/
theorem ofFile_outcomes_yaml :
    Yaml.reader.ReadsFiles ∧
      ofFile Yaml.reader "en.yaml" (some (Text.utf8 "# none".toList)) = .ok [] ∧
      ¬ Settles (ofFile Yaml.reader "en.yaml" (some [0xff])) := by
  have hcomment : Yaml.HasNoToken (Text.unifyLineEnds "# none".toList) :=
    .last ⟨[], "# none".toList, rfl, List.forall_mem_nil _,
      .inr ⟨" none".toList, rfl, by simp [Yaml.isBreak, Yaml.isAllowed]⟩⟩
  have hbytes : Yaml.reader.ofBytes [0xff] =
      .error (.failed (.undecodable 0 1 0xff "invalid start byte")) := rfl
  refine ⟨Yaml.readsFiles_reader, ?_, fun hsettles ↦ ?_⟩
  · exact (ofFile_outcomes Yaml.readsFiles_reader "en.yaml" _).2.2.1 _ rfl hcomment
  · rcases (ofFile_outcomes Yaml.readsFiles_reader "en.yaml" _).1.mp hsettles _ rfl with
      ⟨v, hv⟩ | hmalformed
    · cases hbytes.symm.trans hv
    · cases hbytes.symm.trans hmalformed

/-- A byte that begins no character is one way out. -/
theorem not_forall_settles :
    ¬ ∀ (reader : DocumentReader) (path : String) (content : Option (List UInt8)),
      reader.ReadsFiles → Settles (ofFile reader path content) := by
  intro h
  exact absurd (h Yaml.reader "catalog.yaml" (some [0xff]) Yaml.readsFiles_reader _ rfl) (by decide)

end Catalog
end Rulebook
