import Rulebook.Files.Document
import Rulebook.Proofs.Data

/-!
# What is read from a document is data

The reader of YAML documents comes to data and to nothing else (`Yaml.yieldsData_reader`): every scalar
is, and a container is put together from what its parts come to.  A mapping that is put together entry
by entry has no key twice, because an entry whose key is there already replaces the value
(`Value.insert`).
-/

set_option autoImplicit false

namespace Rulebook

namespace Value

variable {es : List Entry} {k v : Value}

/-! ## Mappings put together entry by entry -/

/-- An entry of a mapping into which a value is put is an entry that was there, under its key the value
that is put, or the one that is put. -/
theorem mem_insert {e : Entry} (he : e ∈ insert k v es) :
    (e.1 = k ∨ ∃ d ∈ es, d.1 = e.1) ∧ (e.2 = v ∨ ∃ d ∈ es, d.2 = e.2) := by
  induction es with
  | nil =>
    obtain rfl := List.mem_singleton.mp he
    exact ⟨.inl rfl, .inl rfl⟩
  | cons d r ih =>
    obtain ⟨l, w⟩ := d
    rw [insert] at he
    split at he
    · rcases List.mem_cons.mp he with rfl | he
      · exact ⟨.inr ⟨(l, w), by simp⟩, .inl rfl⟩
      · exact ⟨.inr ⟨e, by simp [he]⟩, .inr ⟨e, by simp [he]⟩⟩
    · rcases List.mem_cons.mp he with rfl | he
      · exact ⟨.inr ⟨(l, w), by simp⟩, .inr ⟨(l, w), by simp⟩⟩
      · obtain ⟨hkey, hvalue⟩ := ih he
        refine ⟨hkey.imp_right ?_, hvalue.imp_right ?_⟩ <;>
        · rintro ⟨d, hd, heq⟩
          exact ⟨d, List.mem_cons_of_mem _ hd, heq⟩

/-- No two keys are the same. -/
def Distinct (es : List Entry) : Prop := es.Pairwise fun a b ↦ sameKey a.1 b.1 = false

theorem Distinct.insert (h : Distinct es) (k v : Value) : Distinct (Value.insert k v es) := by
  induction es with
  | nil => exact List.pairwise_singleton _ _
  | cons d r ih =>
    obtain ⟨l, w⟩ := d
    obtain ⟨hfirst, hrest⟩ := List.pairwise_cons.mp h
    rw [Value.insert]
    split
    · exact List.pairwise_cons.mpr ⟨hfirst, hrest⟩
    · rename_i hkey
      refine List.pairwise_cons.mpr ⟨fun e he ↦ ?_, ih hrest⟩
      rcases (mem_insert he).1 with heq | ⟨d, hd, heq⟩
      · exact heq ▸ Bool.eq_false_iff.mpr hkey
      · exact heq ▸ hfirst d hd

/-- A mapping of data with one more entry of data. -/
theorem IsData.insert (h : IsData (.dict es)) (hk : k.IsData) (hv : v.IsData) :
    IsData (.dict (Value.insert k v es)) := by
  cases h with
  | dict hkeys hvalues hdistinct =>
    refine .dict (fun e he ↦ ?_) (fun e he ↦ ?_) (Distinct.insert hdistinct k v)
    · rcases (mem_insert he).1 with heq | ⟨d, hd, heq⟩
      · exact heq ▸ hk
      · exact heq ▸ hkeys d hd
    · rcases (mem_insert he).2 with heq | ⟨d, hd, heq⟩
      · exact heq ▸ hv
      · exact heq ▸ hvalues d hd

theorem IsData.ofEntries (h : ∀ e ∈ es, e.1.IsData ∧ e.2.IsData) :
    IsData (.dict (Value.ofEntries es)) := by
  have hfold : ∀ acc, IsData (.dict acc) →
      IsData (.dict (es.foldl (fun acc e ↦ Value.insert e.1 e.2 acc) acc)) := by
    induction es with
    | nil => exact fun acc hacc ↦ hacc
    | cons e r ih =>
      obtain ⟨he, hr⟩ := List.forall_mem_cons.mp h
      exact fun acc hacc ↦ ih hr _ (hacc.insert he.1 he.2)
  exact hfold [] (.dict nofun nofun .nil)

theorem mem_distinct {vs : List Value} (h : v ∈ distinct vs) : v ∈ vs := by
  have hfold : ∀ acc, v ∈ vs.foldl (fun acc v ↦
      if acc.any (fun x ↦ sameKey x v) then acc else acc ++ [v]) acc → v ∈ acc ∨ v ∈ vs := by
    clear h
    induction vs with
    | nil => exact fun acc h ↦ .inl h
    | cons w r ih =>
      intro acc h
      rcases ih _ h with h | h
      · dsimp only at h
        split at h
        · exact .inl h
        · rcases List.mem_append.mp h with h | h
          · exact .inl h
          · exact .inr (List.mem_singleton.mp h ▸ List.mem_cons_self)
      · exact .inr (List.mem_cons_of_mem w h)
  simpa using hfold [] h

end Value

namespace Yaml

/-! ## Results put together -/

variable {α : Type}

theorem mem_of_together {xs : List (Built α)} {as : List α} (h : together xs = .ok as) :
    ∀ a ∈ as, .ok a ∈ xs := by
  induction xs generalizing as with
  | nil =>
    obtain rfl := Except.ok.inj h
    exact nofun
  | cons x r ih =>
    rw [together.eq_def] at h
    simp only at h
    split at h
    · rename_i b bs hr
      obtain rfl := Except.ok.inj h
      exact List.forall_mem_cons.mpr
        ⟨List.mem_cons_self, fun a ha ↦ List.mem_cons_of_mem _ (ih hr a ha)⟩
    all_goals cases h

theorem pair_eq_ok {key value : Built Value} {k v : Value} (h : pair key value = .ok (k, v)) :
    key = .ok k ∧ value = .ok v := by
  cases key <;> cases value <;> simp_all [pair, together, bind, Except.bind, pure, Except.pure]

theorem map_eq_ok {β : Type} {x : Built α} {f : α → β} {b : β} (h : x.map f = .ok b) :
    ∃ a, x = .ok a ∧ f a = b := by
  cases x with
  | error e => cases h
  | ok a => exact ⟨a, rfl, Except.ok.inj h⟩

/-! ## Scalars -/

/-- A computation that comes to data, if it comes to a result. -/
def YieldsData (x : Except Failure Value) : Prop := ∀ v, x = .ok v → v.IsData

theorem yieldsData_ok {v : Value} (h : v.IsData) : YieldsData (.ok v) :=
  fun _ hw ↦ Except.ok.inj hw ▸ h

theorem yieldsData_error (f : Failure) : YieldsData (.error f) := nofun

theorem yieldsData_bind {x : Except Failure α} {f : α → Except Failure Value}
    (h : ∀ a, YieldsData (f a)) : YieldsData (x >>= f) := by
  intro v hv
  obtain ⟨a, -, hv⟩ := bind_eq_ok hv
  exact h a v hv

theorem yieldsData_truth (text : String) : YieldsData (truth text) := by
  rw [truth]
  split
  · exact yieldsData_ok (.bool _)
  · exact yieldsData_error _

theorem yieldsData_integer (text : String) : YieldsData (integer text) := by
  refine yieldsData_bind fun ⟨negative, cs⟩ ↦ ?_
  have hlast : ∀ x : Except Failure Int, YieldsData (do
      let n ← x
      return .int (if negative then -n else n)) :=
    fun x ↦ yieldsData_bind fun n ↦ yieldsData_ok (.int _)
  dsimp only
  split
  all_goals try exact hlast _
  split
  · exact yieldsData_bind fun parts ↦ hlast _
  · exact hlast _

theorem yieldsData_float (text : String) : YieldsData (float text) := by
  refine yieldsData_bind fun ⟨negative, cs⟩ ↦ ?_
  have hlast : ∀ x : Except Failure Double, YieldsData (do
      let x ← x
      return .float (if negative then x.negate else x)) :=
    fun x ↦ yieldsData_bind fun x ↦ yieldsData_ok (.float _)
  dsimp only
  split
  · exact hlast _
  · split
    · exact hlast _
    · split
      · exact yieldsData_bind fun parts ↦ hlast _
      · exact hlast _

theorem yieldsData_timestamp (text : String) : YieldsData (timestamp text) := by
  rw [timestamp]
  split
  · exact yieldsData_error _
  · rename_i t _
    have hlast : ∀ clock, YieldsData (do
        let m ← inCalendar ⟨Numeral.digitsValue t.year, Numeral.digitsValue t.month,
          Numeral.digitsValue t.day, clock⟩
        return .moment m) :=
      fun clock ↦ yieldsData_bind fun m ↦ yieldsData_ok (.moment m)
    dsimp only
    split
    · exact yieldsData_bind fun clock ↦ hlast clock
    · exact yieldsData_bind fun zone ↦ yieldsData_bind fun clock ↦ hlast clock

theorem isData_of_scalarValue {depth : Nat} {tag : Tag} {text : String} {v : Value}
    (h : scalarValue depth tag text = .ok v) : v.IsData := by
  have hdepth : ∀ {x : Except Failure Value}, atDepth depth x = .ok v → x = .ok v := by
    intro x hx
    cases x with
    | error f => cases hx
    | ok w => exact congrArg Except.ok (Except.ok.inj hx)
  rw [scalarValue.eq_def] at h
  split at h
  · exact Except.ok.inj h ▸ .null
  · exact yieldsData_truth text v (hdepth h)
  · exact yieldsData_integer text v (hdepth h)
  · exact yieldsData_float text v (hdepth h)
  · exact yieldsData_timestamp text v (hdepth h)
  · exact Except.ok.inj h ▸ .text text
  · simp only at h
    split at h
    · split at h
      · exact Except.ok.inj h ▸ .bytes _
      · cases h
    · cases h
  · cases h

/-! ## Documents -/

/-- Entries whose keys and values are put together from data are data. -/
theorem isData_of_pairs {xs : List (Built (Value × Value))} {es : List Entry}
    (hes : together xs = .ok es) (h : ∀ x ∈ xs, ∀ k v, x = .ok (k, v) → k.IsData ∧ v.IsData) :
    ∀ e ∈ es, e.1.IsData ∧ e.2.IsData :=
  fun e he ↦ h _ (mem_of_together hes e he) e.1 e.2 rfl

/-- **What is built from a node is data.** -/
theorem isData_of_build {fuel depth : Nat} {n : Node} {v : Value}
    (h : build fuel depth n = .ok v) : v.IsData := by
  induction fuel generalizing depth n v with
  | zero => cases h
  | succ fuel ih =>
    -- The entries of a mapping are built from those of the node and of what is merged into it.
    have hentries : ∀ {ns : List (Node × Node)} {es : List Entry},
        together (ns.map fun e ↦ if e.1.tag.isContainer then .error (depth + 1, .malformed)
          else pair (build fuel (depth + 1) e.1) (build fuel (depth + 1) e.2)) = .ok es →
        ∀ e ∈ es, e.1.IsData ∧ e.2.IsData := by
      intro ns es hes
      refine isData_of_pairs hes fun x hx k v hkv ↦ ?_
      obtain ⟨e, -, rfl⟩ := List.mem_map.mp hx
      split at hkv
      · cases hkv
      · obtain ⟨hk, hv⟩ := pair_eq_ok hkv
        exact ⟨ih hk, ih hv⟩
    rw [build.eq_def] at h
    dsimp only at h
    split at h
    · split at h
      · obtain ⟨xs, hxs, rfl⟩ := map_eq_ok h
        refine .list fun x hx ↦ ?_
        obtain ⟨item, -, hitem⟩ := List.mem_map.mp (mem_of_together hxs x hx)
        exact ih hitem
      · cases h
    · obtain ⟨es, hes, rfl⟩ := map_eq_ok h
      split at hes
      · cases hes
      · exact .ofEntries (hentries hes)
    · obtain ⟨es, hes, rfl⟩ := map_eq_ok h
      split at hes
      · cases hes
      · refine .set fun x hx ↦ ?_
        obtain ⟨e, he, rfl⟩ := List.mem_map.mp (Value.mem_distinct hx)
        exact (hentries hes e he).1
    -- An ordered mapping and a list of pairs are both lists of pairs.
    iterate 2
      split at h
      · obtain ⟨es, hes, rfl⟩ := map_eq_ok h
        have hdata : ∀ e ∈ es, e.1.IsData ∧ e.2.IsData := by
          refine isData_of_pairs hes fun x hx k v hkv ↦ ?_
          obtain ⟨item, -, rfl⟩ := List.mem_map.mp hx
          split at hkv
          · obtain ⟨hk, hv⟩ := pair_eq_ok hkv
            exact ⟨ih hk, ih hv⟩
          · cases hkv
        refine .list fun x hx ↦ ?_
        obtain ⟨e, he, rfl⟩ := List.mem_map.mp hx
        exact .tuple (by simpa using hdata e he)
      · cases h
    · split at h
      · exact isData_of_scalarValue h
      · cases h

/-- **A document holds data.** -/
theorem isData_of_read {text : List Char} {v : Value} (h : read text = .ok v) : v.IsData := by
  obtain ⟨found, -, h⟩ := bind_eq_ok h
  cases found with
  | none => exact Except.ok.inj h ▸ .null
  | some n =>
    dsimp only at h
    split at h
    · rename_i w hw
      exact Except.ok.inj h ▸ isData_of_build hw
    · cases h

/-- What the reader of YAML documents yields is data. -/
theorem yieldsData_reader : reader.YieldsData where
  ofText _ _ := isData_of_read
  ofBytes bytes v h := by
    change readFile bytes = .ok v at h
    rw [readFile] at h
    split at h
    · cases h
    · exact isData_of_read h

end Yaml
end Rulebook
