import Rulebook.Proofs.Success
import Rulebook.Proofs.Table
import Mathlib.Data.List.Induction

/-!
# What names stand for after any calls

A registry is changed by calls (`RegistryCall`) that register a rule, add an alias or clear it, and
that may fail.  This file says what every name resolves to after any history of calls
(`Registry.after`), in terms of the calls that succeeded and of nothing else:

* `lastRule` is the rule last registered under a name since the last clear, `lastCanonical` the name
  of which a name was last made an alias, and `standsFor` puts the two together.
* `Registry.Reflects` is what one call keeps true (`Reflects.step`): the two tables of a registry
  hold these answers, and no name stands twice in either.
* `Registry.Coherent` says that the ways to read a registry agree: single names, the snapshot of all
  bindings, and the ordered list of names.

`find?_after` is the statement about whole histories.
-/

set_option autoImplicit false

namespace Rulebook

/-- A call that changes a registry, if it succeeds. -/
inductive RegistryCall where
  | register (name rule : Value)
  | addAlias (aliased canonical : Value)
  | clear

/-! ## What calls that succeeded say -/

/-- The rule last registered under a name.  The calls come latest first, and what was called before a
clear does not count. -/
def lastRule (name : String) : List RegistryCall → Option Value
  | [] | .clear :: _ => none
  | .register n rule :: earlier => if n.text? = some name then some rule else lastRule name earlier
  | .addAlias .. :: earlier => lastRule name earlier

/-- The name of which a name was last made an alias. -/
def lastCanonical (name : String) : List RegistryCall → Option String
  | [] | .clear :: _ => none
  | .register .. :: earlier => lastCanonical name earlier
  | .addAlias a c :: earlier => if a.text? = some name then c.text? else lastCanonical name earlier

/-- What a name stands for: the rule last registered under it, or else the rule last registered under
the name of which it was last made an alias. -/
def standsFor (name : String) (past : List RegistryCall) : Option Value :=
  (lastRule name past).or ((lastCanonical name past).bind fun c ↦ lastRule c past)

/-- Whether a call makes sense after others: names are texts that are not blank, rules can be called,
and an alias is for a name with a rule of its own. -/
def RegistryCall.Sensible (past : List RegistryCall) : RegistryCall → Prop
  | .register name rule => (Registry.name? name).isSome ∧ rule.isCallable = true
  | .addAlias aliased canonical => (Registry.name? aliased).isSome ∧
      ∃ c, canonical = .text c ∧ (lastRule c past).isSome
  | .clear => True

namespace Registry

variable {r r' : Registry} {past : List RegistryCall} {c : RegistryCall} {n : String}

/-! ## Histories of calls -/

section

variable [Platform]

/-- What a call makes of a registry. -/
def call (r : Registry) : RegistryCall → Except Failure Registry
  | .register name rule => (r.register name rule).map Prod.fst
  | .addAlias aliased canonical => r.addAlias aliased canonical
  | .clear => .ok empty

/-- What is left after a call.  One that fails leaves what was there. -/
def step (r : Registry) (c : RegistryCall) : Registry :=
  match r.call c with
  | .ok r' => r'
  | .error _ => r

/-- What is left of a new registry after calls. -/
def after (calls : List RegistryCall) : Registry := calls.foldl step empty

/-- The calls that succeed when they are made one after another. -/
def succeedFrom (r : Registry) : List RegistryCall → List RegistryCall
  | [] => []
  | c :: later =>
    match r.call c with
    | .ok r' => c :: r'.succeedFrom later
    | .error _ => r.succeedFrom later

/-- The calls on a new registry that succeed. -/
def succeeded (calls : List RegistryCall) : List RegistryCall := empty.succeedFrom calls

theorem step_of_ok (h : r.call c = .ok r') : r.step c = r' := by
  rw [step, h]

theorem step_of_error (h : ¬ Succeeds (r.call c)) : r.step c = r := by
  rw [step]
  split
  · rename_i r' hr
    exact absurd ⟨r', hr⟩ h
  · rfl

theorem succeedFrom_concat (calls : List RegistryCall) (c : RegistryCall) :
    r.succeedFrom (calls ++ [c]) = r.succeedFrom calls ++ (calls.foldl step r).succeedFrom [c] := by
  induction calls generalizing r with
  | nil => rfl
  | cons b later ih =>
    rw [List.cons_append, succeedFrom, succeedFrom, List.foldl_cons, step]
    cases r.call b with
    | ok r' => exact congrArg (b :: ·) ih
    | error f => exact ih

theorem after_concat (calls : List RegistryCall) (c : RegistryCall) :
    after (calls ++ [c]) = (after calls).step c :=
  List.foldl_concat ..

theorem succeeded_concat_of_ok {calls : List RegistryCall}
    (h : (after calls).call c = .ok r') :
    succeeded (calls ++ [c]) = succeeded calls ++ [c] := by
  rw [succeeded, succeedFrom_concat, ← after, succeedFrom, h]
  rfl

theorem succeeded_concat_of_error {calls : List RegistryCall}
    (h : ¬ Succeeds ((after calls).call c)) : succeeded (calls ++ [c]) = succeeded calls := by
  rw [succeeded, succeedFrom_concat, ← after, succeedFrom]
  split
  · rename_i r' hr
    exact absurd ⟨r', hr⟩ h
  · exact List.append_nil _

end

/-! ## What one call does -/

theorem name?_eq_some {v : Value} (h : name? v = some n) : v = .text n := by
  cases v with
  | text s =>
    rw [name?] at h
    split at h
    · cases h
    · exact congrArg Value.text (Option.some.inj h)
  | _ => cases h

theorem eq_iff_text? (m n : String) : m = n ↔ (Value.text n).text? = some m := by
  rw [Value.text?, Option.some.injEq, eq_comm]

theorem register_of_name? [Platform] {name rule : Value} (hn : name? name = some n)
    (hc : rule.isCallable = true) : r.call (.register name rule) = .ok (r.bind n rule) := by
  rw [call, register, hn]
  simp only [hc, if_true]
  rfl

theorem addAlias_of_name? [Platform] {aliased : Value} {a k : String} (hn : name? aliased = some a)
    (hk : (r.direct? k).isSome = true) : r.call (.addAlias aliased (.text k)) =
      .ok { r with aliases := putKey a k r.aliases } := by
  rw [call, addAlias, hn]
  simp only [hk, if_true]
  rfl

theorem exists_of_register [Platform] {name rule : Value}
    (h : r.call (.register name rule) = .ok r') :
    ∃ n, name? name = some n ∧ rule.isCallable = true := by
  cases hn : name? name with
  | none =>
    have hs : Succeeds (r.register name rule) := succeeds_map_iff.mp ⟨r', h⟩
    rw [register, hn] at hs
    exact absurd hs not_succeeds_bind_throw
  | some n =>
    refine ⟨n, rfl, ?_⟩
    by_contra hc
    have hs : Succeeds (r.register name rule) := succeeds_map_iff.mp ⟨r', h⟩
    rw [register, hn] at hs
    simp only [hc, if_false] at hs
    exact not_succeeds_error _ hs

theorem exists_of_addAlias [Platform] {aliased canonical : Value}
    (h : r.call (.addAlias aliased canonical) = .ok r') :
    ∃ a k, name? aliased = some a ∧ canonical = .text k ∧ (r.direct? k).isSome = true := by
  have hs : Succeeds (r.addAlias aliased canonical) := ⟨r', h⟩
  rw [addAlias] at hs
  cases hn : name? aliased with
  | none =>
    rw [hn] at hs
    exact absurd hs not_succeeds_bind_throw
  | some a =>
    rw [hn] at hs
    cases canonical with
    | text k =>
      refine ⟨a, k, rfl, rfl, ?_⟩
      by_contra hk
      simp only [hk, if_false] at hs
      exact not_succeeds_error _ hs
    | _ =>
      dsimp only at hs
      split at hs
      · exact absurd hs (not_succeeds_error _)
      · exact absurd hs not_succeeds_bind_throw

/-! ## What a registry holds -/

/-- What calls keep true of a registry: its tables hold what the calls that succeeded say, no name
stands twice in either, and what is registered can be called. -/
structure Reflects (r : Registry) (past : List RegistryCall) : Prop where
  direct : ∀ n, r.direct? n = lastRule n past
  canonical : ∀ n, r.aliases.lookup n = lastCanonical n past
  rules_nodup : (r.rules.map Prod.fst).Nodup
  aliases_nodup : (r.aliases.map Prod.fst).Nodup
  callable : ∀ n f, r.direct? n = some f → f.isCallable = true

theorem reflects_empty : Reflects empty [] where
  direct _ := rfl
  canonical _ := rfl
  rules_nodup := List.nodup_nil
  aliases_nodup := List.nodup_nil
  callable _ _ h := nomatch h

theorem Reflects.bind (hr : Reflects r past) {name rule : Value} (hn : name? name = some n)
    (hc : rule.isCallable = true) : Reflects (r.bind n rule) (.register name rule :: past) := by
  obtain rfl := name?_eq_some hn
  have hdirect : ∀ m, (r.bind n rule).direct? m = if m = n then some rule else r.direct? m :=
    fun m ↦ lookup_putKey n m rule r.rules
  refine ⟨fun m ↦ ?_, hr.canonical, nodup_putKey hr.rules_nodup, hr.aliases_nodup, fun m f h ↦ ?_⟩
  · rw [hdirect, lastRule, ← hr.direct]
    exact if_congr (eq_iff_text? m n) rfl rfl
  · rw [hdirect] at h
    split at h
    · exact Option.some.inj h ▸ hc
    · exact hr.callable m f h

theorem Reflects.addAlias (hr : Reflects r past) {aliased : Value} {a k : String}
    (hn : name? aliased = some a) : Reflects { r with aliases := putKey a k r.aliases }
      (.addAlias aliased (.text k) :: past) := by
  obtain rfl := name?_eq_some hn
  refine ⟨hr.direct, fun m ↦ ?_, hr.rules_nodup, nodup_putKey hr.aliases_nodup, hr.callable⟩
  rw [lookup_putKey, lastCanonical, ← hr.canonical]
  exact if_congr (eq_iff_text? m a) rfl rfl

theorem Reflects.clear (past : List RegistryCall) : Reflects empty (.clear :: past) :=
  { reflects_empty with direct := fun _ ↦ rfl, canonical := fun _ ↦ rfl }

/-- **What one call that succeeds keeps true.** -/
theorem Reflects.of_call [Platform] (hr : Reflects r past) (h : r.call c = .ok r') :
    Reflects r' (c :: past) := by
  cases c with
  | register name rule =>
    obtain ⟨n, hn, hc⟩ := exists_of_register h
    rw [register_of_name? hn hc] at h
    exact Except.ok.inj h ▸ hr.bind hn hc
  | addAlias aliased canonical =>
    obtain ⟨a, k, hn, rfl, hk⟩ := exists_of_addAlias h
    rw [addAlias_of_name? hn hk] at h
    exact Except.ok.inj h ▸ hr.addAlias hn
  | clear => exact Except.ok.inj h ▸ Reflects.clear past

/-- A call succeeds exactly when it makes sense after the calls that succeeded before it. -/
theorem Reflects.succeeds_call_iff [Platform] (hr : Reflects r past) (c : RegistryCall) :
    Succeeds (r.call c) ↔ c.Sensible past := by
  constructor
  · rintro ⟨r', h⟩
    cases c with
    | register name rule =>
      obtain ⟨n, hn, hc⟩ := exists_of_register h
      exact ⟨hn ▸ rfl, hc⟩
    | addAlias aliased canonical =>
      obtain ⟨a, k, hn, rfl, hk⟩ := exists_of_addAlias h
      exact ⟨hn ▸ rfl, k, rfl, hr.direct k ▸ hk⟩
    | clear => trivial
  · intro h
    cases c with
    | register name rule =>
      obtain ⟨n, hn⟩ := Option.isSome_iff_exists.mp h.1
      exact ⟨_, register_of_name? hn h.2⟩
    | addAlias aliased canonical =>
      obtain ⟨hname, k, rfl, hk⟩ := h
      obtain ⟨a, hn⟩ := Option.isSome_iff_exists.mp hname
      exact ⟨_, addAlias_of_name? hn (hr.direct k ▸ hk)⟩
    | clear => exact succeeds_ok empty

/-- What a whole history of calls leaves. -/
theorem reflects_after [Platform] (calls : List RegistryCall) :
    Reflects (after calls) (succeeded calls).reverse := by
  induction calls using List.reverseRecOn with
  | nil => exact reflects_empty
  | append_singleton calls c ih =>
    rw [after_concat]
    by_cases h : Succeeds ((after calls).call c)
    · obtain ⟨r', hr'⟩ := h
      rw [step_of_ok hr', succeeded_concat_of_ok hr', List.reverse_concat]
      exact ih.of_call hr'
    · rw [step_of_error h, succeeded_concat_of_error h]
      exact ih

theorem Reflects.find?_eq (hr : Reflects r past) (n : String) : r.find? n = standsFor n past := by
  rw [find?, hr.direct, hr.canonical, standsFor]
  exact congrArg (fun f ↦ (lastRule n past).or ((lastCanonical n past).bind f)) (funext hr.direct)

theorem Reflects.isCallable_of_find? (hr : Reflects r past) {f : Value}
    (h : r.find? n = some f) : f.isCallable = true := by
  rw [find?, Option.or_eq_some_iff] at h
  rcases h with h | ⟨-, h⟩
  · exact hr.callable n f h
  · obtain ⟨k, -, hk⟩ := Option.bind_eq_some_iff.mp h
    exact hr.callable k f hk

/-! ## Reading a registry -/

/-- The aliases that resolve, with the rules they resolve to. -/
def aliasBindings (r : Registry) : List (String × Value) :=
  r.aliases.filterMap fun e ↦ (r.direct? e.2).map fun f ↦ (e.1, f)

theorem bindings_eq (r : Registry) : r.bindings = putKeys r.rules r.aliasBindings := rfl

section Aliases

variable {table : String → Option Value} {es : List (String × String)}

theorem map_fst_filterMap_sublist (table : String → Option Value) (es : List (String × String)) :
    ((es.filterMap fun e ↦ (table e.2).map fun f ↦ (e.1, f)).map Prod.fst).Sublist
      (es.map Prod.fst) := by
  induction es with
  | nil => exact List.Sublist.refl _
  | cons e t ih =>
    rw [List.filterMap_cons]
    cases table e.2 with
    | none => exact ih.cons _
    | some f => exact ih.cons_cons _

theorem lookup_filterMap (h : (es.map Prod.fst).Nodup) (n : String) :
    (es.filterMap fun e ↦ (table e.2).map fun f ↦ (e.1, f)).lookup n
      = (es.lookup n).bind table := by
  induction es with
  | nil => rfl
  | cons e t ih =>
    obtain ⟨a, k⟩ := e
    rw [List.map_cons, List.nodup_cons] at h
    have ih := ih h.2
    rw [List.filterMap_cons, lookup_cons]
    by_cases hn : n = a
    · subst hn
      rw [if_pos rfl, Option.bind_some]
      cases htable : table k with
      | none =>
        rw [lookup_eq_none_of_notMem h.1, Option.bind_none] at ih
        simpa [htable] using ih
      | some f => simp
    · rw [if_neg hn, ← ih]
      cases table k with
      | none => rfl
      | some f => simp [lookup_cons, hn]

end Aliases

theorem Reflects.nodup_bindings (hr : Reflects r past) : (r.bindings.map Prod.fst).Nodup :=
  bindings_eq r ▸ nodup_putKeys
    (hr.aliases_nodup.sublist (map_fst_filterMap_sublist r.direct? r.aliases))

theorem Reflects.lookup_bindings (hr : Reflects r past) (n : String) :
    r.bindings.lookup n = r.find? n := by
  rw [bindings_eq, lookup_putKeys hr.rules_nodup, aliasBindings, lookup_filterMap hr.aliases_nodup]
  rfl

/-- The names of a registry come in order. -/
theorem pairwise_le_names (r : Registry) : r.names.Pairwise (· ≤ ·) := by
  have htrans : ∀ a b c : String, decide (a ≤ b) = true → decide (b ≤ c) = true →
      decide (a ≤ c) = true := fun a b c hab hbc ↦
    decide_eq_true (String.le_trans (of_decide_eq_true hab) (of_decide_eq_true hbc))
  have htotal : ∀ a b : String, (decide (a ≤ b) || decide (b ≤ a)) = true := fun a b ↦ by
    simpa using String.le_total a b
  exact (List.pairwise_mergeSort htrans htotal _).imp of_decide_eq_true

/-- The ways to read a registry agree: on single names, in the snapshot of all bindings and in the
list of names, which is strictly increasing. -/
structure Coherent (r : Registry) : Prop where
  registered : ∀ n, r.isRegistered (.text n) = true ↔ ∃ f, r.find? n = some f
  distinct : (r.bindings.map Prod.fst).Nodup
  bound : ∀ n, r.bindings.lookup n = r.find? n
  increasing : r.names.Pairwise (· < ·)
  named : ∀ n, n ∈ r.names ↔ ∃ f, r.find? n = some f
  counted : r.bindings.length = r.names.length

theorem Reflects.coherent (hr : Reflects r past) : Coherent r where
  registered _ := Option.isSome_iff_exists
  distinct := hr.nodup_bindings
  bound := hr.lookup_bindings
  increasing := by
    have hnodup : r.names.Nodup := (List.mergeSort_perm _ _).nodup_iff.mpr hr.nodup_bindings
    refine (r.pairwise_le_names.and hnodup).imp fun {a b} h ↦ ?_
    exact String.not_le.mp fun hba ↦ h.2 (String.le_antisymm h.1 hba)
  named n := by
    rw [names, List.mem_mergeSort, ← isSome_lookup_iff, hr.lookup_bindings,
      Option.isSome_iff_exists]
  counted := by rw [names, List.length_mergeSort, List.length_map]

variable [Platform]

/-- **What names stand for after any calls.**  After every history of calls on a new registry, a name
resolves to what it stands for by the calls that succeeded: the rule last registered under it since
the last clear, or else the rule last registered under the name of which it was last made an alias.
A call that fails leaves everything as though it had not been made, and calls fail exactly when they
do not make sense.  What a name resolves to can be called, and all ways to read the registry agree. -/
theorem find?_after (calls : List RegistryCall) :
    (∀ n, (after calls).find? n = standsFor n (succeeded calls).reverse) ∧
    (∀ c, Succeeds ((after calls).call c) ↔ c.Sensible (succeeded calls).reverse) ∧
    (∀ c later, ¬ Succeeds ((after calls).call c) →
      after (calls ++ c :: later) = after (calls ++ later)) ∧
    (∀ n f, (after calls).find? n = some f → f.isCallable = true) ∧ Coherent (after calls) := by
  have hr := reflects_after calls
  refine ⟨hr.find?_eq, hr.succeeds_call_iff, fun c later h ↦ ?_, fun n f ↦ hr.isCallable_of_find?,
    hr.coherent⟩
  rw [after, after, List.foldl_append, List.foldl_append, List.foldl_cons, ← after, step_of_error h]

/-- An alias follows what is registered later under its canonical name. -/
example : (after [.register (.text "mail") (.rule .email), .addAlias (.text "post") (.text "mail"),
    .register (.text "mail") (.rule .url)]).find? "post" = some (.rule .url) := by
  with_unfolding_all rfl

end Registry
end Rulebook
