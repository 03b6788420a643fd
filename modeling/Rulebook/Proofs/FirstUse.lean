import Rulebook.Proofs.StandardNames
import Rulebook.Shared

/-!
# The first use of the shared validator

The standard rules come into the shared registry when the shared validator is first used.  A program
may have registered rules of its own by then, and may register more of them later.  What names resolve
to in the end does not depend on when the first use is (`Shared.find?_firstUse`).

Two invariants carry the run.  Before the first use the registry holds what has been registered and
has no aliases (`Registry.Unaliased`).  From then on (`Registry.Ready`) a name has the rule last
registered under it, or else the standard rule of that name, and a spelling under which nothing has
been registered is an alias for the name of its rule.
-/

set_option autoImplicit false

namespace Rulebook

open StandardRule (spellings ofName?)

variable {r : Registry} {past : List RegistryCall} {n : String}

/-! ## What a program does -/

/-- What a program does with the shared validator: it registers rules, and it uses the validator. -/
inductive SharedCall where
  | register (name rule : Value)
  | use

/-- The registration that a call makes, if it makes sense as one. -/
def SharedCall.registration? : SharedCall → Option RegistryCall
  | .register name rule =>
    if (Registry.name? name).isSome ∧ rule.isCallable then some (.register name rule) else none
  | .use => none

/-- The registrations that calls make, latest first. -/
def registrations (calls : List SharedCall) : List RegistryCall :=
  (calls.filterMap SharedCall.registration?).reverse

/-- What a name resolves to once the shared validator has been used: the rule last registered under it.
Without one, another spelling of a standard rule resolves to whatever that rule's name resolves to, and
the name of a standard rule to that rule. -/
def resolution (n : String) (past : List RegistryCall) : Option Value :=
  (lastRule n past).or <|
    match spellings.lookup n with
    | some s => (lastRule s.name past).or (some (.rule s))
    | none => (ofName? n).map .rule

namespace Shared

variable [Platform]

/-- What is left of the shared validator after a call. -/
def step (s : Shared) : SharedCall → Shared
  | .register name rule =>
    let registry := s.validator.registry.step (.register name rule)
    { s with validator := { s.validator with registry } }
  | .use => s.use.1

/-- What is left of it after calls, from the beginning on. -/
def after (calls : List SharedCall) : Shared := calls.foldl step initial

end Shared

namespace Registry

/-! ## Before the first use -/

/-- A registry that holds what has been registered, and no aliases. -/
structure Unaliased (r : Registry) (past : List RegistryCall) : Prop where
  direct : ∀ n, r.direct? n = lastRule n past
  aliases : r.aliases = []

theorem unaliased_empty : Unaliased empty [] := ⟨fun _ ↦ rfl, rfl⟩

theorem Unaliased.anchored (h : Unaliased r past) : r.Anchored := by
  intro a k hk
  rw [h.aliases] at hk
  cases hk

theorem Unaliased.find?_eq (h : Unaliased r past) (n : String) : r.find? n = lastRule n past := by
  rw [find?, h.aliases, h.direct]
  exact Option.or_none

theorem direct?_bind_register {table : String → Option Value}
    (h : ∀ m, r.direct? m = (lastRule m past).or (table m)) (n m : String) (rule : Value) :
    (r.bind n rule).direct? m =
      (lastRule m (.register (.text n) rule :: past)).or (table m) := by
  rw [direct?_bind, h, lastRule]
  by_cases hm : m = n
  · rw [if_pos hm, if_pos ((eq_iff_text? m n).mp hm)]
    rfl
  · rw [if_neg hm, if_neg (mt (eq_iff_text? m n).mpr hm)]

theorem Unaliased.bind (h : Unaliased r past) (n : String) (rule : Value) :
    Unaliased (r.bind n rule) (.register (.text n) rule :: past) := by
  have hdirect : ∀ m, r.direct? m = (lastRule m past).or none := by
    simpa only [Option.or_none] using h.direct
  refine ⟨fun m ↦ ?_, h.aliases⟩
  simpa only [Option.or_none] using direct?_bind_register hdirect n m rule

/-! ## After the first use -/

/-- A registry with the standard rules under the names that nothing has been registered under. -/
structure Ready (r : Registry) (past : List RegistryCall) : Prop where
  direct : ∀ n, r.direct? n = (lastRule n past).or ((ofName? n).map .rule)
  spelled : ∀ n, lastRule n past = none →
    r.aliases.lookup n = (spellings.lookup n).map StandardRule.name

theorem Ready.bind (h : Ready r past) (n : String) (rule : Value) :
    Ready (r.bind n rule) (.register (.text n) rule :: past) := by
  refine ⟨fun m ↦ direct?_bind_register h.direct n m rule, fun m hm ↦ ?_⟩
  rw [lastRule] at hm
  split at hm
  · cases hm
  · exact h.spelled m hm

theorem mem_of_lookup_spellings {s : StandardRule} (h : spellings.lookup n = some s) :
    (n, s) ∈ spellings := by
  obtain ⟨l₁, l₂, heq, -⟩ := List.lookup_eq_some_iff.mp h
  exact heq ▸ List.mem_append_right l₁ List.mem_cons_self

/-- **What names resolve to.** -/
theorem Ready.find?_eq (h : Ready r past) (n : String) : r.find? n = resolution n past := by
  rw [find?, h.direct, resolution, Option.or_assoc]
  cases hn : lastRule n past with
  | some f => rfl
  | none =>
    rw [h.spelled n hn, Option.none_or, Option.none_or]
    cases hs : spellings.lookup n with
    | some s =>
      rw [ofName?_spelling _ (mem_of_lookup_spellings hs), Option.map_none, Option.none_or,
        Option.map_some, Option.bind_some, h.direct, ofName?_name, Option.map_some]
    | none => rw [Option.map_none, Option.bind_none, Option.or_none]

/-! ## The first use -/

theorem aliases_bindEach (overwrite : Bool) (rules : List StandardRule) (r : Registry) :
    (bindEach overwrite rules r).1.aliases = r.aliases := by
  induction rules generalizing r with
  | nil => rfl
  | cons s rest ih =>
    by_cases h : isFree overwrite r s.name = true
    · rw [bindEach_of_free h, ih]
      rfl
    · rw [bindEach_of_not_free h, ih]

/-- When all their rules are bound, the spellings that do not resolve become aliases. -/
theorem lookup_aliases_aliasEach [Platform] {es : List (String × StandardRule)}
    (hes : IsSpelling es)
    (h : ∀ e ∈ es, (r.direct? e.2.name).isSome = true) (n : String) :
    (aliasEach false es r).1.aliases.lookup n =
      if r.find? n = none then ((es.lookup n).map StandardRule.name).or (r.aliases.lookup n)
      else r.aliases.lookup n := by
  induction es generalizing r with
  | nil => exact (ite_self _).symm
  | cons e rest ih =>
    obtain ⟨a, s⟩ := e
    have hbound := h _ List.mem_cons_self
    have hrest := fun e he ↦ h e (List.mem_cons_of_mem _ he)
    rw [lookup_cons]
    by_cases hfree : isFree false r a = true
    · have ha := isFree_false.mp hfree
      rw [aliasEach_of_direct hfree (hes.named _ List.mem_cons_self) hbound,
        ih hes.tail (r := r.withAlias a s.name) hrest, find?_withAlias_of_free ha,
        show (r.withAlias a s.name).aliases = putKey a s.name r.aliases from rfl, lookup_putKey]
      by_cases hn : n = a
      · rw [if_pos hn, if_pos hn, if_pos hn, hn, if_pos ha,
          if_neg (Option.isSome_iff_ne_none.mp hbound)]
        rfl
      · rw [if_neg hn, if_neg hn, if_neg hn]
    · rw [aliasEach_of_not_free hfree, ih hes.tail hrest]
      by_cases hn : n = a
      · rw [hn, if_neg (mt isFree_false.mpr hfree), if_neg (mt isFree_false.mpr hfree)]
      · rw [if_neg hn]

theorem Unaliased.direct?_bindEach (h : Unaliased r past) (n : String) :
    (bindEach false StandardRule.all r).1.direct? n =
      (lastRule n past).or ((ofName? n).map .rule) := by
  rw [Registry.direct?_bindEach h.anchored, ← ofName?, h.find?_eq, h.direct]
  cases lastRule n past with
  | none => rfl
  | some f => rfl

theorem Unaliased.isSome_direct?_bindEach (h : Unaliased r past) (s : StandardRule) :
    ((bindEach false StandardRule.all r).1.direct? s.name).isSome = true := by
  rw [h.direct?_bindEach, ofName?_name]
  cases lastRule s.name past with
  | none => rfl
  | some f => rfl

variable [Platform]

/-- **The first use succeeds**, whatever has been registered before. -/
theorem Unaliased.failure_eq_none (h : Unaliased r past) :
    (r.registerStandard false).2.2 = none := by
  rw [failure_eq, failure_aliasEach isSpelling_spellings, Option.map_eq_none_iff,
    List.find?_eq_none]
  intro e _ hstuck
  rw [isStuck, Bool.and_eq_true, Option.isNone_iff_eq_none, Option.isNone_iff_eq_none] at hstuck
  have hsome := h.isSome_direct?_bindEach e.2
  rw [hstuck.2] at hsome
  cases hsome

theorem Unaliased.ready (h : Unaliased r past) : Ready (r.registerStandard false).1 past := by
  rw [registered_eq]
  refine ⟨fun n ↦ ?_, fun n hn ↦ ?_⟩
  · rw [direct?_aliasEach isSpelling_spellings, h.direct?_bindEach]
  · rw [lookup_aliases_aliasEach isSpelling_spellings fun e _ ↦ h.isSome_direct?_bindEach e.2,
      find?_bindEach h.anchored, aliases_bindEach, h.aliases, h.find?_eq, hn, ← ofName?,
      Option.none_or]
    cases hs : spellings.lookup n with
    | none => exact ite_self _
    | some s =>
      rw [ofName?_spelling _ (mem_of_lookup_spellings hs)]
      rfl

end Registry

/-! ## Whole runs -/

namespace Shared

variable {s : Shared}

/-- What calls keep true of the shared validator. -/
def Holds (s : Shared) (past : List RegistryCall) : Prop :=
  s.used = false ∧ s.validator.registry.Unaliased past ∨
    s.used = true ∧ s.validator.registry.Ready past

theorem holds_initial : Holds initial [] := .inl ⟨rfl, Registry.unaliased_empty⟩

section

variable [Platform]

theorem use_of_unused (hs : s.used = false) :
    s.use.1.validator.registry = (s.validator.registry.registerStandard false).1 ∧
      s.use.1.used = (s.validator.registry.registerStandard false).2.2.isNone ∧
      s.use.2 = (s.validator.registry.registerStandard false).2.2 := by
  simp [use, hs]

theorem use_of_used (hs : s.used = true) : s.use = (s, none) := by
  simp [use, hs]

/-- A use succeeds, and the validator counts as used then. -/
theorem Holds.use (h : Holds s past) : s.use.2 = none ∧ s.use.1.used = true ∧
    s.use.1.validator.registry.Ready past := by
  rcases h with ⟨hs, hr⟩ | ⟨hs, hr⟩
  · obtain ⟨hregistry, hused, hfailure⟩ := use_of_unused hs
    rw [hregistry, hused, hfailure, hr.failure_eq_none]
    exact ⟨rfl, rfl, hr.ready⟩
  · rw [use_of_used hs]
    exact ⟨rfl, hs, hr⟩

/-- A registration that makes no sense changes nothing. -/
theorem step_of_registration?_eq_none {name rule : Value}
    (h : (SharedCall.register name rule).registration? = none) :
    s.step (.register name rule) = s := by
  have hfails : ¬ Succeeds (s.validator.registry.call (.register name rule)) := by
    rintro ⟨r', hr'⟩
    obtain ⟨n, hn, hc⟩ := Registry.exists_of_register hr'
    simp [SharedCall.registration?, hn, hc] at h
  rw [step, Registry.step_of_error hfails]

theorem exists_of_registration? {name rule : Value} {c : RegistryCall}
    (h : (SharedCall.register name rule).registration? = some c) : ∃ n, name = .text n ∧
      c = .register (.text n) rule ∧
      (s.step (.register name rule)).validator.registry = s.validator.registry.bind n rule := by
  rw [SharedCall.registration?] at h
  split at h
  · rename_i hvalid
    obtain ⟨n, hn⟩ := Option.isSome_iff_exists.mp hvalid.1
    obtain rfl := Registry.name?_eq_some hn
    have hstep := Registry.register_of_name? (r := s.validator.registry) hn hvalid.2
    exact ⟨n, rfl, (Option.some.inj h).symm, Registry.step_of_ok hstep⟩
  · cases h

/-- **What one call keeps true.** -/
theorem Holds.step (h : Holds s past) (c : SharedCall) :
    Holds (s.step c) (c.registration?.toList ++ past) := by
  cases c with
  | use => exact .inr h.use.2
  | register name rule =>
    cases hc : (SharedCall.register name rule).registration? with
    | none =>
      rw [step_of_registration?_eq_none hc]
      exact h
    | some c =>
      obtain ⟨n, rfl, rfl, hregistry⟩ := exists_of_registration? (s := s) hc
      rw [Holds, hregistry]
      exact h.imp (fun hs ↦ ⟨hs.1, hs.2.bind n rule⟩) fun hs ↦ ⟨hs.1, hs.2.bind n rule⟩

end

theorem registrations_concat (calls : List SharedCall) (c : SharedCall) :
    registrations (calls ++ [c]) = c.registration?.toList ++ registrations calls := by
  simp only [registrations, List.filterMap_append, List.reverse_append]
  cases h : c.registration? with
  | none => simp [h]
  | some d => simp [h]

variable [Platform]

theorem after_concat (calls : List SharedCall) (c : SharedCall) :
    after (calls ++ [c]) = (after calls).step c :=
  List.foldl_concat ..

/-- **What a whole run keeps true.** -/
theorem holds_after (calls : List SharedCall) : Holds (after calls) (registrations calls) := by
  induction calls using List.reverseRecOn with
  | nil => exact holds_initial
  | append_singleton calls c ih =>
    rw [after_concat, registrations_concat]
    exact ih.step c

/-- Once used, the validator stays used. -/
theorem used_after {calls : List SharedCall} (h : .use ∈ calls) : (after calls).used = true := by
  induction calls using List.reverseRecOn with
  | nil => cases h
  | append_singleton calls c ih =>
    rw [after_concat]
    cases c with
    | use => exact (holds_after calls).use.2.1
    | register name rule => exact ih (by simpa using h)

theorem ready_after {calls : List SharedCall} (h : .use ∈ calls) :
    (after calls).validator.registry.Ready (registrations calls) := by
  rcases holds_after calls with ⟨hs, -⟩ | ⟨-, hr⟩
  · rw [used_after h] at hs
    cases hs
  · exact hr

/-- **When the first use is makes no difference.**  A use succeeds wherever it comes among calls that
register rules and other uses.  After all of them a name resolves to the rule last registered under
it; or else, for another spelling of a standard rule, to whatever that rule's name resolves to; or
else to the standard rule of that name; or to nothing.  So names resolve the same whenever the same
registrations are made in the same order. -/
theorem find?_firstUse (before later : List SharedCall) :
    (after before).use.2 = none ∧
      (∀ n, (after (before ++ .use :: later)).validator.registry.find? n =
        resolution n (registrations (before ++ later))) ∧
      ∀ before' later', registrations (before' ++ later') = registrations (before ++ later) → ∀ n,
        (after (before' ++ .use :: later')).validator.registry.find? n =
          (after (before ++ .use :: later)).validator.registry.find? n := by
  have hregistrations : ∀ before later, registrations (before ++ .use :: later) =
      registrations (before ++ later) := by
    intro before later
    have hnone : SharedCall.use.registration? = none := rfl
    simp [registrations, List.filterMap_cons_none hnone]
  have hfind : ∀ before later n, (after (before ++ .use :: later)).validator.registry.find? n =
      resolution n (registrations (before ++ later)) := by
    intro before later n
    have hmem : SharedCall.use ∈ before ++ .use :: later := by simp
    rw [(ready_after hmem).find?_eq, hregistrations]
  refine ⟨(holds_after before).use.1, hfind before later, ?_⟩
  intro before' later' heq n
  rw [hfind, hfind, heq]

end Shared
end Rulebook
