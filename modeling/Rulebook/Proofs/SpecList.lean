import Rulebook.Spec
import Mathlib.Data.List.Forall2

/-!
# Lists of specifications

A list of specifications asks for rules: a text that is not blank asks for one, a mapping for one under each
of its keys, and what can be called asks for itself (`Spec.asked`).  What is asked for comes to one of two
things: a rule to run, or an entry in the list of what does not resolve (`Spec.ComesTo`).

Resolving accounts for all that is asked for (`Spec.Accounts`): the rules to run and the list of what does
not resolve are the two kinds of things that it comes to, each in the order in which they were asked for.
Since no other result does so (`Spec.Accounts.unique`), and results put together account for what is asked
for by one list after the other (`Spec.Accounts.append`), a list may be resolved at once or in parts
(`Spec.resolveAll_accounts`).
-/

set_option autoImplicit false

namespace Rulebook
namespace Spec

variable {registry : Registry}

/-! ## What is asked for -/

/-- A rule that is asked for. -/
inductive Asked where
  | byText (spec : String)
  /-- By a key of a mapping, which has the parameters with it. -/
  | byKey (key params : Value)
  /-- By something that can be called itself. -/
  | given (rule : Value)

/-- The rules that a specification asks for, in order. -/
def asked : Value → List Asked
  | .text spec => if Text.isBlankText spec then [] else [.byText spec]
  | .dict es => es.map fun e ↦ .byKey e.1 e.2
  | v => if v.isCallable then [.given v] else []

/-- What a rule that is asked for comes to: a rule to run, or what is listed because its name does not
resolve.  Under a key, parameters that are no list count as none. -/
inductive ComesTo (registry : Registry) : Asked → RuleEntry ⊕ Value → Prop
  | text {spec name : String} {params : List String} {rule : Value} (hread : read spec = (name, params))
      (hrule : registry.find? name = some rule) :
      ComesTo registry (.byText spec) (.inl (.named ⟨name, spec, params.map .text, rule⟩))
  | unknownText {spec name : String} {params : List String} (hread : read spec = (name, params))
      (hnone : registry.find? name = none) : ComesTo registry (.byText spec) (.inr (.text spec))
  | key {name : String} {params rule : Value} (hrule : registry.find? name = some rule) :
      ComesTo registry (.byKey (.text name) params)
        (.inl (.named ⟨name, name, params.items?.getD [], rule⟩))
  | unknownKey {key params : Value} (hnone : registry.findValue? key = none) :
      ComesTo registry (.byKey key params) (.inr key)
  | given {rule : Value} : ComesTo registry (.given rule) (.inl (.bare rule))

/-- A result holds one thing for each of the rules that are asked for, the one that it comes to, in order, and
nothing else. -/
def Accounts (registry : Registry) (as : List Asked) (p : ParsedRules) : Prop :=
  ∃ found, List.Forall₂ (ComesTo registry) as found ∧ p.rules = found.filterMap Sum.getLeft? ∧
    p.invalid = found.filterMap Sum.getRight?

/-! ## Each thing once -/

theorem exists_comesTo (registry : Registry) (a : Asked) : ∃ o, ComesTo registry a o := by
  cases a with
  | byText spec =>
    cases hrule : registry.find? (read spec).1 with
    | none => exact ⟨_, .unknownText rfl hrule⟩
    | some rule => exact ⟨_, .text rfl hrule⟩
  | byKey key params =>
    cases hrule : registry.findValue? key with
    | none => exact ⟨_, .unknownKey hrule⟩
    | some rule =>
      cases key with
      | text name => exact ⟨_, .key hrule⟩
      | _ => cases hrule
  | given rule => exact ⟨_, .given⟩

theorem rightUnique_comesTo (registry : Registry) : Relator.RightUnique (ComesTo registry) := by
  intro a o o' h h'
  -- A name resolves to one rule or does not resolve, so that the two cases of a name exclude each other.
  cases h with
  | text hread hrule =>
    cases h' with
    | text hread' hrule' =>
      obtain ⟨rfl, rfl⟩ := Prod.mk.inj (hread.symm.trans hread')
      rw [Option.some.inj (hrule.symm.trans hrule')]
    | unknownText hread' hnone =>
      obtain ⟨rfl, -⟩ := Prod.mk.inj (hread.symm.trans hread')
      cases hrule.symm.trans hnone
  | unknownText hread hnone =>
    cases h' with
    | text hread' hrule =>
      obtain ⟨rfl, -⟩ := Prod.mk.inj (hread.symm.trans hread')
      cases hnone.symm.trans hrule
    | unknownText => rfl
  | key hrule =>
    cases h' with
    | key hrule' => rw [Option.some.inj (hrule.symm.trans hrule')]
    | unknownKey hnone => cases hrule.symm.trans hnone
  | unknownKey hnone =>
    cases h' with
    | key hrule => cases hnone.symm.trans hrule
    | unknownKey => rfl
  | given =>
    cases h'
    rfl

namespace Accounts

variable {as bs : List Asked} {p q : ParsedRules}

theorem nil : Accounts registry [] .empty := ⟨[], .nil, rfl, rfl⟩

theorem ofRule {a : Asked} {r : RuleEntry} (h : ComesTo registry a (.inl r)) :
    Accounts registry [a] (.ofRule r) :=
  ⟨[.inl r], .cons h .nil, rfl, rfl⟩

theorem ofInvalid {a : Asked} {v : Value} (h : ComesTo registry a (.inr v)) :
    Accounts registry [a] (.ofInvalid v) :=
  ⟨[.inr v], .cons h .nil, rfl, rfl⟩

/-- Results put together account for what is asked for first and what is asked for then. -/
theorem append (hp : Accounts registry as p) (hq : Accounts registry bs q) :
    Accounts registry (as ++ bs) (p.append q) := by
  obtain ⟨found, hfound, hrules, hinvalid⟩ := hp
  obtain ⟨more, hmore, hrules', hinvalid'⟩ := hq
  refine ⟨found ++ more, List.rel_append hfound hmore, ?_, ?_⟩
  · rw [List.filterMap_append, ← hrules, ← hrules']
    rfl
  · rw [List.filterMap_append, ← hinvalid, ← hinvalid']
    rfl

/-- There is one result only. -/
theorem unique (hp : Accounts registry as p) (hq : Accounts registry as q) : p = q := by
  obtain ⟨found, hfound, hrules, hinvalid⟩ := hp
  obtain ⟨found', hfound', hrules', hinvalid'⟩ := hq
  obtain rfl := (rightUnique_comesTo registry).forall₂ hfound hfound'
  obtain ⟨rules, invalid⟩ := p
  obtain ⟨rules', invalid'⟩ := q
  rw [ParsedRules.mk.injEq]
  exact ⟨hrules.trans hrules'.symm, hinvalid.trans hinvalid'.symm⟩

/-- What is to be run is what something that is asked for comes to. -/
theorem exists_asked (h : Accounts registry as p) {e : RuleEntry} (he : e ∈ p.rules) :
    ∃ a ∈ as, ComesTo registry a (.inl e) := by
  obtain ⟨found, hfound, hrules, -⟩ := h
  rw [hrules, List.mem_filterMap] at he
  obtain ⟨o, ho, hleft⟩ := he
  obtain rfl := Sum.getLeft?_eq_some_iff.mp hleft
  obtain ⟨i, hi, hget⟩ := List.getElem_of_mem ho
  have hasked : i < as.length := hfound.length_eq ▸ hi
  have hcomes := hfound.get hasked hi
  rw [List.get_eq_getElem, List.get_eq_getElem, hget] at hcomes
  exact ⟨as[i], List.getElem_mem hasked, hcomes⟩

/-- Results that are put together one after another account for all that is asked for. -/
theorem foldl {α : Type} {f : α → ParsedRules × List LogLine} {g : α → List Asked}
    (h : ∀ x, Accounts registry (g x) (f x).1) (l : List α) (acc : ParsedRules × List LogLine)
    (hacc : Accounts registry as acc.1) :
    Accounts registry (as ++ l.flatMap g)
      (l.foldl (fun acc x ↦ (acc.1.append (f x).1, acc.2 ++ (f x).2)) acc).1 := by
  -- What was asked for before the loop came here is `as`, and `acc` accounts for it.
  induction l generalizing as acc with
  | nil => rwa [List.flatMap_nil, List.append_nil]
  | cons x r ih =>
    rw [List.flatMap_cons, ← List.append_assoc]
    exact ih _ (hacc.append (h x))

end Accounts

/-! ## Resolving accounts for everything -/

theorem accounts_resolveText (registry : Registry) (spec : String) :
    Accounts registry (asked (.text spec)) (resolveText registry spec) := by
  rw [asked, resolveText]
  split
  · exact .nil
  · cases hrule : registry.find? (read spec).1 with
    | none => simpa only [hrule] using .ofInvalid (.unknownText rfl hrule)
    | some rule => simpa only [hrule] using .ofRule (.text rfl hrule)

variable [Platform]

theorem accounts_resolveEntry (registry : Registry) (key params : Value) :
    Accounts registry [.byKey key params] (resolveEntry registry key params).1 := by
  rw [resolveEntry.eq_def]
  split
  · rename_i name
    split
    · rename_i hnone
      exact .ofInvalid (.unknownKey hnone)
    · rename_i rule hrule
      have hkey : ComesTo registry (.byKey (.text name) params) _ := .key hrule
      split
      · rename_i ps hps
        rw [hps] at hkey
        exact .ofRule hkey
      · rename_i hps
        rw [hps] at hkey
        exact .ofRule hkey
  · rename_i hkey
    refine .ofInvalid (.unknownKey ?_)
    cases key with
    | text name => exact (hkey name rfl).elim
    | _ => rfl

theorem accounts_resolve (registry : Registry) (spec : Value) :
    Accounts registry (asked spec) (resolve registry spec).1 := by
  fun_cases resolve registry spec with
  | case1 spec => exact accounts_resolveText registry spec
  | case2 es =>
    rw [asked, List.map_eq_flatMap]
    exact Accounts.foldl (fun e ↦ accounts_resolveEntry registry e.1 e.2) es (.empty, []) .nil
  | case3 =>
    rename_i htext hdict
    rw [asked.eq_3 spec htext hdict]
    split
    · exact .ofRule .given
    · exact .nil

theorem accounts_resolveAll (registry : Registry) (specs : Value) :
    Accounts registry ((specs.items?.getD []).flatMap asked) (resolveAll registry specs).1 :=
  Accounts.foldl (accounts_resolve registry) _ (.empty, []) .nil

/-- **Resolving loses nothing, repeats nothing and keeps the order.**  Every rule that is asked for comes to
exactly one thing, a rule to run or an entry of what does not resolve.  The result has exactly what all that
is asked for comes to, in order, and so the result of one list and another behind it is the result of the one
and that of the other behind it. -/
theorem resolveAll_accounts (registry : Registry) :
    (∀ a, ∃! o, ComesTo registry a o) ∧
      (∀ specs p, Accounts registry ((specs.items?.getD []).flatMap asked) p ↔
        p = (resolveAll registry specs).1) ∧
      ∀ xs ys, (resolveAll registry (.list (xs ++ ys))).1 =
        (resolveAll registry (.list xs)).1.append (resolveAll registry (.list ys)).1 := by
  refine ⟨fun a ↦ ?_, fun specs p ↦ ⟨fun h ↦ ?_, ?_⟩, fun xs ys ↦ ?_⟩
  · obtain ⟨o, ho⟩ := exists_comesTo registry a
    exact ⟨o, ho, fun o' ho' ↦ rightUnique_comesTo registry ho' ho⟩
  · exact h.unique (accounts_resolveAll registry specs)
  · rintro rfl
    exact accounts_resolveAll registry specs
  · have hboth := (accounts_resolveAll registry (.list xs)).append
      (accounts_resolveAll registry (.list ys))
    refine (accounts_resolveAll registry (.list (xs ++ ys))).unique ?_
    rwa [← List.flatMap_append] at hboth

/-- Of two keys one resolves; a text of blanks and null ask for nothing. -/
example (a : Value) : (resolveAll ⟨[("A", a)], []⟩ (.list [.text "A[1]", .text " ",
      .dict [(.text "B", .null), (.text "A", .null)], .null, .callable "f" none, .text "C[2]"])).1 =
    ⟨[.named ⟨"A", "A[1]", [.text "1"], a⟩, .named ⟨"A", "A", [], a⟩, .bare (.callable "f" none)],
      [.text "B", .text "C[2]"]⟩ :=
  rfl

end Spec
end Rulebook
