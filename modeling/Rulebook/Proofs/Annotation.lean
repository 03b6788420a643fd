import Rulebook.Proofs.Hierarchy
import Rulebook.Proofs.Store
import Rulebook.Schema

/-!
# Annotating one property

What attaching rules to a property of a class does to the other properties, and to other classes.
All is about what comes about when classes are declared and annotated in any order
(`Schema.Reached`).

To attach rules is to store *all* lists of a class, those that it inherits too.  So a list that a
class inherited is stored for the class itself afterwards, and a class with several bases may see it
there before it sees the list that it saw up to then.  This is `Schema.Overtakes`, and nothing else
can happen to another property.  With single inheritance it does not happen
(`Schema.not_overtakes_of_suffix`); it does in a diamond (`Schema.Diamond`).
-/

set_option autoImplicit false

namespace Rulebook
namespace Schema

variable {h : Hierarchy} {s : Store} {c d : ClassRef} {p q : Value}

/-! ## What comes about -/

/-- Classes that are declared and annotated, in any order. -/
inductive Reached : Hierarchy → Store → Prop
  | start : Reached [] []
  | declare {h h' : Hierarchy} {s : Store} {name : String} {bases : List ClassRef}
      {key : Option Value} {c : ClassRef} (hr : Reached h s) (hbases : ∀ b ∈ bases, h.Knows b)
      (hd : h.declare name bases key = .ok (c, h')) : Reached h' s
  | attach {h : Hierarchy} {s s' : Store} {c : ClassRef} {p : Value} {specs : List Value}
      (hr : Reached h s) (hp : p.isKey = true) (ha : Schema.attach s h c p specs = .ok s') :
      Reached h s'
  | setOptions {h : Hierarchy} {s : Store} {c : ClassRef} {o : Options} (hr : Reached h s) :
      Reached h (setOptions s c o)

theorem Reached.built (hr : Reached h s) : h.Built := by
  induction hr with
  | start => exact .empty
  | declare _ hbases hd ih => exact ih.declare hbases hd
  | attach _ _ _ ih | setOptions _ ih => exact ih

/-- Attaching succeeds and stores the changed lists of the class. -/
theorem attach_of_sound (hs : s.Sound rulesKey) (specs : List Value) :
    attach s h c p specs = .ok (s.set rulesKey c
      (s.changed rulesKey (h.ancestors c) p (· ++ specs)).toValue) := by
  rw [attach, Store.update_of_sound hs]
  rfl

theorem sound_attach {s' : Store} {specs : List Value} (hs : s.Sound rulesKey)
    (hp : p.isKey = true) (ha : attach s h c p specs = .ok s') : s'.Sound rulesKey := by
  rw [attach_of_sound hs] at ha
  exact Except.ok.inj ha ▸ hs.set (Store.isMapping_changed hs hp)

/-- What is stored as lists of rules are lists of rules. -/
theorem Reached.sound (hr : Reached h s) : s.Sound rulesKey := by
  induction hr with
  | start => exact Store.sound_nil
  | declare _ _ _ ih => exact ih
  | attach _ hp ha ih => exact sound_attach ih hp ha
  | setOptions _ ih =>
    intro c v hv
    rw [Schema.setOptions, Store.own?_set_of_ne (by decide)] at hv
    exact ih c v hv

/-- What is stored as options are options. -/
theorem Reached.own?_options (hr : Reached h s) {v : Value}
    (hv : s.own? optionsKey c = some v) : ∃ o : Options, v = o.toValue := by
  induction hr with
  | start => cases hv
  | declare _ _ _ ih => exact ih hv
  | attach hr _ ha ih =>
    rw [attach_of_sound hr.sound] at ha
    rw [← Except.ok.inj ha, Store.own?_set_of_ne (by decide)] at hv
    exact ih hv
  | @setOptions h s b o _ ih =>
    rw [Schema.setOptions, Store.own?_set] at hv
    split at hv
    · exact ⟨o, (Option.some.inj hv).symm⟩
    · exact ih hv

/-- The options of a class can be read. -/
theorem Reached.options_eq_ok (hr : Reached h s) (c : ClassRef) : ∃ o, options s h c = .ok o := by
  rw [options]
  split
  · exact ⟨_, rfl⟩
  · rename_i v hv
    obtain ⟨b, -, hb⟩ := List.exists_of_findSome?_eq_some hv
    obtain ⟨o, rfl⟩ := hr.own?_options hb
    exact ⟨o, rfl⟩

/-- The schema of a class can be read. -/
theorem ofClass_of_sound (hs : s.Sound rulesKey) (h : Hierarchy) (c : ClassRef) :
    ofClass s h c = .ok (s.seen rulesKey (h.ancestors c)) :=
  Store.merged_of_sound hs _

/-! ## Which class decides -/

/-- The list of rules that a class itself stores for a property. -/
def own? (s : Store) (q : Value) (c : ClassRef) : Option (List Value) :=
  (s.stored rulesKey c).lookup q

/-- The nearest of some classes that stores a list for a property. -/
def source? (s : Store) (q : Value) (order : List ClassRef) : Option ClassRef :=
  order.find? fun c ↦ (own? s q c).isSome

/-- **When a class that is annotated overtakes the class whose list another class sees**: a class `d`
sees a list of `q` that is stored by `b`, the class `c` comes before `b` among the ancestors of `d`,
and `c` itself sees a different list, which is stored by `a`. -/
def Overtakes (s : Store) (h : Hierarchy) (c d : ClassRef) (q : Value) : Prop :=
  ∃ a b, source? s q (h.ancestors c) = some a ∧ source? s q (h.ancestors d) = some b ∧
    c ∈ (h.ancestors d).takeWhile (· ≠ b) ∧ own? s q a ≠ own? s q b

theorem findSome?_own? (s : Store) (q : Value) (order : List ClassRef) :
    order.findSome? (own? s q) = (source? s q order).bind (own? s q) := by
  induction order with
  | nil => rfl
  | cons c r ih =>
    rw [source?, List.findSome?_cons, List.find?_cons, ← source?]
    cases hc : own? s q c with
    | none => exact ih
    | some l => exact hc.symm

theorem lookup_seen (hs : s.Sound rulesKey) (order : List ClassRef) (hq : q.isKey = true) :
    (s.seen rulesKey order).lookup q = order.findSome? (own? s q) :=
  Store.lookup_seen hs order hq

/-- What a class stores for a property once the class `c` stores `x` for it. -/
def ownAfter (s : Store) (q : Value) (c : ClassRef) (x : Option (List Value)) (b : ClassRef) :
    Option (List Value) :=
  if b = c then x else own? s q b

/-- A class that is annotated stores, of another property, what it saw before. -/
theorem own?_set_changed (hs : s.Sound rulesKey) (hp : p.isKey = true) (hq : q.isKey = true)
    (hpq : Value.sameKey p q = false) (change : List Value → List Value) (b : ClassRef) :
    own? (s.set rulesKey c (s.changed rulesKey (h.ancestors c) p change).toValue) q b =
      ownAfter s q c ((h.ancestors c).findSome? (own? s q)) b := by
  rw [own?, Store.stored_set, ownAfter]
  split
  · rw [Store.lookup_changed hs hp hq, hpq, if_neg Bool.false_ne_true, lookup_seen hs _ hq]
  · rfl

theorem takeWhile_ne_append {b : ClassRef} {before : List ClassRef} (hb : b ∉ before)
    (after : List ClassRef) : (before ++ b :: after).takeWhile (· ≠ b) = before := by
  have hne : ∀ x ∈ before, decide (x ≠ b) = true :=
    fun x hx ↦ decide_eq_true fun heq ↦ hb (heq ▸ hx)
  rw [List.takeWhile_append_of_pos hne, List.takeWhile_cons_of_neg (by simp), List.append_nil]

/-- Up to the class that decides, no class stores a list. -/
theorem exists_append_of_source? {order : List ClassRef} {b : ClassRef}
    (hb : source? s q order = some b) :
    ∃ before after, order = before ++ b :: after ∧ order.takeWhile (· ≠ b) = before ∧
      (∀ x ∈ before, own? s q x = none) ∧ ∃ l, own? s q b = some l := by
  obtain ⟨hsome, before, after, rfl, hno⟩ := List.find?_eq_some_iff_append.mp hb
  have hnone : ∀ x ∈ before, own? s q x = none := fun x hx ↦ by simpa using hno x hx
  have hnotin : b ∉ before := by
    intro hb
    rw [hnone b hb] at hsome
    cases hsome
  exact ⟨before, after, rfl, takeWhile_ne_append hnotin after, hnone,
    Option.isSome_iff_exists.mp hsome⟩

/-! ## What changes -/

section Change

variable {order : List ClassRef} {x : Option (List Value)}

theorem ownAfter_of_ne {b : ClassRef} (hb : b ≠ c) : ownAfter s q c x b = own? s q b := if_neg hb

/-- A class that is not among those that are looked at does not matter. -/
theorem findSome?_ownAfter_of_notMem (hc : c ∉ order) :
    order.findSome? (ownAfter s q c x) = order.findSome? (own? s q) := by
  rw [← List.head?_filterMap, ← List.head?_filterMap]
  refine congrArg List.head? (List.filterMap_congr fun e he ↦ ?_)
  exact ownAfter_of_ne fun heq ↦ hc (heq ▸ he)

/-- Nor does a class that stores what it stored before. -/
theorem findSome?_ownAfter_self :
    order.findSome? (ownAfter s q c (own? s q c)) = order.findSome? (own? s q) := by
  refine congrArg (fun f ↦ order.findSome? f) (funext fun e ↦ ?_)
  rw [ownAfter]
  split
  · rename_i he
    rw [he]
  · rfl

/-- Nor does a class that does not come before the one that decides, unless it is that one. -/
theorem findSome?_ownAfter_of_source? {b : ClassRef} (hb : source? s q order = some b)
    (hc : c ∉ order.takeWhile (· ≠ b)) (hx : (own? s q c).isSome = true → x = own? s q c) :
    order.findSome? (ownAfter s q c x) = order.findSome? (own? s q) := by
  obtain ⟨before, after, rfl, htake, hno, l, hl⟩ := exists_append_of_source? hb
  rw [htake] at hc
  have hsame : ∀ e ∈ before, ownAfter s q c x e = none := by
    intro e he
    rw [ownAfter_of_ne (fun heq : e = c ↦ hc (heq ▸ he)), hno e he]
  have hfirst : ownAfter s q c x b = some l := by
    by_cases hbc : b = c
    · rw [hbc] at hl
      rw [ownAfter, if_pos hbc, hx (Option.isSome_iff_exists.mpr ⟨l, hl⟩), hl]
    · rw [ownAfter_of_ne hbc, hl]
  rw [List.findSome?_append, List.findSome?_append, List.findSome?_eq_none_iff.mpr hsame,
    List.findSome?_eq_none_iff.mpr hno, List.findSome?_cons, List.findSome?_cons, hfirst, hl]

/-- A class that comes before the one that decides does, once it stores a list. -/
theorem findSome?_ownAfter_of_overtaken {b : ClassRef} (hb : source? s q order = some b)
    (hc : c ∈ order.takeWhile (· ≠ b)) (l : List Value) :
    order.findSome? (ownAfter s q c (some l)) = some l := by
  obtain ⟨before, after, rfl, htake, hno, -⟩ := exists_append_of_source? hb
  rw [htake] at hc
  obtain ⟨as, bs, rfl, hcas⟩ := List.eq_append_cons_of_mem hc
  have hsame : ∀ e ∈ as, ownAfter s q c (some l) e = none := by
    intro e he
    rw [ownAfter_of_ne (fun heq : e = c ↦ hcas (heq ▸ he)), hno e (List.mem_append_left _ he)]
  rw [List.append_assoc, List.cons_append, List.findSome?_append,
    List.findSome?_eq_none_iff.mpr hsame, List.findSome?_cons, ownAfter, if_pos rfl]
  rfl

end Change

theorem not_overtakes_of_source?_eq_none (hb : source? s q (h.ancestors d) = none) :
    ¬ Overtakes s h c d q := by
  rintro ⟨_, b, _, hb', _⟩
  rw [hb] at hb'
  cases hb'

theorem overtakes_iff {a b : ClassRef} (ha : source? s q (h.ancestors c) = some a)
    (hb : source? s q (h.ancestors d) = some b) :
    Overtakes s h c d q ↔ c ∈ (h.ancestors d).takeWhile (· ≠ b) ∧ own? s q a ≠ own? s q b := by
  constructor
  · rintro ⟨a', b', ha', hb', hbefore, hne⟩
    obtain rfl := Option.some.inj (ha.symm.trans ha')
    obtain rfl := Option.some.inj (hb.symm.trans hb')
    exact ⟨hbefore, hne⟩
  · rintro ⟨hbefore, hne⟩
    exact ⟨a, b, ha, hb, hbefore, hne⟩

/-- What a class sees of a property changes exactly when the list it sees is overtaken. -/
theorem findSome?_ownAfter_iff (hh : h.Built) :
    ((h.ancestors d).findSome? (ownAfter s q c ((h.ancestors c).findSome? (own? s q)))
      = (h.ancestors d).findSome? (own? s q)) ↔ ¬ Overtakes s h c d q := by
  obtain ⟨r, hr⟩ := Hierarchy.ancestors_eq_cons hh c
  cases ha : source? s q (h.ancestors c) with
  | none =>
    -- The class sees no list, so it stores none, before and after.
    have hnone : (h.ancestors c).findSome? (own? s q) = none := by rw [findSome?_own?, ha]; rfl
    have hc : own? s q c = none :=
      List.findSome?_eq_none_iff.mp hnone c (Hierarchy.mem_ancestors_self hh c)
    refine iff_of_true ?_ fun ⟨a, _, ha', _⟩ ↦ by rw [ha] at ha'; cases ha'
    rw [hnone, ← hc, findSome?_ownAfter_self]
  | some a =>
    obtain ⟨_, _, _, _, _, l, hl⟩ := exists_append_of_source? ha
    have hx : (h.ancestors c).findSome? (own? s q) = some l := by rw [findSome?_own?, ha]; exact hl
    have hown : (own? s q c).isSome = true → some l = own? s q c := by
      intro hc
      obtain ⟨m, hm⟩ := Option.isSome_iff_exists.mp hc
      rw [← hx, hr, List.findSome?_cons, hm]
    rw [hx]
    cases hb : source? s q (h.ancestors d) with
    | none =>
      -- Then the class is no ancestor, because its ancestor `a` would be one too.
      have hcd : c ∉ h.ancestors d := by
        intro hcd
        have had := (Hierarchy.ancestors_sublist hh hcd).subset (List.mem_of_find?_eq_some ha)
        exact List.find?_eq_none.mp hb a had (Option.isSome_iff_exists.mpr ⟨l, hl⟩)
      exact iff_of_true (findSome?_ownAfter_of_notMem hcd) (not_overtakes_of_source?_eq_none hb)
    | some b =>
      rw [overtakes_iff ha hb]
      by_cases hc : c ∈ (h.ancestors d).takeWhile (· ≠ b)
      · rw [findSome?_ownAfter_of_overtaken hb hc, findSome?_own?, hb, Option.bind_some, ← hl]
        exact ⟨fun heq hover ↦ hover.2 heq, fun hno ↦ not_not.mp fun hne ↦ hno ⟨hc, hne⟩⟩
      · exact iff_of_true (findSome?_ownAfter_of_source? hb hc hown) fun hover ↦ hc hover.1

/-- **Annotating a property changes the list of another property in a schema exactly when the class
that is annotated overtakes the one whose list was seen.**  It always succeeds. -/
theorem attach_keeps_iff (hr : Reached h s) (hp : p.isKey = true) (hq : q.isKey = true)
    (hpq : Value.sameKey p q = false) (c : ClassRef) (specs : List Value) :
    ∃ s', attach s h c p specs = .ok s' ∧ ∀ d, ∃ ps ps', ofClass s h d = .ok ps ∧
      ofClass s' h d = .ok ps' ∧ (ps'.lookup q = ps.lookup q ↔ ¬ Overtakes s h c d q) := by
  have hs := hr.sound
  have ha := attach_of_sound (h := h) (c := c) (p := p) hs specs
  have hs' := sound_attach hs hp ha
  refine ⟨_, ha, fun d ↦ ⟨_, _, ofClass_of_sound hs h d, ofClass_of_sound hs' h d, ?_⟩⟩
  rw [lookup_seen hs' _ hq, lookup_seen hs _ hq, funext (own?_set_changed hs hp hq hpq _)]
  exact findSome?_ownAfter_iff hr.built

/-- Where the ancestors of a class end with those of the class that is annotated, as they do with
single inheritance, nothing is overtaken. -/
theorem not_overtakes_of_suffix (hh : h.Built) (hsuffix : h.ancestors c <:+ h.ancestors d) :
    ¬ Overtakes s h c d q := by
  rintro ⟨a, b, ha, hb, hc, hne⟩
  obtain ⟨before, hbefore⟩ := hsuffix
  have hnotin : c ∉ before := by
    have hnd := Hierarchy.nodup_ancestors hh d
    rw [← hbefore, List.nodup_append'] at hnd
    exact fun hmem ↦ hnd.2.2 hmem (Hierarchy.mem_ancestors_self hh c)
  rw [← hbefore] at hb hc
  rw [source?, List.find?_append] at hb
  cases hf : before.find? fun c ↦ (own? s q c).isSome with
  | none =>
    rw [hf, Option.none_or, ← source?, ha] at hb
    exact hne (Option.some.inj hb ▸ rfl)
  | some b' =>
    rw [hf, Option.some_or] at hb
    obtain rfl := Option.some.inj hb
    obtain ⟨as, bs, rfl, hnotas⟩ := List.eq_append_cons_of_mem (List.mem_of_find?_eq_some hf)
    rw [List.append_assoc, List.cons_append, takeWhile_ne_append hnotas] at hc
    exact hnotin (List.mem_append_left _ hc)

/-! ## A diamond -/

namespace Diamond

/-- The base of both sides. -/
def top : ClassRef := .declared 0 "Top"

def left : ClassRef := .declared 1 "Left"

def right : ClassRef := .declared 2 "Right"

/-- The class whose bases are the two sides. -/
def bottom : ClassRef := .declared 3 "Bottom"

def base : Hierarchy := [(top, ⟨[top, objectClass], none⟩)]

def sides : Hierarchy :=
  (right, ⟨[right, top, objectClass], none⟩) :: (left, ⟨[left, top, objectClass], none⟩) :: base

theorem declare_sides :
    Hierarchy.declare [] "Top" [] none = .ok (top, base) ∧
      base.declare "Left" [top] none =
        .ok (left, (left, ⟨[left, top, objectClass], none⟩) :: base) ∧
      Hierarchy.declare ((left, ⟨[left, top, objectClass], none⟩) :: base) "Right" [top] none =
        .ok (right, sides) := ⟨rfl, rfl, rfl⟩

/-- Two classes with one base, and a class with both of them as bases. -/
def hierarchy : Hierarchy := (bottom, ⟨[bottom, left, right, top, objectClass], none⟩) :: sides

def name : Value := .text "name"

def required : List Value := [.text "Required"]

def short : List Value := [.text "MaxLength[9]"]

/-- The base asks for a name, and one side for a short name. -/
def store : Store :=
  [(top, [(rulesKey, Properties.toValue [(name, required)])]),
    (right, [(rulesKey, Properties.toValue [(name, required ++ short)])])]

theorem reached : Reached hierarchy store := by
  obtain ⟨htop, hleft, hright⟩ := declare_sides
  have hbottom : sides.declare "Bottom" [left, right] none = .ok (bottom, hierarchy) := rfl
  have hdeclared : Reached hierarchy [] := by
    refine .declare (.declare (.declare (.declare .start ?_ htop) ?_ hleft) ?_ hright) ?_ hbottom
    · exact fun _ h ↦ nomatch h
    · simp [Hierarchy.Knows, base, top]
    · simp [Hierarchy.Knows, base, top]
    · simp [Hierarchy.Knows, sides, base, left, right]
  have hname : Schema.attach [] hierarchy top name required =
      .ok [(top, [(rulesKey, Properties.toValue [(name, required)])])] := rfl
  have hshort : Schema.attach [(top, [(rulesKey, Properties.toValue [(name, required)])])] hierarchy
      right name short = .ok store := by with_unfolding_all rfl
  exact (hdeclared.attach rfl hname).attach rfl hshort

def nick : Value := .text "nick"

theorem nick_ne_name : Value.sameKey nick name = false := by
  simp [nick, name, Value.sameKey, Value.equals]

/-- Annotating the other side, which comes first, with another property lets the class with both
bases forget that the name has to be short. -/
theorem not_forall_attach_keeps :
    ¬ ∀ (h : Hierarchy) (s s' : Store) (c d : ClassRef) (p q : Value) (specs : List Value)
      (ps ps' : Properties), Reached h s → p.isKey = true → q.isKey = true →
      Value.sameKey p q = false → attach s h c p specs = .ok s' → ofClass s h d = .ok ps →
      ofClass s' h d = .ok ps' → ps'.lookup q = ps.lookup q := by
  intro hall
  have hkeeps := hall hierarchy store _ left bottom nick name [.text "Email"] _ _ reached rfl rfl
    nick_ne_name (attach_of_sound reached.sound _) (ofClass_of_sound reached.sound _ _)
    (ofClass_of_sound (sound_attach reached.sound rfl (attach_of_sound reached.sound _)) _ _)
  have hbefore : (store.seen rulesKey (hierarchy.ancestors bottom)).lookup name =
      some (required ++ short) := by with_unfolding_all rfl
  have hafter : ((store.set rulesKey left (store.changed rulesKey (hierarchy.ancestors left) nick
      (· ++ [.text "Email"])).toValue).seen rulesKey (hierarchy.ancestors bottom)).lookup name =
      some required := by with_unfolding_all rfl
  rw [hbefore, hafter] at hkeeps
  cases hkeeps

/-- The case of the diamond. -/
theorem attach_keeps_iff_left :
    Reached hierarchy store ∧ nick.isKey = true ∧ name.isKey = true ∧
      Value.sameKey nick name = false ∧
      ∃ s', attach store hierarchy left nick [.text "Email"] = .ok s' ∧ ∀ d, ∃ ps ps',
        ofClass store hierarchy d = .ok ps ∧ ofClass s' hierarchy d = .ok ps' ∧
        (ps'.lookup name = ps.lookup name ↔ ¬ Overtakes store hierarchy left d name) :=
  ⟨reached, rfl, rfl, nick_ne_name,
    attach_keeps_iff reached rfl rfl nick_ne_name left [.text "Email"]⟩

end Diamond

end Schema
end Rulebook
