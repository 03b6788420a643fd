import Rulebook.Proofs.JsonText

/-!
# Which items a list holds

The rules on the items of lists compare containers by their JSON texts and anything else as it is.  For
JSON values that comes to this:

* Containers are told apart as JSON values are, so a list of containers passes as one without a repeated
  item exactly when no two items are the same JSON value (`RuleContext.arrayUnique_passes_iff`).
* A value counts as an item of a list when it is the same JSON value as some item, or when the two are
  `Value.Confused`: a container and the text that is its JSON text, or a truth value and its number
  (`RuleContext.arrayContains_passes_iff`).

Both rules write containers down before they compare them, so neither comes to a verdict on a container
that holds an integer with too many digits to be shown or is nested too deep.

The characters of a text are whole.  What the loops of the rules make of texts with halves of surrogate
pairs is said of JSON trees: two containers are taken for one when they have the same units, so that the
two halves of a pair pass for the character of the pair (`Json.Tree.CountsAs`).
-/

set_option autoImplicit false

namespace Rulebook

/-! ## The loops -/

section Loops

variable {α κ : Type} {equals : κ → κ → Except Failure Bool} {comparable : α → Except Failure κ}
  {R : α → α → Prop} {items past required : List α} {keys : List κ}

/-- Where equality of keys decides a relation, the loop over the keys of items finds out whether some
item is related to a value. -/
theorem exists_anyItem_iff {w : α} {key : κ}
    (hequals : ∀ v ∈ items, ∀ k, comparable v = .ok k →
      ∃ c, equals k key = .ok c ∧ (c = true ↔ R v w))
    (hkeys : List.Forall₂ (fun v k ↦ comparable v = .ok k) items keys) :
    ∃ c, Value.anyItem (fun k ↦ equals k key) keys = .ok c ∧
      (c = true ↔ ∃ v ∈ items, R v w) := by
  induction hkeys with
  | nil => exact ⟨false, rfl, by simp⟩
  | @cons v k items keys hvk _ ih =>
    obtain ⟨hv, hr⟩ := List.forall_mem_cons.mp hequals
    obtain ⟨c, hc, hiff⟩ := hv k hvk
    simp only [List.exists_mem_cons_iff, ← hiff]
    cases c with
    | true => exact ⟨true, by rw [Value.anyItem, hc]; rfl, by simp⟩
    | false =>
      obtain ⟨found, hfound, hfoundIff⟩ := ih hr
      exact ⟨found, by rw [Value.anyItem, hc]; exact hfound, by simpa using hfoundIff⟩

/-- **Every value is among the items** when each is related to some item. -/
theorem allMembers_iff
    (hequals : ∀ v ∈ items, ∀ w ∈ required, ∀ k l, comparable v = .ok k → comparable w = .ok l →
      ∃ c, equals k l = .ok c ∧ (c = true ↔ R v w))
    (hkeys : List.Forall₂ (fun v k ↦ comparable v = .ok k) items keys)
    (hsucceeds : ∀ v ∈ items, ∀ w ∈ required, R v w → Succeeds (comparable w)) :
    allMembers equals comparable keys required = .ok true ↔
      ∀ w ∈ required, ∃ v ∈ items, R v w := by
  induction required with
  | nil => exact iff_of_true rfl nofun
  | cons w r ih =>
    have ih := ih (fun v hv w hw ↦ hequals v hv w (List.mem_cons_of_mem _ hw))
      fun v hv w hw ↦ hsucceeds v hv w (List.mem_cons_of_mem _ hw)
    have hw := fun v hv ↦ hequals v hv w List.mem_cons_self
    rw [List.forall_mem_cons, ← ih]
    simp only [allMembers, bind_eq_ok_iff]
    constructor
    · rintro ⟨key, hkey, found, hfound, h⟩
      obtain ⟨c, hc, hiff⟩ := exists_anyItem_iff (fun v hv k hk ↦ hw v hv k key hk hkey) hkeys
      obtain rfl := Except.ok.inj (hc.symm.trans hfound)
      cases c with
      | false => cases h
      | true => exact ⟨hiff.mp rfl, h⟩
    · rintro ⟨⟨v, hv, hvw⟩, h⟩
      obtain ⟨key, hkey⟩ := hsucceeds v hv w List.mem_cons_self hvw
      obtain ⟨c, hc, hiff⟩ := exists_anyItem_iff (fun v hv k hk ↦ hw v hv k key hk hkey) hkeys
      obtain rfl := hiff.mpr ⟨v, hv, hvw⟩
      exact ⟨key, hkey, true, hc, h⟩

/-- The loop goes on as long as an item is related to none of those that it has seen. -/
theorem allDistinct_iff_of_seen
    (hequals : ∀ v ∈ past ++ items, ∀ w ∈ items, ∀ k l, comparable v = .ok k →
      comparable w = .ok l → ∃ c, equals k l = .ok c ∧ (c = true ↔ R v w))
    (hkeys : List.Forall₂ (fun v k ↦ comparable v = .ok k) past keys) :
    allDistinct equals comparable keys items = .ok true ↔
      (∀ w ∈ items, Succeeds (comparable w)) ∧ (∀ v ∈ past, ∀ w ∈ items, ¬ R v w) ∧
        items.Pairwise fun v w ↦ ¬ R v w := by
  induction items generalizing past keys with
  | nil => exact iff_of_true rfl ⟨nofun, fun _ _ ↦ nofun, .nil⟩
  | cons w r ih =>
    have hw := fun v hv ↦ hequals v (List.mem_append_left _ hv) w List.mem_cons_self
    have hrest : ∀ v ∈ (past ++ [w]) ++ r, ∀ u ∈ r, ∀ k l, comparable v = .ok k →
        comparable u = .ok l → ∃ c, equals k l = .ok c ∧ (c = true ↔ R v u) := by
      intro v hv u hu
      exact hequals v (by simpa using hv) u (List.mem_cons_of_mem _ hu)
    simp only [allDistinct, bind_eq_ok_iff, List.forall_mem_cons, List.pairwise_cons]
    constructor
    · rintro ⟨key, hkey, found, hfound, h⟩
      obtain ⟨c, hc, hiff⟩ := exists_anyItem_iff (fun v hv k hk ↦ hw v hv k key hk hkey) hkeys
      obtain rfl := Except.ok.inj (hc.symm.trans hfound)
      cases c with
      | true => cases h
      | false =>
        have hkeys' := List.rel_append hkeys (.cons hkey .nil)
        obtain ⟨hsucceeds, hpast, hpairwise⟩ := (ih hrest hkeys').mp h
        obtain ⟨hpast, hnew⟩ := List.forall_mem_append.mp hpast
        refine ⟨⟨⟨key, hkey⟩, hsucceeds⟩, fun v hv ↦ ⟨fun hvw ↦ ?_, hpast v hv⟩,
          List.forall_mem_singleton.mp hnew, hpairwise⟩
        exact Bool.false_ne_true (hiff.mpr ⟨v, hv, hvw⟩)
    · rintro ⟨⟨⟨key, hkey⟩, hsucceeds⟩, hpast, hnew, hpairwise⟩
      obtain ⟨c, hc, hiff⟩ := exists_anyItem_iff (fun v hv k hk ↦ hw v hv k key hk hkey) hkeys
      obtain rfl : c = false := by
        rw [Bool.eq_false_iff]
        rintro rfl
        obtain ⟨v, hv, hvw⟩ := hiff.mp rfl
        exact (hpast v hv).1 hvw
      refine ⟨key, hkey, false, hc, (ih hrest (List.rel_append hkeys (.cons hkey .nil))).mpr ?_⟩
      exact ⟨hsucceeds, List.forall_mem_append.mpr ⟨fun v hv ↦ (hpast v hv).2,
        List.forall_mem_singleton.mpr hnew⟩, hpairwise⟩

/-- **No item is repeated** when each of them can be compared and no two are related. -/
theorem allDistinct_iff
    (hequals : ∀ v ∈ items, ∀ w ∈ items, ∀ k l, comparable v = .ok k → comparable w = .ok l →
      ∃ c, equals k l = .ok c ∧ (c = true ↔ R v w)) :
    allDistinct equals comparable [] items = .ok true ↔
      (∀ w ∈ items, Succeeds (comparable w)) ∧ items.Pairwise fun v w ↦ ¬ R v w := by
  rw [allDistinct_iff_of_seen hequals .nil]
  simp

end Loops

namespace Value

variable {v w a b : Value} {items : List Value}

/-! ## What items are compared by -/

theorem comparable_of_isContainer [Platform] (h : v.isContainer = true) :
    v.comparable = v.jsonText >>= fun s ↦ pure (.text s) := by
  cases v with
  | list | tuple | dict => rfl
  | _ => cases h

theorem comparable_of_not_isContainer [Platform] (h : v.isContainer = false) :
    v.comparable = .ok v := by
  cases v with
  | list | tuple | dict => cases h
  | _ => rfl

theorem succeeds_comparable_iff [Platform] (hv : v.IsJson) :
    Succeeds v.comparable ↔ (v.isContainer = true → v.Writable Platform.writtenDepth) := by
  cases hc : v.isContainer with
  | true =>
    rw [comparable_of_isContainer hc, succeeds_bind_pure_iff, hv.succeeds_jsonText_iff]
    simp
  | false =>
    rw [comparable_of_not_isContainer hc]
    simp

/-! ## Values that count as equal -/

section

variable [Platform]

/-- Two different JSON values that are compared as if they were equal: a truth value and its number, or
a text and a container that has it as its JSON text. -/
inductive Confused : Value → Value → Prop
  | truthNumber (b : Bool) : Confused (bool b) (int (if b then 1 else 0))
  | numberTruth (b : Bool) : Confused (int (if b then 1 else 0)) (bool b)
  | textContainer {s : String} {v : Value} (hv : v.isContainer = true) (hs : v.jsonText = .ok s) :
    Confused (text s) v
  | containerText {s : String} {v : Value} (hv : v.isContainer = true) (hs : v.jsonText = .ok s) :
    Confused v (text s)

theorem Confused.symm (h : Confused v w) : Confused w v := by
  cases h with
  | truthNumber b => exact .numberTruth b
  | numberTruth b => exact .truthNumber b
  | textContainer hv hs => exact .containerText hv hs
  | containerText hv hs => exact .textContainer hv hs

theorem confused_container_iff (hw : w.isContainer = true) {s : String}
    (hs : w.jsonText = .ok s) : Confused v w ↔ v = .text s := by
  constructor
  · intro h
    cases h with
    | truthNumber | numberTruth => cases hw
    | textContainer _ ht => rw [Except.ok.inj (hs.symm.trans ht)]
    | containerText => cases hw
  · rintro rfl
    exact .textContainer hw hs

end

theorem isContainer_eq_of_sameJson (h : sameJson v w = true) : v.isContainer = w.isContainer := by
  rw [sameJson.eq_def] at h
  split at h <;> first | rfl | cases h

/-- What a truth value or an integer counts as. -/
def whole? : Value → Option Int
  | bool b => some (if b then 1 else 0)
  | int n => some n
  | _ => none

theorem confused_scalars_iff [Platform] (hv : v.isContainer = false) (hw : w.isContainer = false) :
    Confused v w ↔ ∃ b n, n = (if b then (1 : Int) else 0) ∧
      (v = bool b ∧ w = int n ∨ v = int n ∧ w = bool b) := by
  constructor
  · rintro (b | b | ⟨h, -⟩ | ⟨h, -⟩)
    · exact ⟨b, _, rfl, .inl ⟨rfl, rfl⟩⟩
    · exact ⟨b, _, rfl, .inr ⟨rfl, rfl⟩⟩
    · rw [hw] at h
      cases h
    · rw [hv] at h
      cases h
  · rintro ⟨b, _, rfl, ⟨rfl, rfl⟩ | ⟨rfl, rfl⟩⟩
    · exact .truthNumber b
    · exact .numberTruth b

theorem equals_whole {m n : Int} (hv : v.whole? = some m) (hw : w.whole? = some n) :
    equals v w = .ok (decide (m = n)) := by
  have hnumbers : ∀ {u : Value} {k : Int}, u.whole? = some k →
      u.isNumeric = true ∧ u.isSignalling = false ∧ u.toExtended? = some (.value k) := by
    intro u k hu
    cases u with
    | bool b =>
      obtain rfl := Option.some.inj hu
      cases b <;> exact ⟨rfl, rfl, rfl⟩
    | int k' =>
      obtain rfl := Option.some.inj hu
      exact ⟨rfl, rfl, rfl⟩
    | _ => cases hu
  obtain ⟨hvn, hvs, hvx⟩ := hnumbers hv
  obtain ⟨hwn, hws, hwx⟩ := hnumbers hw
  have hequals : equals v w = equalNumbers v w := by
    cases v with
    | bool | int =>
      cases w with
      | bool | int => simp [equals, isNumeric]
      | _ => cases hw
    | _ => cases hv
  rw [hequals, equalNumbers, hvs, hws, hvx, hwx]
  simp

/-- Scalars are equal when they are the same or a truth value and its number. -/
theorem equals_scalars [Platform] (hv : v.IsJson) (hw : w.IsJson) (hcv : v.isContainer = false)
    (hcw : w.isContainer = false) :
    ∃ c, equals v w = .ok c ∧ (c = true ↔ sameJson v w = true ∨ Confused v w) := by
  rw [confused_scalars_iff hcv hcw]
  cases hv with
  | list | tuple | dict => cases hcv
  | null =>
    cases hw with
    | list | tuple | dict => cases hcw
    | null => exact ⟨true, by simp [equals], by simp [sameJson]⟩
    | _ => exact ⟨false, by simp [equals, isNumeric, isSameCallable], by simp [sameJson]⟩
  | text s =>
    cases hw with
    | list | tuple | dict => cases hcw
    | text t => exact ⟨s == t, by simp [equals], by simp [sameJson]⟩
    | _ => exact ⟨false, by simp [equals, isNumeric, isSameCallable], by simp [sameJson]⟩
  | bool a =>
    cases hw with
    | list | tuple | dict => cases hcw
    | bool b => exact ⟨_, equals_whole rfl rfl, by cases a <;> cases b <;> simp [sameJson]⟩
    | int n => exact ⟨_, equals_whole rfl rfl, by simp [sameJson, eq_comm]⟩
    | _ => exact ⟨false, by simp [equals, isNumeric, isSameCallable], by simp [sameJson]⟩
  | int m =>
    cases hw with
    | list | tuple | dict => cases hcw
    | bool b => exact ⟨_, equals_whole rfl rfl, by simp [sameJson, eq_comm]⟩
    | int n => exact ⟨_, equals_whole rfl rfl, by simp [sameJson]⟩
    | _ => exact ⟨false, by simp [equals, isNumeric, isSameCallable], by simp [sameJson]⟩

theorem equals_text (v : Value) (s : String) :
    ∃ c, equals v (.text s) = .ok c ∧ (c = true ↔ v = .text s) := by
  cases v with
  | text t => exact ⟨t == s, by simp [equals], by simp⟩
  | _ => exact ⟨false, by simp [equals, isNumeric, isSameCallable], by simp⟩

theorem text_equals (s : String) (v : Value) :
    ∃ c, equals (.text s) v = .ok c ∧ (c = true ↔ v = .text s) := by
  cases v with
  | text t => exact ⟨s == t, by simp [equals], by rw [beq_iff_eq, text.injEq, eq_comm]⟩
  | _ => exact ⟨false, by simp [equals, isNumeric, isSameCallable], by simp⟩

variable [Platform]

/-- **JSON values count as equal when they are the same or confused.** -/
theorem equals_comparable (hv : v.IsJson) (hw : w.IsJson) (ha : v.comparable = .ok a)
    (hb : w.comparable = .ok b) :
    ∃ c, equals a b = .ok c ∧ (c = true ↔ sameJson v w = true ∨ Confused v w) := by
  cases hcv : v.isContainer with
  | false =>
    rw [comparable_of_not_isContainer hcv] at ha
    obtain rfl := Except.ok.inj ha
    cases hcw : w.isContainer with
    | false =>
      rw [comparable_of_not_isContainer hcw] at hb
      obtain rfl := Except.ok.inj hb
      exact equals_scalars hv hw hcv hcw
    | true =>
      rw [comparable_of_isContainer hcw, bind_eq_ok_iff] at hb
      obtain ⟨s, hs, hb⟩ := hb
      obtain rfl := Except.ok.inj hb
      obtain ⟨c, hc, hiff⟩ := equals_text v s
      refine ⟨c, hc, hiff.trans ?_⟩
      rw [confused_container_iff hcw hs, or_iff_right]
      intro hsame
      rw [isContainer_eq_of_sameJson hsame, hcw] at hcv
      cases hcv
  | true =>
    rw [comparable_of_isContainer hcv, bind_eq_ok_iff] at ha
    obtain ⟨s, hs, ha⟩ := ha
    obtain rfl := Except.ok.inj ha
    cases hcw : w.isContainer with
    | false =>
      rw [comparable_of_not_isContainer hcw] at hb
      obtain rfl := Except.ok.inj hb
      obtain ⟨c, hc, hiff⟩ := text_equals s w
      refine ⟨c, hc, hiff.trans ?_⟩
      rw [← confused_container_iff hcv hs, or_iff_right]
      · exact ⟨Confused.symm, Confused.symm⟩
      · intro hsame
        rw [isContainer_eq_of_sameJson hsame, hcw] at hcv
        cases hcv
    | true =>
      rw [comparable_of_isContainer hcw, bind_eq_ok_iff] at hb
      obtain ⟨t, ht, hb⟩ := hb
      obtain rfl := Except.ok.inj hb
      refine ⟨s == t, by simp [equals], ?_⟩
      rw [confused_container_iff hcw ht, ← hv.jsonText_eq_iff hw hs, ht, beq_iff_eq,
        Except.ok.injEq, or_iff_left]
      · exact eq_comm
      · rintro rfl
        cases hcv

/-! ## Values that are items of a list -/

/-- What is compared by something counts as equal only to what is. -/
theorem succeeds_comparable_of (hv : v.IsJson) (hw : w.IsJson) (hsucceeds : Succeeds v.comparable)
    (h : sameJson v w = true ∨ Confused v w) : Succeeds w.comparable := by
  cases hc : w.isContainer with
  | false =>
    rw [comparable_of_not_isContainer hc]
    exact succeeds_ok w
  | true =>
    rw [comparable_of_isContainer hc, succeeds_bind_pure_iff]
    rcases h with hsame | hconfused
    · rwa [comparable_of_isContainer ((isContainer_eq_of_sameJson hsame).trans hc),
        succeeds_bind_pure_iff, hv.jsonText_congr hw hsame] at hsucceeds
    · cases hconfused with
      | truthNumber | numberTruth | containerText => cases hc
      | textContainer _ hs => exact ⟨_, hs⟩

/-- A list of containers has no repeated item when each of them can be written and no two are the
same. -/
theorem allDistinct_containers_iff (hjson : ∀ v ∈ items, v.IsJson)
    (hc : ∀ v ∈ items, v.isContainer = true) :
    allDistinct equals comparable [] items = .ok true ↔
      (∀ v ∈ items, v.Writable Platform.writtenDepth) ∧
        items.Pairwise fun v w ↦ sameJson v w = false := by
  have hequals : ∀ v ∈ items, ∀ w ∈ items, ∀ k l, v.comparable = .ok k → w.comparable = .ok l →
      ∃ c, equals k l = .ok c ∧ (c = true ↔ sameJson v w = true) := by
    intro v hv w hw k l hk hl
    obtain ⟨c, heq, hiff⟩ := equals_comparable (hjson v hv) (hjson w hw) hk hl
    refine ⟨c, heq, hiff.trans (or_iff_left fun hconfused ↦ ?_)⟩
    have hcv := hc v hv
    have hcw := hc w hw
    cases hconfused with
    | truthNumber | numberTruth | textContainer => cases hcv
    | containerText => cases hcw
  rw [allDistinct_iff hequals]
  simp only [Bool.not_eq_true]
  refine and_congr_left fun _ ↦ forall₂_congr fun v hv ↦ ?_
  rw [succeeds_comparable_iff (hjson v hv)]
  exact forall_prop_of_true (hc v hv)

/-- Every value is among the items when each is the same as some item or confused with one. -/
theorem allMembers_keys_iff {keys required : List Value} (hitems : ∀ v ∈ items, v.IsJson)
    (hkeys : List.Forall₂ (fun v k ↦ v.comparable = .ok k) items keys)
    (hrequired : ∀ w ∈ required, w.IsJson) :
    allMembers equals comparable keys required = .ok true ↔
      ∀ w ∈ required, ∃ v ∈ items, sameJson v w = true ∨ Confused v w := by
  refine allMembers_iff
    (fun v hv w hw _ _ ↦ equals_comparable (hitems v hv) (hrequired w hw)) hkeys fun v hv w hw ↦ ?_
  obtain ⟨k, -, hk⟩ := exists_mem_of_forall₂ hkeys hv
  exact succeeds_comparable_of (hitems v hv) (hrequired w hw) ⟨k, hk⟩

end Value

/-! ## Trees -/

namespace Json.Tree

variable {t u : Tree} {trees items required : List Tree}

/-- An array or an object. -/
def isContainer : Tree → Bool
  | array _ | object _ => true
  | _ => false

/-- What a tree is compared by: a container by its JSON text, anything else as it is. -/
def key : Tree → Tree
  | array ts => text (codePoints (array ts).json)
  | object es => text (codePoints (object es).json)
  | t => t

/-- What a truth value or an integer counts as. -/
def whole? : Tree → Option Int
  | bool b => some (if b then 1 else 0)
  | int n => some n
  | _ => none

/-- Whether two trees that are no containers are equal. -/
def isEqual : Tree → Tree → Bool
  | null, null => true
  | text ps, text qs => ps == qs
  | t, u => t.whole?.isSome && t.whole? == u.whole?

/-- Two trees that are compared as if they were equal: the same scalar, a truth value and its number,
containers of the same units, or a container and its JSON text. -/
inductive CountsAs : Tree → Tree → Prop
  | same (t : Tree) (ht : t.isContainer = false) : CountsAs t t
  | truthNumber (b : Bool) : CountsAs (bool b) (int (if b then 1 else 0))
  | numberTruth (b : Bool) : CountsAs (int (if b then 1 else 0)) (bool b)
  | containers {t u : Tree} (ht : t.isContainer = true) (hu : u.isContainer = true)
    (h : t.split = u.split) : CountsAs t u
  | textContainer (u : Tree) (hu : u.isContainer = true) : CountsAs (text (codePoints u.json)) u
  | containerText (t : Tree) (ht : t.isContainer = true) : CountsAs t (text (codePoints t.json))

theorem key_of_isContainer (h : t.isContainer = true) : t.key = text (codePoints t.json) := by
  cases t with
  | array | object => rfl
  | _ => cases h

theorem key_of_not_isContainer (h : t.isContainer = false) : t.key = t := by
  cases t with
  | array | object => cases h
  | _ => rfl

theorem codePoints_inj {s s' : String} (h : codePoints s = codePoints s') : s = s' :=
  split_codePoints_inj (congrArg Json.split h)

theorem text_isEqual_iff (ps : List CodePoint) : isEqual (text ps) t = true ↔ t = text ps := by
  cases t with
  | text qs => rw [isEqual, beq_iff_eq, text.injEq, eq_comm]
  | _ => simp [isEqual, whole?]

theorem isEqual_text_iff (ps : List CodePoint) : isEqual t (text ps) = true ↔ t = text ps := by
  cases t <;> simp [isEqual, whole?]

theorem isEqual_self (h : t.isContainer = false) : isEqual t t = true := by
  cases t with
  | array | object => cases h
  | _ => simp [isEqual, whole?]

theorem isEqual_scalars_iff (ht : t.isContainer = false) (hu : u.isContainer = false) :
    isEqual t u = true ↔ t.CountsAs u := by
  constructor
  · intro h
    cases t with
    | array | object => cases ht
    | null =>
      cases u with
      | null => exact .same _ rfl
      | _ => cases h
    | text ps =>
      obtain rfl := (text_isEqual_iff ps).mp h
      exact .same _ rfl
    | bool a =>
      cases u with
      | bool b =>
        obtain rfl : a = b := by revert h; cases a <;> cases b <;> decide
        exact .same _ rfl
      | int n =>
        obtain rfl : (if a then 1 else 0) = n := by simpa [isEqual, whole?] using h
        exact .truthNumber a
      | _ => cases h
    | int m =>
      cases u with
      | bool b =>
        obtain rfl : m = if b then 1 else 0 := by simpa [isEqual, whole?] using h
        exact .numberTruth b
      | int n =>
        obtain rfl : m = n := by simpa [isEqual, whole?] using h
        exact .same _ rfl
      | _ => cases h
  · rintro (_ | b | b | ⟨ht', -, -⟩ | ⟨_, hu'⟩ | ⟨_, ht'⟩)
    · exact isEqual_self ht
    · simp [isEqual, whole?]
    · simp [isEqual, whole?]
    · rw [ht] at ht'
      cases ht'
    · rw [hu] at hu'
      cases hu'
    · rw [ht] at ht'
      cases ht'

theorem containers_iff (ht : t.isContainer = true) (hu : u.isContainer = true) :
    t.CountsAs u ↔ t.split = u.split := by
  constructor
  · rintro (_ | _ | _ | ⟨-, -, h⟩ | _ | _)
    all_goals first | rfl | exact h | cases ht | cases hu
  · exact .containers ht hu

/-- **The keys of trees are equal when the trees count as each other.** -/
theorem isEqual_key_iff (t u : Tree) : isEqual t.key u.key = true ↔ t.CountsAs u := by
  cases ht : t.isContainer with
  | false =>
    rw [key_of_not_isContainer ht]
    cases hu : u.isContainer with
    | false => rw [key_of_not_isContainer hu, isEqual_scalars_iff ht hu]
    | true =>
      rw [key_of_isContainer hu, isEqual_text_iff]
      constructor
      · rintro rfl
        exact .textContainer u hu
      · rintro (_ | _ | _ | ⟨ht', -, -⟩ | _ | _)
        all_goals first | rfl | cases hu | cases ht.symm.trans ht' | cases ht.symm.trans hu
  | true =>
    rw [key_of_isContainer ht, text_isEqual_iff]
    cases hu : u.isContainer with
    | false =>
      rw [key_of_not_isContainer hu]
      constructor
      · rintro rfl
        exact .containerText t ht
      · rintro (_ | _ | _ | ⟨-, hu', -⟩ | _ | _)
        all_goals first | rfl | cases ht | cases hu.symm.trans hu' | cases hu.symm.trans ht
    | true =>
      rw [key_of_isContainer hu, containers_iff ht hu, ← json_eq_iff, text.injEq]
      exact ⟨fun h ↦ (codePoints_inj h).symm, fun h ↦ by rw [h]⟩

/-- Equality of keys in the loops over items. -/
def equals (t u : Tree) : Except Failure Bool := .ok (isEqual t u)

/-- What the loops over items compare trees by that can be written. -/
def comparable (t : Tree) : Except Failure Tree := .ok t.key

theorem exists_equals_iff {k l : Tree} (hk : t.comparable = .ok k) (hl : u.comparable = .ok l) :
    ∃ c, equals k l = .ok c ∧ (c = true ↔ t.CountsAs u) := by
  obtain rfl := Except.ok.inj hk
  obtain rfl := Except.ok.inj hl
  exact ⟨_, rfl, isEqual_key_iff t u⟩

/-- Containers are told apart by their units. -/
theorem allDistinct_containers_iff (hc : ∀ t ∈ trees, t.isContainer = true) :
    allDistinct equals comparable [] trees = .ok true ↔
      trees.Pairwise fun t u ↦ t.split ≠ u.split := by
  have hequals : ∀ t ∈ trees, ∀ u ∈ trees, ∀ k l, t.comparable = .ok k → u.comparable = .ok l →
      ∃ c, equals k l = .ok c ∧ (c = true ↔ t.split = u.split) := by
    intro t ht u hu k l hk hl
    rw [← containers_iff (hc t ht) (hc u hu)]
    exact exists_equals_iff hk hl
  rw [allDistinct_iff hequals]
  exact and_iff_right fun t _ ↦ succeeds_ok t.key

theorem allMembers_keys_iff :
    allMembers equals comparable (items.map key) required = .ok true ↔
      ∀ u ∈ required, ∃ t ∈ items, t.CountsAs u := by
  refine allMembers_iff (fun t _ u _ k l ↦ exists_equals_iff) ?_ fun _ _ u _ _ ↦ succeeds_ok u.key
  exact List.forall₂_map_right_iff.mpr (List.forall₂_same.mpr fun _ _ ↦ rfl)

end Json.Tree

/-! ## The rules -/

namespace RuleContext

open Value

variable (ctx : RuleContext) {items : List Value}

/-- **A list of containers passes as one without a repeated item** when its message can be made, none of
them holds an integer too long to be shown or is nested too deep to be written, and no two are the same
JSON value.  With halves of surrogate pairs in their texts, containers that can be written are taken for
one when they have the same units. -/
theorem arrayUnique_passes_iff [Platform] (hitems : ctx.value.items? = some items)
    (hjson : ∀ v ∈ items, v.IsJson) (hcontainers : ∀ v ∈ items, v.isContainer = true) :
    (ctx.arrayUnique = .ok .pass ↔
      Succeeds (ctx.translate "validator.arrayUnique" []) ∧
        (∀ v ∈ items, v.Writable Platform.writtenDepth) ∧
        items.Pairwise fun v w ↦ sameJson v w = false) ∧
      ∀ trees : List Json.Tree, (∀ t ∈ trees, t.isContainer = true) →
        (allDistinct Json.Tree.equals Json.Tree.comparable [] trees = .ok true ↔
          trees.Pairwise fun t u ↦ t.split ≠ u.split) := by
  refine ⟨?_, fun trees ↦ Json.Tree.allDistinct_containers_iff⟩
  rw [← allDistinct_containers_iff hjson hcontainers, arrayUnique, hitems]
  simp only [bind_eq_ok_iff]
  constructor
  · rintro ⟨message, hmessage, distinct, hdistinct, h⟩
    cases distinct with
    | false => cases h
    | true => exact ⟨⟨message, hmessage⟩, hdistinct⟩
  · rintro ⟨⟨message, hmessage⟩, hdistinct⟩
    exact ⟨message, hmessage, true, hdistinct, rfl⟩

/-- A context that holds a value and parameters only, so that keys stand for messages. -/
def bare (value : Value) (params : List Value) : RuleContext :=
  ⟨value, params, none, none, .null, .null, .null, .null, none, []⟩

namespace Nested

open scoped Platform

/-- Two objects that differ in one truth value, one number, the order of keys and the kind of an array,
and an array whose text looks like that of two items. -/
def arrays : List Value :=
  [.dict [(.text "a", .list [.int 1]), (.text "b", .null)],
    .dict [(.text "b", .null), (.text "a", .tuple [.bool true])],
    .list [.text "\", \""]]

theorem isJson_arrays : ∀ v ∈ arrays, v.IsJson := by
  have hlist : ∀ v : Value, v.IsJson → (Value.list [v]).IsJson := fun v hv ↦ .list (by simpa using hv)
  have htuple : (Value.tuple [.bool true]).IsJson := .tuple (by simp [IsJson.bool])
  simp only [arrays, List.forall_mem_cons, List.not_mem_nil, false_imp_iff, implies_true, and_true]
  exact ⟨.dict (by simp) (by simp [IsJson.null, hlist _ (.int 1)]) (by simp),
    .dict (by simp) (by simp [IsJson.null, htuple]) (by simp), hlist _ (.text _)⟩

theorem succeeds_jsonText_arrays : ∀ v ∈ arrays, Succeeds v.jsonText := by
  simp only [arrays, List.forall_mem_cons, List.not_mem_nil, false_imp_iff, implies_true, and_true]
  exact ⟨⟨_, rfl⟩, ⟨_, rfl⟩, ⟨_, rfl⟩⟩

/-- An array of a character, and an array of the two halves of its surrogate pair. -/
def halved : List Json.Tree :=
  [.array [.text [0x1f600]], .array [.text [0xd83d, 0xde00]]]

/-- Different objects with the same keys, and an array that only looks like several; the halves of a
character that are taken for the character. -/
theorem arrayUnique_passes_arrays :
    (∀ v ∈ arrays, v.IsJson) ∧ (∀ v ∈ arrays, v.isContainer = true) ∧
      (∀ t ∈ halved, t.isContainer = true) ∧ (bare (.list arrays) []).arrayUnique = .ok .pass ∧
      allDistinct Json.Tree.equals Json.Tree.comparable [] halved ≠ .ok true := by
  have hcontainers : ∀ v ∈ arrays, v.isContainer = true := by decide
  have hwritable : ∀ v ∈ arrays, v.Writable Platform.writtenDepth := fun v hv ↦
    (isJson_arrays v hv).succeeds_jsonText_iff.mp (succeeds_jsonText_arrays v hv)
  have htrees : ∀ t ∈ halved, t.isContainer = true := by decide
  obtain ⟨hvalues, hhalves⟩ :=
    arrayUnique_passes_iff (bare (.list arrays) []) rfl isJson_arrays hcontainers
  refine ⟨isJson_arrays, hcontainers, htrees,
    hvalues.mpr ⟨⟨_, rfl⟩, hwritable, by decide +kernel⟩, fun hdistinct ↦ ?_⟩
  exact (List.pairwise_cons.mp ((hhalves halved htrees).mp hdistinct)).1 _ List.mem_cons_self rfl

/-- A list with one item only, an array that holds one number of 4335 digits, does not pass; and two
arrays with different texts are taken for one. -/
theorem not_forall_arrayUnique :
    (¬ ∀ (ctx : RuleContext) (items : List Value), ctx.value.items? = some items →
      (∀ v ∈ items, v.IsJson) → (∀ v ∈ items, v.isContainer = true) →
      (ctx.arrayUnique = .ok .pass ↔ items.Pairwise fun v w ↦ sameJson v w = false)) ∧
    ¬ ∀ trees : List Json.Tree, (∀ t ∈ trees, t.isContainer = true) →
      (allDistinct Json.Tree.equals Json.Tree.comparable [] trees = .ok true ↔
        trees.Pairwise fun t u ↦ t ≠ u) := by
  refine ⟨fun hall ↦ ?_, fun hall ↦ ?_⟩
  · have hlong : maxShownDigits < (Nat.toDigits 10 (16 ^ 3600 - 1)).length := by decide +kernel
    generalize 16 ^ 3600 - 1 = m at hlong
    have hjson : ∀ v ∈ [Value.list [.int m]], v.IsJson := by
      rintro _ (_ | ⟨_, ⟨⟩⟩)
      exact .list (by simp [IsJson.int])
    have hcontainers : ∀ v ∈ [Value.list [.int m]], v.isContainer = true := by simp [isContainer]
    have hpass := (hall (bare (.list [.list [.int m]]) []) _ rfl hjson hcontainers).mpr
      (List.pairwise_singleton _ _)
    obtain ⟨_, -, hpass⟩ := bind_eq_ok hpass
    obtain ⟨distinct, hdistinct, hpass⟩ := bind_eq_ok hpass
    cases distinct with
    | false => cases hpass
    | true =>
      have hwritable := ((allDistinct_containers_iff hjson hcontainers).mp hdistinct).1
      exact (hwritable _ List.mem_cons_self).short m 1 (.part List.mem_cons_self .self) hlong
  · have htrees : ∀ t ∈ halved, t.isContainer = true := by decide
    have hdistinct := (hall halved htrees).mpr (by simp [halved])
    have hsplit := (Json.Tree.allDistinct_containers_iff htrees).mp hdistinct
    exact (List.pairwise_cons.mp hsplit).1 _ List.mem_cons_self rfl

end Nested

/-- **A list passes as one that holds all required values** when the message can be made, no container
among its items holds an integer too long to be shown or is nested too deep to be written, and every
required value is the same JSON value as some item or confused with one.  With halves of surrogate pairs
in their texts, values that can be written are there when each counts as some item. -/
theorem arrayContains_passes_iff [Platform] (hitems : ctx.value.items? = some items)
    (hjson : ∀ v ∈ items, v.IsJson) (hrequired : ∀ w ∈ ctx.params, w.IsJson)
    (hsome : ctx.params ≠ []) :
    (ctx.arrayContains = .ok .pass ↔
      Succeeds (ctx.translate "validator.arrayContains"
        [(.text "requiredValues", .list ctx.params)]) ∧
        (∀ v ∈ items, v.isContainer = true → v.Writable Platform.writtenDepth) ∧
        ∀ w ∈ ctx.params, ∃ v ∈ items, sameJson v w = true ∨ Confused v w) ∧
      ∀ trees required : List Json.Tree,
        allMembers Json.Tree.equals Json.Tree.comparable (trees.map Json.Tree.key) required =
          .ok true ↔ ∀ u ∈ required, ∃ t ∈ trees, t.CountsAs u := by
  refine ⟨?_, fun _ _ ↦ Json.Tree.allMembers_keys_iff⟩
  have hempty : ctx.params.isEmpty = false := by
    simpa [List.isEmpty_iff] using hsome
  rw [← forall₂_congr fun v hv ↦ succeeds_comparable_iff (hjson v hv), ← succeeds_mapM_iff,
    arrayContains, hitems]
  simp only [hempty, Bool.false_eq_true, if_false, bind_eq_ok_iff]
  constructor
  · rintro ⟨message, hmessage, keys, hkeys, found, hfound, h⟩
    cases found with
    | false => cases h
    | true =>
      rw [allMembers_keys_iff hjson (mapM_eq_ok_iff.mp hkeys) hrequired] at hfound
      exact ⟨⟨message, hmessage⟩, ⟨keys, hkeys⟩, hfound⟩
  · rintro ⟨⟨message, hmessage⟩, ⟨keys, hkeys⟩, hfound⟩
    rw [← allMembers_keys_iff hjson (mapM_eq_ok_iff.mp hkeys) hrequired] at hfound
    exact ⟨message, hmessage, keys, hkeys, true, hfound, rfl⟩

namespace Mixed

open scoped Platform

/-- Texts, a truth value and containers, one of which is nested. -/
def mixture : List Value :=
  [.text "1", .bool false, .list [.int 1], .dict [(.text "k", .list [.text "é"])]]

/-- What is required of them. -/
def required : List Value := [.dict [(.text "k", .list [.text "é"])], .text "1", .bool false]

theorem isJson_object : (Value.dict [(.text "k", .list [.text "é"])]).IsJson :=
  .dict (by simp) (by simpa using .list (by simp [IsJson.text])) (by simp)

theorem isJson_mixture : ∀ v ∈ mixture, v.IsJson := by
  simp only [mixture, List.forall_mem_cons, List.not_mem_nil, false_imp_iff, implies_true, and_true]
  exact ⟨.text _, .bool _, .list (by simp [IsJson.int]), isJson_object⟩

/-- Every value that is required of a mixed list is there. -/
theorem arrayContains_passes_mixture :
    (∀ v ∈ mixture, v.IsJson) ∧ (∀ w ∈ required, w.IsJson) ∧ required ≠ [] ∧
      (bare (.list mixture) required).arrayContains = .ok .pass := by
  have hrequired : ∀ w ∈ required, w.IsJson := by
    simp only [required, List.forall_mem_cons, List.not_mem_nil, false_imp_iff, implies_true, and_true]
    exact ⟨isJson_object, .text _, .bool _⟩
  have htexts : ∀ v ∈ mixture, Succeeds v.jsonText := by
    simp only [mixture, List.forall_mem_cons, List.not_mem_nil, false_imp_iff, implies_true, and_true]
    exact ⟨⟨_, rfl⟩, ⟨_, rfl⟩, ⟨_, rfl⟩, ⟨_, rfl⟩⟩
  have hwritable : ∀ v ∈ mixture, v.isContainer = true → v.Writable Platform.writtenDepth :=
    fun v hv _ ↦ (isJson_mixture v hv).succeeds_jsonText_iff.mp (htexts v hv)
  have hfound : ∀ w ∈ required, ∃ v ∈ mixture, sameJson v w = true := by decide +kernel
  refine ⟨isJson_mixture, hrequired, by decide, ?_⟩
  exact (arrayContains_passes_iff _ rfl isJson_mixture hrequired (by decide)).1.mpr
    ⟨⟨_, rfl⟩, hwritable, fun w hw ↦ (hfound w hw).imp fun v ⟨hv, hvw⟩ ↦ ⟨hv, .inl hvw⟩⟩

/-- A text passes for the array whose JSON text it is. -/
theorem not_forall_arrayContains :
    ¬ ∀ (ctx : RuleContext) (items : List Value), ctx.value.items? = some items →
      (∀ v ∈ items, v.IsJson) → (∀ w ∈ ctx.params, w.IsJson) → ctx.params ≠ [] →
      (ctx.arrayContains = .ok .pass ↔ ∀ w ∈ ctx.params, ∃ v ∈ items, sameJson v w = true) := by
  intro hall
  have hlist : (Value.list [.int 1]).IsJson := .list (by simp [IsJson.int])
  have hpass : (bare (.list [.text "[1]"]) [.list [.int 1]]).arrayContains = .ok .pass := by
    with_unfolding_all rfl
  have hsame := (hall (bare (.list [.text "[1]"]) [.list [.int 1]]) [.text "[1]"] rfl
    (by simp [IsJson.text]) (by simpa [bare] using hlist) (by simp [bare])).mp hpass
  obtain ⟨v, hv, hvw⟩ := hsame _ List.mem_cons_self
  obtain rfl := List.mem_singleton.mp hv
  cases hvw

end Mixed
end RuleContext
end Rulebook
