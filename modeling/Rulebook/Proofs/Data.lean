import Rulebook.Files.Reader
import Rulebook.Proofs.Sorting
import Rulebook.Proofs.Translation
import Rulebook.Rule.Standard

/-!
# Values that hold data only

Documents hold data (`Value.IsData`): null, truth values, numbers, texts, bytes, moments, and containers
of them.  What is computed from data may fail, for instance when an integer has too many digits to be
shown, but only with a failure of the library's own (`Failure.IsOwn`), never with one that a caller has
put into a value.  Comparing values and reading patterns fail in no other way whatever the values are.
-/

set_option autoImplicit false

namespace Rulebook

/-! ## Failures of the library's own -/

namespace Failure

/-- A failure that was not thrown by a function of the caller. -/
def IsOwn : Failure → Prop
  | thrown .. => False
  | _ => True

theorem IsOwn.isOrdinary {f : Failure} (h : f.IsOwn) : f.isOrdinary = true := by
  cases f with
  | thrown => exact h.elim
  | codeTooLarge beyondWords => cases beyondWords <;> rfl
  | _ => rfl

theorem IsOwn.succeeds_text [Platform] {f : Failure} (h : f.IsOwn) : Succeeds f.text := by
  cases f with
  | thrown => exact h.elim
  | codeTooLarge beyondWords => cases beyondWords <;> exact ⟨_, rfl⟩
  | _ => exact ⟨_, rfl⟩

end Failure

namespace Value

/-! ## Data -/

/-- A value of a document: a scalar, or a container of such values.  No key of a mapping occurs
twice. -/
inductive IsData : Value → Prop
  | null : IsData null
  | bool (b : Bool) : IsData (bool b)
  | int (n : Int) : IsData (int n)
  | float (x : Double) : IsData (float x)
  | decimal (d : Decimal) : IsData (decimal d)
  | text (s : String) : IsData (text s)
  | bytes (bs : List UInt8) : IsData (bytes bs)
  | moment (m : Moment) : IsData (moment m)
  | list {xs : List Value} (h : ∀ x ∈ xs, IsData x) : IsData (list xs)
  | tuple {xs : List Value} (h : ∀ x ∈ xs, IsData x) : IsData (tuple xs)
  | set {xs : List Value} (h : ∀ x ∈ xs, IsData x) : IsData (set xs)
  | dict {es : List Entry} (hkeys : ∀ e ∈ es, IsData e.1) (hvalues : ∀ e ∈ es, IsData e.2)
      (distinct : es.Pairwise fun a b ↦ sameKey a.1 b.1 = false) : IsData (dict es)

section Display

theorem failsOnly_showInteger (n : Int) : FailsOnly Failure.IsOwn (showInteger n) := by
  intro f hf
  rw [showInteger] at hf
  split at hf
  · exact Except.error.inj hf ▸ trivial
  · cases hf

theorem failsOnly_literalBelow {P : Failure → Prop} {room : Nat} {v : Value}
    (hdeep : P (.nestedTooDeep .shown)) (h : ∀ r, FailsOnly P (v.literalWithin r)) :
    FailsOnly P (v.literalBelow room) := by
  cases room with
  | zero => exact failsOnly_error hdeep
  | succ room => exact h room

theorem failsOnly_literalEntry {P : Failure → Prop} {room : Nat} {e : Entry}
    (hkey : FailsOnly P (e.1.literalBelow room)) (hvalue : FailsOnly P (e.2.literalBelow room)) :
    FailsOnly P (literalEntry room e) :=
  hkey.bind fun _ _ ↦ hvalue.bind fun _ _ ↦ failsOnly_ok _

/-- Data can be shown, unless an integer in it has too many digits or it is nested too deep. -/
theorem IsData.failsOnly_literalWithin {v : Value} (h : v.IsData) (room : Nat) :
    FailsOnly Failure.IsOwn (v.literalWithin room) := by
  induction h generalizing room with
  | int n => exact failsOnly_showInteger n
  | list _ ih =>
    rw [literalWithin, literalsWithin_eq]
    exact (failsOnly_mapM fun x hx ↦ failsOnly_literalBelow trivial (ih x hx)).bind
      fun _ _ ↦ failsOnly_ok _
  | tuple _ ih | set _ ih =>
    rw [literalWithin, literalsWithin_eq]
    refine (failsOnly_mapM fun x hx ↦ failsOnly_literalBelow trivial (ih x hx)).bind
      fun shown _ ↦ ?_
    split <;> exact failsOnly_ok _
  | dict _ _ _ ihkeys ihvalues =>
    rw [literalWithin, literalEntriesWithin_eq]
    refine (failsOnly_mapM fun e he ↦ failsOnly_literalEntry ?_ ?_).bind fun _ _ ↦ failsOnly_ok _
    · exact failsOnly_literalBelow trivial (ihkeys e he)
    · exact failsOnly_literalBelow trivial (ihvalues e he)
  | _ => exact failsOnly_ok _

theorem IsData.failsOnly_displayWithin {v : Value} (h : v.IsData) (room : Nat) :
    FailsOnly Failure.IsOwn (v.displayWithin room) := by
  have hliteral := h.failsOnly_literalWithin room
  cases h with
  | text s => exact failsOnly_ok _
  | decimal d => exact failsOnly_ok _
  | moment m => exact failsOnly_ok _
  | _ => exact hliteral

theorem IsData.failsOnly_display [Platform] {v : Value} (h : v.IsData) :
    FailsOnly Failure.IsOwn v.display :=
  h.failsOnly_displayWithin _

end Display

/-! ## Comparing values -/

theorem failsOnly_equalNumbers (a b : Value) : FailsOnly Failure.IsOwn (equalNumbers a b) := by
  rw [equalNumbers]
  split
  · exact failsOnly_error trivial
  · exact failsOnly_ok _

theorem failsOnly_anyItem {κ : Type} {P : Failure → Prop} {test : κ → Except Failure Bool}
    {xs : List κ} (h : ∀ x ∈ xs, FailsOnly P (test x)) : FailsOnly P (anyItem test xs) := by
  induction xs with
  | nil => exact failsOnly_ok _
  | cons x r ih =>
    obtain ⟨hx, hr⟩ := List.forall_mem_cons.mp h
    refine hx.bind fun b _ ↦ ?_
    split
    · exact failsOnly_ok _
    · exact ih hr

theorem failsOnly_lookupWith {P : Failure → Prop} {test : Value → Except Failure Bool}
    {es : List Entry} (h : ∀ x, FailsOnly P (test x)) : FailsOnly P (lookupWith test es) := by
  induction es with
  | nil => exact failsOnly_ok _
  | cons e r ih =>
    refine (h e.1).bind fun b _ ↦ ?_
    split
    · exact failsOnly_ok _
    · exact ih

mutual

theorem failsOnly_equals (a b : Value) : FailsOnly Failure.IsOwn (equals a b) := by
  rw [equals.eq_def]
  split
  · exact failsOnly_ok _
  · exact failsOnly_ok _
  · exact failsOnly_ok _
  · exact failsOnly_ok _
  · split
    · exact failsOnly_equalItems _ _
    · exact failsOnly_ok _
  · exact failsOnly_equalItems _ _
  · split
    · exact failsOnly_allIn _ _
    · exact failsOnly_ok _
  · split
    · exact failsOnly_entriesIn _ _
    · exact failsOnly_ok _
  · split
    · exact failsOnly_equalNumbers a b
    · exact failsOnly_ok _
termination_by sizeOf a

theorem failsOnly_equalItems (xs ys : List Value) :
    FailsOnly Failure.IsOwn (equalItems xs ys) := by
  match xs, ys with
  | [], [] | [], _ :: _ | _ :: _, [] =>
    rw [equalItems.eq_def]
    exact failsOnly_ok _
  | x :: xs, y :: ys =>
    rw [equalItems]
    refine (failsOnly_equals x y).bind fun b _ ↦ ?_
    split
    · exact failsOnly_equalItems xs ys
    · exact failsOnly_ok _
termination_by sizeOf xs

theorem failsOnly_allIn (xs ys : List Value) : FailsOnly Failure.IsOwn (allIn xs ys) := by
  match xs with
  | [] =>
    rw [allIn]
    exact failsOnly_ok _
  | x :: xs =>
    rw [allIn]
    refine (failsOnly_anyItem fun y _ ↦ failsOnly_equals x y).bind fun b _ ↦ ?_
    split
    · exact failsOnly_allIn xs ys
    · exact failsOnly_ok _
termination_by sizeOf xs

theorem failsOnly_entriesIn (es fs : List (Value × Value)) :
    FailsOnly Failure.IsOwn (entriesIn es fs) := by
  match es with
  | [] =>
    rw [entriesIn]
    exact failsOnly_ok _
  | (k, v) :: es =>
    rw [entriesIn]
    refine (failsOnly_lookupWith fun l ↦ failsOnly_equals k l).bind fun found _ ↦ ?_
    cases found with
    | none => exact failsOnly_ok _
    | some w =>
      refine (failsOnly_equals v w).bind fun b _ ↦ ?_
      split
      · exact failsOnly_entriesIn es fs
      · exact failsOnly_ok _
termination_by sizeOf es

end

mutual

theorem failsOnly_less (a b : Value) : FailsOnly Failure.IsOwn (less a b) := by
  rw [less.eq_def]
  split
  · exact failsOnly_ok _
  · exact failsOnly_ok _
  · exact failsOnly_lessItems _ _
  · exact failsOnly_ok _
  · split
    · split
      · exact failsOnly_error trivial
      · exact failsOnly_ok _
    · exact failsOnly_error trivial
termination_by sizeOf a

theorem failsOnly_lessItems (xs ys : List Value) : FailsOnly Failure.IsOwn (lessItems xs ys) := by
  match xs, ys with
  | [], [] | [], _ :: _ | _ :: _, [] =>
    rw [lessItems.eq_def]
    exact failsOnly_ok _
  | x :: xs, y :: ys =>
    rw [lessItems]
    refine (failsOnly_equals x y).bind fun b _ ↦ ?_
    split
    · exact failsOnly_lessItems xs ys
    · exact failsOnly_less x y
termination_by sizeOf xs

end

/-! ## JSON texts -/

theorem failsOnly_keyText (k : Value) : FailsOnly Failure.IsOwn (Json.keyText k) := by
  rw [Json.keyText.eq_def]
  split
  · exact failsOnly_ok _
  · exact failsOnly_ok _
  · exact failsOnly_ok _
  · exact failsOnly_ok _
  · exact failsOnly_showInteger _
  · exact failsOnly_error trivial

theorem failsOnly_objectText {es : List (Value × Except Failure String)}
    (h : ∀ e ∈ es, FailsOnly Failure.IsOwn e.2) : FailsOnly Failure.IsOwn (Json.objectText es) := by
  refine FailsOnly.bind (failsOnly_mapM fun e he ↦ ?_) fun _ _ ↦ failsOnly_ok _
  exact (failsOnly_keyText e.1).bind fun _ _ ↦ (h e he).bind fun _ _ ↦ failsOnly_ok _

theorem jsonItemsWithin_eq (room : Nat) (xs : List Value) :
    jsonItemsWithin room xs = xs.mapM (jsonTextWithin room) := by
  induction xs with
  | nil => rfl
  | cons x r ih =>
    rw [jsonItemsWithin, ih, List.mapM_cons]

theorem jsonEntriesWithin_eq (room : Nat) (es : List Entry) :
    jsonEntriesWithin room es = es.map fun e ↦ (e.1, e.2.jsonTextWithin room) := by
  induction es with
  | nil => rfl
  | cons e r ih =>
    rw [jsonEntriesWithin, ih]
    rfl

/-- What JSON has no form for is written as the text it is shown as, if there is room. -/
theorem IsData.failsOnly_jsonShown {v : Value} (h : v.IsData) (room : Nat) :
    FailsOnly Failure.IsOwn (do
      let shown ← v.displayWithin room
      if room = 0 then .error (.nestedTooDeep .written) else return Json.quoted shown) := by
  refine (h.failsOnly_displayWithin room).bind fun shown _ ↦ ?_
  split
  · exact failsOnly_error trivial
  · exact failsOnly_ok _

/-- Data has a JSON text, unless it has keys that have no order or cannot be written, an integer in it
has too many digits, or it is nested too deep. -/
theorem IsData.failsOnly_jsonTextWithin {v : Value} (h : v.IsData) (room : Nat) :
    FailsOnly Failure.IsOwn (v.jsonTextWithin room) := by
  induction h generalizing room with
  | int n => exact failsOnly_showInteger n
  | list _ ih | tuple _ ih =>
    cases room with
    | zero => exact failsOnly_error trivial
    | succ room =>
      rw [jsonTextWithin, jsonItemsWithin_eq]
      exact (failsOnly_mapM fun x hx ↦ ih x hx room).bind fun _ _ ↦ failsOnly_ok _
  | @dict es _ _ _ _ ihvalues =>
    cases room with
    | zero => exact failsOnly_error trivial
    | succ room =>
      rw [jsonTextWithin, jsonEntriesWithin_eq]
      have hless : ∀ a b : Value × Except Failure String,
          FailsOnly Failure.IsOwn (less a.1 b.1) := fun a b ↦ failsOnly_less a.1 b.1
      refine (failsOnly_sortWith hless _).bind fun sorted hsorted ↦ ?_
      refine failsOnly_objectText fun e he ↦ ?_
      obtain ⟨d, hd, rfl⟩ := List.mem_map.mp ((perm_sortWith hsorted).mem_iff.mp he)
      exact ihvalues d hd room
  | decimal d => exact (IsData.decimal d).failsOnly_jsonShown room
  | bytes bs => exact (IsData.bytes bs).failsOnly_jsonShown room
  | moment m => exact (IsData.moment m).failsOnly_jsonShown room
  | set h _ => exact (IsData.set h).failsOnly_jsonShown room
  | _ => exact failsOnly_ok _

theorem IsData.failsOnly_jsonText [Platform] {v : Value} (h : v.IsData) :
    FailsOnly Failure.IsOwn v.jsonText :=
  h.failsOnly_jsonTextWithin _

theorem IsData.failsOnly_comparable [Platform] {v : Value} (h : v.IsData) :
    FailsOnly Failure.IsOwn v.comparable := by
  cases h with
  | list h => exact (IsData.list h).failsOnly_jsonText.bind fun _ _ ↦ failsOnly_ok _
  | tuple h => exact (IsData.tuple h).failsOnly_jsonText.bind fun _ _ ↦ failsOnly_ok _
  | dict hk hv hd => exact (IsData.dict hk hv hd).failsOnly_jsonText.bind fun _ _ ↦ failsOnly_ok _
  | _ => exact failsOnly_ok _

/-! ## Looking for items

Items are looked for by what they are compared by.  Let `R` hold of all of that. -/

section Items

variable {α κ : Type} {equals : κ → κ → Except Failure Bool} {comparable : α → Except Failure κ}
  {P : Failure → Prop} {R : κ → Prop} {members : List κ} {vs : List α}

theorem failsOnly_allMembers (hequals : ∀ k l, R k → R l → FailsOnly P (equals k l))
    (hmembers : ∀ k ∈ members, R k) (hvs : ∀ v ∈ vs, FailsOnly P (comparable v))
    (hkeys : ∀ v ∈ vs, ∀ key, comparable v = .ok key → R key) :
    FailsOnly P (allMembers equals comparable members vs) := by
  induction vs with
  | nil => exact failsOnly_ok _
  | cons v r ih =>
    obtain ⟨hv, hr⟩ := List.forall_mem_cons.mp hvs
    obtain ⟨hkey, hkeys⟩ := List.forall_mem_cons.mp hkeys
    refine hv.bind fun key hok ↦ ?_
    refine (failsOnly_anyItem fun k hk ↦ hequals k key (hmembers k hk) (hkey key hok)).bind
      fun found _ ↦ ?_
    split
    · exact ih hr hkeys
    · exact failsOnly_ok _

theorem failsOnly_allDistinct (hequals : ∀ k l, R k → R l → FailsOnly P (equals k l))
    (hmembers : ∀ k ∈ members, R k) (hvs : ∀ v ∈ vs, FailsOnly P (comparable v))
    (hkeys : ∀ v ∈ vs, ∀ key, comparable v = .ok key → R key) :
    FailsOnly P (allDistinct equals comparable members vs) := by
  induction vs generalizing members with
  | nil => exact failsOnly_ok _
  | cons v r ih =>
    obtain ⟨hv, hr⟩ := List.forall_mem_cons.mp hvs
    obtain ⟨hkey, hkeys⟩ := List.forall_mem_cons.mp hkeys
    refine hv.bind fun key hok ↦ ?_
    refine (failsOnly_anyItem fun k hk ↦ hequals k key (hmembers k hk) (hkey key hok)).bind
      fun found _ ↦ ?_
    split
    · exact failsOnly_ok _
    · refine ih (fun k hk ↦ ?_) hr hkeys
      rcases List.mem_append.mp hk with hk | hk
      · exact hmembers k hk
      · exact List.mem_singleton.mp hk ▸ hkey key hok

end Items

/-! ## Numbers -/

theorem failsOnly_toNumber (v : Value) : FailsOnly Failure.IsOwn v.toNumber := by
  rw [toNumber.eq_def]
  split
  · split
    · exact failsOnly_ok _
    · exact failsOnly_error trivial
  · exact failsOnly_ok _
  · split
    · exact failsOnly_error trivial
    · exact failsOnly_ok _
  · exact failsOnly_ok _
  · exact failsOnly_ok _

/-! ## Parts of data -/

/-- The items of a list or tuple of data are data. -/
theorem IsData.of_mem_items {v x : Value} (h : v.IsData) {xs : List Value}
    (hxs : v.items? = some xs) (hx : x ∈ xs) : x.IsData := by
  cases h with
  | list h => exact h x (Option.some.inj hxs ▸ hx)
  | tuple h => exact h x (Option.some.inj hxs ▸ hx)
  | _ => cases hxs

/-- What is found in a mapping of data is data. -/
theorem IsData.of_lookup {key v : Value} {es : List Entry} (h : IsData (.dict es))
    (hv : lookup key es = some v) : v.IsData := by
  obtain ⟨e, he, rfl⟩ := Template.exists_mem_of_lookup hv
  cases h with
  | dict _ hvalues _ => exact hvalues e he

end Value

/-! ## Readers of texts -/

theorem Json.failsOnly_isDocument [Platform] (s : String) :
    FailsOnly Failure.IsOwn (Json.isDocument s) := by
  rw [isDocument]
  split
  · exact failsOnly_ok _
  · exact failsOnly_ok _
  · exact failsOnly_error trivial

theorem Pattern.failsOnly_ofText? [Platform] (s : String) :
    FailsOnly Failure.IsOwn (Pattern.ofText? s) := by
  rw [ofText?]
  split
  · exact failsOnly_ok _
  · rename_i fault _
    cases fault with
    | malformed => exact failsOnly_ok _
    | _ => exact failsOnly_error trivial

/-! ## Readers of documents -/

/-- What a reader of documents yields is data. -/
structure DocumentReader.YieldsData (r : DocumentReader) : Prop where
  ofText : ∀ s v, r.ofText s = .ok v → v.IsData
  ofBytes : ∀ bytes v, r.ofBytes bytes = .ok v → v.IsData

end Rulebook
