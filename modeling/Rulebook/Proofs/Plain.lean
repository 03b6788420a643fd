import Rulebook.Proofs.Membership
import Rulebook.Proofs.Rounding
import Mathlib.Data.Nat.Digits.Defs

/-!
# What can fail for plain values

Plain values are scalars and containers of them, nested to any depth (`Value.IsPlain`).  What a rule
computes from them can fail for few reasons, each of them a value at a limit:

* showing one, or writing it as JSON, for an integer in it with too many digits or for what is nested too
  deep in it (`Value.Printable`, `Value.Serializable`);
* taking one as a number, for an integer beyond all doubles or a signalling not-a-number;
* comparing two scalars, for a signalling not-a-number.

A value that was taken as a number can be shown: an integer that is not beyond all doubles has far fewer
digits than can be shown (`Value.succeeds_display_of_toNumber`).
-/

set_option autoImplicit false

namespace Rulebook

variable {P : Failure → Prop}

/-! ## Integers -/

theorem failsOnly_showInteger_of {n : Int} (hP : IsLong n → P .integerTooLong) :
    FailsOnly P (showInteger n) := by
  rw [showInteger]
  split
  · rename_i hlong
    exact failsOnly_error (hP hlong)
  · exact failsOnly_ok _

theorem not_isLong_of_lt {n : Int} (h : n.natAbs < 2 ^ Double.bits) : ¬ IsLong n := by
  have hbound : n.natAbs < 10 ^ maxShownDigits :=
    calc n.natAbs < 2 ^ Double.bits := h
      _ ≤ 10 ^ Double.bits := Nat.pow_le_pow_left (by decide) _
      _ ≤ 10 ^ maxShownDigits := Nat.pow_le_pow_right (by decide) (by decide)
  exact Nat.not_lt.mpr (Nat.toDigits_length 10 n.natAbs maxShownDigits (by decide) hbound)

namespace Value

/-! ## Plain values -/

/-- A scalar, or a list, a tuple or a mapping from texts of such values. -/
inductive IsPlain : Value → Prop
  | null : IsPlain null
  | bool (b : Bool) : IsPlain (bool b)
  | int (n : Int) : IsPlain (int n)
  | float {x : Double} (h : x.IsValid) : IsPlain (float x)
  | decimal (d : Decimal) : IsPlain (decimal d)
  | text (s : String) : IsPlain (text s)
  | list {xs : List Value} (h : ∀ x ∈ xs, IsPlain x) : IsPlain (list xs)
  | tuple {xs : List Value} (h : ∀ x ∈ xs, IsPlain x) : IsPlain (tuple xs)
  | dict {es : List Entry} (hkeys : ∀ e ∈ es, ∃ s, e.1 = .text s)
      (hvalues : ∀ e ∈ es, IsPlain e.2) : IsPlain (dict es)

variable {room : Nat} {v w : Value} {xs : List Value}

theorem IsPlain.of_mem_items (h : v.IsPlain) (hxs : v.items? = some xs) {x : Value} (hx : x ∈ xs) :
    x.IsPlain := by
  cases h with
  | list h | tuple h => exact h x (Option.some.inj hxs ▸ hx)
  | _ => cases hxs

/-! ## Showing them -/

/-- Values with no integer that has too many digits and nothing more levels deep than there is room for,
unless that is a reason to fail. -/
structure Printable (P : Failure → Prop) (room : Nat) (v : Value) : Prop where
  short : ∀ (n : Int) (d : Nat), (int n).Within d v → IsLong n → P .integerTooLong
  shallow : ∀ (w : Value) (d : Nat), w.Within d v → room < d → P (.nestedTooDeep .shown)

/-- What has a part is too deep where there is no room. -/
theorem Printable.deep (hP : Printable P 0 v) {x : Value} (hx : x ∈ v.parts) :
    P (.nestedTooDeep .shown) :=
  hP.shallow x 1 (.part hx .self) Nat.one_pos

/-- A part of a value is shown a level below it. -/
theorem Printable.failsOnly_literalBelow (hP : Printable P room v) {x : Value} (hx : x ∈ v.parts)
    (h : ∀ {room}, Printable P room x → FailsOnly P (x.literalWithin room)) :
    FailsOnly P (x.literalBelow room) := by
  cases room with
  | zero => exact failsOnly_error (hP.deep hx)
  | succ room =>
    exact h ⟨fun n d hn ↦ hP.short n (d + 1) (.part hx hn),
      fun w d hw hd ↦ hP.shallow w (d + 1) (.part hx hw) (Nat.succ_lt_succ hd)⟩

theorem IsPlain.failsOnly_literalWithin (h : v.IsPlain) (hP : Printable P room v) :
    FailsOnly P (v.literalWithin room) := by
  induction h generalizing room with
  | int n => exact failsOnly_showInteger_of (hP.short n 0 .self)
  | list _ ih =>
    rw [literalWithin, literalsWithin_eq]
    exact (failsOnly_mapM fun x hx ↦ hP.failsOnly_literalBelow hx (ih x hx)).bind
      fun _ _ ↦ failsOnly_ok _
  | tuple _ ih =>
    rw [literalWithin, literalsWithin_eq]
    refine (failsOnly_mapM fun x hx ↦ hP.failsOnly_literalBelow hx (ih x hx)).bind fun shown _ ↦ ?_
    split <;> exact failsOnly_ok _
  | dict hkeys _ ih =>
    rw [literalWithin, literalEntriesWithin_eq]
    refine (failsOnly_mapM fun e he ↦ failsOnly_literalEntry ?_ ?_).bind fun _ _ ↦ failsOnly_ok _
    · -- A key is no deeper than the value under it.
      obtain ⟨s, hs⟩ := hkeys e he
      rw [hs]
      cases room with
      | zero => exact failsOnly_error (hP.deep (List.mem_map_of_mem he))
      | succ room => exact failsOnly_ok _
    · exact hP.failsOnly_literalBelow (List.mem_map_of_mem he) (ih e he)
  | _ => exact failsOnly_ok _

theorem IsPlain.failsOnly_displayWithin (h : v.IsPlain) (hP : Printable P room v) :
    FailsOnly P (v.displayWithin room) := by
  have hliteral := h.failsOnly_literalWithin hP
  cases h with
  | text | decimal => exact failsOnly_ok _
  | _ => exact hliteral

theorem IsPlain.failsOnly_parameterText_list [Platform] (h : ∀ x ∈ xs, x.IsPlain)
    (hP : ∀ x ∈ xs, Printable P Platform.shownDepth x) :
    FailsOnly P (Template.parameterText (.list xs)) :=
  Template.failsOnly_parameterText_list fun x hx ↦ (h x hx).failsOnly_displayWithin (hP x hx)

/-! ## Writing them as JSON -/

/-- Whether a value takes a level when it is written: a container, or a value that JSON has no form
for. -/
def takesLevel : Value → Bool
  | null | bool _ | int _ | float _ | text _ => false
  | _ => true

/-- Values with no integer that has too many digits and nothing that takes a level as many levels deep
as there is room for, unless that is a reason to fail. -/
structure Serializable (P : Failure → Prop) (room : Nat) (v : Value) : Prop where
  short : ∀ (n : Int) (d : Nat), (int n).Within d v → IsLong n → P .integerTooLong
  shallow : ∀ (w : Value) (d : Nat), w.Within d v → w.takesLevel = true → room ≤ d →
    P (.nestedTooDeep .written)

theorem Serializable.part (hP : Serializable P (room + 1) v) {x : Value} (hx : x ∈ v.parts) :
    Serializable P room x :=
  ⟨fun n d hn ↦ hP.short n (d + 1) (.part hx hn),
    fun w d hw hlevel hd ↦ hP.shallow w (d + 1) (.part hx hw) hlevel (Nat.succ_le_succ hd)⟩

theorem Serializable.failsOnly_of_no_room (hP : Serializable P 0 v) (h : v.takesLevel = true)
    {α : Type} : FailsOnly P (.error (.nestedTooDeep .written) : Except Failure α) :=
  failsOnly_error (hP.shallow v 0 .self h (Nat.le_refl 0))

theorem failsOnly_enclosed {β : Type} {opening closing : String} {f : β → Except Failure String}
    {ys : List β} (h : ∀ y ∈ ys, FailsOnly P (f y)) : FailsOnly P (enclosed opening closing f ys) :=
  (failsOnly_mapM h).bind fun _ _ ↦ failsOnly_ok _

theorem IsPlain.failsOnly_jsonTextWithin (h : v.IsPlain) (hP : Serializable P room v) :
    FailsOnly P (v.jsonTextWithin room) := by
  induction h generalizing room with
  | int n => exact failsOnly_showInteger_of (hP.short n 0 .self)
  | list _ ih | tuple _ ih =>
    cases room with
    | zero => exact hP.failsOnly_of_no_room rfl
    | succ room =>
      rw [jsonTextWithin_of_items rfl]
      exact failsOnly_enclosed fun x hx ↦ ih x hx (hP.part hx)
  | @dict es hkeys _ ih =>
    cases room with
    | zero => exact hP.failsOnly_of_no_room rfl
    | succ room =>
      obtain ⟨es', hperm, htext⟩ := exists_jsonTextWithin_dict room hkeys
      rw [htext]
      refine failsOnly_enclosed fun e he ↦ ?_
      have he := hperm.mem_iff.mp he
      obtain ⟨s, hs⟩ := hkeys e he
      rw [entryText, hs]
      exact (ih e he (hP.part (List.mem_map_of_mem he))).bind fun _ _ ↦ failsOnly_ok _
  | decimal d =>
    cases room with
    | zero => exact hP.failsOnly_of_no_room rfl
    | succ room => exact failsOnly_ok _
  | _ => exact failsOnly_ok _

theorem IsPlain.failsOnly_comparable [Platform] (h : v.IsPlain)
    (hP : v.isContainer = true → Serializable P Platform.writtenDepth v) :
    FailsOnly P v.comparable := by
  cases hc : v.isContainer with
  | true =>
    rw [comparable_of_isContainer hc]
    exact (h.failsOnly_jsonTextWithin (hP hc)).bind fun _ _ ↦ failsOnly_ok _
  | false =>
    rw [comparable_of_not_isContainer hc]
    exact failsOnly_ok _

/-! ## Taking them as numbers -/

/-- Values that are no number beyond all doubles and no signalling not-a-number, unless being one is a
reason to fail. -/
structure Numerical (P : Failure → Prop) (v : Value) : Prop where
  inRange : ∀ n, v = .int n → Double.ofInt? n = none → P .integerTooLarge
  quiet : v.isSignalling = true → P .signallingNaN

theorem Numerical.failsOnly_toNumber (h : Numerical P v) : FailsOnly P v.toNumber := by
  rw [toNumber.eq_def]
  split
  · rename_i n
    split
    · exact failsOnly_ok _
    · rename_i hn
      exact failsOnly_error (h.inRange n rfl hn)
  · exact failsOnly_ok _
  · split
    · rename_i hd
      exact failsOnly_error (h.quiet hd)
    · exact failsOnly_ok _
  · exact failsOnly_ok _
  · exact failsOnly_ok _

/-- Where a number comes from. -/
inductive NumberSource (x : Double) : Value → Prop
  | int {n : Int} (h : Double.ofInt? n = some x) : NumberSource x (int n)
  | float : NumberSource x (float x)
  | decimal {d : Decimal} (h : d.toDouble = x) : NumberSource x (decimal d)
  | text {s : String} (h : Double.ofText? s = some x) : NumberSource x (text s)

theorem numberSource_of_toNumber {x : Double} (hx : v.toNumber = .ok (some x)) :
    NumberSource x v := by
  have hfilter : ∀ {o : Option Double}, (pure (o.filter (!·.isNaN)) : Except Failure _) =
      .ok (some x) → o = some x :=
    fun h ↦ (Option.filter_eq_some_iff.mp (Except.ok.inj h)).1
  rw [toNumber.eq_def] at hx
  split at hx
  · split at hx
    · rename_i hn
      obtain rfl := Option.some.inj (hfilter hx)
      exact .int hn
    · cases hx
  · obtain rfl := Option.some.inj (hfilter hx)
    exact .float
  · split at hx
    · cases hx
    · exact .decimal (Option.some.inj (hfilter hx))
  · exact .text (hfilter hx)
  · cases hfilter hx

/-- A number that a plain value stands for is a double. -/
theorem IsPlain.isValid_of_toNumber (h : v.IsPlain) {x : Double} (hx : v.toNumber = .ok (some x)) :
    x.IsValid := by
  cases numberSource_of_toNumber hx with
  | int hn =>
    rw [Double.ofInt?] at hn
    split at hn
    · cases hn
    · exact Option.some.inj hn ▸ Double.isValid_ofRatio _ _ one_ne_zero
  | float =>
    cases h with
    | float h => exact h
  | @decimal d hd => exact hd ▸ Double.isValid_toDouble d
  | text hs => exact Double.isValid_ofText? hs

/-- **A value that was taken as a number can be shown.** -/
theorem succeeds_display_of_toNumber [Platform] {x : Double} (hx : v.toNumber = .ok (some x)) :
    Succeeds v.display := by
  cases numberSource_of_toNumber hx with
  | int hn => exact succeeds_showInteger_iff.mpr (not_isLong_of_lt (Double.natAbs_lt_of_ofInt? hn))
  | float | decimal | text => exact succeeds_ok _

/-! ## Comparing them -/

/-- A scalar that is no signalling not-a-number, unless comparing one is a reason to fail. -/
structure Comparable (P : Failure → Prop) (v : Value) : Prop where
  isPlain : v.IsPlain
  isScalar : v.isContainer = false
  quiet : v.isSignalling = true → P .signallingComparison

theorem Comparable.failsOnly_equals (hv : Comparable P v) (hw : Comparable P w) :
    FailsOnly P (equals v w) := by
  have hnumbers : FailsOnly P (equalNumbers v w) := by
    rw [equalNumbers]
    split
    · rename_i hsignal
      exact failsOnly_error ((Bool.or_eq_true_iff.mp hsignal).elim hv.quiet hw.quiet)
    · exact failsOnly_ok _
  have hscalar := hv.isScalar
  have hplain := hv.isPlain
  rw [equals.eq_def]
  split
  any_goals exact failsOnly_ok _
  · cases hscalar
  · cases hscalar
  · cases hplain
  · cases hscalar
  · split
    · exact hnumbers
    · exact failsOnly_ok _

/-- What a plain value is compared by. -/
theorem IsPlain.comparable_of_eq_ok [Platform] (h : v.IsPlain)
    (hP : v.isSignalling = true → P .signallingComparison) {key : Value}
    (hkey : v.comparable = .ok key) : Comparable P key := by
  cases hc : v.isContainer with
  | true =>
    rw [comparable_of_isContainer hc] at hkey
    obtain ⟨s, -, hkey⟩ := bind_eq_ok hkey
    obtain rfl := Except.ok.inj hkey
    exact ⟨.text s, rfl, nofun⟩
  | false =>
    rw [comparable_of_not_isContainer hc] at hkey
    obtain rfl := Except.ok.inj hkey
    exact ⟨h, hc, hP⟩

end Value
end Rulebook
