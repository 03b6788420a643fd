import Rulebook.Proofs.Success
import Rulebook.Value.Display

/-!
# When a value can be shown

What is inside of a value is shown a level below it (`Value.literalBelow`), and the forms of several
values are made one after the other (`Value.literalsWithin_eq`, `Value.literalEntriesWithin_eq`).  With
more room a value that can be shown has the same form (`Value.literalWithin_succ`).  So what can be shown
has only items that can be shown, and what has a literal form has a text
(`Value.succeeds_display_of_literal`).
-/

set_option autoImplicit false

namespace Rulebook
namespace Value

variable {room : Nat} {v : Value} {s : String}

/-! ## Several values -/

/-- The literal form of a value that is a level below one with some room. -/
def literalBelow : (room : Nat) → Value → Except Failure String
  | 0, _ => .error (.nestedTooDeep .shown)
  | room + 1, v => v.literalWithin room

/-- The form of an entry of a mapping. -/
def literalEntry (room : Nat) (e : Entry) : Except Failure String := do
  let key ← e.1.literalBelow room
  let shown ← e.2.literalBelow room
  return key ++ ": " ++ shown

theorem literalsWithin_eq (room : Nat) (vs : List Value) :
    literalsWithin room vs = vs.mapM (literalBelow room) := by
  induction vs with
  | nil => cases room <;> rfl
  | cons v r ih =>
    rw [List.mapM_cons, ← ih]
    cases room <;> rfl

theorem literalEntriesWithin_eq (room : Nat) (es : List Entry) :
    literalEntriesWithin room es = es.mapM (literalEntry room) := by
  induction es with
  | nil => cases room <;> rfl
  | cons e r ih =>
    rw [List.mapM_cons, ← ih]
    cases room with
    | zero => rfl
    | succ room =>
      rw [literalEntriesWithin, literalEntry, bind_assoc]
      refine bind_congr fun key ↦ ?_
      rw [bind_assoc]
      rfl

theorem succeeds_literalsWithin_iff (vs : List Value) :
    Succeeds (literalsWithin room vs) ↔ ∀ v ∈ vs, Succeeds (v.literalBelow room) := by
  rw [literalsWithin_eq, succeeds_mapM_iff]

theorem succeeds_literalEntry_iff (e : Entry) :
    Succeeds (literalEntry room e) ↔
      Succeeds (e.1.literalBelow room) ∧ Succeeds (e.2.literalBelow room) := by
  rw [literalEntry, succeeds_bind_iff]
  simp only [succeeds_bind_pure_iff]
  exact ⟨fun ⟨key, hkey, h⟩ ↦ ⟨⟨key, hkey⟩, h⟩, fun ⟨⟨key, hkey⟩, h⟩ ↦ ⟨key, hkey, h⟩⟩

theorem succeeds_literalWithin_list_iff (xs : List Value) :
    Succeeds (literalWithin room (.list xs)) ↔ ∀ x ∈ xs, Succeeds (x.literalBelow room) := by
  rw [literalWithin, succeeds_bind_pure_iff, succeeds_literalsWithin_iff]

theorem succeeds_literalWithin_tuple_iff (xs : List Value) :
    Succeeds (literalWithin room (.tuple xs)) ↔ ∀ x ∈ xs, Succeeds (x.literalBelow room) := by
  rw [literalWithin, ← succeeds_literalsWithin_iff, succeeds_bind_iff]
  constructor
  · exact fun ⟨ss, hss, _⟩ ↦ ⟨ss, hss⟩
  · rintro ⟨ss, hss⟩
    refine ⟨ss, hss, ?_⟩
    split <;> exact succeeds_ok _

theorem succeeds_literalWithin_dict_iff (es : List Entry) :
    Succeeds (literalWithin room (.dict es)) ↔ ∀ e ∈ es, Succeeds (literalEntry room e) := by
  rw [literalWithin, succeeds_bind_pure_iff, literalEntriesWithin_eq, succeeds_mapM_iff]

theorem succeeds_literalWithin_failure_iff (k : FailureKind) (args : List Value) :
    Succeeds (literalWithin room (.failure k args)) ↔ ∀ a ∈ args, Succeeds (a.literalBelow room) := by
  rw [literalWithin, succeeds_bind_pure_iff, succeeds_literalsWithin_iff]

/-! ## More room -/

mutual

/-- **With more room a value that can be shown has the same form.** -/
theorem literalWithin_succ :
    ∀ {v : Value} {room : Nat} {s : String}, v.literalWithin room = .ok s →
      v.literalWithin (room + 1) = .ok s
  | .list xs, _, _, h | .failure _ xs, _, _, h | .attachment xs, _, _, h
  | .tuple xs, _, _, h | .set xs, _, _, h => by
    rw [literalWithin] at h ⊢
    obtain ⟨ps, hps, h⟩ := bind_eq_ok h
    rw [literalsWithin_succ hps]
    exact h
  | .dict es, _, _, h => by
    rw [literalWithin] at h ⊢
    obtain ⟨ps, hps, h⟩ := bind_eq_ok h
    rw [literalEntriesWithin_succ hps]
    exact h
  | .record fs, _, _, h => by
    rw [literalWithin] at h ⊢
    obtain ⟨ps, hps, h⟩ := bind_eq_ok h
    rw [literalFieldsWithin_succ hps]
    exact h
  | .bound r _, _, _, h => by
    rw [literalWithin] at h ⊢
    exact literalWithin_succ h
  | .options context builder, _, _, h => by
    rw [literalWithin] at h ⊢
    obtain ⟨c, hc, h⟩ := bind_eq_ok h
    obtain ⟨b, hb, h⟩ := bind_eq_ok h
    rw [literalWithin_succ hc, bind_eq_ok_iff]
    exact ⟨c, rfl, bind_eq_ok_iff.mpr ⟨b, literalWithin_succ hb, h⟩⟩
  | .null, _, _, h | .bool _, _, _, h | .int _, _, _, h | .float _, _, _, h | .decimal _, _, _, h
  | .text _, _, _, h | .bytes _, _, _, h | .moment _, _, _, h | .unprintable _ _, _, _, h
  | .rule _, _, _, h | .callable _ _, _, _, h | .cls _, _, _, h | .instanceOf _, _, _, h => h

theorem literalsWithin_succ :
    ∀ {vs : List Value} {room : Nat} {ps : List String}, literalsWithin room vs = .ok ps →
      literalsWithin (room + 1) vs = .ok ps
  | [], _, _, h => h
  | _ :: _, 0, _, h => nomatch h
  | v :: r, room + 1, _, h => by
    rw [literalsWithin] at h ⊢
    obtain ⟨p, hp, h⟩ := bind_eq_ok h
    obtain ⟨ps, hps, h⟩ := bind_eq_ok h
    rw [literalWithin_succ hp, bind_eq_ok_iff]
    exact ⟨p, rfl, bind_eq_ok_iff.mpr ⟨ps, literalsWithin_succ hps, h⟩⟩

theorem literalEntriesWithin_succ :
    ∀ {es : List (Value × Value)} {room : Nat} {ps : List String},
      literalEntriesWithin room es = .ok ps → literalEntriesWithin (room + 1) es = .ok ps
  | [], _, _, h => h
  | _ :: _, 0, _, h => nomatch h
  | (k, v) :: r, room + 1, _, h => by
    rw [literalEntriesWithin] at h ⊢
    obtain ⟨key, hkey, h⟩ := bind_eq_ok h
    obtain ⟨p, hp, h⟩ := bind_eq_ok h
    obtain ⟨ps, hps, h⟩ := bind_eq_ok h
    refine bind_eq_ok_iff.mpr ⟨key, literalWithin_succ hkey, ?_⟩
    refine bind_eq_ok_iff.mpr ⟨p, literalWithin_succ hp, ?_⟩
    exact bind_eq_ok_iff.mpr ⟨ps, literalEntriesWithin_succ hps, h⟩

theorem literalFieldsWithin_succ :
    ∀ {fs : List (String × Value)} {room : Nat} {ps : List String},
      literalFieldsWithin room fs = .ok ps → literalFieldsWithin (room + 1) fs = .ok ps
  | [], _, _, h => h
  | _ :: _, 0, _, h => nomatch h
  | (n, v) :: r, room + 1, _, h => by
    rw [literalFieldsWithin] at h ⊢
    obtain ⟨p, hp, h⟩ := bind_eq_ok h
    obtain ⟨ps, hps, h⟩ := bind_eq_ok h
    refine bind_eq_ok_iff.mpr ⟨p, literalWithin_succ hp, ?_⟩
    exact bind_eq_ok_iff.mpr ⟨ps, literalFieldsWithin_succ hps, h⟩

end

/-- What can be shown a level below can be shown. -/
theorem succeeds_literalWithin_of_below (h : Succeeds (v.literalBelow room)) :
    Succeeds (v.literalWithin room) := by
  cases room with
  | zero => exact absurd h (not_succeeds_error _)
  | succ room =>
    obtain ⟨s, hs⟩ := h
    exact ⟨s, literalWithin_succ hs⟩

/-! ## Texts -/

/-- What has a literal form has a text. -/
theorem succeeds_displayWithin (h : Succeeds (v.literalWithin room)) :
    Succeeds (v.displayWithin room) := by
  fun_induction displayWithin room v with
  | case1 | case2 | case3 | case4 => exact succeeds_ok _
  | case5 room a =>
    rw [succeeds_literalWithin_failure_iff, List.forall_mem_singleton] at h
    exact succeeds_literalWithin_of_below h
  | case6 room k a _ ih =>
    rw [succeeds_literalWithin_failure_iff, List.forall_mem_singleton] at h
    exact ih (succeeds_literalWithin_of_below h)
  | case7 room k args =>
    rw [succeeds_literalWithin_failure_iff] at h
    exact (succeeds_literalWithin_tuple_iff args).mpr h
  | case8 room v => exact h

variable [Platform]

theorem succeeds_display_of_literal (h : Succeeds v.literal) : Succeeds v.display :=
  succeeds_displayWithin h

theorem succeeds_display_of_below (h : Succeeds (v.literalBelow Platform.shownDepth)) :
    Succeeds v.display :=
  succeeds_display_of_literal (succeeds_literalWithin_of_below h)

/-- The items of a list or tuple that can be shown can be shown. -/
theorem succeeds_display_of_mem {x : Value} {xs : List Value} (h : Succeeds v.display)
    (hxs : v = .list xs ∨ v = .tuple xs) (hx : x ∈ xs) : Succeeds x.display := by
  rcases hxs with rfl | rfl
  · exact succeeds_display_of_below ((succeeds_literalWithin_list_iff xs).mp h x hx)
  · exact succeeds_display_of_below ((succeeds_literalWithin_tuple_iff xs).mp h x hx)

/-- The values of a mapping that can be shown can be shown. -/
theorem succeeds_display_of_mem_entries {es : List Entry} (h : Succeeds (display (.dict es)))
    {e : Entry} (he : e ∈ es) : Succeeds e.2.display :=
  succeeds_display_of_below
    ((succeeds_literalEntry_iff e).mp ((succeeds_literalWithin_dict_iff es).mp h e he)).2

theorem succeeds_display_text (s : String) : Succeeds (display (.text s)) := succeeds_ok s

end Value
end Rulebook
