import Mathlib.Data.List.Forall2
import Rulebook.Failure

/-!
# Computations that may fail

`Succeeds` says that a computation comes to a result, and `FailsOnly` that it does unless it ends with
a failure of some kind.  For a computation made of several ones, both are said in terms of these.
-/

set_option autoImplicit false

namespace Rulebook

/-- A computation that does not fail. -/
def Succeeds {α : Type} (x : Except Failure α) : Prop := ∃ a, x = .ok a

section Succeeds

variable {α β : Type}

@[simp] theorem succeeds_ok (a : α) : Succeeds (.ok a : Except Failure α) := ⟨a, rfl⟩

@[simp] theorem not_succeeds_error (f : Failure) : ¬ Succeeds (.error f : Except Failure α) :=
  fun ⟨_, h⟩ ↦ nomatch h

theorem succeeds_bind_iff {x : Except Failure α} {f : α → Except Failure β} :
    Succeeds (x >>= f) ↔ ∃ a, x = .ok a ∧ Succeeds (f a) := by
  cases x with
  | error e => exact iff_of_false (not_succeeds_error e) fun ⟨_, h, _⟩ ↦ nomatch h
  | ok a => exact ⟨fun h ↦ ⟨a, rfl, h⟩, fun ⟨_, h, hf⟩ ↦ Except.ok.inj h ▸ hf⟩

theorem eq_ok_of_toOption {x : Except Failure α} {a : α} (h : x.toOption = some a) : x = .ok a := by
  cases x with
  | error f => cases h
  | ok b => exact congrArg Except.ok (Option.some.inj h)

/-- What comes to a result comes to it by way of a result of what it begins with. -/
theorem bind_eq_ok {ε : Type} {x : Except ε α} {f : α → Except ε β} {b : β}
    (h : x >>= f = .ok b) : ∃ a, x = .ok a ∧ f a = .ok b := by
  cases x with
  | error e => cases h
  | ok a => exact ⟨a, rfl, h⟩

theorem bind_eq_ok_iff {ε : Type} {x : Except ε α} {f : α → Except ε β} {b : β} :
    x >>= f = .ok b ↔ ∃ a, x = .ok a ∧ f a = .ok b :=
  ⟨bind_eq_ok, fun ⟨_, hx, hf⟩ ↦ hx ▸ hf⟩

theorem succeeds_map_iff {x : Except Failure α} {f : α → β} : Succeeds (x.map f) ↔ Succeeds x := by
  cases x with
  | error e => exact iff_of_false (not_succeeds_error e) (not_succeeds_error e)
  | ok a => exact iff_of_true (succeeds_ok (f a)) (succeeds_ok a)

/-- What ends by returning something succeeds when what comes before does. -/
theorem succeeds_bind_pure_iff {x : Except Failure α} {f : α → β} :
    Succeeds (x >>= fun a ↦ (pure (f a) : Except Failure β)) ↔ Succeeds x := by
  rw [succeeds_bind_iff]
  exact ⟨fun ⟨a, ha, _⟩ ↦ ⟨a, ha⟩, fun ⟨a, ha⟩ ↦ ⟨a, ha, succeeds_ok _⟩⟩

/-- What ends by throwing a failure does not succeed. -/
theorem not_succeeds_bind_throw {x : Except Failure α} {f : α → Failure} :
    ¬ Succeeds (x >>= fun a ↦ (throw (f a) : Except Failure β)) := by
  rw [succeeds_bind_iff]
  exact fun ⟨_, _, h⟩ ↦ not_succeeds_error _ h

/-- A fold whose steps can fail only for what stands in the list. -/
theorem succeeds_foldlM_iff {P : α → Prop} {f : β → α → Except Failure β}
    (hf : ∀ b a, Succeeds (f b a) ↔ P a) (l : List α) (b : β) :
    Succeeds (l.foldlM f b) ↔ ∀ a ∈ l, P a := by
  induction l generalizing b with
  | nil => exact iff_of_true (succeeds_ok b) nofun
  | cons a r ih =>
    rw [List.foldlM_cons, succeeds_bind_iff, List.forall_mem_cons]
    constructor
    · rintro ⟨b', hb', hr⟩
      exact ⟨(hf b a).mp ⟨b', hb'⟩, (ih b').mp hr⟩
    · rintro ⟨ha, hr⟩
      obtain ⟨b', hb'⟩ := (hf b a).mpr ha
      exact ⟨b', hb', (ih b').mpr hr⟩

theorem succeeds_mapM_iff {f : α → Except Failure β} {l : List α} :
    Succeeds (l.mapM f) ↔ ∀ a ∈ l, Succeeds (f a) := by
  induction l with
  | nil => exact iff_of_true (succeeds_ok []) nofun
  | cons a r ih =>
    rw [List.mapM_cons, succeeds_bind_iff, List.forall_mem_cons, ← ih]
    simp only [succeeds_bind_pure_iff]
    exact ⟨fun ⟨b, hb, hr⟩ ↦ ⟨⟨b, hb⟩, hr⟩, fun ⟨⟨b, hb⟩, hr⟩ ↦ ⟨b, hb, hr⟩⟩

/-- What several computations come to is what each of them comes to. -/
theorem mapM_eq_ok_iff {f : α → Except Failure β} {l : List α} {bs : List β} :
    l.mapM f = .ok bs ↔ List.Forall₂ (fun a b ↦ f a = .ok b) l bs := by
  induction l generalizing bs with
  | nil =>
    rw [List.forall₂_nil_left_iff]
    exact ⟨fun h ↦ (Except.ok.inj h).symm, fun h ↦ h ▸ rfl⟩
  | cons a r ih =>
    rw [List.mapM_cons]
    constructor
    · intro h
      obtain ⟨b, hb, h⟩ := bind_eq_ok h
      obtain ⟨cs, hcs, h⟩ := bind_eq_ok h
      obtain rfl := Except.ok.inj h
      exact .cons hb (ih.mp hcs)
    · rintro (_ | ⟨hb, hbs⟩)
      rw [hb, ih.mpr hbs]
      rfl

end Succeeds

/-- A computation whose failure, if it fails, is of some kind. -/
def FailsOnly {α : Type} (P : Failure → Prop) (x : Except Failure α) : Prop :=
  ∀ f, x = .error f → P f

section FailsOnly

variable {α β : Type} {P : Failure → Prop}

theorem failsOnly_ok (a : α) : FailsOnly P (.ok a) := nofun

theorem failsOnly_error {f : Failure} (h : P f) : FailsOnly P (.error f : Except Failure α) :=
  fun _ hg ↦ Except.error.inj hg ▸ h

theorem Succeeds.failsOnly {x : Except Failure α} (h : Succeeds x) : FailsOnly P x := by
  obtain ⟨a, rfl⟩ := h
  exact failsOnly_ok a

/-- A computation that must not fail in any way does not fail. -/
theorem FailsOnly.succeeds {x : Except Failure α} (h : FailsOnly (fun _ ↦ False) x) :
    Succeeds x := by
  cases x with
  | error f => exact (h f rfl).elim
  | ok a => exact succeeds_ok a

theorem FailsOnly.bind {x : Except Failure α} {f : α → Except Failure β} (hx : FailsOnly P x)
    (hf : ∀ a, x = .ok a → FailsOnly P (f a)) : FailsOnly P (x >>= f) := by
  cases x with
  | error e => exact fun g hg ↦ hx g (congrArg Except.error (Except.error.inj hg))
  | ok a => exact hf a rfl

theorem FailsOnly.mono {Q : Failure → Prop} {x : Except Failure α} (hx : FailsOnly P x)
    (h : ∀ f, P f → Q f) : FailsOnly Q x :=
  fun f hf ↦ h f (hx f hf)

theorem failsOnly_mapM {f : α → Except Failure β} {l : List α} (h : ∀ a ∈ l, FailsOnly P (f a)) :
    FailsOnly P (l.mapM f) := by
  induction l with
  | nil => exact failsOnly_ok []
  | cons a r ih =>
    obtain ⟨ha, hr⟩ := List.forall_mem_cons.mp h
    rw [List.mapM_cons]
    exact ha.bind fun _ _ ↦ (ih hr).bind fun _ _ ↦ failsOnly_ok _

end FailsOnly

end Rulebook
