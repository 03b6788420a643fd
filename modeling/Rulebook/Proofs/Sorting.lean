import Rulebook.Proofs.Success
import Rulebook.Sorting
import Mathlib.Data.List.Nodup
import Mathlib.Data.List.Perm.Basic
import Mathlib.Order.Lattice

/-!
# What sorting comes to

When `sortWith` comes to a list, it is one of the given items in some order (`perm_sortWith`), and when
it fails, some comparison does (`failsOnly_sortWith`).  Both follow the steps of the algorithm: to take
the run at the front, to place one item, and to place all the others.

A comparison by keys in a linear order (`ComparesBy`) sorts every list (`exists_sortWith`), and when no
two items have one key, the result depends on what is sorted only and not on the order in which it is
given (`sortWith_eq_of_perm`).
-/

set_option autoImplicit false

namespace Rulebook

variable {α : Type} {P : Failure → Prop} {less : α → α → Except Failure Bool}

/-! ## One order of the given items -/

theorem perm_placeWith (x : α) (sorted : List α) {ys : List α}
    (h : placeWith less x sorted = .ok ys) : ys.Perm (x :: sorted) := by
  fun_induction placeWith less x sorted generalizing ys with
  | case1 sorted hdrop =>
    have hnil : sorted = [] := by
      rw [List.drop_eq_nil_iff] at hdrop
      exact List.length_eq_zero_iff.mp (by omega)
    obtain rfl := Except.ok.inj h
    rw [hnil]
  | case2 sorted m after hdrop ihlow ihhigh =>
    have hsplit : sorted = sorted.take (sorted.length / 2) ++ m :: after := by
      rw [← hdrop, List.take_append_drop]
    generalize sorted.take (sorted.length / 2) = front at *
    rw [hsplit]
    obtain ⟨b, -, h⟩ := bind_eq_ok h
    cases b with
    | true =>
      obtain ⟨low, hlow, hys⟩ := bind_eq_ok h
      obtain rfl := Except.ok.inj hys
      exact (ihlow hlow).append_right (m :: after)
    | false =>
      obtain ⟨high, hhigh, hys⟩ := bind_eq_ok h
      obtain rfl := Except.ok.inj hys
      have hbehind : (m :: high).Perm (x :: m :: after) :=
        ((ihhigh hhigh).cons m).trans (.swap x m after)
      exact (hbehind.append_left front).trans List.perm_middle

theorem perm_takeRun {descending : Bool} {last : α} {run r : List α} {p : List α × List α}
    (h : takeRun less descending last run r = .ok p) :
    (p.1 ++ p.2).Perm (last :: run ++ r) := by
  induction r generalizing last run with
  | nil =>
    obtain rfl := Except.ok.inj h
    exact .refl _
  | cons x r ih =>
    obtain ⟨b, -, h⟩ := bind_eq_ok h
    split at h
    · refine (ih h).trans ?_
      rw [List.cons_append]
      exact List.perm_middle.symm
    · obtain rfl := Except.ok.inj h
      exact .refl _

theorem perm_placeAll {sorted r ys : List α} (h : placeAll less sorted r = .ok ys) :
    ys.Perm (sorted ++ r) := by
  induction r generalizing sorted with
  | nil =>
    obtain rfl := Except.ok.inj h
    rw [List.append_nil]
  | cons x r ih =>
    obtain ⟨placed, hplaced, h⟩ := bind_eq_ok h
    exact (ih h).trans (((perm_placeWith x sorted hplaced).append_right r).trans
      List.perm_middle.symm)

/-- **A list that is sorted holds what it held.** -/
theorem perm_sortWith {xs ys : List α} (h : sortWith less xs = .ok ys) : ys.Perm xs := by
  match xs with
  | [] | [_] =>
    obtain rfl := Except.ok.inj h
    exact .refl _
  | x :: y :: r =>
    obtain ⟨descending, -, h⟩ := bind_eq_ok h
    obtain ⟨⟨run, rest⟩, hrun, h⟩ := bind_eq_ok h
    have hfront : (if descending then run else run.reverse).Perm run := by
      split
      · exact .refl _
      · exact List.reverse_perm run
    refine (perm_placeAll h).trans ((hfront.append_right rest).trans ?_)
    exact (perm_takeRun hrun).trans (.swap x y r)

/-! ## Failing comparisons -/

theorem failsOnly_placeWith (hless : ∀ a b, FailsOnly P (less a b)) (x : α) (sorted : List α) :
    FailsOnly P (placeWith less x sorted) := by
  fun_induction placeWith less x sorted with
  | case1 => exact failsOnly_ok _
  | case2 sorted m after _ ihlow ihhigh =>
    refine (hless x m).bind fun b _ ↦ ?_
    cases b with
    | true => exact ihlow.bind fun _ _ ↦ failsOnly_ok _
    | false => exact ihhigh.bind fun _ _ ↦ failsOnly_ok _

theorem failsOnly_takeRun (hless : ∀ a b, FailsOnly P (less a b)) (descending : Bool) (last : α)
    (run r : List α) : FailsOnly P (takeRun less descending last run r) := by
  induction r generalizing last run with
  | nil => exact failsOnly_ok _
  | cons x r ih =>
    refine (hless x last).bind fun b _ ↦ ?_
    split
    · exact ih x (last :: run)
    · exact failsOnly_ok _

theorem failsOnly_placeAll (hless : ∀ a b, FailsOnly P (less a b)) (sorted r : List α) :
    FailsOnly P (placeAll less sorted r) := by
  induction r generalizing sorted with
  | nil => exact failsOnly_ok _
  | cons x r ih => exact (failsOnly_placeWith hless x sorted).bind fun placed _ ↦ ih placed

/-- **Sorting fails only as comparing does.** -/
theorem failsOnly_sortWith (hless : ∀ a b, FailsOnly P (less a b)) (xs : List α) :
    FailsOnly P (sortWith less xs) := by
  match xs with
  | [] | [_] => exact failsOnly_ok _
  | x :: y :: r =>
    refine (hless y x).bind fun descending _ ↦ ?_
    exact (failsOnly_takeRun hless descending y [x] r).bind fun _ _ ↦ failsOnly_placeAll hless _ _

/-! ## Sorting by keys in a linear order -/

section Keys

variable {κ : Type} [LinearOrder κ] {key : α → κ} {Q : α → Prop}

/-- A comparison that compares items of some kind by their keys. -/
def ComparesBy (less : α → α → Except Failure Bool) (key : α → κ) (Q : α → Prop) : Prop :=
  ∀ a b, Q a → Q b → less a b = .ok (decide (key a < key b))

/-- Items whose keys are in order. -/
def InOrder (key : α → κ) (xs : List α) : Prop := xs.Pairwise fun a b ↦ key a ≤ key b

theorem exists_placeWith (hless : ComparesBy less key Q) {x : α} (hx : Q x) {sorted : List α}
    (hQ : ∀ a ∈ sorted, Q a) (hsorted : InOrder key sorted) :
    ∃ ys, placeWith less x sorted = .ok ys ∧ InOrder key ys := by
  fun_induction placeWith less x sorted with
  | case1 => exact ⟨[x], rfl, List.pairwise_singleton _ x⟩
  | case2 sorted m after hdrop ihlow ihhigh =>
    have hsplit : sorted = sorted.take (sorted.length / 2) ++ m :: after := by
      rw [← hdrop, List.take_append_drop]
    generalize sorted.take (sorted.length / 2) = front at *
    subst hsplit
    obtain ⟨hQfront, hQback⟩ := List.forall_mem_append.mp hQ
    obtain ⟨hQm, hQafter⟩ := List.forall_mem_cons.mp hQback
    obtain ⟨hfront, hback, hcross⟩ := List.pairwise_append.mp hsorted
    obtain ⟨hm, hafter⟩ := List.pairwise_cons.mp hback
    rw [hless x m hx hQm]
    by_cases hlt : key x < key m
    · obtain ⟨low, hlow, hys⟩ := ihlow hQfront hfront
      refine ⟨low ++ m :: after, ?_, List.pairwise_append.mpr ⟨hys, hback, fun a ha b hb ↦ ?_⟩⟩
      · rw [decide_eq_true hlt, hlow]
        rfl
      rcases List.mem_cons.mp ((perm_placeWith x front hlow).mem_iff.mp ha) with rfl | ha
      · rcases List.mem_cons.mp hb with rfl | hb
        · exact hlt.le
        · exact hlt.le.trans (hm b hb)
      · exact hcross a ha b hb
    · obtain ⟨high, hhigh, hys⟩ := ihhigh hQafter hafter
      have hmhigh : ∀ b ∈ high, key m ≤ key b := fun b hb ↦ by
        rcases List.mem_cons.mp ((perm_placeWith x after hhigh).mem_iff.mp hb) with rfl | hb
        · exact not_lt.mp hlt
        · exact hm b hb
      refine ⟨front ++ m :: high, ?_, List.pairwise_append.mpr
        ⟨hfront, List.pairwise_cons.mpr ⟨hmhigh, hys⟩, fun a ha b hb ↦ ?_⟩⟩
      · rw [decide_eq_false hlt, hhigh]
        rfl
      have ham : key a ≤ key m := hcross a ha m List.mem_cons_self
      rcases List.mem_cons.mp hb with rfl | hb
      · exact ham
      · exact ham.trans (hmhigh b hb)

/-- A run is taken with its last item first, so it is in order when it descends, and otherwise in
order when it is reversed. -/
theorem exists_takeRun (hless : ComparesBy less key Q) {descending : Bool} {last : α}
    {run r : List α} (hlast : Q last) (hr : ∀ a ∈ r, Q a)
    (hrun : InOrder key (if descending then last :: run else (last :: run).reverse)) :
    ∃ p, takeRun less descending last run r = .ok p ∧
      InOrder key (if descending then p.1 else p.1.reverse) := by
  induction r generalizing last run with
  | nil => exact ⟨(last :: run, []), rfl, hrun⟩
  | cons x r ih =>
    obtain ⟨hx, hr⟩ := List.forall_mem_cons.mp hr
    rw [takeRun, hless x last hx hlast]
    by_cases hgo : decide (key x < key last) = descending
    · have hnext : InOrder key
          (if descending then x :: last :: run else (x :: last :: run).reverse) := by
        cases descending with
        | true =>
          have hlt : key x < key last := of_decide_eq_true hgo
          refine List.pairwise_cons.mpr ⟨fun b hb ↦ ?_, hrun⟩
          rcases List.mem_cons.mp hb with rfl | hb
          · exact hlt.le
          · exact hlt.le.trans ((List.pairwise_cons.mp hrun).1 b hb)
        | false =>
          have hle : key last ≤ key x := not_lt.mp (of_decide_eq_false hgo)
          have hback := List.pairwise_reverse.mp hrun
          refine List.pairwise_reverse.mpr (List.pairwise_cons.mpr ⟨fun b hb ↦ ?_, hback⟩)
          rcases List.mem_cons.mp hb with rfl | hb
          · exact hle
          · exact ((List.pairwise_cons.mp hback).1 b hb).trans hle
      obtain ⟨p, hp, hpr⟩ := ih hx hr hnext
      refine ⟨p, ?_, hpr⟩
      exact (if_pos hgo).trans hp
    · exact ⟨(last :: run, x :: r), if_neg hgo, hrun⟩

theorem exists_placeAll (hless : ComparesBy less key Q) {sorted r : List α}
    (hQ : ∀ a ∈ sorted, Q a) (hr : ∀ a ∈ r, Q a) (hsorted : InOrder key sorted) :
    ∃ ys, placeAll less sorted r = .ok ys ∧ InOrder key ys := by
  induction r generalizing sorted with
  | nil => exact ⟨sorted, rfl, hsorted⟩
  | cons x r ih =>
    obtain ⟨hx, hr⟩ := List.forall_mem_cons.mp hr
    obtain ⟨placed, hplaced, hin⟩ := exists_placeWith hless hx hQ hsorted
    have hQplaced : ∀ a ∈ placed, Q a := fun a ha ↦
      List.forall_mem_cons.mpr ⟨hx, hQ⟩ a ((perm_placeWith x sorted hplaced).mem_iff.mp ha)
    obtain ⟨ys, hys, hysin⟩ := ih hQplaced hr hin
    refine ⟨ys, ?_, hysin⟩
    rw [placeAll, hplaced]
    exact hys

/-- **A list is sorted when its items are compared by keys in a linear order.** -/
theorem exists_sortWith (hless : ComparesBy less key Q) {xs : List α} (hQ : ∀ a ∈ xs, Q a) :
    ∃ ys, sortWith less xs = .ok ys ∧ InOrder key ys := by
  match xs with
  | [] => exact ⟨[], rfl, List.Pairwise.nil⟩
  | [x] => exact ⟨[x], rfl, List.pairwise_singleton _ x⟩
  | x :: y :: r =>
    obtain ⟨hx, hQ⟩ := List.forall_mem_cons.mp hQ
    obtain ⟨hy, hr⟩ := List.forall_mem_cons.mp hQ
    have hstart : InOrder key
        (if decide (key y < key x) then [y, x] else ([y, x] : List α).reverse) := by
      by_cases hlt : key y < key x
      · simpa [InOrder, hlt] using hlt.le
      · simpa [InOrder, hlt] using not_lt.mp hlt
    obtain ⟨⟨run, rest⟩, hrun, hin⟩ := exists_takeRun hless hy hr hstart
    have hmem : ∀ a ∈ run ++ rest, Q a := fun a ha ↦ by
      have hperm := (perm_takeRun hrun).mem_iff.mp ha
      simp only [List.cons_append, List.nil_append, List.mem_cons] at hperm
      rcases hperm with rfl | rfl | ha
      · exact hy
      · exact hx
      · exact hr a ha
    obtain ⟨hQrun, hQrest⟩ := List.forall_mem_append.mp hmem
    have hQfront : ∀ a ∈ (if decide (key y < key x) then run else run.reverse), Q a := by
      intro a ha
      split at ha
      · exact hQrun a ha
      · exact hQrun a (List.mem_reverse.mp ha)
    obtain ⟨ys, hys, hysin⟩ := exists_placeAll hless hQfront hQrest hin
    refine ⟨ys, ?_, hysin⟩
    rw [sortWith, hless y x hy hx]
    change (takeRun less (decide (key y < key x)) y [x] r >>= _) = _
    rw [hrun]
    exact hys

/-- **Sorting forgets the order in which items are given,** when no two of them have one key. -/
theorem sortWith_eq_of_perm (hless : ComparesBy less key Q) {xs ys : List α} (hQ : ∀ a ∈ xs, Q a)
    (hdistinct : (xs.map key).Nodup) (h : xs.Perm ys) : sortWith less xs = sortWith less ys := by
  obtain ⟨sx, hsx, hx⟩ := exists_sortWith hless hQ
  obtain ⟨sy, hsy, hy⟩ := exists_sortWith hless fun a ha ↦ hQ a (h.mem_iff.mpr ha)
  have hperm : sx.Perm sy := (perm_sortWith hsx).trans (h.trans (perm_sortWith hsy).symm)
  have hunique : ∀ a b, a ∈ sx → b ∈ sy → key a ≤ key b → key b ≤ key a → a = b := by
    intro a b ha hb hab hba
    have hax : a ∈ xs := (perm_sortWith hsx).mem_iff.mp ha
    have hbx : b ∈ xs := h.mem_iff.mpr ((perm_sortWith hsy).mem_iff.mp hb)
    exact List.inj_on_of_nodup_map hdistinct hax hbx (le_antisymm hab hba)
  rw [hsx, hsy, hperm.eq_of_pairwise hunique hx hy]

end Keys
end Rulebook
