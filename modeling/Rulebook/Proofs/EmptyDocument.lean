import Mathlib.Data.List.Basic
import Rulebook.Yaml.Document

/-!
# Documents without content

A text of spaces, comments and line ends (`Yaml.HasNoToken`) has no token, and so its value is null
(`Yaml.read_eq_null`).  The first step that looks for a token skips the whole text
(`Outliner.run_skipToToken`), line after line, and finds the end.
-/

set_option autoImplicit false

namespace Rulebook
namespace Yaml

/-! ## Texts without a token -/

/-- A line without a token: spaces, and perhaps a comment. -/
def IsIdle (line : List Char) : Prop :=
  ∃ spaces comment, line = spaces ++ comment ∧ (∀ c ∈ spaces, c = ' ') ∧
    (comment = [] ∨ ∃ r, comment = '#' :: r ∧ ∀ c ∈ r, isBreak c = false ∧ isAllowed c = true)

/-- A text without a token: lines of this kind. -/
inductive HasNoToken : List Char → Prop
  | last {line : List Char} (h : IsIdle line) : HasNoToken line
  | line {line r : List Char} (h : IsIdle line) (hr : HasNoToken r) :
    HasNoToken (line ++ '\n' :: r)

theorem IsIdle.isAllowed {line : List Char} (h : IsIdle line) :
    ∀ c ∈ line, isAllowed c = true := by
  obtain ⟨spaces, comment, rfl, hspaces, hcomment⟩ := h
  refine List.forall_mem_append.mpr ⟨fun c hc ↦ hspaces c hc ▸ rfl, ?_⟩
  rcases hcomment with rfl | ⟨r, rfl, hr⟩
  · exact List.forall_mem_nil _
  · exact List.forall_mem_cons.mpr ⟨rfl, fun c hc ↦ (hr c hc).2⟩

theorem HasNoToken.isAllowed {text : List Char} (h : HasNoToken text) :
    ∀ c ∈ text, isAllowed c = true := by
  induction h with
  | last h => exact h.isAllowed
  | line h _ ih => exact List.forall_mem_append.mpr ⟨h.isAllowed, List.forall_mem_cons.mpr ⟨rfl, ih⟩⟩

/-- No such line begins with a byte order mark. -/
theorem IsIdle.head?_ne {line : List Char} (h : IsIdle line) : line.head? ≠ some byteOrderMark := by
  obtain ⟨spaces, comment, rfl, hspaces, hcomment⟩ := h
  cases spaces with
  | nil => rcases hcomment with rfl | ⟨r, rfl, -⟩ <;> simp [byteOrderMark]
  | cons c spaces =>
    obtain rfl := hspaces c List.mem_cons_self
    simp [byteOrderMark]

theorem HasNoToken.head?_ne {text : List Char} (h : HasNoToken text) :
    text.head? ≠ some byteOrderMark := by
  cases h with
  | last h => exact h.head?_ne
  | @line line r h =>
    cases line with
    | nil => simp [byteOrderMark]
    | cons c cs => exact h.head?_ne

/-! ## Runs of the readers -/

theorem run_bind_of_ok {σ α β : Type} {x : StateT σ (Except Refusal) α}
    {f : α → StateT σ (Except Refusal) β} {s s' : σ} {a : α} (h : x.run s = .ok (a, s')) :
    (x >>= f).run s = (f a).run s' := by
  rw [StateT.run_bind, h]
  rfl

namespace Cursor

theorem rest_next (c : Cursor) : c.next.rest = c.rest.tail := by
  rw [next]
  split <;> rename_i h <;> rw [h]
  · rfl
  · repeat' split
    all_goals rfl

theorem rest_advance (c : Cursor) (n : Nat) : (c.advance n).rest = c.rest.drop n := by
  induction n generalizing c with
  | zero => rfl
  | succ n ih => rw [advance, ih, rest_next, List.drop_tail]

end Cursor

namespace Reading

variable {c : Cursor} {r : List Char}

theorem run_skipSpaces (c : Cursor) :
    skipSpaces.run c = .ok ((), c.advance (c.rest.takeWhile (· == ' ')).length) := rfl

theorem run_skipComment (h : c.rest.head? = some '#') :
    skipComment.run c = .ok ((), c.advance (c.rest.takeWhile (!isBreak ·)).length) := by
  have hpeek : peek.run c = .ok (c.rest.head?, c) := rfl
  rw [skipComment, run_bind_of_ok hpeek, if_pos h]
  rfl

theorem run_skipComment_of_ne (h : c.rest.head? ≠ some '#') : skipComment.run c = .ok ((), c) := by
  have hpeek : peek.run c = .ok (c.rest.head?, c) := rfl
  rw [skipComment, run_bind_of_ok hpeek, if_neg h]
  rfl

theorem run_lineBreak_nil (h : c.rest = []) : lineBreak.run c = .ok ([], c) := by
  obtain ⟨_, index, line, column⟩ := c
  subst h
  rfl

theorem run_lineBreak_cons (h : c.rest = '\n' :: r) :
    lineBreak.run c = .ok (['\n'], c.advance 1) := by
  obtain ⟨_, index, line, column⟩ := c
  subst h
  rfl

/-- The readers at the beginning of a line skip all of it that has no token. -/
theorem run_skip {line tail : List Char} (h : IsIdle line) (hc : c.rest = line ++ tail)
    (htail : ∀ ch ∈ tail.head?, ch = '\n') :
    ∃ c₁ c₂, skipSpaces.run c = .ok ((), c₁) ∧ skipComment.run c₁ = .ok ((), c₂) ∧
      c₂.rest = tail := by
  obtain ⟨spaces, comment, rfl, hspaces, hcomment⟩ := h
  rw [List.append_assoc] at hc
  have hhead : ∀ ch ∈ (comment ++ tail).head?, ch = '#' ∨ ch = '\n' := by
    rcases hcomment with rfl | ⟨r, rfl, -⟩
    · exact fun ch hch ↦ .inr (htail ch hch)
    · simp
  have htake : c.rest.takeWhile (· == ' ') = spaces := by
    rw [hc, List.takeWhile_append_of_pos (by simpa using hspaces)]
    cases hrest : comment ++ tail with
    | nil => exact List.append_nil _
    | cons ch r =>
      rw [hrest] at hhead
      rcases hhead ch rfl with rfl | rfl <;> exact List.append_nil _
  have hrest : (c.advance spaces.length).rest = comment ++ tail := by
    rw [Cursor.rest_advance, hc, List.drop_left]
  refine ⟨c.advance spaces.length, ?_⟩
  rw [run_skipSpaces, htake]
  rcases hcomment with rfl | ⟨r, rfl, hr⟩
  · refine ⟨_, rfl, run_skipComment_of_ne fun hmark ↦ ?_, hrest⟩
    rw [hrest] at hmark
    exact absurd (htail '#' hmark) (by decide)
  · refine ⟨_, rfl, run_skipComment (hrest ▸ rfl), ?_⟩
    have htake : ('#' :: r ++ tail).takeWhile (!isBreak ·) = '#' :: r := by
      rw [List.takeWhile_append_of_pos
        (List.forall_mem_cons.mpr ⟨rfl, fun c hc ↦ by rw [(hr c hc).1]; rfl⟩)]
      cases tail with
      | nil => exact List.append_nil _
      | cons ch r =>
        obtain rfl := htail ch rfl
        exact List.append_nil _
    rw [hrest, htake, Cursor.rest_advance, hrest, List.drop_left]

end Reading

namespace Outliner

/-- An outline before the first token. -/
def untouched (c : Cursor) (allowKey : Bool) : Outline := ⟨c, 0, -1, [], allowKey, [], []⟩

variable {c c₁ c₂ c₃ : Cursor} {allowed : Bool}

/-- One round of looking for a token, which is the last one when no line end is found. -/
theorem run_skipToToken_succ {fuel : Nat} {b : List Char}
    (hspaces : Reading.skipSpaces.run c = .ok ((), c₁))
    (hcomment : Reading.skipComment.run c₁ = .ok ((), c₂))
    (hbreak : Reading.lineBreak.run c₂ = .ok (b, c₃)) :
    (skipToToken (fuel + 1)).run (untouched c allowed) =
      if b = [] then .ok ((), untouched c₃ allowed)
      else (skipToToken fuel).run (untouched c₃ true) := by
  have hread {α : Type} {r : Reading α} {c c' : Cursor} {x : α} (h : r.run c = .ok (x, c')) :
      (read r).run (untouched c allowed) = .ok (x, untouched c' allowed) := by
    change r.run c >>= _ = _
    rw [h]
    rfl
  rw [skipToToken, run_bind_of_ok (hread hspaces), run_bind_of_ok (hread hcomment),
    run_bind_of_ok (hread hbreak)]
  cases b with
  | nil => rfl
  | cons x r => rfl

theorem run_skipToToken (allowed : Bool) {text : List Char} (h : HasNoToken text)
    (hc : c.rest = text) {fuel : Nat} (hfuel : text.length < fuel) :
    ∃ c' allowed', c'.rest = [] ∧
      (skipToToken fuel).run (untouched c allowed) = .ok ((), untouched c' allowed') := by
  obtain ⟨fuel, rfl⟩ := Nat.exists_eq_succ_of_ne_zero (Nat.ne_zero_of_lt hfuel)
  induction h generalizing c fuel allowed with
  | last h =>
    obtain ⟨c₁, c₂, hspaces, hcomment, hrest⟩ :=
      Reading.run_skip h (hc.trans (List.append_nil _).symm) nofun
    exact ⟨c₂, allowed, hrest,
      run_skipToToken_succ hspaces hcomment (Reading.run_lineBreak_nil hrest)⟩
  | @line line r h _ ih =>
    obtain ⟨c₁, c₂, hspaces, hcomment, hrest⟩ := Reading.run_skip h hc (by simp)
    have hr : (c₂.advance 1).rest = r := by
      rw [Cursor.rest_advance, hrest]
      rfl
    rw [List.length_append, List.length_cons] at hfuel
    obtain ⟨fuel, rfl⟩ := Nat.exists_eq_succ_of_ne_zero (show fuel ≠ 0 by omega)
    obtain ⟨c', allowed', hc', hrun⟩ := ih true hr fuel (by omega)
    exact ⟨c', allowed', hc',
      (run_skipToToken_succ hspaces hcomment (Reading.run_lineBreak_cons hrest)).trans hrun⟩

/-- The step that finds no token says that the document has ended. -/
theorem run_step (allowed : Bool) (h : HasNoToken c.rest) :
    ∃ s, s.tokens = [] ∧ step.run (untouched c allowed) = .ok (true, s) := by
  obtain ⟨⟨_, index, line, column⟩, allowed', rfl, hskip⟩ :=
    run_skipToToken allowed h rfl (Nat.lt_succ_self _)
  refine ⟨untouched ⟨[], index, line, column⟩ allowed', rfl, ?_⟩
  have hget : StateT.run get (untouched c allowed) =
      (.ok (untouched c allowed, untouched c allowed) : Except Refusal (Outline × Outline)) := rfl
  exact ((run_bind_of_ok hget).trans (run_bind_of_ok hskip)).trans rfl

end Outliner

/-! ## The value -/

theorem tokens_eq_nil {text : List Char} (h : HasNoToken text) : tokens text = [] := by
  obtain ⟨s, hs, hstep⟩ := Outliner.run_step (c := .start text) true h
  rw [tokens, if_pos (List.all_eq_true.mpr h.isAllowed)]
  dsimp only
  rw [if_neg h.head?_ne, Outliner.collect]
  split <;> rename_i heq
  · cases hstep.symm.trans heq
  · cases hstep.symm.trans heq
    rw [hs, List.reverse_nil]
  · cases hstep.symm.trans heq

theorem read_eq_null {text : List Char} (h : HasNoToken text) : read text = .ok .null := by
  rw [read, tokens_eq_nil h]
  rfl

end Yaml
end Rulebook
