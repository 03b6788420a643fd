import Rulebook.Json.Text
import Mathlib.Data.Nat.Digits.Defs
import Mathlib.Tactic.SplitIfs

/-!
# Texts in quotes can be read back

In a JSON text code points are written by `Json.escape`: as they are, by a letter or a mark behind a
backslash, or by the hexadecimal digits of their UTF-16 units.  A code point beyond the first 65536 is
written as the two halves of its surrogate pair are (`Json.flatMap_escape_halves`), so that code points
in quotes tell their units and no more.  What one unit is written as is never the beginning of what
another one is written as (`Json.escape_append_inj`), and it never begins with the quote.  So code points
in quotes show where they end, and which units they have (`Json.quotedPoints_append_inj`), whatever
follows them.  Since no character is half of a surrogate pair, the units of a text tell the text
(`Json.split_codePoints_inj`).
-/

set_option autoImplicit false

namespace Rulebook

/-! ## Hexadecimal digits -/

namespace Text

theorem hexDigit_inj {m n : Nat} (hm : m < 16) (hn : n < 16) (h : hexDigit m = hexDigit n) :
    m = n := by
  have hall : ∀ a b : Fin 16, hexDigit a = hexDigit b → a = b := by decide
  exact congrArg Fin.val (hall ⟨m, hm⟩ ⟨n, hn⟩ h)

theorem length_hexDigits (width n : Nat) : (hexDigits width n).length = width := by
  induction width generalizing n with
  | zero => rfl
  | succ width ih => simp [hexDigits, ih]

/-- Digits tell the number that they have room for. -/
theorem hexDigits_inj {width m n : Nat} (hm : m < 16 ^ width) (hn : n < 16 ^ width)
    (h : hexDigits width m = hexDigits width n) : m = n := by
  induction width generalizing m n with
  | zero => omega
  | succ width ih =>
    rw [hexDigits, hexDigits] at h
    obtain ⟨hfront, hlast⟩ := List.append_inj h (by simp [length_hexDigits])
    have hdiv : m / 16 = n / 16 := ih (by omega) (by omega) hfront
    have hmod : m % 16 = n % 16 :=
      hexDigit_inj (by omega) (by omega) (List.singleton_inj.mp hlast)
    omega

end Text

namespace Json

variable {p q : CodePoint} {ps qs : List CodePoint} {r r' : List Char}

/-! ## Units -/

/-- A code point that is a UTF-16 unit by itself. -/
def IsUnit (p : CodePoint) : Prop := p.val < 0x10000

instance (p : CodePoint) : Decidable (IsUnit p) := inferInstanceAs (Decidable (p.val < 0x10000))

/-- The first half of a surrogate pair. -/
def highHalf (p : CodePoint) : CodePoint := ⟨0xd800 + (p.val - 0x10000) / 0x400, by omega⟩

/-- The second half of a surrogate pair. -/
def lowHalf (p : CodePoint) : CodePoint := ⟨0xdc00 + (p.val - 0x10000) % 0x400, by omega⟩

@[simp]
theorem val_highHalf (p : CodePoint) :
    (highHalf p).val = 0xd800 + (p.val - 0x10000) / 0x400 := rfl

@[simp]
theorem val_lowHalf (p : CodePoint) :
    (lowHalf p).val = 0xdc00 + (p.val - 0x10000) % 0x400 := rfl

theorem isUnit_highHalf (p : CodePoint) : IsUnit (highHalf p) := by
  rw [IsUnit, val_highHalf]
  omega

theorem isUnit_lowHalf (p : CodePoint) : IsUnit (lowHalf p) := by
  rw [IsUnit, val_lowHalf]
  omega

/-- The UTF-16 units of a code point. -/
def halves (p : CodePoint) : List CodePoint := if IsUnit p then [p] else [highHalf p, lowHalf p]

/-- The UTF-16 units of code points. -/
def split (ps : List CodePoint) : List CodePoint := ps.flatMap halves

theorem isUnit_of_mem_halves (h : p ∈ halves q) : IsUnit p := by
  rw [halves] at h
  split at h
  · rename_i hq
    exact List.mem_singleton.mp h ▸ hq
  · rcases List.mem_cons.mp h with rfl | h
    · exact isUnit_highHalf q
    · exact List.mem_singleton.mp h ▸ isUnit_lowHalf q

theorem isUnit_of_mem_split (h : p ∈ split ps) : IsUnit p := by
  obtain ⟨q, -, hp⟩ := List.mem_flatMap.mp h
  exact isUnit_of_mem_halves hp

theorem escape_of_isUnit (hp : IsUnit p) (h : 0xd800 ≤ p.val) : escape p = unitEscape p.val := by
  rw [IsUnit] at hp
  simp only [escape]
  split_ifs <;> first | rfl | omega

/-- **A code point is written as its units are.** -/
theorem flatMap_escape_halves (p : CodePoint) : (halves p).flatMap escape = escape p := by
  rw [halves]
  split
  · simp
  · rename_i hp
    rw [IsUnit] at hp
    rw [List.flatMap_cons, List.flatMap_singleton, escape_of_isUnit (isUnit_highHalf p) (by simp),
      escape_of_isUnit (isUnit_lowHalf p) (by rw [val_lowHalf]; omega), val_highHalf, val_lowHalf]
    simp only [escape]
    split_ifs <;> first | rfl | omega

theorem flatMap_escape_split (ps : List CodePoint) :
    (split ps).flatMap escape = ps.flatMap escape := by
  rw [split, List.flatMap_assoc]
  exact congrArg ps.flatMap (funext flatMap_escape_halves)

/-! ## One unit -/

theorem unitEscape_append_inj {m n : Nat} (hm : m < 0x10000) (hn : n < 0x10000)
    (h : unitEscape m ++ r = unitEscape n ++ r') : m = n ∧ r = r' := by
  simp only [unitEscape, List.cons_append, List.cons.injEq, true_and] at h
  obtain ⟨hdigits, hrest⟩ := List.append_inj h (by simp [Text.length_hexDigits])
  exact ⟨Text.hexDigits_inj hm hn hdigits, hrest⟩

/-- The number that a letter or a mark behind a backslash stands for. -/
def longhand (l : Char) : Nat :=
  if l = 'n' then 0x0a
  else if l = 'r' then 0x0d
  else if l = 't' then 0x09
  else if l = 'f' then 0x0c
  else if l = 'b' then 0x08
  else l.toNat

/-- How a unit is written: by a character behind a backslash, as it is, or by its digits. -/
inductive Form (p : CodePoint) : Prop
  | short (l : Char) (hl : longhand l = p.val) (hu : l ≠ 'u') (h : escape p = [Text.backslash, l])
  | plain (c : Char) (hc : c.toNat = p.val) (hquote : c ≠ Text.doubleQuote)
    (hslash : c ≠ Text.backslash) (h : escape p = [c])
  | digits (h : escape p = unitEscape p.val)

theorem form (hp : IsUnit p) : Form p := by
  rw [IsUnit] at hp
  rcases eq_or_ne p.val 0x22 with h | hquote
  · exact .short Text.doubleQuote (by rw [h]; decide) (by decide) (by simp [escape, h]; decide)
  rcases eq_or_ne p.val 0x5c with h | hslash
  · exact .short Text.backslash (by rw [h]; decide) (by decide) (by simp [escape, h]; decide)
  rcases eq_or_ne p.val 0x0a with h | hn
  · exact .short 'n' (by rw [h]; decide) (by decide) (by simp [escape, h])
  rcases eq_or_ne p.val 0x0d with h | hr
  · exact .short 'r' (by rw [h]; decide) (by decide) (by simp [escape, h])
  rcases eq_or_ne p.val 0x09 with h | ht
  · exact .short 't' (by rw [h]; decide) (by decide) (by simp [escape, h])
  rcases eq_or_ne p.val 0x0c with h | hf
  · exact .short 'f' (by rw [h]; decide) (by decide) (by simp [escape, h])
  rcases eq_or_ne p.val 0x08 with h | hb
  · exact .short 'b' (by rw [h]; decide) (by decide) (by simp [escape, h])
  have hescape : escape p = if 0x20 ≤ p.val ∧ p.val ≤ 0x7e then [Char.ofNat p.val] else
      unitEscape p.val := by
    simp [escape, hquote, hslash, hn, hr, ht, hf, hb, hp]
  split at hescape
  · have hchar : (Char.ofNat p.val).toNat = p.val := by
      rw [Char.ofNat, dif_pos (Or.inl (by omega))]
      rfl
    refine .plain _ hchar (fun h ↦ ?_) (fun h ↦ ?_) hescape
    · exact hquote (by rw [← hchar, h]; rfl)
    · exact hslash (by rw [← hchar, h]; rfl)
  · exact .digits hescape

/-- **What one unit is written as is not the beginning of what another one is.** -/
theorem escape_append_inj (hp : IsUnit p) (hq : IsUnit q) (h : escape p ++ r = escape q ++ r') :
    p = q ∧ r = r' := by
  cases form hp with
  | short l hl hu hescape =>
    cases form hq with
    | short k hk _ hescape' =>
      simp only [hescape, hescape', List.cons_append, List.cons.injEq, List.nil_append,
        true_and] at h
      exact ⟨Fin.ext (by rw [← hl, ← hk, h.1]), h.2⟩
    | plain _ _ _ hslash hescape' =>
      simp only [hescape, hescape', List.cons_append, List.cons.injEq] at h
      exact (hslash h.1.symm).elim
    | digits hescape' =>
      simp only [hescape, hescape', unitEscape, List.cons_append, List.cons.injEq, true_and] at h
      exact (hu h.1).elim
  | plain c hc _ hslash hescape =>
    cases form hq with
    | short k _ _ hescape' =>
      simp only [hescape, hescape', List.cons_append, List.cons.injEq] at h
      exact (hslash h.1).elim
    | plain d hd _ _ hescape' =>
      simp only [hescape, hescape', List.cons_append, List.cons.injEq, List.nil_append] at h
      exact ⟨Fin.ext (by rw [← hc, ← hd, h.1]), h.2⟩
    | digits hescape' =>
      simp only [hescape, hescape', unitEscape, List.cons_append, List.cons.injEq] at h
      exact (hslash h.1).elim
  | digits hescape =>
    cases form hq with
    | short k _ hu hescape' =>
      simp only [hescape, hescape', unitEscape, List.cons_append, List.cons.injEq, true_and] at h
      exact (hu h.1.symm).elim
    | plain _ _ _ hslash hescape' =>
      simp only [hescape, hescape', unitEscape, List.cons_append, List.cons.injEq] at h
      exact (hslash h.1.symm).elim
    | digits hescape' =>
      rw [hescape, hescape'] at h
      obtain ⟨hval, hrest⟩ := unitEscape_append_inj hp hq h
      exact ⟨Fin.ext hval, hrest⟩

/-- No unit is written as something that begins with the quote. -/
theorem escape_append_ne_quote (hp : IsUnit p) (r r' : List Char) :
    escape p ++ r ≠ Text.doubleQuote :: r' := by
  intro h
  cases form hp with
  | short l _ _ hescape => simp [hescape, Text.backslash, Text.doubleQuote] at h
  | plain c _ hquote _ hescape =>
    rw [hescape] at h
    exact hquote (List.cons.inj h).1
  | digits hescape => simp [hescape, unitEscape, Text.backslash, Text.doubleQuote] at h

/-! ## Code points in quotes -/

theorem flatMap_escape_inj (hps : ∀ p ∈ ps, IsUnit p) (hqs : ∀ q ∈ qs, IsUnit q)
    (h : ps.flatMap escape ++ Text.doubleQuote :: r =
      qs.flatMap escape ++ Text.doubleQuote :: r') : ps = qs ∧ r = r' := by
  induction ps generalizing qs with
  | nil =>
    cases qs with
    | nil => simpa using h
    | cons q qs =>
      rw [List.flatMap_cons, List.append_assoc] at h
      exact (escape_append_ne_quote (hqs q List.mem_cons_self) _ _ h.symm).elim
  | cons p ps ih =>
    obtain ⟨hp, hps⟩ := List.forall_mem_cons.mp hps
    cases qs with
    | nil =>
      rw [List.flatMap_cons, List.append_assoc] at h
      exact (escape_append_ne_quote hp _ _ h).elim
    | cons q qs =>
      obtain ⟨hq, hqs⟩ := List.forall_mem_cons.mp hqs
      rw [List.flatMap_cons, List.flatMap_cons, List.append_assoc, List.append_assoc] at h
      obtain ⟨hpq, htail⟩ := escape_append_inj hp hq h
      obtain ⟨hall, hrest⟩ := ih hps hqs htail
      exact ⟨by rw [hpq, hall], hrest⟩

/-- Code points in quotes are written as their units are. -/
theorem quotedPoints_split (ps : List CodePoint) : quotedPoints (split ps) = quotedPoints ps := by
  rw [quotedPoints, quotedPoints, flatMap_escape_split]

/-- **Code points in quotes show where they end and which units they have.** -/
theorem quotedPoints_append_inj
    (h : (quotedPoints ps).toList ++ r = (quotedPoints qs).toList ++ r') :
    split ps = split qs ∧ r = r' := by
  rw [← quotedPoints_split ps, ← quotedPoints_split qs] at h
  simp only [quotedPoints, String.toList_ofList, List.cons_append, List.append_assoc,
    List.nil_append, List.cons.injEq, true_and] at h
  exact flatMap_escape_inj (fun _ ↦ isUnit_of_mem_split) (fun _ ↦ isUnit_of_mem_split) h

/-! ## Texts -/

/-- The first unit of a character tells whether there is a second one, since no character is half of a
surrogate pair. -/
theorem halves_append_inj {c d : Char} {us us' : List CodePoint}
    (h : halves (codePoint c) ++ us = halves (codePoint d) ++ us') : c = d ∧ us = us' := by
  have hscalar : ∀ x : Char, x.toNat < 0xd800 ∨ 0xdfff < x.toNat ∧ x.toNat < 0x110000 :=
    fun x ↦ x.valid
  have hval : ∀ x : Char, (codePoint x).val = x.toNat := fun _ ↦ rfl
  have hc := hscalar c
  have hd := hscalar d
  rw [halves, halves] at h
  split_ifs at h with hcunit hdunit hdunit <;>
    simp only [List.cons_append, List.nil_append, List.cons.injEq, Fin.ext_iff, val_highHalf,
      val_lowHalf, hval, IsUnit] at h hcunit hdunit
  · exact ⟨Char.toNat_inj.mp h.1, h.2⟩
  · omega
  · omega
  · exact ⟨Char.toNat_inj.mp (by omega), h.2.2⟩

/-- **The units of a text tell the text.** -/
theorem split_codePoints_inj {s t : String} (h : split (codePoints s) = split (codePoints t)) :
    s = t := by
  refine String.toList_injective ?_
  rw [codePoints, codePoints] at h
  generalize s.toList = cs at h
  generalize t.toList = ds at h
  have hne : ∀ c : Char, ∀ us, halves (codePoint c) ++ us ≠ [] := fun c us ↦ by
    rw [halves]
    split <;> exact List.cons_ne_nil _ _
  induction cs generalizing ds with
  | nil =>
    cases ds with
    | nil => rfl
    | cons d ds => exact (hne d _ h.symm).elim
  | cons c cs ih =>
    cases ds with
    | nil => exact (hne c _ h).elim
    | cons d ds =>
      obtain ⟨rfl, hrest⟩ := halves_append_inj h
      rw [ih ds hrest]

end Json
end Rulebook
