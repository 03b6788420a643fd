import Rulebook.Proofs.Nearest

/-!
# Numerals as they are written

A decimal numeral is written as a sign, digits with a point among, before or behind them, and an
exponent; sign, point and exponent may be left out.  `Numeral.Written` is such a numeral, which stands
for one rational number (`Numeral.Written.value`).  A text that consists of it is read as the double
nearest to that number (`Double.exists_nearest_ofText?`).
-/

set_option autoImplicit false

namespace Rulebook
namespace Numeral

/-! ## Written numerals -/

/-- How a sign is written. -/
inductive Sign where
  | unwritten | plus | minus
deriving DecidableEq

/-- The characters of a sign. -/
def Sign.chars : Sign → List Char
  | unwritten => []
  | plus => ['+']
  | minus => ['-']

/-- Whether a sign is a minus. -/
def Sign.negative : Sign → Bool
  | minus => true
  | _ => false

/-- Digits, if any. -/
structure Digits where
  chars : List Char
  isDigit : ∀ c ∈ chars, c.isDigit = true

/-- The number that digits write. -/
def Digits.value (ds : Digits) : Nat := Nat.ofDigitChars 10 ds.chars 0

/-- An exponent behind a letter, which may be a capital one. -/
structure Exponent where
  capital : Bool
  sign : Sign
  digits : Digits
  ne_nil : digits.chars ≠ []

namespace Exponent

/-- The characters of an exponent. -/
def chars (x : Exponent) : List Char :=
  (if x.capital then 'E' else 'e') :: (x.sign.chars ++ x.digits.chars)

/-- The number that an exponent writes. -/
def value (x : Exponent) : ℤ := if x.sign.negative then -(x.digits.value : ℤ) else x.digits.value

end Exponent

/-- A decimal numeral. -/
structure Written where
  sign : Sign
  whole : Digits
  /-- The digits behind the point, if there is a point. -/
  fractionPart : Option Digits
  exponentPart : Option Exponent
  ne_nil : whole.chars = [] → ∃ ds, fractionPart = some ds ∧ ds.chars ≠ []

namespace Written

/-- The digits behind the point. -/
def fraction (w : Written) : Digits := w.fractionPart.getD ⟨[], nofun⟩

/-- How many digits stand behind the point. -/
def places (w : Written) : Nat := w.fraction.chars.length

/-- The exponent, which is zero if none is written. -/
def exponent (w : Written) : ℤ := w.exponentPart.elim 0 Exponent.value

/-- The characters of the exponent. -/
def exponentChars (w : Written) : List Char := w.exponentPart.elim [] Exponent.chars

/-- What stands behind the digits in front of the point. -/
def ending (w : Written) : List Char :=
  w.fractionPart.elim w.exponentChars fun ds ↦ '.' :: (ds.chars ++ w.exponentChars)

/-- The characters of a numeral. -/
def chars (w : Written) : List Char := w.sign.chars ++ (w.whole.chars ++ w.ending)

/-- The number that a numeral stands for, but for its sign. -/
def magnitude (w : Written) : ℚ :=
  (w.whole.value + w.fraction.value / 10 ^ w.places : ℚ) * (10 : ℚ) ^ w.exponent

/-- The number that a numeral stands for. -/
def value (w : Written) : ℚ := if w.sign.negative then -w.magnitude else w.magnitude

end Written

/-! ## Characters -/

/-- The characters that numerals are written with. -/
def isNumeralChar (c : Char) : Bool := c.isDigit || ['+', '-', '.', 'e', 'E'].contains c

theorem isNumeralChar_sign (s : Sign) : ∀ c ∈ s.chars, isNumeralChar c = true :=
  List.all_eq_true.mp (by cases s <;> decide)

theorem isNumeralChar_digits (ds : Digits) : ∀ c ∈ ds.chars, isNumeralChar c = true :=
  fun c hc ↦ Bool.or_eq_true_iff.mpr (.inl (ds.isDigit c hc))

theorem toNat_lt_of_isNumeralChar {c : Char} (h : isNumeralChar c = true) : c.toNat < 0x80 := by
  rcases Bool.or_eq_true_iff.mp h with hdigit | hother
  · have hhigh : c.toNat ≤ 0x39 := (Char.isDigit_iff_toNat.mp hdigit).2
    omega
  · have hall : ['+', '-', '.', 'e', 'E'].all (fun c ↦ decide (c.toNat < 0x80)) = true := by decide
    exact of_decide_eq_true (List.all_eq_true.mp hall c (List.contains_iff_mem.mp hother))

/-- The characters that are no digits of other scripts are read as they are. -/
theorem asciiDigits_eq_self {cs : List Char} (h : ∀ c ∈ cs, c.toNat < 0x80) :
    asciiDigits cs = cs := by
  refine (List.map_congr_left fun c hc ↦ ?_).trans (List.map_id cs)
  rw [Text.digitValue, if_pos (h c hc), id]
  split_ifs with hdigit
  · have hlow : 0x30 ≤ c.toNat := (Char.isDigit_iff_toNat.mp hdigit).1
    have hvalue : 0x30 + (c.toNat - 0x30) = c.toNat := by omega
    dsimp only
    rw [hvalue, Char.ofNat_toNat]
  · rfl

/-! ## Reading the parts -/

/-- Digits in front of what does not begin with one. -/
theorem Digits.span_append (ds : Digits) {r : List Char} (hr : ∀ c ∈ r.head?, c.isDigit = false) :
    (ds.chars ++ r).takeWhile Char.isDigit = ds.chars ∧
      (ds.chars ++ r).dropWhile Char.isDigit = r := by
  rw [List.takeWhile_append_of_pos ds.isDigit, List.dropWhile_append_of_pos ds.isDigit]
  cases r with
  | nil => exact ⟨List.append_nil _, rfl⟩
  | cons c r =>
    have hc : ¬ c.isDigit = true := by simp [hr c rfl]
    rw [List.takeWhile_cons_of_neg hc, List.dropWhile_cons_of_neg hc]
    exact ⟨List.append_nil _, rfl⟩

/-- A sign in front of what does not begin with one. -/
theorem takeSign_append (s : Sign) {c : Char} (hplus : c ≠ '+') (hminus : c ≠ '-') (r : List Char) :
    takeSign (s.chars ++ c :: r) = (s.negative, c :: r) := by
  cases s with
  | unwritten =>
    rw [Sign.chars, List.nil_append, takeSign.eq_def]
    split
    · rename_i h
      exact absurd (List.head_eq_of_cons_eq h) hminus
    · rename_i h
      exact absurd (List.head_eq_of_cons_eq h) hplus
    · rfl
  | plus | minus => rfl

theorem ne_of_isDigit {c d : Char} (hc : c.isDigit = true) (hd : d.isDigit = false) : c ≠ d := by
  rintro rfl
  exact Bool.false_ne_true (hd.symm.trans hc)

theorem toLower_of_not_upper {c : Char} (h : ¬ ('A'.val ≤ c.val ∧ c.val ≤ 'Z'.val)) :
    c.toLower = c :=
  dif_neg h

theorem toLower_of_isDigit {c : Char} (hc : c.isDigit = true) : c.toLower = c := by
  refine toLower_of_not_upper fun hupper ↦ ?_
  have hhigh : c.toNat ≤ 0x39 := (Char.isDigit_iff_toNat.mp hc).2
  have hlow : 0x41 ≤ c.toNat := UInt32.le_iff_toNat_le.mp hupper.1
  omega

theorem exponent?_chars (x : Exponent) : exponent? x.chars = some x.value := by
  obtain ⟨c, ds, hds⟩ := List.exists_cons_of_ne_nil x.ne_nil
  have hc : c.isDigit = true := x.digits.isDigit c (hds ▸ List.mem_cons_self)
  have hmark : (if x.capital then 'E' else 'e') = 'e' ∨ (if x.capital then 'E' else 'e') = 'E' := by
    cases x.capital <;> decide
  have hsign := takeSign_append x.sign (ne_of_isDigit hc (d := '+') (by decide))
    (ne_of_isDigit hc (d := '-') (by decide)) ds
  have hall : (c :: ds).all Char.isDigit = true := hds ▸ List.all_eq_true.mpr x.digits.isDigit
  rw [Exponent.chars, exponent?, if_pos hmark, hds, hsign]
  simp only [List.isEmpty_cons, hall, Bool.not_true, Bool.or_self, Bool.false_eq_true, if_false]
  rw [Exponent.value, Digits.value, hds]
  rfl

namespace Written

variable (w : Written)

theorem exponent?_exponentChars : exponent? w.exponentChars = some w.exponent := by
  rw [exponentChars, exponent]
  cases w.exponentPart with
  | none => rfl
  | some x => exact exponent?_chars x

/-- What begins the exponent is no digit and no point. -/
theorem head_exponentChars : ∀ c ∈ w.exponentChars.head?, c.isDigit = false ∧ c ≠ '.' := by
  rw [exponentChars]
  intro c hc
  cases hx : w.exponentPart with
  | none =>
    rw [hx] at hc
    cases hc
  | some x =>
    rw [hx] at hc
    obtain rfl := Option.some.inj hc
    cases x.capital <;> decide

theorem head_ending : ∀ c ∈ w.ending.head?, c.isDigit = false := by
  rw [ending]
  cases w.fractionPart with
  | none => exact fun c hc ↦ (w.head_exponentChars c hc).1
  | some ds =>
    intro c hc
    obtain rfl := Option.some.inj hc
    decide

/-- The digits in front of the point begin with a digit, or there are none and the point comes. -/
theorem exists_head : ∃ c r, w.whole.chars ++ w.ending = c :: r ∧ (c.isDigit = true ∨ c = '.') := by
  cases hwhole : w.whole.chars with
  | cons c r => exact ⟨c, r ++ w.ending, rfl, .inl (w.whole.isDigit c (hwhole ▸ List.mem_cons_self))⟩
  | nil =>
    obtain ⟨ds, hds, -⟩ := w.ne_nil hwhole
    exact ⟨'.', ds.chars ++ w.exponentChars, by rw [ending, hds]; rfl, .inr rfl⟩

/-- **A numeral is read as its digits and its exponent.** -/
theorem unsigned?_eq (negative : Bool) : unsigned? negative (w.whole.chars ++ w.ending) =
    some ⟨negative, digitsValue (w.whole.chars ++ w.fraction.chars), w.places, w.exponent⟩ := by
  obtain ⟨htake, hdrop⟩ := w.whole.span_append w.head_ending
  have hexponent := w.exponent?_exponentChars
  have hempty : (w.whole.chars.isEmpty && w.fraction.chars.isEmpty) = false := by
    rw [Bool.and_eq_false_iff, List.isEmpty_eq_false_iff, List.isEmpty_eq_false_iff]
    by_cases hwhole : w.whole.chars = []
    · obtain ⟨ds, hds, hne⟩ := w.ne_nil hwhole
      exact .inr (by rwa [fraction, hds])
    · exact .inl hwhole
  rw [unsigned?, htake, hdrop, places]
  cases hfraction : w.fractionPart with
  | some ds =>
    have hspan := ds.span_append fun c hc ↦ (w.head_exponentChars c hc).1
    have hds : w.fraction = ds := by rw [fraction, hfraction, Option.getD_some]
    rw [hds] at hempty ⊢
    rw [ending, hfraction]
    simp only [Option.elim, hspan.1, hspan.2, hempty, Bool.false_eq_true, if_false, hexponent,
      Option.map_some]
  | none =>
    have hds : w.fraction.chars = [] := by rw [fraction, hfraction]; rfl
    have hpoint : ∀ r, w.exponentChars ≠ '.' :: r := fun r hr ↦
      (w.head_exponentChars '.' (hr ▸ rfl)).2 rfl
    rw [hds] at hempty ⊢
    rw [ending, hfraction]
    simp only [Option.elim, hempty, Bool.false_eq_true, if_false, hexponent, Option.map_some]

/-! ## Reading numerals -/

theorem isNumeralChar_exponentChars : ∀ c ∈ w.exponentChars, isNumeralChar c = true := by
  rw [exponentChars]
  cases w.exponentPart with
  | none => exact nofun
  | some x =>
    refine List.forall_mem_cons.mpr ⟨by cases x.capital <;> decide, ?_⟩
    exact List.forall_mem_append.mpr ⟨isNumeralChar_sign _, isNumeralChar_digits _⟩

theorem isNumeralChar_chars : ∀ c ∈ w.chars, isNumeralChar c = true := by
  refine List.forall_mem_append.mpr ⟨isNumeralChar_sign _, ?_⟩
  refine List.forall_mem_append.mpr ⟨isNumeralChar_digits _, ?_⟩
  rw [ending]
  cases w.fractionPart with
  | none => exact w.isNumeralChar_exponentChars
  | some ds =>
    refine List.forall_mem_cons.mpr ⟨by decide, ?_⟩
    exact List.forall_mem_append.mpr ⟨isNumeralChar_digits _, w.isNumeralChar_exponentChars⟩

theorem takeSign_chars : takeSign w.chars = (w.sign.negative, w.whole.chars ++ w.ending) := by
  obtain ⟨c, r, hcr, hc⟩ := w.exists_head
  rw [chars, hcr]
  rcases hc with hc | rfl
  · exact takeSign_append _ (ne_of_isDigit hc (by decide)) (ne_of_isDigit hc (by decide)) r
  · exact takeSign_append _ (by decide) (by decide) r

end Written
end Numeral

namespace Double

open Numeral

/-- A numeral is no name of an infinity or of the not-a-number. -/
theorem special?_written (w : Written) (negative : Bool) :
    special? negative (w.whole.chars ++ w.ending) = none := by
  obtain ⟨c, r, hcr, hc⟩ := w.exists_head
  have hlower : c.toLower ≠ 'i' ∧ c.toLower ≠ 'n' := by
    rcases hc with hc | rfl
    · rw [toLower_of_isDigit hc]
      exact ⟨ne_of_isDigit hc (by decide), ne_of_isDigit hc (by decide)⟩
    · decide
  have hname : ∀ {d : Char} {t : String} {ds : List Char}, t.toList = d :: ds → c.toLower ≠ d →
      String.ofList ((c :: r).map Char.toLower) ≠ t := by
    rintro d t ds ht hd rfl
    rw [String.toList_ofList] at ht
    exact hd (List.head_eq_of_cons_eq ht)
  rw [hcr, special?, if_neg, if_neg]
  · exact hname (t := "nan") rfl hlower.2
  · exact not_or.mpr ⟨hname (t := "inf") rfl hlower.1, hname (t := "infinity") rfl hlower.1⟩

theorem ofText?_written (w : Written) {s : String} (hs : Text.trimChars s.toList = w.chars) :
    ofText? s = some (ofScientific w.sign.negative
      (digitsValue (w.whole.chars ++ w.fraction.chars)) (w.exponent - w.places)) := by
  have hchars := w.isNumeralChar_chars
  have hunderscore : w.chars.contains '_' = false :=
    Bool.eq_false_iff.mpr fun h ↦ absurd (hchars _ (List.contains_iff_mem.mp h)) (by decide)
  have hascii : ∀ c ∈ w.chars, c.toNat < 0x80 := fun c hc ↦
    toNat_lt_of_isNumeralChar (hchars c hc)
  have hread : scientific? w.chars = some ⟨w.sign.negative,
      digitsValue (w.whole.chars ++ w.fraction.chars), w.places, w.exponent⟩ := by
    rw [scientific?, w.takeSign_chars]
    exact w.unsigned?_eq _
  rw [ofText?, hs, asciiDigits_eq_self hascii, w.takeSign_chars, hunderscore]
  simp only [special?_written, Bool.false_eq_true, if_false, bind, Option.bind, hread]
  rfl

/-- **The text of a numeral is read as the double nearest to what the numeral stands for.** -/
theorem exists_nearest_ofText? (w : Written) {s : String} (hs : Text.trimChars s.toList = w.chars) :
    ∃ x, ofText? s = some x ∧ IsNearest w.value x := by
  refine ⟨_, ofText?_written w hs, ?_⟩
  have hdigits : digitsValue (w.whole.chars ++ w.fraction.chars) =
      10 ^ w.places * w.whole.value + w.fraction.value :=
    (Nat.ofDigitChars_append 0).trans Nat.ofDigitChars_eq_ofDigitChars_zero
  have hmagnitude : w.magnitude =
      digitsValue (w.whole.chars ++ w.fraction.chars) * 10 ^ (w.exponent - w.places) := by
    have hten : (10 : ℚ) ≠ 0 := by norm_num
    rw [hdigits, Written.magnitude, zpow_sub₀ hten, zpow_natCast]
    push_cast
    field_simp
  have hnearest := isNearest_ofScientific w.sign.negative
    (digitsValue (w.whole.chars ++ w.fraction.chars)) (w.exponent - w.places)
  rw [ite_mul, neg_mul, ← hmagnitude] at hnearest
  exact hnearest

/-! ## Reading names -/

theorem toNat_lt_of_toLower {c : Char} (h : c.toLower.toNat < 0x80) : c.toNat < 0x80 := by
  by_cases hupper : 'A'.val ≤ c.val ∧ c.val ≤ 'Z'.val
  · have hhigh : c.toNat ≤ 0x5a := UInt32.le_iff_toNat_le.mp hupper.2
    omega
  · rwa [toLower_of_not_upper hupper] at h

/-- **The name of a special value is read as that value**, whatever the case of its letters. -/
theorem ofText?_name {s : String} (sign : Sign) {name : List Char} {t : String}
    (ht : t ∈ ["inf", "infinity", "nan"]) (hs : Text.trimChars s.toList = sign.chars ++ name)
    (hname : name.map Char.toLower = t.toList) :
    ofText? s = some (if t = "nan" then nan else infinity sign.negative) := by
  have hlower : t.toList ≠ [] ∧
      t.toList.all (fun d ↦ decide (d.toNat < 0x80 ∧ d ≠ '+' ∧ d ≠ '-')) = true := by
    simp only [List.mem_cons, List.not_mem_nil, or_false] at ht
    rcases ht with rfl | rfl | rfl <;> decide
  obtain ⟨hne, hlower⟩ := hlower
  have hmem : ∀ c ∈ name, c.toLower.toNat < 0x80 ∧ c.toLower ≠ '+' ∧ c.toLower ≠ '-' :=
    fun c hc ↦ of_decide_eq_true
      (List.all_eq_true.mp hlower _ (hname ▸ List.mem_map_of_mem hc))
  have hascii : ∀ c ∈ sign.chars ++ name, c.toNat < 0x80 := by
    refine List.forall_mem_append.mpr ⟨fun c hc ↦ ?_, fun c hc ↦ toNat_lt_of_toLower (hmem c hc).1⟩
    exact toNat_lt_of_isNumeralChar (isNumeralChar_sign sign c hc)
  have hname' : name ≠ [] := fun h ↦ hne (by rw [← hname, h, List.map_nil])
  obtain ⟨c, r, rfl⟩ := List.exists_cons_of_ne_nil hname'
  obtain ⟨-, hplus, hminus⟩ := hmem c List.mem_cons_self
  have hsign := takeSign_append (c := c) sign (fun h ↦ hplus (by rw [h]; rfl))
    (fun h ↦ hminus (by rw [h]; rfl)) r
  have hspecial : special? sign.negative (c :: r) =
      some (if t = "nan" then nan else infinity sign.negative) := by
    rw [special?, hname, String.ofList_toList]
    simp only [List.mem_cons, List.not_mem_nil, or_false] at ht
    rcases ht with rfl | rfl | rfl <;> rfl
  rw [ofText?, hs, asciiDigits_eq_self hascii, hsign]
  simp only [hspecial]

end Double
end Rulebook
