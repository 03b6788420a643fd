import Mathlib.Data.List.Basic
import Rulebook.Proofs.Success
import Rulebook.Text.Utf8

/-!
# Reading UTF-8 is the inverse of writing it

`decodeUtf8` comes to a text exactly on the bytes that write the text (`decodeUtf8_eq_ok_iff`), and on
all other bytes it ends with a failure of its own kind (`kind_of_decodeUtf8_eq_error`).  The bytes of one
character are compared with `String.utf8EncodeChar` in both directions: what is read as complete writes
the character that is read (`utf8EncodeChar_of_complete`), and what writes a character is read as complete
(`exists_complete`).
-/

set_option autoImplicit false

namespace Rulebook
namespace Text

/-- The bytes of a text in UTF-8. -/
def utf8 (cs : List Char) : List UInt8 := cs.flatMap String.utf8EncodeChar

@[simp] theorem utf8_cons (c : Char) (cs : List Char) :
    utf8 (c :: cs) = String.utf8EncodeChar c ++ utf8 cs := rfl

theorem eq_nil_of_utf8_eq_nil {cs : List Char} (h : utf8 cs = []) : cs = [] := by
  cases cs with
  | nil => rfl
  | cons c cs =>
    have hlength := congrArg List.length h
    have hpos := c.utf8Size_pos
    rw [utf8_cons, List.length_append, String.length_utf8EncodeChar, List.length_nil] at hlength
    omega

/-! ## The bytes of one character

The four forms are told apart by the code point; each byte holds a part of it. -/

section Forms

variable {ch : Char} {a b c d : UInt8}

theorem val_ofNat {n : Nat} (hn : n.isValidChar) : (Char.ofNat n).val.toNat = n := by
  rw [Char.ofNat, dif_pos hn]
  rfl

theorem ofNat_eq_of_toNat_eq {n : Nat} (h : a.toNat = n) : UInt8.ofNat n = a := by
  rw [← h, UInt8.ofNat_toNat]

theorem utf8EncodeChar_eq_one (ha : a.toNat = ch.val.toNat) (h : a.toNat ≤ 0x7f) :
    String.utf8EncodeChar ch = [a] := by
  rw [String.utf8EncodeChar, if_pos (by omega), ofNat_eq_of_toNat_eq ha]

theorem utf8EncodeChar_eq_two (hlow : 0x80 ≤ ch.val.toNat) (hhigh : ch.val.toNat ≤ 0x7ff)
    (ha : a.toNat = ch.val.toNat / 64 + 0xc0) (hb : b.toNat = ch.val.toNat % 64 + 0x80) :
    String.utf8EncodeChar ch = [a, b] := by
  rw [String.utf8EncodeChar, if_neg (by omega), if_pos hhigh, ofNat_eq_of_toNat_eq (a := a) (by omega),
    ofNat_eq_of_toNat_eq (a := b) (by omega)]

theorem utf8EncodeChar_eq_three (hlow : 0x800 ≤ ch.val.toNat) (hhigh : ch.val.toNat ≤ 0xffff)
    (ha : a.toNat = ch.val.toNat / 4096 + 0xe0) (hb : b.toNat = ch.val.toNat / 64 % 64 + 0x80)
    (hc : c.toNat = ch.val.toNat % 64 + 0x80) : String.utf8EncodeChar ch = [a, b, c] := by
  rw [String.utf8EncodeChar, if_neg (by omega), if_neg (by omega), if_pos hhigh,
    ofNat_eq_of_toNat_eq (a := a) (by omega), ofNat_eq_of_toNat_eq (a := b) (by omega),
    ofNat_eq_of_toNat_eq (a := c) (by omega)]

theorem utf8EncodeChar_eq_four (hlow : 0x10000 ≤ ch.val.toNat) (hhigh : ch.val.toNat ≤ 0x10ffff)
    (ha : a.toNat = ch.val.toNat / 262144 + 0xf0) (hb : b.toNat = ch.val.toNat / 4096 % 64 + 0x80)
    (hc : c.toNat = ch.val.toNat / 64 % 64 + 0x80) (hd : d.toNat = ch.val.toNat % 64 + 0x80) :
    String.utf8EncodeChar ch = [a, b, c, d] := by
  rw [String.utf8EncodeChar, if_neg (by omega), if_neg (by omega), if_neg (by omega),
    ofNat_eq_of_toNat_eq (a := a) (by omega), ofNat_eq_of_toNat_eq (a := b) (by omega),
    ofNat_eq_of_toNat_eq (a := c) (by omega), ofNat_eq_of_toNat_eq (a := d) (by omega)]

end Forms

/-! ## Reading one character -/

section Continuation

variable {low high code n taken v : Nat} {bs : List UInt8}

theorem continuation_zero_eq_complete_iff :
    continuation low high code 0 taken bs = .complete v ↔ code = v := by
  rw [continuation, Continuation.complete.injEq]

theorem continuation_succ_eq_complete_iff :
    continuation low high code (n + 1) taken bs = .complete v ↔
      ∃ b r, bs = b :: r ∧ low ≤ b.toNat ∧ b.toNat ≤ high ∧
        continuation 0x80 0xbf (code * 64 + (b.toNat - 0x80)) n (taken + 1) r = .complete v := by
  cases bs with
  | nil => exact iff_of_false nofun nofun
  | cons b r =>
    rw [continuation]
    constructor
    · intro h
      split at h
      · rename_i hb
        exact ⟨b, r, rfl, hb.1, hb.2, h⟩
      · cases h
    · rintro ⟨b, r, heq, hlow, hhigh, h⟩
      obtain ⟨rfl, rfl⟩ := List.cons.inj heq
      rw [if_pos ⟨hlow, hhigh⟩]
      exact h

end Continuation

/-! ## The first byte of a character

The bounds of the second byte leave out what a shorter form writes, the surrogates and what is beyond
all characters. -/

section Lead

variable {n : Nat}

theorem leadByte?_one (h : n < 0x80) : leadByte? n = some ⟨0, 0, 0, n⟩ := if_pos h

theorem leadByte?_two (h : 0xc2 ≤ n ∧ n ≤ 0xdf) : leadByte? n = some ⟨1, 0x80, 0xbf, n - 0xc0⟩ := by
  rw [leadByte?, if_neg (by omega), if_pos h]

theorem leadByte?_three (h : 0xe0 ≤ n ∧ n ≤ 0xef) :
    ∃ low high, leadByte? n = some ⟨2, low, high, n - 0xe0⟩ ∧ ∀ m, low ≤ m ∧ m ≤ high ↔
      (0x80 ≤ m ∧ m ≤ 0xbf) ∧ (n = 0xe0 → 0xa0 ≤ m) ∧ (n = 0xed → m ≤ 0x9f) := by
  rw [leadByte?, if_neg (by omega), if_neg (by omega)]
  split
  · subst n
    exact ⟨0xa0, 0xbf, rfl, by omega⟩
  split
  · subst n
    exact ⟨0x80, 0x9f, rfl, by omega⟩
  · rw [if_pos (by omega)]
    exact ⟨0x80, 0xbf, rfl, by omega⟩

theorem leadByte?_four (h : 0xf0 ≤ n ∧ n ≤ 0xf4) :
    ∃ low high, leadByte? n = some ⟨3, low, high, n - 0xf0⟩ ∧ ∀ m, low ≤ m ∧ m ≤ high ↔
      (0x80 ≤ m ∧ m ≤ 0xbf) ∧ (n = 0xf0 → 0x90 ≤ m) ∧ (n = 0xf4 → m ≤ 0x8f) := by
  rw [leadByte?, if_neg (by omega), if_neg (by omega), if_neg (by omega), if_neg (by omega),
    if_neg (by omega)]
  split
  · subst n
    exact ⟨0x90, 0xbf, rfl, by omega⟩
  split
  · subst n
    exact ⟨0x80, 0x8f, rfl, by omega⟩
  · rw [if_pos (by omega)]
    exact ⟨0x80, 0xbf, rfl, by omega⟩

theorem of_leadByte?_eq_some {l : LeadByte} (h : leadByte? n = some l) :
    n < 0x80 ∨ (0xc2 ≤ n ∧ n ≤ 0xdf) ∨ (0xe0 ≤ n ∧ n ≤ 0xef) ∨ (0xf0 ≤ n ∧ n ≤ 0xf4) := by
  unfold leadByte? at h
  repeat' split at h
  all_goals first | omega | cases h

end Lead

section Complete

variable {b : UInt8} {r : List UInt8} {l : LeadByte} {code : Nat}

/-- What is read as a character writes that character. -/
theorem utf8EncodeChar_of_complete (hl : leadByte? b.toNat = some l)
    (hcode : continuation l.low l.high l.bits l.following 0 r = .complete code) :
    String.utf8EncodeChar (Char.ofNat code) = b :: r.take l.following := by
  rcases of_leadByte?_eq_some hl with hb | hb | hb | hb
  · obtain rfl := Option.some.inj ((leadByte?_one hb).symm.trans hl)
    dsimp only at hcode
    rw [continuation_zero_eq_complete_iff] at hcode
    have hval := val_ofNat (n := code) (.inl (by omega))
    exact utf8EncodeChar_eq_one (by omega) (by omega)
  · obtain rfl := Option.some.inj ((leadByte?_two hb).symm.trans hl)
    dsimp only at hcode
    obtain ⟨b₁, r, rfl, hlow, hhigh, hcode⟩ := continuation_succ_eq_complete_iff.mp hcode
    rw [continuation_zero_eq_complete_iff] at hcode
    have hval := val_ofNat (n := code) (.inl (by omega))
    exact utf8EncodeChar_eq_two (by omega) (by omega) (by omega) (by omega)
  · obtain ⟨low, high, hlead, hbounds⟩ := leadByte?_three hb
    obtain rfl := Option.some.inj (hlead.symm.trans hl)
    dsimp only at hcode
    obtain ⟨b₁, r, rfl, hlow, hhigh, hcode⟩ := continuation_succ_eq_complete_iff.mp hcode
    obtain ⟨b₂, r, rfl, hlow₂, hhigh₂, hcode⟩ := continuation_succ_eq_complete_iff.mp hcode
    rw [continuation_zero_eq_complete_iff] at hcode
    have hb₁ := (hbounds _).mp ⟨hlow, hhigh⟩
    have hval := val_ofNat (n := code) (by unfold Nat.isValidChar; omega)
    exact utf8EncodeChar_eq_three (by omega) (by omega) (by omega) (by omega) (by omega)
  · obtain ⟨low, high, hlead, hbounds⟩ := leadByte?_four hb
    obtain rfl := Option.some.inj (hlead.symm.trans hl)
    dsimp only at hcode
    obtain ⟨b₁, r, rfl, hlow, hhigh, hcode⟩ := continuation_succ_eq_complete_iff.mp hcode
    obtain ⟨b₂, r, rfl, hlow₂, hhigh₂, hcode⟩ := continuation_succ_eq_complete_iff.mp hcode
    obtain ⟨b₃, r, rfl, hlow₃, hhigh₃, hcode⟩ := continuation_succ_eq_complete_iff.mp hcode
    rw [continuation_zero_eq_complete_iff] at hcode
    have hb₁ := (hbounds _).mp ⟨hlow, hhigh⟩
    have hval := val_ofNat (n := code) (by unfold Nat.isValidChar; omega)
    exact utf8EncodeChar_eq_four (by omega) (by omega) (by omega) (by omega) (by omega) (by omega)

/-- What writes a character is read as that character, whatever comes behind. -/
theorem exists_complete (ch : Char) (s : List UInt8) :
    ∃ b r l, String.utf8EncodeChar ch = b :: r ∧ leadByte? b.toNat = some l ∧
      l.following = r.length ∧
      continuation l.low l.high l.bits l.following 0 (r ++ s) = .complete ch.val.toNat := by
  have hvalid := ch.valid
  simp only [UInt32.isValidChar, Nat.isValidChar] at hvalid
  have hbyte (n : Nat) (h : n < 256) : (UInt8.ofNat n).toNat = n := by
    rw [UInt8.toNat_ofNat']
    omega
  rw [String.utf8EncodeChar]
  split
  · have ha := hbyte ch.val.toNat (by omega)
    refine ⟨_, _, _, rfl, leadByte?_one (by omega), rfl, ?_⟩
    rw [continuation_zero_eq_complete_iff, ha]
  split
  · have ha := hbyte (ch.val.toNat / 64 % 32 + 0xc0) (by omega)
    have hb := hbyte (ch.val.toNat % 64 + 0x80) (by omega)
    refine ⟨_, _, _, rfl, leadByte?_two (by omega), rfl, ?_⟩
    dsimp only
    refine continuation_succ_eq_complete_iff.mpr ⟨_, _, rfl, by omega, by omega, ?_⟩
    rw [continuation_zero_eq_complete_iff]
    omega
  split
  · have ha := hbyte (ch.val.toNat / 4096 % 16 + 0xe0) (by omega)
    have hb := hbyte (ch.val.toNat / 64 % 64 + 0x80) (by omega)
    have hc := hbyte (ch.val.toNat % 64 + 0x80) (by omega)
    obtain ⟨low, high, hlead, hbounds⟩ :=
      leadByte?_three (n := (UInt8.ofNat (ch.val.toNat / 4096 % 16 + 0xe0)).toNat) (by omega)
    obtain ⟨hlow, hhigh⟩ := (hbounds (ch.val.toNat / 64 % 64 + 0x80)).mpr (by omega)
    refine ⟨_, _, _, rfl, hlead, rfl, ?_⟩
    dsimp only
    refine continuation_succ_eq_complete_iff.mpr ⟨_, _, rfl, by omega, by omega, ?_⟩
    refine continuation_succ_eq_complete_iff.mpr ⟨_, _, rfl, by omega, by omega, ?_⟩
    rw [continuation_zero_eq_complete_iff]
    omega
  · have ha := hbyte (ch.val.toNat / 262144 % 8 + 0xf0) (by omega)
    have hb := hbyte (ch.val.toNat / 4096 % 64 + 0x80) (by omega)
    have hc := hbyte (ch.val.toNat / 64 % 64 + 0x80) (by omega)
    have hd := hbyte (ch.val.toNat % 64 + 0x80) (by omega)
    obtain ⟨low, high, hlead, hbounds⟩ :=
      leadByte?_four (n := (UInt8.ofNat (ch.val.toNat / 262144 % 8 + 0xf0)).toNat) (by omega)
    obtain ⟨hlow, hhigh⟩ := (hbounds (ch.val.toNat / 4096 % 64 + 0x80)).mpr (by omega)
    refine ⟨_, _, _, rfl, hlead, rfl, ?_⟩
    dsimp only
    refine continuation_succ_eq_complete_iff.mpr ⟨_, _, rfl, by omega, by omega, ?_⟩
    refine continuation_succ_eq_complete_iff.mpr ⟨_, _, rfl, by omega, by omega, ?_⟩
    refine continuation_succ_eq_complete_iff.mpr ⟨_, _, rfl, by omega, by omega, ?_⟩
    rw [continuation_zero_eq_complete_iff]
    omega

end Complete

/-! ## Reading all bytes -/

theorem decodeChars_eq_ok_iff {position skip : Nat} {bs : List UInt8} {cs : List Char} :
    decodeChars position skip bs = .ok cs ↔ bs.drop skip = utf8 cs := by
  induction bs generalizing position skip cs with
  | nil =>
    rw [decodeChars, List.drop_nil, Except.ok.injEq, eq_comm]
    exact ⟨fun h ↦ h ▸ rfl, fun h ↦ eq_nil_of_utf8_eq_nil h.symm⟩
  | cons b r ih =>
    cases skip with
    | succ skip => rw [decodeChars, ih, List.drop_succ_cons]
    | zero =>
      rw [List.drop_zero]
      constructor
      · intro h
        rw [decodeChars] at h
        split at h
        · cases h
        rename_i l hl
        split at h
        · rename_i code hcode
          obtain ⟨cs, hr, h⟩ := bind_eq_ok h
          obtain rfl := Except.ok.inj h
          rw [utf8_cons, utf8EncodeChar_of_complete hl hcode, ← ih.mp hr, List.cons_append,
            List.take_append_drop]
        · cases h
        · cases h
      · intro h
        cases cs with
        | nil => cases h
        | cons ch cs =>
          obtain ⟨b', r', l, hch, hl, hfollowing, hcode⟩ := exists_complete ch (utf8 cs)
          rw [utf8_cons, hch, List.cons_append] at h
          obtain ⟨rfl, rfl⟩ := List.cons.inj h
          rw [decodeChars, hl]
          dsimp only
          rw [hcode]
          have hr : decodeChars (position + 1) l.following (r' ++ utf8 cs) = .ok cs := by
            rw [ih, hfollowing, List.drop_left]
          dsimp only
          rw [hr]
          exact congrArg (fun c ↦ Except.ok (c :: cs)) (Char.ofNat_toNat ch)

/-- Bytes are read as a text exactly when they write it. -/
theorem decodeUtf8_eq_ok_iff {bs : List UInt8} {cs : List Char} :
    decodeUtf8 bs = .ok cs ↔ bs = utf8 cs := by
  rw [decodeUtf8, decodeChars_eq_ok_iff, List.drop_zero]

theorem failsOnly_decodeChars (position skip : Nat) (bs : List UInt8) :
    FailsOnly (fun f ↦ f.kind = .decoding) (decodeChars position skip bs) := by
  induction bs generalizing position skip with
  | nil => exact failsOnly_ok []
  | cons b r ih =>
    cases skip with
    | succ skip => exact ih (position + 1) skip
    | zero =>
      rw [decodeChars]
      split
      · exact failsOnly_error rfl
      split
      · exact (ih _ _).bind fun cs _ ↦ failsOnly_ok _
      · exact failsOnly_error rfl
      · exact failsOnly_error rfl

theorem kind_of_decodeUtf8_eq_error {bs : List UInt8} {f : Failure} (h : decodeUtf8 bs = .error f) :
    f.kind = .decoding :=
  failsOnly_decodeChars 0 0 bs f h

end Text
end Rulebook
