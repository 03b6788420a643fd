import Rulebook.Failure

/-!
# Reading UTF-8

`decodeUtf8` reads bytes as a text.  The bytes of a character are checked from the first on, and the
failure names what is wrong: a byte that begins no character, or a byte that does not go on with the
character that has begun.  Bytes that end within a character are counted from the beginning of that
character, since what comes before it has been handed over by then; and so are the first two bytes of
a surrogate at the end, which may still become one.
-/

set_option autoImplicit false

namespace Rulebook
namespace Text

/-- What the first byte of a character says: how many bytes follow, the bounds of the second byte,
and the bits of the code point it holds itself. -/
structure LeadByte where
  following : Nat
  low : Nat
  high : Nat
  bits : Nat

/-- The meaning of a byte as the first of a character; there is none for most bytes. -/
def leadByte? (b : Nat) : Option LeadByte :=
  if b < 0x80 then some ⟨0, 0, 0, b⟩
  else if 0xc2 ≤ b ∧ b ≤ 0xdf then some ⟨1, 0x80, 0xbf, b - 0xc0⟩
  else if b = 0xe0 then some ⟨2, 0xa0, 0xbf, 0⟩
  else if b = 0xed then some ⟨2, 0x80, 0x9f, 0xd⟩
  else if 0xe1 ≤ b ∧ b ≤ 0xef then some ⟨2, 0x80, 0xbf, b - 0xe0⟩
  else if b = 0xf0 then some ⟨3, 0x90, 0xbf, 0⟩
  else if b = 0xf4 then some ⟨3, 0x80, 0x8f, 4⟩
  else if 0xf1 ≤ b ∧ b ≤ 0xf3 then some ⟨3, 0x80, 0xbf, b - 0xf0⟩
  else none

/-- How the bytes after the first one of a character turn out. -/
inductive Continuation where
  | complete (code : Nat)
  /-- The bytes end after so many of them. -/
  | cutOff (taken : Nat)
  /-- So many bytes go on with the character before one that does not. -/
  | broken (taken : Nat)

/-- Reads the bytes that go on with a character. -/
def continuation (low high code : Nat) : (following taken : Nat) → List UInt8 → Continuation
  | 0, _, _ => .complete code
  | _ + 1, taken, [] => .cutOff taken
  | n + 1, taken, b :: r =>
    if low ≤ b.toNat ∧ b.toNat ≤ high then
      continuation 0x80 0xbf (code * 64 + (b.toNat - 0x80)) n (taken + 1) r
    else .broken taken

/-- Whether bytes are the first two of a surrogate and nothing else. -/
def isHalfSurrogate : List UInt8 → Bool
  | [a, b] => a == 0xed && 0xa0 ≤ b.toNat && b.toNat ≤ 0xbf
  | _ => false

/-- Reads characters; the first `skip` bytes belong to one that has been read. -/
def decodeChars : (position skip : Nat) → List UInt8 → Except Failure (List Char)
  | _, _, [] => .ok []
  | position, skip + 1, _ :: r => decodeChars (position + 1) skip r
  | position, 0, b :: r =>
    match leadByte? b.toNat with
    | none => .error (.undecodable position (position + 1) b "invalid start byte")
    | some l =>
      match continuation l.low l.high l.bits l.following 0 r with
      | .complete code => do
        return Char.ofNat code :: (← decodeChars (position + 1) l.following r)
      | .cutOff taken => .error (.undecodable 0 (taken + 1) b "unexpected end of data")
      | .broken taken =>
        let start := if isHalfSurrogate (b :: r) then 0 else position
        .error (.undecodable start (start + 1 + taken) b "invalid continuation byte")

/-- Reads bytes as a text. -/
def decodeUtf8 (bytes : List UInt8) : Except Failure (List Char) := decodeChars 0 0 bytes

end Text
end Rulebook
