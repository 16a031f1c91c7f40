/-!
# Reveal — arguments of the command line

An argument is a string of bytes that should be UTF-8, but need not be. It is
read as a list of symbols: a character for each well-formed sequence, and one
mark for each ill-formed one. An ill-formed sequence is as long as it could still
have become a character, and at least one byte; what follows it is read afresh.

* `Argument.ofString`, `Argument.ofBytes` — the two ways to get one;
* `Argument.text?` — the text of a well-formed argument;
* `Argument.shown` — an argument as it is quoted in a message.
-/

namespace Reveal

/-- A part of an argument. -/
inductive Symbol where
  | char (c : Char)
  /-- Bytes that are not UTF-8. -/
  | malformed
deriving DecidableEq, Repr

/-- The character that stands for a symbol in a message. -/
def Symbol.shown : Symbol → Char
  | char c => c
  | malformed => '\ufffd'

abbrev Argument := List Symbol

/-! ## Reading bytes -/

/-- A multi-byte sequence that has begun: the bytes still missing, the range of
the next one, and the bits so far. -/
structure Sequence where
  missing : Nat
  lowest : Nat
  highest : Nat
  bits : Nat
deriving DecidableEq, Repr

namespace Sequence

/-- What a byte begins that stands at the start of a sequence. The second byte of
some sequences is restricted, so that no character has two encodings and none is
a surrogate or too large. -/
def begin (byte : UInt8) : Symbol ⊕ Sequence :=
  let b := byte.toNat
  if b < 0x80 then .inl (.char (Char.ofNat b))
  else if 0xc2 ≤ b ∧ b ≤ 0xdf then .inr ⟨1, 0x80, 0xbf, b - 0xc0⟩
  else if b = 0xe0 then .inr ⟨2, 0xa0, 0xbf, 0⟩
  else if b = 0xed then .inr ⟨2, 0x80, 0x9f, 0xd⟩
  else if 0xe1 ≤ b ∧ b ≤ 0xef then .inr ⟨2, 0x80, 0xbf, b - 0xe0⟩
  else if b = 0xf0 then .inr ⟨3, 0x90, 0xbf, 0⟩
  else if 0xf1 ≤ b ∧ b ≤ 0xf3 then .inr ⟨3, 0x80, 0xbf, b - 0xf0⟩
  else if b = 0xf4 then .inr ⟨3, 0x80, 0x8f, 4⟩
  else .inl .malformed

/-- Whether a byte continues the sequence. -/
def accepts (q : Sequence) (byte : UInt8) : Bool :=
  decide (q.lowest ≤ byte.toNat) && decide (byte.toNat ≤ q.highest)

/-- The sequence with one more byte: a character, if that was the last one. -/
def extend (q : Sequence) (byte : UInt8) : Symbol ⊕ Sequence :=
  let bits := q.bits * 0x40 + byte.toNat % 0x40
  if q.missing ≤ 1 then .inl (.char (Char.ofNat bits))
  else .inr ⟨q.missing - 1, 0x80, 0xbf, bits⟩

/-- Reads bytes, in the middle of a sequence or between two. -/
def read : Option Sequence → List UInt8 → Argument
  | none, [] => []
  | some _, [] => [.malformed]
  | none, b :: bytes =>
    match begin b with
    | .inl symbol => symbol :: read none bytes
    | .inr q => read (some q) bytes
  | some q, b :: bytes =>
    if q.accepts b then
      match q.extend b with
      | .inl symbol => symbol :: read none bytes
      | .inr q => read (some q) bytes
    else
      .malformed ::
        match begin b with
        | .inl symbol => symbol :: read none bytes
        | .inr q => read (some q) bytes

end Sequence

namespace Argument

/-- The argument that some bytes are. -/
def ofBytes (bytes : List UInt8) : Argument := Sequence.read none bytes

def ofString (s : String) : Argument := s.toList.map .char

/-- The text of an argument, if all of it is well-formed. -/
def text? (a : Argument) : Option String :=
  (a.mapM fun | Symbol.char c => some c | Symbol.malformed => none).map String.ofList

/-- The argument as it is quoted in a message, with a replacement character for
each ill-formed sequence. -/
def shown (a : Argument) : String := String.ofList (a.map Symbol.shown)

end Argument

end Reveal
