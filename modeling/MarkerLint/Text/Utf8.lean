/-!
# Strict reading of UTF-8

A sequence of bytes is text only if it is well formed throughout: no overlong form, no surrogate and
no code point beyond the last plane. The refusal names the place and the cause.
-/

namespace MarkerLint.Text.Utf8

/-- Why bytes are not text. -/
inductive Cause where
  | invalidStart
  | invalidContinuation
  | unexpectedEnd
deriving DecidableEq, Repr

/-- The wording of a cause. -/
def Cause.text : Cause → String
  | .invalidStart => "invalid start byte"
  | .invalidContinuation => "invalid continuation byte"
  | .unexpectedEnd => "unexpected end of data"

/-- A refusal: the first byte concerned, where it stands, how many bytes are concerned, and why. -/
structure Refusal where
  byte : UInt8
  position : Nat
  length : Nat
  cause : Cause
deriving DecidableEq, Repr

/-- A byte that continues a sequence. -/
def isContinuation (b : UInt8) : Bool :=
  b.toNat / 64 == 2

/-- The six bits that a continuation byte carries. -/
def payload (b : UInt8) : Nat :=
  b.toNat % 64

/-- The second byte may follow the first one of a sequence of three. -/
def secondOfThree (first second : UInt8) : Bool :=
  isContinuation second
    && !(if second.toNat < 0xA0 then first.toNat == 0xE0 else first.toNat == 0xED)

/-- The second byte may follow the first one of a sequence of four. -/
def secondOfFour (first second : UInt8) : Bool :=
  isContinuation second
    && !(if second.toNat < 0x90 then first.toNat == 0xF0 else first.toNat == 0xF4)

/-- The character of a complete sequence. -/
def two (a b : UInt8) : Char :=
  Char.ofNat (a.toNat % 32 * 64 + payload b)

/-- The character of a complete sequence of three bytes. -/
def three (a b c : UInt8) : Char :=
  Char.ofNat ((a.toNat % 16 * 64 + payload b) * 64 + payload c)

/-- The character of a complete sequence of four bytes. -/
def four (a b c d : UInt8) : Char :=
  Char.ofNat (((a.toNat % 8 * 64 + payload b) * 64 + payload c) * 64 + payload d)

/-- The text of the bytes that stand at the given position. -/
def decodeFrom (position : Nat) : List UInt8 → Except Refusal (List Char)
  | [] => .ok []
  | a :: rest =>
      if a.toNat < 0x80 then
        (Char.ofNat a.toNat :: ·) <$> decodeFrom (position + 1) rest
      else if a.toNat < 0xC2 then .error ⟨a, position, 1, .invalidStart⟩
      else if a.toNat < 0xE0 then
        match rest with
        | [] => .error ⟨a, position, 1, .unexpectedEnd⟩
        | b :: rest =>
            if isContinuation b then (two a b :: ·) <$> decodeFrom (position + 2) rest
            else .error ⟨a, position, 1, .invalidContinuation⟩
      else if a.toNat < 0xF0 then
        match rest with
        | [] => .error ⟨a, position, 1, .unexpectedEnd⟩
        | [b] =>
            if secondOfThree a b then .error ⟨a, position, 2, .unexpectedEnd⟩
            else .error ⟨a, position, 1, .invalidContinuation⟩
        | b :: c :: rest =>
            if !secondOfThree a b then .error ⟨a, position, 1, .invalidContinuation⟩
            else if isContinuation c then (three a b c :: ·) <$> decodeFrom (position + 3) rest
            else .error ⟨a, position, 2, .invalidContinuation⟩
      else if a.toNat < 0xF5 then
        match rest with
        | [] => .error ⟨a, position, 1, .unexpectedEnd⟩
        | [b] =>
            if secondOfFour a b then .error ⟨a, position, 2, .unexpectedEnd⟩
            else .error ⟨a, position, 1, .invalidContinuation⟩
        | [b, c] =>
            if !secondOfFour a b then .error ⟨a, position, 1, .invalidContinuation⟩
            else if isContinuation c then .error ⟨a, position, 3, .unexpectedEnd⟩
            else .error ⟨a, position, 2, .invalidContinuation⟩
        | b :: c :: d :: rest =>
            if !secondOfFour a b then .error ⟨a, position, 1, .invalidContinuation⟩
            else if !isContinuation c then .error ⟨a, position, 2, .invalidContinuation⟩
            else if isContinuation d then (four a b c d :: ·) <$> decodeFrom (position + 4) rest
            else .error ⟨a, position, 3, .invalidContinuation⟩
      else .error ⟨a, position, 1, .invalidStart⟩

/-- The text that the bytes stand for. -/
def decode (bytes : List UInt8) : Except Refusal (List Char) :=
  decodeFrom 0 bytes

end MarkerLint.Text.Utf8
