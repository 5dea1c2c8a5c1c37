import RiverPuzzle.Text.Quoted

/-!
# Strict UTF-8

Bytes to characters.  Overlong forms, surrogates and codes past the last plane
are refused; a refusal names the bytes that cannot be part of any character.
-/

namespace RiverPuzzle.Text

/-- Why a run of bytes is no character. -/
inductive DecodeReason
  | invalidStart
  | invalidContinuation
  | unexpectedEnd
deriving DecidableEq, Repr

def DecodeReason.text : DecodeReason → String
  | .invalidStart => "invalid start byte"
  | .invalidContinuation => "invalid continuation byte"
  | .unexpectedEnd => "unexpected end of data"

/-- The bytes from `position` on, `length` of them, starting with `byte`, are
refused. -/
structure DecodeFault where
  position : Nat
  length : Nat
  byte : UInt8
  reason : DecodeReason
deriving DecidableEq, Repr

/-- The refused bytes, where they are, and why. -/
def DecodeFault.message (fault : DecodeFault) : String :=
  let place :=
    if fault.length = 1 then
      "byte 0x" ++ String.ofList (hexadecimal 2 fault.byte.toNat) ++ " in position "
        ++ toString fault.position
    else
      "bytes in position " ++ toString fault.position ++ "-"
        ++ toString (fault.position + fault.length - 1)
  "'utf-8' codec can't decode " ++ place ++ ": " ++ fault.reason.text

/-- What the first bytes of a text hold. -/
inductive Decoded
  | char (value : Char) (rest : List UInt8)
  | bad (length : Nat) (reason : DecodeReason)

/-- A byte that may follow the first byte of a character. -/
def isContinuation (byte : UInt8) : Bool :=
  0x80 ≤ byte && byte ≤ 0xBF

/-- A byte that may come second, after the first byte `lead`. -/
def isSecond (lead byte : UInt8) : Bool :=
  isContinuation byte
    && (lead != 0xE0 || 0xA0 ≤ byte) && (lead != 0xED || byte ≤ 0x9F)
    && (lead != 0xF0 || 0x90 ≤ byte) && (lead != 0xF4 || byte ≤ 0x8F)

/-- The six low bits of a continuation byte, put behind the bits read so far. -/
def addSix (code : Nat) (byte : UInt8) : Nat :=
  64 * code + byte.toNat % 64

/-- How many bytes follow a first byte, and the bits that it contributes. -/
def leadOf (lead : UInt8) : Option (Nat × Nat) :=
  if lead < 0x80 then some (0, lead.toNat)
  else if lead < 0xC2 then none
  else if lead < 0xE0 then some (1, lead.toNat % 32)
  else if lead < 0xF0 then some (2, lead.toNat % 16)
  else if lead < 0xF5 then some (3, lead.toNat % 8)
  else none

/-- Read the bytes that have to follow, `used` bytes into a character with the
bits `code` so far.  The next byte has to pass a test of its own. -/
def readTail (accepts : UInt8 → Bool) (used code : Nat) : Nat → List UInt8 → Decoded
  | 0, rest => .char (Char.ofNat code) rest
  | _ + 1, [] => .bad used .unexpectedEnd
  | count + 1, byte :: rest =>
      if accepts byte then readTail isContinuation (used + 1) (addSix code byte) count rest
      else .bad used .invalidContinuation

/-- The first character of a text that begins with the byte `lead`. -/
def decodeFrom (lead : UInt8) (rest : List UInt8) : Decoded :=
  match leadOf lead with
  | none => .bad 1 .invalidStart
  | some (count, bits) => readTail (isSecond lead) 1 bits count rest

theorem readTail_length_le {accepts : UInt8 → Bool} {used code count : Nat}
    {bytes rest : List UInt8} {value : Char}
    (h : readTail accepts used code count bytes = .char value rest) :
    rest.length ≤ bytes.length := by
  induction count generalizing accepts used code bytes with
  | zero =>
      cases h
      exact Nat.le_refl _
  | succ count ih =>
      cases bytes with
      | nil => cases h
      | cons byte bytes =>
          simp only [readTail] at h
          split at h
          · exact Nat.le_succ_of_le (ih h)
          · cases h

theorem decodeFrom_length_le {lead : UInt8} {bytes rest : List UInt8} {value : Char}
    (h : decodeFrom lead bytes = .char value rest) : rest.length ≤ bytes.length := by
  unfold decodeFrom at h
  split at h
  · cases h
  · exact readTail_length_le h

/-- The characters of a text, those already read newest first. -/
def decodeAll (size : Nat) (seen : List Char) (bytes : List UInt8) :
    Except DecodeFault (List Char) :=
  match bytes with
  | [] => .ok seen.reverse
  | lead :: after =>
      match h : decodeFrom lead after with
      | .char value rest =>
          have := decodeFrom_length_le h
          decodeAll size (value :: seen) rest
      | .bad length reason =>
          .error ⟨size - (after.length + 1), length, lead, reason⟩
termination_by bytes.length
decreasing_by simp only [List.length_cons]; omega

/-- The characters of a text. -/
def decodeUtf8 (bytes : List UInt8) : Except DecodeFault (List Char) :=
  decodeAll bytes.length [] bytes

end RiverPuzzle.Text
