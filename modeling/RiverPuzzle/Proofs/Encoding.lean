import Mathlib.Algebra.Group.Nat.Defs
import RiverPuzzle.Text.Utf8

/-!
# Characters as bytes

A character is written as one to four bytes.  The first byte tells how many follow and holds what
the others leave of the code; each of the others holds six bits.  The bytes that are not meant for
a character are never among them, and the main statement reads every text back from its bytes.
-/

namespace RiverPuzzle.Text

/-- The bytes of a text. -/
def encodeUtf8 (text : List Char) : List UInt8 :=
  text.flatMap String.utf8EncodeChar

/-- The byte that holds the six lowest bits of a code behind the first byte. -/
def sixBits (code : Nat) : UInt8 :=
  UInt8.ofNat (code % 64 + 0x80)

/-- The bytes behind the first one, the highest bits first. -/
def tailBytes (code : Nat) : Nat → List UInt8
  | 0 => []
  | count + 1 => sixBits (code / 64 ^ count) :: tailBytes code count

section Bytes

theorem toNat_sixBits (code : Nat) : (sixBits code).toNat = code % 64 + 0x80 := by
  rw [sixBits, UInt8.toNat_ofNat']
  omega

theorem addSix_sixBits (code : Nat) : addSix (code / 64) (sixBits code) = code := by
  rw [addSix, toNat_sixBits]
  omega

theorem isContinuation_iff {byte : UInt8} :
    isContinuation byte = true ↔ 0x80 ≤ byte.toNat ∧ byte.toNat ≤ 0xBF := by
  simp only [isContinuation, Bool.and_eq_true, decide_eq_true_iff, UInt8.le_iff_toNat_le]
  rfl

theorem isSecond_iff {lead byte : UInt8} :
    isSecond lead byte = true ↔
      0x80 ≤ byte.toNat ∧ byte.toNat ≤ 0xBF ∧ (lead.toNat ≠ 0xE0 ∨ 0xA0 ≤ byte.toNat) ∧
        (lead.toNat ≠ 0xED ∨ byte.toNat ≤ 0x9F) ∧ (lead.toNat ≠ 0xF0 ∨ 0x90 ≤ byte.toNat) ∧
        (lead.toNat ≠ 0xF4 ∨ byte.toNat ≤ 0x8F) := by
  simp only [isSecond, Bool.and_eq_true, Bool.or_eq_true, bne_iff_ne, decide_eq_true_iff,
    isContinuation_iff, UInt8.le_iff_toNat_le, ne_eq, ← UInt8.toNat_inj, and_assoc]
  rfl

theorem leadOf_eq (lead : UInt8) :
    leadOf lead =
      if lead.toNat < 0x80 then some (0, lead.toNat)
      else if lead.toNat < 0xC2 then none
      else if lead.toNat < 0xE0 then some (1, lead.toNat % 32)
      else if lead.toNat < 0xF0 then some (2, lead.toNat % 16)
      else if lead.toNat < 0xF5 then some (3, lead.toNat % 8)
      else none := by
  simp only [leadOf, UInt8.lt_iff_toNat_lt]
  rfl

end Bytes

section Characters

variable {lead : UInt8} {code count : Nat}

/-- The bytes behind the first one give back the code, bit by bit. -/
theorem readTail_tailBytes (used code count : Nat) (rest : List UInt8) :
    readTail isContinuation used (code / 64 ^ count) count (tailBytes code count ++ rest) =
      .char (Char.ofNat code) rest := by
  induction count generalizing used with
  | zero => rw [Nat.pow_zero, Nat.div_one, tailBytes, List.nil_append, readTail]
  | succ count ih =>
      have hbyte : isContinuation (sixBits (code / 64 ^ count)) = true := by
        rw [isContinuation_iff, toNat_sixBits]
        omega
      have hcode : code / 64 ^ (count + 1) = code / 64 ^ count / 64 := by
        rw [Nat.pow_succ, Nat.div_div_eq_div_mul]
      rw [tailBytes, List.cons_append, readTail, if_pos hbyte, hcode, addSix_sixBits, ih]

/-- A first byte that tells the truth, and of which the second byte is no surprise, begins the
bytes of a character. -/
theorem decodeFrom_tailBytes (hlead : leadOf lead = some (count + 1, code / 64 ^ (count + 1)))
    (hsecond : isSecond lead (sixBits (code / 64 ^ count)) = true) (rest : List UInt8) :
    decodeFrom lead (tailBytes code (count + 1) ++ rest) = .char (Char.ofNat code) rest := by
  have hcode : code / 64 ^ (count + 1) = code / 64 ^ count / 64 := by
    rw [Nat.pow_succ, Nat.div_div_eq_div_mul]
  simp only [decodeFrom, hlead]
  rw [tailBytes, List.cons_append, readTail, if_pos hsecond, hcode, addSix_sixBits,
    readTail_tailBytes]

/-- The bytes of a character, by the size of its code. -/
theorem utf8EncodeChar_eq (char : Char) :
    String.utf8EncodeChar char =
      if char.toNat ≤ 0x7F then [UInt8.ofNat char.toNat]
      else if char.toNat ≤ 0x7FF then
        UInt8.ofNat (char.toNat / 64 % 32 + 0xC0) :: tailBytes char.toNat 1
      else if char.toNat ≤ 0xFFFF then
        UInt8.ofNat (char.toNat / 4096 % 16 + 0xE0) :: tailBytes char.toNat 2
      else UInt8.ofNat (char.toNat / 262144 % 8 + 0xF0) :: tailBytes char.toNat 3 := by
  simp only [tailBytes, sixBits, Nat.reducePow, Nat.div_one]
  rfl

/-- What is read from the bytes of a character is the character. -/
theorem exists_lead (char : Char) :
    ∃ lead tail, String.utf8EncodeChar char = lead :: tail ∧
      ∀ rest, decodeFrom lead (tail ++ rest) = .char char rest := by
  have hvalid : char.toNat < 0xD800 ∨ 0xDFFF < char.toNat ∧ char.toNat < 0x110000 := char.valid
  have hchar : Char.ofNat char.toNat = char := char.ofNat_toNat
  rw [utf8EncodeChar_eq]
  generalize char.toNat = code at hvalid hchar
  subst hchar
  have htoNat : ∀ byte, byte < 256 → (UInt8.ofNat byte).toNat = byte :=
    fun byte hbyte => UInt8.toNat_ofNat_of_lt' hbyte
  split
  · have hlead := htoNat code (by omega)
    have hbits : leadOf (UInt8.ofNat code) = some (0, code) := by
      rw [leadOf_eq, hlead, if_pos (by omega)]
    refine ⟨_, [], rfl, fun rest => ?_⟩
    simp only [decodeFrom, hbits, List.nil_append, readTail]
  split
  · have hlead := htoNat (code / 64 % 32 + 0xC0) (by omega)
    refine ⟨_, _, rfl, decodeFrom_tailBytes ?_ ?_⟩
    · rw [leadOf_eq, hlead, if_neg (by omega), if_neg (by omega), if_pos (by omega)]
      congr 2
      omega
    · rw [isSecond_iff, hlead, toNat_sixBits]
      omega
  split
  · have hlead := htoNat (code / 4096 % 16 + 0xE0) (by omega)
    refine ⟨_, _, rfl, decodeFrom_tailBytes ?_ ?_⟩
    · rw [leadOf_eq, hlead, if_neg (by omega), if_neg (by omega), if_neg (by omega),
        if_pos (by omega)]
      congr 2
      omega
    · rw [isSecond_iff, hlead, toNat_sixBits]
      omega
  · have hlead := htoNat (code / 262144 % 8 + 0xF0) (by omega)
    refine ⟨_, _, rfl, decodeFrom_tailBytes ?_ ?_⟩
    · rw [leadOf_eq, hlead, if_neg (by omega), if_neg (by omega), if_neg (by omega),
        if_neg (by omega), if_pos (by omega)]
      congr 2
      omega
    · rw [isSecond_iff, hlead, toNat_sixBits]
      omega

end Characters

theorem decodeAll_char {size : Nat} {seen : List Char} {lead : UInt8} {after rest : List UInt8}
    {value : Char} (h : decodeFrom lead after = .char value rest) :
    decodeAll size seen (lead :: after) = decodeAll size (value :: seen) rest := by
  rw [decodeAll]
  split
  · rename_i found more hfound
    obtain ⟨rfl, rfl⟩ := Decoded.char.inj (hfound.symm.trans h)
    rfl
  · rename_i length reason hbad
    rw [h] at hbad
    cases hbad

theorem decodeAll_encodeUtf8 (size : Nat) (seen text : List Char) :
    decodeAll size seen (encodeUtf8 text) = .ok (seen.reverse ++ text) := by
  induction text generalizing seen with
  | nil =>
      change decodeAll size seen [] = _
      rw [decodeAll, List.append_nil]
  | cons char text ih =>
      obtain ⟨lead, tail, hbytes, hdecode⟩ := exists_lead char
      change decodeAll size seen (String.utf8EncodeChar char ++ encodeUtf8 text) = _
      rw [hbytes, List.cons_append, decodeAll_char (hdecode _), ih, List.reverse_cons,
        List.append_assoc, List.singleton_append]

/-- Every text can be read back from its bytes. -/
theorem decodeUtf8_encodeUtf8 (text : List Char) : decodeUtf8 (encodeUtf8 text) = .ok text :=
  decodeAll_encodeUtf8 _ [] text

end RiverPuzzle.Text
