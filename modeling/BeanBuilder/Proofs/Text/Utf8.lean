import BeanBuilder.Text.Utf8
import Mathlib.Tactic.SplitIfs

/-! # Texts and their bytes

The bytes of a text are decoded to that text (`decodeUtf8_toUTF8`).  One character stands in front
at a time: its first byte tells how many more there are and where the second one may lie, and the
bits of all of them are its code point (`decodeFrom_utf8EncodeChar`).
-/
namespace BeanBuilder
namespace Text

/-! ## Bytes of a sequence -/

section Steps

variable {position : Nat} {b : UInt8} {rest : List UInt8} {lead : Utf8Lead} {s : Utf8Sequence}

theorem decodeFrom_lead (h : utf8Lead? b.toNat = some lead) (hmore : lead.more ≠ 0) :
    decodeFrom none position (b :: rest) =
      decodeFrom (some ⟨position, b, lead.bits, 1, lead.low, lead.high, lead.more⟩)
        (position + 1) rest := by
  rw [decodeFrom, h]
  simp only [if_neg hmore]

theorem decodeFrom_more (h : s.low ≤ b.toNat ∧ b.toNat ≤ s.high) (hmore : s.more ≠ 1) :
    decodeFrom (some s) position (b :: rest) =
      decodeFrom (some { s with
        bits := s.bits * 64 + (b.toNat - 0x80), length := s.length + 1
        low := 0x80, high := 0xbf, more := s.more - 1 }) (position + 1) rest := by
  rw [decodeFrom, if_pos h]
  simp only [if_neg hmore]

theorem decodeFrom_last (h : s.low ≤ b.toNat ∧ b.toNat ≤ s.high) (hmore : s.more = 1) :
    decodeFrom (some s) position (b :: rest) =
      (decodeFrom none (position + 1) rest).map
        (Char.ofNat (s.bits * 64 + (b.toNat - 0x80)) :: ·) := by
  rw [decodeFrom, if_pos h]
  simp only [if_pos hmore]

end Steps

theorem toNat_ofNat_byte {n : Nat} (h : n < 256) : (UInt8.ofNat n).toNat = n :=
  UInt8.toNat_ofNat_of_lt h

/-- A byte behind the first one of a sequence. -/
theorem toNat_following (n : Nat) : (UInt8.ofNat (n % 64 + 128)).toNat = n % 64 + 0x80 :=
  toNat_ofNat_byte (by omega)

/-! ## One character -/

/-- The first byte of a sequence of two. -/
theorem utf8Lead?_two : ∀ n < 32, 2 ≤ n →
    utf8Lead? (n + 0xc0) = some { bits := n, more := 1 } := by
  decide

/-- The first byte of a sequence of three: two of them narrow the range of the second byte. -/
theorem utf8Lead?_three : ∀ n < 16,
    utf8Lead? (n + 0xe0) = some
      { bits := n, low := if n = 0 then 0xa0 else 0x80, high := if n = 0xd then 0x9f else 0xbf
        more := 2 } := by
  decide

/-- The first byte of a sequence of four: again two of them narrow the range. -/
theorem utf8Lead?_four : ∀ n < 5,
    utf8Lead? (n + 0xf0) = some
      { bits := n, low := if n = 0 then 0x90 else 0x80, high := if n = 4 then 0x8f else 0xbf
        more := 3 } := by
  decide

section Characters

variable {v : Nat} (position : Nat) (rest : List UInt8)

theorem decodeFrom_two (hlow : 0x7f < v) (hhigh : v ≤ 0x7ff) :
    decodeFrom none position
        (UInt8.ofNat (v / 64 % 32 + 192) :: UInt8.ofNat (v % 64 + 128) :: rest) =
      (decodeFrom none (position + 2) rest).map (Char.ofNat v :: ·) := by
  have hfirst : (UInt8.ofNat (v / 64 % 32 + 192)).toNat = v / 64 % 32 + 0xc0 :=
    toNat_ofNat_byte (by omega)
  have hlead := utf8Lead?_two (v / 64 % 32) (by omega) (by omega)
  rw [decodeFrom_lead (hfirst ▸ hlead) (by simp),
    decodeFrom_last (by rw [toNat_following v]; simp only; omega) rfl]
  have hbits : v / 64 % 32 * 64 + (v % 64 + 0x80 - 0x80) = v := by omega
  simp only [toNat_following, hbits]

theorem decodeFrom_three (hlow : 0x7ff < v) (hhigh : v ≤ 0xffff)
    (hvalid : v < 0xd800 ∨ 0xdfff < v) :
    decodeFrom none position
        (UInt8.ofNat (v / 4096 % 16 + 224) :: UInt8.ofNat (v / 64 % 64 + 128) ::
          UInt8.ofNat (v % 64 + 128) :: rest) =
      (decodeFrom none (position + 3) rest).map (Char.ofNat v :: ·) := by
  have hfirst : (UInt8.ofNat (v / 4096 % 16 + 224)).toNat = v / 4096 % 16 + 0xe0 :=
    toNat_ofNat_byte (by omega)
  have hlead := utf8Lead?_three (v / 4096 % 16) (by omega)
  -- the ranges of the second byte leave out shorter codes and halves of code points
  rw [decodeFrom_lead (hfirst ▸ hlead) (by simp),
    decodeFrom_more (by rw [toNat_following (v / 64)]; simp only; split_ifs <;> omega) (by simp),
    decodeFrom_last (by rw [toNat_following v]; simp only; omega) rfl]
  have hbits : (v / 4096 % 16 * 64 + (v / 64 % 64 + 0x80 - 0x80)) * 64 +
      (v % 64 + 0x80 - 0x80) = v := by omega
  simp only [toNat_following, hbits]

theorem decodeFrom_four (hlow : 0xffff < v) (hhigh : v < 0x110000) :
    decodeFrom none position
        (UInt8.ofNat (v / 262144 % 8 + 240) :: UInt8.ofNat (v / 4096 % 64 + 128) ::
          UInt8.ofNat (v / 64 % 64 + 128) :: UInt8.ofNat (v % 64 + 128) :: rest) =
      (decodeFrom none (position + 4) rest).map (Char.ofNat v :: ·) := by
  have hfirst : (UInt8.ofNat (v / 262144 % 8 + 240)).toNat = v / 262144 % 8 + 0xf0 :=
    toNat_ofNat_byte (by omega)
  have hlead := utf8Lead?_four (v / 262144 % 8) (by omega)
  rw [decodeFrom_lead (hfirst ▸ hlead) (by simp),
    decodeFrom_more (by rw [toNat_following (v / 4096)]; simp only; split_ifs <;> omega) (by simp),
    decodeFrom_more (by rw [toNat_following (v / 64)]; simp only; omega) (by simp),
    decodeFrom_last (by rw [toNat_following v]; simp only; omega) rfl]
  have hbits : ((v / 262144 % 8 * 64 + (v / 4096 % 64 + 0x80 - 0x80)) * 64 +
      (v / 64 % 64 + 0x80 - 0x80)) * 64 + (v % 64 + 0x80 - 0x80) = v := by omega
  simp only [toNat_following, hbits]

end Characters

/-- **The bytes of a character** are decoded to it, whatever follows. -/
theorem decodeFrom_utf8EncodeChar (c : Char) (position : Nat) (rest : List UInt8) :
    decodeFrom none position (String.utf8EncodeChar c ++ rest) =
      (decodeFrom none (position + (String.utf8EncodeChar c).length) rest).map (c :: ·) := by
  have hvalid : c.val.toNat < 0xd800 ∨ 0xdfff < c.val.toNat ∧ c.val.toNat < 0x110000 := c.valid
  have hchar : Char.ofNat c.val.toNat = c := Char.ofNat_toNat c
  simp only [String.utf8EncodeChar]
  split_ifs with hone htwo hthree
  · have hlead : utf8Lead? (UInt8.ofNat c.val.toNat).toNat =
        some { bits := c.val.toNat, more := 0 } := by
      rw [toNat_ofNat_byte (by omega), utf8Lead?, if_pos (by omega)]
    rw [List.singleton_append, decodeFrom, hlead]
    simp only [if_true, hchar, List.length_singleton]
  · have hsteps := decodeFrom_two position rest
      (Nat.lt_of_not_le hone) htwo
    rw [hchar] at hsteps
    exact hsteps
  · have hsteps := decodeFrom_three position rest
      (Nat.lt_of_not_le htwo) hthree (by omega)
    rw [hchar] at hsteps
    exact hsteps
  · have hsteps := decodeFrom_four position rest
      (Nat.lt_of_not_le hthree) (by omega)
    rw [hchar] at hsteps
    exact hsteps

/-! ## Texts -/

theorem decodeFrom_flatMap (cs : List Char) (position : Nat) :
    decodeFrom none position (cs.flatMap String.utf8EncodeChar) = .ok cs := by
  induction cs generalizing position with
  | nil => rw [List.flatMap_nil, decodeFrom]
  | cons c rest ih =>
    rw [List.flatMap_cons, decodeFrom_utf8EncodeChar, ih]
    rfl

theorem byteList_loop (bytes : ByteArray) (i : Nat) (r : List UInt8) :
    ByteArray.toList.loop bytes i r = r.reverse ++ bytes.data.toList.drop i := by
  induction i, r using ByteArray.toList.loop.induct bytes with
  | case1 i r hmore ih =>
    have hlength : i < bytes.data.toList.length := hmore
    have hbyte : bytes.get! i = bytes.data.toList[i] := getElem!_pos bytes.data i hmore
    rw [ByteArray.toList.loop, if_pos hmore, ih, List.reverse_cons, List.append_assoc,
      List.singleton_append, hbyte, ← List.drop_eq_getElem_cons hlength]
  | case2 i r hdone =>
    rw [ByteArray.toList.loop, if_neg hdone, List.drop_eq_nil_of_le (Nat.le_of_not_lt hdone),
      List.append_nil]

/-- The list of some bytes is the one their array has. -/
theorem byteList_eq (bytes : ByteArray) : bytes.toList = bytes.data.toList :=
  byteList_loop bytes 0 []

/-- **A text is decoded from its own bytes.** -/
theorem decodeUtf8_toUTF8 (s : String) : decodeUtf8 s.toUTF8 = .ok s.toList := by
  rw [decodeUtf8, byteList_eq]
  have hbytes : s.toUTF8 = s.toList.utf8Encode := String.utf8Encode_toList.symm
  rw [hbytes, List.utf8Encode, List.toList_data_toByteArray]
  exact decodeFrom_flatMap s.toList 0

end Text
end BeanBuilder
