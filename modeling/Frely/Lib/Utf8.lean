import Mathlib.Tactic.Common

/-!
# Decoding UTF-8 piece by piece

The decoder of the Encoding Standard, one byte at a time: a byte that cannot continue a sequence
makes a replacement character of what was read and is then read again.  `decode` reads a piece and
keeps the sequence that the piece ends in; `flush` ends the text.

Pieces may be cut anywhere: `decode_append`.  What is encoded is decoded as it was:
`decodeAll_encode`.
-/

namespace Utf8

/-- The sequence being read: its bits so far, the bytes it still needs, and the bounds of the next
byte.  Nothing is being read when no byte is needed. -/
structure Decoder where
  codePoint : Nat := 0
  needed : Nat := 0
  lower : Nat := 0x80
  upper : Nat := 0xBF
deriving DecidableEq

def replacement : Char := '\uFFFD'

/-- The first byte of a sequence. -/
def Decoder.first (byte : UInt8) : Decoder × List Char :=
  let b := byte.toNat
  if b ≤ 0x7F then ({}, [Char.ofNat b])
  else if 0xC2 ≤ b ∧ b ≤ 0xDF then ({ codePoint := b % 0x20, needed := 1 }, [])
  else if b = 0xE0 then ({ codePoint := b % 0x10, needed := 2, lower := 0xA0 }, [])
  else if b = 0xED then ({ codePoint := b % 0x10, needed := 2, upper := 0x9F }, [])
  else if 0xE1 ≤ b ∧ b ≤ 0xEF then ({ codePoint := b % 0x10, needed := 2 }, [])
  else if b = 0xF0 then ({ codePoint := b % 0x08, needed := 3, lower := 0x90 }, [])
  else if b = 0xF4 then ({ codePoint := b % 0x08, needed := 3, upper := 0x8F }, [])
  else if 0xF1 ≤ b ∧ b ≤ 0xF3 then ({ codePoint := b % 0x08, needed := 3 }, [])
  else ({}, [replacement])

def Decoder.step (decoder : Decoder) (byte : UInt8) : Decoder × List Char :=
  if decoder.needed = 0 then Decoder.first byte
  else if byte.toNat < decoder.lower ∨ decoder.upper < byte.toNat then
    let (next, chars) := Decoder.first byte
    (next, replacement :: chars)
  else
    let codePoint := decoder.codePoint * 0x40 + byte.toNat % 0x40
    if decoder.needed = 1 then ({}, [Char.ofNat codePoint])
    else ({ codePoint := codePoint, needed := decoder.needed - 1 }, [])

def Decoder.decode (decoder : Decoder) : List UInt8 → Decoder × List Char
  | [] => (decoder, [])
  | byte :: rest =>
    let (next, chars) := decoder.step byte
    let (last, more) := next.decode rest
    (last, chars ++ more)

def Decoder.flush (decoder : Decoder) : List Char :=
  if decoder.needed = 0 then [] else [replacement]

theorem decode_append (decoder : Decoder) (bytes more : List UInt8) :
    decoder.decode (bytes ++ more) =
      (((decoder.decode bytes).1.decode more).1,
        (decoder.decode bytes).2 ++ ((decoder.decode bytes).1.decode more).2) := by
  induction bytes generalizing decoder with
  | nil => rfl
  | cons byte rest ih =>
    simp only [List.cons_append, Decoder.decode]
    rw [ih]
    simp only [List.append_assoc]

/-- The text of all bytes. -/
def decodeAll (bytes : List UInt8) : List Char :=
  let (decoder, chars) := Decoder.decode {} bytes
  chars ++ decoder.flush

example : decodeAll [0x61, 0xE2, 0x82, 0xAC, 0xE2, 0x82, 0x61] =
    ['a', '€', '\uFFFD', 'a'] := by decide

/-! ### Encoding -/

def encode (text : List Char) : List UInt8 := text.flatMap String.utf8EncodeChar

/-- A byte that continues a sequence which needs more bytes after it. -/
theorem step_more {decoder : Decoder} {bits needed : Nat} (hneeded : decoder.needed = needed + 2)
    (hbits : bits < 64) (hlower : decoder.lower ≤ bits + 128)
    (hupper : bits + 128 ≤ decoder.upper) :
    decoder.step (UInt8.ofNat (bits + 128)) =
      ({ codePoint := decoder.codePoint * 64 + bits, needed := needed + 1 }, []) := by
  have hbyte : (UInt8.ofNat (bits + 128)).toNat = bits + 128 :=
    UInt8.toNat_ofNat_of_lt' (show bits + 128 < 256 by omega)
  have hmod : (bits + 128) % 64 = bits := by omega
  simp only [Decoder.step, hbyte, hneeded, hmod]
  rw [if_neg (by omega), if_neg (by omega), if_neg (by omega)]
  rfl

/-- The last byte of a sequence. -/
theorem step_last {decoder : Decoder} {bits : Nat} (hneeded : decoder.needed = 1)
    (hbits : bits < 64) (hlower : decoder.lower ≤ bits + 128)
    (hupper : bits + 128 ≤ decoder.upper) :
    decoder.step (UInt8.ofNat (bits + 128)) =
      ({}, [Char.ofNat (decoder.codePoint * 64 + bits)]) := by
  have hbyte : (UInt8.ofNat (bits + 128)).toNat = bits + 128 :=
    UInt8.toNat_ofNat_of_lt' (show bits + 128 < 256 by omega)
  have hmod : (bits + 128) % 64 = bits := by omega
  simp only [Decoder.step, hbyte, hneeded, hmod]
  rw [if_neg (by omega), if_neg (by omega), if_pos trivial]

theorem toNat_byte {n : Nat} (hn : n < 256) : (UInt8.ofNat n).toNat = n :=
  UInt8.toNat_ofNat_of_lt' hn

/-- The decoder after the first byte of three takes the second one. -/
theorem first_three {v : Nat} (hlow : 2047 < v) (hhigh : v ≤ 65535)
    (hvalid : v < 55296 ∨ 57343 < v) :
    ∃ lower upper, Decoder.first (UInt8.ofNat (v / 4096 % 16 + 224)) =
        (⟨v / 4096, 2, lower, upper⟩, []) ∧
      lower ≤ v / 64 % 64 + 128 ∧ v / 64 % 64 + 128 ≤ upper := by
  have hbyte : (UInt8.ofNat (v / 4096 % 16 + 224)).toNat = v / 4096 + 224 := by
    rw [toNat_byte (by omega)]
    omega
  have hmod : (v / 4096 + 224) % 16 = v / 4096 := by omega
  simp only [Decoder.first, hbyte, hmod]
  rw [if_neg (by omega), if_neg (by omega)]
  split_ifs with hzero hthirteen
  · exact ⟨0xA0, 0xBF, by simp, by omega, by omega⟩
  · exact ⟨0x80, 0x9F, rfl, by omega, by omega⟩
  · exact ⟨0x80, 0xBF, rfl, by omega, by omega⟩
  all_goals omega

theorem first_four {v : Nat} (hlow : 65535 < v) (hhigh : v < 1114112) :
    ∃ lower upper, Decoder.first (UInt8.ofNat (v / 262144 % 8 + 240)) =
        (⟨v / 262144, 3, lower, upper⟩, []) ∧
      lower ≤ v / 4096 % 64 + 128 ∧ v / 4096 % 64 + 128 ≤ upper := by
  have hbyte : (UInt8.ofNat (v / 262144 % 8 + 240)).toNat = v / 262144 + 240 := by
    rw [toNat_byte (by omega)]
    omega
  have hmod : (v / 262144 + 240) % 8 = v / 262144 := by omega
  simp only [Decoder.first, hbyte, hmod]
  rw [if_neg (by omega), if_neg (by omega), if_neg (by omega), if_neg (by omega), if_neg (by omega)]
  split_ifs with hzero hfour
  · exact ⟨0x90, 0xBF, by simp, by omega, by omega⟩
  · exact ⟨0x80, 0x8F, rfl, by omega, by omega⟩
  · exact ⟨0x80, 0xBF, rfl, by omega, by omega⟩
  · omega

theorem decode_encodeChar (c : Char) :
    Decoder.decode {} (String.utf8EncodeChar c) = ({}, [c]) := by
  have hvalid := c.valid
  simp only [UInt32.isValidChar, Nat.isValidChar] at hvalid
  have hc : Char.ofNat c.val.toNat = c := Char.ofNat_toNat c
  have hstep : ∀ b, Decoder.step {} b = Decoder.first b := fun b => rfl
  unfold String.utf8EncodeChar
  generalize c.val.toNat = v at *
  dsimp only
  -- one case for each length of the encoding, from one byte to four
  split_ifs with hone htwo hthree
  · have hv : (UInt8.ofNat v).toNat = v := toNat_byte (by omega)
    simp only [Decoder.decode, hstep, Decoder.first, hv, if_pos hone, hc]
    rfl
  · have hv : (UInt8.ofNat (v / 64 % 32 + 192)).toNat = v / 64 % 32 + 192 := toNat_byte (by omega)
    have hfirst : Decoder.first (UInt8.ofNat (v / 64 % 32 + 192)) =
      (⟨v / 64, 1, 128, 191⟩, []) := by
      simp only [Decoder.first, hv]
      rw [if_neg (by omega), if_pos (by omega)]
      congr 2
      omega
    have hlast := @step_last ⟨v / 64, 1, 128, 191⟩ (v % 64) rfl (by omega) (by dsimp only; omega)
      (by dsimp only; omega)
    have hcode : v / 64 * 64 + v % 64 = v := by omega
    simp only [Decoder.decode, hstep, hfirst, hlast, hcode, hc]
    rfl
  · obtain ⟨lower, upper, hfirst, hlower, hupper⟩ :=
      @first_three v (by omega) hthree (by omega)
    have hmore := @step_more ⟨v / 4096, 2, lower, upper⟩ (v / 64 % 64) 0 rfl (by omega) hlower
      hupper
    have hlast := @step_last ⟨v / 4096 * 64 + v / 64 % 64, 1, 128, 191⟩ (v % 64) rfl (by omega)
      (by dsimp only; omega) (by dsimp only; omega)
    have hcode : (v / 4096 * 64 + v / 64 % 64) * 64 + v % 64 = v := by omega
    simp only [Decoder.decode, hstep, hfirst, hmore, hlast, hcode, hc]
    rfl
  · obtain ⟨lower, upper, hfirst, hlower, hupper⟩ :=
      @first_four v (by omega) (by omega)
    have hmore := @step_more ⟨v / 262144, 3, lower, upper⟩ (v / 4096 % 64) 1 rfl (by omega) hlower
      hupper
    have hnext := @step_more ⟨v / 262144 * 64 + v / 4096 % 64, 2, 128, 191⟩ (v / 64 % 64) 0 rfl
      (by omega) (by dsimp only; omega) (by dsimp only; omega)
    have hlast := @step_last ⟨(v / 262144 * 64 + v / 4096 % 64) * 64 + v / 64 % 64, 1, 128, 191⟩
      (v % 64) rfl (by omega) (by dsimp only; omega) (by dsimp only; omega)
    have hcode : ((v / 262144 * 64 + v / 4096 % 64) * 64 + v / 64 % 64) * 64 + v % 64 = v := by
      omega
    simp only [Decoder.decode, hstep, hfirst, hmore, hnext, hlast, hcode, hc]
    rfl

theorem decode_encode (text : List Char) : Decoder.decode {} (encode text) = ({}, text) := by
  induction text with
  | nil => rfl
  | cons c text ih =>
    rw [encode, List.flatMap_cons, decode_append, decode_encodeChar]
    rw [encode] at ih
    rw [ih]
    rfl

theorem decodeAll_encode (text : List Char) : decodeAll (encode text) = text := by
  simp only [decodeAll, decode_encode]
  exact List.append_nil text

/-- A byte of the encoding of a text is a character of its own or part of a longer sequence. -/
theorem mem_encode {text : List Char} {byte : UInt8} (h : byte ∈ encode text) :
    (∃ c ∈ text, byte.toNat = c.toNat) ∨ 128 ≤ byte.toNat := by
  obtain ⟨c, hc, hbyte⟩ := List.mem_flatMap.mp h
  have hsmall : ∀ n < 256, (UInt8.ofNat n).toNat = n := fun n hn => toNat_byte hn
  unfold String.utf8EncodeChar at hbyte
  dsimp only at hbyte
  split_ifs at hbyte with hone
  · rw [List.mem_singleton] at hbyte
    refine .inl ⟨c, hc, ?_⟩
    rw [hbyte, hsmall _ (by omega)]
    rfl
  all_goals
    right
    simp only [List.mem_cons, List.not_mem_nil, or_false] at hbyte
  · rcases hbyte with rfl | rfl <;> rw [hsmall _ (by omega)] <;> omega
  · rcases hbyte with rfl | rfl | rfl <;> rw [hsmall _ (by omega)] <;> omega
  · rcases hbyte with rfl | rfl | rfl | rfl <;> rw [hsmall _ (by omega)] <;> omega

theorem encode_append (text more : List Char) :
    encode (text ++ more) = encode text ++ encode more :=
  List.flatMap_append

end Utf8
