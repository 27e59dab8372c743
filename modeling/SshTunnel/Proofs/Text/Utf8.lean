import SshTunnel.Text.Utf8
import Mathlib.Tactic.Common

/-!
# What strict UTF-8 accepts

The bytes of a character in front of others are one piece, and a piece that is a character
starts with the bytes of that character. So strict reading accepts exactly the bytes of texts.

## Implementation notes

The narrower ranges of `lead?` for the second byte are what keeps overlong forms, surrogates
and numbers beyond the last character out. They enter only in `encodeChar_bytes_three` and
`encodeChar_bytes_four`.
-/

namespace SshTunnel.Utf8

/-! ## Characters -/

theorem toNat_ofNat {n : Nat} (h : n.isValidChar) : (Char.ofNat n).toNat = n := by
  rw [Char.ofNat, dif_pos h]
  rfl

theorem encodeChar_one {c : Char} (h : c.toNat < 0x80) : encodeChar c = [UInt8.ofNat c.toNat] := by
  have hv : c.val.toNat = c.toNat := rfl
  simp only [encodeChar, String.utf8EncodeChar, hv]
  rw [if_pos (by omega)]

theorem encodeChar_two {c : Char} (hlow : 0x80 ≤ c.toNat) (h : c.toNat < 0x800) :
    encodeChar c = [UInt8.ofNat (c.toNat / 64 + 0xc0), UInt8.ofNat (c.toNat % 64 + 0x80)] := by
  have hv : c.val.toNat = c.toNat := rfl
  simp only [encodeChar, String.utf8EncodeChar, hv]
  rw [if_neg (by omega), if_pos (by omega), Nat.mod_eq_of_lt (by omega : c.toNat / 64 < 0x20)]

theorem encodeChar_three {c : Char} (hlow : 0x800 ≤ c.toNat) (h : c.toNat < 0x10000) :
    encodeChar c = [UInt8.ofNat (c.toNat / 4096 + 0xe0), UInt8.ofNat (c.toNat / 64 % 64 + 0x80),
      UInt8.ofNat (c.toNat % 64 + 0x80)] := by
  have hv : c.val.toNat = c.toNat := rfl
  simp only [encodeChar, String.utf8EncodeChar, hv]
  rw [if_neg (by omega), if_neg (by omega), if_pos (by omega),
    Nat.mod_eq_of_lt (by omega : c.toNat / 4096 < 0x10)]

theorem toNat_lt (c : Char) : c.toNat < 0x110000 := by
  have := c.valid
  simp [UInt32.isValidChar, Nat.isValidChar] at this
  have hv : c.val.toNat = c.toNat := rfl
  omega

theorem toNat_not_surrogate (c : Char) : c.toNat < 0xd800 ∨ 0xe000 ≤ c.toNat := by
  have := c.valid
  simp [UInt32.isValidChar, Nat.isValidChar] at this
  have hv : c.val.toNat = c.toNat := rfl
  omega

theorem encodeChar_four {c : Char} (hlow : 0x10000 ≤ c.toNat) :
    encodeChar c = [UInt8.ofNat (c.toNat / 262144 + 0xf0),
      UInt8.ofNat (c.toNat / 4096 % 64 + 0x80), UInt8.ofNat (c.toNat / 64 % 64 + 0x80),
      UInt8.ofNat (c.toNat % 64 + 0x80)] := by
  have hv : c.val.toNat = c.toNat := rfl
  have := toNat_lt c
  simp only [encodeChar, String.utf8EncodeChar, hv]
  rw [if_neg (by omega), if_neg (by omega), if_neg (by omega),
    Nat.mod_eq_of_lt (by omega : c.toNat / 262144 < 0x08)]

/-! ## One piece -/

theorem follow_zero (size bits low high : Nat) (rest : Bytes) :
    follow size bits low high 0 rest = ⟨size, .ok (Char.ofNat bits)⟩ := by
  cases rest <;> rfl

theorem follow_cons {size bits low high more : Nat} {b : UInt8} {rest : Bytes}
    (hlow : low ≤ b.toNat) (hhigh : b.toNat ≤ high) :
    follow size bits low high (more + 1) (b :: rest)
      = follow (size + 1) (64 * bits + (b.toNat - 0x80)) 0x80 0xbf more rest := by
  simp [follow, hlow, hhigh]

/-- A piece that goes on and is a character has a next byte in range. -/
theorem exists_of_follow {size bits low high more : Nat} {rest : Bytes} {c : Char}
    (h : (follow size bits low high (more + 1) rest).content = .ok c) :
    ∃ b tail, rest = b :: tail ∧ low ≤ b.toNat ∧ b.toNat ≤ high ∧
      follow size bits low high (more + 1) rest
        = follow (size + 1) (64 * bits + (b.toNat - 0x80)) 0x80 0xbf more tail := by
  cases rest with
  | nil => simp [follow] at h
  | cons b tail =>
      by_cases hb : low ≤ b.toNat ∧ b.toNat ≤ high
      · exact ⟨b, tail, rfl, hb.1, hb.2, follow_cons hb.1 hb.2⟩
      · simp [follow, hb] at h

theorem toNat_ofNat_byte {n : Nat} (h : n < 256) : (UInt8.ofNat n).toNat = n := by
  simp [Nat.mod_eq_of_lt h]

theorem lead?_one {b : Nat} (h : b < 0x80) : lead? b = some ⟨0, b, 0x80, 0xbf⟩ := by
  rw [lead?, if_pos h]

theorem lead?_two {b : Nat} (hlow : 0xc2 ≤ b) (h : b < 0xe0) :
    lead? b = some ⟨1, b - 0xc0, 0x80, 0xbf⟩ := by
  rw [lead?, if_neg (by omega), if_neg (by omega), if_pos h]

theorem lead?_three {b : Nat} (hlow : 0xe0 ≤ b) (h : b < 0xf0) :
    lead? b = some ⟨2, b - 0xe0, if b = 0xe0 then 0xa0 else 0x80,
      if b = 0xed then 0x9f else 0xbf⟩ := by
  rw [lead?, if_neg (by omega), if_neg (by omega), if_neg (by omega), if_pos h]

theorem lead?_four {b : Nat} (hlow : 0xf0 ≤ b) (h : b < 0xf5) :
    lead? b = some ⟨3, b - 0xf0, if b = 0xf0 then 0x90 else 0x80,
      if b = 0xf4 then 0x8f else 0xbf⟩ := by
  rw [lead?, if_neg (by omega), if_neg (by omega), if_neg (by omega), if_neg (by omega), if_pos h]

theorem piece_eq_follow {b : UInt8} {more bits low high : Nat}
    (h : lead? b.toNat = some ⟨more, bits, low, high⟩) (rest : Bytes) :
    piece b rest = follow 1 bits low high more rest := by
  rw [piece, h]

/-- A byte behind the first one goes on with its low six bits. -/
theorem follow_ofNat {size bits low high more d : Nat} {rest : Bytes} (hd : d < 64)
    (hlow : low ≤ d + 0x80) (hhigh : d + 0x80 ≤ high) :
    follow size bits low high (more + 1) (UInt8.ofNat (d + 0x80) :: rest)
      = follow (size + 1) (64 * bits + d) 0x80 0xbf more rest := by
  have hbyte : (UInt8.ofNat (d + 0x80)).toNat = d + 0x80 := toNat_ofNat_byte (by omega)
  rw [follow_cons (by omega) (by omega), hbyte, Nat.add_sub_cancel]

/-- The bytes of a character in front of others are one piece. -/
theorem piece_encodeChar {c : Char} {b : UInt8} {more : Bytes} (h : encodeChar c = b :: more)
    (tail : Bytes) : piece b (more ++ tail) = ⟨more.length + 1, .ok c⟩ := by
  have hlt := toNat_lt c
  have hscalar := toNat_not_surrogate c
  by_cases hone : c.toNat < 0x80
  · rw [encodeChar_one hone] at h
    obtain ⟨rfl, rfl⟩ := List.cons.inj h
    rw [piece, toNat_ofNat_byte (by omega), lead?_one hone]
    simp only [follow_zero, Char.ofNat_toNat]
    rfl
  by_cases htwo : c.toNat < 0x800
  · rw [encodeChar_two (by omega) htwo] at h
    obtain ⟨rfl, rfl⟩ := List.cons.inj h
    rw [piece, toNat_ofNat_byte (by omega), lead?_two (by omega) (by omega)]
    simp only [List.cons_append, List.nil_append]
    rw [follow_ofNat (by omega) (by omega) (by omega), follow_zero]
    have hbits : 64 * (c.toNat / 64 + 0xc0 - 0xc0) + c.toNat % 64 = c.toNat := by omega
    rw [hbits, Char.ofNat_toNat]
    rfl
  by_cases hthree : c.toNat < 0x10000
  · rw [encodeChar_three (by omega) hthree] at h
    obtain ⟨rfl, rfl⟩ := List.cons.inj h
    rw [piece, toNat_ofNat_byte (by omega), lead?_three (by omega) (by omega)]
    simp only [List.cons_append, List.nil_append]
    rw [follow_ofNat (by omega) (by split <;> omega) (by split <;> omega),
      follow_ofNat (by omega) (by omega) (by omega), follow_zero]
    have hbits : 64 * (64 * (c.toNat / 4096 + 0xe0 - 0xe0) + c.toNat / 64 % 64) + c.toNat % 64
        = c.toNat := by omega
    rw [hbits, Char.ofNat_toNat]
    rfl
  · rw [encodeChar_four (by omega)] at h
    obtain ⟨rfl, rfl⟩ := List.cons.inj h
    rw [piece, toNat_ofNat_byte (by omega), lead?_four (by omega) (by omega)]
    simp only [List.cons_append, List.nil_append]
    rw [follow_ofNat (by omega) (by split <;> omega) (by split <;> omega),
      follow_ofNat (by omega) (by omega) (by omega),
      follow_ofNat (by omega) (by omega) (by omega), follow_zero]
    have hbits : 64 * (64 * (64 * (c.toNat / 262144 + 0xf0 - 0xf0) + c.toNat / 4096 % 64)
        + c.toNat / 64 % 64) + c.toNat % 64 = c.toNat := by omega
    rw [hbits, Char.ofNat_toNat]
    rfl

theorem byte_eq {b : UInt8} {n : Nat} (h : b.toNat = n) : b = UInt8.ofNat n := by
  rw [← h, UInt8.ofNat_toNat]

theorem encodeChar_bytes_two {b b₁ : UInt8} (hlow : 0xc2 ≤ b.toNat) (hhigh : b.toNat < 0xe0)
    (hlow₁ : 0x80 ≤ b₁.toNat) (hhigh₁ : b₁.toNat ≤ 0xbf) :
    encodeChar (Char.ofNat (64 * (b.toNat - 0xc0) + (b₁.toNat - 0x80))) = [b, b₁] := by
  generalize hv : 64 * (b.toNat - 0xc0) + (b₁.toNat - 0x80) = v
  have hc : (Char.ofNat v).toNat = v := toNat_ofNat (by simp [Nat.isValidChar]; omega)
  rw [encodeChar_two (by omega) (by omega), hc, byte_eq (b := b) (n := v / 64 + 0xc0) (by omega),
    byte_eq (b := b₁) (n := v % 64 + 0x80) (by omega)]

theorem encodeChar_bytes_three {b b₁ b₂ : UInt8} (hlow : 0xe0 ≤ b.toNat) (hhigh : b.toNat < 0xf0)
    (hlow₁ : (if b.toNat = 0xe0 then 0xa0 else 0x80) ≤ b₁.toNat)
    (hhigh₁ : b₁.toNat ≤ if b.toNat = 0xed then 0x9f else 0xbf)
    (hlow₂ : 0x80 ≤ b₂.toNat) (hhigh₂ : b₂.toNat ≤ 0xbf) :
    encodeChar (Char.ofNat (64 * (64 * (b.toNat - 0xe0) + (b₁.toNat - 0x80))
      + (b₂.toNat - 0x80))) = [b, b₁, b₂] := by
  have hfirst : 0x80 ≤ b₁.toNat ∧ (b.toNat = 0xe0 → 0xa0 ≤ b₁.toNat) ∧ b₁.toNat ≤ 0xbf ∧
      (b.toNat = 0xed → b₁.toNat ≤ 0x9f) := by
    split at hlow₁ <;> split at hhigh₁ <;> omega
  generalize hv : 64 * (64 * (b.toNat - 0xe0) + (b₁.toNat - 0x80)) + (b₂.toNat - 0x80) = v
  have hc : (Char.ofNat v).toNat = v := toNat_ofNat (by simp [Nat.isValidChar]; omega)
  rw [encodeChar_three (by omega) (by omega), hc,
    byte_eq (b := b) (n := v / 4096 + 0xe0) (by omega),
    byte_eq (b := b₁) (n := v / 64 % 64 + 0x80) (by omega),
    byte_eq (b := b₂) (n := v % 64 + 0x80) (by omega)]

theorem encodeChar_bytes_four {b b₁ b₂ b₃ : UInt8} (hlow : 0xf0 ≤ b.toNat)
    (hhigh : b.toNat < 0xf5) (hlow₁ : (if b.toNat = 0xf0 then 0x90 else 0x80) ≤ b₁.toNat)
    (hhigh₁ : b₁.toNat ≤ if b.toNat = 0xf4 then 0x8f else 0xbf)
    (hlow₂ : 0x80 ≤ b₂.toNat) (hhigh₂ : b₂.toNat ≤ 0xbf)
    (hlow₃ : 0x80 ≤ b₃.toNat) (hhigh₃ : b₃.toNat ≤ 0xbf) :
    encodeChar (Char.ofNat (64 * (64 * (64 * (b.toNat - 0xf0) + (b₁.toNat - 0x80))
      + (b₂.toNat - 0x80)) + (b₃.toNat - 0x80))) = [b, b₁, b₂, b₃] := by
  have hfirst : 0x80 ≤ b₁.toNat ∧ (b.toNat = 0xf0 → 0x90 ≤ b₁.toNat) ∧ b₁.toNat ≤ 0xbf ∧
      (b.toNat = 0xf4 → b₁.toNat ≤ 0x8f) := by
    split at hlow₁ <;> split at hhigh₁ <;> omega
  generalize hv : 64 * (64 * (64 * (b.toNat - 0xf0) + (b₁.toNat - 0x80)) + (b₂.toNat - 0x80))
    + (b₃.toNat - 0x80) = v
  have hc : (Char.ofNat v).toNat = v := toNat_ofNat (by simp [Nat.isValidChar]; omega)
  rw [encodeChar_four (by omega), hc,
    byte_eq (b := b) (n := v / 262144 + 0xf0) (by omega),
    byte_eq (b := b₁) (n := v / 4096 % 64 + 0x80) (by omega),
    byte_eq (b := b₂) (n := v / 64 % 64 + 0x80) (by omega),
    byte_eq (b := b₃) (n := v % 64 + 0x80) (by omega)]

/-- A piece that is a character starts with its bytes. -/
theorem encodeChar_of_piece {b : UInt8} {rest : Bytes} {c : Char}
    (h : (piece b rest).content = .ok c) :
    ∃ more tail, encodeChar c = b :: more ∧ rest = more ++ tail := by
  by_cases hone : b.toNat < 0x80
  · rw [piece_eq_follow (lead?_one hone), follow_zero] at h
    obtain rfl : Char.ofNat b.toNat = c := by simpa using h
    have hc : (Char.ofNat b.toNat).toNat = b.toNat :=
      toNat_ofNat (by simp [Nat.isValidChar]; omega)
    refine ⟨[], rest, ?_, rfl⟩
    rw [encodeChar_one (by omega), hc, UInt8.ofNat_toNat]
  by_cases hbad : b.toNat < 0xc2
  · have hnone : lead? b.toNat = none := by rw [lead?, if_neg hone, if_pos hbad]
    rw [piece, hnone] at h
    cases h
  by_cases htwo : b.toNat < 0xe0
  · rw [piece_eq_follow (lead?_two (by omega) htwo)] at h
    obtain ⟨b₁, tail, rfl, hlow₁, hhigh₁, hnext₁⟩ := exists_of_follow h
    rw [hnext₁, follow_zero] at h
    obtain rfl := Except.ok.inj h
    exact ⟨[b₁], tail, encodeChar_bytes_two (by omega) htwo hlow₁ hhigh₁, rfl⟩
  by_cases hthree : b.toNat < 0xf0
  · rw [piece_eq_follow (lead?_three (by omega) hthree)] at h
    obtain ⟨b₁, tail₁, rfl, hlow₁, hhigh₁, hnext₁⟩ := exists_of_follow h
    rw [hnext₁] at h
    obtain ⟨b₂, tail, rfl, hlow₂, hhigh₂, hnext₂⟩ := exists_of_follow h
    rw [hnext₂, follow_zero] at h
    obtain rfl := Except.ok.inj h
    exact ⟨[b₁, b₂], tail,
      encodeChar_bytes_three (by omega) hthree hlow₁ hhigh₁ hlow₂ hhigh₂, rfl⟩
  by_cases hfour : b.toNat < 0xf5
  · rw [piece_eq_follow (lead?_four (by omega) hfour)] at h
    obtain ⟨b₁, tail₁, rfl, hlow₁, hhigh₁, hnext₁⟩ := exists_of_follow h
    rw [hnext₁] at h
    obtain ⟨b₂, tail₂, rfl, hlow₂, hhigh₂, hnext₂⟩ := exists_of_follow h
    rw [hnext₂] at h
    obtain ⟨b₃, tail, rfl, hlow₃, hhigh₃, hnext₃⟩ := exists_of_follow h
    rw [hnext₃, follow_zero] at h
    obtain rfl := Except.ok.inj h
    exact ⟨[b₁, b₂, b₃], tail,
      encodeChar_bytes_four (by omega) hfour hlow₁ hhigh₁ hlow₂ hhigh₂ hlow₃ hhigh₃, rfl⟩
  · have hnone : lead? b.toNat = none := by
      rw [lead?, if_neg hone, if_neg hbad, if_neg htwo, if_neg hthree, if_neg hfour]
    rw [piece, hnone] at h
    cases h

/-! ## All pieces -/

theorem piecesAfter_eq_drop (skip : Nat) (bytes : Bytes) :
    piecesAfter skip bytes = piecesAfter 0 (bytes.drop skip) := by
  induction bytes generalizing skip with
  | nil => cases skip <;> rfl
  | cons b rest ih =>
      cases skip with
      | zero => rfl
      | succ skip => exact ih skip

/-- Decoding from an offset goes on piece by piece. -/
theorem assemble_pieces_cons (start : Nat) (b : UInt8) (rest : Bytes) :
    assemble start (b :: rest) (pieces (b :: rest)) =
      match (piece b rest).content with
      | .error flaw => .error ⟨flaw, b, start, (piece b rest).size⟩
      | .ok c => (assemble (start + (piece b rest).size) ((b :: rest).drop (piece b rest).size)
          (pieces (rest.drop ((piece b rest).size - 1)))).map (c :: ·) := by
  rw [pieces, piecesAfter, assemble, piecesAfter_eq_drop]
  rfl

theorem assemble_encode (start : Nat) (t : Text) :
    assemble start (encode t) (pieces (encode t)) = .ok t := by
  induction t generalizing start with
  | nil => rfl
  | cons c t ih =>
      obtain ⟨b, more, hbytes⟩ := List.exists_cons_of_ne_nil (String.utf8EncodeChar_ne_nil (c := c))
      have hchar : encodeChar c = b :: more := hbytes
      have hencode : encode (c :: t) = b :: (more ++ encode t) := by
        rw [encode, List.flatMap_cons, hchar, ← encode]
        rfl
      rw [hencode, assemble_pieces_cons, piece_encodeChar hchar]
      simp only [Nat.add_sub_cancel, List.drop_succ_cons, List.drop_left, ih, Except.map]

theorem eq_encode_of_assemble {start : Nat} {bytes : Bytes} {t : Text}
    (h : assemble start bytes (pieces bytes) = .ok t) : bytes = encode t := by
  induction hlength : bytes.length using Nat.strongRecOn generalizing start bytes t with
  | ind n ih =>
      cases bytes with
      | nil =>
          cases h
          rfl
      | cons b rest =>
          rw [assemble_pieces_cons] at h
          cases hcontent : (piece b rest).content with
          | error flaw =>
              rw [hcontent] at h
              cases h
          | ok c =>
              obtain ⟨more, tail, hchar, rfl⟩ := encodeChar_of_piece hcontent
              rw [piece_encodeChar hchar] at h
              simp only [Nat.add_sub_cancel, List.drop_succ_cons, List.drop_left] at h
              cases hmore : assemble (start + (more.length + 1)) tail (pieces tail) with
              | error e =>
                  rw [hmore] at h
                  cases h
              | ok u =>
                  rw [hmore] at h
                  obtain rfl : c :: u = t := Except.ok.inj h
                  have htail : tail = encode u := by
                    refine ih tail.length ?_ hmore rfl
                    rw [← hlength, List.length_cons, List.length_append]
                    omega
                  rw [htail, encode, encode, List.flatMap_cons, hchar]
                  rfl

/-- Strict reading accepts exactly the bytes of texts, and gives the text. -/
theorem decode_eq_ok_iff (bytes : Bytes) (t : Text) : decode bytes = .ok t ↔ bytes = encode t := by
  constructor
  · intro h
    exact eq_encode_of_assemble h
  · rintro rfl
    exact assemble_encode 0 t

/-! ## Lossy reading -/

theorem map_content_of_assemble {start : Nat} {bytes : Bytes} {ps : List Piece} {t : Text}
    (h : assemble start bytes ps = .ok t) (replacement : Char) :
    ps.map (fun p => p.content.toOption.getD replacement) = t := by
  induction ps generalizing start bytes t with
  | nil =>
      cases h
      rfl
  | cons p more ih =>
      rw [assemble] at h
      cases hcontent : p.content with
      | error flaw =>
          rw [hcontent] at h
          cases h
      | ok c =>
          simp only [hcontent] at h
          cases hmore : assemble (start + p.size) (bytes.drop p.size) more with
          | error e =>
              rw [hmore] at h
              cases h
          | ok u =>
              rw [hmore] at h
              obtain rfl : c :: u = t := Except.ok.inj h
              rw [List.map_cons, ih hmore, hcontent]
              rfl

/-- The bytes of a text lose nothing in the lossy reading. -/
theorem decodeLossy_encode (t : Text) : decodeLossy (encode t) = t :=
  map_content_of_assemble (assemble_encode 0 t) _

end SshTunnel.Utf8
