import SshTunnel.Base64
import Mathlib.Tactic.Common

/-!
# Base64 read back

What is written for some bytes is read as these bytes, strictly and hence also leniently. Three
bytes are four characters of the alphabet, and padding stands only behind the last group.
-/

namespace SshTunnel.Base64

/-! ## The alphabet -/

theorem value?_digit : ∀ v < 64, value? (digit v) = some v := by decide

theorem digit_ne_padding : ∀ v < 64, digit v ≠ '=' := by decide

theorem toNat_digit_lt : ∀ v < 64, (digit v).toNat < 0x80 := by decide

/-! ## Reading -/

/-- A character of the alphabet goes into the group. -/
theorem decodeFrom_digit {v : Nat} (hv : v < 64) {g : Group} (hg : g.padded = false)
    (written : Nat) (rest : Text) :
    decodeFrom true g written (digit v :: rest) =
      (decodeFrom true (g.push v).1 (written + (g.push v).2.length) rest).map
        ((g.push v).2 ++ ·) := by
  simp [decodeFrom, value?_digit v hv, digit_ne_padding v hv, hg]

theorem byte_of_sum {b : UInt8} {n : Nat} (h : n = b.toNat) : UInt8.ofNat n = b := by
  rw [h, UInt8.ofNat_toNat]

theorem map_map {α β γ : Type} (f : α → β) (g : β → γ) (r : Except Flaw α) :
    (r.map f).map g = r.map (g ∘ f) := by
  cases r <;> rfl

/-- Two characters complete one byte. -/
theorem decodeFrom_two {u v : Nat} (hu : u < 64) (hv : v < 64) (written : Nat) (rest : Text) :
    decodeFrom true Group.empty written (digit u :: digit v :: rest) =
      (decodeFrom true ⟨2, v % 16, 0, false⟩ (written + 1) rest).map
        (UInt8.ofNat (u * 4 + v / 16) :: ·) := by
  rw [decodeFrom_digit hu rfl, decodeFrom_digit hv rfl, map_map]
  rfl

/-- Three characters complete two bytes. -/
theorem decodeFrom_three {u v x : Nat} (hu : u < 64) (hv : v < 64) (hx : x < 64)
    (written : Nat) (rest : Text) :
    decodeFrom true Group.empty written (digit u :: digit v :: digit x :: rest) =
      (decodeFrom true ⟨3, x % 4, 0, false⟩ (written + 2) rest).map fun more =>
        UInt8.ofNat (u * 4 + v / 16) :: UInt8.ofNat (v % 16 * 16 + x / 4) :: more := by
  rw [decodeFrom_two hu hv, decodeFrom_digit hx rfl, map_map]
  rfl

/-- Four characters complete three bytes. -/
theorem decodeFrom_four {u v x y : Nat} (hu : u < 64) (hv : v < 64) (hx : x < 64) (hy : y < 64)
    (written : Nat) (rest : Text) :
    decodeFrom true Group.empty written (digit u :: digit v :: digit x :: digit y :: rest) =
      (decodeFrom true Group.empty (written + 3) rest).map fun more =>
        UInt8.ofNat (u * 4 + v / 16) :: UInt8.ofNat (v % 16 * 16 + x / 4)
          :: UInt8.ofNat (x % 4 * 64 + y) :: more := by
  rw [decodeFrom_three hu hv hx, decodeFrom_digit hy rfl, map_map]
  rfl

theorem decodeFrom_encode (bytes : Bytes) (written : Nat) :
    decodeFrom true Group.empty written (encode bytes) = .ok bytes := by
  induction bytes using encode.induct generalizing written with
  | case1 => rfl
  | case2 a =>
      have ha : a.toNat < 256 := a.toNat_lt
      rw [encode, decodeFrom_two (by omega) (by omega), byte_of_sum (b := a) (by omega)]
      rfl
  | case3 a b =>
      have ha : a.toNat < 256 := a.toNat_lt
      have hb : b.toNat < 256 := b.toNat_lt
      rw [encode, decodeFrom_three (by omega) (by omega) (by omega),
        byte_of_sum (b := a) (by omega), byte_of_sum (b := b) (by omega)]
      rfl
  | case4 a b c rest ih =>
      have ha : a.toNat < 256 := a.toNat_lt
      have hb : b.toNat < 256 := b.toNat_lt
      have hc : c.toNat < 256 := c.toNat_lt
      rw [encode, decodeFrom_four (by omega) (by omega) (by omega) (by omega), ih,
        byte_of_sum (b := a) (by omega), byte_of_sum (b := b) (by omega),
        byte_of_sum (b := c) (by omega)]
      rfl

/-! ## The written text -/

/-- The number of padding characters behind `n` bytes. -/
def paddingLength (n : Nat) : Nat := (3 - n % 3) % 3

/-- The bytes are written as characters of the alphabet, six bits each, and the padding. -/
theorem exists_encode (bytes : Bytes) :
    ∃ digits, encode bytes = digits ++ List.replicate (paddingLength bytes.length) '=' ∧
      digits.length = (4 * bytes.length + 2) / 3 ∧ ∀ c ∈ digits, ∃ v < 64, c = digit v := by
  induction bytes using encode.induct with
  | case1 => exact ⟨[], rfl, rfl, by simp⟩
  | case2 a =>
      have ha : a.toNat < 256 := a.toNat_lt
      refine ⟨[_, _], rfl, by simp, ?_⟩
      simp only [List.forall_mem_cons, List.not_mem_nil, false_implies, implies_true, and_true]
      exact ⟨⟨_, by omega, rfl⟩, ⟨_, by omega, rfl⟩⟩
  | case3 a b =>
      have ha : a.toNat < 256 := a.toNat_lt
      have hb : b.toNat < 256 := b.toNat_lt
      refine ⟨[_, _, _], rfl, by simp, ?_⟩
      simp only [List.forall_mem_cons, List.not_mem_nil, false_implies, implies_true, and_true]
      exact ⟨⟨_, by omega, rfl⟩, ⟨_, by omega, rfl⟩, ⟨_, by omega, rfl⟩⟩
  | case4 a b c rest ih =>
      have ha : a.toNat < 256 := a.toNat_lt
      have hb : b.toNat < 256 := b.toNat_lt
      have hc : c.toNat < 256 := c.toNat_lt
      obtain ⟨digits, hencode, hlength, hdigits⟩ := ih
      have hpadding : paddingLength (a :: b :: c :: rest).length = paddingLength rest.length := by
        simp only [paddingLength, List.length_cons]
        omega
      rw [encode, hencode, hpadding]
      refine ⟨_ :: _ :: _ :: _ :: digits, rfl, ?_, ?_⟩
      · simp only [List.length_cons, hlength]
        omega
      · simp only [List.forall_mem_cons]
        exact ⟨⟨_, by omega, rfl⟩, ⟨_, by omega, rfl⟩, ⟨_, by omega, rfl⟩, ⟨_, by omega, rfl⟩,
          hdigits⟩

/-- Only characters of the alphabet and padding are written. -/
theorem mem_encode {bytes : Bytes} {c : Char} (h : c ∈ encode bytes) :
    c = '=' ∨ ∃ v < 64, c = digit v := by
  obtain ⟨digits, hencode, -, hdigits⟩ := exists_encode bytes
  rw [hencode, List.mem_append] at h
  rcases h with h | h
  · exact Or.inr (hdigits c h)
  · exact Or.inl (List.eq_of_mem_replicate h)

theorem notMem_encode {c : Char} (h : c ≠ '=' ∧ ∀ v < 64, digit v ≠ c) (bytes : Bytes) :
    c ∉ encode bytes := by
  intro hc
  rcases mem_encode hc with rfl | ⟨v, hv, rfl⟩
  · exact h.1 rfl
  · exact h.2 v hv rfl

theorem head?_encode_ne (bytes : Bytes) : (encode bytes).head? ≠ some '=' := by
  have hfirst : ∀ v < 64, some (digit v) ≠ some '=' := by
    intro v hv h
    exact digit_ne_padding v hv (Option.some.inj h)
  rcases bytes with - | ⟨a, - | ⟨b, - | ⟨c, rest⟩⟩⟩
  · simp [encode]
  · exact hfirst _ (by have := a.toNat_lt; omega)
  · exact hfirst _ (by have := a.toNat_lt; have := b.toNat_lt; omega)
  · exact hfirst _ (by have := a.toNat_lt; have := b.toNat_lt; have := c.toNat_lt; omega)

theorem encode_ne_nil {bytes : Bytes} (h : bytes ≠ []) : encode bytes ≠ [] := by
  rcases bytes with - | ⟨a, - | ⟨b, - | ⟨c, rest⟩⟩⟩
  · exact absurd rfl h
  · simp [encode]
  · simp [encode]
  · simp [encode]

/-- Strict reading gives back the bytes that were written. -/
theorem decode_encode (bytes : Bytes) : decode (encode bytes) = .ok bytes := by
  have hascii : (encode bytes).all (·.toNat < 0x80) = true := by
    rw [List.all_eq_true]
    intro c hc
    rcases mem_encode hc with rfl | ⟨v, hv, rfl⟩
    · decide
    · simpa using toNat_digit_lt v hv
  rw [decode, decodeText, if_pos hascii, decodeAscii]
  simp only [head?_encode_ne, decide_false, Bool.and_false, Bool.false_eq_true, ↓reduceIte]
  exact decodeFrom_encode bytes 0

/-! ## The lenient reading -/

/-- What is read strictly is read leniently in the same way. -/
theorem decodeFrom_lenient {g : Group} {written : Nat} {t : Text} {bytes : Bytes}
    (h : decodeFrom true g written t = .ok bytes) : decodeFrom false g written t = .ok bytes := by
  induction t generalizing g written bytes with
  | nil => exact h
  | cons c rest ih =>
      simp only [decodeFrom, Bool.true_and, Bool.false_and, Bool.false_eq_true,
        ↓reduceIte] at h ⊢
      by_cases hpad : c = '='
      · rw [if_pos hpad] at h ⊢
        by_cases hfull : g.pad.isFull = true
        · rw [if_pos hfull] at h ⊢
          split at h
          · cases h
          · exact h
        · rw [if_neg hfull] at h ⊢
          exact ih h
      · rw [if_neg hpad] at h ⊢
        cases hvalue : value? c with
        | none =>
            rw [hvalue] at h
            cases h
        | some v =>
            simp only [hvalue] at h
            split at h
            · cases h
            · cases hmore : decodeFrom true (g.push v).1 (written + (g.push v).2.length) rest with
              | error flaw =>
                  rw [hmore] at h
                  cases h
              | ok more =>
                  rw [hmore] at h
                  simp only [ih hmore]
                  exact h

theorem decodeLenient_of_decode {t : Text} {bytes : Bytes} (h : decode t = .ok bytes) :
    decodeLenient t = .ok bytes := by
  rw [decode, decodeText] at h
  rw [decodeLenient, decodeText]
  by_cases hascii : t.all (·.toNat < 0x80) = true
  · rw [if_pos hascii, decodeAscii] at h ⊢
    split at h
    · cases h
    · exact decodeFrom_lenient h
  · rw [if_neg hascii] at h
    cases h

theorem decodeLenient_encode (bytes : Bytes) : decodeLenient (encode bytes) = .ok bytes :=
  decodeLenient_of_decode (decode_encode bytes)

/-! ## Without padding -/

/-- The base64 text of the bytes without its padding. -/
def unpadded (bytes : Bytes) : Text := Text.dropEnd (· = '=') (encode bytes)

theorem dropEnd_padding {digits : Text} (h : '=' ∉ digits) (n : Nat) :
    Text.dropEnd (· = '=') (digits ++ List.replicate n '=') = digits := by
  have hpadding : ∀ c ∈ List.replicate n '=', decide (c = '=') = true :=
    fun c hc => decide_eq_true (List.eq_of_mem_replicate hc)
  have hdigits : digits.reverse.dropWhile (· = '=') = digits.reverse := by
    cases hreverse : digits.reverse with
    | nil => rfl
    | cons c more =>
        have hc : c ∈ digits := by
          rw [← List.mem_reverse, hreverse]
          exact List.mem_cons_self
        have hne : c ≠ '=' := fun heq => h (heq ▸ hc)
        simp [hne]
  rw [Text.dropEnd, List.reverse_append, List.reverse_replicate,
    List.dropWhile_append_of_pos hpadding, hdigits, List.reverse_reverse]

/-- The text without its padding is made of characters of the alphabet, six bits each, and the
padding completes it. -/
theorem unpadded_spec (bytes : Bytes) :
    encode bytes = unpadded bytes ++ List.replicate (paddingLength bytes.length) '=' ∧
      (unpadded bytes).length = (4 * bytes.length + 2) / 3 ∧
      ∀ c ∈ unpadded bytes, ∃ v < 64, c = digit v := by
  obtain ⟨digits, hencode, hlength, hdigits⟩ := exists_encode bytes
  have hnot : '=' ∉ digits := by
    intro hmem
    obtain ⟨v, hv, heq⟩ := hdigits '=' hmem
    exact digit_ne_padding v hv heq.symm
  have hunpadded : unpadded bytes = digits := by
    rw [unpadded, hencode, dropEnd_padding hnot]
  rw [hunpadded]
  exact ⟨hencode, hlength, hdigits⟩

/-- With the padding restored the bytes are read back. -/
theorem decode_unpadded (bytes : Bytes) :
    decode (unpadded bytes ++ List.replicate (paddingLength bytes.length) '=') = .ok bytes := by
  rw [← (unpadded_spec bytes).1, decode_encode]

/-- No two strings of bytes are the same without padding: the length tells how much is missing. -/
theorem unpadded_injective : Function.Injective unpadded := by
  intro bytes other h
  have hlength : bytes.length = other.length := by
    have hbytes := (unpadded_spec bytes).2.1
    have hother := (unpadded_spec other).2.1
    rw [h] at hbytes
    omega
  have hread := decode_unpadded bytes
  rw [h, hlength, decode_unpadded] at hread
  exact (Except.ok.inj hread).symm

end SshTunnel.Base64
