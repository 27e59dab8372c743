import SshTunnel.Key.Library
import SshTunnel.Proofs.Base64

/-!
# Fingerprints

A fingerprint is the digest of a key's blob in base64 without the padding. The padding of 32 bytes
is one character, so the digest can be read back, and keys with other digests have other
fingerprints.
-/

namespace SshTunnel.PublicKey

open Hash

/-- The 256 bits of the digest that a fingerprint shows. -/
def shownDigest (key : PublicKey) : Bytes := Sha2.digest Sha2.sha256 key.blob

theorem length_shownDigest (key : PublicKey) : key.shownDigest.length = 32 :=
  Sha2.length_digest Sha2.sha256 key.blob

theorem fingerprint_eq (key : PublicKey) :
    key.fingerprint = "SHA256:".toList ++ Base64.unpadded key.shownDigest := rfl

theorem fingerprint_eq_iff (key other : PublicKey) :
    key.fingerprint = other.fingerprint ↔ key.shownDigest = other.shownDigest := by
  rw [fingerprint_eq, fingerprint_eq, List.append_cancel_left_eq, Base64.unpadded_injective.eq_iff]

/-- A fingerprint is its label and 43 characters of the base64 alphabet, which with one padding
character are read as the SHA-256 digest of the blob. So two keys have the same fingerprint just
when their blobs have the same digest. -/
theorem fingerprint_carriesDigest (key : PublicKey) :
    (∃ digits, key.fingerprint = "SHA256:".toList ++ digits ∧ digits.length = 43 ∧
      (∀ c ∈ digits, (Base64.value? c).isSome = true ∧ c ≠ '=') ∧
      Base64.decode (digits ++ ['=']) = .ok (Sha2.digest Sha2.sha256 key.blob) ∧
      (Sha2.digest Sha2.sha256 key.blob).length = 32) ∧
    ∀ other : PublicKey, key.fingerprint = other.fingerprint ↔
      Sha2.digest Sha2.sha256 key.blob = Sha2.digest Sha2.sha256 other.blob := by
  refine ⟨⟨Base64.unpadded key.shownDigest, key.fingerprint_eq, ?_, ?_, ?_,
    key.length_shownDigest⟩, key.fingerprint_eq_iff⟩
  · rw [(Base64.unpadded_spec key.shownDigest).2.1, length_shownDigest]
  · intro c hc
    obtain ⟨v, hv, rfl⟩ := (Base64.unpadded_spec key.shownDigest).2.2 c hc
    exact ⟨by rw [Base64.value?_digit v hv, Option.isSome_some], Base64.digit_ne_padding v hv⟩
  · have hread := Base64.decode_unpadded key.shownDigest
    rw [length_shownDigest] at hread
    exact hread

end SshTunnel.PublicKey
