import SshTunnel.Proofs.Base64
import SshTunnel.Proofs.KnownHosts.Loading
import SshTunnel.Proofs.Text.Lines

/-!
# Unmarked lines with a key

A line of hosts and a key, with single spaces between its fields, is read back as its entry,
and a text of such lines as their entries, in order.
-/

namespace SshTunnel

/-- A key that the library finds in the key's own blob. The name of its algorithm is a word, and
the blob is not empty, so that both are fields of a line. -/
structure Key.Library.Knows (lib : Key.Library) (key : PublicKey) : Prop where
  decoded : lib.decodePublic key.blob = .ok key
  algorithm_ne_nil : key.algorithm ≠ []
  algorithm_not_blank : ∀ c ∈ key.algorithm, Text.isBlank c = false
  blob_ne_nil : key.blob ≠ []

namespace KnownHosts

variable {lib : Key.Library}

/-- The hosts and the key of an unmarked line. -/
structure KeyLine (lib : Key.Library) where
  hosts : Text
  key : PublicKey
  hosts_ne_nil : hosts ≠ []
  hosts_not_blank : ∀ c ∈ hosts, Text.isBlank c = false
  not_marker : hosts.head? ≠ some '@'
  not_comment : hosts.head? ≠ some '#'
  known : lib.Knows key

/-- The text of a line. -/
def KeyLine.text (line : KeyLine lib) : Text :=
  line.hosts ++ ' ' :: (line.key.algorithm ++ ' ' :: Base64.encode line.key.blob)

/-- The entry that a line with this number writes. -/
def KeyLine.entry (line : KeyLine lib) (number : Nat) : Entry :=
  ⟨hostList line.hosts, line.key.algorithm, line.key.blob, .none, number⟩

/-- The text of lines, each ended by a line feed. -/
def storeText (ls : List (KeyLine lib)) : Text := ls.flatMap fun line => line.text ++ ['\n']

/-! ## The fields -/

/-- The test of a text for blanks, where the characters of the text are known. -/
theorem not_blank_of_all {t : Text} (h : (t.all fun c => !Text.isBlank c) = true) :
    ∀ c ∈ t, Text.isBlank c = false := by
  simpa using h

/-- A key with zeros only is one for the library that programs are run with. -/
theorem knows_zeroKey : OpenSsh.library.Knows zeroKey where
  decoded := by decide +kernel
  algorithm_ne_nil := by decide
  algorithm_not_blank := not_blank_of_all (by decide)
  blob_ne_nil := by decide

theorem isBlank_encode {bytes : Bytes} {c : Char} (h : c ∈ Base64.encode bytes) :
    Text.isBlank c = false := by
  have hdigits : ∀ v < 64, Text.isBlank (Base64.digit v) = false := by decide
  rcases Base64.mem_encode h with rfl | ⟨v, hv, rfl⟩
  · decide
  · exact hdigits v hv

/-! ## One line -/

namespace KeyLine

theorem data_ne_nil (line : KeyLine lib) : Base64.encode line.key.blob ≠ [] :=
  Base64.encode_ne_nil line.known.blob_ne_nil

theorem words_text (line : KeyLine lib) : Text.words line.text =
    [line.hosts, line.key.algorithm, Base64.encode line.key.blob] := by
  rw [text, Text.words_append_blank line.hosts_ne_nil line.hosts_not_blank (by decide),
    Text.words_append_blank line.known.algorithm_ne_nil line.known.algorithm_not_blank (by decide),
    Text.words_of_not_blank line.data_ne_nil (fun c hc => isBlank_encode hc)]

theorem head?_text (line : KeyLine lib) : line.text.head? = line.hosts.head? := by
  rw [text, List.head?_append_of_ne_nil _ line.hosts_ne_nil]

theorem trim_text (line : KeyLine lib) : Text.trim line.text = line.text := by
  apply Text.trim_eq_self
  · intro c hc
    rw [head?_text] at hc
    exact line.hosts_not_blank c (List.mem_of_mem_head? hc)
  · intro c hc
    have hends : line.text = (line.hosts ++ ' ' :: (line.key.algorithm ++ [' ']))
        ++ Base64.encode line.key.blob := by simp [text]
    rw [hends, List.getLast?_append_of_ne_nil _ line.data_ne_nil] at hc
    exact isBlank_encode (List.mem_of_mem_getLast? hc)

theorem isSignificant_text (line : KeyLine lib) : isSignificant line.text = true := by
  have hne : line.text ≠ [] := by simp [text]
  have hhead : line.text.head? ≠ some '#' := by
    rw [head?_text]
    exact line.not_comment
  simp [isSignificant, hne, hhead]

/-- A line records its entry. -/
theorem records_text (line : KeyLine lib) (number : Nat) :
    Records lib (number, line.text) (line.entry number) := by
  have hsays : LineSays line.text .none line.hosts line.key.algorithm
      (Base64.encode line.key.blob) :=
    LineSays.unmarked line.not_marker line.words_text
  exact ⟨⟨line.hosts, _, hsays, Base64.decode_encode _, ⟨line.key, line.known.decoded⟩, rfl⟩, rfl⟩

theorem text_not_break (line : KeyLine lib) : ∀ c ∈ line.text, Text.isLineBreak c = false := by
  intro c hc
  have hblank : c = ' ' ∨ Text.isBlank c = false := by
    simp only [text, List.mem_append, List.mem_cons] at hc
    rcases hc with hc | rfl | hc | rfl | hc
    · exact Or.inr (line.hosts_not_blank c hc)
    · exact Or.inl rfl
    · exact Or.inr (line.known.algorithm_not_blank c hc)
    · exact Or.inl rfl
    · exact Or.inr (isBlank_encode hc)
  rcases hblank with rfl | hblank
  · decide
  · cases hbreak : Text.isLineBreak c with
    | false => rfl
    | true => exact absurd (Text.isBlank_of_isLineBreak hbreak) (by simp [hblank])

end KeyLine

/-! ## All lines -/

theorem lines_storeText (ls : List (KeyLine lib)) :
    Text.lines (storeText ls) = ls.map KeyLine.text := by
  have hbreak : ∀ t ∈ ls.map KeyLine.text, ∀ c ∈ t, Text.isLineBreak c = false := by
    intro t ht
    obtain ⟨line, -, rfl⟩ := List.mem_map.mp ht
    exact line.text_not_break
  rw [← Text.lines_flatMap hbreak, List.flatMap_map]
  rfl

/-- Lines numbered from anywhere record their entries. -/
theorem records_numbered (ls : List (KeyLine lib)) (start : Nat) :
    List.Forall₂ (Records lib)
      (significantOf (((ls.map KeyLine.text).zipIdx start).map fun line => (line.2 + 1, line.1)))
      ((ls.zipIdx start).map fun line => line.1.entry (line.2 + 1)) := by
  induction ls generalizing start with
  | nil => exact List.Forall₂.nil
  | cons line more ih =>
      rw [List.map_cons, List.zipIdx_cons, List.zipIdx_cons, List.map_cons, List.map_cons]
      have hsig : isSignificant (Text.trim line.text) = true := by
        rw [line.trim_text]
        exact line.isSignificant_text
      rw [significantOf_cons hsig, line.trim_text]
      exact List.Forall₂.cons (line.records_text (start + 1)) (ih (start + 1))

/-- Reading the text of lines gives their entries, in order. -/
theorem parse_storeText (ls : List (KeyLine lib)) :
    parse lib (storeText ls) = .ok (ls.zipIdx.map fun line => line.1.entry (line.2 + 1)) := by
  rw [parse_eq_ok_iff, numberedSignificant, Text.numberedLines, lines_storeText]
  exact records_numbered ls 0

end KnownHosts

end SshTunnel
