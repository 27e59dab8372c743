import SshTunnel.Proofs.KnownHosts.KeyLine
import SshTunnel.Proofs.KnownHosts.Trust
import SshTunnel.Proofs.Text.Lower
import SshTunnel.Proofs.Text.Numeral

/-!
# A store that is written from pinned keys

A pin ties a key to a host and a port, and a text with one line for each pin is a store. It
gives the pins back in their order, and it judges a key by the pins for its host and port,
letter case aside: no other pin has a say.
-/

namespace SshTunnel.KnownHosts

/-- A character of a host name: no blank, and none with a meaning of its own in a store. -/
def IsHostChar (c : Char) : Prop := Text.isBlank c = false ∧ c ∉ ",*?[]!|@#".toList

instance (c : Char) : Decidable (IsHostChar c) := inferInstanceAs (Decidable (_ ∧ _))

theorem isHostChar_of_all {t : Text} (h : (t.all fun c => decide (IsHostChar c)) = true) :
    ∀ c ∈ t, IsHostChar c := by
  simpa using h

variable {lib : Key.Library}

/-- A key that a host at a port is known by. -/
structure Pin where
  host : Text
  port : Nat
  key : PublicKey
  host_ne_nil : host ≠ []
  host_plain : ∀ c ∈ host, IsHostChar c
  port_pos : 0 < port
  port_le : port ≤ 65535

/-- A pin that is to be written, with a key that the library knows. -/
structure WrittenPin (lib : Key.Library) extends Pin where
  known : lib.Knows key

namespace Pin

/-- The name of the pin's host and port. -/
def name (pin : Pin) : Text := hostName pin.host pin.port

/-- The line that writes a pin. -/
def line (pin : Pin) : Text :=
  pin.name ++ ' ' :: (pin.key.algorithm ++ ' ' :: Base64.encode pin.key.blob)

/-- The entry for a pin on a line. -/
def entry (pin : Pin) (number : Nat) : Entry :=
  ⟨[pin.name], pin.key.algorithm, pin.key.blob, .none, number⟩

/-- The pin is for the host at the port, letter case aside. -/
def IsFor (pin : Pin) (host : Text) (port : Int) : Prop :=
  Text.lower pin.host = Text.lower host ∧ (pin.port : Int) = port

instance (pin : Pin) (host : Text) (port : Int) : Decidable (pin.IsFor host port) :=
  inferInstanceAs (Decidable (_ ∧ _))

end Pin

/-- The text with one line for each pin. -/
def written (pins : List (WrittenPin lib)) : Text := pins.flatMap fun pin => pin.line ++ ['\n']

/-- The entries for pins on the lines from the first one on. -/
def pinned (pins : List (WrittenPin lib)) : List Entry :=
  pins.zipIdx.map fun pin => pin.1.entry (pin.2 + 1)

/-- What pins say about the key of a host at a port. -/
inductive Judged (pins : List (WrittenPin lib)) (host : Text) (port : Int) (key : PublicKey) :
    Verdict → Prop where
  | trusted {pin : WrittenPin lib} (hpin : pin ∈ pins) (hfor : pin.IsFor host port)
      (hblob : pin.key.blob = key.blob) : Judged pins host port key .trusted
  | changed {pin : WrittenPin lib} (hpin : pin ∈ pins) (hfor : pin.IsFor host port)
      (hother : ∀ p ∈ pins, p.IsFor host port → p.key.blob ≠ key.blob) :
      Judged pins host port key .changed
  | unknown (hnone : ∀ pin ∈ pins, ¬ pin.IsFor host port) : Judged pins host port key .unknown

/-- Pins say one thing only about a key. -/
theorem Judged.unique {pins : List (WrittenPin lib)} {host : Text} {port : Int} {key : PublicKey}
    {verdict verdict' : Verdict} (h : Judged pins host port key verdict)
    (h' : Judged pins host port key verdict') : verdict = verdict' := by
  cases h with
  | trusted hpin hfor hblob =>
      cases h' with
      | trusted => rfl
      | changed _ _ hother => exact absurd hblob (hother _ hpin hfor)
      | unknown hnone => exact absurd hfor (hnone _ hpin)
  | changed hpin hfor hother =>
      cases h' with
      | trusted hpin' hfor' hblob => exact absurd hblob (hother _ hpin' hfor')
      | changed => rfl
      | unknown hnone => exact absurd hfor (hnone _ hpin)
  | unknown hnone =>
      cases h' with
      | trusted hpin hfor => exact absurd hfor (hnone _ hpin)
      | changed hpin hfor => exact absurd hfor (hnone _ hpin)
      | unknown => rfl

/-! ## The name of a pin -/

theorem hostName_default (host : Text) : hostName host defaultPort = host := if_pos rfl

theorem hostName_of_ne_default {host : Text} {port : Int} (h : port ≠ defaultPort) :
    hostName host port = '[' :: (host ++ ']' :: ':' :: Text.ofInt port) := by
  rw [hostName, if_neg h]
  simp

theorem hostName_bracketed (host : Text) {port : Nat} (h : port ≠ 22) :
    hostName host port = '[' :: (host ++ ']' :: ':' :: Text.ofNat port) := by
  have hport : (port : Int) ≠ defaultPort := by
    simpa [defaultPort] using mt Int.ofNat.inj h
  rw [hostName_of_ne_default hport]
  rfl

theorem isDigit_of_mem_ofNat {n : Nat} {c : Char} (h : c ∈ Text.ofNat n) :
    '0'.toNat ≤ c.toNat ∧ c.toNat ≤ '9'.toNat := by
  have hdigit : c.isDigit = true := Nat.isDigit_of_mem_toDigits (by decide) (by decide) h
  simpa [Char.isDigit, UInt32.le_iff_toNat_le] using hdigit

namespace Pin

theorem host_not_mem (pin : Pin) {c : Char} (h : c ∈ ",*?[]!|@#".toList) : c ∉ pin.host :=
  fun hmem => (pin.host_plain c hmem).2 h

theorem name_ne_nil (pin : Pin) : pin.name ≠ [] := by
  by_cases h : pin.port = 22
  · rw [name, h]
    exact pin.host_ne_nil
  · rw [name, hostName_bracketed pin.host h]
    simp

/-- A name has no blank and no character that a line or a list of names takes for its own. -/
theorem mem_name {pin : Pin} {c : Char} (h : c ∈ pin.name) :
    Text.isBlank c = false ∧ c ∉ ",!|@#".toList := by
  have hhost : ∀ d ∈ pin.host, Text.isBlank d = false ∧ d ∉ ",!|@#".toList := by
    intro d hd
    obtain ⟨hblank, hplain⟩ := pin.host_plain d hd
    refine ⟨hblank, fun hmem => hplain ?_⟩
    simp only [String.reduceToList, List.mem_cons, List.not_mem_nil, or_false] at hmem ⊢
    tauto
  by_cases hport : pin.port = 22
  · rw [name, hport] at h
    exact hhost c h
  · rw [name, hostName_bracketed pin.host hport] at h
    simp only [List.mem_cons, List.mem_append] at h
    rcases h with rfl | h | rfl | rfl | h
    · decide
    · exact hhost c h
    · decide
    · decide
    · obtain ⟨hlow, hhigh⟩ := isDigit_of_mem_ofNat h
      constructor
      · simp [Text.isBlank] at hlow hhigh ⊢
        omega
      · intro hmem
        simp only [String.reduceToList, List.mem_cons, List.not_mem_nil, or_false] at hmem
        rcases hmem with rfl | rfl | rfl | rfl | rfl <;> simp at hlow hhigh

theorem hostList_name (pin : Pin) : hostList pin.name = [pin.name] := by
  have hcomma : ',' ∉ pin.name := fun h => (mem_name h).2 (by decide)
  rw [hostList, List.splitOn_eq_singleton hcomma]
  simp [pin.name_ne_nil]

theorem head?_name_ne (pin : Pin) {c : Char} (h : c ∈ ",!|@#".toList) :
    pin.name.head? ≠ some c :=
  fun hhead => (mem_name (List.mem_of_mem_head? hhead)).2 h

theorem isWritable_port (pin : Pin) : Text.Numeral.isWritable pin.port = true :=
  Text.Numeral.isWritable_of_le (by simpa using pin.port_le)

/-- The name is the one that the store writes for the host at the port. -/
theorem hostText_eq (pin : Pin) : hostText pin.host pin.port = .ok pin.name :=
  hostText_of_isWritable pin.isWritable_port pin.host

end Pin

namespace WrittenPin

/-- The line of a pin is one of hosts and a key. -/
def keyLine (pin : WrittenPin lib) : KeyLine lib where
  hosts := pin.name
  key := pin.key
  hosts_ne_nil := pin.name_ne_nil
  hosts_not_blank c hc := (Pin.mem_name hc).1
  not_marker := pin.head?_name_ne (by decide)
  not_comment := pin.head?_name_ne (by decide)
  known := pin.known

theorem entry_keyLine (pin : WrittenPin lib) (number : Nat) :
    pin.keyLine.entry number = pin.entry number := by
  rw [KeyLine.entry, keyLine, Pin.hostList_name]
  rfl

end WrittenPin

/-- Reading a written text gives the entries of its pins, in order. -/
theorem parse_written (pins : List (WrittenPin lib)) :
    parse lib (written pins) = .ok (pinned pins) := by
  have htext : written pins = storeText (pins.map WrittenPin.keyLine) := by
    rw [storeText, List.flatMap_map]
    rfl
  rw [htext, parse_storeText, List.zipIdx_map, List.map_map, pinned]
  congr 2
  funext pin
  exact pin.1.entry_keyLine (pin.2 + 1)

/-! ## Whom a pin is for -/

namespace Pin

theorem not_hashed (pin : Pin) : ¬ "|1|".toList <+: pin.name := by
  rintro ⟨rest, hrest⟩
  apply pin.head?_name_ne (c := '|') (by decide)
  rw [← hrest]
  rfl

theorem nameMatches_host (pin : Pin) (host : Text) :
    NameMatches pin.host host ↔ Text.lower pin.host = Text.lower host := by
  have hplain : Text.Glob.hasWildcard pin.host = false := by
    simp only [Text.Glob.hasWildcard, List.any_eq_false, Bool.or_eq_true, decide_eq_true_eq,
      not_or]
    intro c hc
    refine ⟨⟨?_, ?_⟩, ?_⟩ <;> rintro rfl <;> exact pin.host_not_mem (by decide) hc
  exact Text.Glob.matches_parse_iff (Text.hasWildcard_lower hplain) _

theorem not_bracketed_host (pin : Pin) (body : Text) (digits : List Nat) :
    ¬ Bracketed pin.host body digits := by
  rintro ⟨-, -, number, -, -, h | h⟩ <;>
    exact pin.host_not_mem (c := '[') (by decide) (by simp [h])

/-- A name with a port in brackets is read as the host and the port it was written for. -/
theorem exists_bracketed (pin : Pin) (h : pin.port ≠ 22) : ∃ digits,
    Bracketed pin.name pin.host digits ∧ digits.length ≤ Text.Numeral.maxDigits ∧
      Text.Numeral.value digits = pin.port := by
  obtain ⟨digits, hdigits, hlength, hvalue⟩ := Text.Numeral.exists_digits_ofNat pin.port
  have hname : pin.name = '[' :: (pin.host ++ ']' :: ':' :: Text.ofNat pin.port) :=
    hostName_bracketed pin.host h
  refine ⟨digits, ⟨pin.host_ne_nil, pin.host_not_mem (by decide), Text.ofNat pin.port,
    Nat.toDigits_ne_nil, hdigits, Or.inl hname⟩, ?_, hvalue⟩
  rw [hlength]
  exact (Text.Numeral.isWritable_iff _).mp pin.isWritable_port

theorem covers_iff (pin : Pin) (host : Text) (port : Int) :
    Covers host port pin.name ↔ pin.IsFor host port := by
  rw [IsFor, ← nameMatches_host]
  by_cases hport : pin.port = 22
  · have hname : pin.name = pin.host := by rw [name, hport]; rfl
    have hhash : ¬ "|1|".toList <+: pin.host := hname ▸ pin.not_hashed
    rw [hname, covers_plain_iff host port hhash pin.not_bracketed_host, hport]
    exact ⟨fun h => ⟨h.2, h.1.symm⟩, fun h => ⟨h.2.symm, h.1⟩⟩
  · obtain ⟨digits, hb, -, hvalue⟩ := pin.exists_bracketed hport
    rw [covers_bracketed_iff host port hb, hvalue]
    exact ⟨fun h => ⟨h.2, h.1.symm⟩, fun h => ⟨h.2.symm, h.1⟩⟩

theorem shortPort (pin : Pin) : ShortPort pin.name := by
  intro body digits hb
  by_cases hport : pin.port = 22
  · have hname : pin.name = pin.host := by rw [name, hport]; rfl
    rw [hname] at hb
    exact absurd hb (pin.not_bracketed_host body digits)
  · obtain ⟨digits', hb', hshort, -⟩ := pin.exists_bracketed hport
    obtain ⟨-, rfl⟩ := hb'.unique hb
    exact hshort

theorem listCovers_iff (pin : Pin) (host : Text) (port : Int) :
    ListCovers host port [pin.name] ↔ pin.IsFor host port := by
  have hpositive : pin.name.head? ≠ some '!' := pin.head?_name_ne (by decide)
  rw [← covers_iff, ListCovers]
  constructor
  · rintro ⟨⟨p, hp, -, hcovers⟩, -⟩
    rwa [List.mem_singleton.mp hp] at hcovers
  · intro hcovers
    refine ⟨⟨pin.name, by simp, hpositive, hcovers⟩, fun body hbody => ?_⟩
    rw [← List.mem_singleton.mp hbody] at hpositive
    exact absurd rfl hpositive

end Pin

/-! ## What a written store says -/

theorem exists_pin_of_entry {pins : List (WrittenPin lib)} {e : Entry} (h : e ∈ pinned pins) :
    ∃ pin ∈ pins, ∃ number, e = pin.entry number := by
  obtain ⟨pin, hpin, rfl⟩ := List.mem_map.mp h
  exact ⟨pin.1, List.fst_mem_of_mem_zipIdx hpin, pin.2 + 1, rfl⟩

theorem exists_entry_of_pin {pins : List (WrittenPin lib)} {pin : WrittenPin lib} (h : pin ∈ pins) :
    ∃ number, pin.entry number ∈ pinned pins := by
  rw [← List.zipIdx_map_fst 0 pins] at h
  obtain ⟨numbered, hmem, rfl⟩ := List.mem_map.mp h
  exact ⟨numbered.2 + 1, List.mem_map.mpr ⟨numbered, hmem, rfl⟩⟩

/-- Without revocations the entries for the host decide. -/
theorem judge_of_not_revoked {entries : List Entry} (h : ∀ e ∈ entries, e.marker ≠ .revoked)
    (covered : List Entry) (key : PublicKey) :
    judge entries covered key =
      if covered.isEmpty then .unknown
      else if covered.any (·.hasKey key) then .trusted else .changed := by
  have hnone : (entries.any fun e => e.marker = .revoked && e.keyData = key.blob) = false := by
    rw [List.any_eq_false]
    intro e he
    simp [h e he]
  rw [judge, hnone]
  rfl

theorem hasKey_entry_iff {pin : WrittenPin lib} {key : PublicKey}
    (h : lib.decodePublic key.blob = .ok key) (number : Nat) :
    (pin.entry number).hasKey key = true ↔ pin.key.blob = key.blob := by
  rw [Entry.hasKey, Bool.and_eq_true, decide_eq_true_iff, decide_eq_true_iff]
  constructor
  · exact fun hboth => hboth.2
  · intro hblob
    have hsame : pin.key = key := Except.ok.inj (pin.known.decoded.symm.trans (hblob ▸ h))
    exact ⟨congrArg PublicKey.algorithm hsame, hblob⟩

/-- The entries of pins judge a key as the pins do. -/
theorem check_pinned (pins : List (WrittenPin lib)) (path : Option Path) (host : Text)
    (port : Int) {key : PublicKey} (hkey : lib.decodePublic key.blob = .ok key) : ∃ verdict,
    KnownHosts.check ⟨pinned pins, path⟩ host port key = .ok verdict ∧
      Judged pins host port key verdict := by
  have hshort : ∀ e ∈ pinned pins, ∀ p ∈ e.hosts, ShortAt port (bare p) := by
    intro e he p hp
    obtain ⟨pin, -, number, rfl⟩ := exists_pin_of_entry he
    rw [List.mem_singleton.mp hp, bare,
      (negated?_eq_none_iff _).mpr (pin.head?_name_ne (by decide))]
    exact ⟨pin.shortPort, fun hhash => absurd hhash pin.not_hashed⟩
  obtain ⟨covered, hcovered, hmem⟩ := covering_ok host hshort
  have hunmarked : ∀ e ∈ pinned pins, e.marker ≠ .revoked := by
    intro e he
    obtain ⟨pin, -, number, rfl⟩ := exists_pin_of_entry he
    simp [Pin.entry]
  have hin : ∀ pin ∈ pins, pin.IsFor host port → ∃ number, pin.entry number ∈ covered := by
    intro pin hpin hfor
    obtain ⟨number, hentry⟩ := exists_entry_of_pin hpin
    have hcovers := (pin.toPin.listCovers_iff _ _).mpr hfor
    exact ⟨number, (hmem _).mpr ⟨hentry, by simp [Pin.entry], hcovers⟩⟩
  have hout : ∀ e ∈ covered, ∃ pin ∈ pins, pin.IsFor host port ∧
      ∃ number, e = pin.entry number := by
    intro e he
    obtain ⟨hentry, -, hcovers⟩ := (hmem e).mp he
    obtain ⟨pin, hpin, number, rfl⟩ := exists_pin_of_entry hentry
    exact ⟨pin, hpin, (pin.toPin.listCovers_iff _ _).mp hcovers, number, rfl⟩
  refine ⟨judge (pinned pins) covered key, by simp [check, hcovered, Except.map], ?_⟩
  rw [judge_of_not_revoked hunmarked]
  cases covered with
  | nil =>
      refine Judged.unknown fun pin hpin hfor => ?_
      obtain ⟨number, hentry⟩ := hin pin hpin hfor
      cases hentry
  | cons first more =>
      rw [List.isEmpty_cons, if_neg (by decide)]
      by_cases hany : (first :: more).any (·.hasKey key) = true
      · rw [if_pos hany]
        obtain ⟨e, he, hhas⟩ := List.any_eq_true.mp hany
        obtain ⟨pin, hpin, hfor, number, rfl⟩ := hout e he
        exact Judged.trusted hpin hfor ((hasKey_entry_iff hkey number).mp hhas)
      · rw [if_neg hany]
        obtain ⟨pin, hpin, hfor, -⟩ := hout first (by simp)
        refine Judged.changed hpin hfor fun p hp hpfor hblob => hany ?_
        obtain ⟨number, hentry⟩ := hin p hp hpfor
        exact List.any_eq_true.mpr ⟨_, hentry, (hasKey_entry_iff hkey number).mpr hblob⟩

/-- A text with one line for each pin, under the name that the store writes for its host and
port, is a store with one unmarked entry for each pin, in order, and it judges every key as the
pins do. -/
theorem written_readsBack (pins : List (WrittenPin lib)) :
    (∀ pin ∈ pins, hostText pin.host pin.port = .ok pin.name) ∧
    ∃ store, ofText lib (written pins) = .ok store ∧ store.entries = pinned pins ∧
      ∀ (host : Text) (port : Int) (key : PublicKey), lib.decodePublic key.blob = .ok key →
        ∃ verdict, store.check host port key = .ok verdict ∧
          Judged pins host port key verdict := by
  refine ⟨fun pin _ => pin.hostText_eq, ⟨pinned pins, none⟩, ?_, rfl,
    fun host port key hkey => ?_⟩
  · rw [ofText, parse_written]
  · exact check_pinned pins none host port hkey

/-- A key with nothing but ones in it. -/
def oneKey : PublicKey := OpenSsh.keyOf .ed25519 [List.replicate 32 1]

theorem knows_oneKey : OpenSsh.library.Knows oneKey where
  decoded := by decide +kernel
  algorithm_ne_nil := by decide
  algorithm_not_blank := not_blank_of_all (by decide)
  blob_ne_nil := by decide

/-- A host with one key at the default port. -/
def defaultPin : WrittenPin OpenSsh.library where
  host := "db".toList
  port := 22
  key := oneKey
  host_ne_nil := by decide
  host_plain := isHostChar_of_all (by decide)
  port_pos := by decide
  port_le := by decide
  known := knows_oneKey

/-- The same host, in other letters, with another key at another port. -/
def otherPin : WrittenPin OpenSsh.library where
  host := "Db".toList
  port := 2222
  key := zeroKey
  host_ne_nil := by decide
  host_plain := isHostChar_of_all (by decide)
  port_pos := by decide
  port_le := by decide
  known := knows_zeroKey

theorem twoPorts_readBack : OpenSsh.library.decodePublic zeroKey.blob = .ok zeroKey ∧
    ∃ store, ofText OpenSsh.library (written [defaultPin, otherPin]) = .ok store ∧
      store.entries = pinned [defaultPin, otherPin] ∧
      store.check "DB".toList 2222 zeroKey = .ok .trusted ∧
      store.check "DB".toList 22 zeroKey = .ok .changed := by
  obtain ⟨-, store, hload, hentries, hjudged⟩ := written_readsBack [defaultPin, otherPin]
  refine ⟨knows_zeroKey.decoded, store, hload, hentries, ?_, ?_⟩
  · obtain ⟨verdict, hverdict, hsays⟩ := hjudged "DB".toList 2222 zeroKey knows_zeroKey.decoded
    have htrusted : Judged [defaultPin, otherPin] "DB".toList 2222 zeroKey .trusted :=
      .trusted (by simp : otherPin ∈ _) (by decide) rfl
    rw [hverdict, hsays.unique htrusted]
  · obtain ⟨verdict, hverdict, hsays⟩ := hjudged "DB".toList 22 zeroKey knows_zeroKey.decoded
    have hother : ∀ p ∈ [defaultPin, otherPin], p.IsFor "DB".toList 22 →
        p.key.blob ≠ zeroKey.blob := by decide +kernel
    have hchanged : Judged [defaultPin, otherPin] "DB".toList 22 zeroKey .changed :=
      .changed (by simp : defaultPin ∈ _) (by decide) hother
    rw [hverdict, hsays.unique hchanged]

end SshTunnel.KnownHosts
