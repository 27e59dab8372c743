import SshTunnel.KnownHosts.Entry
import Mathlib.Data.List.Forall2
import Mathlib.Tactic.Common

/-!
# What a line of a trust store says

`LineSays` reads the fields of a line off its words, and `Writes` ties a line to its entry. A
text that is read gives one entry for each of its significant lines, in order.
-/

namespace SshTunnel.KnownHosts

variable {lib : Key.Library}

/-- The lines that say something, without blanks at their ends. -/
def significantLines (t : Text) : List Text := ((Text.lines t).map Text.trim).filter isSignificant

/-- The marker of a line, and its first three fields behind the marker. -/
inductive LineSays (line : Text) : Marker → Text → Text → Text → Prop where
  | unmarked {hosts keyType data : Text} {comment : List Text} (hm : hosts.head? ≠ some '@')
      (h : Text.words line = hosts :: keyType :: data :: comment) :
      LineSays line .none hosts keyType data
  | marked {m : Marker} {hosts keyType data : Text} {comment : List Text} (hm : m ≠ .none)
      (h : Text.words line = m.text :: hosts :: keyType :: data :: comment) :
      LineSays line m hosts keyType data

/-- The line says what the entry holds: its marker and key type, the host patterns of its
list, and data in which the library finds a key. -/
def Writes (lib : Key.Library) (line : Text) (e : Entry) : Prop :=
  ∃ hosts data, LineSays line e.marker hosts e.keyType data ∧
    Base64.decode data = .ok e.keyData ∧ (∃ key, lib.decodePublic e.keyData = .ok key) ∧
    e.hosts = hostList hosts

/-! ## One line -/

theorem Marker.ofText?_text {m : Marker} (h : m ≠ .none) : Marker.ofText? m.text = some m := by
  cases m with
  | none => exact absurd rfl h
  | revoked => rfl
  | certAuthority => rfl

theorem Marker.ofText?_eq_some_iff (word : Text) (m : Marker) :
    Marker.ofText? word = some m ↔ m ≠ .none ∧ word = m.text := by
  constructor
  · intro h
    by_cases hrevoked : word = Marker.revoked.text
    · rw [Marker.ofText?, if_pos hrevoked] at h
      cases h
      exact ⟨by simp, hrevoked⟩
    · rw [Marker.ofText?, if_neg hrevoked] at h
      by_cases hcert : word = Marker.certAuthority.text
      · rw [if_pos hcert] at h
        cases h
        exact ⟨by simp, hcert⟩
      · rw [if_neg hcert] at h
        cases h
  · rintro ⟨hm, rfl⟩
    exact Marker.ofText?_text hm

theorem Marker.head?_text {m : Marker} (h : m ≠ .none) : m.text.head? = some '@' := by
  cases m with
  | none => exact absurd rfl h
  | revoked => rfl
  | certAuthority => rfl

theorem splitMarker_eq_ok_iff (ws : List Text) (m : Marker) (fields : List Text) :
    splitMarker ws = .ok (m, fields) ↔
      (m = .none ∧ fields = ws ∧ ws.head?.bind List.head? ≠ some '@') ∨
        (m ≠ .none ∧ ws = m.text :: fields) := by
  cases ws with
  | nil =>
      simp only [splitMarker, Except.ok.injEq, Prod.mk.injEq]
      constructor
      · rintro ⟨rfl, rfl⟩
        exact Or.inl ⟨rfl, rfl, by simp⟩
      · rintro (⟨rfl, rfl, -⟩ | ⟨-, h⟩)
        · exact ⟨rfl, rfl⟩
        · cases h
  | cons word rest =>
      by_cases hat : word.head? = some '@'
      · cases hmarker : Marker.ofText? word with
        | none =>
            simp only [splitMarker, if_pos hat, hmarker, reduceCtorEq, false_iff]
            rintro (⟨-, -, h⟩ | ⟨hm, h⟩)
            · exact h (by simpa using hat)
            · obtain ⟨rfl, rfl⟩ := List.cons.inj h
              rw [(Marker.ofText?_eq_some_iff _ _).mpr ⟨hm, rfl⟩] at hmarker
              cases hmarker
        | some marker =>
            obtain ⟨hne, hword⟩ := (Marker.ofText?_eq_some_iff _ _).mp hmarker
            simp only [splitMarker, if_pos hat, hmarker, Except.ok.injEq, Prod.mk.injEq]
            constructor
            · rintro ⟨rfl, rfl⟩
              exact Or.inr ⟨hne, by rw [hword]⟩
            · rintro (⟨-, -, h⟩ | ⟨hm, h⟩)
              · exact absurd (by simpa using hat) h
              · obtain ⟨hw, rfl⟩ := List.cons.inj h
                have hsame := (Marker.ofText?_eq_some_iff word m).mpr ⟨hm, hw⟩
                rw [hmarker] at hsame
                exact ⟨Option.some.inj hsame, rfl⟩
      · have hread : splitMarker (word :: rest) = .ok (.none, word :: rest) := by
          simp [splitMarker, hat]
        rw [hread]
        simp only [Except.ok.injEq, Prod.mk.injEq]
        constructor
        · rintro ⟨rfl, rfl⟩
          exact Or.inl ⟨rfl, rfl, by simpa using hat⟩
        · rintro (⟨rfl, rfl, -⟩ | ⟨hm, h⟩)
          · exact ⟨rfl, rfl⟩
          · obtain ⟨rfl, -⟩ := List.cons.inj h
            exact absurd (Marker.head?_text hm) hat

theorem LineSays.splitMarker {line : Text} {m : Marker} {hosts keyType data : Text}
    (h : LineSays line m hosts keyType data) :
    ∃ comment, KnownHosts.splitMarker (Text.words line)
      = .ok (m, hosts :: keyType :: data :: comment) := by
  cases h with
  | @unmarked _ _ _ comment hm h =>
      exact ⟨comment, (splitMarker_eq_ok_iff _ _ _).mpr
        (Or.inl ⟨rfl, h.symm, by simpa [h] using hm⟩)⟩
  | @marked _ _ _ _ comment hm h =>
      exact ⟨comment, (splitMarker_eq_ok_iff _ _ _).mpr (Or.inr ⟨hm, h⟩)⟩

theorem ofFields_eq_ok_iff (lib : Key.Library) (number : Nat) (m : Marker) (fields : List Text)
    (e : Entry) :
    Entry.ofFields lib number m fields = .ok e ↔
      ∃ hosts keyType data comment blob key, fields = hosts :: keyType :: data :: comment ∧
        Base64.decode data = .ok blob ∧ lib.decodePublic blob = .ok key ∧
        e = ⟨hostList hosts, keyType, blob, m, number⟩ := by
  constructor
  · intro h
    unfold Entry.ofFields at h
    split at h
    next hosts keyType data comment =>
      split at h
      next => cases h
      next blob hblob =>
        split at h
        next => cases h
        next key hkey =>
          cases h
          exact ⟨hosts, keyType, data, comment, blob, key, rfl, hblob, hkey, rfl⟩
    next => cases h
  · rintro ⟨hosts, keyType, data, comment, blob, key, rfl, hblob, hkey, rfl⟩
    simp [Entry.ofFields, hblob, hkey]

/-- A line is read as an entry exactly when it writes that entry. -/
theorem ofLine_eq_ok_iff (lib : Key.Library) (number : Nat) (line : Text) (e : Entry) :
    Entry.ofLine lib number line = .ok e ↔ Writes lib line e ∧ e.line = number := by
  constructor
  · intro h
    unfold Entry.ofLine at h
    cases hsplit : splitMarker (Text.words line) with
    | error problem => simp [hsplit, Except.bind] at h
    | ok parts =>
        obtain ⟨m, fields⟩ := parts
        rw [hsplit] at h
        obtain ⟨hosts, keyType, data, comment, blob, key, rfl, hblob, hkey, rfl⟩ :=
          (ofFields_eq_ok_iff lib number m fields e).mp h
        refine ⟨⟨hosts, data, ?_, hblob, ⟨key, hkey⟩, rfl⟩, rfl⟩
        rcases (splitMarker_eq_ok_iff _ _ _).mp hsplit with ⟨rfl, hws, hat⟩ | ⟨hm, hws⟩
        · exact LineSays.unmarked (by simpa [← hws] using hat) hws.symm
        · exact LineSays.marked hm hws
  · rintro ⟨⟨hosts, data, hsays, hblob, ⟨key, hkey⟩, hhosts⟩, hnumber⟩
    obtain ⟨comment, hsplit⟩ := hsays.splitMarker
    rw [Entry.ofLine, hsplit]
    refine (ofFields_eq_ok_iff _ _ _ _ _).mpr
      ⟨hosts, e.keyType, data, comment, e.keyData, key, rfl, hblob, hkey, ?_⟩
    cases e
    simp_all

/-- A line says one thing only. -/
theorem LineSays.unique {line : Text} {m m' : Marker}
    {hosts hosts' keyType keyType' data data' : Text}
    (h : LineSays line m hosts keyType data) (h' : LineSays line m' hosts' keyType' data') :
    m = m' ∧ hosts = hosts' ∧ keyType = keyType' ∧ data = data' := by
  obtain ⟨comment, h⟩ := h.splitMarker
  obtain ⟨comment', h'⟩ := h'.splitMarker
  rw [h] at h'
  simp only [Except.ok.injEq, Prod.mk.injEq, List.cons.injEq] at h'
  exact ⟨h'.1, h'.2.1, h'.2.2.1, h'.2.2.2.1⟩

/-! ## All lines -/

/-- The lines that say something among numbered ones, without blanks at their ends. -/
def significantOf (numbered : List (Nat × Text)) : List (Nat × Text) :=
  (numbered.map fun line => (line.1, Text.trim line.2)).filter fun line => isSignificant line.2

/-- The lines of a text that say something, with their numbers counted from one. -/
def numberedSignificant (t : Text) : List (Nat × Text) := significantOf (Text.numberedLines t)

/-- The entry holds what the line says, and its number. -/
def Records (lib : Key.Library) (line : Nat × Text) (e : Entry) : Prop :=
  Writes lib line.2 e ∧ e.line = line.1

theorem readLines_skip (lib : Key.Library) (number : Nat) {line : Text}
    (h : isSignificant (Text.trim line) = false) (rest : List (Nat × Text)) :
    readLines lib ((number, line) :: rest) = readLines lib rest ∧
      significantOf ((number, line) :: rest) = significantOf rest := by
  constructor
  · simp [readLines, h]
  · simp [significantOf, h]

theorem significantOf_cons {number : Nat} {line : Text}
    (h : isSignificant (Text.trim line) = true) (rest : List (Nat × Text)) :
    significantOf ((number, line) :: rest) = (number, Text.trim line) :: significantOf rest := by
  simp [significantOf, h]

theorem readLines_error {number : Nat} {line : Text} {problem : LineProblem}
    (h : isSignificant (Text.trim line) = true)
    (hline : Entry.ofLine lib number (Text.trim line) = .error problem) (rest : List (Nat × Text)) :
    readLines lib ((number, line) :: rest) = .error ⟨number, problem⟩ := by
  simp [readLines, h, hline]

theorem readLines_ok {number : Nat} {line : Text} {e : Entry}
    (h : isSignificant (Text.trim line) = true)
    (hline : Entry.ofLine lib number (Text.trim line) = .ok e) (rest : List (Nat × Text)) :
    readLines lib ((number, line) :: rest) = (readLines lib rest).map (e :: ·) := by
  simp [readLines, h, hline]

/-- Lines are read as the entries that the significant ones write, in their order. -/
theorem readLines_eq_ok_iff (lib : Key.Library) (numbered : List (Nat × Text))
    (entries : List Entry) :
    readLines lib numbered = .ok entries ↔
      List.Forall₂ (Records lib) (significantOf numbered) entries := by
  induction numbered generalizing entries with
  | nil => simp [readLines, significantOf, eq_comm]
  | cons first rest ih =>
      obtain ⟨number, line⟩ := first
      cases hsig : isSignificant (Text.trim line) with
      | false =>
          obtain ⟨hread, hlines⟩ := readLines_skip lib number hsig rest
          rw [hread, hlines]
          exact ih entries
      | true =>
          rw [significantOf_cons hsig]
          cases hline : Entry.ofLine lib number (Text.trim line) with
          | error problem =>
              rw [readLines_error hsig hline]
              simp only [reduceCtorEq, false_iff, List.forall₂_cons_left_iff, not_exists, not_and]
              intro e more hrecords
              rw [(ofLine_eq_ok_iff _ _ _ _).mpr hrecords] at hline
              cases hline
          | ok e =>
              rw [readLines_ok hsig hline]
              have hrecords : Records lib (number, Text.trim line) e :=
                (ofLine_eq_ok_iff _ _ _ _).mp hline
              constructor
              · intro h
                cases hread : readLines lib rest with
                | error problem => simp [hread, Except.map] at h
                | ok more =>
                    obtain rfl : e :: more = entries := by simpa [hread, Except.map] using h
                    exact List.Forall₂.cons hrecords ((ih more).mp hread)
              · intro h
                obtain ⟨e', more, hrecords', hmore, rfl⟩ := List.forall₂_cons_left_iff.mp h
                rw [(ofLine_eq_ok_iff _ _ _ _).mpr hrecords'] at hline
                obtain rfl := Except.ok.inj hline
                rw [(ih more).mpr hmore, Except.map]

theorem map_snd_numberedSignificant (t : Text) :
    (numberedSignificant t).map Prod.snd = significantLines t := by
  have htext : (Text.numberedLines t).map (Prod.snd ∘ fun line => (line.1, Text.trim line.2))
      = (Text.lines t).map Text.trim := by
    rw [Text.numberedLines, List.map_map]
    change (Text.lines t).zipIdx.map (Text.trim ∘ Prod.fst) = _
    rw [← List.map_map, List.zipIdx_map_fst]
  rw [significantLines, ← htext, ← List.map_map, List.filter_map]
  rfl

/-- The entries of a text are those that its significant lines write, in their order. -/
theorem parse_eq_ok {t : Text} {entries : List Entry} (h : parse lib t = .ok entries) :
    List.Forall₂ (Writes lib) (significantLines t) entries := by
  have hread := (readLines_eq_ok_iff _ _ _).mp h
  rw [← map_snd_numberedSignificant, List.forall₂_map_left_iff]
  exact hread.imp fun _ _ hrecords => hrecords.1

theorem exists_of_forall₂_of_mem {α β : Type} {R : α → β → Prop} {xs : List α} {ys : List β}
    (h : List.Forall₂ R xs ys) {x : α} (hx : x ∈ xs) : ∃ y ∈ ys, R x y := by
  induction h with
  | nil => cases hx
  | @cons a b as bs hab _ ih =>
      rcases List.mem_cons.mp hx with rfl | hx
      · exact ⟨b, by simp, hab⟩
      · obtain ⟨y, hy, hxy⟩ := ih hx
        exact ⟨y, by simp [hy], hxy⟩

theorem exists_entry_of_line {t : Text} {entries : List Entry} (h : parse lib t = .ok entries)
    {line : Text} (hline : line ∈ significantLines t) : ∃ e ∈ entries, Writes lib line e :=
  exists_of_forall₂_of_mem (parse_eq_ok h) hline

theorem exists_line_of_entry {t : Text} {entries : List Entry} (h : parse lib t = .ok entries)
    {e : Entry} (he : e ∈ entries) : ∃ line ∈ significantLines t, Writes lib line e :=
  exists_of_forall₂_of_mem (parse_eq_ok h).flip he

end SshTunnel.KnownHosts
