import SshTunnel.Proofs.KnownHosts.KeyLine
import SshTunnel.Proofs.KnownHosts.Pattern

/-!
# Hashed names

A host at a port can be written as a salt and a code. Such a name is one pattern wherever it
stands among the hosts of a line, and it stands for the hosts that have the code under its salt.
Behind a `!` it ends the search for these hosts, and is passed over for all others.
-/

namespace SshTunnel.KnownHosts

variable {lib : Key.Library}

/-- A name as the store writes it for a host at a port, hashed under a salt. -/
def hashedText (salt : Bytes) (name : Text) : Text :=
  "|1|".toList ++ (Base64.encode salt ++ '|' :: Base64.encode (hostCode salt name))

/-- A well-formed line but for its hosts: a marker or none in front of them, and the type of a
key, the key and a comment behind them, with blanks as anyone likes. -/
structure LineFrame (lib : Key.Library) where
  marker : Marker
  before : Text
  behind : Text
  keyType : Text
  data : Text
  comment : List Text
  blob : Bytes
  before_words : Text.words before = if marker = .none then [] else [marker.text]
  before_ends : before.getLast?.all Text.isBlank = true
  behind_words : Text.words behind = keyType :: data :: comment
  behind_starts : behind.head?.all Text.isBlank = true
  data_blob : Base64.decode data = .ok blob
  blob_key : ∃ key, lib.decodePublic blob = .ok key

namespace LineFrame

/-- The line with these hosts. -/
def line (frame : LineFrame lib) (hosts : Text) : Text := frame.before ++ (hosts ++ frame.behind)

/-- The entry that the line writes when these are its patterns. -/
def entry (frame : LineFrame lib) (patterns : List Text) (number : Nat) : Entry :=
  ⟨patterns, frame.keyType, frame.blob, frame.marker, number⟩

/-- The hosts are one word, and an unmarked line that starts with them is no comment and has no
word for a marker. -/
structure Takes (frame : LineFrame lib) (hosts : Text) : Prop where
  ne_nil : hosts ≠ []
  not_blank : ∀ c ∈ hosts, Text.isBlank c = false
  unmarked : frame.marker = .none → hosts.head? ≠ some '@' ∧ hosts.head? ≠ some '#'

/-- Further patterns, in front of one and behind it, that can be written into the line. -/
structure Admits (frame : LineFrame lib) (front back : List Text) : Prop where
  plain : ∀ p ∈ front ++ back, ∀ c ∈ p, Text.isBlank c = false ∧ c ≠ ','
  unmarked : frame.marker = .none →
    ∀ p ∈ front.head?, p.head? ≠ some '@' ∧ p.head? ≠ some '#'

/-! ## Lines with hosts -/

variable {frame : LineFrame lib} {hosts : Text}

theorem words_line (h : frame.Takes hosts) : Text.words (frame.line hosts) =
    Text.words frame.before ++ hosts :: Text.words frame.behind := by
  obtain ⟨c, behind, hbehind⟩ : ∃ c rest, frame.behind = c :: rest := by
    refine List.exists_cons_of_ne_nil fun hnil => ?_
    have hwords := frame.behind_words
    rw [hnil] at hwords
    cases hwords
  have hc : Text.isBlank c = true := by simpa [hbehind] using frame.behind_starts
  have hfields : Text.words (hosts ++ c :: behind) = hosts :: Text.words (c :: behind) := by
    rw [Text.words_append_blank h.ne_nil h.not_blank hc, Text.words_cons_blank hc]
  rw [line, hbehind]
  rcases List.eq_nil_or_concat frame.before with hbefore | ⟨lead, b, hbefore⟩
  · rw [hbefore]
    exact hfields
  · rw [List.concat_eq_append] at hbefore
    have hb : Text.isBlank b = true := by simpa [hbefore] using frame.before_ends
    rw [hbefore, List.append_assoc, List.singleton_append, Text.words_append lead hb, hfields,
      Text.words_concat_blank lead hb]

/-- The line says what its parts say. -/
theorem lineSays_line (h : frame.Takes hosts) :
    LineSays (Text.trim (frame.line hosts)) frame.marker hosts frame.keyType frame.data := by
  have hwords : Text.words (Text.trim (frame.line hosts)) =
      Text.words frame.before ++ hosts :: frame.keyType :: frame.data :: frame.comment := by
    rw [Text.words_trim, words_line h, frame.behind_words]
  rw [frame.before_words] at hwords
  by_cases hmarker : frame.marker = .none
  · rw [if_pos hmarker] at hwords
    rw [hmarker]
    exact .unmarked (h.unmarked hmarker).1 hwords
  · rw [if_neg hmarker] at hwords
    exact .marked hmarker hwords

theorem isSignificant_line (h : frame.Takes hosts) :
    isSignificant (Text.trim (frame.line hosts)) = true := by
  have hwords := words_line h
  rw [frame.before_words] at hwords
  obtain ⟨first, more, hfirst, hne, hcomment⟩ : ∃ first more,
      Text.words (frame.line hosts) = first :: more ∧ first ≠ [] ∧ first.head? ≠ some '#' := by
    by_cases hmarker : frame.marker = .none
    · rw [if_pos hmarker] at hwords
      exact ⟨_, _, hwords, h.ne_nil, (h.unmarked hmarker).2⟩
    · rw [if_neg hmarker] at hwords
      have hat := Marker.head?_text hmarker
      refine ⟨_, _, hwords, ?_, ?_⟩
      · intro hnil
        rw [hnil] at hat
        cases hat
      · rw [hat]
        decide
  have hhead := Text.head?_trim hfirst
  have htrim : Text.trim (frame.line hosts) ≠ [] := by
    intro hnil
    rw [hnil] at hhead
    exact hne (List.head?_eq_none_iff.mp hhead.symm)
  rw [isSignificant, hhead]
  simp [htrim, hcomment]

theorem writes_line (h : frame.Takes hosts) (number : Nat) :
    Writes lib (Text.trim (frame.line hosts)) (frame.entry (hostList hosts) number) :=
  ⟨hosts, frame.data, lineSays_line h, frame.data_blob, frame.blob_key, rfl⟩

theorem not_malformed (h : frame.Takes hosts) :
    ¬ Malformed lib (Text.trim (frame.line hosts)) :=
  fun hmalformed => hmalformed.not_writes _ (writes_line h 0)

/-- In every text that loads the line has its entry. -/
theorem entry_mem (h : frame.Takes hosts) {t : Text} {entries : List Entry}
    (hparse : parse lib t = .ok entries) {number : Nat}
    (hline : (number, frame.line hosts) ∈ Text.numberedLines t) :
    frame.entry (hostList hosts) number ∈ entries := by
  have hmem : (number, Text.trim (frame.line hosts)) ∈ numberedSignificant t := by
    refine List.mem_filter.mpr ⟨List.mem_map.mpr ⟨_, hline, rfl⟩, ?_⟩
    exact isSignificant_line h
  obtain ⟨e, he, hrecords⟩ :=
    exists_of_forall₂_of_mem ((parse_eq_ok_iff lib t entries).mp hparse) hmem
  have hwritten := (ofLine_eq_ok_iff lib number _ e).mpr hrecords
  have hentry := (ofLine_eq_ok_iff lib number _ _).mpr ⟨writes_line h number, rfl⟩
  rwa [Except.ok.inj (hentry.symm.trans hwritten)]

end LineFrame

/-! ## Lists of patterns as text -/

theorem mem_join {mark c : Char} {parts : List Text} (h : c ∈ Text.join [mark] parts) :
    c = mark ∨ ∃ part ∈ parts, c ∈ part := by
  induction parts with
  | nil => cases h
  | cons first more ih =>
      by_cases hempty : more = []
      · subst hempty
        exact Or.inr ⟨first, by simp, h⟩
      · rw [Text.join_cons _ _ hempty, List.mem_append, List.mem_append] at h
        rcases h with (h | h) | h
        · exact Or.inr ⟨first, by simp, h⟩
        · exact Or.inl (List.mem_singleton.mp h)
        · rcases ih h with rfl | ⟨part, hpart, hc⟩
          · exact Or.inl rfl
          · exact Or.inr ⟨part, by simp [hpart], hc⟩

theorem hostList_join {patterns : List Text} (hne : patterns ≠ [])
    (h : ∀ p ∈ patterns, ',' ∉ p) :
    hostList (Text.join [','] patterns) = patterns.filter (! ·.isEmpty) := by
  rw [hostList, Text.splitOn_join hne h]

/-- The test of a text for blanks and commas, where the characters of the text are known. -/
theorem plain_of_all {t : Text} (h : (t.all fun c => !Text.isBlank c && c != ',') = true) :
    ∀ c ∈ t, Text.isBlank c = false ∧ c ≠ ',' := by
  simpa using h

/-- A pattern that fills a place among admitted ones: it is one word without commas, and it
starts neither a marker nor a comment. -/
structure IsPattern (pattern : Text) : Prop where
  ne_nil : pattern ≠ []
  plain : ∀ c ∈ pattern, Text.isBlank c = false ∧ c ≠ ','
  starts : pattern.head? ≠ some '@' ∧ pattern.head? ≠ some '#'

namespace LineFrame

variable {frame : LineFrame lib} {front back : List Text} {pattern : Text}

theorem Admits.plain_of_mem (h : frame.Admits front back) (hpattern : IsPattern pattern)
    {p : Text} (hp : p ∈ front ++ pattern :: back) {c : Char} (hc : c ∈ p) :
    Text.isBlank c = false ∧ c ≠ ',' := by
  have hmem : p = pattern ∨ p ∈ front ++ back := by
    simp only [List.mem_append, List.mem_cons] at hp ⊢
    tauto
  rcases hmem with rfl | hmem
  · exact hpattern.plain c hc
  · exact h.plain p hmem c hc

theorem Admits.takes (h : frame.Admits front back) (hpattern : IsPattern pattern) :
    frame.Takes (Text.join [','] (front ++ pattern :: back)) := by
  -- The hosts start as their first pattern does, or with a comma when that is empty.
  have hstart : ∃ first, (first = pattern ∨ first ∈ front.head?) ∧ ∃ rest,
      Text.join [','] (front ++ pattern :: back) = first ++ rest ∧
        (first ++ rest ≠ [] ∧ (first = [] → rest.head? = some ',')) := by
    cases front with
    | nil =>
        refine ⟨pattern, Or.inl rfl, ?_⟩
        cases back with
        | nil => exact ⟨[], by simp [Text.join], by simp [hpattern.ne_nil]⟩
        | cons next more =>
            refine ⟨[','] ++ Text.join [','] (next :: more), ?_, by simp⟩
            rw [List.nil_append, Text.join_cons _ _ (by simp), List.append_assoc]
    | cons first more =>
        refine ⟨first, Or.inr rfl, [','] ++ Text.join [','] (more ++ pattern :: back), ?_,
          by simp⟩
        rw [List.cons_append, Text.join_cons _ _ (by simp), List.append_assoc]
  obtain ⟨first, hfirst, rest, hjoin, hne, hempty⟩ := hstart
  refine ⟨hjoin ▸ hne, fun c hc => ?_, fun hmarker => ?_⟩
  · rcases mem_join hc with rfl | ⟨p, hp, hc⟩
    · decide
    · exact (h.plain_of_mem hpattern hp hc).1
  · have hhead : first.head? ≠ some '@' ∧ first.head? ≠ some '#' := by
      rcases hfirst with rfl | hfirst
      · exact hpattern.starts
      · exact h.unmarked hmarker first hfirst
    rw [hjoin]
    cases first with
    | nil => simp [hempty]
    | cons c more => exact hhead

/-- A pattern in a line is one of the patterns of its entry, and the others are read beside it. -/
theorem Admits.hostList_eq (h : frame.Admits front back) (hpattern : IsPattern pattern) :
    hostList (Text.join [','] (front ++ pattern :: back)) =
      front.filter (! ·.isEmpty) ++ pattern :: back.filter (! ·.isEmpty) := by
  rw [hostList_join (by simp) fun p hp hcomma => (h.plain_of_mem hpattern hp hcomma).2 rfl,
    List.filter_append, List.filter_cons_of_pos (by simp [hpattern.ne_nil])]

end LineFrame

/-- Among any patterns in a line the text is read as one pattern of the line's entry, and the
line is well formed. -/
def IsReadBack (lib : Key.Library) (pattern : Text) : Prop :=
  ∀ (frame : LineFrame lib) (front back : List Text), frame.Admits front back →
    ¬ Malformed lib (Text.trim (frame.line (Text.join [','] (front ++ pattern :: back)))) ∧
    ∀ t entries number, parse lib t = .ok entries →
      (number, frame.line (Text.join [','] (front ++ pattern :: back))) ∈ Text.numberedLines t →
      frame.entry (front.filter (! ·.isEmpty) ++ pattern :: back.filter (! ·.isEmpty)) number
        ∈ entries

theorem IsPattern.isReadBack {pattern : Text} (h : IsPattern pattern) :
    IsReadBack lib pattern := by
  intro frame front back hadmits
  have htakes := hadmits.takes h
  refine ⟨LineFrame.not_malformed htakes, fun t entries number hparse hline => ?_⟩
  rw [← hadmits.hostList_eq h]
  exact LineFrame.entry_mem htakes hparse hline

/-! ## Hashed names -/

theorem bar_notMem_encode (bytes : Bytes) : '|' ∉ Base64.encode bytes :=
  Base64.notMem_encode (by decide) bytes

theorem hashedOf_hashedText (salt : Bytes) (name : Text) :
    HostPattern.hashedOf (hashedText salt name) = .hashed salt (hostCode salt name) :=
  (hashedOf_eq_hashed_iff _ _ _).mpr ⟨_, _, rfl, bar_notMem_encode _, bar_notMem_encode _,
    Base64.decodeLenient_encode _, Base64.decodeLenient_encode _⟩

theorem isHashed_hashedText (salt : Bytes) (name : Text) : IsHashed (hashedText salt name) :=
  ⟨_, rfl⟩

/-- A hashed name stands for the hosts that have its code under its salt; it is not compared with
a host that cannot be written. -/
theorem patternCovers_hashedText (salt : Bytes) (name host : Text) (port : Int) :
    patternCovers host port (hashedText salt name) =
      (hostText host port).map fun other =>
        decide (hostCode salt other = hostCode salt name) := by
  rw [patternCovers, ofText_hashed (isHashed_hashedText salt name), hashedOf_hashedText]
  rfl

theorem isPattern_hashedText (salt : Bytes) (name : Text) : IsPattern (hashedText salt name) := by
  have hencoded : ∀ bytes, ∀ c ∈ Base64.encode bytes, Text.isBlank c = false ∧ c ≠ ',' := by
    intro bytes c hc
    refine ⟨isBlank_encode hc, ?_⟩
    rintro rfl
    exact Base64.notMem_encode (by decide) bytes hc
  refine ⟨by simp [hashedText], fun c hc => ?_, by simp [hashedText]⟩
  simp only [hashedText, List.mem_append, List.mem_cons] at hc
  rcases hc with hc | hc | rfl | hc
  · exact plain_of_all (by decide) c hc
  · exact hencoded _ c hc
  · decide
  · exact hencoded _ c hc

theorem IsPattern.negated {pattern : Text} (h : IsPattern pattern) :
    IsPattern ('!' :: pattern) := by
  refine ⟨by simp, fun c hc => ?_, by simp⟩
  rcases List.mem_cons.mp hc with rfl | hc
  · decide
  · exact h.plain c hc

/-! ## Negated patterns -/

variable {name : Text} {q : Int} {body : Text}

/-- A negated pattern that covers the host ends the search, unless a port in front of it cannot
be read. -/
theorem searchPatterns_veto (h : patternCovers name q body = .ok true) (found : Bool)
    (front back : List Text) :
    searchPatterns name q found (front ++ ('!' :: body) :: back) =
      (searchPatterns name q found front).map fun _ => false := by
  induction front generalizing found with
  | nil => simp [searchPatterns, HostConfig.negated?, h, Except.bind, Except.map]
  | cons pattern more ih =>
      rw [List.cons_append, searchPatterns_cons, searchPatterns_cons]
      cases patternCovers name q (bare pattern) with
      | error e => rfl
      | ok hit =>
          by_cases hneg : (HostConfig.negated? pattern).isSome = true
          · simp only [Except.bind, if_pos hneg]
            cases hit with
            | true => rfl
            | false => exact ih found
          · simp only [Except.bind, if_neg hneg]
            exact ih (found || hit)

/-- A negated pattern that does not cover the host is passed over. -/
theorem searchPatterns_pass (h : patternCovers name q body = .ok false) (found : Bool)
    (front back : List Text) :
    searchPatterns name q found (front ++ ('!' :: body) :: back) =
      searchPatterns name q found (front ++ back) := by
  induction front generalizing found with
  | nil => simp [searchPatterns, HostConfig.negated?, h, Except.bind]
  | cons pattern more ih =>
      rw [List.cons_append, List.cons_append, searchPatterns_cons, searchPatterns_cons]
      simp only [ih]

/-- A host at a port, hashed, negated or not, and written into a line among other patterns is read
as one pattern of the entry. It stands for exactly the hosts whose names as the store writes them
have the same code under its salt, its own host among them, and negated it keeps exactly these
from the entry. A host that cannot be written has no answer. -/
theorem hashedText_readsBack (salt : Bytes) {host : Text} {port : Int} {own : Text}
    (hown : hostText host port = .ok own) :
    IsReadBack lib (hashedText salt own) ∧ IsReadBack lib ('!' :: hashedText salt own) ∧
    patternCovers host port (hashedText salt own) = .ok true ∧
    (∀ name q, patternCovers name q (hashedText salt own) =
      (hostText name q).map fun other => decide (hostCode salt other = hostCode salt own)) ∧
    ∀ name q other, hostText name q = .ok other → ∀ front back,
      (hostCode salt other = hostCode salt own →
        listCovers name q (front ++ ('!' :: hashedText salt own) :: back) =
          (listCovers name q front).map fun _ => false) ∧
      (hostCode salt other ≠ hostCode salt own →
        listCovers name q (front ++ ('!' :: hashedText salt own) :: back) =
          listCovers name q (front ++ back)) := by
  have hpattern := isPattern_hashedText salt own
  have hcovers := patternCovers_hashedText salt own
  refine ⟨hpattern.isReadBack, hpattern.negated.isReadBack, ?_, hcovers,
    fun name q other hother front back => ⟨fun hsame => ?_, fun hdiffers => ?_⟩⟩
  · simp [hcovers, hown, Except.map]
  · exact searchPatterns_veto (by simp [hcovers, hother, hsame, Except.map]) false front back
  · exact searchPatterns_pass (by simp [hcovers, hother, hdiffers, Except.map]) false front back

/-- A revocation with a comment, but for its hosts. -/
def revocationFrame : LineFrame OpenSsh.library where
  marker := .revoked
  before := "@revoked\t".toList
  behind := "  ssh-ed25519 ".toList ++ Base64.encode zeroKey.blob ++ " old key".toList
  keyType := "ssh-ed25519".toList
  data := Base64.encode zeroKey.blob
  comment := ["old".toList, "key".toList]
  blob := zeroKey.blob
  before_words := by decide
  before_ends := by decide
  behind_words := by decide +kernel
  behind_starts := by decide +kernel
  data_blob := Base64.decode_encode _
  blob_key := ⟨zeroKey, knows_zeroKey.decoded⟩

/-- All hosts at a port but one, which is hashed without salt. -/
def allButOne : List Text := ["[*]:2222".toList, '!' :: hashedText [] "[db]:2222".toList]

theorem allButOne_readsBack : hostText "db".toList 2222 = .ok "[db]:2222".toList ∧
    ∃ entries,
      parse OpenSsh.library (revocationFrame.line (Text.join [','] allButOne)) = .ok entries ∧
      revocationFrame.entry allButOne 1 ∈ entries ∧
      patternCovers "db".toList 2222 (hashedText [] "[db]:2222".toList) = .ok true ∧
      listCovers "db".toList 2222 allButOne = .ok false ∧
      listCovers "web".toList 2222 allButOne = .ok true := by
  have hname : hostText "db".toList 2222 = .ok "[db]:2222".toList := by decide
  have hweb : hostText "web".toList 2222 = .ok "[web]:2222".toList := by decide
  obtain ⟨-, hreads, hown, -, hveto⟩ := @hashedText_readsBack OpenSsh.library [] _ _ _ hname
  have hadmits : revocationFrame.Admits ["[*]:2222".toList] [] := by
    refine ⟨fun p hp => ?_, fun hmarker => by cases hmarker⟩
    obtain rfl : p = "[*]:2222".toList := by simpa using hp
    exact plain_of_all (by decide)
  have hlines : (1, revocationFrame.line (Text.join [','] allButOne)) ∈
      Text.numberedLines (revocationFrame.line (Text.join [','] allButOne)) := by
    decide +kernel
  have hfront : listCovers "db".toList 2222 ["[*]:2222".toList] = .ok true := by decide +kernel
  have hother : listCovers "web".toList 2222 ["[*]:2222".toList] = .ok true := by decide +kernel
  have hcode : hostCode [] "[web]:2222".toList ≠ hostCode [] "[db]:2222".toList := by
    decide +kernel
  have hparse : parse OpenSsh.library (revocationFrame.line (Text.join [','] allButOne)) =
      .ok [revocationFrame.entry allButOne 1] := by decide +kernel
  obtain ⟨-, hentry⟩ := hreads revocationFrame _ _ hadmits
  refine ⟨hname, _, hparse, hentry _ _ _ hparse hlines, hown, ?_, ?_⟩
  · rw [allButOne, ← List.singleton_append, (hveto _ _ _ hname _ _).1 rfl, hfront]
    rfl
  · rw [allButOne, ← List.singleton_append, (hveto _ _ _ hweb _ _).2 hcode]
    exact hother

end SshTunnel.KnownHosts
