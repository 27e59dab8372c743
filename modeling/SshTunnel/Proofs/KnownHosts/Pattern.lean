import SshTunnel.KnownHosts.Pattern
import SshTunnel.Proofs.Text.Glob
import SshTunnel.Proofs.Text.Numeral
import SshTunnel.Proofs.Text.Split

/-!
# Which hosts a pattern of a trust store covers

`Covers` says it by the three forms that a pattern can have, and `ListCovers` for a list with
negations. Reading a pattern decides both, as long as no port that is read or written on the way
has too many digits.
-/

namespace SshTunnel.KnownHosts

/-- A host and a port as the store writes them, whatever digits the port takes. -/
def hostName (host : Text) (port : Int) : Text :=
  if port = defaultPort then host else '[' :: host ++ "]:".toList ++ Text.ofInt port

/-- A name with wildcards describes the host, letter case aside. -/
def NameMatches (body host : Text) : Prop :=
  Text.Glob.Matches (Text.Glob.parse (Text.lower body)) (Text.lower host)

theorem patternMatches_iff (host body : Text) :
    HostConfig.patternMatches host body = true ↔ NameMatches body host :=
  Text.Glob.isMatch_iff _ _

/-- The pattern is a name in brackets, a colon and the digits of a port; one line feed may
follow them. -/
def Bracketed (pattern body : Text) (digits : List Nat) : Prop :=
  body ≠ [] ∧ ']' ∉ body ∧ ∃ number : Text, number ≠ [] ∧
    number.mapM Text.digitValue? = some digits ∧
    (pattern = '[' :: (body ++ ']' :: ':' :: number) ∨
      pattern = '[' :: (body ++ ']' :: ':' :: (number ++ ['\n'])))

/-- The pattern, without a `!` in front, stands for the host at the port. -/
inductive Covers (host : Text) (port : Int) : Text → Prop where
  | hashed {salt code : Text} {s c : Bytes} (hsalt : '|' ∉ salt) (hcode : '|' ∉ code)
      (hs : Base64.decodeLenient salt = .ok s) (hc : Base64.decodeLenient code = .ok c)
      (h : Hash.Hmac.sha1 s (Utf8.encode (hostName host port)) = c) :
      Covers host port ("|1|".toList ++ (salt ++ '|' :: code))
  | bracketed {pattern body : Text} {digits : List Nat} (hb : Bracketed pattern body digits)
      (hport : port = (Text.Numeral.value digits : Int)) (hname : NameMatches body host) :
      Covers host port pattern
  | plain {pattern : Text} (hhash : ¬ "|1|".toList <+: pattern)
      (hbracket : ∀ body digits, ¬ Bracketed pattern body digits)
      (hport : port = 22) (hname : NameMatches pattern host) : Covers host port pattern

/-- Some pattern without `!` covers the host, and no pattern does behind a `!`. -/
def ListCovers (host : Text) (port : Int) (patterns : List Text) : Prop :=
  (∃ p ∈ patterns, p.head? ≠ some '!' ∧ Covers host port p) ∧
    ∀ body, '!' :: body ∈ patterns → ¬ Covers host port body

/-- The port of the pattern, if it is in brackets, has no more digits than are read. -/
def ShortPort (pattern : Text) : Prop :=
  ∀ body digits, Bracketed pattern body digits → digits.length ≤ Text.Numeral.maxDigits

/-- The pattern is a hashed name, well formed or not. -/
def IsHashed (pattern : Text) : Prop := "|1|".toList <+: pattern

/-- No port stands in the way of an answer at this port: that of the pattern has no more digits
than are read, and for a hashed one the port asked about has no more than are written. -/
def ShortAt (port : Int) (pattern : Text) : Prop :=
  ShortPort pattern ∧ (IsHashed pattern → Text.Numeral.isWritable port = true)

theorem ShortPort.shortAt {port : Int} {pattern : Text}
    (hport : Text.Numeral.isWritable port = true) (h : ShortPort pattern) :
    ShortAt port pattern := ⟨h, fun _ => hport⟩

/-! ## Names for a host at a port -/

theorem isWritable_defaultPort : Text.Numeral.isWritable defaultPort = true := by decide

/-- The store writes a host with a port that can be written. -/
theorem hostText_of_isWritable {port : Int} (h : Text.Numeral.isWritable port = true)
    (host : Text) : hostText host port = .ok (hostName host port) := by
  unfold hostText hostName
  split
  · rfl
  · rw [Text.Numeral.write_of_isWritable h]
    rfl

/-- A host with another port is not written. -/
theorem hostText_of_not_isWritable {port : Int} (h : Text.Numeral.isWritable port = false)
    (host : Text) : hostText host port = .error .written := by
  have hport : port ≠ defaultPort := by
    rintro rfl
    cases h.symm.trans isWritable_defaultPort
  rw [hostText, if_neg hport, Text.Numeral.write_of_not_isWritable h]
  rfl

/-! ## Bracketed patterns -/

theorem mapM_digitValue?_append_newline (t : Text) :
    (t ++ ['\n']).mapM Text.digitValue? = none := by
  have hnewline : Text.digitValue? '\n' = none := by decide
  rw [List.mapM_append]
  cases t.mapM Text.digitValue? <;> simp [hnewline]

theorem portDigits?_eq_some_iff (t : Text) (digits : List Nat) :
    portDigits? t = some digits ↔ ∃ number : Text, number ≠ [] ∧
      number.mapM Text.digitValue? = some digits ∧ (t = number ∨ t = number ++ ['\n']) := by
  by_cases hlast : t.getLast? = some '\n'
  · obtain ⟨bare, rfl⟩ : ∃ bare : Text, t = bare ++ ['\n'] :=
      List.getLast?_eq_some_iff.mp hlast
    have hread : portDigits? (bare ++ ['\n'])
        = if bare.isEmpty then none else bare.mapM Text.digitValue? := by
      simp [portDigits?]
    constructor
    · intro h
      rw [hread] at h
      cases bare with
      | nil => simp at h
      | cons c rest => exact ⟨c :: rest, by simp, by simpa using h, Or.inr rfl⟩
    · rintro ⟨number, hne, hdigits, heq | heq⟩
      · rw [← heq, mapM_digitValue?_append_newline] at hdigits
        cases hdigits
      · obtain rfl : bare = number := List.append_cancel_right heq
        rw [hread]
        simpa [hne] using hdigits
  · have hread : portDigits? t = if t.isEmpty then none else t.mapM Text.digitValue? := by
      simp [portDigits?, hlast]
    constructor
    · intro h
      rw [hread] at h
      cases t with
      | nil => simp at h
      | cons c rest => exact ⟨c :: rest, by simp, by simpa using h, Or.inl rfl⟩
    · rintro ⟨number, hne, hdigits, rfl | rfl⟩
      · rw [hread]
        simpa [hne] using hdigits
      · exact absurd (by simp) hlast

theorem takeWhile_dropWhile_of_not_mem {body : Text} (rest : Text) (h : ']' ∉ body) :
    (body ++ ']' :: rest).takeWhile (· ≠ ']') = body ∧
      (body ++ ']' :: rest).dropWhile (· ≠ ']') = ']' :: rest := by
  have hall : ∀ c ∈ body, decide (c ≠ ']') = true := by
    intro c hc
    simpa using fun heq : c = ']' => h (heq ▸ hc)
  constructor
  · rw [List.takeWhile_append_of_pos hall]
    simp
  · rw [List.dropWhile_append_of_pos hall]
    simp

/-- The reading of a bracketed pattern succeeds exactly on bracketed patterns. -/
theorem bracketed?_eq_some_iff (pattern body : Text) (digits : List Nat) :
    bracketed? pattern = some (body, digits) ↔ Bracketed pattern body digits := by
  constructor
  · intro h
    unfold bracketed? at h
    split at h
    next rest =>
      simp only at h
      split at h
      next tail hdrop =>
        by_cases hempty : (rest.takeWhile (· ≠ ']')).isEmpty = true
        · rw [if_pos hempty] at h
          cases h
        · rw [if_neg hempty] at h
          obtain ⟨ds, hds, hpair⟩ := Option.map_eq_some_iff.mp h
          obtain ⟨rfl, rfl⟩ := Prod.mk.inj hpair
          have hrest : rest = rest.takeWhile (· ≠ ']') ++ ']' :: ':' :: tail := by
            rw [← hdrop]
            exact List.takeWhile_append_dropWhile.symm
          refine ⟨by simpa using hempty, fun hmem => ?_, ?_⟩
          · have hall := List.all_eq_true.mp (List.all_takeWhile (l := rest) (p := (· ≠ ']')))
            simpa using hall _ hmem
          · obtain ⟨number, hne, hdigits, htail⟩ := (portDigits?_eq_some_iff _ _).mp hds
            refine ⟨number, hne, hdigits, ?_⟩
            rcases htail with rfl | rfl
            · exact Or.inl (congrArg _ hrest)
            · exact Or.inr (congrArg _ hrest)
      next => cases h
    next => cases h
  · rintro ⟨hne, hclose, number, hnumber, hdigits, hpattern⟩
    have hread : ∀ tail : Text, portDigits? tail = some digits →
        bracketed? ('[' :: (body ++ ']' :: ':' :: tail)) = some (body, digits) := by
      intro tail htail
      obtain ⟨htake, hdrop⟩ := takeWhile_dropWhile_of_not_mem (':' :: tail) hclose
      simp only [bracketed?, htake, hdrop]
      simp [hne, htail]
    rcases hpattern with rfl | rfl
    · exact hread _ ((portDigits?_eq_some_iff _ _).mpr
        ⟨number, hnumber, hdigits, Or.inl rfl⟩)
    · exact hread _ ((portDigits?_eq_some_iff _ _).mpr
        ⟨number, hnumber, hdigits, Or.inr rfl⟩)

/-! ## Hashed patterns -/

theorem hashedOf_eq_hashed_iff (rest : Text) (s c : Bytes) :
    HostPattern.hashedOf ('|' :: '1' :: '|' :: rest) = .hashed s c ↔
      ∃ salt code : Text, rest = salt ++ '|' :: code ∧ '|' ∉ salt ∧ '|' ∉ code ∧
        Base64.decodeLenient salt = .ok s ∧ Base64.decodeLenient code = .ok c := by
  have hsplit : ('|' :: '1' :: '|' :: rest : Text).splitOn '|'
      = [] :: ['1'] :: rest.splitOn '|' := by
    simp [List.splitOn_cons_eq_if_modifyHead]
  constructor
  · intro h
    unfold HostPattern.hashedOf at h
    rw [hsplit] at h
    split at h
    next salt code hparts =>
      obtain ⟨-, hpair⟩ : _ ∧ rest.splitOn '|' = [salt, code] := by simpa using hparts
      obtain ⟨hrest, hsalt, hcode⟩ := Text.splitOn_eq_pair_iff.mp hpair
      split at h
      next hs hc =>
        cases h
        exact ⟨salt, code, hrest, hsalt, hcode, hs, hc⟩
      next => cases h
    next => cases h
  · rintro ⟨salt, code, hrest, hsalt, hcode, hs, hc⟩
    have hpair := Text.splitOn_eq_pair_iff.mpr ⟨hrest, hsalt, hcode⟩
    simp [HostPattern.hashedOf, hsplit, hpair, hs, hc]

theorem hashedOf_cases (pattern : Text) :
    (∃ s c, HostPattern.hashedOf pattern = .hashed s c) ∨
      HostPattern.hashedOf pattern = .unmatched := by
  unfold HostPattern.hashedOf
  split
  · split
    · exact Or.inl ⟨_, _, rfl⟩
    · exact Or.inr rfl
  · exact Or.inr rfl

/-! ## One pattern -/

theorem covers_hashed_iff (host : Text) (port : Int) (rest : Text) :
    Covers host port ('|' :: '1' :: '|' :: rest) ↔ ∃ s c,
      HostPattern.hashedOf ('|' :: '1' :: '|' :: rest) = .hashed s c ∧
        hostCode s (hostName host port) = c := by
  constructor
  · intro h
    generalize hp : ('|' :: '1' :: '|' :: rest : Text) = pattern at h
    cases h with
    | @hashed salt code s c hsalt hcode hs hc hmac =>
        obtain rfl : rest = salt ++ '|' :: code := by simpa using hp
        exact ⟨s, c, (hashedOf_eq_hashed_iff _ s c).mpr
          ⟨salt, code, rfl, hsalt, hcode, hs, hc⟩, hmac⟩
    | bracketed hb =>
        obtain ⟨-, -, number, -, -, h | h⟩ := hb <;> simp [← hp] at h
    | plain hhash =>
        exact absurd ⟨rest, by simpa using hp⟩ hhash
  · rintro ⟨s, c, hread, hmac⟩
    obtain ⟨salt, code, rfl, hsalt, hcode, hs, hc⟩ := (hashedOf_eq_hashed_iff _ s c).mp hread
    exact Covers.hashed hsalt hcode hs hc hmac

theorem ofText_hashed {pattern : Text} (h : IsHashed pattern) :
    HostPattern.ofText pattern = HostPattern.hashedOf pattern :=
  if_pos (List.isPrefixOf_iff_prefix.mpr h)

theorem patternCovers_hashed (host : Text) {port : Int}
    (hport : Text.Numeral.isWritable port = true) {pattern : Text} (h : IsHashed pattern) :
    ∃ hit, patternCovers host port pattern = .ok hit ∧
      (hit = true ↔ Covers host port pattern) := by
  rw [patternCovers, ofText_hashed h]
  obtain ⟨rest, rfl⟩ := h
  have hcovers := covers_hashed_iff host port rest
  rcases hashedOf_cases ('|' :: '1' :: '|' :: rest) with ⟨s, c, hsc⟩ | hnone
  · refine ⟨decide (hostCode s (hostName host port) = c), ?_, ?_⟩
    · change HostPattern.covers host port (.hashedOf ('|' :: '1' :: '|' :: rest)) = _
      rw [hsc, HostPattern.covers, hostText_of_isWritable hport]
      rfl
    · refine Iff.trans ?_ hcovers.symm
      simp [hsc, eq_comm]
  · refine ⟨false, ?_, ?_⟩
    · change HostPattern.covers host port (.hashedOf ('|' :: '1' :: '|' :: rest)) = _
      rw [hnone, HostPattern.covers, hostText_of_isWritable hport]
      rfl
    · refine Iff.trans ?_ hcovers.symm
      simp [hnone]

/-- A hashed pattern is not compared with a name that cannot be written. -/
theorem patternCovers_hashed_error (host : Text) {port : Int}
    (hport : Text.Numeral.isWritable port = false) {pattern : Text} (h : IsHashed pattern) :
    patternCovers host port pattern = .error .written := by
  rw [patternCovers, ofText_hashed h]
  rcases hashedOf_cases pattern with ⟨s, c, hsc⟩ | hnone
  · rw [hsc, HostPattern.covers, hostText_of_not_isWritable hport]
    rfl
  · rw [hnone, HostPattern.covers, hostText_of_not_isWritable hport]
    rfl

theorem ofText_of_not_hashed {pattern : Text} (h : ¬ "|1|".toList <+: pattern) :
    HostPattern.ofText pattern =
      match bracketed? pattern with
      | some (body, digits) => .bracketed body digits
      | none => .plain pattern := by
  have hprefix : ¬ "|1|".toList.isPrefixOf pattern = true := by
    rwa [List.isPrefixOf_iff_prefix]
  cases hbracket : bracketed? pattern <;>
    simp only [HostPattern.ofText, if_neg hprefix, hbracket]

theorem not_hashed_of_bracketed {pattern body : Text} {digits : List Nat}
    (h : Bracketed pattern body digits) : ¬ "|1|".toList <+: pattern := by
  rintro ⟨rest, rfl⟩
  obtain ⟨-, -, number, -, -, heq | heq⟩ := h <;> simp at heq

theorem Bracketed.unique {pattern body body' : Text} {digits digits' : List Nat}
    (h : Bracketed pattern body digits) (h' : Bracketed pattern body' digits') :
    body = body' ∧ digits = digits' := by
  have hsame := ((bracketed?_eq_some_iff _ _ _).mpr h).symm.trans
    ((bracketed?_eq_some_iff _ _ _).mpr h')
  simpa using hsame

/-- A bracketed pattern stands for the hosts that its name describes, at its port. -/
theorem covers_bracketed_iff (host : Text) (port : Int) {pattern body : Text}
    {digits : List Nat} (hb : Bracketed pattern body digits) :
    Covers host port pattern ↔
      port = (Text.Numeral.value digits : Int) ∧ NameMatches body host := by
  constructor
  · intro hc
    cases hc with
    | hashed => exact absurd ⟨_, rfl⟩ (not_hashed_of_bracketed hb)
    | bracketed hb' hport hname =>
        obtain ⟨rfl, rfl⟩ := hb.unique hb'
        exact ⟨hport, hname⟩
    | plain _ hno => exact absurd hb (hno body digits)
  · rintro ⟨hport, hname⟩
    exact Covers.bracketed hb hport hname

/-- A pattern without brackets or a hash stands for the hosts that it describes, at the
default port. -/
theorem covers_plain_iff (host : Text) (port : Int) {pattern : Text}
    (hhash : ¬ "|1|".toList <+: pattern) (hno : ∀ body digits, ¬ Bracketed pattern body digits) :
    Covers host port pattern ↔ port = 22 ∧ NameMatches pattern host := by
  constructor
  · intro hc
    cases hc with
    | hashed => exact absurd ⟨_, rfl⟩ hhash
    | bracketed hb => exact absurd hb (hno _ _)
    | plain _ _ hport hname => exact ⟨hport, hname⟩
  · rintro ⟨hport, hname⟩
    exact Covers.plain hhash hno hport hname

theorem patternCovers_bracketed (host : Text) (port : Int) {pattern body : Text}
    {digits : List Nat} (hb : Bracketed pattern body digits)
    (hshort : digits.length ≤ Text.Numeral.maxDigits) :
    ∃ hit, patternCovers host port pattern = .ok hit ∧
      (hit = true ↔ Covers host port pattern) := by
  have hread := (bracketed?_eq_some_iff pattern body digits).mpr hb
  refine ⟨port = (Text.Numeral.value digits : Int) && HostConfig.patternMatches host body,
    ?_, ?_⟩
  · rw [patternCovers, ofText_of_not_hashed (not_hashed_of_bracketed hb), hread]
    simp [HostPattern.covers, Text.Numeral.bounded, hshort, Except.map]
  · rw [Bool.and_eq_true, decide_eq_true_iff, patternMatches_iff, covers_bracketed_iff _ _ hb]

theorem patternCovers_plain (host : Text) (port : Int) {pattern : Text}
    (hhash : ¬ "|1|".toList <+: pattern) (hno : ∀ body digits, ¬ Bracketed pattern body digits) :
    ∃ hit, patternCovers host port pattern = .ok hit ∧
      (hit = true ↔ Covers host port pattern) := by
  have hread : bracketed? pattern = none := by
    cases h : bracketed? pattern with
    | none => rfl
    | some parts => exact absurd ((bracketed?_eq_some_iff _ _ _).mp h) (hno parts.1 parts.2)
  refine ⟨port = defaultPort && HostConfig.patternMatches host pattern, ?_, ?_⟩
  · rw [patternCovers, ofText_of_not_hashed hhash, hread]
    rfl
  · rw [Bool.and_eq_true, decide_eq_true_iff, patternMatches_iff, covers_plain_iff _ _ hhash hno]
    rfl

/-- A pattern without a port in the way gets an answer, and the answer is right. -/
theorem patternCovers_ok (host : Text) {port : Int} {pattern : Text} (h : ShortAt port pattern) :
    ∃ hit, patternCovers host port pattern = .ok hit ∧
      (hit = true ↔ Covers host port pattern) := by
  by_cases hhash : IsHashed pattern
  · exact patternCovers_hashed host (h.2 hhash) hhash
  · by_cases hb : ∃ body digits, Bracketed pattern body digits
    · obtain ⟨body, digits, hb⟩ := hb
      exact patternCovers_bracketed host port hb (h.1 body digits hb)
    · exact patternCovers_plain host port hhash fun body digits hbody => hb ⟨body, digits, hbody⟩

/-! ## A list of patterns -/

/-- The pattern without a `!` in front. -/
def bare (pattern : Text) : Text := (HostConfig.negated? pattern).getD pattern

theorem negated?_eq_none_iff (pattern : Text) :
    HostConfig.negated? pattern = none ↔ pattern.head? ≠ some '!' := by
  unfold HostConfig.negated?
  split
  · simp
  next hne =>
    cases pattern with
    | nil => simp
    | cons c rest =>
        simp only [List.head?_cons, ne_eq, Option.some.injEq, true_iff]
        rintro rfl
        exact hne rest rfl

theorem negated?_eq_some_iff (pattern body : Text) :
    HostConfig.negated? pattern = some body ↔ pattern = '!' :: body := by
  unfold HostConfig.negated?
  split
  · simp
  next hne =>
    simp only [reduceCtorEq, false_iff]
    exact hne body

/-- One step of the search, whichever kind of pattern comes first. -/
theorem searchPatterns_cons (host : Text) (port : Int) (found : Bool) (pattern : Text)
    (more : List Text) :
    searchPatterns host port found (pattern :: more) =
      (patternCovers host port (bare pattern)).bind fun hit =>
        if (HostConfig.negated? pattern).isSome then
          if hit then .ok false else searchPatterns host port found more
        else searchPatterns host port (found || hit) more := by
  rw [searchPatterns, bare]
  cases HostConfig.negated? pattern <;> rfl

theorem searchPatterns_ok (host : Text) {port : Int} (found : Bool) {patterns : List Text}
    (h : ∀ p ∈ patterns, ShortAt port (bare p)) :
    ∃ hit, searchPatterns host port found patterns = .ok hit ∧
      (hit = true ↔
        (found = true ∨ ∃ p ∈ patterns, p.head? ≠ some '!' ∧ Covers host port p) ∧
          ∀ body, '!' :: body ∈ patterns → ¬ Covers host port body) := by
  induction patterns generalizing found with
  | nil => exact ⟨found, rfl, by simp⟩
  | cons pattern more ih =>
      have hmore : ∀ p ∈ more, ShortAt port (bare p) := fun p hp => h p (by simp [hp])
      have hfirst : ShortAt port (bare pattern) := h pattern (by simp)
      cases hneg : HostConfig.negated? pattern with
      | some body =>
          obtain rfl := (negated?_eq_some_iff pattern body).mp hneg
          obtain ⟨hit, hread, hiff⟩ := patternCovers_ok host (show ShortAt port body from hfirst)
          by_cases hcover : Covers host port body
          · have htrue : hit = true := hiff.mpr hcover
            refine ⟨false, ?_, ?_⟩
            · simp [searchPatterns, hneg, hread, htrue, Except.bind]
            · simp only [Bool.false_eq_true, false_iff, not_and]
              intro _ hall
              exact hall body (by simp) hcover
          · have hfalse : hit = false := by simpa [hcover] using hiff
            obtain ⟨result, hresult, hspec⟩ := ih found hmore
            refine ⟨result, ?_, ?_⟩
            · simp [searchPatterns, hneg, hread, hfalse, hresult, Except.bind]
            · rw [hspec]
              simp only [List.mem_cons, List.cons.injEq, true_and, exists_eq_or_imp,
                List.head?_cons, ne_eq, not_true_eq_false, false_and, false_or,
                forall_eq_or_imp, hcover, not_false_eq_true]
      | none =>
          have hpos := (negated?_eq_none_iff pattern).mp hneg
          have hshort : ShortAt port pattern := by simpa [bare, hneg] using hfirst
          obtain ⟨hit, hread, hiff⟩ := patternCovers_ok host hshort
          obtain ⟨result, hresult, hspec⟩ := ih (found || hit) hmore
          refine ⟨result, ?_, ?_⟩
          · simp [searchPatterns, hneg, hread, hresult, Except.bind]
          · have hne : ∀ body, '!' :: body ≠ pattern := by
              rintro body rfl
              simp at hpos
            rw [hspec, Bool.or_eq_true, hiff]
            simp only [List.mem_cons, hne, false_or, exists_eq_or_imp, hpos, ne_eq,
              not_false_eq_true, true_and, or_assoc]

/-- A list of patterns without a port in the way gets an answer, and the answer is right. -/
theorem listCovers_ok (host : Text) {port : Int} {patterns : List Text}
    (h : ∀ p ∈ patterns, ShortAt port (bare p)) :
    ∃ hit, listCovers host port patterns = .ok hit ∧
      (hit = true ↔ ListCovers host port patterns) := by
  obtain ⟨hit, hread, hiff⟩ := searchPatterns_ok host false h
  exact ⟨hit, hread, by simpa [ListCovers] using hiff⟩

theorem listCovers_eq_true_iff (host : Text) {port : Int} {patterns : List Text}
    (h : ∀ p ∈ patterns, ShortAt port (bare p)) :
    listCovers host port patterns = .ok true ↔ ListCovers host port patterns := by
  obtain ⟨hit, hread, hiff⟩ := listCovers_ok host h
  rw [hread, Except.ok.injEq, hiff]

end SshTunnel.KnownHosts
