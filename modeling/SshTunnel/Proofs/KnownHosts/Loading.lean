import SshTunnel.KnownHosts.Store
import SshTunnel.Proofs.KnownHosts.Line
import SshTunnel.Proofs.OpenSsh.Library
import SshTunnel.Proofs.Report.Make
import SshTunnel.Proofs.Text.Utf8

/-!
# Loading a trust store as a whole

`Malformed` says what is wrong with a significant line. A text with such a line is refused with
the number of the first one, whatever follows it, and any other text gives one entry for each
significant line. A file is read the same way once its bytes are those of a text. What is said of
the error is said for a library that ends in no other way than by finding no key.
-/

namespace SshTunnel

/-- The failure is a report about the trust store at a path and about one of its lines, as far
as these are given. -/
def Failure.BlamesStore (failure : Failure) (path : Option Text) (line : Option Nat) : Prop :=
  ∃ report, failure.report? = some report ∧ report.kind = .trustStore ∧
    report.attributes = [("path".toList, (path.map Datum.text).getD .null),
      ("line_no".toList, (line.map fun n => Datum.int n).getD .null)]

theorem Failure.BlamesStore.line_unique {failure : Failure} {path : Option Text} {m n : Nat}
    (hm : failure.BlamesStore path (some m)) (hn : failure.BlamesStore path (some n)) :
    m = n := by
  obtain ⟨report, hreport, -, hattributes⟩ := hm
  obtain ⟨report', hreport', -, hattributes'⟩ := hn
  cases hreport.symm.trans hreport'
  have hsame : (m : Int) = n := by simpa using hattributes.symm.trans hattributes'
  exact Int.ofNat.inj hsame

namespace KnownHosts

variable {lib : Key.Library}

/-- The marker of a line, and all fields behind it. -/
inductive Fields (line : Text) : Marker → List Text → Prop where
  | unmarked (h : (Text.words line).head?.bind List.head? ≠ some '@') :
      Fields line .none (Text.words line)
  | marked {m : Marker} {fields : List Text} (hm : m ≠ .none)
      (h : Text.words line = m.text :: fields) : Fields line m fields

/-- What is wrong with a line: its first field starts as a marker and is none, it has too few
fields behind the marker, its data is not strict base64, or the library finds no key in what the
data encodes. -/
inductive Malformed (lib : Key.Library) (line : Text) : Prop where
  | marker {word : Text} {rest : List Text} (h : Text.words line = word :: rest)
      (hat : word.head? = some '@') (hrevoked : word ≠ "@revoked".toList)
      (hcert : word ≠ "@cert-authority".toList)
  | fewFields {m : Marker} {fields : List Text} (h : Fields line m fields)
      (hfew : fields.length < 3)
  | keyData {m : Marker} {hosts keyType data : Text} {comment : List Text}
      (h : Fields line m (hosts :: keyType :: data :: comment))
      (hdata : ∀ blob, Base64.decode data ≠ .ok blob)
  | publicKey {m : Marker} {hosts keyType data : Text} {comment : List Text} {blob : Bytes}
      (h : Fields line m (hosts :: keyType :: data :: comment))
      (hdata : Base64.decode data = .ok blob) (hkey : ∀ key, lib.decodePublic blob ≠ .ok key)

/-- The number is that of the first malformed line. -/
def FirstMalformed (lib : Key.Library) (lines : List (Nat × Text)) (number : Nat) : Prop :=
  ∃ before line after, lines = before ++ (number, line) :: after ∧ Malformed lib line ∧
    ∀ earlier ∈ before, ¬ Malformed lib earlier.2

/-! ## One line -/

theorem fields_iff (line : Text) (m : Marker) (fields : List Text) :
    Fields line m fields ↔ splitMarker (Text.words line) = .ok (m, fields) := by
  rw [splitMarker_eq_ok_iff]
  constructor
  · intro h
    cases h with
    | unmarked h => exact Or.inl ⟨rfl, rfl, h⟩
    | marked hm h => exact Or.inr ⟨hm, h⟩
  · rintro (⟨rfl, rfl, h⟩ | ⟨hm, h⟩)
    · exact .unmarked h
    · exact .marked hm h

theorem Fields.unique {line : Text} {m m' : Marker} {fields fields' : List Text}
    (h : Fields line m fields) (h' : Fields line m' fields') : m = m' ∧ fields = fields' := by
  have hsame := ((fields_iff _ _ _).mp h).symm.trans ((fields_iff _ _ _).mp h')
  simpa using hsame

theorem Marker.ofText?_eq_none_iff (word : Text) : Marker.ofText? word = Option.none ↔
    word ≠ "@revoked".toList ∧ word ≠ "@cert-authority".toList := by
  constructor
  · intro h
    constructor
    · rintro rfl
      cases h
    · rintro rfl
      cases h
  · rintro ⟨hrevoked, hcert⟩
    cases h : Marker.ofText? word with
    | none => rfl
    | some m =>
        obtain ⟨hm, hword⟩ := (Marker.ofText?_eq_some_iff word m).mp h
        cases m with
        | none => exact absurd rfl hm
        | revoked => exact absurd hword hrevoked
        | certAuthority => exact absurd hword hcert

/-- The fields of a line with a word that is no marker cannot be told. -/
theorem not_fields_of_marker {line word : Text} {rest : List Text}
    (h : Text.words line = word :: rest) (hat : word.head? = some '@')
    (hmarker : Marker.ofText? word = none) (m : Marker) (fields : List Text) :
    ¬ Fields line m fields := by
  rw [fields_iff, h]
  simp [splitMarker, hat, hmarker]

/-- A malformed line writes no entry. -/
theorem Malformed.not_writes {line : Text} (h : Malformed lib line) (e : Entry) :
    ¬ Writes lib line e := by
  rintro ⟨hosts, data, hsays, hdecode, ⟨key, hkey⟩, -⟩
  obtain ⟨comment, hsplit⟩ := hsays.splitMarker
  have hfields := (fields_iff _ _ _).mpr hsplit
  cases h with
  | marker hwords hat hrevoked hcert =>
      have hmarker := (Marker.ofText?_eq_none_iff _).mpr ⟨hrevoked, hcert⟩
      exact not_fields_of_marker hwords hat hmarker _ _ hfields
  | fewFields hfew hlength =>
      obtain ⟨-, rfl⟩ := hfew.unique hfields
      simp only [List.length_cons] at hlength
      omega
  | keyData hsame hdata =>
      obtain ⟨-, hsame⟩ := hsame.unique hfields
      cases hsame
      exact hdata _ hdecode
  | publicKey hsame hdata hno =>
      obtain ⟨-, hsame⟩ := hsame.unique hfields
      cases hsame
      cases hdata.symm.trans hdecode
      exact hno key hkey

theorem malformed_of_ofFields {line : Text} {m : Marker} {fields : List Text} {number : Nat}
    {problem : LineProblem} (hfields : Fields line m fields)
    (h : Entry.ofFields lib number m fields = .error problem) : Malformed lib line := by
  rcases fields with - | ⟨hosts, - | ⟨keyType, - | ⟨data, comment⟩⟩⟩
  · exact .fewFields hfields (by simp)
  · exact .fewFields hfields (by simp)
  · exact .fewFields hfields (by simp)
  · cases hdata : Base64.decode data with
    | error flaw => exact .keyData hfields (by simp [hdata])
    | ok blob =>
        cases hkey : lib.decodePublic blob with
        | error problem => exact .publicKey hfields hdata (by simp [hkey])
        | ok key => simp [Entry.ofFields, hdata, hkey] at h

/-- A line cannot be read exactly when it is malformed. -/
theorem malformed_iff (lib : Key.Library) (number : Nat) (line : Text) :
    Malformed lib line ↔ ∃ problem, Entry.ofLine lib number line = .error problem := by
  constructor
  · intro h
    cases hline : Entry.ofLine lib number line with
    | error problem => exact ⟨problem, rfl⟩
    | ok e => exact absurd ((ofLine_eq_ok_iff _ _ _ _).mp hline).1 (h.not_writes e)
  · rintro ⟨problem, h⟩
    cases hsplit : splitMarker (Text.words line) with
    | ok parts =>
        rw [Entry.ofLine, hsplit] at h
        exact malformed_of_ofFields ((fields_iff _ _ _).mpr hsplit) h
    | error e =>
        cases hwords : Text.words line with
        | nil => simp [hwords, splitMarker] at hsplit
        | cons word rest =>
            rw [hwords, splitMarker] at hsplit
            split at hsplit
            next hat =>
              cases hmarker : Marker.ofText? word with
              | some m => simp [hmarker] at hsplit
              | none =>
                  obtain ⟨hrevoked, hcert⟩ := (Marker.ofText?_eq_none_iff word).mp hmarker
                  exact .marker hwords hat hrevoked hcert
            next => cases hsplit

/-! ## All lines -/

theorem not_firstMalformed_nil (lib : Key.Library) (number : Nat) :
    ¬ FirstMalformed lib [] number := by
  rintro ⟨before, line, after, hlines, -⟩
  cases before <;> cases hlines

theorem firstMalformed_cons_of_malformed {first : Nat × Text} (h : Malformed lib first.2)
    (rest : List (Nat × Text)) (number : Nat) :
    FirstMalformed lib (first :: rest) number ↔ number = first.1 := by
  constructor
  · rintro ⟨before, line, after, hlines, -, hbefore⟩
    cases before with
    | nil =>
        cases hlines
        rfl
    | cons earlier before =>
        cases hlines
        exact absurd h (hbefore first (by simp))
  · rintro rfl
    exact ⟨[], first.2, rest, rfl, h, by simp⟩

theorem firstMalformed_cons {first : Nat × Text} (h : ¬ Malformed lib first.2)
    (rest : List (Nat × Text)) (number : Nat) :
    FirstMalformed lib (first :: rest) number ↔ FirstMalformed lib rest number := by
  constructor
  · rintro ⟨before, line, after, hlines, hline, hbefore⟩
    cases before with
    | nil =>
        cases hlines
        exact absurd hline h
    | cons earlier before =>
        cases hlines
        exact ⟨before, line, after, rfl, hline, fun l hl => hbefore l (by simp [hl])⟩
  · rintro ⟨before, line, after, rfl, hline, hbefore⟩
    refine ⟨first :: before, line, after, rfl, hline, ?_⟩
    intro earlier hearlier
    rcases List.mem_cons.mp hearlier with rfl | hearlier
    · exact h
    · exact hbefore earlier hearlier

/-- Reading lines is refused at the first malformed one among those that say something. -/
theorem readLines_eq_error_iff (lib : Key.Library) (numbered : List (Nat × Text)) (number : Nat) :
    (∃ problem, readLines lib numbered = .error ⟨number, problem⟩) ↔
      FirstMalformed lib (significantOf numbered) number := by
  induction numbered with
  | nil =>
      simp only [readLines, reduceCtorEq, exists_false, false_iff]
      exact not_firstMalformed_nil lib number
  | cons first rest ih =>
      obtain ⟨position, line⟩ := first
      cases hsig : isSignificant (Text.trim line) with
      | false =>
          obtain ⟨hread, hlines⟩ := readLines_skip lib position hsig rest
          rw [hread, hlines]
          exact ih
      | true =>
          rw [significantOf_cons hsig]
          cases hline : Entry.ofLine lib position (Text.trim line) with
          | error problem =>
              have hmalformed : Malformed lib (Text.trim line) :=
                (malformed_iff lib position _).mpr ⟨problem, hline⟩
              rw [readLines_error hsig hline, firstMalformed_cons_of_malformed hmalformed]
              simp [eq_comm]
          | ok e =>
              have hformed : ¬ Malformed lib (Text.trim line) := by
                rw [malformed_iff lib position, hline]
                simp
              rw [readLines_ok hsig hline, firstMalformed_cons hformed, ← ih]
              cases readLines lib rest <;> simp [Except.map]

theorem parse_eq_error_iff (lib : Key.Library) (t : Text) (number : Nat) :
    (∃ problem, parse lib t = .error ⟨number, problem⟩) ↔
      FirstMalformed lib (numberedSignificant t) number :=
  readLines_eq_error_iff _ _ _

theorem parse_eq_ok_iff (lib : Key.Library) (t : Text) (entries : List Entry) :
    parse lib t = .ok entries ↔ List.Forall₂ (Records lib) (numberedSignificant t) entries :=
  readLines_eq_ok_iff _ _ _

/-- There is a first malformed line when there is one at all. -/
theorem exists_firstMalformed_iff (lib : Key.Library) (lines : List (Nat × Text)) :
    (∃ number, FirstMalformed lib lines number) ↔ ∃ line ∈ lines, Malformed lib line.2 := by
  induction lines with
  | nil => simp [not_firstMalformed_nil]
  | cons first rest ih =>
      by_cases h : Malformed lib first.2
      · simp [firstMalformed_cons_of_malformed h, h]
      · simp [firstMalformed_cons h, ih, h]

/-! ## Reports -/

theorem escaping?_of_ofFields (hlib : lib.DecodesCleanly) {number : Nat} {m : Marker}
    {fields : List Text} {problem : LineProblem}
    (h : Entry.ofFields lib number m fields = .error problem) : problem.escaping? = none := by
  unfold Entry.ofFields at h
  split at h
  next =>
    split at h
    next =>
      cases h
      rfl
    next =>
      split at h
      next problem hkey =>
        cases h
        rw [LineProblem.escaping?, if_pos (hlib _ problem hkey)]
      next => cases h
  next =>
    cases h
    rfl

theorem escaping?_of_splitMarker {ws : List Text} {problem : LineProblem}
    (h : splitMarker ws = .error problem) : problem.escaping? = none := by
  unfold splitMarker at h
  split at h
  next => cases h
  next =>
    split at h
    next =>
      split at h
      next => cases h
      next =>
        cases h
        rfl
    next => cases h

/-- When the library ends in no other way than by finding no key, every line that is not well
formed is reported. -/
theorem escaping?_of_ofLine (hlib : lib.DecodesCleanly) {number : Nat} {line : Text}
    {problem : LineProblem} (h : Entry.ofLine lib number line = .error problem) :
    problem.escaping? = none := by
  cases hsplit : splitMarker (Text.words line) with
  | error p =>
      rw [Entry.ofLine, hsplit] at h
      cases h
      exact escaping?_of_splitMarker hsplit
  | ok parts =>
      rw [Entry.ofLine, hsplit] at h
      exact escaping?_of_ofFields hlib h

theorem escaping?_of_readLines (hlib : lib.DecodesCleanly) {numbered : List (Nat × Text)}
    {e : LineError} (h : readLines lib numbered = .error e) : e.problem.escaping? = none := by
  induction numbered with
  | nil => cases h
  | cons first rest ih =>
      obtain ⟨number, line⟩ := first
      cases hsig : isSignificant (Text.trim line) with
      | false => exact ih ((readLines_skip lib number hsig rest).1 ▸ h)
      | true =>
          cases hline : Entry.ofLine lib number (Text.trim line) with
          | error problem =>
              rw [readLines_error hsig hline] at h
              cases h
              exact escaping?_of_ofLine hlib hline
          | ok entry =>
              rw [readLines_ok hsig hline] at h
              cases hrest : readLines lib rest with
              | error e' =>
                  rw [hrest] at h
                  cases h
                  exact ih hrest
              | ok more => simp [hrest, Except.map] at h

theorem trustStore_blames {message : Text} (path : Option Text) (line : Option Nat)
    (cause : Option Failure) (h : Text.isBlankText message = false) :
    (Failure.ofMade (Report.trustStore (.text message) ((path.map Datum.text).getD .null)
      ((line.map fun n => Datum.int n).getD .null) Context.empty).outcome cause).BlamesStore
        path line := by
  obtain ⟨report, hmade, hkind, -, hattributes⟩ := Report.located_report .trustStore
    "known_hosts_path".toList ((path.map Datum.text).getD .null)
    ((line.map fun n => Datum.int n).getD .null) Context.keepsRecord_empty h
  refine ⟨report, ?_, hkind, hattributes⟩
  rw [Report.trustStore, hmade]
  cases cause <;> rfl

/-- A line that is not well formed is reported with its number, unless the library ended in
another way than by finding no key. -/
theorem LoadError.line_blames (path : Option Text) {e : LineError}
    (h : e.problem.escaping? = none) :
    (LoadError.line path e).failure.BlamesStore path (some e.line) := by
  rw [LoadError.failure, h]
  apply trustStore_blames path (some e.line)
  exact Text.isBlankText_eq_false (c := ':') (by simp) (by decide)

/-- Bytes that are no text are reported without a line. -/
theorem LoadError.notUtf8_blames (path : Text) (e : Utf8.Malformed) :
    (LoadError.notUtf8 path e).failure.BlamesStore (some path) none := by
  apply trustStore_blames (some path) none
  exact Text.isBlankText_eq_false (c := 'c') (by simp) (by decide)

/-! ## Stores -/

/-- A text is loaded strictly and as a whole, for a store at a path: it is refused with the
number of the first malformed line, and it is a store when no significant line is malformed,
with one entry for each of them. -/
structure LoadsStrictly (lib : Key.Library) (path : Option Path) (t : Text)
    (outcome : Except LoadError KnownHosts) : Prop where
  refused_iff : ∀ number, (∃ e, outcome = .error e ∧
    e.failure.BlamesStore (path.map Path.text) (some number)) ↔
      FirstMalformed lib (numberedSignificant t) number
  loaded_iff : (∃ store, outcome = .ok store) ↔
    ¬ ∃ line ∈ numberedSignificant t, Malformed lib line.2
  loaded : ∀ store, outcome = .ok store ↔ store.path = path ∧
    List.Forall₂ (Records lib) (numberedSignificant t) store.entries

/-- The store of a text, or why there is none. -/
def outcomeOf (lib : Key.Library) (path : Option Path) (t : Text) :
    Except LoadError KnownHosts :=
  match parse lib t with
  | .error e => .error (.line (path.map Path.text) e)
  | .ok entries => .ok ⟨entries, path⟩

theorem outcomeOf_loadsStrictly (hlib : lib.DecodesCleanly) (path : Option Path) (t : Text) :
    LoadsStrictly lib path t (outcomeOf lib path t) := by
  unfold outcomeOf
  cases hparse : parse lib t with
  | error e =>
      have hfirst : FirstMalformed lib (numberedSignificant t) e.line :=
        (parse_eq_error_iff _ _ _).mp ⟨e.problem, hparse⟩
      have hblames := LoadError.line_blames (path.map Path.text)
        (escaping?_of_readLines hlib hparse)
      refine ⟨fun number => ?_, ?_, fun store => ?_⟩
      · rw [← parse_eq_error_iff, hparse]
        constructor
        · rintro ⟨e', he', hblames'⟩
          cases he'
          obtain rfl := hblames.line_unique hblames'
          exact ⟨e.problem, rfl⟩
        · rintro ⟨problem, hproblem⟩
          cases hproblem
          exact ⟨_, rfl, hblames⟩
      · rw [← exists_firstMalformed_iff]
        simp only [reduceCtorEq, exists_false, false_iff, not_not]
        exact ⟨e.line, hfirst⟩
      · simp only [reduceCtorEq, false_iff, not_and]
        intro _ hrecords
        rw [← parse_eq_ok_iff, hparse] at hrecords
        cases hrecords
  | ok entries =>
      refine ⟨fun number => ?_, ?_, fun store => ?_⟩
      · rw [← parse_eq_error_iff, hparse]
        simp
      · rw [← exists_firstMalformed_iff]
        simp only [← parse_eq_error_iff, hparse]
        simp
      · rw [← parse_eq_ok_iff, hparse]
        obtain ⟨entries', path'⟩ := store
        simp [eq_comm, and_comm]

theorem ofText_eq (lib : Key.Library) (t : Text) : ofText lib t = outcomeOf lib none t := rfl

/-- The path can be opened, and this is the content of the file there. -/
def FileAt (files : Files.Tree) (path : Path) (content : Bytes) : Prop :=
  path.text.contains Files.nul = false ∧ files.read path.text = .ok content

theorem ofFile_eq {files : Files.Tree} {path : Path} {content : Bytes}
    (h : FileAt files path content) :
    ofFile lib files path = match Utf8.decode content with
      | .error e => .error (.notUtf8 path.text e)
      | .ok t => outcomeOf lib (some path) (Text.unifyNewlines t) := by
  obtain ⟨hnul, hread⟩ := h
  simp only [ofFile, hnul, Bool.false_eq_true, ↓reduceIte, hread]
  rfl

/-- A text is loaded strictly and as a whole, and so is a file whose bytes are those of a text,
with one kind of line end. A file with any other bytes is refused as a whole. -/
theorem store_loadsStrictly (hlib : lib.DecodesCleanly) :
    (∀ t, LoadsStrictly lib none t (ofText lib t)) ∧
      ∀ (files : Files.Tree) (path : Path) (content : Bytes), FileAt files path content →
        (∀ t, content = Utf8.encode t →
          LoadsStrictly lib (some path) (Text.unifyNewlines t) (ofFile lib files path)) ∧
        ((¬ ∃ t, content = Utf8.encode t) →
          ∃ e, ofFile lib files path = .error e ∧ e.failure.BlamesStore (some path.text) none) := by
  constructor
  · intro t
    rw [ofText_eq]
    exact outcomeOf_loadsStrictly hlib none t
  · intro files path content hfile
    rw [ofFile_eq hfile]
    constructor
    · rintro t rfl
      rw [(Utf8.decode_eq_ok_iff _ t).mpr rfl]
      exact outcomeOf_loadsStrictly hlib (some path) (Text.unifyNewlines t)
    · intro hno
      cases hdecode : Utf8.decode content with
      | ok t => exact absurd ⟨t, (Utf8.decode_eq_ok_iff _ t).mp hdecode⟩ hno
      | error e => exact ⟨_, rfl, LoadError.notUtf8_blames path.text e⟩

/-! ## A store with a line that is cut short -/

/-- A key with nothing but zeros in it. -/
def zeroKey : PublicKey := OpenSsh.keyOf .ed25519 [List.replicate 32 0]

/-- The fields of a line for a key. -/
def zeroLine : Text :=
  "db,,10.0.0.1 ssh-ed25519 ".toList ++ Base64.encode zeroKey.blob

/-- A comment, a line that is well formed, and two that are not. -/
def cutSample : Text :=
  "# keys\r\n".toList ++ zeroLine ++ "\r\n\r\n @revoked * ssh-rsa\r\n@x\r\n".toList

/-- The store under one name, and bytes that are no text under another. -/
def cutFiles : Files.Tree :=
  ⟨[(["k".toList], .file (Utf8.encode cutSample)), (["b".toList], .file [0x23, 0xff])], []⟩

theorem zeroLine_not_malformed : ¬ Malformed OpenSsh.library zeroLine := by
  have hok : (Entry.ofLine OpenSsh.library 2 zeroLine).isOk = true := by decide +kernel
  rw [malformed_iff _ 2]
  rintro ⟨problem, hproblem⟩
  rw [hproblem] at hok
  cases hok

theorem cutFiles_refused : OpenSsh.library.DecodesCleanly ∧
    (FileAt cutFiles (Path.ofText "/k".toList) (Utf8.encode cutSample) ∧
      ∃ e, ofFile OpenSsh.library cutFiles (Path.ofText "/k".toList) = .error e ∧
        e.failure.BlamesStore (some "/k".toList) (some 4)) ∧
    FileAt cutFiles (Path.ofText "/b".toList) [0x23, 0xff] ∧
      ∃ e, ofFile OpenSsh.library cutFiles (Path.ofText "/b".toList) = .error e ∧
        e.failure.BlamesStore (some "/b".toList) none := by
  refine ⟨OpenSsh.library_decodesCleanly, ?_, ?_⟩
  · have hfile : FileAt cutFiles (Path.ofText "/k".toList) (Utf8.encode cutSample) := by
      constructor <;> decide +kernel
    refine ⟨hfile, ?_⟩
    obtain ⟨hload, -⟩ := (store_loadsStrictly OpenSsh.library_decodesCleanly).2 cutFiles
      (Path.ofText "/k".toList) _ hfile
    have hfirst : FirstMalformed OpenSsh.library
        (numberedSignificant (Text.unifyNewlines cutSample)) 4 := by
      refine ⟨[(2, zeroLine)], "@revoked * ssh-rsa".toList, [(5, "@x".toList)], ?_, ?_, ?_⟩
      · decide +kernel
      · exact .fewFields (m := .revoked) (.marked (by decide) rfl) (by decide)
      · rintro earlier hearlier
        obtain rfl : earlier = (2, zeroLine) := by simpa using hearlier
        exact zeroLine_not_malformed
    exact ((hload cutSample rfl).refused_iff 4).mpr hfirst
  · have hfile : FileAt cutFiles (Path.ofText "/b".toList) [0x23, 0xff] := by
      constructor <;> decide +kernel
    refine ⟨hfile, ?_⟩
    obtain ⟨-, hrefuse⟩ := (store_loadsStrictly OpenSsh.library_decodesCleanly).2 cutFiles
      (Path.ofText "/b".toList) _ hfile
    apply hrefuse
    rintro ⟨t, ht⟩
    have hdecode := (Utf8.decode_eq_ok_iff [0x23, 0xff] t).mpr ht
    have hbad : (Utf8.decode [0x23, 0xff]).isOk = false := by decide
    rw [hdecode] at hbad
    cases hbad

end KnownHosts

end SshTunnel
