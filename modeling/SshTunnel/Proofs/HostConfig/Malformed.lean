import SshTunnel.Resolve.Resolver
import SshTunnel.Proofs.HostConfig.Arguments
import SshTunnel.Proofs.HostConfig.Grammar
import SshTunnel.Proofs.HostConfig.Lookup
import SshTunnel.Proofs.Report.Make

/-!
# Malformed lines of a configuration

`Malformed` says what is wrong with a line, by its keyword and its value. A file without Include
lines is refused with its path and the number of its first malformed line, whatever follows, and
it is refused for no other reason.
-/

namespace SshTunnel

/-- The failure is a report about the host configuration at a path and about one of its lines. -/
def Failure.BlamesConfig (failure : Failure) (path : Text) (line : Nat) : Prop :=
  ∃ report, failure.report? = some report ∧ report.kind = .sshConfig ∧
    report.attributes = [("path".toList, .text path), ("line_no".toList, .int line)]

theorem Failure.BlamesConfig.line_unique {failure : Failure} {path : Text} {m n : Nat}
    (hm : failure.BlamesConfig path m) (hn : failure.BlamesConfig path n) : m = n := by
  obtain ⟨report, hreport, -, hattributes⟩ := hm
  obtain ⟨report', hreport', -, hattributes'⟩ := hn
  cases hreport.symm.trans hreport'
  have hsame : (m : Int) = n := by simpa using hattributes.symm.trans hattributes'
  exact Int.ofNat.inj hsame

namespace HostConfig

/-- What is wrong with a line: it has no value, its keyword is that of a block that is not
supported, it is a Host line without a pattern, or a quote stays open in its value. Whether one
stays open in the value of an Include line is only seen when its files are read. -/
inductive Malformed (line : Text) : Prop where
  | noValue {keyword : Text} (h : Writes line keyword [])
  | matchBlock {keyword value : Text} (h : Writes line keyword value)
      (hmatch : Text.lower keyword = "match".toList)
  | noPattern {keyword value : Text} (h : Writes line keyword value)
      (hhost : Text.lower keyword = "host".toList) (hnone : ¬ HasArgument value)
  | openQuote {keyword value : Text} (h : Writes line keyword value)
      (hinclude : Text.lower keyword ≠ "include".toList) (hopen : IsOpen value)

/-- The line is an Include line with a value. -/
def IsInclude (line : Text) : Prop :=
  ∃ keyword value, Writes line keyword value ∧ value ≠ [] ∧
    Text.lower keyword = "include".toList

/-- The number is that of the first malformed line. -/
def FirstMalformed (lines : List (Nat × Text)) (number : Nat) : Prop :=
  ∃ before line after, lines = before ++ (number, line) :: after ∧ Malformed line ∧
    ∀ earlier ∈ before, ¬ Malformed earlier.2

/-! ## One line -/

/-- A keyword in lower case and a value say nothing together exactly in these cases. -/
theorem ofParts_eq_error_iff (keyword value : Text) :
    (∃ problem, Statement.ofParts keyword value = .error problem) ↔
      keyword = "match".toList ∨ (keyword = "host".toList ∧ ¬ HasArgument value) ∨
        (keyword ≠ "include".toList ∧ IsOpen value) := by
  unfold Statement.ofParts
  by_cases hhost : keyword = "host".toList
  · subst hhost
    rw [if_pos rfl]
    cases hlist : arguments? value with
    | none =>
        have hopen := (arguments?_eq_none_iff value).mp hlist
        simp [hopen]
    | some list =>
        have hopen : ¬ IsOpen value := by simp [← arguments?_eq_none_iff, hlist]
        have hnil := arguments?_eq_nil_iff value
        rw [hlist] at hnil
        cases list with
        | nil => simpa [hopen] using hnil
        | cons first more =>
            have hhas : HasArgument value := by simpa [hopen] using hnil
            simp [hopen, hhas]
  · rw [if_neg hhost]
    by_cases hmatch : keyword = "match".toList
    · simp [hmatch]
    · rw [if_neg hmatch]
      by_cases hinclude : keyword = "include".toList
      · subst hinclude
        simp
      · rw [if_neg hinclude]
        cases hvalue : unquote? value with
        | none =>
            have hopen := (unquote?_eq_none_iff value).mp hvalue
            exact ⟨fun _ => Or.inr (Or.inr ⟨hinclude, hopen⟩), fun _ => ⟨_, rfl⟩⟩
        | some v =>
            have hopen : ¬ IsOpen value := by simp [← unquote?_eq_none_iff, hvalue]
            constructor
            · rintro ⟨problem, h⟩
              cases h
            · rintro (h | ⟨h, -⟩ | ⟨-, h⟩)
              · exact absurd h hmatch
              · exact absurd h hhost
              · exact absurd h hopen

theorem Writes.ofLine_eq_error_iff {line keyword value : Text} (h : Writes line keyword value) :
    (∃ problem, Statement.ofLine line = .error problem) ↔
      value = [] ∨ ∃ problem, Statement.ofParts (Text.lower keyword) value = .error problem := by
  obtain ⟨hmissing, hstated⟩ := h.ofLine
  by_cases hvalue : value = []
  · obtain ⟨word, -, hline⟩ := hmissing hvalue
    simp [hline, hvalue]
  · rw [hstated hvalue]
    cases Statement.ofParts (Text.lower keyword) value <;> simp [Except.map, hvalue]

/-- A line cannot be read exactly when it is malformed. -/
theorem malformed_iff (line : Text) :
    Malformed line ↔ ∃ problem, Statement.ofLine line = .error problem := by
  constructor
  · intro h
    cases h with
    | noValue h => exact h.ofLine_eq_error_iff.mpr (Or.inl rfl)
    | matchBlock h hmatch =>
        exact h.ofLine_eq_error_iff.mpr (Or.inr ((ofParts_eq_error_iff _ _).mpr (Or.inl hmatch)))
    | noPattern h hhost hnone =>
        exact h.ofLine_eq_error_iff.mpr
          (Or.inr ((ofParts_eq_error_iff _ _).mpr (Or.inr (Or.inl ⟨hhost, hnone⟩))))
    | openQuote h hinclude hopen =>
        exact h.ofLine_eq_error_iff.mpr
          (Or.inr ((ofParts_eq_error_iff _ _).mpr (Or.inr (Or.inr ⟨hinclude, hopen⟩))))
  · intro hproblem
    obtain ⟨keyword, value, h⟩ : ∃ keyword value, Writes line keyword value := by
      obtain ⟨problem, hline⟩ := hproblem
      have hnone : Statement.ofLine line ≠ .ok none := by simp [hline]
      exact exists_writes (isSignificant_of_ofLine hnone)
    rcases h.ofLine_eq_error_iff.mp hproblem with rfl | hparts
    · exact .noValue h
    · rcases (ofParts_eq_error_iff _ _).mp hparts with hmatch | ⟨hhost, hnone⟩ | ⟨hinclude, hopen⟩
      · exact .matchBlock h hmatch
      · exact .noPattern h hhost hnone
      · exact .openQuote h hinclude hopen

/-- What makes a line malformed, by its keyword and its value. -/
theorem Writes.malformed_iff {line keyword value : Text} (h : Writes line keyword value) :
    Malformed line ↔ value = [] ∨ Text.lower keyword = "match".toList ∨
      (Text.lower keyword = "host".toList ∧ ¬ HasArgument value) ∨
        (Text.lower keyword ≠ "include".toList ∧ IsOpen value) := by
  rw [HostConfig.malformed_iff, h.ofLine_eq_error_iff, ofParts_eq_error_iff]

/-- When a line has a value and, as a Host line, a pattern, only an open quote is left to make it
malformed. -/
theorem Writes.malformed_iff_isOpen {line keyword value : Text} (h : Writes line keyword value)
    (hne : value ≠ []) (hmatch : Text.lower keyword ≠ "match".toList)
    (hinclude : Text.lower keyword ≠ "include".toList)
    (hhost : Text.lower keyword = "host".toList → IsOpen value ∨ HasArgument value) :
    Malformed line ↔ IsOpen value := by
  rw [h.malformed_iff]
  constructor
  · rintro (hnil | heq | ⟨heq, hnone⟩ | ⟨-, hopen⟩)
    · exact absurd hnil hne
    · exact absurd heq hmatch
    · exact (hhost heq).resolve_right hnone
    · exact hopen
  · exact fun hopen => Or.inr (Or.inr (Or.inr ⟨hinclude, hopen⟩))

theorem Writes.isInclude_iff {line keyword value : Text} (h : Writes line keyword value) :
    IsInclude line ↔ value ≠ [] ∧ Text.lower keyword = "include".toList := by
  constructor
  · rintro ⟨keyword', value', h', hvalue, hinclude⟩
    obtain ⟨rfl, rfl⟩ := h.unique h'
    exact ⟨hvalue, hinclude⟩
  · rintro ⟨hvalue, hinclude⟩
    exact ⟨keyword, value, h, hvalue, hinclude⟩

/-- The Include lines with a value are those that name files. -/
theorem isInclude_iff (line : Text) :
    IsInclude line ↔ ∃ arguments, Statement.ofLine line = .ok (some (.files arguments)) := by
  simp only [ofLine_eq_some_iff, ofParts_eq_files_iff]
  constructor
  · rintro ⟨keyword, value, hwrites, hvalue, hinclude⟩
    exact ⟨value, keyword, value, hwrites, hvalue, hinclude, rfl⟩
  · rintro ⟨_, keyword, value, hwrites, hvalue, hinclude, -⟩
    exact ⟨keyword, value, hwrites, hvalue, hinclude⟩

instance (line : Text) : Decidable (IsInclude line) :=
  match h : Statement.ofLine line with
  | .ok (some (.files arguments)) => isTrue ((isInclude_iff line).mpr ⟨arguments, h⟩)
  | .ok (some (.host _)) => isFalse (by simp [isInclude_iff, h])
  | .ok (some (.directive _)) => isFalse (by simp [isInclude_iff, h])
  | .ok none => isFalse (by simp [isInclude_iff, h])
  | .error _ => isFalse (by simp [isInclude_iff, h])

/-! ## All lines -/

/-- The error of a numbered line in the file at a path. -/
def lineError? (path : Text) (numbered : Nat × Text) : Option LoadError :=
  match Statement.ofLine numbered.2 with
  | .error problem => some (.line ⟨path, numbered.1, problem⟩)
  | .ok _ => none

theorem lineError?_eq_none_iff (path : Text) (numbered : Nat × Text) :
    lineError? path numbered = none ↔ ¬ Malformed numbered.2 := by
  rw [malformed_iff, lineError?]
  cases Statement.ofLine numbered.2 <;> simp

/-- The first error of lines is that of the first malformed one. -/
theorem firstMalformed_iff (path : Text) (lines : List (Nat × Text)) (number : Nat) :
    FirstMalformed lines number ↔
      ∃ problem, lines.findSome? (lineError? path) = some (.line ⟨path, number, problem⟩) := by
  constructor
  · rintro ⟨before, line, after, rfl, hline, hbefore⟩
    obtain ⟨problem, hproblem⟩ := (malformed_iff line).mp hline
    refine ⟨problem, List.findSome?_eq_some_iff.mpr ⟨before, (number, line), after, rfl, ?_, ?_⟩⟩
    · simp [lineError?, hproblem]
    · exact fun earlier hearlier => (lineError?_eq_none_iff path earlier).mpr (hbefore _ hearlier)
  · rintro ⟨problem, hfirst⟩
    obtain ⟨before, ⟨number', line⟩, after, rfl, hline, hbefore⟩ :=
      List.findSome?_eq_some_iff.mp hfirst
    have hmalformed : Malformed line := by
      by_contra hnot
      rw [(lineError?_eq_none_iff path (number', line)).mpr hnot] at hline
      cases hline
    obtain rfl : number' = number := by
      unfold lineError? at hline
      split at hline
      · simp only [Option.some.injEq, LoadError.line.injEq, LineError.mk.injEq] at hline
        exact hline.2.1
      · cases hline
    exact ⟨before, line, after, rfl, hmalformed,
      fun earlier hearlier => (lineError?_eq_none_iff path earlier).mp (hbefore _ hearlier)⟩

/-- Without Include lines the first problem of a reading is the first error of its lines. -/
theorem problem?_ofLines_eq {path : Text} {bring : Nat → Text → Reading → Reading}
    {lines : List (Nat × Text)} (h : ∀ numbered ∈ lines, ¬ IsInclude numbered.2) :
    (Reading.ofLines path bring lines).problem? = lines.findSome? (lineError? path) := by
  induction lines with
  | nil => rfl
  | cons numbered lines ih =>
      obtain ⟨number, line⟩ := numbered
      rw [List.forall_mem_cons] at h
      have hrest := ih h.2
      rw [Reading.ofLines, List.findSome?_cons]
      cases hline : Statement.ofLine line with
      | error problem => simp [lineError?, hline, Reading.problem?]
      | ok statement =>
          simp only [lineError?, hline, ← hrest]
          rcases statement with - | patterns | arguments | d
          · rfl
          · rfl
          · exact absurd ((isInclude_iff line).mpr ⟨arguments, hline⟩) h.1
          · rfl

section File

variable {env : Environment} {path : Path} {content : Bytes}

/-- A file without Include lines is refused with the first error of its lines. -/
theorem errorOf_ofFile (hnul : path.text.contains Files.nul = false)
    (hread : env.files.read path.text = .ok content)
    (hplain : ∀ line ∈ Text.lines (textOf content), ¬ IsInclude line) :
    errorOf (ofFile env path)
      = (Text.numberedLines (textOf content)).findSome? (lineError? path.text) := by
  rw [ofFile, errorOf_map, ← problem?_reading, maxIncludeDepth, reading, Reading.ofFile, hnul,
    if_neg Bool.false_ne_true, hread]
  apply problem?_ofLines_eq
  intro numbered hmem
  obtain ⟨line, hline, rfl⟩ := List.mem_map.mp hmem
  exact hplain line.1 (List.fst_mem_of_mem_zipIdx hline)

theorem LoadError.line_blamesConfig (e : LineError) :
    (LoadError.line e).failure.BlamesConfig e.path e.line := by
  have hmessage : Text.isBlankText e.message = false :=
    Text.isBlankText_eq_false (c := ':') (by simp [LineError.message]) (by decide)
  obtain ⟨report, hmade, hkind, -, hattributes⟩ := Report.located_report .sshConfig
    "config_path".toList (.text e.path) (.int e.line) Context.keepsRecord_empty hmessage
  refine ⟨report, ?_, hkind, hattributes⟩
  rw [LoadError.failure, Report.sshConfig, hmade]
  rfl

/-- A significant line has a first word left when its comment is cut off. -/
theorem words_withoutComment_ne_nil {line : Text}
    (h : isSignificant (Text.trim line) = true) :
    Text.words (withoutComment (Text.trim line)) ≠ [] := by
  cases htrim : Text.trim line with
  | nil =>
      rw [htrim] at h
      cases h
  | cons c rest =>
      have hc := Text.not_blank_of_trim htrim
      obtain ⟨word, more, hwords⟩ := Text.words_cons_of_not_blank hc (beforeComment rest)
      rw [withoutComment, Text.words_trimEnd, beforeComment_cons hc, hwords]
      exact List.cons_ne_nil _ _

theorem ofFile_eq_lineError_iff (hnul : path.text.contains Files.nul = false)
    (hread : env.files.read path.text = .ok content)
    (hplain : ∀ line ∈ Text.lines (textOf content), ¬ IsInclude line) (e : LoadError) :
    ofFile env path = .error e ↔
      (Text.numberedLines (textOf content)).findSome? (lineError? path.text) = some e := by
  rw [← errorOf_ofFile hnul hread hplain]
  cases ofFile env path <;> simp [errorOf]

/-- A file without Include lines is refused for one of its lines only. -/
theorem exists_line_of_error (hnul : path.text.contains Files.nul = false)
    (hread : env.files.read path.text = .ok content)
    (hplain : ∀ line ∈ Text.lines (textOf content), ¬ IsInclude line) {e : LoadError}
    (he : ofFile env path = .error e) :
    ∃ number problem, e = .line ⟨path.text, number, problem⟩ := by
  have hfirst := (ofFile_eq_lineError_iff hnul hread hplain e).mp he
  obtain ⟨numbered, -, hnumbered⟩ := List.exists_of_findSome?_eq_some hfirst
  unfold lineError? at hnumbered
  split at hnumbered
  · exact ⟨_, _, (Option.some.inj hnumbered).symm⟩
  · cases hnumbered

/-- The failure is about the first malformed line. -/
theorem blames_iff_firstMalformed (hnul : path.text.contains Files.nul = false)
    (hread : env.files.read path.text = .ok content)
    (hplain : ∀ line ∈ Text.lines (textOf content), ¬ IsInclude line) (number : Nat) :
    (∃ e, ofFile env path = .error e ∧ e.failure.BlamesConfig path.text number) ↔
      FirstMalformed (Text.numberedLines (textOf content)) number := by
  rw [firstMalformed_iff path.text]
  constructor
  · rintro ⟨e, he, hnumber⟩
    obtain ⟨number', problem, rfl⟩ := exists_line_of_error hnul hread hplain he
    obtain rfl := (LoadError.line_blamesConfig _).line_unique hnumber
    exact ⟨problem, (ofFile_eq_lineError_iff hnul hread hplain _).mp he⟩
  · rintro ⟨problem, hfound⟩
    exact ⟨_, (ofFile_eq_lineError_iff hnul hread hplain _).mpr hfound,
      LoadError.line_blamesConfig _⟩

/-- A file without Include lines is refused exactly when one of its lines is malformed. The
failure then names the path and the number of the first such line, and there is no other one. No
significant line is without a first word when its keyword is looked for. -/
theorem ofFile_refused_iff (hnul : path.text.contains Files.nul = false)
    (hread : env.files.read path.text = .ok content)
    (hplain : ∀ line ∈ Text.lines (textOf content), ¬ IsInclude line) :
    ((∃ e, ofFile env path = .error e) ↔
      ∃ line ∈ Text.lines (textOf content), Malformed line) ∧
    (∀ number, (∃ e, ofFile env path = .error e ∧ e.failure.BlamesConfig path.text number) ↔
      FirstMalformed (Text.numberedLines (textOf content)) number) ∧
    (∀ e, ofFile env path = .error e → ∃ number, e.failure.BlamesConfig path.text number) ∧
    ∀ line ∈ Text.lines (textOf content), isSignificant (Text.trim line) = true →
      Text.words (withoutComment (Text.trim line)) ≠ [] := by
  refine ⟨?_, blames_iff_firstMalformed hnul hread hplain, ?_,
    fun line _ => words_withoutComment_ne_nil⟩
  · have hnone : (Text.numberedLines (textOf content)).findSome? (lineError? path.text) = none ↔
        ∀ line ∈ Text.lines (textOf content), ¬ Malformed line := by
      rw [List.findSome?_eq_none_iff, ← Text.map_snd_numberedLines, List.forall_mem_map]
      simp only [lineError?_eq_none_iff]
    simp only [ofFile_eq_lineError_iff hnul hread hplain, ← Option.ne_none_iff_exists']
    rw [Ne, hnone]
    simp
  · intro e he
    obtain ⟨number, problem, rfl⟩ := exists_line_of_error hnul hread hplain he
    exact ⟨number, LoadError.line_blamesConfig _⟩

end File

/-- A comment behind a value, blanks in quotes, and two malformed lines. -/
def openQuoteSample : Bytes := Utf8.encode
  "Host db\n  User=me # admin\n\n  IdentityFile \"a key\"\n  Port \"22\nHost \"\"\n".toList

theorem openQuoteSample_refused :
    let env := sampleEnvironment [(["h".toList, ".ssh".toList, "config".toList],
      .file openQuoteSample)]
    samplePath.text.contains Files.nul = false ∧
      env.files.read samplePath.text = .ok openQuoteSample ∧
      (∀ line ∈ Text.lines (textOf openQuoteSample), ¬ IsInclude line) ∧
      ∃ e, ofFile env samplePath = .error e ∧ e.failure.BlamesConfig samplePath.text 5 := by
  intro env
  have hnul : samplePath.text.contains Files.nul = false := by decide +kernel
  have hread : env.files.read samplePath.text = .ok openQuoteSample := by decide +kernel
  have hplain : ∀ line ∈ Text.lines (textOf openQuoteSample), ¬ IsInclude line := by
    decide +kernel
  refine ⟨hnul, hread, hplain, ?_⟩
  rw [(ofFile_refused_iff hnul hread hplain).2.1 5, firstMalformed_iff samplePath.text]
  exact ⟨.unbalancedQuotes, by decide +kernel⟩

end HostConfig

end SshTunnel
