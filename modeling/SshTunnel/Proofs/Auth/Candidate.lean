import SshTunnel.Auth.Candidate
import SshTunnel.Proofs.OpenSsh.Library
import SshTunnel.Proofs.Report.Make

/-!
# What becomes of a candidate

A candidate stumbles when trying it ends with neither an outcome nor a report. Any other one is
loaded, invalid or skipped exactly as its content is a key, is none, or cannot be read. `Ends`
lists these ways, so that no later proof opens the definitions again.
-/

namespace SshTunnel.Auth

/-- The path that is read for a candidate. -/
def nameOf (home listed : Text) : Text := (Path.ofText (Path.fillHome home listed)).text

/-- The candidate has a path that can be read, and this is what is read. -/
structure Reads (files : Files.Tree) (home listed : Text) (content : Bytes) : Prop where
  path : Path.fillHome home listed ≠ []
  nul : (nameOf home listed).contains Files.nul = false
  read : files.read (nameOf home listed) = .ok content

theorem Reads.unique {files : Files.Tree} {home listed : Text} {content content' : Bytes}
    (h : Reads files home listed content) (h' : Reads files home listed content') :
    content = content' :=
  Except.ok.inj (h.read.symm.trans h'.read)

section Library

variable (lib : Key.Library) (files : Files.Tree) (home listed : Text)

/-- The candidate is the private key of `key`. -/
def Loads (key : PublicKey) : Prop :=
  ∃ content, Reads files home listed content ∧ lib.importPrivate content = .ok key

/-- Trying the candidate is refused, whatever the library does: its path cannot be opened at all,
or its content is no key under a path that no report can name. -/
inductive Refused : Prop where
  | nul (hpath : Path.fillHome home listed ≠ [])
      (h : (nameOf home listed).contains Files.nul = true)
  | blank {content : Bytes} {problem : Key.Problem} (hreads : Reads files home listed content)
      (hkey : lib.importPrivate content = .error problem)
      (h : Text.isBlankText (Path.fillHome home listed) = true)

/-- The library ends on the content of the candidate with something that is not accounted for. -/
def Strays : Prop :=
  ∃ content problem, Reads files home listed content ∧
    lib.importPrivate content = .error problem ∧ problem.isStray = true

/-- Trying the candidate ends with neither an outcome nor a report. -/
def Stumbles : Prop := Refused lib files home listed ∨ Strays lib files home listed

end Library

variable {lib : Key.Library}

theorem Loads.not_stumbles {files : Files.Tree} {home listed : Text} {key : PublicKey}
    (h : Loads lib files home listed key) : ¬ Stumbles lib files home listed := by
  obtain ⟨content, hreads, hkey⟩ := h
  rintro ((⟨-, hnul⟩ | ⟨hreads', hkey', -⟩) | ⟨content', problem, hreads', hkey', -⟩)
  · cases hreads.nul.symm.trans hnul
  all_goals
    cases hreads.unique hreads'
    cases hkey.symm.trans hkey'

/-- A library that imports cleanly leaves only the paths to stumble over. -/
theorem stumbles_iff_refused (hlib : lib.ImportsCleanly) {files : Files.Tree}
    {home listed : Text} :
    Stumbles lib files home listed ↔ Refused lib files home listed := by
  refine ⟨fun h => h.resolve_right ?_, Or.inl⟩
  rintro ⟨content, problem, -, hkey, hstray⟩
  cases (hlib content problem hkey).symm.trans hstray

/-! ## The report on an invalid key -/

/-- The report on a candidate that is no key. It names the candidate as it is listed, and carries
the path that was read, what is wrong, and the reason. -/
def invalidReport (listed path : Text) (problem : Key.Problem) : Report where
  kind := .keyLoad
  message := "Unable to parse private key ".toList ++ listed ++ ": ".toList ++ problem.message
  context :=
    { Context.empty with
      keyPath := .text path
      underlying := .text problem.message
      extra := .record [("reason".toList, .text (reasonFor problem.message))] }
  attributes := []

theorem reasonFor_ne_nil (message : Text) : reasonFor message ≠ [] := by
  unfold reasonFor
  simp only
  split
  · decide
  · split <;> decide

/-- The report comes about unless the path is blank. -/
theorem keyReport_eq {path : Text} (hpath : Text.isBlankText path = false) (listed : Text)
    (problem : Key.Problem) :
    keyReport listed path problem = .ok (invalidReport listed path problem) := by
  have hmessage : Text.isBlankText (invalidReport listed path problem).message = false :=
    Text.isBlankText_eq_false (c := 'U') (by simp [invalidReport]) (by decide)
  have hextra : ({ Context.empty with underlying := .text problem.message } : Context).extra
      = .record [] := rfl
  exact Report.keyLoad_report hextra hmessage hpath (reasonFor_ne_nil problem.message)

/-- The record of the report shows the path that was read and the reason. -/
theorem invalidReport_toRecord (listed path : Text) (problem : Key.Problem) :
    (invalidReport listed path problem).toRecord =
      .ok [("error_type".toList, .text "KeyLoadError".toList),
        ("message".toList, .text (invalidReport listed path problem).message),
        ("key_path".toList, .text path), ("original_error".toList, .text problem.message),
        ("reason".toList, .text (reasonFor problem.message))] := rfl

/-! ## How trying a candidate ends -/

variable {files : Files.Tree} {home listed : Text} {c : Candidate}

/-- How trying a candidate ends. -/
inductive Ends (lib : Key.Library) (files : Files.Tree) (home listed : Text) :
    Except Failure Candidate → Prop where
  | stumbles {e : Failure} (h : Stumbles lib files home listed) (hreport : e.report? = none) :
      Ends lib files home listed (.error e)
  | skipped (hclean : ¬ Stumbles lib files home listed)
      (hunread : ∀ content, ¬ Reads files home listed content) :
      Ends lib files home listed (.ok ⟨listed, Path.fillHome home listed, .skipped⟩)
  | loaded {content : Bytes} {key : PublicKey} (hreads : Reads files home listed content)
      (hkey : lib.importPrivate content = .ok key) :
      Ends lib files home listed (.ok ⟨listed, Path.fillHome home listed, .loaded key⟩)
  | invalid {content : Bytes} {problem : Key.Problem} (hclean : ¬ Stumbles lib files home listed)
      (hreads : Reads files home listed content)
      (hkey : lib.importPrivate content = .error problem) :
      Ends lib files home listed (.ok ⟨listed, Path.fillHome home listed,
        .invalid (invalidReport listed (Path.fillHome home listed) problem)⟩)

/-- Judging the content of a file that can be read. -/
theorem judge_ends {content : Bytes} (hreads : Reads files home listed content) :
    Ends lib files home listed ((judge lib listed (Path.fillHome home listed) content).map
      fun outcome => ⟨listed, Path.fillHome home listed, outcome⟩) := by
  rw [judge]
  cases hkey : lib.importPrivate content with
  | ok key => exact .loaded hreads hkey
  | error problem =>
      simp only
      cases hstray : problem.isStray with
      | true => exact .stumbles (Or.inr ⟨content, problem, hreads, hkey, hstray⟩) rfl
      | false =>
          rw [if_neg Bool.false_ne_true]
          cases hblank : Text.isBlankText (Path.fillHome home listed) with
          | true =>
              have hreport : keyReport listed (Path.fillHome home listed) problem
                  = .error (.blankKeyPath (Text.quoted (Path.fillHome home listed))) :=
                Report.keyLoad_blank hblank _ _
              rw [hreport]
              exact .stumbles (Or.inl (.blank hreads hkey hblank)) rfl
          | false =>
              rw [keyReport_eq hblank]
              refine .invalid ?_ hreads hkey
              rintro ((⟨-, hnul⟩ | ⟨-, -, hblank'⟩) | ⟨content', problem', hreads', hkey', hstray'⟩)
              · cases hreads.nul.symm.trans hnul
              · cases hblank.symm.trans hblank'
              · cases hreads.unique hreads'
                cases hkey.symm.trans hkey'
                cases hstray.symm.trans hstray'

/-- Trying a candidate ends in one of these ways. -/
theorem load_ends (lib : Key.Library) (files : Files.Tree) (home listed : Text) :
    Ends lib files home listed (load lib files home listed) := by
  have hname : (Path.ofText (Path.fillHome home listed)).text = nameOf home listed := rfl
  have hskipped : (∀ content, ¬ Reads files home listed content) →
      (Path.fillHome home listed ≠ [] → (nameOf home listed).contains Files.nul = false) →
      Ends lib files home listed (.ok ⟨listed, Path.fillHome home listed, .skipped⟩) := by
    refine fun hunread hopens => .skipped ?_ hunread
    rintro ((⟨hpath, hnul⟩ | ⟨hreads, -, -⟩) | ⟨content, problem, hreads, -⟩)
    · cases (hopens hpath).symm.trans hnul
    all_goals exact hunread _ hreads
  simp only [load, hname]
  by_cases hpath : Path.fillHome home listed = []
  · rw [if_pos (List.isEmpty_iff.mpr hpath)]
    exact hskipped (fun content h => h.path hpath) (absurd hpath)
  · rw [if_neg fun h => hpath (List.isEmpty_iff.mp h)]
    cases hnul : (nameOf home listed).contains Files.nul with
    | true => exact .stumbles (Or.inl (.nul hpath hnul)) rfl
    | false =>
        rw [if_neg Bool.false_ne_true]
        cases hread : files.read (nameOf home listed) with
        | error e =>
            refine hskipped (fun content h => ?_) fun _ => hnul
            cases hread.symm.trans h.read
        | ok content => exact judge_ends ⟨hpath, hnul, hread⟩

theorem exists_load_iff : (∃ c, load lib files home listed = .ok c) ↔
    ¬ Stumbles lib files home listed := by
  have hends := load_ends lib files home listed
  generalize load lib files home listed = out at hends
  cases hends with
  | stumbles h => exact ⟨nofun, absurd h⟩
  | skipped hclean => exact ⟨fun _ => hclean, fun _ => ⟨_, rfl⟩⟩
  | loaded hreads hkey =>
      have hloads : Loads lib files home listed _ := ⟨_, hreads, hkey⟩
      exact ⟨fun _ => hloads.not_stumbles, fun _ => ⟨_, rfl⟩⟩
  | invalid hclean => exact ⟨fun _ => hclean, fun _ => ⟨_, rfl⟩⟩

/-- What is known about a candidate that has an outcome. -/
structure Classified (lib : Key.Library) (files : Files.Tree) (home listed : Text)
    (c : Candidate) : Prop where
  listed_eq : c.listed = listed
  path_eq : c.path = Path.fillHome home listed
  loaded_iff : ∀ key, c.outcome = .loaded key ↔
    ∃ content, Reads files home listed content ∧ lib.importPrivate content = .ok key
  invalid_iff : ∀ report, c.outcome = .invalid report ↔
    ∃ content problem, Reads files home listed content ∧
      lib.importPrivate content = .error problem ∧
      report = invalidReport listed (Path.fillHome home listed) problem
  skipped_iff : c.outcome = .skipped ↔ ∀ content, ¬ Reads files home listed content

theorem classified_of_load (h : load lib files home listed = .ok c) :
    Classified lib files home listed c := by
  have hends := load_ends lib files home listed
  rw [h] at hends
  generalize hout : Except.ok c = out at hends
  cases hends with
  | stumbles => cases hout
  | skipped hclean hunread =>
      cases hout
      refine ⟨rfl, rfl, fun key => ⟨nofun, ?_⟩, fun report => ⟨nofun, ?_⟩, fun _ => hunread,
        fun _ => rfl⟩
      · rintro ⟨content, hreads, -⟩
        exact absurd hreads (hunread content)
      · rintro ⟨content, problem, hreads, -⟩
        exact absurd hreads (hunread content)
  | loaded hreads hkey =>
      cases hout
      refine ⟨rfl, rfl, fun key => ⟨?_, ?_⟩, fun report => ⟨nofun, ?_⟩, nofun,
        fun hunread => absurd hreads (hunread _)⟩
      · rintro ⟨⟩
        exact ⟨_, hreads, hkey⟩
      · rintro ⟨content, hreads', hkey'⟩
        cases hreads.unique hreads'
        cases hkey.symm.trans hkey'
        rfl
      · rintro ⟨content, problem, hreads', hkey', -⟩
        cases hreads.unique hreads'
        cases hkey.symm.trans hkey'
  | invalid hclean hreads hkey =>
      cases hout
      refine ⟨rfl, rfl, fun key => ⟨nofun, ?_⟩, fun report => ⟨?_, ?_⟩, nofun,
        fun hunread => absurd hreads (hunread _)⟩
      · rintro ⟨content, hreads', hkey'⟩
        cases hreads.unique hreads'
        cases hkey.symm.trans hkey'
      · rintro ⟨⟩
        exact ⟨_, _, hreads, hkey, rfl⟩
      · rintro ⟨content, problem, hreads', hkey', rfl⟩
        cases hreads.unique hreads'
        cases hkey.symm.trans hkey'
        rfl

theorem Candidate.key?_eq_some_iff_loaded (c : Candidate) (key : PublicKey) :
    c.key? = some key ↔ c.outcome = .loaded key := by
  rw [key?]
  cases c.outcome <;> simp

theorem key?_eq_some_iff (h : load lib files home listed = .ok c) (key : PublicKey) :
    c.key? = some key ↔ Loads lib files home listed key := by
  rw [c.key?_eq_some_iff_loaded]
  exact (classified_of_load h).loaded_iff key

/-- With a library that refuses what it cannot import in one way or the other, trying a candidate
has an outcome exactly when its path can be opened and reported. It is then loaded, invalid or
skipped by what its path leads to, and the report on an invalid one names it as it is listed and
shows the path that was read. -/
theorem load_classifies (hlib : lib.ImportsCleanly) (files : Files.Tree) (home listed : Text) :
    ((∃ c, load lib files home listed = .ok c) ↔ ¬ Refused lib files home listed) ∧
    ∀ c, load lib files home listed = .ok c → Classified lib files home listed c ∧
      ∀ report, c.outcome = .invalid report → report.kind = .keyLoad ∧
        listed <:+: report.message ∧
        report.context.keyPath = .text (Path.fillHome home listed) ∧
        ∃ fields, report.toRecord = .ok fields ∧
          ("key_path".toList, .text (Path.fillHome home listed)) ∈ fields := by
  refine ⟨exists_load_iff.trans (not_congr (stumbles_iff_refused hlib)), fun c hc => ?_⟩
  have hclassified := classified_of_load hc
  refine ⟨hclassified, fun report hinvalid => ?_⟩
  obtain ⟨content, problem, -, -, rfl⟩ := (hclassified.invalid_iff report).mp hinvalid
  refine ⟨rfl, ?_, rfl, _, invalidReport_toRecord _ _ _, by simp⟩
  exact ⟨"Unable to parse private key ".toList, ": ".toList ++ problem.message,
    by simp [invalidReport]⟩

/-! ## Samples -/

open OpenSsh (cleanLibrary cleanLibrary_importsCleanly cleanLibrary_sampleKeyFile sampleKey
  sampleKeyFile)

/-- A tree with a private key and a file that is none. -/
def keyFiles : Files.Tree where
  nodes :=
    [(["h".toList], .directory), (["h".toList, "key".toList], .file sampleKeyFile),
      (["h".toList, "note".toList], .file (Bytes.ofAscii "no key".toList))]
  workingDirectory := []

theorem load_classifies_samples : cleanLibrary.ImportsCleanly ∧
    (∃ c, load cleanLibrary keyFiles "/h".toList "~/key".toList = .ok c ∧
      c.outcome = .loaded sampleKey) ∧
    ∃ c report, load cleanLibrary keyFiles "/h".toList "~/note".toList = .ok c ∧
      c.outcome = .invalid report ∧ "~/note".toList <:+: report.message := by
  have hkey : Reads keyFiles "/h".toList "~/key".toList sampleKeyFile :=
    ⟨by decide, by decide, by decide +kernel⟩
  have hnote : Reads keyFiles "/h".toList "~/note".toList (Bytes.ofAscii "no key".toList) :=
    ⟨by decide, by decide, by decide +kernel⟩
  have hproblem : cleanLibrary.importPrivate (Bytes.ofAscii "no key".toList)
      = .error (.notKey "Invalid private key".toList) := by
    decide +kernel
  refine ⟨cleanLibrary_importsCleanly, ?_, ?_⟩
  · obtain ⟨hends, hclassified⟩ :=
      load_classifies cleanLibrary_importsCleanly keyFiles "/h".toList "~/key".toList
    obtain ⟨c, hc⟩ := hends.mpr fun hrefused =>
      Loads.not_stumbles ⟨_, hkey, cleanLibrary_sampleKeyFile⟩ (Or.inl hrefused)
    exact ⟨c, hc, ((hclassified c hc).1.loaded_iff _).mpr ⟨_, hkey, cleanLibrary_sampleKeyFile⟩⟩
  · obtain ⟨hends, hclassified⟩ :=
      load_classifies cleanLibrary_importsCleanly keyFiles "/h".toList "~/note".toList
    obtain ⟨c, hc⟩ := hends.mpr (by
      rintro (⟨-, hnul⟩ | ⟨-, -, hblank⟩)
      · exact Bool.false_ne_true (hnote.nul.symm.trans hnul)
      · revert hblank
        decide)
    have hinvalid := ((hclassified c hc).1.invalid_iff _).mpr ⟨_, _, hnote, hproblem, rfl⟩
    obtain ⟨-, hlisted, -⟩ := (hclassified c hc).2 _ hinvalid
    exact ⟨c, _, hc, hinvalid, hlisted⟩

/-- A candidate whose path cannot be opened at all is not skipped: it has no outcome. -/
theorem load_nul : cleanLibrary.ImportsCleanly ∧
    ¬ ∃ c, load cleanLibrary ⟨[], []⟩ "/home/alice".toList "a\x00b".toList = .ok c := by
  refine ⟨cleanLibrary_importsCleanly, ?_⟩
  rw [exists_load_iff, not_not]
  exact Or.inl (.nul (by decide) (by decide))

end SshTunnel.Auth
