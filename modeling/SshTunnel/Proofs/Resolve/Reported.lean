import SshTunnel.Proofs.HostConfig.Reading
import SshTunnel.Proofs.Report.Make
import SshTunnel.Proofs.Resolve.Stage

/-!
# Failures that are reports

Which failures of a stage are reports about the configuration or about authentication: lines
that cannot be read, fields that are not set, candidates without a key and stores that cannot
be loaded. Refused paths and values of the wrong kind are not.
-/

namespace SshTunnel

/-- A report about the configuration or about authentication. -/
def Failure.IsReported (failure : Failure) : Prop :=
  ∃ report, failure.report? = some report ∧
    (.config ∈ report.kind.lineage ∨ .auth ∈ report.kind.lineage)

namespace Report

variable {made : Except Misuse Report} {kind : Kind}

theorem Makes.report? (h : Makes made kind) (cause : Option Failure) :
    ∃ report, (Failure.ofMade made cause).report? = some report ∧ report.kind = kind ∧
      report.context.KeepsRecord := by
  obtain ⟨report, rfl, hkind, hkeeps⟩ := h
  refine ⟨report, ?_, hkind, hkeeps⟩
  cases cause <;> rfl

end Report

theorem Failure.not_isReported {failure : Failure} (h : failure.report? = none) :
    ¬ failure.IsReported := by
  rintro ⟨report, hreport, -⟩
  cases h.symm.trans hreport

namespace HostConfig

/-- The report on a line carries its path and its number, as values of its own and as further
fields. -/
def LineError.report (l : LineError) : Report where
  kind := .sshConfig
  message := l.message
  context :=
    { Context.empty with
      extra := .record [("config_path".toList, .text l.path), ("line".toList, .int l.line)] }
  attributes := [("path".toList, .text l.path), ("line_no".toList, .int l.line)]

theorem LineError.isBlankText_message (l : LineError) : Text.isBlankText l.message = false :=
  Text.isBlankText_eq_false (c := ':') (by simp [LineError.message]) (by decide)

theorem LoadError.line_failure {l : LineError} (hpath : l.path ≠ []) :
    (LoadError.line l).failure = .report l.report := by
  have hempty : Context.empty.extra = .record [] := rfl
  rw [LoadError.failure, Report.sshConfig,
    Report.located_fields .sshConfig _ _ hpath hempty l.isBlankText_message]
  rfl

end HostConfig

namespace Resolve.Resolver

/-- The report that wraps one on the host configuration: it takes over its further fields. -/
def configReport (host : Text) (inner : Report) : Report where
  kind := .config
  message := "could not parse SSH config: ".toList ++ inner.message
  context :=
    { Context.empty with
      host := .text host
      underlying := .text inner.message
      extra := inner.context.extra }
  attributes := []

theorem configFailure_of_report {cause : Failure} {inner : Report}
    (h : cause.report? = some inner) (host : Text) :
    configFailure host cause = .caused (configReport host inner) cause := by
  have hmessage : Text.isBlankText (configReport host inner).message = false :=
    Text.isBlankText_eq_false (c := 'c') (by simp [configReport]) (by decide)
  have hmade := Report.plain_report .config (configReport host inner).context hmessage
  simp only [configReport] at hmade
  simp only [configFailure, h, hmade]
  rfl

end Resolve.Resolver

namespace HostConfig

/-- A configuration that cannot be loaded is reported just when one of its lines is to blame. -/
theorem LoadError.configFailure_cases (e : LoadError) (host : Text) :
    (∃ l, e = .line l) ∧ (Resolve.Resolver.configFailure host e.failure).IsReported ∨
      (∀ l, e ≠ .line l) ∧ (Resolve.Resolver.configFailure host e.failure).report? = none := by
  cases e with
  | badPath e => exact Or.inr ⟨nofun, rfl⟩
  | refused e => exact Or.inr ⟨nofun, rfl⟩
  | noHome e => exact Or.inr ⟨nofun, rfl⟩
  | line l =>
      obtain ⟨inner, hinner, -⟩ := (Report.located_makes .sshConfig "config_path".toList
        (.text l.path) (.int l.line) Context.keepsRecord_empty l.isBlankText_message).report? none
      have hinner' : (LoadError.line l).failure.report? = some inner := hinner
      have hkind : .config ∈ Report.Kind.config.lineage := by decide
      rw [Resolve.Resolver.configFailure_of_report hinner']
      exact Or.inl ⟨⟨l, rfl⟩, _, rfl, Or.inl hkind⟩

end HostConfig

namespace KnownHosts

/-- The store could not be loaded for a reason that no report stands for: its path cannot be
opened at all, or the library ends on a key in it with something else than that it is none. -/
inductive LoadError.Escapes : LoadError → Prop where
  | badPath {p : Files.BadPath} : Escapes (.badPath p)
  | line {path : Option Text} {l : LineError} {problem : Key.Problem}
      (h : l.problem.escaping? = some problem) : Escapes (.line path l)

/-- A store that cannot be loaded is reported unless the reason escapes. -/
theorem LoadError.failure_cases (e : LoadError) :
    e.Escapes ∧ e.failure.report? = none ∨
      ¬ e.Escapes ∧ ∃ report, e.failure.report? = some report ∧ report.kind = .trustStore := by
  have hmade : ∀ (message : Text) (path line : Datum) (cause : Option Failure),
      Text.isBlankText message = false →
      ∃ report, (Failure.ofMade (Report.trustStore (.text message) path line
        Context.empty).outcome cause).report? = some report ∧ report.kind = .trustStore := by
    intro message path line cause hmessage
    obtain ⟨report, hreport, hkind, -⟩ := (Report.located_makes .trustStore
      "known_hosts_path".toList path line Context.keepsRecord_empty hmessage).report? cause
    exact ⟨report, hreport, hkind⟩
  cases e with
  | badPath p => exact Or.inl ⟨.badPath, rfl⟩
  | refused path p =>
      refine Or.inr ⟨nofun, hmade _ _ _ _ ?_⟩
      exact Text.isBlankText_eq_false (c := 'c') (by simp) (by decide)
  | notUtf8 path p =>
      refine Or.inr ⟨nofun, hmade _ _ _ _ ?_⟩
      exact Text.isBlankText_eq_false (c := 'c') (by simp) (by decide)
  | line path l =>
      cases hproblem : l.problem.escaping? with
      | some problem => exact Or.inl ⟨.line hproblem, by rw [failure, hproblem]; rfl⟩
      | none =>
          refine Or.inr ⟨?_, ?_⟩
          · intro hescapes
            cases hescapes with
            | line h => cases hproblem.symm.trans h
          · simp only [failure, hproblem]
            refine hmade _ _ _ _ (Text.isBlankText_eq_false (c := ':') ?_ (by decide))
            simp

theorem LoadError.report?_eq_none_iff (e : LoadError) :
    e.failure.report? = none ↔ e.Escapes := by
  obtain ⟨hescapes, hnone⟩ | ⟨hstays, report, hreport, -⟩ := e.failure_cases
  · exact iff_of_true hnone hescapes
  · simp [hreport, hstays]

/-- Any other reason is reported as one about authentication. -/
theorem LoadError.auth_of_not_escapes {e : LoadError} (h : ¬ e.Escapes) :
    ∃ report, e.failure.report? = some report ∧ .auth ∈ report.kind.lineage := by
  obtain ⟨hescapes, -⟩ | ⟨-, report, hreport, hkind⟩ := e.failure_cases
  · exact absurd hescapes h
  · exact ⟨report, hreport, by rw [hkind]; decide⟩

end KnownHosts

namespace ClientConfig

/-- The report that no candidate is a usable key names the user and carries all candidates. -/
def noKeysReport (user : Datum) (file : Text) : Report where
  kind := .noKeys
  message := "no key files found".toList
  context :=
    { Context.empty with
      username := user
      extra := .record [("candidates".toList, .list ((candidates file).map .text))] }
  attributes := []

theorem noKeys_eq (user : Datum) (file : Text) :
    noKeys user file = .report (noKeysReport user file) := rfl

/-- Building around keys ends with no report but on the trust store. -/
theorem kind_of_ofSigners {lib : Key.Library} {files : Files.Tree} {user : Datum}
    {signers : List PublicKey} (hsigners : signers ≠ []) {store : Path} {failure : Failure}
    {report : Report}
    (h : ofSigners lib files user signers store = .error failure)
    (hreport : failure.report? = some report) : report.kind = .trustStore := by
  obtain ⟨e, -, hof⟩ | ⟨knownHosts, -, -, hof⟩ | ⟨knownHosts, -, -, hof⟩ :=
    ofSigners_cases lib files user hsigners store
  · cases hof.symm.trans h
    obtain ⟨-, hnone⟩ | ⟨-, report', hreport', hkind⟩ := e.failure_cases
    · cases hnone.symm.trans hreport
    · cases hreport'.symm.trans hreport
      exact hkind
  · cases hof.symm.trans h
    cases hreport
  · cases hof.symm.trans h

end ClientConfig

namespace Resolve.Resolver

variable {r : Resolver} {env : Environment} {d : Declaration}

/-! ## Reading the configuration -/

/-- There is no telling the home directory. -/
def Homeless (r : Resolver) (env : Environment) : Prop := r.home = none ∧ env.tellsHome = false

theorem homeDirectory_cases (r : Resolver) (env : Environment) :
    r.Homeless env ∧ r.homeDirectory env = .error (.noHome ⟨⟩) ∨
      ¬ r.Homeless env ∧ ∃ home, r.homeDirectory env = .ok home := by
  rw [homeDirectory, Homeless]
  cases r.home with
  | some home => simp
  | none => cases env.tellsHome <;> simp

theorem configFile_cases (r : Resolver) (env : Environment) :
    (r.configPath = none ∧ r.Homeless env) ∧ r.configFile env = .error (.noHome ⟨⟩) ∨
      ¬ (r.configPath = none ∧ r.Homeless env) ∧ ∃ path, r.configFile env = .ok path := by
  rw [configFile]
  cases r.configPath with
  | some path => exact Or.inr ⟨by simp, _, rfl⟩
  | none =>
      obtain ⟨hhomeless, hhome⟩ | ⟨hhome, home, heq⟩ := homeDirectory_cases r env
      · exact Or.inl ⟨⟨rfl, hhomeless⟩, by rw [hhome]; rfl⟩
      · exact Or.inr ⟨by simpa using hhome, home.userConfig, by rw [heq]; rfl⟩

theorem readHostConfig_of_reader {read : Text → Except Failure HostEntry}
    (h : r.reader = some read) (host : Text) : r.readHostConfig env host = read host := by
  rw [readHostConfig, h]

/-- What is read at a path ends with the first problem of the configuration there. -/
theorem readHostConfig_of_path (hreader : r.reader = none) {path : Path}
    (hpath : r.configFile env = .ok path) (host : Text) {failure : Failure} :
    r.readHostConfig env host = .error failure ↔
      ∃ e, (HostConfig.reading env HostConfig.maxIncludeDepth path.text).problem? = some e ∧
        failure = configFailure host e.failure := by
  rw [HostConfig.problem?_reading env _ [], readHostConfig, hreader, hpath]
  simp only [Except.bind, HostConfig.ofFile]
  cases HostConfig.load env HostConfig.maxIncludeDepth [] path.text with
  | error e => simp [HostConfig.errorOf, Except.map, eq_comm]
  | ok c => simp [HostConfig.errorOf, Except.map]

theorem readHostConfig_of_homeless (hreader : r.reader = none) {failure : Failure}
    (hpath : r.configFile env = .error failure) (host : Text) :
    r.readHostConfig env host = .error failure := by
  rw [readHostConfig, hreader, hpath]
  rfl

/-! ## Checking the fields -/

section Fields

variable {c : Connection}

theorem missing?_eq_none_iff : missing? c = none ↔
    c.hostname.isGiven = true ∧ c.user.isGiven = true ∧ c.port.isGiven = true := by
  unfold missing?
  cases c.hostname.isGiven <;> cases c.user.isGiven <;> cases c.port.isGiven <;> simp

/-- The field is the first one of host name, user and port that says nothing. -/
inductive FirstUnset (c : Connection) : Field → Prop where
  | hostname (h : c.hostname.isGiven = false) : FirstUnset c .hostname
  | user (hhostname : c.hostname.isGiven = true) (h : c.user.isGiven = false) :
      FirstUnset c .user
  | port (hhostname : c.hostname.isGiven = true) (huser : c.user.isGiven = true)
      (h : c.port.isGiven = false) : FirstUnset c .port

theorem missing?_eq_some_iff {f : Field} : missing? c = some f ↔ FirstUnset c f := by
  constructor
  · intro h
    unfold missing? at h
    split at h
    next hhostname =>
      cases h
      exact .hostname (by simpa using hhostname)
    next hhostname =>
      have hhostname : c.hostname.isGiven = true := by simpa using hhostname
      split at h
      next huser =>
        cases h
        exact .user hhostname (by simpa using huser)
      next huser =>
        have huser : c.user.isGiven = true := by simpa using huser
        split at h
        next hport =>
          cases h
          exact .port hhostname huser (by simpa using hport)
        next => cases h
  · intro h
    cases h with
    | hostname h => simp [missing?, h]
    | user hhostname h => simp [missing?, hhostname, h]
    | port hhostname huser h => simp [missing?, hhostname, huser, h]

theorem FirstUnset.isRequired {f : Field} (h : FirstUnset c f) :
    f.name ∈ Report.requiredFields := by
  cases h <;> decide

/-- The report that a field is not set names it in its message, its context and a value of its
own. -/
def missingReport (d : Declaration) (c : Connection) (f : Field) : Report where
  kind := .missingField
  message := "no ".toList ++ f.name ++ " specified".toList
  context :=
    { fieldContext d c with
      extra := .record [("tunnel".toList, .text d.name), ("field".toList, .text f.name)] }
  attributes := [("field".toList, .text f.name)]

/-- The report that the port is too large, with the port as it is shown. -/
def portReport (d : Declaration) (c : Connection) (shown : Text) : Report where
  kind := .config
  message := "invalid port ".toList ++ shown
  context := fieldContext d c
  attributes := []

/-- The report that refuses the fields of a connection: it names the first one that is not set,
or the port when all are set and it is too large. -/
inductive Refuses (d : Declaration) (c : Connection) : Report → Prop where
  | missing {f : Field} (h : FirstUnset c f) : Refuses d c (missingReport d c f)
  | port {shown : Text} (hhostname : c.hostname.isGiven = true) (huser : c.user.isGiven = true)
      (hport : c.port.isGiven = true) (hlarge : c.port.exceeds largestPort = .ok true)
      (hshown : c.port.shown = .ok shown) : Refuses d c (portReport d c shown)

/-- All fields are set, but the port cannot be compared, or it is too large even to be written in
a report. -/
inductive PortEscapes (c : Connection) : Failure → Prop where
  | order {m : Misfit} (hmissing : missing? c = none)
      (h : c.port.exceeds largestPort = .error m) : PortEscapes c (.misuse (.unfit m))
  | numeral {e : Text.Numeral.TooLong} (hmissing : missing? c = none)
      (hlarge : c.port.exceeds largestPort = .ok true) (h : c.port.shown = .error e) :
      PortEscapes c (.longNumeral e)

theorem PortEscapes.report? {failure : Failure} (h : PortEscapes c failure) :
    failure.report? = none := by
  cases h <;> rfl

theorem missingField_outcome {f : Field} (h : f.name ∈ Report.requiredFields) :
    (Report.missingField (.text f.name) (fieldContext d c)).outcome
      = .ok (missingReport d c f) := by
  have hextra : (fieldContext d c).withExtra "field".toList (.text f.name)
      = .ok (missingReport d c f).context := rfl
  have hmessage : Text.isBlankText ("no ".toList ++ f.name ++ " specified".toList) = false :=
    Text.isBlankText_eq_false (c := 'n') (by simp) (by decide)
  rw [Report.missingField, if_pos h, hextra, Report.Made.after, Report.make]
  simp only [hmessage, Bool.false_eq_true, ↓reduceIte]
  rfl

theorem portFailure_eq {shown : Text} (h : c.port.shown = .ok shown) :
    portFailure d c = .report (portReport d c shown) := by
  have hmessage : Text.isBlankText ("invalid port ".toList ++ shown) = false :=
    Text.isBlankText_eq_false (c := 'i') (by simp) (by decide)
  simp only [portFailure, h, Report.plain_report .config (fieldContext d c) hmessage]
  rfl

/-- Fields that can be used, fields that are refused, and a port that escapes. -/
theorem fieldFailure?_eq_some_iff {failure : Failure} :
    fieldFailure? d c = some failure ↔
      (∃ report, Refuses d c report ∧ failure = .report report) ∨ PortEscapes c failure := by
  unfold fieldFailure?
  constructor
  · intro h
    cases hmissing : missing? c with
    | some f =>
        have hunset := missing?_eq_some_iff.mp hmissing
        simp only [hmissing, missingField_outcome hunset.isRequired] at h
        cases h
        exact Or.inl ⟨_, .missing hunset, rfl⟩
    | none =>
        cases hexceeds : c.port.exceeds largestPort with
        | error m =>
            simp only [hmissing, hexceeds] at h
            cases h
            exact Or.inr (.order hmissing hexceeds)
        | ok beyond =>
            cases beyond with
            | false =>
                simp only [hmissing, hexceeds] at h
                cases h
            | true =>
                simp only [hmissing, hexceeds, Option.some.injEq] at h
                subst h
                cases hshown : c.port.shown with
                | error e =>
                    have hfailure : portFailure d c = .longNumeral e := by
                      rw [portFailure, hshown]
                    rw [hfailure]
                    exact Or.inr (.numeral hmissing hexceeds hshown)
                | ok shown =>
                    obtain ⟨hhostname, huser, hport⟩ := missing?_eq_none_iff.mp hmissing
                    exact Or.inl ⟨_, .port hhostname huser hport hexceeds hshown,
                      portFailure_eq hshown⟩
  · rintro (⟨report, hrefuses, rfl⟩ | hescapes)
    · cases hrefuses with
      | missing h =>
          simp only [missing?_eq_some_iff.mpr h, missingField_outcome h.isRequired]
          rfl
      | port hhostname huser hport hlarge hshown =>
          have hmissing := missing?_eq_none_iff.mpr ⟨hhostname, huser, hport⟩
          simp only [hmissing, hlarge, portFailure_eq hshown]
    · cases hescapes with
      | order hmissing h => simp only [hmissing, h]
      | numeral hmissing hlarge h => simp only [hmissing, hlarge, portFailure, h]

theorem Refuses.isReported {report : Report} (h : Refuses d c report) :
    (Failure.report report).IsReported := by
  have hmissing : .config ∈ Report.Kind.missingField.lineage := by decide
  have hport : .config ∈ Report.Kind.config.lineage := by decide
  cases h with
  | missing => exact ⟨_, rfl, Or.inl hmissing⟩
  | port => exact ⟨_, rfl, Or.inl hport⟩

/-- A value with a whole number can be compared. -/
theorem exceeds_of_whole? {port : Datum} {n : Int} (h : port.whole? = some n) (limit : Nat) :
    port.exceeds limit = .ok (decide ((limit : Int) < n)) := by
  cases port with
  | real x => cases h
  | _ => simp only [Datum.exceeds, h]

theorem missing?_of_fieldFailure? (h : fieldFailure? d c = none) :
    missing? c = none := by
  unfold fieldFailure? at h
  cases hmissing : missing? c with
  | none => rfl
  | some f =>
      rw [hmissing] at h
      cases h

/-- Fields with a number for a port pass when none is missing and the number is none too
large. -/
theorem fieldFailure?_eq_none_iff {n : Int} (hwhole : c.port.whole? = some n) :
    fieldFailure? d c = none ↔ missing? c = none ∧ n ≤ 65535 := by
  have hexceeds : c.port.exceeds largestPort = .ok (decide (65535 < n)) :=
    exceeds_of_whole? hwhole largestPort
  unfold fieldFailure?
  cases missing? c with
  | some f => simp
  | none =>
      simp only [hexceeds]
      by_cases hbeyond : 65535 < n
      · simp [decide_eq_true hbeyond, Int.not_le.mpr hbeyond]
      · simp [decide_eq_false hbeyond, Int.not_lt.mp hbeyond]

end Fields

/-! ## Building the client configuration -/

/-- The report that wraps one on authentication names the connection and the kind of the report
that it rests on. -/
def authReport (d : Declaration) (c : Connection) (inner : Report) : Report where
  kind := .auth
  message := "could not make client config: ".toList ++ inner.message
  context :=
    { host := c.hostname
      port := c.port
      username := c.user
      keyPath := .null
      underlying := .text inner.message
      extra := .record [("tunnel".toList, .text d.name),
        ("cause".toList, .text inner.kind.name)] }
  attributes := []

/-- A context with a port takes only that of a connection. -/
theorem checked_of_isGiven {context : Context} (h : context.port.isGiven = true) :
    context.checked = if Context.isPort context.port then .ok context
      else .error (.of .contextPort context.port.shown) := by
  unfold Context.checked
  cases hport : context.port with
  | null =>
      rw [hport] at h
      cases h
  | _ => rfl

section Wrapping

variable {c : Connection} {cause : Failure} {inner : Report}

theorem authFailure_eq (hmissing : missing? c = none) (hinner : cause.report? = some inner)
    (hauth : .auth ∈ inner.kind.lineage) :
    authFailure d c cause =
      if Context.isPort c.port then .caused (authReport d c inner) cause
      else .misuse (.of .contextPort c.port.shown) := by
  have hgiven : (authReport d c inner).context.port.isGiven = true :=
    (missing?_eq_none_iff.mp hmissing).2.2
  have hchecked := checked_of_isGiven hgiven
  have hport : (authReport d c inner).context.port = c.port := rfl
  rw [hport] at hchecked
  rw [authFailure, hinner]
  simp only
  rw [if_pos hauth]
  cases hisPort : Context.isPort c.port with
  | true =>
      have hmessage : Text.isBlankText (authReport d c inner).message = false :=
        Text.isBlankText_eq_false (c := 'c') (by simp [authReport]) (by decide)
      have hmade := Report.plain_report .auth (authReport d c inner).context hmessage
      rw [hisPort, if_pos rfl] at hchecked
      simp only [authReport] at hchecked hmade
      rw [hchecked, if_pos rfl]
      simp only [hmade]
      rfl
  | false =>
      rw [hisPort, if_neg Bool.false_ne_true] at hchecked
      simp only [authReport] at hchecked
      rw [hchecked, if_neg Bool.false_ne_true]

/-- A report about authentication is passed on just when the context can name the port. -/
theorem authFailure_cases (hmissing : missing? c = none) (hinner : cause.report? = some inner)
    (hauth : .auth ∈ inner.kind.lineage) :
    (Context.isPort c.port = true ∧ (authFailure d c cause).IsReported) ∨
      (Context.isPort c.port = false ∧ (authFailure d c cause).report? = none) := by
  have hkind : .auth ∈ Report.Kind.auth.lineage := by decide
  rw [authFailure_eq hmissing hinner hauth]
  cases Context.isPort c.port with
  | true => exact Or.inl ⟨rfl, _, rfl, Or.inr hkind⟩
  | false => exact Or.inr ⟨rfl, rfl⟩

end Wrapping

theorem noKeys_report (user : Datum) (file : Text) :
    ∃ inner, (ClientConfig.noKeys user file).report? = some inner ∧
      .auth ∈ inner.kind.lineage := by
  have hauth : .auth ∈ Report.Kind.noKeys.lineage := by decide
  exact ⟨ClientConfig.noKeysReport user file, rfl, hauth⟩

/-- The only reports that building a client configuration ends with are about authentication. -/
theorem auth_of_build {lib : Key.Library} {files : Files.Tree} {home : Path}
    {store : Option Text} {user identityFile : Datum} {cause : Failure} {report : Report}
    (h : (ClientConfig.buildCourse lib files home store user identityFile).outcome = .error cause)
    (hreport : cause.report? = some report) : .auth ∈ report.kind.lineage := by
  have hbuilds := ClientConfig.buildCourse_builds lib files home store user identityFile
  generalize ClientConfig.buildCourse lib files home store user identityFile = course at h hbuilds
  cases hbuilds with
  | notText =>
      cases h
      cases hreport
  | unscanned hscan =>
      cases h
      cases (Auth.stumbles_of_scanCourse hscan).1.symm.trans hreport
  | @unsigned file =>
      cases h
      obtain ⟨report', hreport', hauth⟩ := noKeys_report user file
      cases hreport'.symm.trans hreport
      exact hauth
  | signed hscan hsigners =>
      rw [ClientConfig.kind_of_ofSigners hsigners h hreport]
      decide

theorem auth_of_buildCourse {lib : Key.Library} {c : Connection} {cause : Failure}
    {report : Report} (h : (r.buildCourse lib env c).outcome = .error cause)
    (hreport : cause.report? = some report) : .auth ∈ report.kind.lineage := by
  rw [buildCourse] at h
  cases hhome : r.homeDirectory env with
  | error failure =>
      obtain ⟨-, hfailure⟩ | ⟨-, home, hok⟩ := homeDirectory_cases r env
      · rw [hfailure] at h
        cases h
        cases hreport
      · cases hhome.symm.trans hok
  | ok home =>
      rw [hhome] at h
      exact auth_of_build h hreport

/-- What is reported about the client configuration is about authentication. -/
theorem auth_of_authFailure {c : Connection} {cause : Failure}
    (h : ∀ report, cause.report? = some report → .auth ∈ report.kind.lineage) {report : Report}
    (hreport : (authFailure d c cause).report? = some report) :
    .auth ∈ report.kind.lineage := by
  unfold authFailure at hreport
  cases hcause : cause.report? with
  | none => simp [hcause] at hreport
  | some inner =>
      simp only [hcause, h inner hcause, ↓reduceIte] at hreport
      split at hreport
      · cases hreport
      · rw [Report.plain, Report.make] at hreport
        have hmessage : Text.isBlankText
            ("could not make client config: ".toList ++ inner.message) = false :=
          Text.isBlankText_eq_false (c := 'c') (by simp) (by decide)
        simp only [hmessage, Bool.false_eq_true, ↓reduceIte] at hreport
        cases hreport
        exact (by decide : .auth ∈ Report.Kind.auth.lineage)

end Resolve.Resolver

end SshTunnel
