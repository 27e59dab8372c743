import SshTunnel.Proofs.HostConfig.Depth
import SshTunnel.Proofs.Resolve.Home
import SshTunnel.Proofs.Resolve.Outcome
import SshTunnel.Proofs.Resolve.Validation

/-!
# Reports that wrap others

What goes wrong in the host configuration or on the way to a client configuration is reported
again by a resolution, which adds the alias or the connection. The outer report rests on the inner
one and can always be written as a record, which tells where the inner one comes from.
-/

namespace SshTunnel

/-- The empty path names no file. -/
theorem Files.Tree.read_nil (t : Files.Tree) : t.read [] = .error ⟨.missing, []⟩ := rfl

theorem Datum.isSet_of_isGiven {d : Datum} (h : d.isGiven = true) : d.isSet = true := by
  cases d with
  | null => cases h
  | _ => rfl

namespace Resolve.Resolver

variable {r : Resolver} {lib : Key.Library} {env : Environment} {d : Declaration}
  {e : HostEntry} {c : Connection}

/-! ## The host configuration -/

theorem path_ne_nil_of_lineError {root : Path} {l : HostConfig.LineError}
    (h : HostConfig.ofFile env root = .error (.line l)) : l.path ≠ [] := by
  intro hnil
  obtain ⟨content, -, hread, -⟩ := HostConfig.read_of_lineError h
  rw [hnil, Files.Tree.read_nil] at hread
  cases hread

theorem configReport_toRecord (host : Text) (l : HostConfig.LineError) :
    (configReport host l.report).toRecord =
      .ok [("error_type".toList, .text "ConfigError".toList),
        ("message".toList, .text ("could not parse SSH config: ".toList ++ l.message)),
        ("host".toList, .text host), ("original_error".toList, .text l.message),
        ("config_path".toList, .text l.path), ("line".toList, .int l.line)] := rfl

/-! ## The client configuration -/

theorem authReport_toRecord (hhost : c.hostname.isSet = true) (hport : c.port.isSet = true)
    (huser : c.user.isSet = true) (inner : Report) :
    (authReport d c inner).toRecord =
      .ok [("error_type".toList, .text "AuthError".toList),
        ("message".toList, .text ("could not make client config: ".toList ++ inner.message)),
        ("host".toList, c.hostname), ("port".toList, c.port), ("username".toList, c.user),
        ("original_error".toList, .text inner.message), ("tunnel".toList, .text d.name),
        ("cause".toList, .text inner.kind.name)] := by
  have hnull : Datum.null.isSet = false := rfl
  have htext : (Datum.text inner.message).isSet = true := rfl
  have hfields : (authReport d c inner).context.setFields =
      [("host".toList, c.hostname), ("port".toList, c.port), ("username".toList, c.user),
        ("original_error".toList, .text inner.message)] := by
    simp only [Context.setFields, Context.fields, authReport, List.filter_cons, hhost, hport,
      huser, hnull, htext, Bool.false_eq_true, ↓reduceIte, List.filter_nil]
  rw [Report.toRecord, Context.toRecord, hfields]
  rfl

/-- Complete fields have a port that a context can name. -/
theorem Complete.isPort_portOf (h : Complete d e) : Context.isPort (portOf d e) = true := by
  obtain ⟨n, hwhole, hpos, hsmall⟩ := h.isPort
  simp [Context.isPort, hwhole, hpos, hsmall]

theorem authFailure_of_complete (hcomplete : Complete d e) {cause : Failure} {inner : Report}
    (hinner : cause.report? = some inner) (hauth : .auth ∈ inner.kind.lineage) :
    authFailure d (usualConnection d e) cause
      = .caused (authReport d (usualConnection d e) inner) cause := by
  have hmissing := missing?_of_fieldFailure? (complete_iff.mp hcomplete)
  rw [authFailure_eq hmissing hinner hauth]
  rw [usualConnection_eq]
  exact if_pos hcomplete.isPort_portOf

/-! ## Resolutions -/

theorem course_of_problem (lib : Key.Library) (d : Declaration) (hreader : r.reader = none)
    {path : Path} (hpath : r.configFile env = .ok path) {problem : HostConfig.LoadError}
    (h : HostConfig.ofFile env path = .error problem) :
    r.course lib env d = ⟨.error (configFailure d.host problem.failure), []⟩ := by
  apply course_of_unread
  simp only [readHostConfig, hreader, hpath, Except.bind, h]

/-- A failure to build that is met where the warning about the entry has been taken is the end of
the resolution, as the report wants it. -/
theorem resolve_of_unbuilt (hdefaults : r.defaults = .record builtin)
    (hentry : EntryFor r env d.host e) (hcomplete : Complete d e)
    {desk desk' desk'' : Log.Desk} {cause : Failure}
    (hwarned : (Logging.tellAny (warning? e)).runAt desk = (.ok (), desk'))
    (h : (r.buildClient lib env (usualConnection d e)).runAt desk' = (.error cause, desk'')) :
    (r.resolve lib env d).runAt desk
      = (.error (authFailure d (usualConnection d e) cause), desk'') := by
  have hmerge : (r.connection d e).mapError (fun m => Failure.misuse (.unfit m))
      = .ok (usualConnection d e) := by
    rw [connection_builtin hdefaults d e]
    rfl
  rw [resolve, readHostConfig_eq_ok_iff.mpr hentry, Logging.runAt_bind, Logging.runAt_lift]
  simp only [resolveEntry]
  rw [Logging.runAt_bind, hwarned]
  simp only [hmerge]
  rw [Logging.runAt_bind, Logging.runAt_lift]
  simp only [complete_iff.mp hcomplete]
  rw [Logging.runAt_bind, Logging.runAt_adapt, h]
  rfl

/-- A report on the host configuration is about a line of a file that can be read, and a resolution
wraps it in one whose record has the alias, the path and the line. A report that building the
client configuration ends with is about authentication, and is wrapped in one whose record has the
host, the port and the user that were resolved, the name of the tunnel and the kind of the report
inside. -/
theorem resolve_wraps (hreader : r.reader = none) (hdefaults : r.defaults = .record builtin)
    (lib : Key.Library) (env : Environment) (desk : Log.Desk) (d : Declaration) :
    (∀ path problem inner, r.configFile env = .ok path →
      HostConfig.ofFile env path = .error problem → problem.failure.report? = some inner →
      ∃ (path : Text) (line : Nat) (report : Report),
        (∃ content written, env.files.read path = .ok content ∧
          (line, written) ∈ Text.numberedLines (HostConfig.textOf content)) ∧
        inner.kind = .sshConfig ∧
        inner.attributes = [("path".toList, .text path), ("line_no".toList, .int line)] ∧
        (r.resolve lib env d).runAt desk = (.error (.caused report problem.failure), desk) ∧
        report.kind = .config ∧
        report.message = "could not parse SSH config: ".toList ++ inner.message ∧
        report.toRecord = .ok [("error_type".toList, .text "ConfigError".toList),
          ("message".toList, .text report.message), ("host".toList, .text d.host),
          ("original_error".toList, .text inner.message), ("config_path".toList, .text path),
          ("line".toList, .int line)]) ∧
    ∀ e cause inner desk' desk'', EntryFor r env d.host e → Complete d e →
      (Logging.tellAny (warning? e)).runAt desk = (.ok (), desk') →
      (r.buildClient lib env (usualConnection d e)).runAt desk' = (.error cause, desk'') →
      cause.report? = some inner →
      .auth ∈ inner.kind.lineage ∧
      ∃ report : Report,
        (r.resolve lib env d).runAt desk = (.error (.caused report cause), desk'') ∧
        report.kind = .auth ∧
        report.message = "could not make client config: ".toList ++ inner.message ∧
        report.toRecord = .ok [("error_type".toList, .text "AuthError".toList),
          ("message".toList, .text report.message), ("host".toList, .text (hostOf d e)),
          ("port".toList, portOf d e), ("username".toList, userOf d e),
          ("original_error".toList, .text inner.message), ("tunnel".toList, .text d.name),
          ("cause".toList, .text inner.kind.name)] := by
  constructor
  · intro root problem inner hroot hload hinner
    cases problem with
    | badPath p => cases hinner
    | refused p => cases hinner
    | noHome p => cases hinner
    | line l =>
        have hfailure := HostConfig.LoadError.line_failure (path_ne_nil_of_lineError hload)
        have hcourse := course_of_problem lib d hreader hroot hload
        rw [configFailure_of_report hinner] at hcourse
        rw [hfailure] at hinner
        cases hinner
        obtain ⟨content, written, hread, hmem⟩ := HostConfig.read_of_lineError hload
        refine ⟨l.path, l.line, configReport d.host l.report, ⟨content, written, hread, hmem⟩, rfl,
          rfl, ?_, rfl, rfl, configReport_toRecord d.host l⟩
        rw [r.resolve_follows lib env d desk, hcourse]
        rfl
  · intro e cause inner desk' desk'' hentry hcomplete hwarned hbuild hinner
    have hauth : .auth ∈ inner.kind.lineage := by
      obtain ⟨-, hcause⟩ | ⟨-, rfl⟩ := ((r.buildClient_follows lib env _).fst_eq_error_iff
        (r.buildCourse_isMild lib env _)).mp (congrArg Prod.fst hbuild)
      · exact auth_of_buildCourse hcause hinner
      · cases hinner
    have hresolve := resolve_of_unbuilt hdefaults hentry hcomplete hwarned hbuild
    rw [authFailure_of_complete hcomplete hinner hauth] at hresolve
    refine ⟨hauth, authReport d (usualConnection d e) inner, hresolve, rfl, rfl, ?_⟩
    have hmissing := missing?_of_fieldFailure? (complete_iff.mp hcomplete)
    obtain ⟨hhost, huser, hport⟩ := missing?_eq_none_iff.mp hmissing
    have hrecord := authReport_toRecord (d := d) (Datum.isSet_of_isGiven hhost)
      (Datum.isSet_of_isGiven hport) (Datum.isSet_of_isGiven huser) inner
    rw [usualConnection_eq] at hrecord ⊢
    exact hrecord

/-- An included file has a line without a value. -/
def malformedInclude : Environment :=
  homeEnvironment "Include /h/.ssh/inc\n".toList [("inc".toList, "User me\nPort\n".toList)]

/-- There is a user, but no key. -/
def keyless : Environment := homeEnvironment "User me\n".toList []

theorem keyless_entry : EntryFor homeResolver keyless homeTunnel.host
    ⟨[], "me".toList, [], [], []⟩ := by
  have hentry : (homeResolver.readHostConfig keyless homeTunnel.host).toOption
      = some ⟨[], "me".toList, [], [], []⟩ := by
    decide +kernel
  exact readHostConfig_eq_ok_iff.mp (eq_ok_of_toOption hentry)

theorem keyless_unbuilt : ∃ desk, (homeResolver.buildClient OpenSsh.library keyless
    (usualConnection homeTunnel ⟨[], "me".toList, [], [], []⟩)).runAt sampleDesk
      = (.error (ClientConfig.noKeys (.text "me".toList) []), desk) := by
  have hkeys : (Auth.scanCourse OpenSsh.library keyless.files "/h".toList
      (ClientConfig.candidates [])).outcome.toOption = some [] := by
    decide +kernel
  have hscan : Auth.scanCourse OpenSsh.library keyless.files (Path.ofText "/h".toList).text
      (ClientConfig.candidates []) = ⟨.ok [], _⟩ :=
    Course.ext (eq_ok_of_toOption hkeys) rfl
  have hbuild := ClientConfig.buildCourse_of_scan hscan none (.text "me".toList)
  have hopen : sampleDesk.isClosed = false := rfl
  have hrun := (homeResolver.buildClient_follows OpenSsh.library keyless
    (usualConnection homeTunnel ⟨[], "me".toList, [], [], []⟩)).runAt_of_takes
      (homeResolver.buildCourse_isMild OpenSsh.library keyless _)
      (Log.Desk.takes_of_open hopen)
  refine ⟨_, hrun.trans (congrArg (fun outcome => (outcome, _)) ?_)⟩
  exact congrArg Course.outcome hbuild

/-- The line is reported where it stands, and the missing key with the connection it was for. -/
theorem resolve_wraps_samples :
    homeResolver.reader = none ∧ homeResolver.defaults = .record builtin ∧
    (∃ report cause, (homeResolver.resolve OpenSsh.library malformedInclude homeTunnel).runAt
        sampleDesk = (.error (.caused report cause), sampleDesk) ∧
      report.toRecord = .ok [("error_type".toList, .text "ConfigError".toList),
        ("message".toList, .text
          "could not parse SSH config: /h/.ssh/inc:2: missing value for Port".toList),
        ("host".toList, .text "db.example".toList),
        ("original_error".toList, .text "/h/.ssh/inc:2: missing value for Port".toList),
        ("config_path".toList, .text "/h/.ssh/inc".toList), ("line".toList, .int 2)]) ∧
    ∃ report cause desk, (homeResolver.resolve OpenSsh.library keyless homeTunnel).runAt
        sampleDesk = (.error (.caused report cause), desk) ∧
      report.toRecord = .ok [("error_type".toList, .text "AuthError".toList),
        ("message".toList, .text "could not make client config: no key files found".toList),
        ("host".toList, .text "db.example".toList), ("port".toList, .int 22),
        ("username".toList, .text "me".toList),
        ("original_error".toList, .text "no key files found".toList),
        ("tunnel".toList, .text "db".toList),
        ("cause".toList, .text "NoKeysFoundError".toList)] := by
  refine ⟨rfl, rfl, ?_, ?_⟩
  · have hload : HostConfig.errorOf (HostConfig.ofFile malformedInclude
        (homeResolver.configBelow (Path.ofText "/h".toList)))
          = some (.line ⟨"/h/.ssh/inc".toList, 2, .missingValue "Port".toList⟩) := by
      decide +kernel
    obtain ⟨path, line, report, -, -, hattributes, hresolve, -, hmessage, hrecord⟩ :=
      (resolve_wraps (r := homeResolver) rfl rfl OpenSsh.library malformedInclude sampleDesk
        homeTunnel).1 _ _ _ rfl (HostConfig.eq_error_of_errorOf hload) rfl
    cases hattributes
    refine ⟨report, _, hresolve, ?_⟩
    rw [hrecord, hmessage]
    rfl
  · obtain ⟨desk, hbuild⟩ := keyless_unbuilt
    have hcomplete : Complete homeTunnel ⟨[], "me".toList, [], [], []⟩ :=
      ⟨by decide, by decide, 22, by decide, by decide⟩
    obtain ⟨-, report, hresolve, -, hmessage, hrecord⟩ :=
      (resolve_wraps (r := homeResolver) rfl rfl OpenSsh.library keyless sampleDesk homeTunnel).2
        _ _ _ _ _ keyless_entry hcomplete rfl hbuild rfl
    refine ⟨report, _, desk, hresolve, ?_⟩
    rw [hrecord, hmessage]
    rfl

end Resolve.Resolver

end SshTunnel
