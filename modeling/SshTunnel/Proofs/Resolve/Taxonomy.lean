import SshTunnel.Proofs.Resolve.Batch
import SshTunnel.Proofs.Resolve.Reported

/-!
# Resolutions that escape

Resolving ends with a run configuration, with a report about the configuration or about
authentication, or with a failure that no report stands for. `Escapes` lists the ways to the
last: it is what ends a resolution of several declarations before all of them are done.
-/

namespace SshTunnel.Resolve.Resolver

variable {r : Resolver} {lib : Key.Library} {env : Environment} {desk : Log.Desk}
  {d : Declaration} {c : Connection}

/-- Building the client configuration of a connection below a home directory ends without a
report: the identity file is no text, a candidate stumbles, something is said about the candidates
to a file that was closed, the trust store does not load for a reason that escapes, or there is a
report to pass on but the connection has a port that no context can name. -/
inductive BuildEscapes (lib : Key.Library) (files : Files.Tree) (desk : Log.Desk) (home : Path)
    (store : Option Text) (c : Connection) : Prop where
  | notText (h : ∀ t, c.identityFile ≠ .text t)
  | stumbles {file listed : Text} (hfile : c.identityFile = .text file)
      (hlisted : listed ∈ ClientConfig.candidates file)
      (h : Auth.Stumbles lib files home.text listed)
  | unheard {file : Text} (hfile : c.identityFile = .text file)
      (h : ¬ desk.Takes
        ((ClientConfig.candidates file).filterMap (Auth.message? lib files home.text)))
  | store {file listed : Text} {key : PublicKey} {e : KnownHosts.LoadError}
      (hfile : c.identityFile = .text file)
      (hclean : ∀ l ∈ ClientConfig.candidates file, ¬ Auth.Stumbles lib files home.text l)
      (hlisted : listed ∈ ClientConfig.candidates file)
      (hloads : Auth.Loads lib files home.text listed key)
      (hstore : KnownHosts.ofFile lib files (ClientConfig.storePath home store) = .error e)
      (h : e.Escapes)
  | port {file : Text} (hfile : c.identityFile = .text file)
      (hclean : ∀ l ∈ ClientConfig.candidates file, ¬ Auth.Stumbles lib files home.text l)
      (hreport : (¬ ∃ l ∈ ClientConfig.candidates file, ∃ key,
          Auth.Loads lib files home.text l key) ∨
        ∃ e, KnownHosts.ofFile lib files (ClientConfig.storePath home store) = .error e ∧
          ¬ e.Escapes)
      (hport : Context.isPort c.port = false)

/-- Resolving a declaration ends without a report: there is no telling the home directory, the
reader ends so, the first problem of the configuration does not lie in a line, the warning about
the entry goes to a file that was closed, a value is not of the kind that merging or checking
needs, the port is too large to be written, or building the client configuration ends without a
report. -/
inductive Escapes (r : Resolver) (lib : Key.Library) (env : Environment) (desk : Log.Desk)
    (d : Declaration) : Prop where
  | homeless (hreader : r.reader = none) (hpath : r.configPath = none) (h : r.Homeless env)
  | reader {read : Text → Except Failure HostEntry} {failure : Failure}
      (hreader : r.reader = some read) (h : read d.host = .error failure)
      (hreport : failure.report? = none)
  | config {path : Path} {e : HostConfig.LoadError} (hreader : r.reader = none)
      (hpath : r.configFile env = .ok path)
      (hproblem : (HostConfig.reading env HostConfig.maxIncludeDepth path.text).problem? = some e)
      (h : ∀ l, e ≠ .line l)
  | unheard {e : HostEntry} (hread : r.readHostConfig env d.host = .ok e)
      (h : ¬ desk.Takes (warning? e).toList)
  | merge {e : HostEntry} {m : Misfit} (hread : r.readHostConfig env d.host = .ok e)
      (h : r.connection d e = .error m)
  | port {e : HostEntry} {c : Connection} {failure : Failure}
      (hread : r.readHostConfig env d.host = .ok e) (hmerge : r.connection d e = .ok c)
      (h : PortEscapes c failure)
  | connect {e : HostEntry} {c : Connection} (hread : r.readHostConfig env d.host = .ok e)
      (hmerge : r.connection d e = .ok c) (hfields : fieldFailure? d c = none)
      (h : r.Homeless env)
  | build {e : HostEntry} {c : Connection} {home : Path}
      (hread : r.readHostConfig env d.host = .ok e) (hmerge : r.connection d e = .ok c)
      (hfields : fieldFailure? d c = none) (hhome : r.homeDirectory env = .ok home)
      (h : BuildEscapes lib env.files desk home r.knownHostsPath c)

/-! ## Building the client configuration -/

/-- A report about authentication is passed on unless the port cannot be named. -/
theorem authFailure_report?_eq_none_iff (hmissing : missing? c = none) {cause : Failure}
    {inner : Report} (hinner : cause.report? = some inner) (hauth : .auth ∈ inner.kind.lineage) :
    (authFailure d c cause).report? = none ↔ Context.isPort c.port = false := by
  obtain ⟨hport, hreported⟩ | ⟨hport, hfailure⟩ :=
    authFailure_cases (d := d) hmissing hinner hauth
  · obtain ⟨report, hreport, -⟩ := hreported
    simp [hport, hreport]
  · simp [hport, hfailure]

theorem authFailure_report?_of_none {cause : Failure} (h : cause.report? = none) :
    (authFailure d c cause).report? = none := by
  rw [authFailure, h]
  exact h

section Building

variable {files : Files.Tree} {home : Path} {store : Option Text}

/-- The course of building is not taken, or it ends with a failure that leads to no report. -/
def EscapesInCourse (desk : Log.Desk) (d : Declaration) (c : Connection)
    (course : Course ClientConfig) : Prop :=
  ¬ desk.Takes course.said ∨
    ∃ cause, course.outcome = .error cause ∧ (authFailure d c cause).report? = none

/-- A candidate that stumbles ends the course of building. -/
theorem escapesInCourse_of_stumbles {file : Text} (hfile : c.identityFile = .text file)
    (h : ∃ l ∈ ClientConfig.candidates file, Auth.Stumbles lib files home.text l) :
    EscapesInCourse desk d c
      (ClientConfig.buildCourse lib files home store c.user c.identityFile) := by
  obtain ⟨failure, hfailure, hreport⟩ := Auth.scanCourse_of_stumbles h
  rw [hfile, ClientConfig.buildCourse_of_unscanned (Course.ext hfailure rfl)]
  exact Or.inr ⟨failure, rfl, authFailure_report?_of_none hreport⟩

theorem BuildEscapes.inCourse (hmissing : missing? c = none)
    (h : BuildEscapes lib files desk home store c) :
    EscapesInCourse desk d c
      (ClientConfig.buildCourse lib files home store c.user c.identityFile) := by
  cases h with
  | notText h =>
      rw [ClientConfig.buildCourse_of_other h]
      exact Or.inr ⟨_, rfl, rfl⟩
  | @stumbles file listed hfile hlisted h =>
      exact escapesInCourse_of_stumbles hfile ⟨listed, hlisted, h⟩
  | @unheard file hfile h =>
      by_cases hstumbles : ∃ l ∈ ClientConfig.candidates file, Auth.Stumbles lib files home.text l
      · exact escapesInCourse_of_stumbles hfile hstumbles
      · have hclean : ∀ l ∈ ClientConfig.candidates file, ¬ Auth.Stumbles lib files home.text l :=
          fun l hl hbad => hstumbles ⟨l, hl, hbad⟩
        obtain ⟨keys, hkeys, -⟩ := Auth.scanCourse_of_clean hclean
        rw [hfile, ClientConfig.buildCourse_of_scan hkeys]
        exact Or.inl h
  | @store file listed key e hfile hclean hlisted hloads hstore h =>
      obtain ⟨keys, hkeys, hnone⟩ := Auth.scanCourse_of_clean hclean
      have hsome : keys ≠ [] := fun hnil => hnone.mp hnil ⟨listed, hlisted, key, hloads⟩
      rw [hfile, ClientConfig.buildCourse_of_scan hkeys, if_neg hsome, ClientConfig.ofSigners,
        hstore]
      exact Or.inr ⟨e.failure, rfl, authFailure_report?_of_none (e.report?_eq_none_iff.mpr h)⟩
  | @port file hfile hclean hreport hport =>
      obtain ⟨keys, hkeys, hnone⟩ := Auth.scanCourse_of_clean hclean
      rw [hfile, ClientConfig.buildCourse_of_scan hkeys]
      refine Or.inr ?_
      by_cases hnil : keys = []
      · rw [if_pos hnil]
        obtain ⟨inner, hinner, hauth⟩ := noKeys_report c.user file
        exact ⟨_, rfl, (authFailure_report?_eq_none_iff hmissing hinner hauth).mpr hport⟩
      · obtain hno | ⟨e, hload, hstays⟩ := hreport
        · exact absurd (hnone.mpr hno) hnil
        · obtain ⟨inner, hinner, hauth⟩ := e.auth_of_not_escapes hstays
          rw [if_neg hnil, ClientConfig.ofSigners, hload]
          exact ⟨_, rfl, (authFailure_report?_eq_none_iff hmissing hinner hauth).mpr hport⟩

/-- Whatever is taken and does not end otherwise leads to a report. -/
theorem BuildEscapes.of_inCourse (hmissing : missing? c = none)
    (h : EscapesInCourse desk d c
      (ClientConfig.buildCourse lib files home store c.user c.identityFile)) :
    BuildEscapes lib files desk home store c := by
  have hbuilds := ClientConfig.buildCourse_builds lib files home store c.user c.identityFile
  generalize hfile : c.identityFile = identityFile at h hbuilds
  generalize ClientConfig.buildCourse lib files home store c.user identityFile = course
    at h hbuilds
  cases hbuilds with
  | notText hother => exact .notText (by rwa [hfile])
  | @unscanned file failure said hscan =>
      obtain ⟨-, l, hl, hstumbles⟩ := Auth.stumbles_of_scanCourse hscan
      exact .stumbles hfile hl hstumbles
  | @unsigned file said hscan =>
      obtain ⟨hclean, hnone, rfl⟩ := Auth.keys_of_scanCourse hscan
      obtain hnot | ⟨cause, hcause, hreport⟩ := h
      · exact .unheard hfile hnot
      · cases hcause
        obtain ⟨inner, hinner, hauth⟩ := noKeys_report c.user file
        exact .port hfile hclean (Or.inl (hnone.mp rfl))
          ((authFailure_report?_eq_none_iff hmissing hinner hauth).mp hreport)
  | @signed file signers said hscan hsigners =>
      obtain ⟨hclean, hnone, rfl⟩ := Auth.keys_of_scanCourse hscan
      obtain hnot | ⟨cause, hcause, hreport⟩ := h
      · exact .unheard hfile hnot
      · obtain ⟨e, hload, hof⟩ | ⟨knownHosts, -, huser, -⟩ | ⟨knownHosts, -, -, hof⟩ :=
          ClientConfig.ofSigners_cases lib files c.user hsigners (ClientConfig.storePath home store)
        · cases hcause.symm.trans hof
          by_cases hescapes : e.Escapes
          · obtain ⟨l, hl, key, hloads⟩ := by_contra fun hno => hsigners (hnone.mpr hno)
            exact .store hfile hclean hl hloads hload hescapes
          · obtain ⟨inner, hinner, hauth⟩ := e.auth_of_not_escapes hescapes
            exact .port hfile hclean (Or.inr ⟨e, hload, hescapes⟩)
              ((authFailure_report?_eq_none_iff hmissing hinner hauth).mp hreport)
        · cases huser.symm.trans (missing?_eq_none_iff.mp hmissing).2.1
        · cases hcause.symm.trans hof

end Building

/-! ## Resolutions -/

theorem not_answered_iff : ¬ r.Answered lib env desk d ↔
    ¬ desk.Takes (r.course lib env d).said ∨
      ∃ failure, (r.course lib env d).outcome = .error failure ∧ failure.report? = none := by
  rw [answered_iff, not_and_or]
  simp

theorem not_answered_of_unread {failure : Failure}
    (hread : r.readHostConfig env d.host = .error failure) (hreport : failure.report? = none) :
    ¬ r.Answered lib env desk d := by
  rw [not_answered_iff, course_of_unread hread]
  exact Or.inr ⟨failure, rfl, hreport⟩

/-- Where the fields can be used, a course of connecting that escapes is not answered. -/
theorem not_answered_of_connect {e : HostEntry} (hread : r.readHostConfig env d.host = .ok e)
    (hmerge : r.connection d e = .ok c) (hfields : fieldFailure? d c = none)
    (h : EscapesInCourse desk d c (r.buildCourse lib env c)) : ¬ r.Answered lib env desk d := by
  rw [not_answered_iff, course_of_merged hread hmerge]
  cases hbuild : r.buildCourse lib env c with
  | mk outcome said =>
      rw [hbuild] at h
      obtain hnot | ⟨cause, hcause, hreport⟩ := h
      · refine Or.inl fun htakes => hnot ?_
        have hsaid : (r.connectCourse lib env d c).said = said := by
          cases outcome with
          | error cause => rw [connectCourse_of_unbuilt hfields hbuild]
          | ok client => rw [connectCourse_of_built hfields hbuild]
        rw [← hsaid]
        exact (Log.Desk.takes_append.mp htakes).2
      · obtain rfl : outcome = .error cause := hcause
        rw [connectCourse_of_unbuilt hfields hbuild]
        exact Or.inr ⟨_, rfl, hreport⟩

/-- A resolution that escapes is not answered. -/
theorem Escapes.not_answered (h : Escapes r lib env desk d) : ¬ r.Answered lib env desk d := by
  cases h with
  | homeless hreader hpath h =>
      obtain ⟨-, hfile⟩ | ⟨hhome, -⟩ := configFile_cases r env
      · exact not_answered_of_unread (readHostConfig_of_homeless hreader hfile d.host) rfl
      · exact absurd ⟨hpath, h⟩ hhome
  | reader hreader h hreport =>
      exact not_answered_of_unread ((readHostConfig_of_reader hreader d.host).trans h) hreport
  | @config path e hreader hpath hproblem h =>
      have hread := (readHostConfig_of_path hreader hpath d.host).mpr ⟨e, hproblem, rfl⟩
      obtain ⟨⟨l, rfl⟩, -⟩ | ⟨-, hreport⟩ := e.configFailure_cases d.host
      · exact absurd rfl (h l)
      · exact not_answered_of_unread hread hreport
  | @unheard e hread h =>
      refine not_answered_iff.mpr (Or.inl fun htakes => h ?_)
      cases hmerge : r.connection d e with
      | error m => rwa [course_of_unmerged hread hmerge] at htakes
      | ok c =>
          rw [course_of_merged hread hmerge] at htakes
          exact (Log.Desk.takes_append.mp htakes).1
  | @merge e m hread h =>
      rw [not_answered_iff, course_of_unmerged hread h]
      exact Or.inr ⟨_, rfl, rfl⟩
  | @port e c failure hread hmerge h =>
      have hfields := fieldFailure?_eq_some_iff (d := d).mpr (Or.inr h)
      rw [not_answered_iff, course_of_merged hread hmerge, connectCourse_of_refused hfields]
      exact Or.inr ⟨failure, rfl, h.report?⟩
  | @connect e c hread hmerge hfields h =>
      refine not_answered_of_connect hread hmerge hfields ?_
      obtain ⟨-, hhome⟩ | ⟨hhome, -⟩ := homeDirectory_cases r env
      · rw [buildCourse, hhome]
        exact Or.inr ⟨_, rfl, rfl⟩
      · exact absurd h hhome
  | @build e c home hread hmerge hfields hhome h =>
      refine not_answered_of_connect hread hmerge hfields ?_
      rw [buildCourse, hhome]
      exact h.inCourse (missing?_of_fieldFailure? hfields)

theorem Escapes.of_unread {failure : Failure}
    (hread : r.readHostConfig env d.host = .error failure) (hreport : failure.report? = none) :
    Escapes r lib env desk d := by
  cases hreader : r.reader with
  | some read =>
      exact .reader hreader ((readHostConfig_of_reader hreader d.host).symm.trans hread) hreport
  | none =>
      obtain ⟨⟨hpath, hhomeless⟩, -⟩ | ⟨-, path, hpath⟩ := configFile_cases r env
      · exact .homeless hreader hpath hhomeless
      · obtain ⟨e, hproblem, rfl⟩ := (readHostConfig_of_path hreader hpath d.host).mp hread
        obtain ⟨-, report, hreport', -⟩ | ⟨hline, -⟩ := e.configFailure_cases d.host
        · cases hreport.symm.trans hreport'
        · exact .config hreader hpath hproblem hline

theorem Escapes.of_build {e : HostEntry} (hread : r.readHostConfig env d.host = .ok e)
    (hmerge : r.connection d e = .ok c) (hfields : fieldFailure? d c = none)
    (h : EscapesInCourse desk d c (r.buildCourse lib env c)) : Escapes r lib env desk d := by
  obtain ⟨hhomeless, -⟩ | ⟨-, home, hhome⟩ := homeDirectory_cases r env
  · exact .connect hread hmerge hfields hhomeless
  · rw [buildCourse, hhome] at h
    exact .build hread hmerge hfields hhome
      (.of_inCourse (missing?_of_fieldFailure? hfields) h)

/-- A resolution that is not answered escapes. -/
theorem Escapes.of_not_answered (h : ¬ r.Answered lib env desk d) :
    Escapes r lib env desk d := by
  -- At each stage either something said on the way is not taken, or the end there is no report.
  rw [not_answered_iff] at h
  have hresolves := r.course_resolves lib env d
  generalize r.course lib env d = course at h hresolves
  cases hresolves with
  | unread hread =>
      obtain hnot | ⟨failure, hfailure, hreport⟩ := h
      · exact absurd (fun _ _ hm => absurd hm List.not_mem_nil) hnot
      · cases hfailure
        exact .of_unread hread hreport
  | unmerged hread hmerge => exact .merge hread hmerge
  | refused hread hmerge hfields =>
      obtain hnot | ⟨failure, hfailure, hreport⟩ := h
      · exact .unheard hread hnot
      · cases hfailure
        obtain ⟨report, -, rfl⟩ | hescapes := fieldFailure?_eq_some_iff.mp hfields
        · cases hreport
        · exact .port hread hmerge hescapes
  | unbuilt hread hmerge hfields hbuild =>
      obtain hnot | ⟨failure, hfailure, hreport⟩ := h
      · rw [Log.Desk.takes_append, not_and_or] at hnot
        refine hnot.elim (.unheard hread) fun hnot => .of_build hread hmerge hfields ?_
        rw [hbuild]
        exact Or.inl hnot
      · cases hfailure
        refine .of_build hread hmerge hfields ?_
        rw [hbuild]
        exact Or.inr ⟨_, rfl, hreport⟩
  | run hread hmerge hfields hbuild =>
      obtain hnot | ⟨failure, hfailure, -⟩ := h
      · rw [Log.Desk.takes_append, not_and_or] at hnot
        refine hnot.elim (.unheard hread) fun hnot => .of_build hread hmerge hfields ?_
        rw [hbuild]
        exact Or.inl hnot
      · cases hfailure

theorem answered_iff_not_escapes : r.Answered lib env desk d ↔ ¬ Escapes r lib env desk d :=
  ⟨fun hanswered hescapes => hescapes.not_answered hanswered,
    fun hstays => by_contra fun hnot => hstays (.of_not_answered hnot)⟩

/-! ## When a resolution is reported -/

/-- Without a reader every report that a course ends with is about the configuration or about
authentication. -/
theorem isReported_of_course (hreader : r.reader = none) {failure : Failure}
    (h : (r.course lib env d).outcome = .error failure) (hreport : failure.report? ≠ none) :
    failure.IsReported := by
  have hresolves := r.course_resolves lib env d
  generalize r.course lib env d = course at h hresolves
  cases hresolves with
  | unread hread =>
      cases h
      obtain ⟨-, hfile⟩ | ⟨-, path, hpath⟩ := configFile_cases r env
      · cases hread.symm.trans (readHostConfig_of_homeless hreader hfile d.host)
        exact absurd rfl hreport
      · obtain ⟨e, -, rfl⟩ := (readHostConfig_of_path hreader hpath d.host).mp hread
        obtain ⟨-, hreported⟩ | ⟨-, hnone⟩ := e.configFailure_cases d.host
        · exact hreported
        · exact absurd hnone hreport
  | unmerged =>
      cases h
      exact absurd rfl hreport
  | refused hread hmerge hfields =>
      cases h
      obtain ⟨report, hrefuses, rfl⟩ | hescapes := fieldFailure?_eq_some_iff.mp hfields
      · exact hrefuses.isReported
      · exact absurd hescapes.report? hreport
  | unbuilt hread hmerge hfields hbuild =>
      cases h
      obtain ⟨report, hsome⟩ := Option.ne_none_iff_exists'.mp hreport
      refine ⟨report, hsome, Or.inr (auth_of_authFailure (fun inner hinner => ?_) hsome)⟩
      exact auth_of_buildCourse (congrArg Course.outcome hbuild) hinner
  | run => cases h

/-- Resolving ends with a run configuration or with a report just when it does not escape, and
without a reader the report is one about the configuration or about authentication. Several
declarations are resolved to the end just when none of them escapes. -/
theorem resolve_reported_iff (r : Resolver) (lib : Key.Library) (env : Environment)
    (desk : Log.Desk) :
    (∀ d, (∀ failure, ((r.resolve lib env d).runAt desk).1 = .error failure →
        failure.report?.isSome = true) ↔ ¬ Escapes r lib env desk d) ∧
    (r.reader = none → ∀ d failure, ((r.resolve lib env d).runAt desk).1 = .error failure →
      failure.report?.isSome = true → failure.IsReported) ∧
    ∀ ds, (∃ results, ((r.resolveAll lib env ds).runAt desk).1 = .ok results) ↔
      ∀ d ∈ ds, ¬ Escapes r lib env desk d := by
  refine ⟨fun d => answered_iff_not_escapes, fun hreader d failure hfailure hreport => ?_,
    fun ds => ?_⟩
  · obtain ⟨-, hcourse⟩ | ⟨-, rfl⟩ :=
      ((r.resolve_follows lib env d).fst_eq_error_iff (r.course_isMild lib env d)).mp hfailure
    · exact isReported_of_course hreader hcourse (Option.isSome_iff_ne_none.mp hreport)
    · cases hreport
  · simp only [← answered_iff_not_escapes]
    rw [← courseOnto_ends_iff []]
    constructor
    · rintro ⟨results, hresults⟩
      obtain ⟨htakes, houtcome, -⟩ := ((resolveOnto_follows [] ds).runAt_eq_ok_iff
        (courseOnto_isMild [] ds)).mp (Prod.ext hresults rfl)
      exact ⟨htakes, results, houtcome⟩
    · rintro ⟨htakes, results, houtcome⟩
      exact ⟨results, congrArg Prod.fst (((resolveOnto_follows [] ds).runAt_eq_ok_iff
        (courseOnto_isMild [] ds)).mpr ⟨htakes, houtcome, rfl⟩)⟩

/-- The configuration names an identity file whose path no file can have. -/
def nulSample : Environment :=
  { files :=
      { nodes :=
          [(["h".toList], .directory), (["h".toList, ".ssh".toList], .directory),
            (["h".toList, ".ssh".toList, "config".toList],
              .file (Utf8.encode "IdentityFile a\x00b\n".toList))]
        workingDirectory := [] }
    home := some "/h".toList
    accountHome := "/".toList
    debug := none }

theorem resolve_nul_identityFile :
    (∃ failure, ((sampleResolver.resolve OpenSsh.library nulSample sampleTunnel).runAt
        sampleDesk).1 = .error failure ∧ ¬ failure.IsReported) ∧
    ¬ ∃ results, ((sampleResolver.resolveAll OpenSsh.library nulSample [sampleTunnel]).runAt
        sampleDesk).1 = .ok results := by
  have hend : ((sampleResolver.resolveAll OpenSsh.library nulSample [sampleTunnel]).runAt
      sampleDesk).1.isOk = false := by
    decide +kernel
  have hall : ¬ ∃ results, ((sampleResolver.resolveAll OpenSsh.library nulSample
      [sampleTunnel]).runAt sampleDesk).1 = .ok results := by
    rintro ⟨results, hresults⟩
    rw [hresults] at hend
    cases hend
  refine ⟨?_, hall⟩
  have hnot : ¬ sampleResolver.Answered OpenSsh.library nulSample sampleDesk sampleTunnel := by
    intro hanswered
    exact hall ⟨_, congrArg Prod.fst (resolveAll_answered fun d hd => by
      rwa [List.mem_singleton.mp hd])⟩
  have hfailure : ∃ failure, ((sampleResolver.resolve OpenSsh.library nulSample
      sampleTunnel).runAt sampleDesk).1 = .error failure ∧ failure.report? = none := by
    simpa [Answered, outcome] using hnot
  obtain ⟨failure, hfailure, hreport⟩ := hfailure
  exact ⟨failure, hfailure, failure.not_isReported hreport⟩

end SshTunnel.Resolve.Resolver
