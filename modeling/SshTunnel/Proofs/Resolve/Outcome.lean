import SshTunnel.Proofs.Auth.Scan
import SshTunnel.Proofs.Resolve.Acceptance
import SshTunnel.Proofs.Resolve.Merge
import SshTunnel.Proofs.Resolve.Reported

/-!
# What a resolution needs and what it gives

With the usual defaults there is a run configuration exactly when the entry of the alias can be
read, the fields that it and the declaration give are complete, a candidate is a key and the
trust store loads. The run configuration carries just these fields.
-/

namespace SshTunnel

namespace ClientConfig

variable {lib : Key.Library} {files : Files.Tree} {home : Path} {store : Option Text}
  {user identityFile : Datum}

/-- What building a client configuration needs: a user, an identity file that is a text, a
candidate that is a key and none that stumbles, and a trust store that loads. -/
structure Buildable (lib : Key.Library) (files : Files.Tree) (home : Path) (store : Option Text)
    (user identityFile : Datum) : Prop where
  user : user.isGiven = true
  candidates : ∃ file, identityFile = .text file ∧
    (∃ listed ∈ candidates file, ∃ key, Auth.Loads lib files home.text listed key) ∧
    ∀ listed ∈ candidates file, ¬ Auth.Stumbles lib files home.text listed
  store : ∃ knownHosts, KnownHosts.ofFile lib files (storePath home store) = .ok knownHosts

theorem buildCourse_isOk_iff :
    (∃ client, (buildCourse lib files home store user identityFile).outcome = .ok client) ↔
      Buildable lib files home store user identityFile := by
  have hbuilds := buildCourse_builds lib files home store user identityFile
  generalize buildCourse lib files home store user identityFile = course at hbuilds
  cases hbuilds with
  | notText hother =>
      constructor
      · rintro ⟨client, h⟩
        cases h
      · rintro ⟨-, ⟨file, rfl, -⟩, -⟩
        exact absurd rfl (hother file)
  | @unscanned file failure said hscan =>
      constructor
      · rintro ⟨client, h⟩
        cases h
      · rintro ⟨-, ⟨file', hfile, -, hclean⟩, -⟩
        cases hfile
        obtain ⟨-, l, hl, hstumbles⟩ := Auth.stumbles_of_scanCourse hscan
        exact absurd hstumbles (hclean l hl)
  | @unsigned file said hscan =>
      constructor
      · rintro ⟨client, h⟩
        cases h
      · rintro ⟨-, ⟨file', hfile, hloads, -⟩, -⟩
        cases hfile
        exact absurd hloads ((Auth.keys_of_scanCourse hscan).2.1.mp rfl)
  | @signed file signers said hscan hsigners =>
      obtain ⟨hclean, hnone, -⟩ := Auth.keys_of_scanCourse hscan
      have hloads : ∃ l ∈ ClientConfig.candidates file, ∃ key,
          Auth.Loads lib files home.text l key :=
        not_not.mp fun hno => hsigners (hnone.mpr hno)
      constructor
      · rintro ⟨client, h⟩
        obtain ⟨huser, knownHosts, hload, -⟩ := (ofSigners_eq_ok_iff hsigners).mp h
        exact ⟨huser, ⟨file, rfl, hloads, hclean⟩, knownHosts, hload⟩
      · rintro ⟨huser, -, knownHosts, hload⟩
        exact ⟨_, (ofSigners_eq_ok_iff hsigners).mpr ⟨huser, knownHosts, hload, rfl⟩⟩

/-- Where no candidate stumbles, something is said about each that is no key. -/
theorem said_of_clean {file : Text}
    (hclean : ∀ l ∈ candidates file, ¬ Auth.Stumbles lib files home.text l) :
    (buildCourse lib files home store user (.text file)).said
      = (candidates file).filterMap (Auth.message? lib files home.text) := by
  obtain ⟨keys, hkeys, -⟩ := Auth.scanCourse_of_clean hclean
  rw [buildCourse_of_scan hkeys]

/-- A client configuration that is built is for the user asked for, and has a key. -/
theorem username_of_buildCourse {client : ClientConfig}
    (h : (buildCourse lib files home store user identityFile).outcome = .ok client) :
    client.username = user ∧ client.signers ≠ [] := by
  obtain ⟨signers, knownHosts, hsigners, -, rfl⟩ := buildCourse_eq_ok h
  exact ⟨rfl, hsigners⟩

end ClientConfig

namespace Resolve

/-! ## Local addresses -/

theorem contains_normalizeLocalAddress (address : Text) :
    (normalizeLocalAddress address).contains ':' = true := by
  unfold normalizeLocalAddress
  split
  · assumption
  · simp

theorem normalizeLocalAddress_of_contains {address : Text} (h : address.contains ':' = true) :
    normalizeLocalAddress address = address := if_pos h

namespace Resolver

variable {r : Resolver} {lib : Key.Library} {env : Environment} {desk : Log.Desk}
  {d : Declaration} {e : HostEntry}

/-! ## What a declaration and an entry give -/

/-- The entry of an alias: what the reader gives, or what the configuration says about the
alias when it loads. -/
inductive EntryFor (r : Resolver) (env : Environment) (host : Text) (e : HostEntry) : Prop where
  | reader {read : Text → Except Failure HostEntry} (h : r.reader = some read)
      (hread : read host = .ok e) : EntryFor r env host e
  | config {path : Path} {config : HostConfig} (h : r.reader = none)
      (hpath : r.configFile env = .ok path) (hload : HostConfig.ofFile env path = .ok config)
      (he : config.lookup host = e) : EntryFor r env host e

theorem readHostConfig_eq_ok_iff {host : Text} :
    r.readHostConfig env host = .ok e ↔ EntryFor r env host e := by
  rw [readHostConfig]
  constructor
  · intro h
    cases hreader : r.reader with
    | some read =>
        rw [hreader] at h
        exact .reader hreader h
    | none =>
        rw [hreader] at h
        cases hpath : r.configFile env with
        | error failure =>
            rw [hpath] at h
            cases h
        | ok path =>
            rw [hpath] at h
            simp only [Except.bind] at h
            cases hload : HostConfig.ofFile env path with
            | error problem =>
                rw [hload] at h
                cases h
            | ok config =>
                rw [hload] at h
                exact .config hreader hpath hload (Except.ok.inj h)
  · rintro (⟨hreader, hread⟩ | ⟨hreader, hpath, hload, rfl⟩)
    · simp only [hreader, hread]
    · simp only [hreader, hpath, Except.bind, hload]

/-- The host that the tunnel goes through: the one of the entry, or else the alias itself. -/
def hostOf (d : Declaration) (e : HostEntry) : Text :=
  if e.hostname = [] then d.host else e.hostname

/-- The user: the declared one, or else the one of the entry. -/
def userOf (d : Declaration) (e : HostEntry) : Datum := declaredOr d.user (.text e.user)

/-- The number that the port of an entry writes if it is a positive one, or else zero. -/
def writtenPort (e : HostEntry) : Int :=
  match Text.Numeral.parse? e.port with
  | some n => if 0 < n then n else 0
  | none => 0

/-- The port: the declared one, or else the one of the entry, or else the usual one. -/
def portOf (d : Declaration) (e : HostEntry) : Datum :=
  declaredOr d.port (.int (if writtenPort e = 0 then 22 else writtenPort e))

/-- The identity file: the declared one, or else the one of the entry. -/
def identityFileOf (d : Declaration) (e : HostEntry) : Datum :=
  declaredOr d.identityFile (.text e.identityFile)

theorem entryPort_eq_writtenPort (e : HostEntry) : entryPort e = writtenPort e := by
  cases hport : e.port with
  | nil =>
      have hnumber : e.portNumber = 0 := by
        rw [HostEntry.portNumber, hport]
        rfl
      have hnone : Text.Numeral.parse? ([] : Text) = none := rfl
      simp [entryPort, hasBadPort, writtenPort, hport, hnumber, hnone]
  | cons c rest =>
      simp only [entryPort, hasBadPort, HostEntry.portNumber, writtenPort, hport,
        List.isEmpty_cons, Bool.not_false, Bool.true_and, decide_eq_true_eq]
      cases Text.Numeral.parse? (c :: rest) with
      | none => rfl
      | some n =>
          simp only [Option.getD_some]
          split <;> split <;> omega

theorem usualConnection_eq (d : Declaration) (e : HostEntry) :
    usualConnection d e = ⟨.text (hostOf d e), userOf d e, portOf d e, identityFileOf d e⟩ := by
  have hhost : (if e.hostname = [] then Datum.text d.host else .text e.hostname)
      = .text (hostOf d e) := (apply_ite Datum.text _ _ _).symm
  have hport : (if entryPort e = 0 then Datum.int 22 else .int (entryPort e))
      = .int (if writtenPort e = 0 then 22 else writtenPort e) := by
    rw [entryPort_eq_writtenPort]
    exact (apply_ite Datum.int _ _ _).symm
  rw [usualConnection, hhost, hport]
  rfl

/-! ## The fields -/

/-- The fields are complete: a host, a user, and a port that is none too large. -/
structure Complete (d : Declaration) (e : HostEntry) : Prop where
  host : hostOf d e ≠ []
  user : (userOf d e).isGiven = true
  port : ∃ n, (portOf d e).whole? = some n ∧ n ≤ 65535

/-- The port that a declaration and an entry give is a positive number. -/
theorem portOf_pos (d : Declaration) (e : HostEntry) :
    ∃ n, (portOf d e).whole? = some n ∧ 1 ≤ n := by
  have h := usualConnection_port d e
  rwa [usualConnection_eq] at h

theorem Complete.isPort (h : Complete d e) :
    ∃ n, (portOf d e).whole? = some n ∧ 1 ≤ n ∧ n ≤ 65535 := by
  obtain ⟨n, hwhole, hsmall⟩ := h.port
  obtain ⟨m, hwhole', hpos⟩ := portOf_pos d e
  obtain rfl : n = m := Option.some.inj (hwhole.symm.trans hwhole')
  exact ⟨n, hwhole, hpos, hsmall⟩

theorem isGiven_of_whole? {port : Datum} {n : Int} (h : port.whole? = some n) (hpos : 1 ≤ n) :
    port.isGiven = true := by
  cases port with
  | bool b =>
      cases b with
      | true => rfl
      | false =>
          have hzero : (0 : Int) = n := Option.some.inj h
          omega
  | int m =>
      cases h
      simp only [Datum.isGiven, bne_iff_ne]
      omega
  | _ => cases h

theorem complete_iff : Complete d e ↔ fieldFailure? d (usualConnection d e) = none := by
  obtain ⟨n, hwhole, hpos⟩ := portOf_pos d e
  have hport : (portOf d e).isGiven = true := isGiven_of_whole? hwhole hpos
  have hhost : (Datum.text (hostOf d e)).isGiven = true ↔ hostOf d e ≠ [] := by
    simp [Datum.isGiven]
  rw [usualConnection_eq, fieldFailure?_eq_none_iff hwhole, missing?_eq_none_iff]
  simp only [hhost, hport, and_true]
  constructor
  · rintro ⟨hhost, huser, m, hwhole', hsmall⟩
    obtain rfl : n = m := Option.some.inj (hwhole.symm.trans hwhole')
    exact ⟨⟨hhost, huser⟩, hsmall⟩
  · rintro ⟨⟨hhost, huser⟩, hsmall⟩
    exact ⟨hhost, huser, n, hwhole, hsmall⟩

/-! ## Run configurations -/

/-- A course that comes to a run configuration has gone through all its stages. -/
theorem course_eq_ok_iff (h : r.defaults = .record builtin) {run : RunConfig}
    {said : List Log.Message} : r.course lib env d = ⟨.ok run, said⟩ ↔
      ∃ e client built, EntryFor r env d.host e ∧ Complete d e ∧
        r.buildCourse lib env (usualConnection d e) = ⟨.ok client, built⟩ ∧
        run = runConfig d (usualConnection d e) client ∧
        said = (warning? e).toList ++ built := by
  constructor
  · intro hrun
    have hresolves := r.course_resolves lib env d
    rw [hrun] at hresolves
    generalize hout : (⟨.ok run, said⟩ : Course RunConfig) = course at hresolves
    cases hresolves with
    | unread => cases hout
    | unmerged => cases hout
    | refused => cases hout
    | unbuilt => cases hout
    | @run e c client built hread hmerge hfields hbuild =>
        cases hout
        obtain rfl : usualConnection d e = c :=
          Except.ok.inj ((connection_builtin h d e).symm.trans hmerge)
        exact ⟨e, client, built, readHostConfig_eq_ok_iff.mp hread,
          complete_iff.mpr hfields, hbuild, rfl, rfl⟩
  · rintro ⟨e, client, built, hentry, hcomplete, hbuild, rfl, rfl⟩
    rw [course_of_merged (readHostConfig_eq_ok_iff.mpr hentry) (connection_builtin h d e),
      connectCourse_of_built (complete_iff.mp hcomplete) hbuild]

/-- What connecting with the fields of a declaration and an entry needs: a home directory, an
identity file that is a text, a candidate that is a key and none that stumbles, and a trust store
that loads. -/
structure Connects (r : Resolver) (lib : Key.Library) (env : Environment) (d : Declaration)
    (e : HostEntry) (home : Path) (file : Text) : Prop where
  below : r.homeDirectory env = .ok home
  identity : identityFileOf d e = .text file
  loads : ∃ listed ∈ ClientConfig.candidates file, ∃ key,
    Auth.Loads lib env.files home.text listed key
  clean : ∀ listed ∈ ClientConfig.candidates file,
    ¬ Auth.Stumbles lib env.files home.text listed
  store : ∃ store,
    KnownHosts.ofFile lib env.files (ClientConfig.storePath home r.knownHostsPath) = .ok store

/-- What is said on the way to the run configuration: the warning about the entry, and something
about each candidate that is no key. -/
def saidFor (lib : Key.Library) (files : Files.Tree) (e : HostEntry) (home : Path) (file : Text) :
    List Log.Message :=
  (warning? e).toList
    ++ (ClientConfig.candidates file).filterMap (Auth.message? lib files home.text)

theorem buildCourse_isOk_iff (huser : (userOf d e).isGiven = true) {built : List Log.Message} :
    (∃ client, r.buildCourse lib env (usualConnection d e) = ⟨.ok client, built⟩) ↔
      ∃ home file, Connects r lib env d e home file ∧
        (ClientConfig.candidates file).filterMap (Auth.message? lib env.files home.text)
          = built := by
  rw [usualConnection_eq]
  constructor
  · rintro ⟨client, hbuild⟩
    obtain ⟨-, hhome⟩ | ⟨-, home, hhome⟩ := homeDirectory_cases r env
    · rw [buildCourse, hhome] at hbuild
      cases hbuild
    · simp only [buildCourse, hhome] at hbuild
      obtain ⟨-, ⟨file, hfile, hloads, hclean⟩, hstore⟩ :=
        ClientConfig.buildCourse_isOk_iff.mp ⟨client, congrArg Course.outcome hbuild⟩
      refine ⟨home, file, ⟨hhome, hfile, hloads, hclean, hstore⟩, ?_⟩
      rw [hfile] at hbuild
      rw [← ClientConfig.said_of_clean hclean]
      exact congrArg Course.said hbuild
  · rintro ⟨home, file, ⟨hhome, hfile, hloads, hclean, hstore⟩, rfl⟩
    obtain ⟨client, hclient⟩ := ClientConfig.buildCourse_isOk_iff.mpr
      (ClientConfig.Buildable.mk huser ⟨file, hfile, hloads, hclean⟩ hstore)
    refine ⟨client, ?_⟩
    simp only [buildCourse, hhome]
    refine Course.ext hclient ?_
    rw [hfile, ClientConfig.said_of_clean hclean]

/-- The run configuration carries what the declaration and the entry give. -/
structure Carries (d : Declaration) (e : HostEntry) (run : RunConfig) : Prop where
  hostname : run.hostname = .text (hostOf d e)
  user : run.user = userOf d e
  port : run.port = portOf d e
  identityFile : run.identityFile = identityFileOf d e
  remoteAddress : run.remoteAddress = d.remoteAddress
  localAddress : run.localAddress = normalizeLocalAddress d.localAddress
  username : run.client.username = run.user
  signers : run.client.signers ≠ []

theorem runConfig_carries {client : ClientConfig} {built : List Log.Message}
    (hbuild : r.buildCourse lib env (usualConnection d e) = ⟨.ok client, built⟩) :
    Carries d e (runConfig d (usualConnection d e) client) := by
  obtain ⟨-, hhome⟩ | ⟨-, home, hhome⟩ := homeDirectory_cases r env
  · rw [buildCourse, hhome] at hbuild
    cases hbuild
  · simp only [buildCourse, hhome] at hbuild
    obtain ⟨husername, hsigners⟩ :=
      ClientConfig.username_of_buildCourse (congrArg Course.outcome hbuild)
    rw [usualConnection_eq] at husername ⊢
    exact ⟨rfl, rfl, rfl, rfl, rfl, rfl, husername, hsigners⟩

/-- With the usual defaults there is a run configuration exactly when the entry of the alias
can be read and gives complete fields together with the declaration, these connect, and whatever is
said on the way is taken, as an open sink takes anything. The run configuration carries just these
fields, a local address with a colon that stays as it is, and the user and a key for the client;
its host and user are never empty, and its port is one. -/
theorem resolve_run_iff (h : r.defaults = .record builtin) (lib : Key.Library)
    (env : Environment) (desk : Log.Desk) (d : Declaration) :
    ((∃ run desk', (r.resolve lib env d).runAt desk = (.ok run, desk')) ↔
      ∃ e home file, EntryFor r env d.host e ∧ Complete d e ∧ Connects r lib env d e home file ∧
        desk.Takes (saidFor lib env.files e home file)) ∧
    ∀ run desk', (r.resolve lib env d).runAt desk = (.ok run, desk') →
      (∃ e, EntryFor r env d.host e ∧ Carries d e run) ∧
      run.localAddress.contains ':' = true ∧
      normalizeLocalAddress run.localAddress = run.localAddress ∧
      (∃ host, run.hostname = .text host ∧ host ≠ []) ∧ run.user.isGiven = true ∧
      ∃ n, run.port.whole? = some n ∧ 1 ≤ n ∧ n ≤ 65535 := by
  have hends : ∀ {run desk'}, (r.resolve lib env d).runAt desk = (.ok run, desk') ↔
      desk.Takes (r.course lib env d).said ∧ (r.course lib env d).outcome = .ok run ∧
        (desk.logAll (r.course lib env d).said).1 = desk' :=
    (r.resolve_follows lib env d).runAt_eq_ok_iff (r.course_isMild lib env d)
  constructor
  · constructor
    · rintro ⟨run, desk', hrun⟩
      obtain ⟨htakes, houtcome, -⟩ := hends.mp hrun
      obtain ⟨e, client, built, hentry, hcomplete, hbuild, -, hsaid⟩ :=
        (course_eq_ok_iff h).mp (Course.ext houtcome rfl)
      obtain ⟨home, file, hconnects, hbuilt⟩ :=
        (buildCourse_isOk_iff hcomplete.user).mp ⟨client, hbuild⟩
      refine ⟨e, home, file, hentry, hcomplete, hconnects, ?_⟩
      rw [saidFor, hbuilt, ← hsaid]
      exact htakes
    · rintro ⟨e, home, file, hentry, hcomplete, hconnects, htakes⟩
      obtain ⟨client, hbuild⟩ :=
        (buildCourse_isOk_iff hcomplete.user).mpr ⟨home, file, hconnects, rfl⟩
      have hcourse := (course_eq_ok_iff h).mpr
        ⟨e, client, _, hentry, hcomplete, hbuild, rfl, rfl⟩
      exact ⟨_, _, hends.mpr ⟨by rw [hcourse]; exact htakes, congrArg Course.outcome hcourse, rfl⟩⟩
  · intro run desk' hrun
    obtain ⟨-, houtcome, -⟩ := hends.mp hrun
    obtain ⟨e, client, built, hentry, hcomplete, hbuild, rfl, -⟩ :=
      (course_eq_ok_iff h).mp (Course.ext houtcome rfl)
    have hcarries := runConfig_carries hbuild
    have hcolon := contains_normalizeLocalAddress d.localAddress
    refine ⟨⟨e, hentry, hcarries⟩, ?_, ?_, ⟨_, hcarries.hostname, hcomplete.host⟩, ?_, ?_⟩
    · rw [hcarries.localAddress]
      exact hcolon
    · rw [hcarries.localAddress]
      exact normalizeLocalAddress_of_contains hcolon
    · rw [hcarries.user]
      exact hcomplete.user
    · rw [hcarries.port]
      exact hcomplete.isPort

/-- A reader that gives a user and a port in an unusual spelling. -/
def spelledPort : Resolver :=
  { sampleResolver with
    reader := some fun _ => .ok ⟨"".toList, "me".toList, " +2_222 ".toList, [], []⟩ }

/-- A declaration that leaves the user and the port open. -/
def openTunnel : Declaration := { sampleTunnel with user := .text [] }

theorem spelledPort_run : ∃ run desk,
    (spelledPort.resolve OpenSsh.library sampleEnvironment openTunnel).runAt sampleDesk
      = (.ok run, desk) ∧
      run.hostname = .text "db.example".toList ∧ run.user = .text "me".toList ∧
      run.port = .int 2222 := by
  have hok : ((spelledPort.resolve OpenSsh.library sampleEnvironment openTunnel).runAt
      sampleDesk).1.isOk = true := by
    decide +kernel
  obtain ⟨run, desk, hresolve⟩ := Logging.exists_of_isOk hok
  obtain ⟨⟨e, hentry, hcarries⟩, -⟩ := (@resolve_run_iff spelledPort rfl OpenSsh.library
    sampleEnvironment sampleDesk openTunnel).2 run desk hresolve
  cases hentry with
  | reader hreader hread =>
      cases hreader
      cases hread
      exact ⟨run, desk, hresolve, hcarries.hostname, hcarries.user, hcarries.port⟩
  | config hreader => cases hreader

end Resolver

end Resolve

end SshTunnel
