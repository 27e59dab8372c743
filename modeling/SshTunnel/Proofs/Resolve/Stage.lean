import SshTunnel.Proofs.Auth.Scan
import SshTunnel.Proofs.Result
import SshTunnel.Resolve.Resolver

/-!
# Stages of a resolution

Resolving reads the host configuration, merges the fields, checks them and builds the client
configuration; building scans the key candidates and loads the trust store. `Resolves` and
`Builds` have one case for each stage at which their courses can end, with what is known there, so
that no later proof opens the definitions again.
-/

namespace SshTunnel

namespace ClientConfig

/-- What building a client configuration says, and what it comes to. -/
def buildCourse (lib : Key.Library) (files : Files.Tree) (home : Path) (store : Option Text)
    (user identityFile : Datum) : Course ClientConfig :=
  match identityFile with
  | .text file =>
      (Auth.scanCourse lib files home.text (candidates file)).bind fun signers =>
        ⟨if signers.isEmpty then .error (noKeys user file)
          else ofSigners lib files user signers (storePath home store), []⟩
  | other => ⟨.error (.misuse (.unfit (.noMember other "startswith".toList))), []⟩

theorem build_follows (lib : Key.Library) (files : Files.Tree) (home : Path) (store : Option Text)
    (user identityFile : Datum) :
    Logging.Follows (build lib files home store user identityFile)
      (buildCourse lib files home store user identityFile) := by
  cases identityFile with
  | text file =>
      refine (Auth.scan_follows lib files home.text (candidates file)).bind fun signers => ?_
      cases signers.isEmpty with
      | true => exact Logging.follows_throw _
      | false => exact Logging.follows_lift _
  | _ => exact Logging.follows_throw _

theorem buildCourse_isMild (lib : Key.Library) (files : Files.Tree) (home : Path)
    (store : Option Text) (user identityFile : Datum) :
    (buildCourse lib files home store user identityFile).IsMild := by
  cases identityFile with
  | text file =>
      exact (Auth.scanCourse_isMild lib files home.text (candidates file)).bind fun _ => nofun
  | _ => exact nofun

/-- The stages at which building a client configuration can end. -/
inductive Builds (lib : Key.Library) (files : Files.Tree) (home : Path) (store : Option Text)
    (user : Datum) : Datum → Course ClientConfig → Prop where
  | notText {other : Datum} (h : ∀ t, other ≠ .text t) :
      Builds lib files home store user other
        ⟨.error (.misuse (.unfit (.noMember other "startswith".toList))), []⟩
  | unscanned {file : Text} {failure : Failure} {said : List Log.Message}
      (hscan : Auth.scanCourse lib files home.text (candidates file) = ⟨.error failure, said⟩) :
      Builds lib files home store user (.text file) ⟨.error failure, said⟩
  | unsigned {file : Text} {said : List Log.Message}
      (hscan : Auth.scanCourse lib files home.text (candidates file) = ⟨.ok [], said⟩) :
      Builds lib files home store user (.text file) ⟨.error (noKeys user file), said⟩
  | signed {file : Text} {signers : List PublicKey} {said : List Log.Message}
      (hscan : Auth.scanCourse lib files home.text (candidates file) = ⟨.ok signers, said⟩)
      (hsigners : signers ≠ []) :
      Builds lib files home store user (.text file)
        ⟨ofSigners lib files user signers (storePath home store), said⟩

section Stages

variable {lib : Key.Library} {files : Files.Tree} {home : Path} {file : Text}
  {said : List Log.Message}

theorem buildCourse_of_other {other : Datum} (h : ∀ t, other ≠ .text t) (store : Option Text)
    (user : Datum) : buildCourse lib files home store user other
      = ⟨.error (.misuse (.unfit (.noMember other "startswith".toList))), []⟩ := by
  rw [buildCourse]
  exact h

theorem buildCourse_of_unscanned {failure : Failure}
    (hscan : Auth.scanCourse lib files home.text (candidates file) = ⟨.error failure, said⟩)
    (store : Option Text) (user : Datum) :
    buildCourse lib files home store user (.text file) = ⟨.error failure, said⟩ := by
  simp only [buildCourse, hscan, Course.bind_error]

/-- Building goes on from a scan that finds keys, and ends with a report when there are none. -/
theorem buildCourse_of_scan {keys : List PublicKey}
    (hscan : Auth.scanCourse lib files home.text (candidates file) = ⟨.ok keys, said⟩)
    (store : Option Text) (user : Datum) :
    buildCourse lib files home store user (.text file) =
      ⟨if keys = [] then .error (noKeys user file)
        else ofSigners lib files user keys (storePath home store), said⟩ := by
  simp only [buildCourse, hscan, Course.bind_ok, List.append_nil]
  cases keys <;> rfl

/-- Every building of a client configuration ends at one of the stages. -/
theorem buildCourse_builds (lib : Key.Library) (files : Files.Tree) (home : Path)
    (store : Option Text) (user identityFile : Datum) :
    Builds lib files home store user identityFile
      (buildCourse lib files home store user identityFile) := by
  by_cases htext : ∃ file, identityFile = .text file
  · obtain ⟨file, rfl⟩ := htext
    cases hscan : Auth.scanCourse lib files home.text (candidates file) with
    | mk outcome said =>
        cases outcome with
        | error failure =>
            rw [buildCourse_of_unscanned hscan]
            exact .unscanned hscan
        | ok signers =>
            rw [buildCourse_of_scan hscan]
            by_cases hsigners : signers = []
            · subst hsigners
              exact .unsigned hscan
            · rw [if_neg hsigners]
              exact .signed hscan hsigners
  · have hother : ∀ t, identityFile ≠ .text t := fun t h => htext ⟨t, h⟩
    rw [buildCourse_of_other hother]
    exact .notText hother

end Stages

/-- What building around keys needs: a store that loads, and a user. -/
theorem ofSigners_cases (lib : Key.Library) (files : Files.Tree) (user : Datum)
    {signers : List PublicKey} (hsigners : signers ≠ []) (store : Path) :
    (∃ e, KnownHosts.ofFile lib files store = .error e ∧
      ofSigners lib files user signers store = .error e.failure) ∨
    (∃ knownHosts, KnownHosts.ofFile lib files store = .ok knownHosts ∧ user.isGiven = false ∧
      ofSigners lib files user signers store = .error (.misuse .noUser)) ∨
    (∃ knownHosts, KnownHosts.ofFile lib files store = .ok knownHosts ∧ user.isGiven = true ∧
      ofSigners lib files user signers store
        = .ok ⟨user, signers, knownHosts, Auth.defaultTimeout⟩) := by
  have htime : Auth.defaultTimeout.exceeds 0 = .ok true := by
    have hpositive : Float.ofNat 0 < 10.0 := by decide
    simp [Auth.defaultTimeout, Datum.exceeds, hpositive]
  cases hload : KnownHosts.ofFile lib files store with
  | error e => exact Or.inl ⟨e, rfl, by simp [ofSigners, hload]⟩
  | ok knownHosts =>
      refine Or.inr ?_
      cases huser : user.isGiven with
      | false => exact Or.inl ⟨knownHosts, rfl, rfl, by simp [ofSigners, hload, make, huser]⟩
      | true =>
          exact Or.inr ⟨knownHosts, rfl, rfl,
            by simp [ofSigners, hload, make, huser, hsigners, htime]⟩

theorem ofSigners_eq_ok_iff {lib : Key.Library} {files : Files.Tree} {user : Datum}
    {signers : List PublicKey} (hsigners : signers ≠ []) {store : Path}
    {client : ClientConfig} :
    ofSigners lib files user signers store = .ok client ↔
      user.isGiven = true ∧ ∃ knownHosts, KnownHosts.ofFile lib files store = .ok knownHosts ∧
        client = ⟨user, signers, knownHosts, Auth.defaultTimeout⟩ := by
  obtain ⟨e, hload, hof⟩ | ⟨knownHosts, hload, huser, hof⟩ | ⟨knownHosts, hload, huser, hof⟩ :=
    ofSigners_cases lib files user hsigners store
  · simp [hof, hload]
  · simp [hof, huser]
  · simp [hof, hload, huser, eq_comm]

/-- A client configuration is built around the keys of a scan, with the store at its path. -/
theorem buildCourse_eq_ok {lib : Key.Library} {files : Files.Tree} {home : Path}
    {store : Option Text} {user identityFile : Datum} {client : ClientConfig}
    (h : (buildCourse lib files home store user identityFile).outcome = .ok client) :
    ∃ signers knownHosts, signers ≠ [] ∧
      KnownHosts.ofFile lib files (storePath home store) = .ok knownHosts ∧
      client = ⟨user, signers, knownHosts, Auth.defaultTimeout⟩ := by
  have hbuilds := buildCourse_builds lib files home store user identityFile
  generalize buildCourse lib files home store user identityFile = course at h hbuilds
  cases hbuilds with
  | notText => cases h
  | unscanned => cases h
  | unsigned => cases h
  | @signed file signers said hscan hsigners =>
      obtain ⟨-, knownHosts, hload, hclient⟩ := (ofSigners_eq_ok_iff hsigners).mp h
      exact ⟨signers, knownHosts, hsigners, hload, hclient⟩

end ClientConfig

namespace Resolve.Resolver

variable {lib : Key.Library}

/-- What building the client configuration of a connection says, and what it comes to. -/
def buildCourse (r : Resolver) (lib : Key.Library) (env : Environment) (c : Connection) :
    Course ClientConfig :=
  match r.homeDirectory env with
  | .error failure => ⟨.error failure, []⟩
  | .ok home =>
      ClientConfig.buildCourse lib env.files home r.knownHostsPath c.user c.identityFile

theorem buildClient_follows (r : Resolver) (lib : Key.Library) (env : Environment)
    (c : Connection) : Logging.Follows (r.buildClient lib env c) (r.buildCourse lib env c) := by
  have hfollows := (Logging.follows_lift (r.homeDirectory env)).bind fun home =>
    ClientConfig.build_follows lib env.files home r.knownHostsPath c.user c.identityFile
  have hcourse : Course.bind ⟨r.homeDirectory env, []⟩ (fun home =>
      ClientConfig.buildCourse lib env.files home r.knownHostsPath c.user c.identityFile)
      = r.buildCourse lib env c := by
    rw [buildCourse]
    cases r.homeDirectory env <;> rfl
  rw [← hcourse]
  exact hfollows

/-- What is said and come to from the fields of a connection on. -/
def connectCourse (r : Resolver) (lib : Key.Library) (env : Environment) (d : Declaration)
    (c : Connection) : Course RunConfig :=
  match fieldFailure? d c with
  | some failure => ⟨.error failure, []⟩
  | none =>
      Course.bind
        ⟨(r.buildCourse lib env c).outcome.mapError (authFailure d c),
          (r.buildCourse lib env c).said⟩
        fun client => ⟨.ok (runConfig d c client), []⟩

/-- What resolving a declaration says, and what it comes to. -/
def course (r : Resolver) (lib : Key.Library) (env : Environment) (d : Declaration) :
    Course RunConfig :=
  Course.bind ⟨r.readHostConfig env d.host, []⟩ fun e =>
    Course.bind ⟨.ok (), (warning? e).toList⟩ fun _ =>
      Course.bind ⟨(r.connection d e).mapError fun m => .misuse (.unfit m), []⟩ fun c =>
        r.connectCourse lib env d c

theorem authFailure_halted (d : Declaration) (c : Connection) (halt : Log.Halt) :
    authFailure d c (.halted halt) = .halted halt := rfl

theorem resolve_follows (r : Resolver) (lib : Key.Library) (env : Environment)
    (d : Declaration) : Logging.Follows (r.resolve lib env d) (r.course lib env d) := by
  refine (Logging.follows_lift _).bind fun e => ?_
  refine (Logging.follows_tellAny _).bind fun _ => (Logging.follows_lift _).bind fun c => ?_
  rw [connectCourse]
  cases fieldFailure? d c with
  | some failure => exact Logging.follows_throw failure
  | none =>
      exact ((r.buildClient_follows lib env c).adapt (authFailure_halted d c)).bind fun client =>
        Logging.follows_pure _

/-! ## Stages -/

theorem level_of_warning? {e : HostEntry} {m : Log.Message} (h : warning? e = some m) :
    m.level = .warning := by
  rw [warning?] at h
  split at h
  · cases h
    rfl
  · cases h

theorem warning?_isMild (e : HostEntry) : ∀ m ∈ (warning? e).toList, m.level ≠ .fatal := by
  intro m hm
  rw [level_of_warning? (Option.mem_toList.mp hm)]
  nofun

theorem buildCourse_isMild (r : Resolver) (lib : Key.Library) (env : Environment)
    (c : Connection) : (r.buildCourse lib env c).IsMild := by
  rw [buildCourse]
  cases r.homeDirectory env with
  | error failure => exact nofun
  | ok home => exact ClientConfig.buildCourse_isMild lib env.files home _ c.user c.identityFile

/-- The stages at which resolving a declaration can end. -/
inductive Resolves (r : Resolver) (lib : Key.Library) (env : Environment) (d : Declaration) :
    Course RunConfig → Prop where
  | unread {failure : Failure} (hread : r.readHostConfig env d.host = .error failure) :
      Resolves r lib env d ⟨.error failure, []⟩
  | unmerged {e : HostEntry} {m : Misfit} (hread : r.readHostConfig env d.host = .ok e)
      (hmerge : r.connection d e = .error m) :
      Resolves r lib env d ⟨.error (.misuse (.unfit m)), (warning? e).toList⟩
  | refused {e : HostEntry} {c : Connection} {failure : Failure}
      (hread : r.readHostConfig env d.host = .ok e) (hmerge : r.connection d e = .ok c)
      (hfields : fieldFailure? d c = some failure) :
      Resolves r lib env d ⟨.error failure, (warning? e).toList⟩
  | unbuilt {e : HostEntry} {c : Connection} {cause : Failure} {said : List Log.Message}
      (hread : r.readHostConfig env d.host = .ok e) (hmerge : r.connection d e = .ok c)
      (hfields : fieldFailure? d c = none)
      (hbuild : r.buildCourse lib env c = ⟨.error cause, said⟩) :
      Resolves r lib env d ⟨.error (authFailure d c cause), (warning? e).toList ++ said⟩
  | run {e : HostEntry} {c : Connection} {client : ClientConfig} {said : List Log.Message}
      (hread : r.readHostConfig env d.host = .ok e) (hmerge : r.connection d e = .ok c)
      (hfields : fieldFailure? d c = none)
      (hbuild : r.buildCourse lib env c = ⟨.ok client, said⟩) :
      Resolves r lib env d ⟨.ok (runConfig d c client), (warning? e).toList ++ said⟩

variable {r : Resolver} {env : Environment} {d : Declaration} {e : HostEntry} {c : Connection}

theorem course_of_unread {failure : Failure}
    (hread : r.readHostConfig env d.host = .error failure) :
    r.course lib env d = ⟨.error failure, []⟩ := by
  simp only [course, hread, Course.bind_error]

theorem course_of_unmerged {m : Misfit} (hread : r.readHostConfig env d.host = .ok e)
    (hmerge : r.connection d e = .error m) :
    r.course lib env d = ⟨.error (.misuse (.unfit m)), (warning? e).toList⟩ := by
  simp only [course, hread, hmerge, Course.bind_ok, Course.bind_error, mapError_error,
    List.nil_append, List.append_nil]

/-- Behind the merged fields the course is that of connecting. -/
theorem course_of_merged (hread : r.readHostConfig env d.host = .ok e)
    (hmerge : r.connection d e = .ok c) :
    r.course lib env d = ⟨(r.connectCourse lib env d c).outcome,
      (warning? e).toList ++ (r.connectCourse lib env d c).said⟩ := by
  simp only [course, hread, hmerge, Course.bind_ok, mapError_ok, List.nil_append]

theorem connectCourse_of_refused {failure : Failure} (hfields : fieldFailure? d c = some failure) :
    r.connectCourse lib env d c = ⟨.error failure, []⟩ := by
  simp only [connectCourse, hfields]

theorem connectCourse_of_unbuilt {cause : Failure} {said : List Log.Message}
    (hfields : fieldFailure? d c = none) (hbuild : r.buildCourse lib env c = ⟨.error cause, said⟩) :
    r.connectCourse lib env d c = ⟨.error (authFailure d c cause), said⟩ := by
  simp only [connectCourse, hfields, hbuild, mapError_error, Course.bind_error]

theorem connectCourse_of_built {client : ClientConfig} {said : List Log.Message}
    (hfields : fieldFailure? d c = none) (hbuild : r.buildCourse lib env c = ⟨.ok client, said⟩) :
    r.connectCourse lib env d c = ⟨.ok (runConfig d c client), said⟩ := by
  simp only [connectCourse, hfields, hbuild, mapError_ok, Course.bind_ok, List.append_nil]

/-- Every resolution ends at one of the stages. -/
theorem course_resolves (r : Resolver) (lib : Key.Library) (env : Environment)
    (d : Declaration) : Resolves r lib env d (r.course lib env d) := by
  cases hread : r.readHostConfig env d.host with
  | error failure =>
      rw [course_of_unread hread]
      exact .unread hread
  | ok e =>
      cases hmerge : r.connection d e with
      | error m =>
          rw [course_of_unmerged hread hmerge]
          exact .unmerged hread hmerge
      | ok c =>
          rw [course_of_merged hread hmerge]
          cases hfields : fieldFailure? d c with
          | some failure =>
              rw [connectCourse_of_refused hfields, List.append_nil]
              exact .refused hread hmerge hfields
          | none =>
              cases hbuild : r.buildCourse lib env c with
              | mk outcome said =>
                  cases outcome with
                  | error cause =>
                      rw [connectCourse_of_unbuilt hfields hbuild]
                      exact .unbuilt hread hmerge hfields hbuild
                  | ok client =>
                      rw [connectCourse_of_built hfields hbuild]
                      exact .run hread hmerge hfields hbuild

theorem course_isMild (r : Resolver) (lib : Key.Library) (env : Environment) (d : Declaration) :
    (r.course lib env d).IsMild := by
  have hbuilt : ∀ {c : Connection} {outcome : Except Failure ClientConfig}
      {said : List Log.Message}, r.buildCourse lib env c = ⟨outcome, said⟩ →
      ∀ m ∈ said, m.level ≠ .fatal := by
    intro c outcome said hbuild
    have hmild := r.buildCourse_isMild lib env c
    rwa [hbuild] at hmild
  have hresolves := course_resolves r lib env d
  generalize r.course lib env d = course at hresolves
  cases hresolves with
  | unread => exact nofun
  | unmerged => exact warning?_isMild _
  | refused => exact warning?_isMild _
  | unbuilt _ _ _ hbuild => exact List.forall_mem_append.mpr ⟨warning?_isMild _, hbuilt hbuild⟩
  | run _ _ _ hbuild => exact List.forall_mem_append.mpr ⟨warning?_isMild _, hbuilt hbuild⟩

end Resolve.Resolver

end SshTunnel
