import SshTunnel.Proofs.HostConfig.Home
import SshTunnel.Proofs.Resolve.Acceptance

/-!
# A resolver with a home of its own

Its home directory takes the place of the home variable for the host configuration, the key
candidates and the trust store. The variable is left with one say, in what the Include lines of
the host configuration name.
-/

namespace SshTunnel.Resolve.Resolver

variable {r : Resolver} {home : Path}

/-- The path of the host configuration of a resolver with this home directory. -/
def configBelow (r : Resolver) (home : Path) : Path :=
  (r.configPath.map Path.ofText).getD home.userConfig

theorem homeDirectory_of_home (h : r.home = some home) (env : Environment) :
    r.homeDirectory env = .ok home := by
  rw [homeDirectory, h]

theorem configFile_of_home (h : r.home = some home) (env : Environment) :
    r.configFile env = .ok (r.configBelow home) := by
  rw [configFile, configBelow]
  cases r.configPath with
  | some path => rfl
  | none =>
      rw [homeDirectory_of_home h]
      rfl

theorem buildClient_congr (h : r.home = some home) (lib : Key.Library) {env env' : Environment}
    (hfiles : env.files = env'.files) (c : Connection) :
    r.buildClient lib env c = r.buildClient lib env' c := by
  rw [buildClient, buildClient, homeDirectory_of_home h, homeDirectory_of_home h, hfiles]

/-- Behind the host configuration nothing is taken from the variable. -/
theorem resolve_congr (h : r.home = some home) (lib : Key.Library) {env env' : Environment}
    (hfiles : env.files = env'.files) {d : Declaration}
    (hread : r.readHostConfig env d.host = r.readHostConfig env' d.host) :
    r.resolve lib env d = r.resolve lib env' d := by
  simp only [resolve, hread, resolveEntry, buildClient_congr h lib hfiles]

/-- What the host configuration says about an alias, when Include lines name the same files
or a reader takes its place. -/
theorem readHostConfig_congr (h : r.home = some home) {env env' : Environment}
    (hfiles : env.files = env'.files)
    (hsame : r.reader.isSome = true ∨
      HostConfig.SameFiles env env' HostConfig.maxIncludeDepth (r.configBelow home).text)
    (host : Text) : r.readHostConfig env host = r.readHostConfig env' host := by
  rw [readHostConfig, readHostConfig]
  cases hreader : r.reader with
  | some read => rfl
  | none =>
      rcases hsame with hsome | hsame
      · rw [hreader] at hsome
        cases hsome
      · have hload := HostConfig.load_congr hfiles hsame []
        simp only [configFile_of_home h, Except.bind, HostConfig.ofFile, hload]

/-- With a home of its own a resolver comes to the same outcome at every desk, and says the same
there, under any two values of the home variable, as long as the arguments of the Include lines
that it comes to name the same files, or a reader takes the place of the host configuration. In any
case it does so when the host configuration says the same about the alias. The variable has its say
through arguments that are not anchored: these stand for the same pattern only under the same
home directory. -/
theorem resolve_injectedHome (h : r.home = some home) (lib : Key.Library) (env : Environment)
    (v w : Option Text) :
    (r.reader.isSome = true ∨ HostConfig.SameFiles (env.withHome v) (env.withHome w)
        HostConfig.maxIncludeDepth (r.configBelow home).text →
      ∀ d, r.resolve lib (env.withHome v) d = r.resolve lib (env.withHome w) d) ∧
    (∀ d, r.readHostConfig (env.withHome v) d.host = r.readHostConfig (env.withHome w) d.host →
      r.resolve lib (env.withHome v) d = r.resolve lib (env.withHome w) d) ∧
    ∀ argument, HostConfig.includePattern (env.withHome v) argument
        = HostConfig.includePattern (env.withHome w) argument ↔
      HostConfig.Anchored argument ∨
        (env.withHome v).homeDirectory = (env.withHome w).homeDirectory := by
  have hfiles : (env.withHome v).files = (env.withHome w).files := rfl
  refine ⟨fun hsame d => ?_, fun d hread => resolve_congr h lib hfiles hread,
    fun argument => HostConfig.includePattern_eq_iff _ _ argument⟩
  exact resolve_congr h lib hfiles (readHostConfig_congr h hfiles hsame d.host)

/-! ## Include lines with and without an anchor -/

/-- A resolver with the home `/h`. -/
def homeResolver : Resolver := ⟨some (Path.ofText "/h".toList), none, none, none, .record builtin⟩

/-- A tree with a host configuration below that home, and files of the given texts there. -/
def homeEnvironment (config : Text) (others : List (Text × Text)) : Environment where
  files :=
    { nodes :=
        [(["h".toList], .directory), (["h".toList, ".ssh".toList], .directory),
          (["h".toList, ".ssh".toList, "config".toList], .file (Utf8.encode config))]
          ++ others.map fun other =>
            (["h".toList, ".ssh".toList, other.1], .file (Utf8.encode other.2))
      workingDirectory := [] }
  home := none
  accountHome := "/".toList
  debug := none

def homeTunnel : Declaration :=
  ⟨"db.example".toList, "8080".toList, "db:5432".toList, .text [], .int 22, .text [],
    "db".toList, rfl⟩

/-- Absolute arguments and `~` in front of them, at two depths. -/
def anchoredEnvironment : Environment :=
  homeEnvironment "Include /h/.ssh/one\n".toList
    [("one".toList, "Include ~//h/.ssh/two\n".toList), ("two".toList, "User me\n".toList)]

theorem anchored_sameOutcome : homeResolver.home = some (Path.ofText "/h".toList) ∧
    HostConfig.SameFiles (anchoredEnvironment.withHome (some "/a".toList))
      (anchoredEnvironment.withHome none) HostConfig.maxIncludeDepth
      (homeResolver.configBelow (Path.ofText "/h".toList)).text ∧
    homeResolver.resolve OpenSsh.library (anchoredEnvironment.withHome (some "/a".toList))
        homeTunnel
      = homeResolver.resolve OpenSsh.library (anchoredEnvironment.withHome none) homeTunnel := by
  have hsame : HostConfig.SameFiles (anchoredEnvironment.withHome (some "/a".toList))
      (anchoredEnvironment.withHome none) HostConfig.maxIncludeDepth
      (homeResolver.configBelow (Path.ofText "/h".toList)).text := by
    decide +kernel
  exact ⟨rfl, hsame,
    (resolve_injectedHome rfl OpenSsh.library anchoredEnvironment (some "/a".toList) none).1
      (Or.inr hsame) _⟩

/-- A relative argument. -/
def relativeEnvironment : Environment :=
  homeEnvironment "Include inc\n".toList [("inc".toList, "User me\n".toList)]

/-- The message of the report that an outcome is. -/
def complaint {α : Type} (outcome : Except Failure α) : Option Text :=
  match outcome with
  | .ok _ => none
  | .error failure => failure.report?.map (·.message)

/-- What the resolver comes to with the relative argument under a value of the variable. -/
def relativeOutcome (value : Text) : Except Failure RunConfig :=
  ((homeResolver.resolve OpenSsh.library (relativeEnvironment.withHome (some value))
    homeTunnel).runAt sampleDesk).1

/-- A relative argument is looked up below the variable, whatever home the resolver has. -/
theorem relative_differentOutcome : homeResolver.home = some (Path.ofText "/h".toList) ∧
    relativeOutcome "/a".toList ≠ relativeOutcome "/h".toList := by
  refine ⟨rfl, fun hsame => ?_⟩
  have hmessage := congrArg complaint hsame
  revert hmessage
  decide +kernel

end SshTunnel.Resolve.Resolver
