import SshTunnel.Proofs.KnownHosts.Trust
import SshTunnel.Proofs.Resolve.Stage

/-!
# Which host keys a resolved tunnel accepts

The client of a run configuration carries the store that was read when the tunnel was
resolved. It accepts a key exactly when the text of that store trusts it for the name of the
host, or for its address when there is no name.
-/

namespace SshTunnel

namespace KnownHosts

/-- The text of the store at a path: the bytes of the file, read strictly as UTF-8 and with
one kind of line end. -/
def StoreText (files : Files.Tree) (path : Path) (t : Text) : Prop :=
  ∃ content decoded, files.read path.text = .ok content ∧ Utf8.decode content = .ok decoded ∧
    t = Text.unifyNewlines decoded

/-- A store that loads has a text, and its entries are those of the text. -/
theorem ofFile_eq_ok {lib : Key.Library} {files : Files.Tree} {path : Path} {store : KnownHosts}
    (h : ofFile lib files path = .ok store) :
    ∃ t, StoreText files path t ∧ parse lib t = .ok store.entries := by
  simp only [ofFile] at h
  split at h
  · cases h
  · split at h
    · cases h
    next content hread =>
      split at h
      · cases h
      next decoded hdecode =>
        split at h
        · cases h
        next entries hparse =>
          cases h
          exact ⟨_, ⟨content, decoded, hread, hdecode, rfl⟩, hparse⟩

end KnownHosts

namespace Resolve.Resolver

variable {r : Resolver} {lib : Key.Library} {env : Environment} {d : Declaration} {run : RunConfig}

/-- The path of the trust store that a resolution reads. -/
def knownHostsFile (r : Resolver) (env : Environment) : Except Failure Path :=
  (r.homeDirectory env).map fun home => ClientConfig.storePath home r.knownHostsPath

theorem knownHostsFile_of_home {home : Path} (h : r.homeDirectory env = .ok home) :
    r.knownHostsFile env = .ok (ClientConfig.storePath home r.knownHostsPath) := by
  rw [knownHostsFile, h]
  rfl

/-- A client configuration that is built holds the store at its path. -/
theorem ofFile_of_buildCourse {c : Connection} {client : ClientConfig}
    (h : (r.buildCourse lib env c).outcome = .ok client) :
    ∃ path, r.knownHostsFile env = .ok path ∧
      KnownHosts.ofFile lib env.files path = .ok client.knownHosts := by
  rw [buildCourse] at h
  cases hhome : r.homeDirectory env with
  | error failure =>
      rw [hhome] at h
      cases h
  | ok home =>
      rw [hhome] at h
      obtain ⟨signers, knownHosts, -, hload, rfl⟩ := ClientConfig.buildCourse_eq_ok h
      exact ⟨_, knownHostsFile_of_home hhome, hload⟩

theorem ofFile_of_course (h : (r.course lib env d).outcome = .ok run) :
    ∃ path, r.knownHostsFile env = .ok path ∧
      KnownHosts.ofFile lib env.files path = .ok run.client.knownHosts := by
  have hresolves := r.course_resolves lib env d
  generalize r.course lib env d = course at h hresolves
  cases hresolves with
  | unread => cases h
  | unmerged => cases h
  | refused => cases h
  | unbuilt => cases h
  | run _ _ _ hbuild =>
      cases h
      exact ofFile_of_buildCourse (congrArg Course.outcome hbuild)

/-- A fresh client of a resolved tunnel answers for every host, port and key, as long as the
port in no bracket of the store is too long to be read, nor the port itself too long to be written
for a hashed name. It accepts exactly what the text of the store trusts for the name, or else for
the address. -/
theorem accepts_iff_trusts {desk desk' : Log.Desk}
    (h : (r.resolve lib env d).runAt desk = (.ok run, desk')) :
    ∃ path t, r.knownHostsFile env = .ok path ∧ KnownHosts.StoreText env.files path t ∧
      ∀ (host address : Text) (port : Int) (key : PublicKey), KnownHosts.ShortPorts t port →
        ∃ accepted after,
          run.client.client.validate host address port key = .ok (accepted, after) ∧
          (accepted = true ↔
            KnownHosts.Trusts t (if host = [] then address else host) port key) := by
  obtain ⟨-, hrun, -⟩ := ((r.resolve_follows lib env d).runAt_eq_ok_iff
    (r.course_isMild lib env d)).mp h
  obtain ⟨path, hpath, hload⟩ := ofFile_of_course hrun
  obtain ⟨t, htext, hparse⟩ := KnownHosts.ofFile_eq_ok hload
  refine ⟨path, t, hpath, htext, fun host address port key hports => ?_⟩
  have hname : KnownHosts.Client.nameOf host address = if host = [] then address else host := by
    cases host <;> rfl
  obtain ⟨verdict, hcheck, hiff⟩ := KnownHosts.check_text hparse hports
    (if host = [] then address else host) key
  refine ⟨verdict = .trusted, { run.client.client with verdict := some verdict }, ?_, ?_⟩
  · rw [← hname] at hcheck
    simp [KnownHosts.Client.validate, ClientConfig.client, KnownHosts.Client.ofStore, hcheck,
      Except.map]
  · rw [decide_eq_true_iff, hiff]

/-! ## A resolved tunnel -/

open OpenSsh (sampleKey sampleKeyFile)

/-- One line, for one host at the usual port. -/
def sampleStore : Text :=
  "db.example ecdsa-sha2-nistp256 ".toList ++ Base64.encode sampleKey.blob

def sampleEnvironment : Environment :=
  { files :=
      { nodes :=
          [(["h".toList], .directory), (["h".toList, ".ssh".toList], .directory),
            (["h".toList, ".ssh".toList, "id_ecdsa".toList], .file sampleKeyFile),
            (["h".toList, ".ssh".toList, "known_hosts".toList], .file (Utf8.encode sampleStore))]
        workingDirectory := [] }
    home := some "/h".toList
    accountHome := "/".toList
    debug := none }

def sampleResolver : Resolver := ⟨none, none, none, none, .record builtin⟩

def sampleTunnel : Declaration :=
  ⟨"db.example".toList, "8080".toList, "db:5432".toList, .text "me".toList, .int 0, .text [],
    "db".toList, rfl⟩

/-- The fields of the line of the sample store. -/
theorem sampleStore_line {line : Text} (h : line ∈ KnownHosts.significantLines sampleStore) :
    KnownHosts.LineSays line .none "db.example".toList sampleKey.algorithm
      (Base64.encode sampleKey.blob) := by
  have hlines : KnownHosts.significantLines sampleStore = [sampleStore] := by decide +kernel
  obtain rfl : line = sampleStore := by simpa [hlines] using h
  have hwords : Text.words sampleStore = ["db.example".toList, sampleKey.algorithm,
      Base64.encode sampleKey.blob] := by decide +kernel
  exact .unmarked (by decide) hwords

theorem sampleStore_trusts : KnownHosts.Trusts sampleStore "db.example".toList 22 sampleKey := by
  have hmem : sampleStore ∈ KnownHosts.significantLines sampleStore := by decide +kernel
  constructor
  · intro line hline hosts keyType data hsays
    obtain ⟨hmarker, -⟩ := hsays.unique (sampleStore_line hline)
    cases hmarker
  · refine ⟨sampleStore, hmem, _, _, sampleStore_line hmem, by decide +kernel, ?_⟩
    have hshort : ∀ p ∈ ["db.example".toList], KnownHosts.ShortAt 22 (KnownHosts.bare p) := by
      decide
    obtain ⟨hit, hread, hiff⟩ := KnownHosts.listCovers_ok "db.example".toList hshort
    have hcovers : KnownHosts.listCovers "db.example".toList 22 ["db.example".toList]
        = .ok true := by
      decide +kernel
    exact hiff.mp (Except.ok.inj (hread.symm.trans hcovers))

/-- A desk whose sink writes to a text in memory. -/
def sampleDesk : Log.Desk := ⟨⟨⟨false, false⟩, 0, none⟩, ⟨⟨[], []⟩, [.memory []]⟩, 0⟩

theorem accepts_sample : ∃ run desk,
    (sampleResolver.resolve OpenSsh.library sampleEnvironment sampleTunnel).runAt sampleDesk
      = (.ok run, desk) ∧ ∃ after,
      run.client.client.validate "db.example".toList "10.0.0.1".toList 22 sampleKey
        = .ok (true, after) := by
  have hok : ((sampleResolver.resolve OpenSsh.library sampleEnvironment sampleTunnel).runAt
      sampleDesk).1.isOk = true := by
    decide +kernel
  obtain ⟨run, desk, hresolve⟩ := Logging.exists_of_isOk hok
  obtain ⟨path, t, hpath, ⟨content, decoded, hread, hdecode, rfl⟩, hclient⟩ :=
    accepts_iff_trusts hresolve
  cases hpath
  have hcontent : sampleEnvironment.files.read (ClientConfig.storePath
      sampleEnvironment.homeDirectory none).text = .ok (Utf8.encode sampleStore) := by
    decide +kernel
  obtain rfl : Utf8.encode sampleStore = content := Except.ok.inj (hcontent.symm.trans hread)
  have htext : Utf8.decode (Utf8.encode sampleStore) = .ok sampleStore := by decide +kernel
  obtain rfl : sampleStore = decoded := Except.ok.inj (htext.symm.trans hdecode)
  have hsame : Text.unifyNewlines sampleStore = sampleStore := by decide +kernel
  rw [hsame] at hclient
  have hports : KnownHosts.ShortPorts sampleStore 22 := by
    intro line hline m hosts keyType data hsays p hp
    obtain ⟨-, rfl, -, -⟩ := hsays.unique (sampleStore_line hline)
    have hlist : KnownHosts.hostList "db.example".toList = ["db.example".toList] := by decide
    rw [hlist, List.mem_singleton] at hp
    rw [hp]
    decide
  obtain ⟨accepted, after, hvalidate, hiff⟩ :=
    hclient "db.example".toList "10.0.0.1".toList 22 sampleKey hports
  obtain rfl : accepted = true := hiff.mpr sampleStore_trusts
  exact ⟨run, desk, hresolve, after, hvalidate⟩

end Resolve.Resolver

end SshTunnel
