import SshTunnel.Proofs.Auth.Scan
import SshTunnel.Proofs.Log.Call
import SshTunnel.Proofs.Resolve.Acceptance
import SshTunnel.Proofs.Resolve.Reported

/-!
# Keys found and lines written

A scan whose candidates all have outcomes finds the keys of those that were loaded, in order,
calls its sink once for each of the others, and hands on one line for each invalid one. A client
configuration is built around exactly these keys, and refused when there are none.
-/

namespace SshTunnel

namespace Auth

/-! ## What is written about a candidate -/

/-- The line about a candidate: a warning with the error as it is for an invalid one, and only on
request a word on a skipped one. -/
def Candidate.line? (style : Log.Style) (clock : Log.Clock) (c : Candidate) : Option Text :=
  match c.outcome with
  | .loaded _ => none
  | .skipped =>
      if style.debug then
        some (style.lineOf clock
          ⟨.debug, "Skipping key candidate ".toList ++ Text.quoted c.listed⟩)
      else none
  | .invalid report => some (style.lineOf clock ⟨.warning, report.message⟩)

/-- The lines about candidates, in order. -/
def linesAbout (style : Log.Style) (clock : Log.Clock) (tried : List Candidate) : List Text :=
  tried.filterMap (Candidate.line? style clock)

theorem message_skipped (t : Text) :
    Log.Template.message "Skipping key candidate %r".toList [.text t]
      = some ("Skipping key candidate ".toList ++ Text.quoted t) := by
  have hfront : '%' ∉ "Skipping key candidate ".toList := by decide
  have hplace : Log.Template.message ['%', 'r'] [.text t] = some (Text.quoted t ++ []) :=
    Log.Template.message_place (Or.inr rfl) List.not_mem_nil t
  rw [List.append_nil] at hplace
  exact (Log.Template.message_front hfront ['%', 'r'] (.text t) []).trans
    (congrArg (Option.map _) hplace)

theorem message_invalid (t : Text) :
    Log.Template.message "%s".toList [.text t] = some t := by
  have hplace : Log.Template.message ['%', 's'] [.text t] = some (t ++ []) :=
    Log.Template.message_place (Or.inl rfl) List.not_mem_nil t
  rwa [List.append_nil] at hplace

/-- The message about a candidate makes a record, and its line is shown as that of the record. -/
theorem Candidate.record_of_message? {c : Candidate} {m : Log.Message} (h : c.message? = some m)
    (clock : Log.Clock) :
    ∃ r, (m.at clock).record? = some r ∧ ∀ style : Log.Style,
      c.line? style clock = if style.shows r.level then some (style.lineOf clock r) else none := by
  rw [message?] at h
  simp only [line?]
  cases houtcome : c.outcome with
  | loaded key =>
      rw [houtcome] at h
      cases h
  | skipped =>
      rw [houtcome] at h
      cases h
      refine ⟨⟨.debug, "Skipping key candidate ".toList ++ Text.quoted c.listed⟩,
        congrArg (Option.map (Log.Record.mk .debug)) (message_skipped c.listed), fun style => ?_⟩
      have hshows : style.shows .debug = style.debug := by simp [Log.Style.shows]
      rw [hshows]
  | invalid report =>
      rw [houtcome] at h
      cases h
      refine ⟨⟨.warning, report.message⟩,
        congrArg (Option.map (Log.Record.mk .warning)) (message_invalid report.message),
        fun style => ?_⟩
      have hshows : style.shows .warning = true := by simp [Log.Style.shows]
      rw [hshows, if_pos rfl]

theorem Candidate.line?_of_loaded {c : Candidate} (h : c.message? = none) (style : Log.Style)
    (clock : Log.Clock) : c.line? style clock = none := by
  rw [message?] at h
  rw [line?]
  cases houtcome : c.outcome with
  | loaded key => rfl
  | skipped => simp [houtcome] at h
  | invalid report => simp [houtcome] at h

section Dated

variable {clock : Log.Clock} {c : Candidate} {m : Log.Message}

theorem Candidate.isSound_of_message? (hdate : clock.hasDate = true) (h : c.message? = some m) :
    (m.at clock).IsSound := by
  obtain ⟨r, hrecord, -⟩ := c.record_of_message? h clock
  exact ⟨hdate, ⟨r, hrecord⟩, Candidate.level_ne_fatal h⟩

theorem Candidate.message?_line? (hdate : clock.hasDate = true) (style : Log.Style)
    (c : Candidate) :
    (c.message?.bind fun m => (m.at clock).line? style) = c.line? style clock := by
  cases hmessage : c.message? with
  | none => exact (c.line?_of_loaded hmessage style clock).symm
  | some m =>
      obtain ⟨r, hrecord, hline⟩ := c.record_of_message? hmessage clock
      have hdate' : (m.at clock).clock.hasDate = true := hdate
      rw [Option.bind_some, Log.Call.line?_of_record hdate' hrecord, hline style]
      rfl

end Dated

/-! ## What a scan writes -/

variable {lib : Key.Library} {files : Files.Tree} {tried : List Candidate} {desk : Log.Desk}

/-- An open desk takes the messages about candidates, and hands on a line for each. -/
theorem logAll_messages (hopen : desk.isClosed = false) (hdate : desk.clock.hasDate = true)
    (tried : List Candidate) :
    desk.logAll (tried.filterMap Candidate.message?)
      = (desk.put (linesAbout desk.sink.style desk.clock tried), none) := by
  have hsound : ∀ m ∈ tried.filterMap Candidate.message?, (m.at desk.clock).IsSound := by
    intro m hm
    obtain ⟨c, -, hmessage⟩ := List.mem_filterMap.mp hm
    exact Candidate.isSound_of_message? hdate hmessage
  have hlines : (tried.filterMap Candidate.message?).filterMap desk.line?
      = linesAbout desk.sink.style desk.clock tried := by
    rw [List.filterMap_filterMap]
    exact List.filterMap_congr fun c _ => c.message?_line? hdate desk.sink.style
  rw [Log.Desk.logAll_of_isSound hopen hsound, hlines]

/-- What follows the course of a scan hands on the lines about its candidates. -/
theorem runAt_of_said {α : Type} {run : Logging α} {outcome : Except Failure α}
    (h : Logging.Follows run ⟨outcome, tried.filterMap Candidate.message?⟩)
    (hopen : desk.isClosed = false) (hdate : desk.clock.hasDate = true) :
    run.runAt desk = (outcome, desk.put (linesAbout desk.sink.style desk.clock tried)) := by
  have hmild : Course.IsMild (⟨outcome, tried.filterMap Candidate.message?⟩ : Course α) := by
    intro m hm
    obtain ⟨c, -, hmessage⟩ := List.mem_filterMap.mp hm
    exact Candidate.level_ne_fatal hmessage
  rw [h.runAt_of_takes hmild (Log.Desk.takes_of_open hopen), logAll_messages hopen hdate]

theorem scan_runAt {home : Text} {listed : List Text} (h : Tried lib files home listed tried)
    (hopen : desk.isClosed = false) (hdate : desk.clock.hasDate = true) :
    (scan lib files home listed).runAt desk = (.ok (tried.filterMap Candidate.key?),
      desk.put (linesAbout desk.sink.style desk.clock tried)) := by
  have hfollows := scan_follows lib files home listed
  rw [scanCourse_of_tried h] at hfollows
  exact runAt_of_said hfollows hopen hdate

/-- A scan that finds keys has stumbled over no candidate. -/
theorem clean_of_scan {home : Text} {listed : List Text} {keys : List PublicKey}
    (h : ((scan lib files home listed).runAt desk).1 = .ok keys) :
    ∀ l ∈ listed, ¬ Stumbles lib files home l := by
  obtain ⟨-, houtcome, -⟩ := ((scan_follows lib files home listed).runAt_eq_ok_iff
    (scanCourse_isMild lib files home listed)).mp (Prod.ext h rfl)
  exact (keys_of_scanCourse (Course.ext houtcome rfl)).1

end Auth

namespace ClientConfig

variable {lib : Key.Library} {files : Files.Tree} {home : Path} {file : Text}
  {tried : List Auth.Candidate}

/-- What building a client configuration comes to when its candidates have these outcomes. -/
structure BuildsAround (lib : Key.Library) (files : Files.Tree) (home : Path)
    (store : Option Text) (user : Datum) (file : Text) (tried : List Auth.Candidate)
    (outcome : Except Failure ClientConfig) : Prop where
  noKeys_iff : (∃ failure report, outcome = .error failure ∧ failure.report? = some report ∧
      report.kind = .noKeys) ↔ ∀ c ∈ tried, ∀ key, c.outcome ≠ .loaded key
  noKeys : (∀ c ∈ tried, ∀ key, c.outcome ≠ .loaded key) →
    outcome = .error (.report (noKeysReport user file))
  signers : ∀ client, outcome = .ok client → client.signers = tried.filterMap Auth.Candidate.key?
  built : (∃ c ∈ tried, ∃ key, c.outcome = .loaded key) → user.isGiven = true →
    ∀ knownHosts, KnownHosts.ofFile lib files (storePath home store) = .ok knownHosts →
      outcome = .ok ⟨user, tried.filterMap Auth.Candidate.key?, knownHosts, Auth.defaultTimeout⟩

/-- Building around the keys that were found. -/
theorem buildsAround_of_keys (tried : List Auth.Candidate) (store : Option Text) (user : Datum) :
    BuildsAround lib files home store user file tried
      (if tried.filterMap Auth.Candidate.key? = [] then .error (ClientConfig.noKeys user file)
        else ofSigners lib files user (tried.filterMap Auth.Candidate.key?)
          (storePath home store)) := by
  by_cases hkeys : tried.filterMap Auth.Candidate.key? = []
  · have hnone := (Auth.keys_eq_nil_iff tried).mp hkeys
    rw [if_pos hkeys]
    constructor
    · exact iff_of_true ⟨_, _, rfl, rfl, rfl⟩ hnone
    · exact fun _ => congrArg Except.error (noKeys_eq user file)
    · exact nofun
    · rintro ⟨c, hc, key, hloaded⟩
      exact absurd hloaded (hnone c hc key)
  · have hsome := fun hnone => hkeys ((Auth.keys_eq_nil_iff tried).mpr hnone)
    rw [if_neg hkeys]
    constructor
    · refine iff_of_false ?_ hsome
      rintro ⟨failure, report, hfailure, hreport, hkind⟩
      cases hkind.symm.trans (kind_of_ofSigners hkeys hfailure hreport)
    · exact fun hnone => absurd hnone hsome
    · intro client hclient
      obtain ⟨-, knownHosts, -, rfl⟩ := (ofSigners_eq_ok_iff hkeys).mp hclient
      rfl
    · intro _ huser knownHosts hload
      exact (ofSigners_eq_ok_iff hkeys).mpr ⟨huser, knownHosts, hload, rfl⟩

/-- A client configuration is built around the keys that were loaded, and as much is written about
the candidates as by the scan alone. -/
theorem build_runAt {desk : Log.Desk} (h : Auth.Tried lib files home.text (candidates file) tried)
    (hopen : desk.isClosed = false) (hdate : desk.clock.hasDate = true) (store : Option Text)
    (user : Datum) :
    BuildsAround lib files home store user file tried
        ((build lib files home store user (.text file)).runAt desk).1 ∧
      ((build lib files home store user (.text file)).runAt desk).2
        = desk.put (Auth.linesAbout desk.sink.style desk.clock tried) := by
  have hfollows := build_follows lib files home store user (.text file)
  rw [buildCourse_of_scan (Auth.scanCourse_of_tried h)] at hfollows
  rw [Auth.runAt_of_said hfollows hopen hdate]
  exact ⟨buildsAround_of_keys tried store user, rfl⟩

end ClientConfig

/-! ## Scanning and building together -/

namespace Auth

/-- Candidates that all have outcomes: at an open desk, whose clock shows a date, the scan finds
the keys of those that were loaded, in order, and hands on one line for each invalid one and, on
request, for each skipped one. What follows in the list only adds to this, and a client
configuration is built around these keys, or refused when there are none. -/
theorem scan_keepsOrder {lib : Key.Library} {files : Files.Tree} {home : Text}
    {listed : List Text} (h : ∀ l ∈ listed, ∃ c, load lib files home l = .ok c) :
    ∃ tried, Tried lib files home listed tried ∧
      (∀ desk : Log.Desk, desk.isClosed = false → desk.clock.hasDate = true →
        (scan lib files home listed).runAt desk = (.ok (tried.filterMap Candidate.key?),
          desk.put (linesAbout desk.sink.style desk.clock tried)) ∧
        ∀ content, desk.Holds content → ((scan lib files home listed).runAt desk).2.Holds
          (content ++ (linesAbout desk.sink.style desk.clock tried).flatten)) ∧
      (∀ more, (∀ l ∈ more, ∃ c, load lib files home l = .ok c) →
        ∃ tried', Tried lib files home more tried' ∧
          ∀ desk : Log.Desk, desk.isClosed = false → desk.clock.hasDate = true →
            (scan lib files home (listed ++ more)).runAt desk
              = (.ok (tried.filterMap Candidate.key? ++ tried'.filterMap Candidate.key?),
                desk.put (linesAbout desk.sink.style desk.clock tried ++
                  linesAbout desk.sink.style desk.clock tried'))) ∧
      ∀ (dir : Path) (file : Text), dir.text = home → listed = ClientConfig.candidates file →
        ∀ (store : Option Text) (user : Datum) (desk : Log.Desk), desk.isClosed = false →
          desk.clock.hasDate = true →
          ClientConfig.BuildsAround lib files dir store user file tried
            ((ClientConfig.build lib files dir store user (.text file)).runAt desk).1 ∧
          ((ClientConfig.build lib files dir store user (.text file)).runAt desk).2
            = desk.put (linesAbout desk.sink.style desk.clock tried) := by
  obtain ⟨tried, htried⟩ := exists_tried fun l hl => exists_load_iff.mp (h l hl)
  refine ⟨tried, htried, ?_, ?_, ?_⟩
  · intro desk hopen hdate
    refine ⟨scan_runAt htried hopen hdate, fun content hcontent => ?_⟩
    rw [scan_runAt htried hopen hdate]
    exact hcontent.put _
  · -- Trying both lists is trying the one and then the other, so the first part says it all.
    intro more hmore
    obtain ⟨tried', htried'⟩ := exists_tried fun l hl => exists_load_iff.mp (hmore l hl)
    refine ⟨tried', htried', fun desk hopen hdate => ?_⟩
    rw [scan_runAt (htried.append htried') hopen hdate, List.filterMap_append, linesAbout,
      List.filterMap_append]
    rfl
  · rintro dir file rfl rfl store user desk hopen hdate
    exact ClientConfig.build_runAt htried hopen hdate store user

/-! ## A sample -/

open OpenSsh (library sampleKey)
open Resolve.Resolver (sampleEnvironment sampleDesk)

/-- A trust store named as identity file. -/
def storeFile : Text := "~/.ssh/known_hosts".toList

/-- The warning about it. -/
def storeWarning : Text :=
  "[00:00:00] WARNING Unable to parse private key ~/.ssh/known_hosts: Invalid private key\n".toList

theorem storeFile_scan :
    ((scan library sampleEnvironment.files "/h".toList
      (ClientConfig.candidates storeFile)).runAt sampleDesk).1.toOption = some [sampleKey] ∧
    ((scan library sampleEnvironment.files "/h".toList
      (ClientConfig.candidates storeFile)).runAt sampleDesk).2.Holds storeWarning := by
  decide +kernel

/-- The trust store is no key, two of the default keys are not there, and the remaining one is the
signer. -/
theorem scan_keepsOrder_sample :
    (∀ l ∈ ClientConfig.candidates storeFile,
      ∃ c, load library sampleEnvironment.files "/h".toList l = .ok c) ∧
    ∃ client, ((ClientConfig.build library sampleEnvironment.files (Path.ofText "/h".toList) none
        (.text "me".toList) (.text storeFile)).runAt sampleDesk).1 = .ok client ∧
      client.signers = [sampleKey] ∧
      ((ClientConfig.build library sampleEnvironment.files (Path.ofText "/h".toList) none
        (.text "me".toList) (.text storeFile)).runAt sampleDesk).2.Holds storeWarning := by
  have hopen : sampleDesk.isClosed = false := rfl
  have hdate : sampleDesk.clock.hasDate = true := by decide
  obtain ⟨hfound, hwritten⟩ := storeFile_scan
  have hclean := clean_of_scan (eq_ok_of_toOption hfound)
  have hloads : ∀ l ∈ ClientConfig.candidates storeFile,
      ∃ c, load library sampleEnvironment.files "/h".toList l = .ok c :=
    fun l hl => exists_load_iff.mpr (hclean l hl)
  obtain ⟨tried, -, hscan, -, hbuild⟩ := scan_keepsOrder hloads
  obtain ⟨hrun, -⟩ := hscan sampleDesk hopen hdate
  rw [hrun] at hfound
  have hkeys : tried.filterMap Candidate.key? = [sampleKey] := Option.some.inj hfound
  have hsome : ∃ c ∈ tried, ∃ key, c.outcome = .loaded key := by
    by_contra hno
    have hnil := (keys_eq_nil_iff tried).mpr fun c hc key hloaded => hno ⟨c, hc, key, hloaded⟩
    cases hnil.symm.trans hkeys
  have hstore : (KnownHosts.ofFile library sampleEnvironment.files
      (ClientConfig.storePath (Path.ofText "/h".toList) none)).isOk = true := by
    decide +kernel
  cases hload : KnownHosts.ofFile library sampleEnvironment.files
      (ClientConfig.storePath (Path.ofText "/h".toList) none) with
  | error e =>
      rw [hload] at hstore
      cases hstore
  | ok knownHosts =>
      obtain ⟨haround, hdesk⟩ := hbuild (Path.ofText "/h".toList) storeFile (by decide) rfl none
        (.text "me".toList) sampleDesk hopen hdate
      have hbuilt := haround.built hsome rfl knownHosts hload
      rw [hrun] at hwritten
      exact ⟨hloads, _, hbuilt, hkeys, hdesk ▸ hwritten⟩

end Auth

end SshTunnel
