import SshTunnel.Proofs.Auth.Scan
import SshTunnel.Proofs.Resolve.Acceptance
import SshTunnel.Proofs.Resolve.Home
import SshTunnel.Proofs.Resolve.Merge
import SshTunnel.Proofs.Resolve.Reported
import SshTunnel.Resolve.Session

/-!
# Fields are checked first

Whether the fields of a connection are refused, and with which report, is settled by the
declaration, the entry of its alias and the defaults. `course_refuses_iff` says so with no
environment and no library on its right side, so that two resolutions of the same entry agree
whatever keys and trust stores they would have come to.
-/

namespace SshTunnel

/-- A report that a required field is not set, or that the port is too large. -/
def Failure.RefusesFields (failure : Failure) : Prop :=
  ∃ report, failure.report? = some report ∧
    (report.kind = .missingField ∨
      report.kind = .config ∧ "invalid port ".toList <+: report.message)

/-- Reports about authentication are about no field. -/
theorem Failure.not_refusesFields {failure : Failure}
    (h : ∀ report, failure.report? = some report → .auth ∈ report.kind.lineage) :
    ¬ failure.RefusesFields := by
  rintro ⟨report, hreport, hkind⟩
  have hauth := h report hreport
  obtain hkind | ⟨hkind, -⟩ := hkind
  all_goals
    rw [hkind] at hauth
    revert hauth
    decide

namespace Resolve.Resolver

variable {r : Resolver} {lib : Key.Library} {env : Environment} {d : Declaration}
  {e : HostEntry} {c : Connection}

theorem Refuses.refusesFields {report : Report} (h : Refuses d c report) :
    (Failure.report report).RefusesFields := by
  refine ⟨report, rfl, ?_⟩
  cases h with
  | missing h => exact Or.inl rfl
  | port => exact Or.inr ⟨rfl, List.prefix_append _ _⟩

/-! ## Behind the check -/

/-- Refused fields end the course with their report, behind the warning about the entry. -/
theorem course_of_refuses {report : Report} (hread : r.readHostConfig env d.host = .ok e)
    (hmerge : r.connection d e = .ok c) (h : Refuses d c report) :
    r.course lib env d = ⟨.error (.report report), (warning? e).toList⟩ := by
  have hfields : fieldFailure? d c = some (.report report) :=
    fieldFailure?_eq_some_iff.mpr (Or.inl ⟨report, h, rfl⟩)
  rw [course_of_merged hread hmerge, connectCourse_of_refused hfields, List.append_nil]

/-- A resolution whose alias has an entry comes to a report about a field just when the fields
that are merged from the declaration, the entry and the defaults are refused with it. What is
said is then what there is to say about the entry. -/
theorem course_refuses_iff (hread : r.readHostConfig env d.host = .ok e) {failure : Failure}
    (hfailure : failure.RefusesFields) :
    (r.course lib env d).outcome = .error failure ↔
      ∃ c report, r.connection d e = .ok c ∧ Refuses d c report ∧ failure = .report report := by
  constructor
  · intro hcourse
    have hresolves := r.course_resolves lib env d
    generalize r.course lib env d = course at hcourse hresolves
    cases hresolves with
    | unread hread' => cases hread.symm.trans hread'
    | unmerged hread' hmerge =>
        cases hcourse
        exact absurd hfailure (Failure.not_refusesFields nofun)
    | @refused e' c failure' hread' hmerge hfields =>
        cases hcourse
        obtain rfl : e = e' := Except.ok.inj (hread.symm.trans hread')
        obtain ⟨report, hreport, rfl⟩ | hescapes := fieldFailure?_eq_some_iff.mp hfields
        · exact ⟨c, report, hmerge, hreport, rfl⟩
        · refine absurd hfailure (Failure.not_refusesFields fun report hreport => ?_)
          cases hescapes.report?.symm.trans hreport
    | unbuilt hread' hmerge hfields hbuild =>
        cases hcourse
        exact absurd hfailure (Failure.not_refusesFields fun _ =>
          auth_of_authFailure fun _ => auth_of_buildCourse (congrArg Course.outcome hbuild))
    | run => cases hcourse
  · rintro ⟨c, report, hmerge, hrefuses, rfl⟩
    rw [course_of_refuses hread hmerge hrefuses]

/-- At a desk the warning about the entry has to be taken first. -/
theorem runAt_refuses_iff (lib : Key.Library) (hread : r.readHostConfig env d.host = .ok e)
    (desk : Log.Desk) {failure : Failure} (hfailure : failure.RefusesFields) :
    ((r.resolve lib env d).runAt desk).1 = .error failure ↔
      desk.Takes (warning? e).toList ∧
        ∃ c report, r.connection d e = .ok c ∧ Refuses d c report ∧ failure = .report report := by
  rw [(r.resolve_follows lib env d).fst_eq_error_iff (r.course_isMild lib env d),
    course_refuses_iff hread hfailure]
  constructor
  · rintro (⟨htakes, c, report, hmerge, hrefuses, rfl⟩ | ⟨-, rfl⟩)
    · rw [course_of_refuses hread hmerge hrefuses] at htakes
      exact ⟨htakes, c, report, hmerge, hrefuses, rfl⟩
    · exact absurd hfailure (Failure.not_refusesFields nofun)
  · rintro ⟨htakes, c, report, hmerge, hrefuses, rfl⟩
    refine Or.inl ⟨?_, c, report, hmerge, hrefuses, rfl⟩
    rw [course_of_refuses hread hmerge hrefuses]
    exact htakes

/-- Merging takes nothing from a resolver but its defaults. -/
theorem connection_congr {r' : Resolver} (h : r'.defaults = r.defaults) :
    r'.connection d e = r.connection d e := by
  rw [connection, connection, h]

end Resolve.Resolver

namespace Resolve.Session

open Resolver

variable {s s' : Session} {d : Declaration} {e : HostEntry}

/-- The line of the warning about the port of an entry, at a time that has a date. -/
def warningLine (desk : Log.Desk) (e : HostEntry) : Text :=
  desk.sink.style.lineOf desk.clock ⟨.warning, "Ignoring invalid Port ".toList
    ++ Text.quoted e.port ++ " in SSH config".toList⟩

/-- The text that is written about an entry: the warning about its port, if there is one. -/
def warningText (desk : Log.Desk) (e : HostEntry) : Text :=
  if hasBadPort e ∧ desk.clock.hasDate then warningLine desk e else []

theorem message_warning (t : Text) :
    Log.Template.message "Ignoring invalid Port %r in SSH config".toList [.text t]
      = some ("Ignoring invalid Port ".toList ++ Text.quoted t ++ " in SSH config".toList) := by
  have hfront : '%' ∉ "Ignoring invalid Port ".toList := by decide
  have hback : '%' ∉ " in SSH config".toList := by decide
  have hplace := Log.Template.message_place (Or.inr rfl) hback t
  have hmessage := Log.Template.message_front hfront ('%' :: 'r' :: " in SSH config".toList)
    (.text t) []
  rw [hplace] at hmessage
  exact hmessage.trans (congrArg some (List.append_assoc _ _ _).symm)

/-- A warning is written in every style. -/
theorem shows_warning (style : Log.Style) : style.shows .warning = true := by
  rw [Log.Style.shows]
  exact Bool.or_true _

theorem line?_of_hasBadPort (desk : Log.Desk) {m : Log.Message} (h : warning? e = some m) :
    desk.line? m = if desk.clock.hasDate then some (warningLine desk e) else none := by
  rw [warning?] at h
  split at h
  · cases h
    have hrecord : Log.Call.record? ⟨desk.clock, .warning,
        "Ignoring invalid Port %r in SSH config".toList, [.text e.port]⟩ = some ⟨.warning,
          "Ignoring invalid Port ".toList ++ Text.quoted e.port ++ " in SSH config".toList⟩ :=
      congrArg (Option.map (Log.Record.mk .warning)) (message_warning e.port)
    rw [Log.Desk.line?, Log.Message.at, Log.Call.line?, shows_warning, if_pos rfl, hrecord]
    rfl
  · cases h

theorem text_warning? (desk : Log.Desk) (e : HostEntry) :
    desk.text (warning? e).toList = warningText desk e := by
  rw [Log.Desk.text, warningText]
  cases hbad : hasBadPort e with
  | false =>
      have hwarning : warning? e = none := by simp [warning?, hbad]
      simp [hwarning]
  | true =>
      obtain ⟨m, hwarning⟩ : ∃ m, warning? e = some m := ⟨_, if_pos hbad⟩
      have hline := line?_of_hasBadPort desk hwarning
      cases hdate : desk.clock.hasDate <;> simp [hwarning, hdate, hline]

/-- The warning is taken in one session if it is in the other. -/
theorem takes_congr {desk desk' : Log.Desk} (hclosed : desk'.isClosed = desk.isClosed) :
    desk'.Takes (warning? e).toList ↔ desk.Takes (warning? e).toList := by
  have hshows : ∀ (desk : Log.Desk), ∀ m ∈ (warning? e).toList, desk.shows m = true := by
    intro desk m hm
    rw [Log.Desk.shows, level_of_warning? (Option.mem_toList.mp hm), shows_warning]
  rw [Log.Desk.Takes, Log.Desk.Takes, hclosed]
  refine imp_congr_right fun _ => forall₂_congr fun m hm => ?_
  rw [hshows desk' m hm, hshows desk m hm]

/-- Fields are checked before any key or trust store is read. In two sessions that find the same
entry for an alias, whatever else is different between their libraries, file trees and environments,
a resolution ends with a given report about the fields in both or in neither, as long as the sink
of neither is closed, or those of both are. It does so just when the merged fields are refused with
this report: it names the first of host name, user and port that is not set, or else a port that is
too large. In any style all that is written is then the warning about the port of the entry, if the
entry has one that is no number of a port. -/
theorem resolve_refused_congr (hdefaults : s'.resolver.defaults = s.resolver.defaults)
    (hclosed : s'.desk.isClosed = s.desk.isClosed)
    (hread : s.readHostConfig d.host = .ok e) (hread' : s'.readHostConfig d.host = .ok e)
    (lib lib' : Key.Library) {failure : Failure} (hfailure : failure.RefusesFields) :
    ((s.resolve lib d).1 = .error failure ↔ (s'.resolve lib' d).1 = .error failure) ∧
    ((s.resolve lib d).1 = .error failure ↔ s.desk.Takes (warning? e).toList ∧
      ∃ c report, s.resolver.connection d e = .ok c ∧ Refuses d c report ∧
        failure = .report report) ∧
    ((s.resolve lib d).1 = .error failure →
      (s.resolve lib d).2 = { s with desk := (s.desk.logAll (warning? e).toList).1 } ∧
      ∀ content, s.desk.Holds content →
        (s.resolve lib d).2.desk.Holds (content ++ warningText s.desk e)) := by
  have hiff := runAt_refuses_iff lib hread s.desk hfailure
  have hiff' := runAt_refuses_iff lib' hread' s'.desk hfailure
  rw [takes_congr hclosed, connection_congr hdefaults] at hiff'
  refine ⟨hiff.trans hiff'.symm, hiff, fun h => ?_⟩
  obtain ⟨htakes, c, report, hmerge, hrefuses, rfl⟩ := hiff.mp h
  have hcourse : s.resolver.course lib s.env d = ⟨.error (.report report), (warning? e).toList⟩ :=
    course_of_refuses hread hmerge hrefuses
  have hrun := (s.resolver.resolve_follows lib s.env d).runAt_of_takes
    (s.resolver.course_isMild lib s.env d) (by rw [hcourse]; exact htakes)
  rw [hcourse] at hrun
  have hsession : (s.resolve lib d).2 = { s with desk := (s.desk.logAll (warning? e).toList).1 } :=
    congrArg (fun ended => { s with desk := ended.2 }) hrun
  refine ⟨hsession, fun content hcontent => ?_⟩
  rw [hsession, ← text_warning?]
  exact hcontent.logAll (warning?_isMild e)

/-- A session with a host configuration that sets no user and a port that is none, and with
further files beside it. -/
def userlessSession (others : List (Text × Files.Node)) : Session where
  resolver := homeResolver
  env :=
    { homeEnvironment "Port ssh\n".toList [] with
      files :=
        { nodes :=
            (homeEnvironment "Port ssh\n".toList []).files.nodes
              ++ others.map fun other => (["h".toList, ".ssh".toList, other.1], other.2)
          workingDirectory := [] } }
  desk := sampleDesk

/-- A key that can be used and a trust store that loads. -/
def usableFiles : List (Text × Files.Node) :=
  [("id_ecdsa".toList, .file OpenSsh.sampleKeyFile),
    ("known_hosts".toList, .file (Utf8.encode sampleStore))]

def userlessEntry : HostEntry := ⟨[], [], "ssh".toList, [], []⟩

theorem userlessSession_read {others : List (Text × Files.Node)}
    (h : others ∈ [[], usableFiles]) :
    (userlessSession others).readHostConfig homeTunnel.host = .ok userlessEntry := by
  have hentry : ∀ others ∈ [[], usableFiles],
      ((userlessSession others).readHostConfig homeTunnel.host).toOption
        = some userlessEntry := by
    decide +kernel
  exact eq_ok_of_toOption (hentry others h)

/-- Whether there is a key and a trust store or not, the user is reported to be missing, and the
warning about the port is all that is written. -/
theorem userless_refused : ∃ report, report.kind = .missingField ∧
    report.message = "no user specified".toList ∧
    ((userlessSession []).resolve OpenSsh.library homeTunnel).1 = .error (.report report) ∧
    ((userlessSession usableFiles).resolve OpenSsh.library homeTunnel).1
      = .error (.report report) ∧
    ((userlessSession usableFiles).resolve OpenSsh.library homeTunnel).2.desk.Holds
      "[00:00:00] WARNING Ignoring invalid Port 'ssh' in SSH config\n".toList := by
  have hread := userlessSession_read (List.mem_cons_self (a := []))
  have hread' :=
    userlessSession_read (List.mem_cons_of_mem [] (List.mem_singleton_self usableFiles))
  have hrefuses : Refuses homeTunnel (usualConnection homeTunnel userlessEntry)
      (missingReport homeTunnel (usualConnection homeTunnel userlessEntry) .user) :=
    .missing (.user (by decide) (by decide))
  obtain ⟨hsame, hiff, hends⟩ := @resolve_refused_congr (userlessSession usableFiles)
    (userlessSession []) homeTunnel userlessEntry rfl rfl hread' hread OpenSsh.library
    OpenSsh.library _ hrefuses.refusesFields
  have hrefused := hiff.mpr ⟨Log.Desk.takes_of_open rfl, _, _,
    connection_builtin rfl homeTunnel userlessEntry, hrefuses, rfl⟩
  have htext : warningText (userlessSession usableFiles).desk userlessEntry
      = "[00:00:00] WARNING Ignoring invalid Port 'ssh' in SSH config\n".toList := by
    decide +kernel
  refine ⟨missingReport homeTunnel (usualConnection homeTunnel userlessEntry) .user, rfl,
    by decide, hsame.mp hrefused, hrefused, ?_⟩
  have hholds := (hends hrefused).2 [] rfl
  rwa [List.nil_append, htext] at hholds

end Resolve.Session

end SshTunnel
