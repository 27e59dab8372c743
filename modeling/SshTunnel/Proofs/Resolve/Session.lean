import SshTunnel.Proofs.Resolve.Batch
import SshTunnel.Resolve.Session

/-!
# What a session leaves behind

Nothing that is done in a session changes what its resolver works with: only the files, the
time and the streams are other ones afterwards. So declarations are resolved together, at any
moment of a session, as each of them is in a session that was just opened.
-/

namespace SshTunnel.Resolve.Session

variable {lib : Key.Library} {opened now : Session}

/-- The session may have come from the other one: only its files, its streams and its clock are
its own. -/
structure ComesFrom (now opened : Session) : Prop where
  resolver : now.resolver = opened.resolver
  env : now.env = { opened.env with files := now.env.files }
  sink : now.desk.sink = opened.desk.sink

/-- A session that is opened as this one was, with the files, the streams and the time of another
one. -/
def anew (opened now : Session) : Session :=
  { opened with
    env := { opened.env with files := now.env.files }
    desk := ⟨opened.desk.sink, now.desk.streams, now.desk.clock⟩ }

/-- What a declaration is resolved to when it is all that a session is ever asked for, at the
moment of another one. -/
def alone (opened now : Session) (lib : Key.Library) (d : Declaration) :
    Except Failure RunConfig × Session :=
  (opened.anew now).resolve lib d

/-! ## What stays -/

theorem ComesFrom.refl (s : Session) : s.ComesFrom s := ⟨rfl, rfl, rfl⟩

theorem ComesFrom.trans {s : Session} (h : s.ComesFrom now) (h' : now.ComesFrom opened) :
    s.ComesFrom opened where
  resolver := h.resolver.trans h'.resolver
  env := by rw [h.env, h'.env]
  sink := h.sink.trans h'.sink

theorem withFiles_comesFrom (s : Session) (files : Files.Tree) :
    (s.withFiles files).ComesFrom s := ⟨rfl, rfl, rfl⟩

/-- A run that follows a course changes nothing but the streams. -/
theorem run_comesFrom (s : Session) {α : Type} {run : Logging α} {c : Course α}
    (h : Logging.Follows run c) : (s.run run).2.ComesFrom s where
  resolver := rfl
  env := rfl
  sink := h.sink_eq s.desk

/-- Whatever is done, the session comes from the one before. -/
theorem after_comesFrom (s : Session) (action : Action) : (s.after lib action).ComesFrom s := by
  cases action with
  | resolve d => exact s.run_comesFrom (s.resolver.resolve_follows lib s.env d)
  | resolveAll ds => exact s.run_comesFrom (Resolver.resolveOnto_follows [] ds)
  | readHostConfig host => exact .refl s
  | write path node => exact s.withFiles_comesFrom _
  | delete path => exact s.withFiles_comesFrom _
  | wait clock => exact ⟨rfl, rfl, rfl⟩

theorem afterAll_comesFrom (s : Session) (history : List Action) :
    (s.afterAll lib history).ComesFrom s := by
  induction history generalizing s with
  | nil => exact .refl s
  | cons action history ih => exact (ih (s.after lib action)).trans (s.after_comesFrom action)

/-- Opening a session anew gives the present one. -/
theorem ComesFrom.anew_eq (h : now.ComesFrom opened) : opened.anew now = now := by
  rw [anew, ← h.resolver, ← h.env, ← h.sink]

/-! ## One session for all or one for each -/

/-- A declaration that is answered alone leaves the desk with what it says. -/
theorem ComesFrom.alone_snd (h : now.ComesFrom opened) {d : Declaration}
    (hanswered : now.resolver.Answered lib now.env now.desk d) :
    (opened.alone now lib d).2 =
      { now with desk := (now.desk.logAll (now.resolver.course lib now.env d).said).1 } := by
  have hrun := Resolver.runAt_of_takes (Resolver.answered_iff.mp hanswered).1
  rw [alone, h.anew_eq, resolve, run, hrun]

/-- Declarations that are answered alone, under names that are all different, are resolved
together in one session as each is alone, and say together what each says alone. -/
theorem ComesFrom.resolveAll_eq (h : now.ComesFrom opened) {ds : List Declaration}
    (hnames : (ds.map (·.name)).Nodup)
    (hanswered : ∀ d ∈ ds, ∀ failure, (opened.alone now lib d).1 = .error failure →
      failure.report?.isSome = true) :
    (∀ d ∈ ds, now.resolver.Answered lib now.env now.desk d) ∧
    now.resolveAll lib ds =
      (.ok (ds.map fun d => (d.name, (opened.alone now lib d).1)),
        { now with desk :=
            (now.desk.logAll
              (ds.flatMap fun d => (now.resolver.course lib now.env d).said)).1 }) := by
  -- A session opened anew at this moment is the present one, history or not.
  have halone : ∀ d, (opened.alone now lib d).1 = now.resolver.outcome lib now.env now.desk d := by
    intro d
    rw [alone, h.anew_eq]
    rfl
  have hall : ∀ d ∈ ds, now.resolver.Answered lib now.env now.desk d := by
    intro d hd failure hfailure
    exact hanswered d hd failure ((halone d).trans hfailure)
  have hnames' : (Named.names (now.resolver.outcomes lib now.env now.desk ds)).Nodup := by
    rwa [Resolver.names_outcomes]
  refine ⟨hall, ?_⟩
  simp only [halone]
  rw [resolveAll, run, Resolver.resolveAll_answered hall, Named.update_eq_self hnames']
  rfl

/-- At any moment of a session, whatever was done in it before: declarations under names that are
all different, each of which is answered alone, give one result each, in their order, which is
what each is resolved to alone. What each says alone is said one after the other, so that a text in
memory has got what is written for each alone. In another order they give the same results in that
order. -/
theorem resolveAll_eq_alone (lib : Key.Library) (opened : Session) (history : List Action)
    (hnow : now = opened.afterAll lib history) {ds : List Declaration}
    (hnames : (ds.map (·.name)).Nodup)
    (hanswered : ∀ d ∈ ds, ∀ failure, (opened.alone now lib d).1 = .error failure →
      failure.report?.isSome = true) :
    (now.resolveAll lib ds).1 = .ok (ds.map fun d => (d.name, (opened.alone now lib d).1)) ∧
    (∃ said : Declaration → List Log.Message,
      (∀ d ∈ ds, (opened.alone now lib d).2
        = { now with desk := (now.desk.logAll (said d)).1 }) ∧
      (now.resolveAll lib ds).2 = { now with desk := (now.desk.logAll (ds.flatMap said)).1 } ∧
      ∀ content, now.desk.Holds content →
        (∀ d ∈ ds, (opened.alone now lib d).2.desk.Holds (content ++ now.desk.text (said d))) ∧
        (now.resolveAll lib ds).2.desk.Holds
          (content ++ ds.flatMap fun d => now.desk.text (said d))) ∧
    ∀ ds' : List Declaration, ds'.Perm ds → ∃ results results',
      (now.resolveAll lib ds).1 = .ok results ∧ (now.resolveAll lib ds').1 = .ok results' ∧
      Named.names results' = ds'.map (·.name) ∧ results'.Perm results ∧
      ∀ name, Named.get? results' name = Named.get? results name := by
  have hcomes : now.ComesFrom opened := hnow ▸ opened.afterAll_comesFrom history
  obtain ⟨hall, hrun⟩ := hcomes.resolveAll_eq hnames hanswered
  refine ⟨congrArg Prod.fst hrun, ?_, fun ds' hperm => ?_⟩
  · have halone : ∀ d ∈ ds, (opened.alone now lib d).2 = { now with desk :=
        (now.desk.logAll (now.resolver.course lib now.env d).said).1 } :=
      fun d hd => hcomes.alone_snd (hall d hd)
    have hmild : ∀ d, (now.resolver.course lib now.env d).IsMild :=
      now.resolver.course_isMild lib now.env
    refine ⟨fun d => (now.resolver.course lib now.env d).said, halone, congrArg Prod.snd hrun,
      fun content hcontent => ⟨fun d hd => ?_, ?_⟩⟩
    · rw [halone d hd]
      exact hcontent.logAll (hmild d)
    · rw [hrun, ← Log.Desk.text_flatMap]
      refine hcontent.logAll fun m hm => ?_
      obtain ⟨d, -, hsaid⟩ := List.mem_flatMap.mp hm
      exact hmild d m hsaid
  · have hnames' : (ds'.map (·.name)).Nodup := (hperm.map _).nodup_iff.mpr hnames
    obtain ⟨-, hrun'⟩ := hcomes.resolveAll_eq hnames' fun d hd => hanswered d (hperm.mem_iff.mp hd)
    let entry := fun d : Declaration => (d.name, (opened.alone now lib d).1)
    have hentries : Named.names (ds.map entry) = ds.map (·.name) := by simp [Named.names, entry]
    refine ⟨ds.map entry, ds'.map entry, by rw [hrun], by rw [hrun'], ?_, hperm.map entry, ?_⟩
    · simp [Named.names, entry]
    · exact Named.get?_perm (hperm.map entry) (by rwa [hentries])

/-! ## A sample session -/

section Sample

open OpenSsh (library)
open Resolver (sampleResolver sampleEnvironment sampleDesk sampleTunnel unnamedTunnel
  unnamedBadPort namedBadPort)

def sampleSession : Session := ⟨sampleResolver, sampleEnvironment, sampleDesk⟩

/-- A declaration that names the trust store as its key. -/
def storeAsKey : Declaration :=
  { sampleTunnel with identityFile := .text "~/.ssh/known_hosts".toList }

/-- Two configurations come between the requests, of which the last one stays. -/
def sampleHistory : List Action :=
  [.resolve unnamedTunnel, .write "/h/.ssh/config".toList (.file (Utf8.encode "Port".toList)),
    .resolveAll [unnamedBadPort, unnamedTunnel], .readHostConfig "db".toList,
    .delete "/h/.ssh/config".toList,
    .write "/h/.ssh/config".toList (.file (Utf8.encode "Port ssh\n".toList)),
    .resolve namedBadPort, .wait 1000]

def sampleNow : Session := sampleSession.afterAll library sampleHistory

/-- The time of day in front of a warning about the port in the configuration. -/
def portWarning (time : String) : Text :=
  time.toList ++ " WARNING Ignoring invalid Port 'ssh' in SSH config\n".toList

def keyWarning : Text :=
  "[00:00:01] WARNING Unable to parse private key ~/.ssh/known_hosts: Invalid private key\n".toList

/-- The message of the report that an outcome is. -/
def refusal? {α : Type} (outcome : Except Failure α) : Option Text :=
  match outcome with
  | .ok _ => none
  | .error failure => failure.report?.map (·.message)

theorem sampleNow_holds : sampleNow.desk.Holds (portWarning "[00:00:00]") := by
  decide +kernel

theorem unnamedBadPort_alone :
    refusal? (sampleSession.alone sampleNow library unnamedBadPort).1
      = some "invalid port 70000".toList ∧
    (sampleSession.alone sampleNow library unnamedBadPort).2.desk.Holds
      (portWarning "[00:00:00]" ++ portWarning "[00:00:01]") := by
  decide +kernel

theorem storeAsKey_alone :
    (sampleSession.alone sampleNow library storeAsKey).1.isOk = true ∧
    (sampleSession.alone sampleNow library storeAsKey).2.desk.Holds
      (portWarning "[00:00:00]" ++ (portWarning "[00:00:01]" ++ keyWarning)) := by
  decide +kernel

theorem sampleNow_answered : ∀ d ∈ [unnamedBadPort, storeAsKey], ∀ failure,
    (sampleSession.alone sampleNow library d).1 = .error failure →
      failure.report?.isSome = true := by
  intro d hd failure hfailure
  obtain rfl | rfl : d = unnamedBadPort ∨ d = storeAsKey := by simpa using hd
  · have hrefusal := unnamedBadPort_alone.1
    rw [hfailure] at hrefusal
    obtain ⟨report, hreport, -⟩ := Option.map_eq_some_iff.mp hrefusal
    exact Option.isSome_iff_exists.mpr ⟨report, hreport⟩
  · have hok := storeAsKey_alone.1
    rw [hfailure] at hok
    cases hok

/-- After that history one declaration is refused and the other one resolved, as alone and in
either order, and the text in memory has got the warnings of both, one after the other. -/
theorem sampleHistory_eq_alone :
    ([unnamedBadPort, storeAsKey].map (·.name)).Nodup ∧
    (∀ d ∈ [unnamedBadPort, storeAsKey], ∀ failure,
      (sampleSession.alone sampleNow library d).1 = .error failure →
        failure.report?.isSome = true) ∧
    ∃ refused resolved,
      (sampleNow.resolveAll library [unnamedBadPort, storeAsKey]).1
        = .ok [("db.example".toList, refused), ("db".toList, resolved)] ∧
      refusal? refused = some "invalid port 70000".toList ∧ resolved.isOk = true ∧
      (sampleNow.resolveAll library [unnamedBadPort, storeAsKey]).2.desk.Holds
        (portWarning "[00:00:00]" ++
          (portWarning "[00:00:01]" ++ (portWarning "[00:00:01]" ++ keyWarning))) ∧
      (sampleNow.resolveAll library [storeAsKey, unnamedBadPort]).1.map Named.names
        = .ok ["db".toList, "db.example".toList] := by
  have hnames : ([unnamedBadPort, storeAsKey].map (·.name)).Nodup := by decide
  have hnow : sampleNow = sampleSession.afterAll library sampleHistory := rfl
  obtain ⟨hresults, ⟨said, -, -, htexts⟩, hpermuted⟩ :=
    resolveAll_eq_alone library sampleSession sampleHistory hnow hnames sampleNow_answered
  obtain ⟨halone, htogether⟩ := htexts _ sampleNow_holds
  have hrefused : sampleNow.desk.text (said unnamedBadPort) = portWarning "[00:00:01]" :=
    List.append_cancel_left ((halone _ (by simp)).unique unnamedBadPort_alone.2)
  have hresolved :
      sampleNow.desk.text (said storeAsKey) = portWarning "[00:00:01]" ++ keyWarning :=
    List.append_cancel_left ((halone _ (by simp)).unique storeAsKey_alone.2)
  rw [List.flatMap_cons, List.flatMap_singleton, hrefused, hresolved] at htogether
  obtain ⟨-, results, -, hswapped, horder, -, -⟩ :=
    hpermuted [storeAsKey, unnamedBadPort] (List.Perm.swap _ _ [])
  refine ⟨hnames, sampleNow_answered, _, _, hresults, unnamedBadPort_alone.1, storeAsKey_alone.1,
    htogether, ?_⟩
  rw [hswapped]
  exact congrArg Except.ok horder

end Sample

end SshTunnel.Resolve.Session
