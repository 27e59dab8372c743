import SshTunnel.Proofs.Named
import SshTunnel.Proofs.Resolve.Acceptance

/-!
# Several declarations at once

Declarations that are each answered on their own are all answered when they are resolved one
after the other, each as on its own. The results are kept by name: a declaration whose name
comes again later leaves no result.
-/

namespace SshTunnel.Resolve.Resolver

variable {r : Resolver} {lib : Key.Library} {env : Environment} {desk : Log.Desk}
  {d : Declaration} {ds : List Declaration}

/-- What resolving the declaration at a desk ends with. -/
def outcome (r : Resolver) (lib : Key.Library) (env : Environment) (desk : Log.Desk)
    (d : Declaration) : Except Failure RunConfig :=
  ((r.resolve lib env d).runAt desk).1

/-- Resolving the declaration ends with a run configuration or with a report. -/
def Answered (r : Resolver) (lib : Key.Library) (env : Environment) (desk : Log.Desk)
    (d : Declaration) : Prop :=
  ∀ failure, r.outcome lib env desk d = .error failure → failure.report?.isSome = true

instance (r : Resolver) (lib : Key.Library) (env : Environment) (desk : Log.Desk)
    (d : Declaration) : Decidable (r.Answered lib env desk d) :=
  match h : r.outcome lib env desk d with
  | .ok run => .isTrue fun failure hfailure => by cases h.symm.trans hfailure
  | .error failure =>
      decidable_of_iff (failure.report?.isSome = true)
        ⟨fun hreport failure' hfailure' => by
            cases h.symm.trans hfailure'
            exact hreport,
          fun hanswered => hanswered failure h⟩

/-- The names of declarations with what each is resolved to on its own. -/
def outcomes (r : Resolver) (lib : Key.Library) (env : Environment) (desk : Log.Desk)
    (ds : List Declaration) : Named (Except Failure RunConfig) :=
  ds.map fun d => (d.name, r.outcome lib env desk d)

@[simp] theorem names_outcomes (ds : List Declaration) :
    Named.names (r.outcomes lib env desk ds) = ds.map (·.name) := by
  simp [outcomes, Named.names]

/-! ## Answers by their courses -/

theorem runAt_of_takes (htakes : desk.Takes (r.course lib env d).said) :
    (r.resolve lib env d).runAt desk
      = ((r.course lib env d).outcome, (desk.logAll (r.course lib env d).said).1) :=
  (r.resolve_follows lib env d).runAt_of_takes (r.course_isMild lib env d) htakes

/-- A declaration is answered when all that it says is taken and its course ends so. -/
theorem answered_iff : r.Answered lib env desk d ↔
    desk.Takes (r.course lib env d).said ∧
      ∀ failure, (r.course lib env d).outcome = .error failure →
        failure.report?.isSome = true := by
  by_cases htakes : desk.Takes (r.course lib env d).said
  · rw [Answered, outcome, runAt_of_takes htakes]
    exact (and_iff_right htakes).symm
  · refine iff_of_false (fun hanswered => ?_) fun h => htakes h.1
    have hend := (r.resolve_follows lib env d).runAt_of_not_takes htakes
    cases hanswered _ (congrArg Prod.fst hend)

theorem Answered.outcome_eq (h : r.Answered lib env desk d) :
    r.outcome lib env desk d = (r.course lib env d).outcome :=
  congrArg Prod.fst (runAt_of_takes (answered_iff.mp h).1)

/-- An answer is a result, whether it is a run configuration or a report. -/
theorem Answered.answer (h : r.Answered lib env desk d) :
    Failure.answer (r.course lib env d).outcome = .ok (r.outcome lib env desk d) := by
  have hreport := (answered_iff.mp h).2
  rw [h.outcome_eq]
  cases houtcome : (r.course lib env d).outcome with
  | ok run => rfl
  | error failure => rw [Failure.answer, if_pos (hreport failure houtcome)]

/-! ## One after the other -/

/-- What resolving declarations one after the other says, and what it comes to. -/
def courseOnto (r : Resolver) (lib : Key.Library) (env : Environment)
    (results : Named (Except Failure RunConfig)) :
    List Declaration → Course (Named (Except Failure RunConfig))
  | [] => ⟨.ok results, []⟩
  | d :: more =>
      Course.bind ⟨Failure.answer (r.course lib env d).outcome, (r.course lib env d).said⟩
        fun outcome => r.courseOnto lib env (results.set d.name outcome) more

theorem resolveOnto_follows (results : Named (Except Failure RunConfig))
    (ds : List Declaration) :
    Logging.Follows (r.resolveOnto lib env results ds) (r.courseOnto lib env results ds) := by
  induction ds generalizing results with
  | nil => exact Logging.follows_pure results
  | cons d more ih =>
      exact (r.resolve_follows lib env d).reported.bind fun outcome => ih _

theorem courseOnto_isMild (results : Named (Except Failure RunConfig)) (ds : List Declaration) :
    (r.courseOnto lib env results ds).IsMild := by
  induction ds generalizing results with
  | nil => exact nofun
  | cons d more ih =>
      have hmild : Course.IsMild ⟨Failure.answer (r.course lib env d).outcome,
          (r.course lib env d).said⟩ := r.course_isMild lib env d
      exact hmild.bind fun outcome => ih _

/-- Declarations that are answered come to a result each, under their names and in their order. -/
theorem courseOnto_answered (h : ∀ d ∈ ds, r.Answered lib env desk d)
    (results : Named (Except Failure RunConfig)) :
    r.courseOnto lib env results ds =
      ⟨.ok (results.update (r.outcomes lib env desk ds)),
        ds.flatMap fun d => (r.course lib env d).said⟩ := by
  induction ds generalizing results with
  | nil => rfl
  | cons d more ih =>
      obtain ⟨hd, hmore⟩ := List.forall_mem_cons.mp h
      rw [courseOnto, hd.answer, Course.bind_ok, ih hmore]
      rfl

/-- Several declarations are resolved to the end just when each of them is answered on its own. -/
theorem courseOnto_ends_iff (results : Named (Except Failure RunConfig)) :
    (desk.Takes (r.courseOnto lib env results ds).said ∧
      ∃ all, (r.courseOnto lib env results ds).outcome = .ok all) ↔
      ∀ d ∈ ds, r.Answered lib env desk d := by
  constructor
  · intro hends
    -- The results so far are left open: what is asked of the rest does not depend on them.
    induction ds generalizing results with
    | nil => exact fun d hd => absurd hd List.not_mem_nil
    | cons d more ih =>
        rw [courseOnto, Course.bind] at hends
        cases houtcome : Failure.answer (r.course lib env d).outcome with
        | error failure =>
            obtain ⟨-, all, hall⟩ := hends
            simp only [houtcome] at hall
            cases hall
        | ok answer =>
            simp only [houtcome, Log.Desk.takes_append] at hends
            obtain ⟨⟨htakes, hmore⟩, hall⟩ := hends
            refine List.forall_mem_cons.mpr ⟨answered_iff.mpr ⟨htakes, ?_⟩, ih _ ⟨hmore, hall⟩⟩
            intro failure hfailure
            rw [hfailure, Failure.answer] at houtcome
            split at houtcome
            · assumption
            · cases houtcome
  · intro hall
    rw [courseOnto_answered hall]
    refine ⟨fun hclosed m hm => ?_, _, rfl⟩
    obtain ⟨d, hd, hsaid⟩ := List.mem_flatMap.mp hm
    exact (answered_iff.mp (hall d hd)).1 hclosed m hsaid

/-- Answered declarations are all set under their names, in their order, and each says what it
says on its own. -/
theorem resolveAll_answered (h : ∀ d ∈ ds, r.Answered lib env desk d) :
    (r.resolveAll lib env ds).runAt desk =
      (.ok (Named.update [] (r.outcomes lib env desk ds)),
        (desk.logAll (ds.flatMap fun d => (r.course lib env d).said)).1) := by
  have htakes := ((courseOnto_ends_iff []).mpr h).1
  have hrun := (resolveOnto_follows [] ds).runAt_of_takes (courseOnto_isMild [] ds) htakes
  rw [courseOnto_answered h] at hrun
  exact hrun

/-! ## Results by name -/

theorem getLast?_filter_outcomes (ds : List Declaration) (name : Text) :
    ((r.outcomes lib env desk ds).filter (·.1 = name)).getLast?.map (·.2) =
      (ds.filter (·.name = name)).getLast?.map (r.outcome lib env desk) := by
  rw [outcomes, List.filter_map, List.getLast?_map, Option.map_map]
  rfl

/-- Each name has one result, which is what the last declaration of that name is resolved to on
its own; the names stand in the order in which they first come. So no declaration is without a
result of its own just when the names are all different. -/
theorem resolveAll_keepsLast (h : ∀ d ∈ ds, r.Answered lib env desk d) :
    ∃ results, ((r.resolveAll lib env ds).runAt desk).1 = .ok results ∧
      Named.names results = (ds.map (·.name)).eraseDups ∧
      (∀ name, Named.get? results name =
        (ds.filter (·.name = name)).getLast?.map (r.outcome lib env desk)) ∧
      (results.length = ds.length ↔ (ds.map (·.name)).Nodup) ∧
      ((ds.map (·.name)).Nodup → results = ds.map fun d => (d.name, r.outcome lib env desk d)) := by
  refine ⟨Named.update [] (r.outcomes lib env desk ds), by rw [resolveAll_answered h], ?_, ?_,
    ?_, ?_⟩
  · rw [Named.names_update, names_outcomes]
  · intro name
    rw [Named.get?_update, getLast?_filter_outcomes]
  · have hlength : (r.outcomes lib env desk ds).length = ds.length := List.length_map _
    rw [← hlength, Named.length_update_eq_iff, names_outcomes]
  · intro hnodup
    exact Named.update_eq_self (by rwa [names_outcomes])

/-! ## Declarations without a name of their own -/

open OpenSsh (library)

/-- A declaration that leaves its name to its host. -/
def unnamedTunnel : Declaration :=
  ⟨"db.example".toList, "8080".toList, "db:5432".toList, .text "me".toList, .int 0, .text [],
    "db.example".toList, sampleTunnel.port_declared⟩

/-- Another one for the same host, with a port that is too large. -/
def unnamedBadPort : Declaration :=
  ⟨"db.example".toList, "8081".toList, "db:5433".toList, .text "me".toList, .int 70000,
    .text [], "db.example".toList, rfl⟩

/-- The same declaration under a name of its own. -/
def namedBadPort : Declaration := { unnamedBadPort with name := "db".toList }

theorem unnamed_answered : ∀ d ∈ [unnamedTunnel, unnamedBadPort, namedBadPort],
    sampleResolver.Answered library sampleEnvironment sampleDesk d := by
  decide +kernel

theorem unnamedTunnel_isOk :
    (sampleResolver.outcome library sampleEnvironment sampleDesk unnamedTunnel).isOk = true := by
  decide +kernel

theorem unnamedBadPort_isOk :
    (sampleResolver.outcome library sampleEnvironment sampleDesk unnamedBadPort).isOk
      = false := by
  decide +kernel

/-- Of two declarations without a name for one host, the run configuration of the first one is
lost to the report about the second one. -/
theorem unnamedPair_losesFirst :
    Declaration.make "db.example".toList "8080".toList "db:5432".toList (.text "me".toList)
      (.int 0) (.text []) [] = .ok unnamedTunnel ∧
    Declaration.make "db.example".toList "8081".toList "db:5433".toList (.text "me".toList)
      (.int 70000) (.text []) [] = .ok unnamedBadPort ∧
    (∀ d ∈ [unnamedTunnel, unnamedBadPort],
      sampleResolver.Answered library sampleEnvironment sampleDesk d) ∧
    ∃ results, ((sampleResolver.resolveAll library sampleEnvironment
        [unnamedTunnel, unnamedBadPort]).runAt sampleDesk).1 = .ok results ∧
      results.length = 1 ∧
      ∀ name, (name,
        sampleResolver.outcome library sampleEnvironment sampleDesk unnamedTunnel) ∉ results := by
  have hanswered : ∀ d ∈ [unnamedTunnel, unnamedBadPort],
      sampleResolver.Answered library sampleEnvironment sampleDesk d :=
    fun d hd => unnamed_answered d (List.mem_append_left [namedBadPort] hd)
  have hlast : ∀ first last : Except Failure RunConfig,
      Named.update [] [("db.example".toList, first), ("db.example".toList, last)]
        = [("db.example".toList, last)] := by
    intro first last
    simp [Named.update, Named.set]
  refine ⟨rfl, rfl, hanswered,
    [("db.example".toList,
      sampleResolver.outcome library sampleEnvironment sampleDesk unnamedBadPort)], ?_, rfl, ?_⟩
  · rw [resolveAll_answered hanswered, ← hlast]
    rfl
  · intro name hmem
    obtain ⟨-, hsame⟩ := Prod.mk.inj (List.mem_singleton.mp hmem)
    have hok := unnamedTunnel_isOk
    rw [hsame, unnamedBadPort_isOk] at hok
    cases hok

/-- With a third one under a name of its own there are two results. -/
theorem namedThird_keepsLast :
    (∀ d ∈ [unnamedTunnel, unnamedBadPort, namedBadPort],
      sampleResolver.Answered library sampleEnvironment sampleDesk d) ∧
    ∃ results, ((sampleResolver.resolveAll library sampleEnvironment
        [unnamedTunnel, unnamedBadPort, namedBadPort]).runAt sampleDesk).1 = .ok results ∧
      Named.names results = ["db.example".toList, "db".toList] ∧
      Named.get? results "db.example".toList
        = some (sampleResolver.outcome library sampleEnvironment sampleDesk unnamedBadPort) ∧
      Named.get? results "db".toList
        = some (sampleResolver.outcome library sampleEnvironment sampleDesk namedBadPort) := by
  obtain ⟨results, hresults, hnames, hget, -, -⟩ := resolveAll_keepsLast unnamed_answered
  refine ⟨unnamed_answered, results, hresults, ?_, ?_, ?_⟩
  · rw [hnames]
    decide
  · exact hget "db.example".toList
  · exact hget "db".toList

end SshTunnel.Resolve.Resolver
