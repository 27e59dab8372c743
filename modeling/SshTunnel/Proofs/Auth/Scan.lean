import Mathlib.Data.List.Forall2
import SshTunnel.Proofs.Auth.Candidate
import SshTunnel.Proofs.Logging

/-!
# How a scan for keys ends

A scan tries its candidates in order. Where none stumbles, each has its outcome, and the keys and
the messages are what the outcomes say, one after the other. One candidate that stumbles ends the
whole scan.
-/

namespace SshTunnel.Auth

variable {lib : Key.Library} {files : Files.Tree} {home : Text} {listed more : List Text}
  {tried tried' : List Candidate}

/-! ## The course of a scan -/

/-- What a scan says about its candidates, and the keys that it comes to. -/
def scanCourse (lib : Key.Library) (files : Files.Tree) (home : Text) :
    List Text → Course (List PublicKey)
  | [] => ⟨.ok [], []⟩
  | listed :: rest =>
      match load lib files home listed with
      | .error failure => ⟨.error failure, []⟩
      | .ok c =>
          ⟨(scanCourse lib files home rest).outcome.map (c.key?.toList ++ ·),
            c.message?.toList ++ (scanCourse lib files home rest).said⟩

theorem scan_follows (lib : Key.Library) (files : Files.Tree) (home : Text) (listed : List Text) :
    Logging.Follows (scan lib files home listed) (scanCourse lib files home listed) := by
  induction listed with
  | nil => exact Logging.follows_pure []
  | cons l more ih =>
      have hfollows := (Logging.follows_lift (load lib files home l)).bind fun c =>
        (Logging.follows_tellAny c.message?).bind fun _ =>
          ih.bind fun keys => Logging.follows_pure (c.key?.toList ++ keys)
      -- The rules put the course together part by part; the definition has the parts in one.
      have hcourse : Course.bind ⟨load lib files home l, []⟩ (fun c =>
          Course.bind ⟨.ok (), c.message?.toList⟩ fun _ =>
            (scanCourse lib files home more).bind fun keys => ⟨.ok (c.key?.toList ++ keys), []⟩)
          = scanCourse lib files home (l :: more) := by
        rw [scanCourse]
        cases load lib files home l with
        | error failure => rfl
        | ok c =>
            simp only [Course.bind]
            cases (scanCourse lib files home more).outcome <;> simp [Except.map]
      rw [← hcourse]
      exact hfollows

theorem Candidate.level_ne_fatal {c : Candidate} {m : Log.Message} (h : c.message? = some m) :
    m.level ≠ .fatal := by
  rw [message?] at h
  split at h <;> cases h <;> nofun

theorem scanCourse_isMild (lib : Key.Library) (files : Files.Tree) (home : Text)
    (listed : List Text) : (scanCourse lib files home listed).IsMild := by
  induction listed with
  | nil => exact nofun
  | cons l more ih =>
      rw [scanCourse]
      cases load lib files home l with
      | error failure => exact nofun
      | ok c =>
          refine List.forall_mem_append.mpr ⟨fun m hm => ?_, ih⟩
          exact Candidate.level_ne_fatal (Option.mem_toList.mp hm)

/-! ## Outcomes one after the other -/

/-- The outcomes of a list of candidates, in order. -/
def Tried (lib : Key.Library) (files : Files.Tree) (home : Text) (listed : List Text)
    (tried : List Candidate) : Prop :=
  List.Forall₂ (fun l c => load lib files home l = .ok c) listed tried

theorem Tried.append (h : Tried lib files home listed tried)
    (h' : Tried lib files home more tried') :
    Tried lib files home (listed ++ more) (tried ++ tried') :=
  List.rel_append h h'

theorem exists_tried (hclean : ∀ l ∈ listed, ¬ Stumbles lib files home l) :
    ∃ tried, Tried lib files home listed tried := by
  induction listed with
  | nil => exact ⟨[], .nil⟩
  | cons l more ih =>
      obtain ⟨c, hc⟩ := exists_load_iff.mpr (hclean l (by simp))
      obtain ⟨tried, htried⟩ := ih fun l' hl' => hclean l' (by simp [hl'])
      exact ⟨c :: tried, .cons hc htried⟩

/-- A scan finds the keys of the outcomes and says what there is to say about them. -/
theorem scanCourse_of_tried (h : Tried lib files home listed tried) :
    scanCourse lib files home listed
      = ⟨.ok (tried.filterMap Candidate.key?), tried.filterMap Candidate.message?⟩ := by
  induction h with
  | nil => rfl
  | @cons l c more tried hc htried ih =>
      rw [scanCourse, hc]
      simp only [ih, Except.map, List.filterMap_cons]
      cases c.key? <;> cases c.message? <;> rfl

/-- What is said about a candidate when it is tried. -/
def message? (lib : Key.Library) (files : Files.Tree) (home listed : Text) : Option Log.Message :=
  (load lib files home listed).toOption.bind Candidate.message?

theorem Tried.messages (h : Tried lib files home listed tried) :
    tried.filterMap Candidate.message? = listed.filterMap (message? lib files home) := by
  induction h with
  | nil => rfl
  | @cons l c more tried hc htried ih =>
      have hmessage : message? lib files home l = c.message? := by rw [message?, hc]; rfl
      rw [List.filterMap_cons, List.filterMap_cons, hmessage, ih]

/-- Some candidate was loaded just when one of them is a private key. -/
theorem Tried.exists_loaded_iff (h : Tried lib files home listed tried) :
    (∃ c ∈ tried, ∃ key, c.outcome = .loaded key) ↔
      ∃ l ∈ listed, ∃ key, Loads lib files home l key := by
  induction h with
  | nil => simp
  | @cons l c more tried hc htried ih =>
      have hkey : ∀ key, c.outcome = .loaded key ↔ Loads lib files home l key := fun key =>
        (c.key?_eq_some_iff_loaded key).symm.trans (key?_eq_some_iff hc key)
      simp only [List.exists_mem_cons_iff, ih, hkey]

theorem keys_eq_nil_iff (tried : List Candidate) :
    tried.filterMap Candidate.key? = [] ↔ ∀ c ∈ tried, ∀ key, c.outcome ≠ .loaded key := by
  simp only [List.filterMap_eq_nil_iff, Option.eq_none_iff_forall_ne_some, ne_eq,
    Candidate.key?_eq_some_iff_loaded]

/-- A candidate that stumbles ends a scan with a failure that is no report. -/
theorem scanCourse_of_stumbles (h : ∃ l ∈ listed, Stumbles lib files home l) :
    ∃ failure, (scanCourse lib files home listed).outcome = .error failure ∧
      failure.report? = none := by
  induction listed with
  | nil => simp at h
  | cons l more ih =>
      rw [scanCourse]
      cases hload : load lib files home l with
      | error failure =>
          have hends := load_ends lib files home l
          rw [hload] at hends
          cases hends with
          | stumbles _ hreport => exact ⟨failure, rfl, hreport⟩
      | ok c =>
          have hclean : ¬ Stumbles lib files home l := exists_load_iff.mp ⟨c, hload⟩
          obtain ⟨failure, hfailure, hreport⟩ := ih (by simpa [hclean] using h)
          exact ⟨failure, by simp only [hfailure]; rfl, hreport⟩

/-- How a scan ends: it stumbles with a failure that is no report, or it finds the keys of
the candidates that are keys, and has said something about each of the others. -/
theorem scanCourse_cases (lib : Key.Library) (files : Files.Tree) (home : Text)
    (listed : List Text) :
    (∃ failure, (scanCourse lib files home listed).outcome = .error failure ∧
      failure.report? = none ∧ ∃ l ∈ listed, Stumbles lib files home l) ∨
    (∃ keys, scanCourse lib files home listed
        = ⟨.ok keys, listed.filterMap (message? lib files home)⟩ ∧
      (∀ l ∈ listed, ¬ Stumbles lib files home l) ∧
      (keys = [] ↔ ¬ ∃ l ∈ listed, ∃ key, Loads lib files home l key)) := by
  by_cases hstumbles : ∃ l ∈ listed, Stumbles lib files home l
  · obtain ⟨failure, hfailure, hreport⟩ := scanCourse_of_stumbles hstumbles
    exact Or.inl ⟨failure, hfailure, hreport, hstumbles⟩
  · have hclean : ∀ l ∈ listed, ¬ Stumbles lib files home l :=
      fun l hl hbad => hstumbles ⟨l, hl, hbad⟩
    obtain ⟨tried, htried⟩ := exists_tried hclean
    refine Or.inr ⟨tried.filterMap Candidate.key?, ?_, hclean, ?_⟩
    · rw [scanCourse_of_tried htried, htried.messages]
    · rw [keys_eq_nil_iff, ← htried.exists_loaded_iff]
      simp only [not_exists, not_and]

/-- Without a candidate that stumbles a scan finds keys, and says something about each other one. -/
theorem scanCourse_of_clean (hclean : ∀ l ∈ listed, ¬ Stumbles lib files home l) :
    ∃ keys, scanCourse lib files home listed
        = ⟨.ok keys, listed.filterMap (message? lib files home)⟩ ∧
      (keys = [] ↔ ¬ ∃ l ∈ listed, ∃ key, Loads lib files home l key) := by
  obtain ⟨-, -, -, l, hl, hstumbles⟩ | ⟨keys, hkeys, -, hnone⟩ :=
    scanCourse_cases lib files home listed
  · exact absurd hstumbles (hclean l hl)
  · exact ⟨keys, hkeys, hnone⟩

theorem stumbles_of_scanCourse {failure : Failure} {said : List Log.Message}
    (h : scanCourse lib files home listed = ⟨.error failure, said⟩) :
    failure.report? = none ∧ ∃ l ∈ listed, Stumbles lib files home l := by
  obtain ⟨failure', hfailure, hreport, hstumbles⟩ | ⟨keys, hkeys, -⟩ :=
    scanCourse_cases lib files home listed
  · rw [h] at hfailure
    cases hfailure
    exact ⟨hreport, hstumbles⟩
  · cases h.symm.trans hkeys

theorem keys_of_scanCourse {keys : List PublicKey} {said : List Log.Message}
    (h : scanCourse lib files home listed = ⟨.ok keys, said⟩) :
    (∀ l ∈ listed, ¬ Stumbles lib files home l) ∧
      (keys = [] ↔ ¬ ∃ l ∈ listed, ∃ key, Loads lib files home l key) ∧
      said = listed.filterMap (message? lib files home) := by
  obtain ⟨failure, hfailure, -⟩ | ⟨keys', hkeys, hclean, hnone⟩ :=
    scanCourse_cases lib files home listed
  · rw [h] at hfailure
    cases hfailure
  · cases h.symm.trans hkeys
    exact ⟨hclean, hnone, rfl⟩

end SshTunnel.Auth
