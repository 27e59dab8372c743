import SshTunnel.Proofs.Files.Expand
import SshTunnel.Proofs.HostConfig.Lookup
import SshTunnel.Proofs.HostConfig.Steps

/-!
# Include lines that lead too deep

Include lines that form a chain of the greatest depth, with one more Include line at its end,
or that form a cycle, keep a configuration from loading. The error lies in a line unless a
path is refused before, and it says that the limit is passed only for a line of a file that is
read at the limit.
-/

namespace SshTunnel.HostConfig

variable {env : Environment} {root : Path}

/-- The file at a path can be opened, and the line with this number is an Include line with
this value. -/
inductive IncludeAt (env : Environment) (path : Text) (number : Nat) (value : Text) : Prop where
  | intro {content : Bytes} {line : Text} (hnul : path.contains Files.nul = false)
      (hread : env.files.read path = .ok content)
      (hmem : (number, line) ∈ Text.numberedLines (textOf content))
      (hline : Statement.ofLine line = .ok (some (.files value)))

/-- An Include line of the file at a path names the file at another one: an argument expands to
a path of it, and it is a file. -/
inductive Names (env : Environment) (path : Text) : Text → Prop where
  | intro {number : Nat} {value argument name : Text} {list found : List Text}
      (hinclude : IncludeAt env path number value) (hlist : arguments? value = some list)
      (hargument : argument ∈ list)
      (hexpand : env.files.expand (includePattern env argument) = .ok found)
      (hname : name ∈ found) (hkind : env.files.isFile (Path.ofText name).text = .ok true) :
      Names env path (Path.ofText name).text

/-- The file at a path has an Include line, or Include lines lead on from it over `n` files to
one that has. -/
def Leads (env : Environment) : Nat → Text → Prop
  | 0, path => ∃ number value, IncludeAt env path number value
  | n + 1, path => ∃ next, Names env path next ∧ Leads env n next

/-- Include lines lead from the file at a path to one from which they lead back to itself. -/
def LeadsToCycle (env : Environment) (path : Text) : Prop :=
  ∃ next, Relation.ReflTransGen (Names env) path next ∧ Relation.TransGen (Names env) next next

/-! ## Chains and cycles -/

theorem Leads.nul {n : Nat} {path : Text} (h : Leads env n path) :
    path.contains Files.nul = false := by
  cases n with
  | zero =>
      obtain ⟨number, value, ⟨hnul⟩⟩ := h
      exact hnul
  | succ n =>
      obtain ⟨next, ⟨⟨hnul⟩⟩, -⟩ := h
      exact hnul

theorem LeadsToCycle.next {path : Text} (h : LeadsToCycle env path) :
    ∃ next, Names env path next ∧ LeadsToCycle env next := by
  obtain ⟨again, hchain, hcycle⟩ := h
  rcases hchain.cases_head with rfl | ⟨next, hnames, hchain⟩
  · obtain ⟨next, hnames, hback⟩ := Relation.TransGen.head'_iff.mp hcycle
    exact ⟨next, hnames, path, hback, hcycle⟩
  · exact ⟨next, hnames, again, hchain, hcycle⟩

/-- A cycle is a chain of any length. -/
theorem LeadsToCycle.leads {path : Text} (h : LeadsToCycle env path) (n : Nat) :
    Leads env n path := by
  induction n generalizing path with
  | zero =>
      obtain ⟨next, ⟨hinclude, -⟩, -⟩ := h.next
      exact ⟨_, _, hinclude⟩
  | succ n ih =>
      obtain ⟨next, hnames, hcycle⟩ := h.next
      exact ⟨next, hnames, ih hcycle⟩

/-! ## Chains are not read to their end -/

theorem problem?_brings_of_rest {left number : Nat} {path value : Text} {rest : Reading}
    (h : rest.problem? ≠ none) : (brings env left path number value rest).problem? ≠ none := by
  cases left with
  | zero => simp [brings, Reading.problem?]
  | succ left =>
      rw [brings, problem?_ofItems_or]
      intro hnone
      exact h (Option.or_eq_none_iff.mp hnone).2

/-- Lines have a problem when an Include line among them brings one. -/
theorem problem?_lines_of_mem {left number : Nat} {path line value : Text}
    {lines : List (Nat × Text)} (hmem : (number, line) ∈ lines)
    (hline : Statement.ofLine line = .ok (some (.files value)))
    (hbrings : ∀ rest, (brings env left path number value rest).problem? ≠ none) :
    (Reading.ofLines path (brings env left path) lines).problem? ≠ none := by
  induction lines with
  | nil => cases hmem
  | cons numbered lines ih =>
      obtain ⟨number', line'⟩ := numbered
      rw [Reading.ofLines]
      rcases List.mem_cons.mp hmem with heq | hmem
      · cases heq
        simp only [hline]
        exact hbrings _
      · cases Statement.ofLine line' with
        | error problem => simp [Reading.problem?]
        | ok statement =>
            rcases statement with - | patterns | value' | d
            · exact ih hmem
            · exact ih hmem
            · exact problem?_brings_of_rest (ih hmem)
            · exact ih hmem

theorem problem?_reading_of_include {left number : Nat} {path value : Text}
    (h : IncludeAt env path number value)
    (hbrings : ∀ rest, (brings env left path number value rest).problem? ≠ none) :
    (reading env left path).problem? ≠ none := by
  obtain ⟨hnul, hread, hmem, hline⟩ := h
  simp only [reading_eq, Reading.ofFile, hnul, Bool.false_eq_true, if_false, hread]
  exact problem?_lines_of_mem hmem hline hbrings

theorem itemsProblem?_ne_none {body : Text → Reading} {items : List (Except LoadError Text)}
    {item : Except LoadError Text} (hmem : item ∈ items)
    (h : ∀ path, item = .ok path → (body path).problem? ≠ none) :
    itemsProblem? body items ≠ none := by
  intro hnone
  have hitem := List.findSome?_eq_none_iff.mp hnone _ hmem
  cases item with
  | error e => cases hitem
  | ok path => exact h path rfl hitem

/-- A file that is named is among those that some Include line is expanded to. -/
theorem Names.mem_included (hhome : env.tellsHome = true) {path next : Text}
    (h : Names env path next) : ∃ number value, IncludeAt env path number value ∧
      .ok next ∈ included env path number value := by
  obtain ⟨hinclude, hlist, hargument, hexpand, hname, hkind⟩ := h
  refine ⟨_, _, hinclude, ?_⟩
  rw [included, hlist]
  refine List.mem_flatMap.mpr ⟨_, hargument, ?_⟩
  rw [named_eq (expandArgument_eq_ok_iff.mpr ⟨hhome, hexpand⟩)]
  exact List.mem_filterMap.mpr ⟨_, hname, by simp only [fileAt, hkind]⟩

/-- Without a home directory an Include line that names a file is a problem. -/
theorem Names.problem?_homeless (hhome : env.tellsHome = false) {path next : Text}
    (h : Names env path next) (left : Nat) : (reading env left path).problem? ≠ none := by
  obtain @⟨number, value, _, _, _, _, hinclude, hlist, hargument, -, -, -⟩ := h
  apply problem?_reading_of_include hinclude
  intro rest
  cases left with
  | zero => simp [brings, Reading.problem?]
  | succ left =>
      have hmem : .error (.noHome ⟨⟩) ∈ included env path number value := by
        rw [included, hlist]
        refine List.mem_flatMap.mpr ⟨_, hargument, ?_⟩
        simp [named, expandArgument_homeless hhome]
      intro hnone
      rw [brings, problem?_ofItems_or] at hnone
      exact itemsProblem?_ne_none hmem (by simp) (Option.or_eq_none_iff.mp hnone).1

theorem problem?_reading_of_leads {n : Nat} {path : Text} (h : Leads env n path) :
    (reading env n path).problem? ≠ none := by
  induction n generalizing path with
  | zero =>
      obtain ⟨number, value, hinclude⟩ := h
      apply problem?_reading_of_include hinclude
      simp [brings, Reading.problem?]
  | succ n ih =>
      obtain ⟨next, hnames, hleads⟩ := h
      cases hhome : env.tellsHome with
      | false => exact hnames.problem?_homeless hhome _
      | true =>
          obtain ⟨number, value, hinclude, hmem⟩ := hnames.mem_included hhome
          apply problem?_reading_of_include hinclude
          intro rest hnone
          rw [brings, problem?_ofItems_or] at hnone
          refine itemsProblem?_ne_none hmem (fun file hfile => ?_)
            (Option.or_eq_none_iff.mp hnone).1
          exact Except.ok.inj hfile ▸ ih hleads

/-- A configuration does not load when Include lines lead on from it to the limit. -/
theorem exists_error_of_leads (h : Leads env maxIncludeDepth root.text) :
    ∃ e, ofFile env root = .error e := by
  have hproblem := problem?_reading_of_leads h
  rw [problem?_reading env _ [], ← errorOf_map (fun contents => (⟨root, contents⟩ : HostConfig)),
    ← ofFile] at hproblem
  cases hload : ofFile env root with
  | error e => exact ⟨e, rfl⟩
  | ok config =>
      rw [hload] at hproblem
      exact absurd rfl hproblem

/-! ## The depth of files -/

/-- Loading comes to open the file at a path, at a depth. -/
def Opens (env : Environment) (root : Path) (depth : Nat) (path : Text) : Prop :=
  ∃ more, Steps env (start root) (.file depth path :: more)

/-- What is known about a task that loading comes to: it is not beyond the limit, a file other
than the first is one that was found, and lines that are left are lines of a file that was
opened at the same depth. -/
inductive Task.Comes (env : Environment) (root : Path) : Task → Prop where
  | file {depth : Nat} {path : Text} (hdepth : depth ≤ maxIncludeDepth)
      (hnul : path = root.text ∨ path.contains Files.nul = false) :
      Comes env root (.file depth path)
  | lines {depth : Nat} {path : Text} {content : Bytes} {rest : List (Nat × Text)}
      (hdepth : depth ≤ maxIncludeDepth) (hopens : Opens env root depth path)
      (hnul : path.contains Files.nul = false) (hread : env.files.read path = .ok content)
      (hrest : rest <:+ Text.numberedLines (textOf content)) :
      Comes env root (.lines depth path rest)
  | arguments {depth : Nat} {rest : List Text} (hdepth : depth ≤ maxIncludeDepth) :
      Comes env root (.arguments depth rest)
  | paths {depth : Nat} {rest : List Text} (hdepth : depth ≤ maxIncludeDepth) :
      Comes env root (.paths depth rest)

theorem nul_of_isFile {path : Text} (h : env.files.isFile path = .ok true) :
    path.contains Files.nul = false := by
  unfold Files.Tree.isFile at h
  split at h
  · cases h
  next hnul => exact Bool.eq_false_iff.mpr hnul

/-- What is known about a task is known about all that a step on it leaves to do. -/
theorem Task.Comes.yields {t : Task} {new more : List Task}
    (hsteps : Steps env (start root) (t :: more)) (h : t.Comes env root)
    (hyields : t.Yields env (.ok new)) : ∀ t' ∈ new, t'.Comes env root := by
  cases hyields with
  | unread => simp
  | opened hnul hread =>
      obtain ⟨hdepth⟩ := h
      simpa using Comes.lines hdepth ⟨more, hsteps⟩ hnul hread List.suffix_rfl
  | noLine => simp
  | passed =>
      obtain - | ⟨hdepth, hopens, hnul, hread, hrest⟩ := h
      simpa using Comes.lines hdepth hopens hnul hread ((List.suffix_cons _ _).trans hrest)
  | includes _ hbelow =>
      obtain - | ⟨hdepth, hopens, hnul, hread, hrest⟩ := h
      simpa using ⟨Comes.arguments hbelow,
        Comes.lines hdepth hopens hnul hread ((List.suffix_cons _ _).trans hrest)⟩
  | noArgument => simp
  | expanded =>
      obtain - | - | ⟨hdepth⟩ := h
      simpa using ⟨Comes.paths hdepth, Comes.arguments hdepth⟩
  | noPath => simp
  | present hkind =>
      obtain - | - | - | ⟨hdepth⟩ := h
      simpa using ⟨Comes.file hdepth (Or.inr (nul_of_isFile hkind)), Comes.paths hdepth⟩
  | absent =>
      obtain - | - | - | ⟨hdepth⟩ := h
      simpa using Comes.paths hdepth

theorem comes_of_steps {s : List Task} (h : Steps env (start root) s) :
    ∀ t ∈ s, t.Comes env root := by
  induction h with
  | refl =>
      intro t ht
      obtain rfl := List.mem_singleton.mp ht
      exact .file (Nat.zero_le _) (Or.inl rfl)
  | tail hsteps hstep ih =>
      obtain ⟨hstep⟩ := hstep
      intro t ht
      rcases List.mem_append.mp ht with ht | ht
      · exact (ih _ (by simp)).yields hsteps (Task.yields_of_step hstep) t ht
      · exact ih t (List.mem_cons_of_mem _ ht)

theorem split_error {line : Text} {problem : LineProblem} (h : split line = .error problem) :
    ∃ keyword, problem = .missingValue keyword := by
  unfold split at h
  simp only at h
  split at h
  · cases h
  · split at h
    · cases h
      exact ⟨_, rfl⟩
    · cases h
    · cases h

theorem ofParts_ne_includeTooDeep (keyword value : Text) :
    Statement.ofParts keyword value ≠ .error .includeTooDeep := by
  unfold Statement.ofParts
  split
  · split <;> simp
  · split
    · simp
    · split
      · simp
      · split <;> simp

/-- No line is itself at fault for the depth. -/
theorem ofLine_ne_includeTooDeep (line : Text) :
    Statement.ofLine line ≠ .error .includeTooDeep := by
  rw [Statement.ofLine, Statement.ofTrimmed]
  split
  · cases hsplit : split (withoutComment (Text.trim line)) with
    | error problem =>
        obtain ⟨keyword, rfl⟩ := split_error hsplit
        simp [Except.bind]
    | ok parts =>
        simp only [Except.bind]
        split
        · simp
        · cases hparts : Statement.ofParts (Text.lower (Text.trim parts.1))
              (Text.trim parts.2) with
          | error problem =>
              intro h
              cases h
              exact ofParts_ne_includeTooDeep _ _ hparts
          | ok statement => simp [Except.map]
  · simp

/-- The error that the limit is passed names an Include line of a file opened at the limit. -/
theorem opens_of_includeTooDeep {path : Text} {number : Nat}
    (h : ofFile env root = .error (.line ⟨path, number, .includeTooDeep⟩)) :
    Opens env root maxIncludeDepth path ∧ ∃ value, IncludeAt env path number value := by
  obtain ⟨t, more, hsteps, hstep⟩ := ofFile_eq_error_iff.mp h
  have hcomes := comes_of_steps hsteps t (by simp)
  cases Task.yields_of_step hstep with
  | malformed hline => exact absurd hline (ofLine_ne_includeTooDeep _)
  | tooDeep hline hbeyond =>
      obtain - | ⟨hdepth, hopens, hnul, hread, hrest⟩ := hcomes
      rw [Nat.le_antisymm hdepth hbeyond] at hopens
      exact ⟨hopens, _, hnul, hread, hrest.mem (by simp), hline⟩
  | unexpanded hexpand => exact absurd hexpand (expandArgument_ne_line _ _ _)

/-- The error of a line names a file that can be read, the first one or an included one, and a
line of it. -/
theorem read_of_lineError {l : LineError} (h : ofFile env root = .error (.line l)) :
    ∃ content line, env.files.read l.path = .ok content ∧
      (l.line, line) ∈ Text.numberedLines (textOf content) := by
  obtain ⟨t, more, hsteps, hstep⟩ := ofFile_eq_error_iff.mp h
  have hcomes := comes_of_steps hsteps t (by simp)
  cases Task.yields_of_step hstep with
  | malformed =>
      obtain - | ⟨-, -, -, hread, hrest⟩ := hcomes
      exact ⟨_, _, hread, hrest.mem List.mem_cons_self⟩
  | tooDeep =>
      obtain - | ⟨-, -, -, hread, hrest⟩ := hcomes
      exact ⟨_, _, hread, hrest.mem List.mem_cons_self⟩
  | unbalanced =>
      obtain - | ⟨-, -, -, hread, hrest⟩ := hcomes
      exact ⟨_, _, hread, hrest.mem List.mem_cons_self⟩
  | unexpanded hexpand => exact absurd hexpand (expandArgument_ne_line _ _ _)

/-! ## Refused tasks -/

/-- A step on a task is refused: there is no telling the home directory, a pattern cannot be
expanded, or a path that a pattern is expanded to cannot be looked at. -/
inductive Task.Refused (env : Environment) : Task → Prop where
  | home {depth : Nat} {argument : Text} {rest : List Text} (hhome : env.tellsHome = false) :
      Refused env (.arguments depth (argument :: rest))
  | pattern {depth : Nat} {argument : Text} {rest : List Text} {e : Files.BadPath}
      (hhome : env.tellsHome = true)
      (hexpand : env.files.expand (includePattern env argument) = .error e) :
      Refused env (.arguments depth (argument :: rest))
  | kind {depth : Nat} {name : Text} {rest : List Text} {e : Files.Refusal}
      (hkind : env.files.isFile (Path.ofText name).text = .error e) :
      Refused env (.paths depth (name :: rest))

theorem Task.Refused.step_error {t : Task} (h : t.Refused env) :
    ∃ e, t.step env = .error e ∧ ∀ l, e ≠ .line l := by
  cases h with
  | home hhome => exact ⟨.noHome ⟨⟩, by rw [step, expandArgument_homeless hhome], by simp⟩
  | @pattern _ _ _ e hhome hexpand =>
      exact ⟨.badPath e, by rw [step, expandArgument_told hhome, hexpand]; rfl, by simp⟩
  | @kind _ _ _ e hkind => exact ⟨.refused e, by rw [step, hkind], by simp⟩

/-- When the tree has no such names and the home directory is known, a pattern that cannot be
expanded has the character that no path may have. -/
theorem Task.Refused.nul_mem {depth : Nat} {argument : Text} {rest : List Text}
    (hnames : env.files.Nameable) (h : (Task.arguments depth (argument :: rest)).Refused env) :
    env.tellsHome = false ∨ Files.nul ∈ includePattern env argument := by
  cases h with
  | home hhome => exact Or.inl hhome
  | pattern _ hexpand =>
      right
      by_contra hnul
      obtain ⟨found, hfound, -⟩ := Files.Tree.expand_openable hnames hnul
      cases hexpand.symm.trans hfound

/-- An argument that stands for no paths is refused. -/
theorem Task.refused_of_expandArgument {depth : Nat} {argument : Text} {rest : List Text}
    {e : LoadError} (h : expandArgument env argument = .error e) :
    (Task.arguments depth (argument :: rest)).Refused env := by
  cases hhome : env.tellsHome with
  | false => exact .home hhome
  | true =>
      rw [expandArgument_told hhome] at h
      cases hexpand : env.files.expand (includePattern env argument) with
      | error p => exact .pattern hhome hexpand
      | ok found =>
          rw [hexpand] at h
          cases h

/-- Unless the first path is refused, an error lies in a line just when loading comes to no
task that is refused. -/
theorem error_line_iff {e : LoadError} (hroot : root.text.contains Files.nul = false)
    (h : ofFile env root = .error e) :
    (∃ l, e = .line l) ↔
      ∀ t more, Steps env (start root) (t :: more) → ¬ t.Refused env := by
  constructor
  · rintro ⟨l, rfl⟩ t more hsteps hrefused
    obtain ⟨e, hstep, hline⟩ := hrefused.step_error
    have hfails : ofFile env root = .error e := ofFile_eq_error_iff.mpr ⟨t, more, hsteps, hstep⟩
    exact hline l (Except.error.inj (hfails.symm.trans h))
  · intro hclean
    obtain ⟨t, more, hsteps, hstep⟩ := ofFile_eq_error_iff.mp h
    have hcomes := comes_of_steps hsteps t (by simp)
    cases Task.yields_of_step hstep with
    | badPath hnul =>
        obtain ⟨-, rfl | hplain⟩ := hcomes
        · cases hroot.symm.trans hnul
        · cases hplain.symm.trans hnul
    | unexpanded hexpand =>
        exact absurd (Task.refused_of_expandArgument hexpand) (hclean _ more hsteps)
    | refused hkind => exact absurd (.kind hkind) (hclean _ more hsteps)
    | malformed => exact ⟨_, rfl⟩
    | tooDeep => exact ⟨_, rfl⟩
    | unbalanced => exact ⟨_, rfl⟩

/-! ## Loading and its limit -/

/-- Loading ends, whatever the files are and whatever they name: there is no run without end,
and the only run from the start has the outcome of loading. A chain of Include lines over five
files to one with an Include line, and so a cycle, keeps a configuration from loading. The
error lies in a line just when no pattern and no path is refused before; over a tree whose
names lack the character that no path may have, and from a home directory that is known, a
pattern is refused only for having it. The
error that the limit is passed comes about only for an Include line of a file opened at depth
five. -/
theorem include_limit (env : Environment) (root : Path) :
    (WellFounded fun s' s => Step env s s') ∧
    (∀ outcome, Run env (start root) outcome ↔ outcome = errorOf (ofFile env root)) ∧
    (Leads env 5 root.text ∨ LeadsToCycle env root.text →
      ∃ e, ofFile env root = .error e ∧ ((∃ l, e = .line l) ↔
        ∀ t more, Steps env (start root) (t :: more) → ¬ t.Refused env)) ∧
    (env.files.Nameable → ∀ depth argument rest,
      (Task.arguments depth (argument :: rest)).Refused env →
        env.tellsHome = false ∨ Files.nul ∈ includePattern env argument) ∧
    ∀ path number, ofFile env root = .error (.line ⟨path, number, .includeTooDeep⟩) →
      Opens env root 5 path ∧ ∃ value, IncludeAt env path number value := by
  refine ⟨wellFounded_step env, fun outcome => run_start_iff, ?_,
    fun hnames _ _ _ => Task.Refused.nul_mem hnames,
    fun path number => opens_of_includeTooDeep⟩
  intro h
  have hleads : Leads env maxIncludeDepth root.text := h.elim id fun hcycle => hcycle.leads _
  obtain ⟨e, hload⟩ := exists_error_of_leads hleads
  exact ⟨e, hload, error_line_iff hleads.nul hload⟩

/-- A configuration that includes itself for some hosts. -/
def selfIncluding : Environment :=
  sampleEnvironment [sampleFile "config".toList "Host a\n  Include config\n"]

/-- A file whose Include line with this value expands to itself leads to a cycle. -/
theorem leadsToCycle_self {path : Text} {number : Nat} {value argument : Text}
    (hinclude : IncludeAt env path number value) (hlist : arguments? value = some [argument])
    (hexpand : env.files.expand (includePattern env argument) = .ok [path])
    (hkind : env.files.isFile path = .ok true) (hpath : (Path.ofText path).text = path) :
    LeadsToCycle env path := by
  have hnames : Names env path (Path.ofText path).text :=
    ⟨hinclude, hlist, by simp, hexpand, by simp, by rwa [hpath]⟩
  rw [hpath] at hnames
  exact ⟨path, .refl, .single hnames⟩

theorem selfIncluding_cycle : LeadsToCycle selfIncluding samplePath.text := by
  have hmem : (2, "  Include config".toList) ∈ Text.numberedLines
      (textOf (Utf8.encode "Host a\n  Include config\n".toList)) := by
    decide +kernel
  apply @leadsToCycle_self selfIncluding samplePath.text 2 "config".toList "config".toList
  · exact ⟨by decide +kernel, by decide +kernel, hmem, by decide +kernel⟩
  all_goals decide +kernel

/-- A configuration with a pattern that cannot be expanded, before it includes itself. -/
def nulPattern : Environment :=
  sampleEnvironment [sampleFile "config".toList "Include a\x00b/*\nInclude config\n"]

theorem include_limit_samples :
    (∃ e, ofFile selfIncluding samplePath = .error e) ∧
    Opens selfIncluding samplePath 5 samplePath.text ∧
    Files.nul ∈ includePattern nulPattern "a\x00b/*".toList := by
  refine ⟨?_, ?_, ?_⟩
  · obtain ⟨-, -, hends, -⟩ := include_limit selfIncluding samplePath
    obtain ⟨e, hload, -⟩ := hends (Or.inr selfIncluding_cycle)
    exact ⟨e, hload⟩
  · have herror : errorOf (ofFile selfIncluding samplePath)
        = some (.line ⟨samplePath.text, 2, .includeTooDeep⟩) := by
      decide +kernel
    obtain ⟨-, -, -, -, hlimit⟩ := include_limit selfIncluding samplePath
    exact (hlimit samplePath.text 2 (eq_error_of_errorOf herror)).1
  · have hexpand : nulPattern.files.expand (includePattern nulPattern "a\x00b/*".toList)
        = .error ⟨⟩ := by
      decide +kernel
    obtain ⟨-, -, -, hnul, -⟩ := include_limit nulPattern samplePath
    have hhome : nulPattern.tellsHome = true := by decide
    exact (hnul (by unfold Files.Tree.Nameable; decide +kernel) 0 _ []
      (.pattern hhome hexpand)).resolve_left (by simp [hhome])

/-- Its Include lines lead to a cycle, and no path on the way is refused; yet the error does
not lie in a line. -/
theorem nulPattern_badPath : LeadsToCycle nulPattern samplePath.text ∧
    (∀ depth name rest more e,
      Steps nulPattern (start samplePath) (.paths depth (name :: rest) :: more) →
        nulPattern.files.isFile (Path.ofText name).text ≠ .error e) ∧
    ofFile nulPattern samplePath = .error (.badPath ⟨⟩) := by
  have hload : ofFile nulPattern samplePath = .error (.badPath ⟨⟩) :=
    eq_error_of_errorOf (by decide +kernel)
  refine ⟨?_, ?_, hload⟩
  · have hmem : (2, "Include config".toList) ∈ Text.numberedLines
        (textOf (Utf8.encode "Include a\x00b/*\nInclude config\n".toList)) := by
      decide +kernel
    apply @leadsToCycle_self nulPattern samplePath.text 2 "config".toList "config".toList
    · exact ⟨by decide +kernel, by decide +kernel, hmem, by decide +kernel⟩
    all_goals decide +kernel
  · intro depth name rest more e hsteps hkind
    have hrefused : ofFile nulPattern samplePath = .error (.refused e) :=
      ofFile_eq_error_iff.mpr ⟨_, more, hsteps, by rw [Task.step, hkind]⟩
    cases hload.symm.trans hrefused

end SshTunnel.HostConfig
