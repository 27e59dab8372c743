import SshTunnel.Proofs.HostConfig.Reading
import Mathlib.Logic.Relation

/-!
# Loading step by step

Loading as a machine that counts the depth up and is given no bound: it opens files and goes
through their lines, the arguments of Include lines and the paths that these expand to, with
what is left to do on a stack. Every run ends, whatever the files name, and it ends just as
loading does.
-/

namespace SshTunnel.HostConfig

/-- Something left to do. `depth` counts the Include lines that led there. -/
inductive Task where
  | file (depth : Nat) (path : Text)
  | lines (depth : Nat) (path : Text) (rest : List (Nat × Text))
  | arguments (depth : Nat) (rest : List Text)
  | paths (depth : Nat) (rest : List Text)
deriving DecidableEq, Repr

/-- What one step on a task leaves to do in its place. -/
def Task.step (env : Environment) : Task → Except LoadError (List Task)
  | .file depth path =>
      if path.contains Files.nul then .error (.badPath ⟨⟩)
      else
        match env.files.read path with
        | .error _ => .ok []
        | .ok content => .ok [.lines depth path (Text.numberedLines (textOf content))]
  | .lines _ _ [] => .ok []
  | .lines depth path ((number, line) :: rest) =>
      match Statement.ofLine line with
      | .error problem => .error (.line ⟨path, number, problem⟩)
      | .ok (some (.files value)) =>
          if maxIncludeDepth ≤ depth then .error (.line ⟨path, number, .includeTooDeep⟩)
          else
            match arguments? value with
            | none => .error (.line ⟨path, number, .unbalancedQuotes⟩)
            | some list => .ok [.arguments (depth + 1) list, .lines depth path rest]
      | .ok _ => .ok [.lines depth path rest]
  | .arguments _ [] => .ok []
  | .arguments depth (argument :: rest) =>
      match expandArgument env argument with
      | .error e => .error e
      | .ok found => .ok [.paths depth found, .arguments depth rest]
  | .paths _ [] => .ok []
  | .paths depth (name :: rest) =>
      match env.files.isFile (Path.ofText name).text with
      | .error e => .error (.refused e)
      | .ok true => .ok [.file depth (Path.ofText name).text, .paths depth rest]
      | .ok false => .ok [.paths depth rest]

/-- What a step can come to, and what is known then. -/
inductive Task.Yields (env : Environment) : Task → Except LoadError (List Task) → Prop where
  | badPath {depth : Nat} {path : Text} (hnul : path.contains Files.nul = true) :
      Yields env (.file depth path) (.error (.badPath ⟨⟩))
  | unread {depth : Nat} {path : Text} {e : Files.Refusal}
      (hnul : path.contains Files.nul = false) (hread : env.files.read path = .error e) :
      Yields env (.file depth path) (.ok [])
  | opened {depth : Nat} {path : Text} {content : Bytes}
      (hnul : path.contains Files.nul = false) (hread : env.files.read path = .ok content) :
      Yields env (.file depth path)
        (.ok [.lines depth path (Text.numberedLines (textOf content))])
  | noLine {depth : Nat} {path : Text} : Yields env (.lines depth path []) (.ok [])
  | malformed {depth number : Nat} {path line : Text} {rest : List (Nat × Text)}
      {problem : LineProblem} (hline : Statement.ofLine line = .error problem) :
      Yields env (.lines depth path ((number, line) :: rest))
        (.error (.line ⟨path, number, problem⟩))
  | passed {depth number : Nat} {path line : Text} {rest : List (Nat × Text)}
      {statement : Option Statement} (hline : Statement.ofLine line = .ok statement)
      (hfiles : ∀ value, statement ≠ some (.files value)) :
      Yields env (.lines depth path ((number, line) :: rest)) (.ok [.lines depth path rest])
  | tooDeep {depth number : Nat} {path line value : Text} {rest : List (Nat × Text)}
      (hline : Statement.ofLine line = .ok (some (.files value)))
      (hdepth : maxIncludeDepth ≤ depth) :
      Yields env (.lines depth path ((number, line) :: rest))
        (.error (.line ⟨path, number, .includeTooDeep⟩))
  | unbalanced {depth number : Nat} {path line value : Text} {rest : List (Nat × Text)}
      (hline : Statement.ofLine line = .ok (some (.files value)))
      (hdepth : depth < maxIncludeDepth) (hlist : arguments? value = none) :
      Yields env (.lines depth path ((number, line) :: rest))
        (.error (.line ⟨path, number, .unbalancedQuotes⟩))
  | includes {depth number : Nat} {path line value : Text} {rest : List (Nat × Text)}
      {list : List Text} (hline : Statement.ofLine line = .ok (some (.files value)))
      (hdepth : depth < maxIncludeDepth) (hlist : arguments? value = some list) :
      Yields env (.lines depth path ((number, line) :: rest))
        (.ok [.arguments (depth + 1) list, .lines depth path rest])
  | noArgument {depth : Nat} : Yields env (.arguments depth []) (.ok [])
  | unexpanded {depth : Nat} {argument : Text} {rest : List Text} {e : LoadError}
      (hexpand : expandArgument env argument = .error e) :
      Yields env (.arguments depth (argument :: rest)) (.error e)
  | expanded {depth : Nat} {argument : Text} {rest found : List Text}
      (hexpand : expandArgument env argument = .ok found) :
      Yields env (.arguments depth (argument :: rest))
        (.ok [.paths depth found, .arguments depth rest])
  | noPath {depth : Nat} : Yields env (.paths depth []) (.ok [])
  | refused {depth : Nat} {name : Text} {rest : List Text} {e : Files.Refusal}
      (hkind : env.files.isFile (Path.ofText name).text = .error e) :
      Yields env (.paths depth (name :: rest)) (.error (.refused e))
  | present {depth : Nat} {name : Text} {rest : List Text}
      (hkind : env.files.isFile (Path.ofText name).text = .ok true) :
      Yields env (.paths depth (name :: rest))
        (.ok [.file depth (Path.ofText name).text, .paths depth rest])
  | absent {depth : Nat} {name : Text} {rest : List Text}
      (hkind : env.files.isFile (Path.ofText name).text = .ok false) :
      Yields env (.paths depth (name :: rest)) (.ok [.paths depth rest])

/-- Every step comes to one of these. -/
theorem Task.step_yields (env : Environment) (t : Task) : t.Yields env (t.step env) := by
  cases t with
  | file depth path =>
      rw [step]
      cases hnul : path.contains Files.nul with
      | true => exact .badPath hnul
      | false =>
          rw [if_neg Bool.false_ne_true]
          cases hread : env.files.read path with
          | error e => exact .unread hnul hread
          | ok content => exact .opened hnul hread
  | lines depth path rest =>
      obtain _ | ⟨⟨number, line⟩, rest⟩ := rest
      · exact .noLine
      · rw [step]
        cases hline : Statement.ofLine line with
        | error problem => exact .malformed hline
        | ok statement =>
            rcases statement with - | patterns | value | d
            · exact .passed hline (by simp)
            · exact .passed hline (by simp)
            · simp only
              split
              next hdepth => exact .tooDeep hline hdepth
              next hdepth =>
                cases hlist : arguments? value with
                | none => exact .unbalanced hline (Nat.lt_of_not_le hdepth) hlist
                | some list => exact .includes hline (Nat.lt_of_not_le hdepth) hlist
            · exact .passed hline (by simp)
  | arguments depth rest =>
      obtain _ | ⟨argument, rest⟩ := rest
      · exact .noArgument
      · rw [step]
        cases hexpand : expandArgument env argument with
        | error e => exact .unexpanded hexpand
        | ok found => exact .expanded hexpand
  | paths depth rest =>
      obtain _ | ⟨name, rest⟩ := rest
      · exact .noPath
      · rw [step]
        cases hkind : env.files.isFile (Path.ofText name).text with
        | error e => exact .refused hkind
        | ok isFile =>
            cases isFile with
            | true => exact .present hkind
            | false => exact .absent hkind

variable {env : Environment}

theorem Task.yields_of_step {t : Task} {out : Except LoadError (List Task)}
    (h : t.step env = out) : t.Yields env out := h ▸ t.step_yields env

/-- One step of the machine: what the first task leaves to do comes before the other tasks. -/
inductive Step (env : Environment) : List Task → List Task → Prop where
  | replace {t : Task} {more new : List Task} (h : t.step env = .ok new) :
      Step env (t :: more) (new ++ more)

/-- The states that come after a state. -/
abbrev Steps (env : Environment) : List Task → List Task → Prop :=
  Relation.ReflTransGen (Step env)

/-- A run from a state to its end: nothing is left to do, or a task fails. -/
inductive Run (env : Environment) : List Task → Option LoadError → Prop where
  | done : Run env [] none
  | fails {t : Task} {more : List Task} {e : LoadError} (h : t.step env = .error e) :
      Run env (t :: more) (some e)
  | goesOn {s s' : List Task} {outcome : Option LoadError} (h : Step env s s')
      (hrest : Run env s' outcome) : Run env s outcome

/-! ## Every run ends -/

/-- There are only finitely many steps from a state on. -/
abbrev Ends (env : Environment) : List Task → Prop := Acc fun s' s => Step env s s'

/-- A task is done after finitely many steps: with it on top a state ends if it ends without. -/
def Task.Halts (env : Environment) (t : Task) : Prop :=
  ∀ more, Ends env more → Ends env (t :: more)

theorem ends_append {tasks more : List Task} (h : ∀ t ∈ tasks, t.Halts env)
    (hmore : Ends env more) : Ends env (tasks ++ more) := by
  induction tasks with
  | nil => exact hmore
  | cons t tasks ih => exact h t (by simp) _ (ih fun t' ht' => h t' (by simp [ht']))

/-- A task halts when all that a step leaves to do halts. -/
theorem Task.halts_of_yields {t : Task}
    (h : ∀ new, t.Yields env (.ok new) → ∀ t' ∈ new, t'.Halts env) : t.Halts env := by
  intro more hmore
  constructor
  rintro s' ⟨hstep⟩
  exact ends_append (h _ (yields_of_step hstep)) hmore

section Halting

variable {depth : Nat}

theorem halts_paths (hfile : ∀ path, (Task.file depth path).Halts env) (found : List Text) :
    (Task.paths depth found).Halts env := by
  induction found with
  | nil =>
      apply Task.halts_of_yields
      rintro new ⟨⟩
      simp
  | cons name found ih =>
      apply Task.halts_of_yields
      intro new hyields
      cases hyields with
      | present => simpa using ⟨hfile _, ih⟩
      | absent => simpa using ih

theorem halts_arguments (hfile : ∀ path, (Task.file depth path).Halts env)
    (list : List Text) : (Task.arguments depth list).Halts env := by
  induction list with
  | nil =>
      apply Task.halts_of_yields
      rintro new ⟨⟩
      simp
  | cons argument list ih =>
      apply Task.halts_of_yields
      intro new hyields
      cases hyields with
      | expanded => simpa using ⟨halts_paths hfile _, ih⟩

theorem halts_lines (hfile : depth < maxIncludeDepth →
      ∀ path, (Task.file (depth + 1) path).Halts env)
    (path : Text) (lines : List (Nat × Text)) : (Task.lines depth path lines).Halts env := by
  induction lines with
  | nil =>
      apply Task.halts_of_yields
      rintro new ⟨⟩
      simp
  | cons numbered lines ih =>
      apply Task.halts_of_yields
      intro new hyields
      cases hyields with
      | passed => simpa using ih
      | includes _ hdepth => simpa using ⟨halts_arguments (hfile hdepth) _, ih⟩

theorem halts_opened (hfile : depth < maxIncludeDepth →
      ∀ path, (Task.file (depth + 1) path).Halts env) (path : Text) :
    (Task.file depth path).Halts env := by
  apply Task.halts_of_yields
  intro new hyields
  cases hyields with
  | unread => simp
  | opened => simpa using halts_lines hfile path _

end Halting

theorem halts_file (depth : Nat) (path : Text) : (Task.file depth path).Halts env := by
  -- The induction is on the depth that is left: at the limit no file is named any more.
  induction hleft : maxIncludeDepth - depth generalizing depth path with
  | zero => exact halts_opened (fun hdepth => absurd hdepth (by omega)) path
  | succ left ih => exact halts_opened (fun _ path => ih (depth + 1) path (by omega)) path

theorem Task.halts (t : Task) : t.Halts env := by
  cases t with
  | file depth path => exact halts_file depth path
  | lines depth path rest => exact halts_lines (fun _ => halts_file (depth + 1)) path rest
  | arguments depth rest => exact halts_arguments (halts_file depth) rest
  | paths depth rest => exact halts_paths (halts_file depth) rest

/-- No run goes on forever, from whatever state. -/
theorem wellFounded_step (env : Environment) : WellFounded fun s' s => Step env s s' := by
  constructor
  intro s
  have hdone : Ends env [] := ⟨_, fun s' h => nomatch h⟩
  simpa using ends_append (fun t _ => t.halts) hdone

theorem exists_run (env : Environment) (s : List Task) : ∃ outcome, Run env s outcome := by
  induction s using (wellFounded_step env).induction with
  | _ s ih =>
      cases s with
      | nil => exact ⟨none, .done⟩
      | cons t more =>
          cases hstep : t.step env with
          | error e => exact ⟨some e, .fails hstep⟩
          | ok new =>
              obtain ⟨outcome, hrun⟩ := ih _ (.replace hstep)
              exact ⟨outcome, .goesOn (.replace hstep) hrun⟩

/-! ## A run ends just as loading does -/

/-- What an Include line puts in front of the rest of its file, when its files may name others
`left` times. -/
def brings (env : Environment) : Nat → Text → Nat → Text → Reading → Reading
  | 0, path, number, _, rest => .problem (.line ⟨path, number, .includeTooDeep⟩) rest
  | left + 1, path, number, value, rest =>
      .ofItems (reading env left) rest (included env path number value)

theorem reading_eq (env : Environment) (left : Nat) :
    reading env left = Reading.ofFile env.files (brings env left) := by
  cases left <;> rfl

/-- The file that an expanded path is, or what goes wrong on the way to it. -/
def fileAt (env : Environment) (name : Text) : Option (Except LoadError Text) :=
  match env.files.isFile (Path.ofText name).text with
  | .error e => some (.error (.refused e))
  | .ok true => some (.ok (Path.ofText name).text)
  | .ok false => none

/-- The first problem of files that are read one after the other. -/
def itemsProblem? (body : Text → Reading) (items : List (Except LoadError Text)) :
    Option LoadError :=
  items.findSome? fun
    | .ok path => (body path).problem?
    | .error e => some e

theorem findSome?_cons_or {α β : Type} (f : α → Option β) (x : α) (xs : List α) :
    (x :: xs).findSome? f = (f x).or (xs.findSome? f) := by
  rw [List.findSome?_cons]
  cases f x <;> rfl

theorem itemsProblem?_ok (body : Text → Reading) (path : Text)
    (items : List (Except LoadError Text)) :
    itemsProblem? body (.ok path :: items) = (body path).problem?.or (itemsProblem? body items) :=
  findSome?_cons_or _ _ _

theorem problem?_ofItems_or (body : Text → Reading) (rest : Reading)
    (items : List (Except LoadError Text)) :
    (Reading.ofItems body rest items).problem? = (itemsProblem? body items).or rest.problem? := by
  induction items with
  | nil => rfl
  | cons item items ih =>
      cases item with
      | error e => rfl
      | ok path =>
          rw [Reading.ofItems, Reading.problem?, ih, ← Option.or_assoc, itemsProblem?_ok]

/-- The first problem that a task comes to. -/
def Task.problem? (env : Environment) : Task → Option LoadError
  | .file depth path => (reading env (maxIncludeDepth - depth) path).problem?
  | .lines depth path rest =>
      (Reading.ofLines path (brings env (maxIncludeDepth - depth) path) rest).problem?
  | .arguments depth rest =>
      itemsProblem? (reading env (maxIncludeDepth - depth)) (rest.flatMap (named env))
  | .paths depth rest =>
      itemsProblem? (reading env (maxIncludeDepth - depth)) (rest.filterMap (fileAt env))

/-- The first problem of a step, or of what it leaves to do. -/
def problemOf (env : Environment) : Except LoadError (List Task) → Option LoadError
  | .error e => some e
  | .ok new => new.findSome? (Task.problem? env)

theorem problemOf_two (t u : Task) :
    problemOf env (.ok [t, u]) = (t.problem? env).or (u.problem? env) := by
  rw [problemOf, findSome?_cons_or, List.findSome?_singleton]

theorem named_eq {argument : Text} {found : List Text}
    (h : expandArgument env argument = .ok found) :
    named env argument = found.filterMap (fileAt env) := by
  rw [named, h]
  rfl

/-- The first problem from an Include line on is one of its files, or else of the lines
behind it. -/
theorem problem?_include {depth number : Nat} {path line value : Text}
    {rest : List (Nat × Text)} (hline : Statement.ofLine line = .ok (some (.files value)))
    (hdepth : depth < maxIncludeDepth) :
    (Task.lines depth path ((number, line) :: rest)).problem? env =
      (itemsProblem? (reading env (maxIncludeDepth - (depth + 1)))
        (included env path number value)).or ((Task.lines depth path rest).problem? env) := by
  have hleft : maxIncludeDepth - depth = maxIncludeDepth - (depth + 1) + 1 := by omega
  simp only [Task.problem?, Reading.ofLines, hline, hleft, brings, problem?_ofItems_or]

/-- A step does not change what the first problem is. -/
theorem Task.problem?_of_yields {t : Task} {out : Except LoadError (List Task)}
    (h : t.Yields env out) : t.problem? env = problemOf env out := by
  cases h with
  | badPath hnul =>
      rw [problem?, reading_eq, Reading.ofFile, if_pos hnul]
      rfl
  | unread hnul hread =>
      simp only [problem?, reading_eq, Reading.ofFile, hnul, Bool.false_eq_true, if_false, hread]
      rfl
  | opened hnul hread =>
      simp only [problem?, reading_eq, Reading.ofFile, hnul, Bool.false_eq_true, if_false, hread,
        problemOf, List.findSome?_singleton]
  | noLine => rfl
  | malformed hline =>
      simp only [problem?, Reading.ofLines, hline]
      rfl
  | @passed _ _ _ _ _ statement hline hfiles =>
      simp only [problem?, Reading.ofLines, hline, problemOf, List.findSome?_singleton]
      rcases statement with - | patterns | value | d
      · rfl
      · rfl
      · exact absurd rfl (hfiles value)
      · rfl
  | tooDeep hline hdepth =>
      have hleft : maxIncludeDepth - _ = 0 := Nat.sub_eq_zero_of_le hdepth
      simp only [problem?, Reading.ofLines, hline, hleft]
      rfl
  | unbalanced hline hdepth hlist =>
      rw [problem?_include hline hdepth, included, hlist]
      rfl
  | includes hline hdepth hlist =>
      rw [problem?_include hline hdepth, included, hlist, problemOf_two]
      rfl
  | noArgument => rfl
  | unexpanded hexpand =>
      rw [problem?, List.flatMap_cons, named, hexpand]
      rfl
  | expanded hexpand =>
      rw [problem?, List.flatMap_cons, named_eq hexpand, problemOf_two, itemsProblem?,
        List.findSome?_append]
      rfl
  | noPath => rfl
  | refused hkind =>
      rw [problem?, List.filterMap_cons, fileAt, hkind]
      rfl
  | present hkind =>
      rw [problem?, List.filterMap_cons, fileAt, hkind, problemOf_two, itemsProblem?_ok]
      rfl
  | absent hkind =>
      rw [problem?, List.filterMap_cons, fileAt, hkind, problemOf, List.findSome?_singleton]
      rfl

/-- A run ends with the first problem of what is left to do, or with none. -/
theorem run_outcome {s : List Task} {outcome : Option LoadError} (h : Run env s outcome) :
    outcome = s.findSome? (Task.problem? env) := by
  induction h with
  | done => rfl
  | fails hstep =>
      rw [List.findSome?_cons, Task.problem?_of_yields (Task.yields_of_step hstep)]
      rfl
  | goesOn hstep _ ih =>
      obtain ⟨hstep⟩ := hstep
      rw [ih, List.findSome?_append, findSome?_cons_or,
        Task.problem?_of_yields (Task.yields_of_step hstep), problemOf]

theorem run_iff {s : List Task} {outcome : Option LoadError} :
    Run env s outcome ↔ outcome = s.findSome? (Task.problem? env) := by
  constructor
  · exact run_outcome
  · rintro rfl
    obtain ⟨outcome, hrun⟩ := exists_run env s
    exact run_outcome hrun ▸ hrun

/-- The state that loading the configuration at a path starts from. -/
def start (root : Path) : List Task := [.file 0 root.text]

/-- Loading ends with the outcome of a run from its start. -/
theorem run_start_iff {root : Path} {outcome : Option LoadError} :
    Run env (start root) outcome ↔ outcome = errorOf (ofFile env root) := by
  rw [run_iff, start, List.findSome?_singleton, Task.problem?, Nat.sub_zero,
    problem?_reading env _ [], ofFile, errorOf_map]

/-- A run that fails comes to a task that fails. -/
theorem run_error_iff {s : List Task} {e : LoadError} : Run env s (some e) ↔
    ∃ t more, Steps env s (t :: more) ∧ t.step env = .error e := by
  constructor
  · intro h
    generalize hout : some e = outcome at h
    induction h with
    | done => cases hout
    | fails hstep =>
        cases hout
        exact ⟨_, _, .refl, hstep⟩
    | goesOn hstep _ ih =>
        obtain ⟨t, more, hsteps, hfails⟩ := ih hout
        exact ⟨t, more, .head hstep hsteps, hfails⟩
  · rintro ⟨t, more, hsteps, hfails⟩
    induction hsteps using Relation.ReflTransGen.head_induction_on with
    | refl => exact .fails hfails
    | head hstep _ ih => exact .goesOn hstep ih

theorem eq_error_of_errorOf {α : Type} {outcome : Except LoadError α} {e : LoadError}
    (h : errorOf outcome = some e) : outcome = .error e := by
  cases outcome with
  | ok _ => cases h
  | error e' => rw [Option.some.inj h]

/-- Loading fails with the error of a task that it comes to. -/
theorem ofFile_eq_error_iff {root : Path} {e : LoadError} : ofFile env root = .error e ↔
    ∃ t more, Steps env (start root) (t :: more) ∧ t.step env = .error e := by
  rw [← run_error_iff, run_start_iff]
  cases ofFile env root <;> simp [errorOf, eq_comm]

end SshTunnel.HostConfig
