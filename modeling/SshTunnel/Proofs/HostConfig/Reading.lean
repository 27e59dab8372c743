import SshTunnel.HostConfig.Load
import SshTunnel.Proofs.Result

/-!
# Reading a tree of configuration files

A `Reading` is what is met while a file is read, in order, with the files of an Include line
in its place. Loading stops at the first problem of the reading, and there is none when it
succeeds.

## Implementation notes

The files that one Include line names stand one behind the other, and `resume` marks where the
including file goes on. So the type needs no lists of readings, and each fact about it is a
plain induction.
-/

namespace SshTunnel.HostConfig

/-- What is met in a file from some line on. -/
inductive Reading where
  | done
  | problem (e : LoadError) (rest : Reading)
  | host (patterns : List Text) (rest : Reading)
  | directive (d : Directive) (rest : Reading)
  | file (body rest : Reading)
  | resume (rest : Reading)

/-- A directive line with the pattern lists of the Host lines that govern it: those above the
Include lines that led to its file, outermost first, and the one above it in its file. -/
structure Governed where
  scope : Scope
  directive : Directive
deriving DecidableEq, Repr

namespace Reading

/-- The first problem. -/
def problem? : Reading → Option LoadError
  | done => none
  | problem e _ => some e
  | host _ rest => rest.problem?
  | directive _ rest => rest.problem?
  | file body rest => body.problem?.or rest.problem?
  | resume rest => rest.problem?

/-- The directive lines in reading order, in a file that is read for `outer`; `above` is the
pattern list of the Host line above in this file, if there is one. -/
def lines (outer : Scope) (above : Option (List Text)) : Reading → List Governed
  | done => []
  | problem _ rest => rest.lines outer above
  | host patterns rest => rest.lines outer (some patterns)
  | directive d rest => ⟨outer ++ above.toList, d⟩ :: rest.lines outer above
  | file body rest => body.lines (outer ++ above.toList) none ++ rest.lines outer above
  | resume rest => rest.lines outer above

/-- The files and problems of an Include line in front of the rest of its file. -/
def ofItems (body : Text → Reading) (rest : Reading) : List (Except LoadError Text) → Reading
  | [] => resume rest
  | .ok path :: more => file (body path) (ofItems body rest more)
  | .error e :: more => problem e (ofItems body rest more)

/-- The reading of numbered lines. `includes` puts what an Include line names in front of the
rest of the file. -/
def ofLines (path : Text) (includes : Nat → Text → Reading → Reading) :
    List (Nat × Text) → Reading
  | [] => done
  | (number, line) :: rest =>
      match Statement.ofLine line with
      | .error e => problem (.line ⟨path, number, e⟩) (ofLines path includes rest)
      | .ok none => ofLines path includes rest
      | .ok (some (.host patterns)) => host patterns (ofLines path includes rest)
      | .ok (some (.directive d)) => directive d (ofLines path includes rest)
      | .ok (some (.files arguments)) => includes number arguments (ofLines path includes rest)

/-- The reading of the file at a path. -/
def ofFile (files : Files.Tree) (includes : Text → Nat → Text → Reading → Reading)
    (path : Text) : Reading :=
  if path.contains Files.nul then problem (.badPath ⟨⟩) done
  else
    match files.read path with
    | .error _ => done
    | .ok content => ofLines path (includes path) (Text.numberedLines (textOf content))

end Reading

theorem expandArgument_told {env : Environment} (h : env.tellsHome = true) (argument : Text) :
    expandArgument env argument =
      (env.files.expand (includePattern env argument)).mapError .badPath :=
  if_pos h

theorem expandArgument_homeless {env : Environment} (h : env.tellsHome = false)
    (argument : Text) : expandArgument env argument = .error (.noHome ⟨⟩) := by
  rw [expandArgument, h, if_neg Bool.false_ne_true]

/-- What goes wrong with an argument does not lie in a line. -/
theorem expandArgument_ne_line (env : Environment) (argument : Text) (l : LineError) :
    expandArgument env argument ≠ .error (.line l) := by
  rw [expandArgument]
  split
  · intro h
    obtain ⟨p, -, hline⟩ := mapError_eq_error_iff.mp h
    cases hline
  · simp

theorem expandArgument_eq_ok_iff {env : Environment} {argument : Text} {found : List Text} :
    expandArgument env argument = .ok found ↔
      env.tellsHome = true ∧ env.files.expand (includePattern env argument) = .ok found := by
  cases hhome : env.tellsHome with
  | false => simp [expandArgument_homeless hhome]
  | true =>
      rw [expandArgument_told hhome, mapError_eq_ok_iff]
      exact (and_iff_right rfl).symm

/-- The files that one argument of an Include line names, in alphabetic order, and what goes
wrong on the way to them. -/
def named (env : Environment) (argument : Text) : List (Except LoadError Text) :=
  match expandArgument env argument with
  | .error e => [.error e]
  | .ok found =>
      found.filterMap fun t =>
        let path := (Path.ofText t).text
        match env.files.isFile path with
        | .error e => some (.error (.refused e))
        | .ok true => some (.ok path)
        | .ok false => none

/-- The files that an Include line names, its arguments from left to right. -/
def included (env : Environment) (path : Text) (number : Nat) (arguments : Text) :
    List (Except LoadError Text) :=
  match arguments? arguments with
  | none => [.error (.line ⟨path, number, .unbalancedQuotes⟩)]
  | some list => list.flatMap (named env)

/-- The reading of the file at a path; Include lines may go `depth` files deeper. -/
def reading (env : Environment) : Nat → Text → Reading
  | 0 =>
      Reading.ofFile env.files fun path number _ rest =>
        .problem (.line ⟨path, number, .includeTooDeep⟩) rest
  | depth + 1 =>
      Reading.ofFile env.files fun path number arguments rest =>
        Reading.ofItems (reading env depth) rest (included env path number arguments)

/-! ## What an Include line gathers -/

@[simp] theorem empty_append (c : Contents) : Contents.empty.append c = c := by
  cases c
  simp [Contents.empty, Contents.append]

theorem append_assoc (a b c : Contents) : (a.append b).append c = a.append (b.append c) := by
  simp [Contents.append]

section Gather

variable {α β : Type}

theorem gather_cons_eq_ok {f : α → Except LoadError Contents} {x : α} {xs : List α}
    {c : Contents} :
    gather f (x :: xs) = .ok c ↔
      ∃ a b, f x = .ok a ∧ gather f xs = .ok b ∧ c = a.append b := by
  rw [gather]
  cases f x with
  | error e => simp [Except.bind]
  | ok a => cases gather f xs <;> simp [Except.bind, Except.map, eq_comm]

theorem gather_append (f : α → Except LoadError Contents) (xs ys : List α) :
    gather f (xs ++ ys) = (gather f xs).bind fun c => (gather f ys).map c.append := by
  induction xs with
  | nil => cases h : gather f ys <;> simp [gather, h, Except.bind, Except.map]
  | cons x xs ih =>
      simp only [List.cons_append, gather, ih]
      cases f x with
      | error e => rfl
      | ok c =>
          cases gather f xs with
          | error e => rfl
          | ok c' => cases gather f ys <;> simp [Except.bind, Except.map, append_assoc]

theorem gather_flatMap (f : β → Except LoadError Contents) (g : α → List β) (xs : List α) :
    gather f (xs.flatMap g) = gather (fun x => gather f (g x)) xs := by
  induction xs with
  | nil => rfl
  | cons x xs ih => rw [List.flatMap_cons, gather_append, ih, gather]

theorem gather_congr {f g : α → Except LoadError Contents} {xs : List α}
    (h : ∀ x ∈ xs, f x = g x) : gather f xs = gather g xs := by
  induction xs with
  | nil => rfl
  | cons x xs ih =>
      rw [gather, gather, h x (by simp), ih fun y hy => h y (by simp [hy])]

end Gather

/-- Reads a file, or fails with the problem that stands in its place. -/
def loadItem (load : Text → Except LoadError Contents) :
    Except LoadError Text → Except LoadError Contents
  | .ok path => load path
  | .error e => .error e

theorem readArgument_eq (env : Environment) (load : Text → Except LoadError Contents)
    (argument : Text) :
    readArgument env load argument = gather (loadItem load) (named env argument) := by
  unfold readArgument named
  cases expandArgument env argument with
  | error e => rfl
  | ok found =>
      simp only [Except.bind]
      induction found with
      | nil => rfl
      | cons t found ih =>
          rw [gather, ih, List.filterMap_cons]
          simp only [readFound]
          cases env.files.isFile (Path.ofText t).text with
          | error e => rfl
          | ok isFile =>
              cases isFile with
              | true => rfl
              | false =>
                  cases gather (loadItem load) _ <;> simp [Except.bind, Except.map]

theorem readIncluded_eq (env : Environment) (load : Scope → Text → Except LoadError Contents)
    (path : Text) (scope : Scope) (number : Nat) (arguments : Text) :
    readIncluded env load path scope number arguments
      = gather (loadItem (load scope)) (included env path number arguments) := by
  unfold readIncluded included
  cases arguments? arguments with
  | none => rfl
  | some list =>
      simp only [gather_flatMap]
      exact gather_congr fun argument _ => readArgument_eq env (load scope) argument

/-! ## The first problem -/

/-- The error of an outcome. -/
def errorOf {α : Type} : Except LoadError α → Option LoadError
  | .error e => some e
  | .ok _ => none

theorem errorOf_map {α β : Type} (f : α → β) (outcome : Except LoadError α) :
    errorOf (outcome.map f) = errorOf outcome := by
  cases outcome <;> rfl

theorem problem?_ofItems {load : Text → Except LoadError Contents} {body : Text → Reading}
    (hbody : ∀ path, (body path).problem? = errorOf (load path)) (rest : Reading)
    (items : List (Except LoadError Text)) :
    (Reading.ofItems body rest items).problem?
      = (errorOf (gather (loadItem load) items)).or rest.problem? := by
  induction items with
  | nil => rfl
  | cons item items ih =>
      cases item with
      | error e => rfl
      | ok path =>
          rw [Reading.ofItems, Reading.problem?, ih, hbody, gather, loadItem]
          cases load path with
          | error e => rfl
          | ok c =>
              rw [Except.bind, errorOf_map]
              rfl

theorem problem?_ofLines {path : Text} {outer : Scope}
    {includes : Scope → Nat → Text → Except LoadError Contents}
    {bring : Nat → Text → Reading → Reading}
    (hbring : ∀ scope number arguments rest, (bring number arguments rest).problem?
      = (errorOf (includes scope number arguments)).or rest.problem?)
    (lines : List (Nat × Text)) (p : Progress) :
    (Reading.ofLines path bring lines).problem?
      = errorOf (readLines path outer includes p lines) := by
  induction lines generalizing p with
  | nil => rfl
  | cons numbered lines ih =>
      obtain ⟨number, line⟩ := numbered
      rw [readLines, Reading.ofLines]
      cases Statement.ofLine line with
      | error problem => rfl
      | ok statement =>
          rcases statement with - | patterns | arguments | d
          · exact ih p
          · exact ih (p.openSection (outer ++ [patterns]))
          · simp only [hbring (p.scope outer)]
            cases includes (p.scope outer) number arguments with
            | error e => rfl
            | ok c => exact ih (p.takeIn outer c)
          · exact ih (p.add [d])

theorem problem?_ofFile {files : Files.Tree} {outer : Scope}
    {includes : Text → Scope → Nat → Text → Except LoadError Contents}
    {bring : Text → Nat → Text → Reading → Reading}
    (hbring : ∀ path scope number arguments rest, (bring path number arguments rest).problem?
      = (errorOf (includes path scope number arguments)).or rest.problem?) (path : Text) :
    (Reading.ofFile files bring path).problem?
      = errorOf (readFile files includes outer path) := by
  rw [Reading.ofFile, readFile]
  split
  · rfl
  · cases files.read path with
    | error e => rfl
    | ok content =>
        simp only [readText, errorOf_map]
        exact problem?_ofLines (hbring path) _ Progress.start

/-- Loading fails with the first problem of the reading, or not at all. -/
theorem problem?_reading (env : Environment) (depth : Nat) (outer : Scope) (path : Text) :
    (reading env depth path).problem? = errorOf (load env depth outer path) := by
  induction depth generalizing outer path with
  | zero =>
      apply problem?_ofFile
      intro path scope number arguments rest
      rfl
  | succ depth ih =>
      apply problem?_ofFile
      intro path scope number arguments rest
      rw [readIncluded_eq]
      exact problem?_ofItems (fun path => ih scope path) rest _

end SshTunnel.HostConfig
