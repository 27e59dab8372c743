import SshTunnel.Proofs.Files.Alike
import SshTunnel.Proofs.HostConfig.Reading
import Mathlib.Data.List.Forall2

/-!
# Configurations that are alike

A `Likeness` says which patterns, directives and problems of lines count as alike. Files that are
alike line by line are loaded with alike outcomes: both succeed with contents of one form and
alike parts, or both fail at the same line with alike problems. So a line can be exchanged for one
that says alike things.
-/

namespace SshTunnel

/-- The environment with another content for the file at a place. -/
def Environment.withContent (env : Environment) (place : Files.Location) (content : Bytes) :
    Environment := { env with files := env.files.setContent place content }

namespace HostConfig

/-- What counts as alike; everything is like itself. -/
structure Likeness where
  problem : LineProblem → LineProblem → Prop
  patterns : List Text → List Text → Prop
  directive : Directive → Directive → Prop
  problem_refl : ∀ p, problem p p
  patterns_refl : ∀ ps, patterns ps ps
  directive_refl : ∀ d, directive d d

/-- Two Include lines with these arguments name the same files, wherever they stand. -/
def NameAlike (env : Environment) (a b : Text) : Prop :=
  ∀ path number, included env path number a = included env path number b

/-- The new content has one line of the file at a place exchanged for another one. -/
def Exchanges (env : Environment) (place : Files.Location) (content : Bytes)
    (line line' : Text) : Prop :=
  ∃ old before after, env.files.node? place = some (.file old) ∧
    Text.lines (textOf old) = before ++ line :: after ∧
    Text.lines (textOf content) = before ++ line' :: after

/-- Which files an argument names does not depend on what they contain. -/
theorem named_alike {R : Bytes → Bytes → Prop} {env : Environment} {files : Files.Tree}
    (hfiles : Files.Tree.Alike R env.files files) :
    named { env with files := files } = named env := by
  funext argument
  unfold named expandArgument
  simp only [hfiles.expand, hfiles.isFile]
  rfl

theorem included_alike {R : Bytes → Bytes → Prop} {env : Environment} {files : Files.Tree}
    (hfiles : Files.Tree.Alike R env.files files) :
    included { env with files := files } = included env := by
  funext path number arguments
  unfold included
  rw [named_alike hfiles]

namespace Likeness

variable (L : Likeness)

structure Sections (s s' : Section) : Prop where
  scope : List.Forall₂ L.patterns s.scope s'.scope
  directives : List.Forall₂ L.directive s.directives s'.directives

structure Contents (c c' : HostConfig.Contents) : Prop where
  top : List.Forall₂ L.directive c.top c'.top
  sections : List.Forall₂ L.Sections c.sections c'.sections

structure Progress (p q : HostConfig.Progress) : Prop where
  contents : L.Contents p.contents q.contents
  inTop : p.inTop = q.inTop

/-- Errors at the same place. -/
inductive Errors : LoadError → LoadError → Prop where
  | line {path : Text} {number : Nat} {p q : LineProblem} (h : L.problem p q) :
      Errors (.line ⟨path, number, p⟩) (.line ⟨path, number, q⟩)
  | same (e : LoadError) : Errors e e

/-- Both fail, or both succeed with related results. -/
inductive Outcomes {α : Type} (R : α → α → Prop) :
    Except LoadError α → Except LoadError α → Prop where
  | failed {e e' : LoadError} (h : L.Errors e e') : Outcomes R (.error e) (.error e')
  | loaded {a b : α} (h : R a b) : Outcomes R (.ok a) (.ok b)

/-- What two lines say is of one kind, with alike parts. -/
inductive Said (env : Environment) : Except LineProblem (Option Statement) →
    Except LineProblem (Option Statement) → Prop where
  | problem {p q : LineProblem} (h : L.problem p q) : Said env (.error p) (.error q)
  | nothing : Said env (.ok none) (.ok none)
  | host {ps qs : List Text} (h : L.patterns ps qs) :
      Said env (.ok (some (.host ps))) (.ok (some (.host qs)))
  | files {a b : Text} (h : NameAlike env a b) :
      Said env (.ok (some (.files a))) (.ok (some (.files b)))
  | directive {d d' : Directive} (h : L.directive d d') :
      Said env (.ok (some (.directive d))) (.ok (some (.directive d')))

/-- The lines say alike things. -/
def Lines (env : Environment) (line line' : Text) : Prop :=
  L.Said env (Statement.ofLine line) (Statement.ofLine line')

/-- The contents of a file are alike line by line. -/
def Texts (env : Environment) (c c' : Bytes) : Prop :=
  List.Forall₂ (L.Lines env) (Text.lines (textOf c)) (Text.lines (textOf c'))

theorem lines_refl (env : Environment) (line : Text) : L.Lines env line line := by
  unfold Lines
  rcases Statement.ofLine line with p | - | ps | a | d
  · exact .problem (L.problem_refl p)
  · exact .nothing
  · exact .host (L.patterns_refl ps)
  · exact .files fun path number => rfl
  · exact .directive (L.directive_refl d)

variable {L}

theorem Outcomes.map {α β : Type} {R : α → α → Prop} {S : β → β → Prop} {f g : α → β}
    (hfg : ∀ a b, R a b → S (f a) (g b)) {x y : Except LoadError α} (h : L.Outcomes R x y) :
    L.Outcomes S (x.map f) (y.map g) := by
  cases h with
  | failed h => exact .failed h
  | loaded h => exact .loaded (hfg _ _ h)

/-! ## Contents -/

theorem Contents.append {a b a' b' : HostConfig.Contents} (ha : L.Contents a a')
    (hb : L.Contents b b') : L.Contents (a.append b) (a'.append b') :=
  ⟨List.rel_append ha.top hb.top, List.rel_append ha.sections hb.sections⟩

theorem Contents.empty : L.Contents Contents.empty Contents.empty := ⟨.nil, .nil⟩

theorem Outcomes.gather {α : Type} {f g : α → Except LoadError HostConfig.Contents}
    (h : ∀ x, L.Outcomes L.Contents (f x) (g x)) (xs : List α) :
    L.Outcomes L.Contents (gather f xs) (HostConfig.gather g xs) := by
  induction xs with
  | nil => exact .loaded Contents.empty
  | cons x xs ih =>
      rw [HostConfig.gather, HostConfig.gather]
      have hx := h x
      generalize f x = fx, g x = gx at hx
      cases hx with
      | failed he => exact .failed he
      | loaded hc => exact ih.map fun a b hab => hc.append hab

/-! ## Steps -/

namespace Progress

variable {p q : HostConfig.Progress} {outer outer' : Scope}

theorem start : L.Progress Progress.start Progress.start := ⟨Contents.empty, rfl⟩

theorem scope (h : L.Progress p q) (houter : List.Forall₂ L.patterns outer outer') :
    List.Forall₂ L.patterns (p.scope outer) (q.scope outer') := by
  unfold HostConfig.Progress.scope
  rw [h.inTop]
  split
  · exact houter
  · have hreverse := List.forall₂_reverse_iff.mpr h.contents.sections
    rw [List.getLast?_eq_head?_reverse, List.getLast?_eq_head?_reverse]
    generalize p.contents.sections.reverse = xs, q.contents.sections.reverse = ys at hreverse
    cases hreverse with
    | nil => exact houter
    | cons hs _ => exact hs.scope

theorem onLast_alike {f g : Section → Section}
    (hfg : ∀ s s', L.Sections s s' → L.Sections (f s) (g s')) {xs ys : List Section}
    (h : List.Forall₂ L.Sections xs ys) :
    List.Forall₂ L.Sections (onLast f xs) (onLast g ys) := by
  induction h with
  | nil => exact .nil
  | cons hs hmore ih =>
      cases hmore with
      | nil => exact .cons (hfg _ _ hs) .nil
      | cons => exact .cons hs ih

theorem add (h : L.Progress p q) {ds es : List Directive} (hds : List.Forall₂ L.directive ds es) :
    L.Progress (p.add ds) (q.add es) := by
  unfold HostConfig.Progress.add
  rw [h.inTop]
  split
  · exact ⟨⟨List.rel_append h.contents.top hds, h.contents.sections⟩, rfl⟩
  · refine ⟨⟨h.contents.top, onLast_alike ?_ h.contents.sections⟩, rfl⟩
    intro s s' hs
    exact ⟨hs.scope, List.rel_append hs.directives hds⟩

theorem openSection (h : L.Progress p q) {scope scope' : Scope}
    (hscope : List.Forall₂ L.patterns scope scope') :
    L.Progress (p.openSection scope) (q.openSection scope') :=
  ⟨⟨h.contents.top, List.rel_append h.contents.sections (.cons ⟨hscope, .nil⟩ .nil)⟩, rfl⟩

theorem takeIn (h : L.Progress p q) (houter : List.Forall₂ L.patterns outer outer')
    {c c' : HostConfig.Contents} (hc : L.Contents c c') :
    L.Progress (p.takeIn outer c) (q.takeIn outer' c') := by
  have hadd := h.add hc.top
  have hempty : outer.isEmpty = outer'.isEmpty := by cases houter <;> rfl
  have hjoined : L.Progress
      ⟨⟨(p.add c.top).contents.top, (p.add c.top).contents.sections ++ c.sections⟩, p.inTop⟩
      ⟨⟨(q.add c'.top).contents.top, (q.add c'.top).contents.sections ++ c'.sections⟩,
        q.inTop⟩ :=
    ⟨⟨hadd.contents.top, List.rel_append hadd.contents.sections hc.sections⟩, h.inTop⟩
  unfold HostConfig.Progress.takeIn
  simp only [h.inTop, hempty]
  split
  · rw [h.inTop] at hjoined
    exact hjoined
  · exact hjoined.openSection (h.scope houter)

end Progress

/-! ## Files -/

theorem forall₂_numberedLines {R : Text → Text → Prop} {t t' : Text}
    (h : List.Forall₂ R (Text.lines t) (Text.lines t')) :
    List.Forall₂ (fun a b : Nat × Text => a.1 = b.1 ∧ R a.2 b.2) (Text.numberedLines t)
      (Text.numberedLines t') := by
  unfold Text.numberedLines
  rw [List.forall₂_map_left_iff, List.forall₂_map_right_iff]
  generalize Text.lines t = lines, Text.lines t' = lines', 0 = n at h ⊢
  induction h generalizing n with
  | nil => exact .nil
  | cons hl _ ih => exact .cons ⟨rfl, hl⟩ (ih (n + 1))

/-- One line after the other, two files go on being alike. -/
theorem readLines_alike (path : Text) {env : Environment} {outer outer' : Scope}
    {includes includes' : Scope → Nat → Text → Except LoadError HostConfig.Contents}
    (hincludes : ∀ scope scope' number a b, List.Forall₂ L.patterns scope scope' →
      NameAlike env a b → L.Outcomes L.Contents (includes scope number a)
        (includes' scope' number b))
    (houter : List.Forall₂ L.patterns outer outer') {lines lines' : List (Nat × Text)}
    (hlines : List.Forall₂ (fun a b => a.1 = b.1 ∧ L.Lines env a.2 b.2) lines lines')
    {p q : HostConfig.Progress} (hp : L.Progress p q) :
    L.Outcomes L.Progress (readLines path outer includes p lines)
      (readLines path outer' includes' q lines') := by
  induction hlines generalizing p q with
  | nil => exact .loaded hp
  | @cons numbered numbered' lines lines' hline _ ih =>
      obtain ⟨number, line⟩ := numbered
      obtain ⟨number', line'⟩ := numbered'
      obtain ⟨rfl, hline⟩ := hline
      simp only [Lines] at hline
      rw [readLines, readLines]
      generalize Statement.ofLine line = said, Statement.ofLine line' = said' at hline
      cases hline with
      | problem h => exact .failed (.line h)
      | nothing => exact ih hp
      | host h => exact ih (hp.openSection (List.rel_append houter (.cons h .nil)))
      | directive h => exact ih (hp.add (.cons h .nil))
      | @files a b h =>
          have hbrought := hincludes _ _ number a b (hp.scope houter) h
          simp only
          generalize includes (p.scope outer) number a = brought,
            includes' (q.scope outer') number b = brought' at hbrought
          cases hbrought with
          | failed he => exact .failed he
          | loaded hc => exact ih (hp.takeIn houter hc)

theorem readFile_alike {env : Environment} {outer outer' : Scope} {files : Files.Tree}
    {includes includes' : Text → Scope → Nat → Text → Except LoadError HostConfig.Contents}
    (hincludes : ∀ path scope scope' number a b, List.Forall₂ L.patterns scope scope' →
      NameAlike env a b → L.Outcomes L.Contents (includes path scope number a)
        (includes' path scope' number b))
    (hfiles : Files.Tree.Alike (L.Texts env) env.files files)
    (houter : List.Forall₂ L.patterns outer outer') (path : Text) :
    L.Outcomes L.Contents (readFile env.files includes outer path)
      (readFile files includes' outer' path) := by
  have hread : ∀ {c c' : Bytes}, L.Texts env c c' → L.Outcomes L.Contents
      (readText path outer (includes path) (textOf c))
      (readText path outer' (includes' path) (textOf c')) := by
    intro c c' hc
    have hlines := readLines_alike path (hincludes path) houter
      (forall₂_numberedLines hc) Progress.start
    exact hlines.map fun p q hpq => hpq.contents
  unfold readFile
  split
  · exact .failed (.same _)
  · rcases hfiles.read path with heq | ⟨c, c', hc, hc', halike⟩
    · rw [heq]
      cases files.read path with
      | error e => exact .loaded Contents.empty
      | ok c => exact hread (List.forall₂_same.mpr fun line _ => L.lines_refl env line)
    · rw [hc, hc']
      exact hread halike

section Load

variable {env : Environment} {files : Files.Tree}

/-- Files that are alike line by line are loaded with alike outcomes. -/
theorem load_alike (hfiles : Files.Tree.Alike (L.Texts env) env.files files) (depth : Nat)
    {outer outer' : Scope} (houter : List.Forall₂ L.patterns outer outer') (path : Text) :
    L.Outcomes L.Contents (load env depth outer path)
      (load { env with files := files } depth outer' path) := by
  induction depth generalizing outer outer' path with
  | zero =>
      apply readFile_alike _ hfiles houter
      intro path scope scope' number a b _ _
      exact .failed (.same _)
  | succ depth ih =>
      apply readFile_alike _ hfiles houter
      intro path scope scope' number a b hscope hab
      rw [readIncluded_eq, readIncluded_eq, included_alike hfiles, hab path number]
      apply Outcomes.gather
      rintro (e | next)
      · exact .failed (.same e)
      · exact ih hscope next

/-- Configurations that are alike line by line have alike outcomes. -/
theorem ofFile_alike (hfiles : Files.Tree.Alike (L.Texts env) env.files files) (root : Path) :
    L.Outcomes (fun a b => a.path = b.path ∧ L.Contents a.contents b.contents)
      (ofFile env root) (ofFile { env with files := files } root) :=
  (load_alike hfiles maxIncludeDepth .nil root.text).map fun _ _ h => ⟨rfl, h⟩

/-- A line may be exchanged for one that says alike things. -/
theorem ofFile_exchange {place : Files.Location} {content : Bytes} {line line' : Text}
    (h : Exchanges env place content line line') (hline : L.Lines env line line') (root : Path) :
    L.Outcomes (fun a b => a.path = b.path ∧ L.Contents a.contents b.contents)
      (ofFile env root) (ofFile (env.withContent place content) root) := by
  obtain ⟨old, before, after, hfile, hold, hnew⟩ := h
  have hothers : ∀ lines, List.Forall₂ (L.Lines env) lines lines :=
    fun lines => List.forall₂_same.mpr fun l _ => L.lines_refl env l
  have htexts : L.Texts env old content := by
    rw [Texts, hold, hnew]
    exact List.rel_append (hothers before) (.cons hline (hothers after))
  exact ofFile_alike (Files.Tree.alike_setContent hfile htexts) root

end Load

/-! ## Equal configurations -/

/-- Nothing but the same counts as alike. -/
def equal : Likeness where
  problem := Eq
  patterns := Eq
  directive := Eq
  problem_refl _ := rfl
  patterns_refl _ := rfl
  directive_refl _ := rfl

theorem eq_of_sections {s s' : Section} (h : equal.Sections s s') : s = s' := by
  obtain ⟨hscope, hdirectives⟩ := h
  cases s
  cases s'
  simp only [equal, List.forall₂_eq_eq_eq] at hscope hdirectives
  rw [hscope, hdirectives]

theorem eq_of_contents {c c' : HostConfig.Contents} (h : equal.Contents c c') : c = c' := by
  obtain ⟨htop, hsections⟩ := h
  cases c
  cases c'
  have hsections := hsections.imp fun s s' => eq_of_sections
  simp only [equal, List.forall₂_eq_eq_eq] at htop hsections
  rw [htop, hsections]

theorem eq_of_errors {e e' : LoadError} (h : equal.Errors e e') : e = e' := by
  cases h with
  | @line _ _ p q h =>
      have heq : p = q := h
      rw [heq]
  | same => rfl

theorem eq_of_outcomes {x y : Except LoadError HostConfig}
    (h : equal.Outcomes (fun a b => a.path = b.path ∧ equal.Contents a.contents b.contents) x y) :
    x = y := by
  cases h with
  | failed h => rw [eq_of_errors h]
  | @loaded a b h =>
      obtain ⟨hpath, hcontents⟩ := h
      have hcontents := eq_of_contents hcontents
      cases a
      cases b
      simp only at hpath hcontents
      rw [hpath, hcontents]

end Likeness

/-- A line may be exchanged for one that says the same. -/
theorem ofFile_exchange_eq {env : Environment} {place : Files.Location} {content : Bytes}
    {line line' : Text} (h : Exchanges env place content line line')
    (hline : Statement.ofLine line = Statement.ofLine line') (root : Path) :
    ofFile (env.withContent place content) root = ofFile env root := by
  have hsame : Likeness.equal.Lines env line line' := by
    rw [Likeness.Lines, ← hline]
    exact Likeness.lines_refl _ _ line
  exact (Likeness.eq_of_outcomes (Likeness.ofFile_exchange h hsame root)).symm

end HostConfig

end SshTunnel
