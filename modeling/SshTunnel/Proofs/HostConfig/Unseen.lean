import SshTunnel.Proofs.HostConfig.Alike
import SshTunnel.Proofs.HostConfig.Recorded

/-!
# What a lookup cannot tell

A lookup sees four keywords, in the top and in the sections whose pattern lists all match the
alias. `Contents.view` is what it sees. Every line takes something into the view or leaves it as
it is, so lines that leave it may come and go in any file: the lookup stays the same.
-/

namespace SshTunnel.HostConfig

/-- The keywords whose values a lookup surfaces. -/
def surfaced : List Text :=
  ["hostname".toList, "user".toList, "port".toList, "identityfile".toList]

/-- The directives of a scope that a lookup of a name can tell. -/
def shown (name : Text) (scope : Scope) (ds : List Directive) : List Directive :=
  if scope.covers name then ds.filter (surfaced.contains ·.keyword) else []

/-- What a lookup of a name can tell of contents that are read for `outer`: of their top, and of
their sections. -/
def Contents.view (name : Text) (outer : Scope) (c : Contents) :
    List Directive × List Directive :=
  (shown name outer c.top, c.sections.flatMap fun s => shown name s.scope s.directives)

/-- The file is at the same point, as far as a lookup of the name can tell. -/
structure Progress.SameFor (name : Text) (outer : Scope) (p q : Progress) : Prop where
  inTop : p.inTop = q.inTop
  view : p.contents.view name outer = q.contents.view name outer

/-- The Host line above the next line of a file, by its patterns. -/
def hostAfter (above : Option (List Text)) (line : Text) : Option (List Text) :=
  match Statement.ofLine line with
  | .ok (some (.host patterns)) => some patterns
  | _ => above

/-- The line is read, and it says nothing that a lookup surfaces. -/
inductive SaysNothing (line : Text) : Prop where
  | passed (h : Statement.ofLine line = .ok none)
  | unseen {d : Directive} (h : Statement.ofLine line = .ok (some (.directive d)))
      (hkeyword : d.keyword ∉ surfaced)

/-- The second file is the first one with lines put in that say nothing, and with lines left out
that say nothing or that are Include lines below a Host line that does not match the name. -/
inductive Edited (name : Text) : Option (List Text) → List Text → List Text → Prop where
  | done {above : Option (List Text)} : Edited name above [] []
  | kept {above : Option (List Text)} (line : Text) {rest rest' : List Text}
      (h : Edited name (hostAfter above line) rest rest') :
      Edited name above (line :: rest) (line :: rest')
  | putIn {above : Option (List Text)} {line : Text} {rest rest' : List Text}
      (hline : SaysNothing line) (h : Edited name above rest rest') :
      Edited name above rest (line :: rest')
  | leftOut {above : Option (List Text)} {line : Text} {rest rest' : List Text}
      (hline : SaysNothing line) (h : Edited name above rest rest') :
      Edited name above (line :: rest) rest'
  | hidden {patterns : List Text} {line arguments : Text} {rest rest' : List Text}
      (hline : Statement.ofLine line = .ok (some (.files arguments)))
      (hmatch : matchesPatterns name patterns = false)
      (h : Edited name (some patterns) rest rest') :
      Edited name (some patterns) (line :: rest) rest'

theorem Edited.refl (name : Text) (above : Option (List Text)) (lines : List Text) :
    Edited name above lines lines := by
  induction lines generalizing above with
  | nil => exact .done
  | cons line lines ih => exact .kept line (ih _)

/-! ## Views -/

section View

variable {name : Text} {outer scope : Scope}

theorem shown_append (ds es : List Directive) :
    shown name scope (ds ++ es) = shown name scope ds ++ shown name scope es := by
  unfold shown
  split
  · exact List.filter_append ..
  · rfl

theorem shown_nil : shown name scope [] = [] := by simp [shown]

theorem shown_of_not_covers (h : scope.covers name = false) (ds : List Directive) :
    shown name scope ds = [] := by simp [shown, h]

theorem shown_unseen {d : Directive} (h : d.keyword ∉ surfaced) :
    shown name scope [d] = [] := by
  simp [shown, h]

theorem valuesOf_filter_surfaced {keyword : Text} (h : keyword ∈ surfaced)
    (ds : List Directive) :
    valuesOf keyword (ds.filter (surfaced.contains ·.keyword)) = valuesOf keyword ds := by
  rw [valuesOf, List.filter_filter, valuesOf]
  congr 1
  apply List.filter_congr
  intro d _
  by_cases hd : d.keyword = keyword <;> simp [hd, h]

/-- An entry depends on the directives with these keywords alone. -/
theorem entryOf_filter_surfaced (ds : List Directive) :
    entryOf (ds.filter (surfaced.contains ·.keyword)) = entryOf ds := by
  have hvalues : ∀ keyword ∈ surfaced,
      valuesOf keyword (ds.filter (surfaced.contains ·.keyword)) = valuesOf keyword ds :=
    fun keyword hkeyword => valuesOf_filter_surfaced hkeyword ds
  simp only [entryOf, hvalues _ (by simp [surfaced] : "hostname".toList ∈ surfaced),
    hvalues _ (by simp [surfaced] : "user".toList ∈ surfaced),
    hvalues _ (by simp [surfaced] : "port".toList ∈ surfaced),
    hvalues _ (by simp [surfaced] : "identityfile".toList ∈ surfaced)]

theorem filter_applying (c : Contents) (name : Text) :
    (c.applying name).filter (surfaced.contains ·.keyword)
      = (c.view name []).1 ++ (c.view name []).2 := by
  have htop : shown name [] c.top = c.top.filter (surfaced.contains ·.keyword) := by
    simp [shown, Scope.covers]
  have hsections : ∀ xs : List Section,
      ((xs.filter (·.scope.covers name)).flatMap (·.directives)).filter
          (surfaced.contains ·.keyword)
        = xs.flatMap fun s => shown name s.scope s.directives := by
    intro xs
    induction xs with
    | nil => rfl
    | cons s xs ih =>
        rw [List.flatMap_cons, ← ih]
        cases hcovers : s.scope.covers name <;> simp [shown, hcovers, List.filter_append]
  rw [Contents.applying, List.filter_append, hsections, Contents.view, htop]

/-- A lookup sees no more than the view of its name. -/
theorem entryOf_applying_congr {c c' : Contents} (h : c.view name [] = c'.view name []) :
    entryOf (c.applying name) = entryOf (c'.applying name) := by
  rw [← entryOf_filter_surfaced (c.applying name), filter_applying, h, ← filter_applying,
    entryOf_filter_surfaced]

theorem view_append (a b : Contents) : (a.append b).view name outer
    = ((a.view name outer).1 ++ (b.view name outer).1,
        (a.view name outer).2 ++ (b.view name outer).2) := by
  simp [Contents.view, Contents.append, shown_append]

/-- A view and another one that comes after it: what the second has on top stands behind the
first, in its top or below. -/
def joinViews (inTop : Bool) (v w : List Directive × List Directive) :
    List Directive × List Directive :=
  if inTop then (v.1 ++ w.1, v.2 ++ w.2) else (v.1, v.2 ++ (w.1 ++ w.2))

theorem joinViews_nil (inTop : Bool) (v : List Directive × List Directive) :
    joinViews inTop v ([], []) = v := by
  cases inTop <;> simp [joinViews]

end View

/-! ## Steps -/

namespace Progress

variable {name : Text} {outer : Scope} {above : Option (List Text)} {p q : Progress}

theorem openSection_view (p : Progress) (scope : Scope) :
    (p.openSection scope).contents.view name outer = p.contents.view name outer := by
  simp [Progress.openSection, Contents.view, shown_nil]

/-- Directives show where the file stands. -/
theorem Stands.add_view (h : Stands outer above p) (ds : List Directive) :
    (p.add ds).contents.view name outer = joinViews p.inTop (p.contents.view name outer)
      (shown name (outer ++ above.toList) ds, []) := by
  rw [← h.scope]
  cases hin : p.inTop with
  | true =>
      have hscope : p.scope outer = outer := by simp [Progress.scope, hin]
      rw [hscope, Contents.view, add_top hin]
      simp [joinViews, Contents.view, shown_append]
  | false =>
      obtain ⟨init, s, hs⟩ := h.under hin
      have hscope : p.scope outer = s.scope := by simp [Progress.scope, hin, hs]
      rw [hscope, Contents.view, add_section hin hs]
      simp [joinViews, Contents.view, hs, shown_append]

/-- What an Include line brings shows where the line stands. -/
theorem Stands.takeIn_view (h : Stands outer above p) (c : Contents) :
    (p.takeIn outer c).contents.view name outer = joinViews p.inTop
      (p.contents.view name outer) (c.view name (outer ++ above.toList)) := by
  have hjoined : (p.joined c).contents.view name outer
      = ((((p.add c.top).contents.view name outer)).1,
          ((p.add c.top).contents.view name outer).2
            ++ c.sections.flatMap fun s => shown name s.scope s.directives) := by
    simp [joined, Contents.view]
  have htake : (p.takeIn outer c).contents.view name outer
      = (p.joined c).contents.view name outer := by
    rw [takeIn_eq]
    split
    · rfl
    · exact openSection_view (p.joined c) (p.scope outer)
  rw [htake, hjoined, h.add_view]
  cases p.inTop <;> simp [joinViews, Contents.view]

theorem takeIn_inTop (p : Progress) (outer : Scope) (c : Contents) :
    (p.takeIn outer c).inTop = (p.inTop && outer.isEmpty) := by
  rw [takeIn_eq]
  cases hevery : p.inTop && outer.isEmpty with
  | true => simpa [joined] using (Bool.and_eq_true _ _ ▸ hevery).1
  | false => rfl

namespace SameFor

theorem refl (name : Text) (outer : Scope) (p : Progress) : SameFor name outer p p := ⟨rfl, rfl⟩

theorem symm (h : SameFor name outer p q) : SameFor name outer q p :=
  ⟨h.inTop.symm, h.view.symm⟩

theorem openSection (h : SameFor name outer p q) (scope : Scope) :
    SameFor name outer (p.openSection scope) (q.openSection scope) :=
  ⟨rfl, by rw [openSection_view, openSection_view, h.view]⟩

theorem add (hp : p.Stands outer above) (hq : q.Stands outer above)
    (h : SameFor name outer p q) (ds : List Directive) :
    SameFor name outer (p.add ds) (q.add ds) := by
  constructor
  · rw [add_inTop, add_inTop, h.inTop]
  · rw [hp.add_view, hq.add_view, h.inTop, h.view]

theorem takeIn (hp : p.Stands outer above) (hq : q.Stands outer above)
    (h : SameFor name outer p q) {c c' : Contents}
    (hc : c.view name (outer ++ above.toList) = c'.view name (outer ++ above.toList)) :
    SameFor name outer (p.takeIn outer c) (q.takeIn outer c') := by
  constructor
  · rw [takeIn_inTop, takeIn_inTop, h.inTop]
  · rw [hp.takeIn_view, hq.takeIn_view, h.inTop, h.view, hc]

/-- A directive with another keyword does not show. -/
theorem add_unseen (hp : p.Stands outer above) (h : SameFor name outer p q) {d : Directive}
    (hd : d.keyword ∉ surfaced) : SameFor name outer (p.add [d]) q := by
  constructor
  · rw [add_inTop, h.inTop]
  · rw [hp.add_view, shown_unseen hd, joinViews_nil, h.view]

/-- What an Include line brings below a Host line does not show when none of it does. -/
theorem takeIn_hidden {patterns : List Text} (hp : p.Stands outer (some patterns))
    (h : SameFor name outer p q) {c : Contents}
    (hc : c.view name (outer ++ [patterns]) = ([], [])) :
    SameFor name outer (p.takeIn outer c) q := by
  have hin : p.inTop = false := by
    by_contra hin
    cases hp.top (by simpa using hin)
  constructor
  · rw [takeIn_inTop, ← h.inTop, hin, Bool.false_and]
  · rw [hp.takeIn_view, Option.toList_some, hc, joinViews_nil, h.view]

end SameFor

end Progress

/-! ## Contents for a scope that does not cover the name -/

section Hidden

variable {name : Text} {outer : Scope}

/-- The lines of a reading stand below all Host lines of the scope that it is read for. -/
theorem Reading.isPrefix_of_mem_lines {r : Reading} {above : Option (List Text)} {g : Governed}
    (h : g ∈ r.lines outer above) : outer <+: g.scope := by
  induction r generalizing outer above with
  | done => cases h
  | problem e rest ih => exact ih h
  | host patterns rest ih => exact ih h
  | directive d rest ih =>
      rcases List.mem_cons.mp h with rfl | h
      · exact List.prefix_append _ _
      · exact ih h
  | file body rest ihbody ih =>
      rcases List.mem_append.mp h with h | h
      · exact (List.prefix_append _ _).trans (ihbody h)
      · exact ih h
  | resume rest ih => exact ih h

theorem mem_sectionsFiled {n : Nat} {xs : List Section} {s : Section} {d : Directive}
    (hs : s ∈ xs) (hd : d ∈ s.directives) :
    ∃ place, ⟨s.scope, place, d⟩ ∈ sectionsFiled n xs := by
  induction xs generalizing n with
  | nil => cases hs
  | cons s' xs ih =>
      rcases List.mem_cons.mp hs with rfl | hs
      · exact ⟨n, List.mem_append_left _ (List.mem_map_of_mem hd)⟩
      · obtain ⟨place, hmem⟩ := ih hs
        exact ⟨place, List.mem_append_right _ hmem⟩

/-- Nothing that is loaded for a scope shows to a name that the scope does not cover. -/
theorem view_of_not_covers {env : Environment} {depth : Nat} {path : Text} {c : Contents}
    (h : load env depth outer path = .ok c) (hcovers : outer.covers name = false) :
    c.view name outer = ([], []) := by
  have hsection : ∀ s ∈ c.sections, shown name s.scope s.directives = [] := by
    intro s hs
    by_contra hne
    have hcovered : s.scope.covers name = true := by
      by_contra hnot
      exact hne (shown_of_not_covers (by simpa using hnot) _)
    obtain ⟨d, hd⟩ : ∃ d, d ∈ s.directives := by
      apply List.exists_mem_of_ne_nil
      intro hnil
      rw [hnil, shown_nil] at hne
      exact hne rfl
    obtain ⟨place, hmem⟩ := mem_sectionsFiled (n := 1) hs hd
    have hfiled : (⟨s.scope, place, d⟩ : Filed) ∈ c.filed outer 0 1 :=
      List.mem_append_right _ hmem
    have hread := ((holds_of_load h).2 0 1 Nat.zero_lt_one).perm.mem_iff.mpr hfiled
    have hline := List.mem_map_of_mem (f := Filed.line) hread
    rw [Reading.filed_lines] at hline
    obtain ⟨inner, hinner⟩ := Reading.isPrefix_of_mem_lines hline
    have hscope : s.scope = outer ++ inner := hinner.symm
    rw [hscope, Scope.covers, List.all_append, Bool.and_eq_true] at hcovered
    rw [Scope.covers] at hcovers
    rw [hcovers] at hcovered
    cases hcovered.1
  rw [Contents.view, shown_of_not_covers hcovers, List.flatMap_eq_nil_iff.mpr hsection]

theorem covers_append_of_not (outer : Scope) {patterns : List Text}
    (h : matchesPatterns name patterns = false) :
    Scope.covers (outer ++ [patterns]) name = false := by
  simp [Scope.covers, h]

end Hidden

/-! ## Two runs -/

section Runs

variable {name : Text} {outer : Scope}

theorem hostAfter_of_other {above : Option (List Text)} {line : Text}
    (h : ∀ patterns, Statement.ofLine line ≠ .ok (some (.host patterns))) :
    hostAfter above line = above := by
  unfold hostAfter
  split
  next patterns hline => exact absurd hline (h patterns)
  next => rfl

/-- A line that says nothing shows nothing. -/
theorem readLines_saysNothing {path : Text} {number : Nat} {line : Text}
    {includes : Scope → Nat → Text → Except LoadError Contents} {above : Option (List Text)}
    {p q : Progress} (hline : SaysNothing line) (hp : p.Stands outer above)
    (h : p.SameFor name outer q) (rest : List (Nat × Text)) :
    ∃ p', readLines path outer includes p ((number, line) :: rest)
        = readLines path outer includes p' rest ∧
      p'.Stands outer above ∧ p'.SameFor name outer q := by
  rw [readLines]
  cases hline with
  | passed hline => exact ⟨p, by rw [hline], hp, h⟩
  | @unseen d hline hkeyword =>
      exact ⟨p.add [d], by rw [hline], hp.add [d], h.add_unseen hp hkeyword⟩

variable {includes includes' : Scope → Nat → Text → Except LoadError Contents}

/-- What is known about the Include lines of two runs: what one reads the other reads too, and
it shows the same; and nothing shows to a name that the scope does not cover. -/
structure IncludeAlike (name : Text)
    (includes includes' : Scope → Nat → Text → Except LoadError Contents) : Prop where
  same : ∀ scope number arguments c, includes scope number arguments = .ok c →
    ∃ c', (∀ number', includes' scope number' arguments = .ok c') ∧
      c.view name scope = c'.view name scope
  hidden : ∀ scope number arguments c, includes scope number arguments = .ok c →
    scope.covers name = false → c.view name scope = ([], [])

/-- A line that both files have is read in both, and they go on at the same point. -/
theorem readLines_kept {path : Text} (path' : Text)
    (hincludes : IncludeAlike name includes includes') {above : Option (List Text)}
    {number : Nat} {line : Text} {rest : List (Nat × Text)} {p q r : Progress}
    (hp : p.Stands outer above) (hq : q.Stands outer above) (h : p.SameFor name outer q)
    (hread : readLines path outer includes p ((number, line) :: rest) = .ok r) :
    ∃ p' q', p'.Stands outer (hostAfter above line) ∧ q'.Stands outer (hostAfter above line) ∧
      p'.SameFor name outer q' ∧ readLines path outer includes p' rest = .ok r ∧
      ∀ number' rest', readLines path' outer includes' q ((number', line) :: rest')
        = readLines path' outer includes' q' rest' := by
  simp only [readLines] at hread ⊢
  cases hline : Statement.ofLine line with
  | error problem => simp only [hline, reduceCtorEq] at hread
  | ok statement =>
      simp only [hline] at hread ⊢
      rcases statement with - | patterns | arguments | d
      · rw [hostAfter_of_other (by simp [hline])]
        exact ⟨p, q, hp, hq, h, hread, fun _ _ => rfl⟩
      · rw [hostAfter, hline]
        exact ⟨_, _, .openSection p outer patterns, .openSection q outer patterns,
          h.openSection _, hread, fun _ _ => rfl⟩
      · rw [hostAfter_of_other (by simp [hline])]
        rw [hp.scope] at hread
        cases hbrought : includes (outer ++ above.toList) number arguments with
        | error e => simp only [hbrought, reduceCtorEq] at hread
        | ok c =>
            simp only [hbrought] at hread
            obtain ⟨c', hbrought', hview⟩ := hincludes.same _ number arguments c hbrought
            refine ⟨_, _, hp.takeIn c, hq.takeIn c', h.takeIn hp hq hview, hread, ?_⟩
            intro number' rest'
            simp only [hq.scope, hbrought' number']
      · rw [hostAfter_of_other (by simp [hline])]
        exact ⟨_, _, hp.add [d], hq.add [d], h.add hp hq [d], hread, fun _ _ => rfl⟩

/-- Through every edit the second file stays where the first one is. -/
theorem readLines_edited {path : Text} (path' : Text)
    (hincludes : IncludeAlike name includes includes') {above : Option (List Text)}
    {texts texts' : List Text} (hedited : Edited name above texts texts')
    {lines lines' : List (Nat × Text)} (hlines : lines.map (·.2) = texts)
    (hlines' : lines'.map (·.2) = texts') {p q r : Progress} (hp : p.Stands outer above)
    (hq : q.Stands outer above) (h : p.SameFor name outer q)
    (hread : readLines path outer includes p lines = .ok r) :
    ∃ r', readLines path' outer includes' q lines' = .ok r' ∧ r.SameFor name outer r' := by
  induction hedited generalizing lines lines' p q with
  | done =>
      obtain rfl := List.map_eq_nil_iff.mp hlines
      obtain rfl := List.map_eq_nil_iff.mp hlines'
      cases hread
      exact ⟨q, rfl, h⟩
  | @kept above line rest rest' _ ih =>
      obtain ⟨⟨number, line⟩, lines, rfl, rfl, hrest⟩ := List.map_eq_cons_iff.mp hlines
      obtain ⟨⟨number', _⟩, lines', rfl, rfl, hrest'⟩ := List.map_eq_cons_iff.mp hlines'
      obtain ⟨p', q', hp', hq', hsame, hread', hnext⟩ :=
        readLines_kept path' hincludes hp hq h hread
      rw [hnext]
      exact ih hrest hrest' hp' hq' hsame hread'
  | @putIn above line rest rest' hline _ ih =>
      obtain ⟨⟨number', _⟩, lines', rfl, rfl, hrest'⟩ := List.map_eq_cons_iff.mp hlines'
      obtain ⟨q', hq', hstands, hsame⟩ := readLines_saysNothing hline hq h.symm lines'
      rw [hq']
      exact ih hlines hrest' hp hstands hsame.symm hread
  | @leftOut above line rest rest' hline _ ih =>
      obtain ⟨⟨number, _⟩, lines, rfl, rfl, hrest⟩ := List.map_eq_cons_iff.mp hlines
      obtain ⟨p', hp', hstands, hsame⟩ := readLines_saysNothing hline hp h lines
      rw [hp'] at hread
      exact ih hrest hlines' hstands hq hsame hread
  | @hidden patterns line arguments rest rest' hline hmatch _ ih =>
      obtain ⟨⟨number, _⟩, lines, rfl, rfl, hrest⟩ := List.map_eq_cons_iff.mp hlines
      rw [readLines] at hread
      simp only [hline] at hread
      cases hbrought : includes (p.scope outer) number arguments with
      | error e => simp only [hbrought, reduceCtorEq] at hread
      | ok c =>
          simp only [hbrought] at hread
          rw [hp.scope] at hbrought
          have hview := hincludes.hidden _ number arguments c hbrought
            (covers_append_of_not outer hmatch)
          exact ih hrest hlines' (hp.takeIn c) hq (h.takeIn_hidden hp hview) hread

/-- The files of an Include line are read in both runs, and show the same. -/
theorem gather_sameFor {α : Type} {f g : α → Except LoadError Contents}
    (h : ∀ x c, f x = .ok c → ∃ c', g x = .ok c' ∧ c.view name outer = c'.view name outer)
    {xs : List α} {c : Contents} (hgather : gather f xs = .ok c) :
    ∃ c', gather g xs = .ok c' ∧ c.view name outer = c'.view name outer := by
  induction xs generalizing c with
  | nil => exact ⟨c, hgather, rfl⟩
  | cons x xs ih =>
      obtain ⟨a, b, hfirst, hmore, rfl⟩ := gather_cons_eq_ok.mp hgather
      obtain ⟨a', hfirst', ha⟩ := h x a hfirst
      obtain ⟨b', hmore', hb⟩ := ih hmore
      exact ⟨_, gather_cons_eq_ok.mpr ⟨a', b', hfirst', hmore', rfl⟩, by
        rw [view_append, view_append, ha, hb]⟩

theorem gather_hidden {α : Type} {f : α → Except LoadError Contents}
    (h : ∀ x c, f x = .ok c → c.view name outer = ([], [])) {xs : List α} {c : Contents}
    (hgather : gather f xs = .ok c) : c.view name outer = ([], []) := by
  induction xs generalizing c with
  | nil =>
      cases hgather
      simp [Contents.view, Contents.empty, shown_nil]
  | cons x xs ih =>
      obtain ⟨a, b, hfirst, hmore, rfl⟩ := gather_cons_eq_ok.mp hgather
      rw [view_append, h x a hfirst, ih hmore]
      rfl

/-- The number of an Include line only shows in an error. -/
theorem included_number {env : Environment} {load : Text → Except LoadError Contents}
    {path arguments : Text} {number : Nat} {c : Contents}
    (h : gather (loadItem load) (included env path number arguments) = .ok c) (number' : Nat) :
    included env path number' arguments = included env path number arguments := by
  unfold included at h ⊢
  cases hlist : arguments? arguments with
  | none =>
      rw [hlist] at h
      cases h
  | some list => rfl

end Runs

/-! ## Files -/

section Load

variable {name : Text} {env : Environment} {files : Files.Tree}

/-- The lines of a file are edited. -/
def EditedFile (name : Text) (content content' : Bytes) : Prop :=
  Edited name none (Text.lines (textOf content)) (Text.lines (textOf content'))

theorem readFile_edited {outer : Scope} {path : Text}
    {includes includes' : Text → Scope → Nat → Text → Except LoadError Contents}
    (hincludes : IncludeAlike name (includes path) (includes' path))
    (hfiles : Files.Tree.Alike (EditedFile name) env.files files) {c : Contents}
    (h : readFile env.files includes outer path = .ok c) :
    ∃ c', readFile files includes' outer path = .ok c' ∧
      c.view name outer = c'.view name outer := by
  have hread : ∀ {content content' : Bytes} {c : Contents}, EditedFile name content content' →
      readText path outer (includes path) (textOf content) = .ok c →
      ∃ c', readText path outer (includes' path) (textOf content') = .ok c' ∧
        c.view name outer = c'.view name outer := by
    intro content content' c hedited hok
    cases hlines : readLines path outer (includes path) Progress.start
        (Text.numberedLines (textOf content)) with
    | error e =>
        rw [readText, hlines] at hok
        cases hok
    | ok r =>
        rw [readText, hlines] at hok
        cases hok
        obtain ⟨r', hlines', hsame⟩ := readLines_edited path hincludes hedited
          (Text.map_snd_numberedLines _) (Text.map_snd_numberedLines _) (.start outer)
          (.start outer) (.refl name outer _) hlines
        exact ⟨r'.contents, by rw [readText, hlines']; rfl, hsame.view⟩
  unfold readFile at h ⊢
  split at h
  · cases h
  next hnul =>
    rw [if_neg hnul]
    rcases hfiles.read path with heq | ⟨content, content', hc, hc', hedited⟩
    · rw [heq] at h
      cases hfile : files.read path with
      | error e =>
          rw [hfile] at h
          exact ⟨c, h, rfl⟩
      | ok content =>
          rw [hfile] at h
          exact hread (.refl name none _) h
    · rw [hc] at h
      rw [hc']
      exact hread hedited h

/-- Edited files are loaded wherever the files are, and they show the same. -/
theorem load_edited (hfiles : Files.Tree.Alike (EditedFile name) env.files files) {depth : Nat}
    {outer : Scope} {path : Text} {c : Contents} (h : load env depth outer path = .ok c) :
    ∃ c', load { env with files := files } depth outer path = .ok c' ∧
      c.view name outer = c'.view name outer := by
  induction depth generalizing outer path c with
  | zero =>
      refine readFile_edited ⟨?_, ?_⟩ hfiles h
      · intro scope number arguments c hinc
        cases hinc
      · intro scope number arguments c hinc
        cases hinc
  | succ depth ih =>
      refine readFile_edited ⟨?_, ?_⟩ hfiles h
      · intro scope number arguments c hinc
        rw [readIncluded_eq] at hinc
        obtain ⟨c', hgather, hview⟩ :=
          gather_sameFor (g := loadItem (load { env with files := files } depth scope))
            (fun item c hitem => by
              cases item with
              | error e => cases hitem
              | ok path => exact ih hitem) hinc
        refine ⟨c', fun number' => ?_, hview⟩
        rw [readIncluded_eq, included_alike hfiles, included_number hinc number']
        exact hgather
      · intro scope number arguments c hinc hcovers
        rw [readIncluded_eq] at hinc
        apply gather_hidden _ hinc
        intro item c hitem
        cases item with
        | error e => cases hitem
        | ok path => exact view_of_not_covers hitem hcovers

/-- A lookup of the name stays the same under edits in whatever files. -/
theorem lookup_edited (hfiles : Files.Tree.Alike (EditedFile name) env.files files) {root : Path}
    {config : HostConfig} (h : ofFile env root = .ok config) :
    ∃ config', ofFile { env with files := files } root = .ok config' ∧
      config'.lookup name = config.lookup name := by
  rw [ofFile] at h
  cases hload : load env maxIncludeDepth [] root.text with
  | error e =>
      rw [hload] at h
      cases h
  | ok c =>
      rw [hload] at h
      cases h
      obtain ⟨c', hload', hview⟩ := load_edited hfiles hload
      exact ⟨⟨root, c'⟩, by rw [ofFile, hload']; rfl, (entryOf_applying_congr hview).symm⟩

end Load

end SshTunnel.HostConfig
