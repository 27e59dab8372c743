import SshTunnel.Proofs.Files.Described
import SshTunnel.Proofs.HostConfig.Depth
import SshTunnel.Proofs.HostConfig.Home
import SshTunnel.Proofs.HostConfig.Spelling

/-!
# Include lines that write out a file name

A relative argument without wildcards is put behind the per-user directory, and the whole path is
then expanded as a pattern, the home directory with it. So the file of that name is found just
when every name of the home directory describes itself, and it is the only one just when the home
directory describes no other one with a file of that name.
-/

namespace SshTunnel.HostConfig

/-- A relative argument that has no wildcards and does not start with `~`. -/
structure IsLiteral (argument : Text) : Prop where
  plain : Text.Glob.hasWildcard argument = false
  relative : (Path.ofText argument).isAbsolute = false
  not_home : argument.head? ≠ some '~'

instance (argument : Text) : Decidable (IsLiteral argument) :=
  decidable_of_iff (Text.Glob.hasWildcard argument = false ∧
      (Path.ofText argument).isAbsolute = false ∧ argument.head? ≠ some '~')
    ⟨fun h => ⟨h.1, h.2.1, h.2.2⟩, fun h => ⟨h.plain, h.relative, h.not_home⟩⟩

/-- The path of a relative argument below the per-user directory of a home directory. -/
def pathBelow (home : Path) (argument : Text) : Text :=
  (below home (Path.ofText argument).names).text

/-- Every name of the path describes itself. -/
def DescribesItself (p : Path) : Prop := ∀ name ∈ p.names, Files.Describes name name

/-- The home directory of the run describes these names, which are not its own, and below them
there is a file under the argument, or something that is refused. -/
structure Rival (env : Environment) (argument : Text) (names : List Text) : Prop where
  described : List.Forall₂ Files.Describes env.homeDirectory.names names
  other : names ≠ env.homeDirectory.names
  present : env.files.isPresent (pathBelow ⟨env.homeDirectory.start, names⟩ argument) = true
  not_passed : env.files.isFile (pathBelow ⟨env.homeDirectory.start, names⟩ argument) ≠ .ok false

/-- The line stands in the file at a path, above its first Host line. -/
inductive AtTop (env : Environment) (path line : Text) : Prop where
  | intro {content : Bytes} {front back : List Text} (hread : env.files.read path = .ok content)
      (hlines : Text.lines (textOf content) = front ++ line :: back)
      (hfront : ∀ l ∈ front, ∀ patterns, Statement.ofLine l ≠ .ok (some (.host patterns)))

/-- The file at a path has an Include line with the argument above its first Host line. -/
def IncludesAtTop (env : Environment) (path argument : Text) : Prop :=
  ∃ line value list, AtTop env path line ∧ Statement.ofLine line = .ok (some (.files value)) ∧
    arguments? value = some list ∧ argument ∈ list

/-! ## The files of an argument -/

section Named

variable {env : Environment} {argument : Text}

theorem IsLiteral.homeTail? (h : IsLiteral argument) : homeTail? argument = none := by
  unfold HostConfig.homeTail?
  split
  · exact absurd rfl h.not_home
  · exact absurd rfl h.not_home
  · rfl

theorem IsLiteral.plain_names (h : IsLiteral argument) :
    ∀ name ∈ (Path.ofText argument).names, Text.Glob.hasWildcard name = false := by
  intro name hname
  have hpiece := (List.mem_filter.mp hname).1
  have hplain := h.plain
  rw [Text.Glob.hasWildcard, List.any_eq_false] at hplain ⊢
  exact fun c hc => hplain c (Text.mem_of_mem_splitOn hpiece hc)

theorem isAbsolute_iff (p : Path) : p.isAbsolute = true ↔ p.start ≠ .here := by
  simp [Path.isAbsolute]

/-- The names of a path that can be opened. -/
theorem isComponent_of_nul {p : Path} (hp : p.WellFormed) (hstart : p.start ≠ .here)
    (hnul : p.text.contains Files.nul = false) : ∀ name ∈ p.names, Files.IsComponent name := by
  intro name hname
  refine ⟨(hp name hname).1, (hp name hname).2, fun hmem => ?_⟩
  have htext : Files.nul ∈ p.text :=
    (Files.mem_text (by decide) hstart).mpr ⟨name, hname, hmem⟩
  simp [htext] at hnul

/-- The names of a path below the home directory that can be opened. -/
theorem isComponent_below (hstart : env.homeDirectory.start ≠ .here)
    (hnul : (pathBelow env.homeDirectory argument).contains Files.nul = false) :
    ∀ name ∈ (below env.homeDirectory (Path.ofText argument).names).names,
      Files.IsComponent name :=
  isComponent_of_nul
    (below_wellFormed env.homeDirectory_wellFormed (Path.ofText_wellFormed argument)) hstart hnul

theorem describes_below_iff (h : IsLiteral argument) (start : Path.Start)
    {home names : List Text} :
    List.Forall₂ Files.Describes (below ⟨start, home⟩ (Path.ofText argument).names).names names ↔
      ∃ front, names = (below ⟨start, front⟩ (Path.ofText argument).names).names ∧
        List.Forall₂ Files.Describes home front := by
  have hplain : ∀ name ∈ ".ssh".toList :: (Path.ofText argument).names,
      Text.Glob.hasWildcard name = false := by
    rw [List.forall_mem_cons]
    exact ⟨by decide, h.plain_names⟩
  simp only [below, Files.describes_append_iff]
  constructor
  · rintro ⟨front, back, rfl, hfront, hback⟩
    rw [(Files.describes_plain_path_iff hplain).mp hback]
    exact ⟨front, rfl, hfront⟩
  · rintro ⟨front, rfl, hfront⟩
    exact ⟨front, _, rfl, hfront, (Files.describes_plain_path_iff hplain).mpr rfl⟩

/-- An absolute home directory has been told. -/
theorem tellsHome_of_isAbsolute (h : env.homeDirectory.isAbsolute = true) :
    env.tellsHome = true := by
  rw [Environment.tellsHome, Bool.or_eq_true]
  by_contra hnot
  obtain ⟨hunset, haccount⟩ : env.home = none ∧ env.accountHome.head? = some '~' := by
    simpa using hnot
  obtain ⟨rest, hrest⟩ : ∃ rest, env.accountHome = '~' :: rest := List.head?_eq_some_iff.mp haccount
  simp [Environment.homeDirectory, hunset, hrest, Path.isAbsolute, Path.ofText,
    Path.Start.ofText] at h

/-- A literal argument is expanded to the present paths below those home directories that the
home directory of the run describes. -/
theorem expand_pathBelow (htidy : env.files.Tidy)
    (habsolute : env.homeDirectory.isAbsolute = true) (h : IsLiteral argument)
    (hnul : (pathBelow env.homeDirectory argument).contains Files.nul = false) :
    ∃ found, expandArgument env argument = .ok found ∧ found.Nodup ∧
      ∀ path, path ∈ found ↔ ∃ names,
        path = pathBelow ⟨env.homeDirectory.start, names⟩ argument ∧
        List.Forall₂ Files.Describes env.homeDirectory.names names ∧
        env.files.isPresent path = true := by
  have hstart := (isAbsolute_iff _).mp habsolute
  have hcomponents := isComponent_below hstart hnul
  obtain ⟨front, last, htail⟩ := (List.eq_nil_or_concat
    (".ssh".toList :: (Path.ofText argument).names)).resolve_left (List.cons_ne_nil _ _)
  rw [List.concat_eq_append] at htail
  have hnames : (below env.homeDirectory (Path.ofText argument).names).names
      = env.homeDirectory.names ++ front ++ [last] := by
    rw [below, htail, List.append_assoc]
  have hlast : Text.Glob.hasWildcard last = false := by
    have hmem : last ∈ ".ssh".toList :: (Path.ofText argument).names := by
      rw [htail]
      exact List.mem_append_right _ (List.mem_singleton_self last)
    rcases List.mem_cons.mp hmem with rfl | hmem
    · decide
    · exact h.plain_names last hmem
  rw [hnames] at hcomponents
  obtain ⟨found, hout, hnodup, hmem⟩ := Files.Tree.exists_expand htidy hstart
    (fun p hp => hcomponents p (List.mem_append_left _ hp))
    (hcomponents last (by simp)) hlast
  have hpattern : includePattern env argument
      = Path.text ⟨env.homeDirectory.start, env.homeDirectory.names ++ front ++ [last]⟩ := by
    rw [includePattern_of_relative h.homeTail? h.relative, ← hnames]
    rfl
  have hexpand : expandArgument env argument = .ok found :=
    expandArgument_eq_ok_iff.mpr ⟨tellsHome_of_isAbsolute habsolute, by rw [hpattern, hout]⟩
  refine ⟨found, hexpand, hnodup, fun path => ?_⟩
  rw [hmem, ← hnames]
  constructor
  · rintro ⟨names, rfl, hdescribed, hpresent⟩
    obtain ⟨home, rfl, hhome⟩ := (describes_below_iff h env.homeDirectory.start).mp hdescribed
    exact ⟨home, rfl, hhome, hpresent⟩
  · rintro ⟨home, rfl, hhome, hpresent⟩
    exact ⟨_, rfl, (describes_below_iff h env.homeDirectory.start).mpr ⟨home, rfl, hhome⟩, hpresent⟩

/-- A found path that is read is read under its own text. -/
theorem fileAt_pathBelow {home : Path} (hhome : home.WellFormed) (argument : Text) :
    fileAt env (pathBelow home argument) =
      match env.files.isFile (pathBelow home argument) with
      | .error e => some (.error (.refused e))
      | .ok true => some (.ok (pathBelow home argument))
      | .ok false => none := by
  have hread : (Path.ofText (pathBelow home argument)).text = pathBelow home argument := by
    rw [pathBelow, Path.ofText_text (below_wellFormed hhome (Path.ofText_wellFormed argument))]
  rewrite [fileAt, hread]
  rfl

theorem pathBelow_injective {home home' : Path} (hhome : home.WellFormed)
    (hhome' : home'.WellFormed) (h : pathBelow home argument = pathBelow home' argument) :
    home = home' :=
  below_injective (Path.text_injective
    (below_wellFormed hhome (Path.ofText_wellFormed argument))
    (below_wellFormed hhome' (Path.ofText_wellFormed argument)) h)

theorem filterMap_eq_singleton {α β : Type} {f : α → Option β} {xs : List α} {a : α} {b : β}
    (hxs : xs.Nodup) (ha : a ∈ xs) (hb : f a = some b) (hothers : ∀ x ∈ xs, x ≠ a → f x = none) :
    xs.filterMap f = [b] := by
  obtain ⟨front, back, rfl⟩ := List.append_of_mem ha
  obtain ⟨-, hback, hapart⟩ := List.nodup_append.mp hxs
  have hfront : front.filterMap f = [] := by
    rw [List.filterMap_eq_nil_iff]
    exact fun x hx => hothers x (by simp [hx]) fun heq => hapart x hx a (by simp) heq
  have hrest : back.filterMap f = [] := by
    rw [List.filterMap_eq_nil_iff]
    refine fun x hx => hothers x (by simp [hx]) ?_
    rintro rfl
    exact (List.nodup_cons.mp hback).1 hx
  rw [List.filterMap_append, hfront, List.filterMap_cons, hb, hrest]
  rfl

section Own

variable (hfile : env.files.isFile (pathBelow env.homeDirectory argument) = .ok true)

include hfile

theorem fileAt_own : fileAt env (pathBelow env.homeDirectory argument)
    = some (.ok (pathBelow env.homeDirectory argument)) := by
  rw [fileAt_pathBelow env.homeDirectory_wellFormed, hfile]

variable (habsolute : env.homeDirectory.isAbsolute = true)

include habsolute

theorem isPresent_pathBelow :
    env.files.isPresent (pathBelow env.homeDirectory argument) = true := by
  have hstart := (isAbsolute_iff _).mp habsolute
  exact Files.Tree.isPresent_of_isFile hstart (by simp)
    (isComponent_below hstart (nul_of_isFile hfile)) hfile

/-- Names that the home directory describes are those of a home directory. -/
theorem wellFormed_of_describes {names : List Text}
    (hdescribed : List.Forall₂ Files.Describes env.homeDirectory.names names) :
    Path.WellFormed ⟨env.homeDirectory.start, names⟩ := by
  have hcomponents := isComponent_below ((isAbsolute_iff _).mp habsolute) (nul_of_isFile hfile)
  intro name hname
  have hcomponent := Files.isComponent_of_describes hdescribed
    (fun p hp => hcomponents p (List.mem_append_left _ hp)) name hname
  exact ⟨hcomponent.isName, hcomponent.no_slash⟩

theorem eq_home_of_pathBelow {names : List Text}
    (hdescribed : List.Forall₂ Files.Describes env.homeDirectory.names names)
    (heq : pathBelow ⟨env.homeDirectory.start, names⟩ argument
      = pathBelow env.homeDirectory argument) : names = env.homeDirectory.names :=
  congrArg Path.names (pathBelow_injective (wellFormed_of_describes hfile habsolute hdescribed)
    env.homeDirectory_wellFormed heq)

variable (htidy : env.files.Tidy) (h : IsLiteral argument)

include htidy h

/-- A literal argument names what stands under it below the home directories that the home
directory of the run describes. -/
theorem mem_named_iff (item : Except LoadError Text) :
    item ∈ named env argument ↔ ∃ names,
      List.Forall₂ Files.Describes env.homeDirectory.names names ∧
      env.files.isPresent (pathBelow ⟨env.homeDirectory.start, names⟩ argument) = true ∧
      fileAt env (pathBelow ⟨env.homeDirectory.start, names⟩ argument) = some item := by
  obtain ⟨found, hout, -, hmem⟩ :=
    expand_pathBelow htidy habsolute h (nul_of_isFile hfile)
  rw [named_eq hout, List.mem_filterMap]
  constructor
  · rintro ⟨path, hpath, hat⟩
    obtain ⟨names, rfl, hdescribed, hpresent⟩ := (hmem path).mp hpath
    exact ⟨names, hdescribed, hpresent, hat⟩
  · rintro ⟨names, hdescribed, hpresent, hat⟩
    exact ⟨_, (hmem _).mpr ⟨names, rfl, hdescribed, hpresent⟩, hat⟩

/-- The file is found just when the home directory describes itself. -/
theorem own_mem_named_iff : .ok (pathBelow env.homeDirectory argument) ∈ named env argument ↔
    DescribesItself env.homeDirectory := by
  rw [mem_named_iff hfile habsolute htidy h]
  constructor
  · rintro ⟨names, hdescribed, -, hat⟩
    rw [fileAt_pathBelow (wellFormed_of_describes hfile habsolute hdescribed)] at hat
    split at hat
    · cases hat
    · have hsame := eq_home_of_pathBelow hfile habsolute hdescribed
        (Except.ok.inj (Option.some.inj hat))
      subst hsame
      exact List.forall₂_same.mp hdescribed
    · cases hat
  · intro hself
    exact ⟨env.homeDirectory.names, List.forall₂_same.mpr hself,
      isPresent_pathBelow hfile habsolute, fileAt_own hfile⟩

/-- It is the only one just when the home directory has no rival besides. -/
theorem named_eq_own_iff : named env argument = [.ok (pathBelow env.homeDirectory argument)] ↔
    DescribesItself env.homeDirectory ∧ ∀ names, ¬ Rival env argument names := by
  constructor
  · intro hnamed
    refine ⟨(own_mem_named_iff hfile habsolute htidy h).mp (by simp [hnamed]), ?_⟩
    intro names hrival
    have hpath := @fileAt_pathBelow env _
      (wellFormed_of_describes hfile habsolute hrival.described) argument
    obtain ⟨item, hitem⟩ : ∃ item,
        fileAt env (pathBelow ⟨env.homeDirectory.start, names⟩ argument) = some item := by
      rw [hpath]
      split
      · exact ⟨_, rfl⟩
      · exact ⟨_, rfl⟩
      next hpassed => exact absurd hpassed hrival.not_passed
    have hmem := (mem_named_iff hfile habsolute htidy h item).mpr
      ⟨names, hrival.described, hrival.present, hitem⟩
    rw [hnamed, List.mem_singleton] at hmem
    subst hmem
    rw [hpath] at hitem
    split at hitem
    · cases hitem
    · exact hrival.other (eq_home_of_pathBelow hfile habsolute hrival.described
        (Except.ok.inj (Option.some.inj hitem)))
    · cases hitem
  · rintro ⟨hself, hrivals⟩
    obtain ⟨found, hout, hnodup, hmem⟩ :=
      expand_pathBelow htidy habsolute h (nul_of_isFile hfile)
    have hown : pathBelow env.homeDirectory argument ∈ found :=
      (hmem _).mpr ⟨_, rfl, List.forall₂_same.mpr hself, isPresent_pathBelow hfile habsolute⟩
    rw [named_eq hout]
    apply filterMap_eq_singleton hnodup hown (fileAt_own hfile)
    intro path hpath hne
    obtain ⟨names, rfl, hdescribed, hpresent⟩ := (hmem path).mp hpath
    have hother : names ≠ env.homeDirectory.names := by
      rintro rfl
      exact hne rfl
    have hpassed : env.files.isFile (pathBelow ⟨env.homeDirectory.start, names⟩ argument)
        = .ok false := by
      by_contra hnot
      exact hrivals names ⟨hdescribed, hother, hpresent, hnot⟩
    rw [fileAt_pathBelow (wellFormed_of_describes hfile habsolute hdescribed), hpassed]

end Own

end Named

/-! ## Lines above the first Host line -/

section Top

variable {env : Environment}

theorem mem_lines_ofItems_rest {body : Text → Reading} {rest : Reading} {outer : Scope}
    {above : Option (List Text)} {g : Governed} (h : g ∈ rest.lines outer above)
    (items : List (Except LoadError Text)) :
    g ∈ (Reading.ofItems body rest items).lines outer above := by
  induction items with
  | nil => exact h
  | cons item items ih =>
      cases item with
      | error e => exact ih
      | ok path => exact List.mem_append_right _ ih

theorem mem_lines_ofItems_body {body : Text → Reading} {path : Text} {outer : Scope}
    {above : Option (List Text)} {g : Governed}
    (h : g ∈ (body path).lines (outer ++ above.toList) none) (rest : Reading)
    {items : List (Except LoadError Text)} (hitem : .ok path ∈ items) :
    g ∈ (Reading.ofItems body rest items).lines outer above := by
  induction items with
  | nil => cases hitem
  | cons item items ih =>
      rcases List.mem_cons.mp hitem with rfl | hmore
      · exact List.mem_append_left _ h
      · cases item with
        | error e => exact ih hmore
        | ok path' => exact List.mem_append_right _ (ih hmore)

/-- Lines without Host lines among them leave what follows above the first Host line. -/
theorem mem_lines_ofLines {path : Text} {bring : Nat → Text → Reading → Reading}
    {outer : Scope} {g : Governed}
    (hbring : ∀ number value rest, g ∈ rest.lines outer none →
      g ∈ (bring number value rest).lines outer none) {front back : List (Nat × Text)}
    (hfront : ∀ l ∈ front, ∀ patterns, Statement.ofLine l.2 ≠ .ok (some (.host patterns)))
    (h : g ∈ (Reading.ofLines path bring back).lines outer none) :
    g ∈ (Reading.ofLines path bring (front ++ back)).lines outer none := by
  induction front with
  | nil => exact h
  | cons numbered front ih =>
      obtain ⟨number, line⟩ := numbered
      rw [List.forall_mem_cons] at hfront
      have hmore := ih hfront.2
      rw [List.cons_append, Reading.ofLines]
      cases hline : Statement.ofLine line with
      | error problem => exact hmore
      | ok statement =>
          rcases statement with - | patterns | value | d
          · exact hmore
          · exact absurd hline (hfront.1 patterns)
          · exact hbring number value _ hmore
          · exact List.mem_cons_of_mem _ hmore

theorem mem_lines_brings {left : Nat} {path value : Text} {number : Nat} {rest : Reading}
    {outer : Scope} {g : Governed} (h : g ∈ rest.lines outer none) :
    g ∈ (brings env left path number value rest).lines outer none := by
  cases left with
  | zero => exact h
  | succ left => exact mem_lines_ofItems_rest h _

/-- What a line above the first Host line of a file brings is met when the file is read. -/
theorem AtTop.mem_reading {path line : Text} (h : AtTop env path line)
    (hnul : path.contains Files.nul = false) {left : Nat} {outer : Scope} {g : Governed}
    (hline : ∀ number rest,
      g ∈ (Reading.ofLines path (brings env left path) ((number, line) :: rest)).lines outer none) :
    g ∈ (reading env left path).lines outer none := by
  obtain ⟨hread, hlines, hfront⟩ := h
  rw [← Text.map_snd_numberedLines] at hlines
  obtain ⟨front, more, hsplit, hfrontLines, hmore⟩ := List.map_eq_append_iff.mp hlines
  obtain ⟨⟨number, _⟩, rest, rfl, rfl, -⟩ := List.map_eq_cons_iff.mp hmore
  simp only [reading_eq, Reading.ofFile, hnul, Bool.false_eq_true, if_false, hread, hsplit]
  apply mem_lines_ofLines (fun number value rest => mem_lines_brings)
  · intro l hl
    exact hfront l.2 (hfrontLines ▸ List.mem_map_of_mem hl)
  · exact hline number rest

theorem AtTop.mem_lines {path line : Text} (h : AtTop env path line)
    (hnul : path.contains Files.nul = false) {d : Directive}
    (hline : Statement.ofLine line = .ok (some (.directive d))) (left : Nat) (outer : Scope) :
    (⟨outer, d⟩ : Governed) ∈ (reading env left path).lines outer none := by
  apply h.mem_reading hnul
  intro number rest
  rw [Reading.ofLines]
  simp only [hline]
  simp [Reading.lines]

theorem IncludesAtTop.mem_lines {path argument next : Text} (h : IncludesAtTop env path argument)
    (hnul : path.contains Files.nul = false) (hnext : .ok next ∈ named env argument) {left : Nat}
    {outer : Scope} {g : Governed} (hg : g ∈ (reading env left next).lines outer none) :
    g ∈ (reading env (left + 1) path).lines outer none := by
  obtain ⟨line, value, list, htop, hline, hlist, hargument⟩ := h
  apply htop.mem_reading hnul
  intro number rest
  rw [Reading.ofLines]
  simp only [hline]
  apply mem_lines_ofItems_body (by simpa using hg)
  rw [included, hlist]
  exact List.mem_flatMap.mpr ⟨argument, hargument, hnext⟩

theorem exists_section_of_filed {n : Nat} {xs : List Section} {a : Filed}
    (h : a ∈ sectionsFiled n xs) :
    ∃ s ∈ xs, a.scope = s.scope ∧ a.directive ∈ s.directives := by
  induction xs generalizing n with
  | nil => cases h
  | cons s xs ih =>
      rcases List.mem_append.mp h with h | h
      · obtain ⟨d, hd, rfl⟩ := List.mem_map.mp h
        exact ⟨s, List.mem_cons_self, rfl, hd⟩
      · obtain ⟨s', hs', hscope, hd⟩ := ih h
        exact ⟨s', List.mem_cons_of_mem _ hs', hscope, hd⟩

/-- A filed line applies to the names that its scope covers. -/
theorem mem_applying_of_mem_filed {c : Contents} {a : Filed} (h : a ∈ c.filed [] 0 1)
    {name : Text} (hcovers : a.scope.covers name = true) : a.directive ∈ c.applying name := by
  rcases List.mem_append.mp h with h | h
  · obtain ⟨d, hd, rfl⟩ := List.mem_map.mp h
    exact List.mem_append_left _ hd
  · obtain ⟨s, hs, hscope, hd⟩ := exists_section_of_filed h
    apply List.mem_append_right
    exact List.mem_flatMap.mpr ⟨s, List.mem_filter.mpr ⟨hs, hscope ▸ hcovers⟩, hd⟩

/-- A line that no Host line governs applies to every name. -/
theorem mem_applying_of_mem_lines {root : Path} {config : HostConfig} {d : Directive}
    (hload : ofFile env root = .ok config)
    (h : (⟨[], d⟩ : Governed) ∈ (reading env maxIncludeDepth root.text).lines [] none)
    (name : Text) : d ∈ config.contents.applying name := by
  rw [← Reading.filed_lines _ [] none 0 1] at h
  obtain ⟨a, ha, hline⟩ := List.mem_map.mp h
  obtain ⟨hscope, rfl⟩ := Governed.mk.inj hline
  apply mem_applying_of_mem_filed ((sameFiling_of_ofFile hload).perm.mem_iff.mp ha)
  rw [hscope]
  rfl

theorem nul_of_ofFile {root : Path} {config : HostConfig} (h : ofFile env root = .ok config) :
    root.text.contains Files.nul = false := by
  cases hnul : root.text.contains Files.nul with
  | false => rfl
  | true =>
      rw [ofFile, maxIncludeDepth, load, readFile, if_pos hnul] at h
      cases h

/-- A text without blanks and without quotes is one argument. -/
theorem argumentsFrom_plain {t : Text} (h : ∀ c ∈ t, Text.isBlank c = false ∧ c ≠ '"') :
    argumentsFrom false t = some (t, []) := by
  induction t with
  | nil => rfl
  | cons c t ih =>
      rw [List.forall_mem_cons] at h
      rw [argumentsFrom, if_neg h.1.2, if_neg (by simp [h.1.1]), ih h.2]
      rfl

/-- Every spelling of an Include line has the argument that is written out in it. -/
theorem IncludesAtTop.of_spells {path line keyword argument : Text} (htop : AtTop env path line)
    (hline : Spells line keyword argument) (hkeyword : IsName keyword)
    (hinclude : Text.lower keyword = "include".toList) (hvalue : IsValue argument)
    (hplain : ∀ c ∈ argument, Text.isBlank c = false ∧ c ≠ '"') :
    IncludesAtTop env path argument := by
  have hbare : withoutComment argument = argument := by
    rw [withoutComment,
      beforeComment_eq_self (noComment_of_not_blank fun c hc => (hplain c hc).1),
      Text.trimEnd_eq_self hvalue.last]
  refine ⟨line, argument, [argument], htop, ?_, ?_, List.mem_singleton_self argument⟩
  · rw [hline.ofLine hkeyword hvalue, hbare, hinclude]
    rfl
  · rw [arguments?, argumentsFrom_plain hplain]
    simp [consArgument, hvalue.ne_nil]

end Top

/-- An Include line that writes out the name of a file reaches it under every home directory whose
names describe themselves, and only under these; it reaches no other file just when the home
directory describes no rival. What the file has above its first Host line then applies to every
alias of a configuration with the Include line above its first Host line. -/
theorem literal_include_iff {env : Environment} {argument : Text} (htidy : env.files.Tidy)
    (habsolute : env.homeDirectory.isAbsolute = true) (h : IsLiteral argument)
    (hfile : env.files.isFile (pathBelow env.homeDirectory argument) = .ok true) :
    (named env argument = [.ok (pathBelow env.homeDirectory argument)] ↔
      DescribesItself env.homeDirectory ∧ ∀ names, ¬ Rival env argument names) ∧
    (.ok (pathBelow env.homeDirectory argument) ∈ named env argument ↔
      DescribesItself env.homeDirectory) ∧
    (DescribesItself env.homeDirectory → ∀ root config, ofFile env root = .ok config →
      IncludesAtTop env root.text argument → ∀ line d,
        AtTop env (pathBelow env.homeDirectory argument) line →
        Statement.ofLine line = .ok (some (.directive d)) →
        ∀ name, d ∈ config.contents.applying name) := by
  have hown := own_mem_named_iff hfile habsolute htidy h
  refine ⟨named_eq_own_iff hfile habsolute htidy h, hown, ?_⟩
  intro hself root config hload hincludes line d htop hline
  apply mem_applying_of_mem_lines hload
  apply hincludes.mem_lines (nul_of_ofFile hload) (hown.mpr hself)
  exact htop.mem_lines (nul_of_isFile hfile) hline _ _

/-- A home directory without wildcards describes itself only. -/
theorem describesItself_of_plain {env : Environment} (argument : Text)
    (h : ∀ name ∈ env.homeDirectory.names, Text.Glob.hasWildcard name = false) :
    DescribesItself env.homeDirectory ∧ ∀ names, ¬ Rival env argument names := by
  constructor
  · exact fun name hname => Files.describes_self (h name hname)
  · intro names hrival
    exact hrival.other ((Files.describes_plain_path_iff h).mp hrival.described)

/-- A home directory of this name, with a configuration that includes another file. -/
def homeSample (name : Text) : Environment where
  files :=
    { nodes :=
        [([name], .directory), ([name, ".ssh".toList], .directory),
          ([name, ".ssh".toList, "config".toList], .file (Utf8.encode "Include inc\n".toList)),
          ([name, ".ssh".toList, "inc".toList], .file (Utf8.encode "User me\n".toList))]
      workingDirectory := [] }
  home := some ('/' :: name)
  accountHome := "/".toList
  debug := none

theorem includesAtTop_inc {env : Environment} {path : Text}
    (h : AtTop env path "Include inc".toList) : IncludesAtTop env path "inc".toList := by
  have hplain : ∀ c ∈ "inc".toList, Text.isBlank c = false ∧ c ≠ '"' := by
    intro c hc
    obtain rfl | rfl | rfl : c = 'i' ∨ c = 'n' ∨ c = 'c' := by simpa using hc
    all_goals decide
  exact .of_spells h (spells_space "Include".toList "inc".toList) (by decide +kernel)
    (by decide +kernel) (by decide +kernel) hplain

/-- A home directory with a bracket in its name does not describe itself: the file is there, and
the Include line reaches nothing. -/
theorem bracketHome_missesInclude :
    let env := homeSample "h[x]".toList
    let root := env.homeDirectory.userConfig
    let own := pathBelow env.homeDirectory "inc".toList
    env.files.Tidy ∧ env.homeDirectory.isAbsolute = true ∧ IsLiteral "inc".toList ∧
      env.files.isFile own = .ok true ∧ IncludesAtTop env root.text "inc".toList ∧
      AtTop env own "User me".toList ∧ named env "inc".toList = [] ∧
      ∃ config, ofFile env root = .ok config ∧ (config.lookup "a".toList).user = [] := by
  intro env root own
  have hinclude : AtTop env root.text "Include inc".toList :=
    @AtTop.intro _ _ _ (Utf8.encode "Include inc\n".toList) [] [] (by decide +kernel)
      (by decide +kernel) (by simp)
  have hincludes := includesAtTop_inc hinclude
  have huser : AtTop env own "User me".toList :=
    @AtTop.intro _ _ _ (Utf8.encode "User me\n".toList) [] [] (by decide +kernel)
      (by decide +kernel) (by simp)
  exact ⟨by decide +kernel, by decide +kernel, by decide +kernel, by decide +kernel, hincludes,
    huser, by decide +kernel, ⟨root, Contents.empty⟩, by decide +kernel, by decide +kernel⟩

theorem homeSample_reachesInclude :
    let env := homeSample "h".toList
    let root := env.homeDirectory.userConfig
    named env "inc".toList = [.ok (pathBelow env.homeDirectory "inc".toList)] ∧
      ∃ config, ofFile env root = .ok config ∧
        ⟨"user".toList, "me".toList⟩ ∈ config.contents.applying "a".toList := by
  intro env root
  have htidy : env.files.Tidy := by decide +kernel
  have habsolute : env.homeDirectory.isAbsolute = true := by decide +kernel
  have hliteral : IsLiteral "inc".toList := by decide +kernel
  have hfile : env.files.isFile (pathBelow env.homeDirectory "inc".toList) = .ok true := by
    decide +kernel
  have hplain : ∀ name ∈ env.homeDirectory.names, Text.Glob.hasWildcard name = false := by
    decide +kernel
  have hhome := describesItself_of_plain "inc".toList hplain
  have hiff := literal_include_iff htidy habsolute hliteral hfile
  have hinclude : AtTop env root.text "Include inc".toList :=
    @AtTop.intro _ _ _ (Utf8.encode "Include inc\n".toList) [] [] (by decide +kernel)
      (by decide +kernel) (by simp)
  have hincludes := includesAtTop_inc hinclude
  have huser : AtTop env (pathBelow env.homeDirectory "inc".toList) "User me".toList :=
    @AtTop.intro _ _ _ (Utf8.encode "User me\n".toList) [] [] (by decide +kernel)
      (by decide +kernel) (by simp)
  have hloads : (ofFile env root).isOk = true := by decide +kernel
  refine ⟨hiff.1.mpr hhome, ?_⟩
  cases hload : ofFile env root with
  | error e =>
      rw [hload] at hloads
      cases hloads
  | ok config =>
      exact ⟨config, rfl, hiff.2.2 hhome.1 root config hload hincludes _ _ huser
        (by decide +kernel) "a".toList⟩

end SshTunnel.HostConfig
