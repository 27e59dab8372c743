import SshTunnel.Proofs.HostConfig.Depth
import SshTunnel.Proofs.HostConfig.Grammar
import SshTunnel.Proofs.HostConfig.Quotes

/-!
# Recorded values

The directives of a loaded configuration are those of the lines of its files, and of no other
lines. A value is recorded as empty for the lines that write an empty pair of quotes. An empty
field means that nothing is set unless such a line comes before one that sets the field.
-/

namespace SshTunnel.HostConfig

/-- All directives of a file and of the files it names. -/
def Contents.directives (c : Contents) : List Directive :=
  c.top ++ c.sections.flatMap (·.directives)

/-- The file at a path can be opened and has this line. -/
inductive HasLine (env : Environment) (path line : Text) : Prop where
  | intro {content : Bytes} (hnul : path.contains Files.nul = false)
      (hread : env.files.read path = .ok content) (hmem : line ∈ Text.lines (textOf content))

/-- The line is one of the file at a path, or of one that Include lines lead to from it. -/
def IsLineOf (env : Environment) (root line : Text) : Prop :=
  ∃ path, Relation.ReflTransGen (Names env) root path ∧ HasLine env path line

/-- The line sets a directive and writes an empty pair of quotes for its value. -/
def SetsNothing (line : Text) : Prop :=
  ∃ keyword, Writes line keyword ['"', '"'] ∧
    Text.lower keyword ∉ reserved

/-- An empty field is one that no applying line sets, and no identity file is empty. -/
structure EmptyMeansUnset (r : Reading) (name : Text) (e : HostEntry) : Prop where
  hostname : e.hostname = [] → ∀ value ∈ r.values name "hostname".toList, value = []
  user : e.user = [] → ∀ value ∈ r.values name "user".toList, value = []
  port : e.port = [] → ∀ value ∈ r.values name "port".toList, value = []
  identityFile : e.identityFile = [] → ∀ value ∈ r.values name "identityfile".toList, value = []
  identityFiles : [] ∉ e.identityFiles

variable {env : Environment}

/-! ## The directives of a reading -/

namespace Reading

/-- The directives in reading order. -/
def directives : Reading → List Directive
  | done => []
  | problem _ rest => rest.directives
  | host _ rest => rest.directives
  | directive d rest => d :: rest.directives
  | file body rest => body.directives ++ rest.directives
  | resume rest => rest.directives

theorem lines_directive (r : Reading) (outer : Scope) (above : Option (List Text)) :
    (r.lines outer above).map (·.directive) = r.directives := by
  induction r generalizing outer above with
  | done => rfl
  | problem _ rest ih => exact ih outer above
  | host patterns rest ih => exact ih outer (some patterns)
  | directive d rest ih => rw [lines, List.map_cons, ih, directives]
  | file body rest ihbody ih => rw [lines, List.map_append, ihbody, ih, directives]
  | resume rest ih => exact ih outer above

theorem mem_directives_ofItems (body : Text → Reading) (rest : Reading) (d : Directive)
    (items : List (Except LoadError Text)) :
    d ∈ (ofItems body rest items).directives ↔
      (∃ path, .ok path ∈ items ∧ d ∈ (body path).directives) ∨ d ∈ rest.directives := by
  induction items with
  | nil => simp [ofItems, directives]
  | cons item items ih =>
      cases item with
      | error e => simp [ofItems, directives, ih]
      | ok path => simp [ofItems, directives, ih, or_assoc, or_and_right, exists_or]

/-- A directive among those of lines stands on one of them or is brought in by one. -/
theorem mem_directives_ofLines {path : Text} {bring : Nat → Text → Reading → Reading}
    {brought : Nat → Text → Prop} {d : Directive}
    (hbring : ∀ number value rest, d ∈ (bring number value rest).directives ↔
      brought number value ∨ d ∈ rest.directives) (lines : List (Nat × Text)) :
    d ∈ (ofLines path bring lines).directives ↔
      (∃ numbered ∈ lines, Statement.ofLine numbered.2 = .ok (some (.directive d))) ∨
        ∃ numbered ∈ lines, ∃ value, Statement.ofLine numbered.2 = .ok (some (.files value)) ∧
          brought numbered.1 value := by
  induction lines with
  | nil => simp [ofLines, directives]
  | cons numbered lines ih =>
      obtain ⟨number, line⟩ := numbered
      rw [ofLines]
      cases hline : Statement.ofLine line with
      | error problem => simp [directives, ih, hline]
      | ok statement =>
          rcases statement with - | patterns | value | d'
          · simp [ih, hline]
          · simp [directives, ih, hline]
          · simp [hbring, ih, hline, or_left_comm]
          · simp [directives, ih, hline, or_assoc, eq_comm]

end Reading

theorem Names.of_mem_included {path next value : Text} {number : Nat}
    (hinclude : IncludeAt env path number value)
    (hmem : .ok next ∈ included env path number value) :
    env.tellsHome = true ∧ Names env path next := by
  unfold included at hmem
  cases hlist : arguments? value with
  | none => simp [hlist] at hmem
  | some list =>
      rw [hlist] at hmem
      obtain ⟨argument, hargument, hmem⟩ := List.mem_flatMap.mp hmem
      cases hexpand : expandArgument env argument with
      | error e => simp [named, hexpand] at hmem
      | ok found =>
          rw [named_eq hexpand] at hmem
          obtain ⟨hhome, hexpand⟩ := expandArgument_eq_ok_iff.mp hexpand
          obtain ⟨name, hname, hat⟩ := List.mem_filterMap.mp hmem
          unfold fileAt at hat
          split at hat
          · cases hat
          next hkind =>
            cases hat
            exact ⟨hhome, .intro hinclude hlist hargument hexpand hname hkind⟩
          · cases hat

theorem mem_directives_brings (left : Nat) (path : Text) (d : Directive) (number : Nat)
    (value : Text) (rest : Reading) :
    d ∈ (brings env left path number value rest).directives ↔
      (∃ below next, left = below + 1 ∧ .ok next ∈ included env path number value ∧
        d ∈ (reading env below next).directives) ∨ d ∈ rest.directives := by
  cases left with
  | zero => simp [brings, Reading.directives]
  | succ left => simp [brings, Reading.mem_directives_ofItems]

/-- The directives of a file that is opened: those on its own lines, and those of the files that
it names, if the home directory is known. -/
theorem mem_directives_opened {left : Nat} {path : Text} {content : Bytes} {d : Directive}
    (hnul : path.contains Files.nul = false) (hread : env.files.read path = .ok content) :
    d ∈ (reading env left path).directives ↔
      (∃ line ∈ Text.lines (textOf content), Statement.ofLine line = .ok (some (.directive d))) ∨
        ∃ below next, left = below + 1 ∧ (env.tellsHome = true ∧ Names env path next) ∧
          d ∈ (reading env below next).directives := by
  simp only [reading_eq env left, Reading.ofFile, hnul, Bool.false_eq_true, if_false, hread]
  rw [Reading.mem_directives_ofLines (mem_directives_brings left path d)]
  refine or_congr ?_ ?_
  · rw [← Text.map_snd_numberedLines]
    simp only [List.mem_map, exists_exists_and_eq_and]
  · constructor
    · rintro ⟨⟨number, line⟩, hmem, value, hline, below, next, hleft, hnext, hd⟩
      exact ⟨below, next, hleft, Names.of_mem_included ⟨hnul, hread, hmem, hline⟩ hnext, hd⟩
    · rintro ⟨below, next, hleft, ⟨hhome, hnames⟩, hd⟩
      obtain ⟨number, value, ⟨-, hread', hmem, hline⟩, hnext⟩ := hnames.mem_included hhome
      cases hread.symm.trans hread'
      exact ⟨(number, _), hmem, value, hline, below, next, hleft, hnext, hd⟩

theorem directives_unopened {left : Nat} {path : Text}
    (h : ∀ content, path.contains Files.nul = false → env.files.read path ≠ .ok content) :
    (reading env left path).directives = [] := by
  rw [reading_eq, Reading.ofFile]
  split
  · rfl
  next hnul =>
    cases hread : env.files.read path with
    | error e => rfl
    | ok content => exact absurd hread (h content (Bool.eq_false_iff.mpr hnul))

/-- Without a problem, what a file names is read without one too, below the limit. -/
theorem problem?_of_names {left : Nat} {path next : Text} (hnames : Names env path next)
    (h : (reading env left path).problem? = none) :
    ∃ below, left = below + 1 ∧ env.tellsHome = true ∧
      (reading env below next).problem? = none := by
  have hhome : env.tellsHome = true := by
    by_contra hhome
    exact hnames.problem?_homeless (Bool.eq_false_iff.mpr hhome) left h
  obtain ⟨number, value, hinclude, hmem⟩ := hnames.mem_included hhome
  cases left with
  | zero => exact absurd h (problem?_reading_of_leads (n := 0) ⟨number, value, hinclude⟩)
  | succ below =>
      refine ⟨below, rfl, hhome, ?_⟩
      by_contra hproblem
      apply problem?_reading_of_include hinclude _ h
      intro rest hnone
      rw [brings, problem?_ofItems_or] at hnone
      refine itemsProblem?_ne_none hmem (fun file hfile => ?_) (Option.or_eq_none_iff.mp hnone).1
      exact Except.ok.inj hfile ▸ hproblem

/-- The directives of a reading without a problem are those of the lines of its files. -/
theorem mem_directives_reading {left : Nat} {path : Text} {d : Directive}
    (h : (reading env left path).problem? = none) :
    d ∈ (reading env left path).directives ↔
      ∃ line, IsLineOf env path line ∧ Statement.ofLine line = .ok (some (.directive d)) := by
  constructor
  · intro hd
    clear h
    induction left using Nat.strongRecOn generalizing path with
    | ind left ih =>
        by_cases hopen : ∃ content, path.contains Files.nul = false ∧
            env.files.read path = .ok content
        · obtain ⟨content, hnul, hread⟩ := hopen
          rcases (mem_directives_opened hnul hread).mp hd with
            ⟨line, hmem, hline⟩ | ⟨below, next, rfl, ⟨-, hnames⟩, hd⟩
          · exact ⟨line, ⟨path, .refl, hnul, hread, hmem⟩, hline⟩
          · obtain ⟨line, ⟨last, hchain, hhas⟩, hline⟩ := ih below (Nat.lt_succ_self below) hd
            exact ⟨line, ⟨last, .head hnames hchain, hhas⟩, hline⟩
        · rw [directives_unopened fun content hnul hread => hopen ⟨content, hnul, hread⟩] at hd
          cases hd
  · rintro ⟨line, ⟨last, hchain, hnul, hread, hmem⟩, hline⟩
    induction hchain using Relation.ReflTransGen.head_induction_on generalizing left with
    | refl => exact (mem_directives_opened hnul hread).mpr (Or.inl ⟨line, hmem, hline⟩)
    | head hnames _ ih =>
        obtain ⟨below, rfl, hhome, hbelow⟩ := problem?_of_names hnames h
        obtain ⟨number, value, ⟨hnul', hread', -, -⟩, -⟩ := hnames.mem_included hhome
        exact (mem_directives_opened hnul' hread').mpr
          (Or.inr ⟨below, _, rfl, ⟨hhome, hnames⟩, ih hbelow⟩)

/-! ## The directives of loaded contents -/

theorem directives_sectionsFiled (n : Nat) (xs : List Section) :
    (sectionsFiled n xs).map (·.directive) = xs.flatMap (·.directives) := by
  induction xs generalizing n with
  | nil => rfl
  | cons s xs ih =>
      rw [sectionsFiled, List.map_append, ih, List.flatMap_cons, Section.filed, List.map_map]
      exact congrArg (· ++ _) (List.map_id _)

theorem directives_filed (c : Contents) (outer : Scope) (place fresh : Nat) :
    (c.filed outer place fresh).map (·.directive) = c.directives := by
  rw [Contents.filed, List.map_append, directives_sectionsFiled, List.map_map,
    Contents.directives]
  exact congrArg (· ++ _) (List.map_id _)

section Loaded

variable {root : Path} {config : HostConfig}

theorem directives_perm (h : ofFile env root = .ok config) :
    config.contents.directives.Perm (reading env maxIncludeDepth root.text).directives := by
  rw [← directives_filed _ [] 0 1, ← Reading.lines_directive _ [] none,
    ← Reading.filed_lines _ [] none 0 1, List.map_map]
  exact ((sameFiling_of_ofFile h).perm.map _).symm

/-- A loaded configuration records the directives of the lines of its files. -/
theorem mem_directives_iff (h : ofFile env root = .ok config) (d : Directive) :
    d ∈ config.contents.directives ↔
      ∃ line, IsLineOf env root.text line ∧ Statement.ofLine line = .ok (some (.directive d)) := by
  have hproblem : (reading env maxIncludeDepth root.text).problem? = none := by
    rw [problem?_reading env _ [], ← errorOf_map (HostConfig.mk root), ← ofFile, h]
    rfl
  rw [(directives_perm h).mem_iff, mem_directives_reading hproblem]

/-- An empty value is recorded for a line with an empty pair of quotes, and for no other. -/
theorem setsNothing_iff (line : Text) : SetsNothing line ↔
    ∃ d, Statement.ofLine line = .ok (some (.directive d)) ∧ d.value = [] := by
  simp only [ofLine_eq_some_iff, ofParts_eq_directive_iff]
  constructor
  · rintro ⟨keyword, hwrites, hkeyword⟩
    exact ⟨⟨Text.lower keyword, []⟩,
      ⟨keyword, _, hwrites, List.cons_ne_nil _ _, hkeyword,
        (unquote?_eq_nil_iff (List.cons_ne_nil _ _)).mpr rfl, rfl⟩, rfl⟩
  · rintro ⟨d, ⟨keyword, value, hwrites, hvalue, hkeyword, hunquote, -⟩, hnil⟩
    rw [hnil, unquote?_eq_nil_iff hvalue] at hunquote
    exact ⟨keyword, hunquote ▸ hwrites, hkeyword⟩

theorem nonempty_iff (h : ofFile env root = .ok config) :
    (∀ d ∈ config.contents.directives, d.value ≠ []) ↔
      ∀ line, IsLineOf env root.text line → ¬ SetsNothing line := by
  simp only [mem_directives_iff h, setsNothing_iff]
  constructor
  · rintro hall line hmem ⟨d, hline, hnil⟩
    exact hall d ⟨line, hmem, hline⟩ hnil
  · rintro hall d ⟨line, hmem, hline⟩ hnil
    exact hall line hmem ⟨d, hline, hnil⟩

/-- A value that applies is one of a directive that is recorded. -/
theorem exists_directive_of_value (h : ofFile env root = .ok config) {name keyword value : Text}
    (hmem : value ∈ (reading env maxIncludeDepth root.text).values name keyword) :
    ∃ d ∈ config.contents.directives, d.value = value := by
  obtain ⟨g, hg, rfl⟩ := List.mem_map.mp hmem
  refine ⟨g.directive, ?_, rfl⟩
  rw [(directives_perm h).mem_iff, ← Reading.lines_directive _ [] none]
  exact List.mem_map_of_mem (List.mem_of_mem_filter hg)

/-- A field is empty without need only when the line that leads has an empty value while another
one has not. -/
theorem headD_lookup_nil_iff (h : ofFile env root = .ok config) (name keyword : Text) :
    ((valuesOf keyword (config.contents.applying name)).headD [] = [] →
        ∀ value ∈ (reading env maxIncludeDepth root.text).values name keyword, value = []) ↔
      ∀ a ∈ leading? ((reading env maxIncludeDepth root.text).placed name keyword),
        a.directive.value = [] →
          ∀ value ∈ (reading env maxIncludeDepth root.text).values name keyword, value = [] := by
  rw [valuesOf_lookup h, ← Reading.placed_values, ← head?_mergeSort]
  generalize (reading env maxIncludeDepth root.text).placed name keyword = L
  have hperm := List.mergeSort_perm L byPlace
  cases hsort : L.mergeSort byPlace with
  | nil =>
      rw [hsort] at hperm
      simp [hperm.nil_eq.symm]
  | cons a S => simp

theorem emptyMeansUnset_iff (h : ofFile env root = .ok config) (name : Text) :
    let r := reading env maxIncludeDepth root.text
    EmptyMeansUnset r name (config.lookup name) ↔
      (∀ keyword ∈ ["hostname".toList, "user".toList, "port".toList, "identityfile".toList],
        ∀ a ∈ leading? (r.placed name keyword), a.directive.value = [] →
          ∀ value ∈ r.values name keyword, value = []) ∧
      [] ∉ r.values name "identityfile".toList := by
  intro r
  have hfield := headD_lookup_nil_iff h name
  have hfiles := (lookup_perm_values h name).1.mem_iff (a := [])
  constructor
  · intro hempty
    refine ⟨?_, fun hmem => hempty.identityFiles (hfiles.mpr hmem)⟩
    intro keyword hkeyword
    simp only [List.mem_cons, List.not_mem_nil, or_false] at hkeyword
    rcases hkeyword with rfl | rfl | rfl | rfl
    · exact (hfield _).mp hempty.hostname
    · exact (hfield _).mp hempty.user
    · exact (hfield _).mp hempty.port
    · exact (hfield _).mp hempty.identityFile
  · rintro ⟨hleading, hnil⟩
    exact
      { hostname := (hfield _).mpr (hleading _ (by simp))
        user := (hfield _).mpr (hleading _ (by simp))
        port := (hfield _).mpr (hleading _ (by simp))
        identityFile := (hfield _).mpr (hleading _ (by simp))
        identityFiles := fun hmem => hnil (hfiles.mp hmem) }

/-- Every recorded value is non-empty just when no line of the configuration sets a directive to
an empty pair of quotes, and then an empty field is one that nothing sets. In general it is one
unless a line with an empty value leads in front of one with a value, or gives an identity
file. -/
theorem recorded_nonempty_iff (h : ofFile env root = .ok config) :
    let r := reading env maxIncludeDepth root.text
    ((∀ d ∈ config.contents.directives, d.value ≠ []) ↔
      ∀ line, IsLineOf env root.text line → ¬ SetsNothing line) ∧
    (∀ name, EmptyMeansUnset r name (config.lookup name) ↔
      (∀ keyword ∈ ["hostname".toList, "user".toList, "port".toList, "identityfile".toList],
        ∀ a ∈ leading? (r.placed name keyword), a.directive.value = [] →
          ∀ value ∈ r.values name keyword, value = []) ∧
      [] ∉ r.values name "identityfile".toList) ∧
    ((∀ line, IsLineOf env root.text line → ¬ SetsNothing line) →
      ∀ name, EmptyMeansUnset r name (config.lookup name)) := by
  intro r
  refine ⟨nonempty_iff h, emptyMeansUnset_iff h, ?_⟩
  intro hlines name
  have hvalues : ∀ keyword, [] ∉ r.values name keyword := by
    intro keyword hmem
    obtain ⟨d, hd, hnil⟩ := exists_directive_of_value h hmem
    exact (nonempty_iff h).mpr hlines d hd hnil
  refine (emptyMeansUnset_iff h name).mpr ⟨?_, hvalues _⟩
  intro keyword _ a ha hnil
  -- The line that leads is one of those that apply, so its value is not empty.
  have hmem : a.directive.value ∈ r.values name keyword := by
    rw [← Reading.placed_values]
    exact List.mem_map_of_mem (List.mem_of_find?_eq_some ha)
  exact absurd (hnil ▸ hmem) (hvalues keyword)

end Loaded

/-- Two users: the first is an empty pair of quotes. -/
def emptyUserSample : Environment :=
  sampleEnvironment [sampleFile "config".toList "User \"\"\nUser me\n"]

theorem emptyUser_shadows : ∃ config, ofFile emptyUserSample samplePath = .ok config ∧
    ⟨"user".toList, []⟩ ∈ config.contents.directives ∧
    (config.lookup "a".toList).user = [] ∧
    ¬ EmptyMeansUnset (reading emptyUserSample maxIncludeDepth samplePath.text) "a".toList
        (config.lookup "a".toList) := by
  have hload : ofFile emptyUserSample samplePath = .ok
      { path := samplePath
        contents :=
          { top := [⟨"user".toList, []⟩, ⟨"user".toList, "me".toList⟩]
            sections := [] } } := by
    decide +kernel
  have hvalues : (reading emptyUserSample maxIncludeDepth samplePath.text).values "a".toList
      "user".toList = [[], "me".toList] := by
    decide +kernel
  refine ⟨_, hload, by decide, by decide +kernel, ?_⟩
  intro hempty
  have huser := hempty.user (by decide +kernel) "me".toList (by rw [hvalues]; decide)
  revert huser
  decide

/-- The sample of nested sections sets no directive to an empty pair of quotes for the alias. -/
theorem nested_emptyMeansUnset : ∃ config, ofFile nestedSample samplePath = .ok config ∧
    EmptyMeansUnset (reading nestedSample maxIncludeDepth samplePath.text) "a".toList
      (config.lookup "a".toList) := by
  obtain ⟨config, h⟩ := nestedSample_loads
  refine ⟨config, h, ((recorded_nonempty_iff h).2.1 "a".toList).mpr ⟨?_, ?_⟩⟩
  · decide +kernel
  · decide +kernel

end SshTunnel.HostConfig
