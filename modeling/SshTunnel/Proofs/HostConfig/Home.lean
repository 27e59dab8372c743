import SshTunnel.Proofs.HostConfig.Reading
import SshTunnel.Proofs.Path.Tilde

/-!
# What the home variable decides about a host configuration

The arguments of Include lines are the only part of a configuration that is looked up below
the home directory of the run. One that is anchored stands for the same pattern in every run,
and any other one for different patterns under different homes. Two runs load the same as long
as the arguments that they come to name the same files.
-/

namespace SshTunnel

/-- The same environment with another value of the home variable. -/
def Environment.withHome (env : Environment) (value : Option Text) : Environment :=
  { env with home := value }

theorem Environment.homeDirectory_wellFormed (env : Environment) :
    env.homeDirectory.WellFormed := by
  unfold homeDirectory
  split <;> exact Path.ofText_wellFormed _

namespace HostConfig

/-- What follows the `~` of an argument and the slash after it. -/
def homeTail? : Text → Option Text
  | ['~'] => some []
  | '~' :: '/' :: rest => some rest
  | _ => none

/-- The argument is an absolute path, or `~` in front of one, which is then taken as it is. -/
def Anchored (argument : Text) : Prop :=
  (Path.ofText ((homeTail? argument).getD argument)).isAbsolute = true

/-- The arguments of an Include line; every other line has none. -/
def lineArguments (line : Text) : List Text :=
  match Statement.ofLine line with
  | .ok (some (.files arguments)) => (arguments? arguments).getD []
  | _ => []

/-- The arguments of the Include lines in the file at a path. -/
def argumentsIn (files : Files.Tree) (path : Text) : List Text :=
  match files.read path with
  | .error _ => []
  | .ok content => (Text.lines (textOf content)).flatMap lineArguments

/-- The files that an argument of an Include line names. -/
def filesOf (env : Environment) (argument : Text) : List Text :=
  (named env argument).filterMap Except.toOption

/-- The arguments of the Include lines in the file at a path, and in the files that they lead
to, name the same files in both runs. -/
def SameFiles (env env' : Environment) : Nat → Text → Prop
  | 0, _ => True
  | depth + 1, path => ∀ argument ∈ argumentsIn env.files path,
      named env argument = named env' argument ∧
        ∀ found ∈ filesOf env argument, SameFiles env env' depth found

instance decidableSameFiles (env env' : Environment) :
    ∀ depth path, Decidable (SameFiles env env' depth path)
  | 0, _ => isTrue trivial
  | depth + 1, path =>
      have : ∀ found, Decidable (SameFiles env env' depth found) :=
        fun found => decidableSameFiles env env' depth found
      inferInstanceAs (Decidable (∀ argument ∈ argumentsIn env.files path,
        named env argument = named env' argument ∧
          ∀ found ∈ filesOf env argument, SameFiles env env' depth found))

/-! ## Patterns -/

theorem fillHome_of_tail {home : Path} (hhome : home.WellFormed) {argument rest : Text}
    (h : homeTail? argument = some rest) :
    Path.fillHome home.text argument = (home.join rest).text := by
  unfold homeTail? at h
  split at h
  next =>
    obtain rfl := Option.some.inj h
    have hjoin : home.join [] = home := by
      simp [Path.join, Path.ofText, Path.Start.ofText, Path.isAbsolute, Path.isName]
    rw [hjoin]
    rfl
  next =>
    obtain rfl := Option.some.inj h
    simp only [Path.fillHome, Path.ofText_text hhome]
  next => cases h

theorem fillHome_of_no_tail {argument : Text} (h : homeTail? argument = none) (home : Text) :
    Path.fillHome home argument = argument := by
  unfold homeTail? at h
  split at h
  next => cases h
  next => cases h
  next halone hslash =>
    refine Path.fillHome_of_other halone ?_ home
    rintro ⟨rest, hrest⟩
    exact hslash rest hrest.symm

theorem sshDirectory_eq (home : Path) :
    home.sshDirectory = ⟨home.start, home.names ++ [".ssh".toList]⟩ :=
  Path.join_relative home (by decide)

/-- Names below the per-user directory. -/
def below (home : Path) (names : List Text) : Path :=
  ⟨home.start, home.names ++ ".ssh".toList :: names⟩

theorem below_wellFormed {home p : Path} (hhome : home.WellFormed) (hp : p.WellFormed) :
    (below home p.names).WellFormed := by
  intro name hname
  rcases List.mem_append.mp hname with hname | hname
  · exact hhome name hname
  · rcases List.mem_cons.mp hname with rfl | hname
    · decide
    · exact hp name hname

theorem below_injective {home home' : Path} {names : List Text}
    (h : below home names = below home' names) : home = home' := by
  obtain ⟨hstart, hnames⟩ := Path.mk.inj h
  have hsame : home.names = home'.names := List.append_cancel_right hnames
  exact Path.ext hstart hsame

/-- Names behind the home directory. A relative home directory is itself put below its
per-user directory. -/
def behind (home : Path) (names : List Text) : Path :=
  if home.isAbsolute then ⟨home.start, home.names ++ names⟩ else below home (home.names ++ names)

theorem behind_wellFormed {home p : Path} (hhome : home.WellFormed) (hp : p.WellFormed) :
    (behind home p.names).WellFormed := by
  have happend : Path.WellFormed ⟨home.start, home.names ++ p.names⟩ := by
    intro name hname
    rcases List.mem_append.mp hname with hname | hname
    · exact hhome name hname
    · exact hp name hname
  unfold behind
  split
  · exact happend
  · exact below_wellFormed hhome happend

theorem behind_injective {home home' : Path} {names : List Text}
    (h : behind home names = behind home' names) : home = home' := by
  have hstart : home.start = home'.start := by
    have hkept : ∀ p : Path, (behind p names).start = p.start := by
      intro p
      unfold behind
      split <;> rfl
    rw [← hkept home, h, hkept home']
  have hboth : home.isAbsolute = home'.isAbsolute := by rw [Path.isAbsolute, hstart]; rfl
  have hnames : home.names = home'.names := by
    unfold behind at h
    rw [← hboth] at h
    cases habsolute : home.isAbsolute with
    | true =>
        rw [habsolute, if_pos rfl, if_pos rfl] at h
        exact List.append_cancel_right (Path.mk.inj h).2
    | false =>
        rw [habsolute, if_neg (by decide), if_neg (by decide)] at h
        -- The home directory stands on both sides of the per-user directory, so the lengths
        -- tell where the first of them ends.
        have hsame : home.names ++ ".ssh".toList :: (home.names ++ names)
            = home'.names ++ ".ssh".toList :: (home'.names ++ names) := (Path.mk.inj h).2
        have hlength : home.names.length = home'.names.length := by
          have := congrArg List.length hsame
          simp only [List.length_append, List.length_cons] at this
          omega
        exact (List.append_inj hsame hlength).1
  exact Path.ext hstart hnames

/-- A relative argument stands for a path below the per-user directory. -/
theorem includePattern_of_relative {argument : Text} (htail : homeTail? argument = none)
    (h : (Path.ofText argument).isAbsolute = false) (env : Environment) :
    includePattern env argument =
      (below env.homeDirectory (Path.ofText argument).names).text := by
  simp [includePattern, fillHome_of_no_tail htail, h, Path.join_relative _ h, Path.followedBy,
    sshDirectory_eq, below]

/-- `~` in front of a relative path stands for the home directory. -/
theorem includePattern_of_tail {argument rest : Text} (htail : homeTail? argument = some rest)
    (h : (Path.ofText rest).isAbsolute = false) (env : Environment) :
    includePattern env argument =
      (behind env.homeDirectory (Path.ofText rest).names).text := by
  have hhome := env.homeDirectory_wellFormed
  have hread := Path.ofText_text (Path.join_wellFormed hhome rest)
  have hstart : (env.homeDirectory.join rest).isAbsolute = env.homeDirectory.isAbsolute := by
    rw [Path.join_relative _ h]
    rfl
  simp only [includePattern, fillHome_of_tail hhome htail, hread, hstart]
  cases habsolute : env.homeDirectory.isAbsolute with
  | true => simp [behind, habsolute, Path.join_relative _ h, Path.followedBy]
  | false =>
      have hrelative : (Path.ofText (env.homeDirectory.join rest).text).isAbsolute = false := by
        rw [hread, hstart, habsolute]
      rw [Path.join_relative _ hrelative, hread, Path.join_relative _ h]
      simp [behind, habsolute, sshDirectory_eq, below, Path.followedBy]

/-- An anchored argument stands for the same pattern under every home directory. -/
theorem includePattern_of_anchored {argument : Text} (h : Anchored argument)
    (env : Environment) : includePattern env argument =
      (homeTail? argument).elim argument fun rest => (Path.ofText rest).text := by
  cases htail : homeTail? argument with
  | none =>
      rw [Anchored, htail, Option.getD_none] at h
      simp [includePattern, fillHome_of_no_tail htail, h]
  | some rest =>
      rw [Anchored, htail, Option.getD_some] at h
      have hjoin : env.homeDirectory.join rest = Path.ofText rest := by simp [Path.join, h]
      have hread := Path.ofText_text (Path.ofText_wellFormed rest)
      simp [includePattern, fillHome_of_tail env.homeDirectory_wellFormed htail, hjoin, hread, h]

/-- Any other argument stands for different patterns under different home directories. -/
theorem homeDirectory_of_includePattern {argument : Text} (h : ¬ Anchored argument)
    {env env' : Environment} (heq : includePattern env argument = includePattern env' argument) :
    env.homeDirectory = env'.homeDirectory := by
  have hhome := env.homeDirectory_wellFormed
  have hhome' := env'.homeDirectory_wellFormed
  cases htail : homeTail? argument with
  | none =>
      have hrelative : (Path.ofText argument).isAbsolute = false := by
        simpa [Anchored, htail] using h
      rw [includePattern_of_relative htail hrelative,
        includePattern_of_relative htail hrelative] at heq
      have hplace := Path.ofText_wellFormed argument
      exact below_injective (Path.text_injective (below_wellFormed hhome hplace)
        (below_wellFormed hhome' hplace) heq)
  | some rest =>
      have hrelative : (Path.ofText rest).isAbsolute = false := by
        simpa [Anchored, htail] using h
      rw [includePattern_of_tail htail hrelative, includePattern_of_tail htail hrelative] at heq
      have hplace := Path.ofText_wellFormed rest
      exact behind_injective (Path.text_injective (behind_wellFormed hhome hplace)
        (behind_wellFormed hhome' hplace) heq)

theorem includePattern_eq_iff (env env' : Environment) (argument : Text) :
    includePattern env argument = includePattern env' argument ↔
      Anchored argument ∨ env.homeDirectory = env'.homeDirectory := by
  constructor
  · intro heq
    by_cases h : Anchored argument
    · exact Or.inl h
    · exact Or.inr (homeDirectory_of_includePattern h heq)
  · rintro (h | h)
    · rw [includePattern_of_anchored h env, includePattern_of_anchored h env']
    · rw [includePattern, includePattern, h]

/-! ## Loading -/

/-- Lines are read alike when the Include lines among them bring the same. -/
theorem readLines_congr {path : Text} {outer : Scope}
    {includes includes' : Scope → Nat → Text → Except LoadError Contents}
    (lines : List (Nat × Text))
    (h : ∀ numbered ∈ lines, ∀ arguments,
      Statement.ofLine numbered.2 = .ok (some (.files arguments)) → ∀ scope,
        includes scope numbered.1 arguments = includes' scope numbered.1 arguments)
    (p : Progress) :
    readLines path outer includes p lines = readLines path outer includes' p lines := by
  induction lines generalizing p with
  | nil => rfl
  | cons numbered lines ih =>
      obtain ⟨number, line⟩ := numbered
      have hmore := ih fun numbered hmem => h numbered (by simp [hmem])
      rw [readLines, readLines]
      cases hline : Statement.ofLine line with
      | error problem => rfl
      | ok statement =>
          rcases statement with - | patterns | arguments | d
          · exact hmore p
          · exact hmore _
          · have hsame := h (number, line) (by simp) arguments hline (p.scope outer)
            simp only at hsame
            simp only [hsame]
            cases includes' (p.scope outer) number arguments with
            | error e => rfl
            | ok c => exact hmore _
          · exact hmore _

theorem mem_argumentsIn {files : Files.Tree} {path : Text} {content : Bytes}
    (hread : files.read path = .ok content) {numbered : Nat × Text}
    (hnumbered : numbered ∈ Text.numberedLines (textOf content)) {arguments : Text}
    (hline : Statement.ofLine numbered.2 = .ok (some (.files arguments))) {list : List Text}
    (hlist : arguments? arguments = some list) {argument : Text} (hargument : argument ∈ list) :
    argument ∈ argumentsIn files path := by
  obtain ⟨line, hmem, rfl⟩ := List.mem_map.mp hnumbered
  simp only [argumentsIn, hread]
  refine List.mem_flatMap.mpr ⟨line.1, List.fst_mem_of_mem_zipIdx hmem, ?_⟩
  simp only [lineArguments, hline, hlist]
  exact hargument

/-- Include lines bring the same when their arguments name the same files, and these load
alike. -/
theorem readIncluded_congr {env env' : Environment}
    {load load' : Scope → Text → Except LoadError Contents} {arguments : Text}
    (h : ∀ list, arguments? arguments = some list → ∀ argument ∈ list,
      named env argument = named env' argument ∧
        ∀ found ∈ filesOf env argument, ∀ scope, load scope found = load' scope found)
    (path : Text) (scope : Scope) (number : Nat) :
    readIncluded env load path scope number arguments
      = readIncluded env' load' path scope number arguments := by
  rw [readIncluded, readIncluded]
  cases hlist : arguments? arguments with
  | none => rfl
  | some list =>
      apply gather_congr
      intro argument hargument
      obtain ⟨hnamed, hload⟩ := h list hlist argument hargument
      rw [readArgument_eq, readArgument_eq, ← hnamed]
      apply gather_congr
      rintro (e | found) hitem
      · rfl
      · exact hload found (List.mem_filterMap.mpr ⟨_, hitem, rfl⟩) scope

/-- Two runs over the same files load the same configuration when the arguments of Include
lines name the same files. -/
theorem load_congr {env env' : Environment} (hfiles : env.files = env'.files) {depth : Nat}
    {path : Text} (h : SameFiles env env' depth path) (outer : Scope) :
    load env depth outer path = load env' depth outer path := by
  induction depth generalizing outer path with
  | zero => rw [load, load, hfiles]
  | succ depth ih =>
      rw [load, load, readFile, readFile, ← hfiles]
      split
      · rfl
      · cases hread : env.files.read path with
        | error e => rfl
        | ok content =>
            simp only [readText]
            congr 1
            apply readLines_congr
            intro numbered hnumbered arguments hline scope
            apply readIncluded_congr
            intro list hlist argument hargument
            obtain ⟨hnamed, hfound⟩ :=
              h argument (mem_argumentsIn hread hnumbered hline hlist hargument)
            exact ⟨hnamed, fun found hmem scope => ih (hfound found hmem) scope⟩

end HostConfig

end SshTunnel
