import SshTunnel.Files.Expand
import Mathlib.Tactic.Common

/-!
# Patterns that can be expanded

Expanding a pattern fails only at a directory whose path cannot be opened at all. In a tree
whose names can all be opened every pattern that can itself be opened has its paths, and these
can be opened too.
-/

namespace SshTunnel.Files.Tree

variable {t : Tree}

/-- No name in the tree has the character that no path may have. -/
def Nameable (t : Tree) : Prop := ∀ entry ∈ t.nodes, ∀ name ∈ entry.1, nul ∉ name

/-- The paths are there, and none has the character that no path may have. -/
def Openable (outcome : Except BadPath (List Text)) : Prop :=
  ∃ found, outcome = .ok found ∧ ∀ path ∈ found, nul ∉ path

theorem nul_notMem_of_mem_list (h : t.Nameable) {path name : Text} (hname : name ∈ t.list path) :
    nul ∉ name := by
  unfold list at hname
  split at hname
  · cases hname
  · split at hname
    · obtain ⟨entry, hentry, hlast⟩ := List.mem_filterMap.mp hname
      split at hlast
      · exact h entry hentry name (List.mem_of_getLast? hlast)
      · cases hlast
    · cases hname

theorem nul_notMem_inside {directory name : Text} (hdirectory : nul ∉ directory)
    (hname : nul ∉ name) : nul ∉ inside directory name := by
  have hslash : nul ≠ '/' := by decide
  unfold inside
  split <;> simp [hdirectory, hname, hslash]

theorem openable_ite {path : Text} (hpath : nul ∉ path) (isThere : Bool) :
    Openable (.ok (if isThere then [path] else [])) := by
  refine ⟨_, rfl, ?_⟩
  cases isThere <;> simp [hpath]

theorem matching_openable (h : t.Nameable) {directory : Text} (hdirectory : nul ∉ directory)
    (pattern : Text) (onlyDirectories : Bool) :
    Openable (t.matching directory pattern onlyDirectories) := by
  have hplace : (if directory.isEmpty then ['.'] else directory).contains nul = false := by
    split
    · decide
    · simpa using hdirectory
  unfold matching
  extract_lets place
  rw [if_neg (Bool.eq_false_iff.mp hplace)]
  refine ⟨_, rfl, ?_⟩
  intro name hname
  exact nul_notMem_of_mem_list h (List.mem_filter.mp hname).1

theorem expandLast_openable (h : t.Nameable) {last directory : Text} (hlast : nul ∉ last)
    (hdirectory : nul ∉ directory) (onlyDirectories : Bool) :
    Openable (t.expandLast last onlyDirectories directory) := by
  have hnames : Openable (if Text.Glob.hasWildcard last
      then t.matching directory last onlyDirectories else .ok (t.literal directory last)) := by
    split
    · exact matching_openable h hdirectory last onlyDirectories
    · unfold literal
      split
      · exact openable_ite (by simp) _
      · exact openable_ite hlast _
  obtain ⟨names, hout, hclean⟩ := hnames
  refine ⟨_, by rw [expandLast, hout]; rfl, ?_⟩
  intro path hpath
  obtain ⟨name, hname, rfl⟩ := List.mem_map.mp hpath
  exact nul_notMem_inside hdirectory (hclean name hname)

theorem flatten_openable {f : Text → Except BadPath (List Text)} {directories : List Text}
    (h : ∀ directory ∈ directories, Openable (f directory)) :
    Openable ((directories.mapM f).map List.flatten) := by
  induction directories with
  | nil => exact ⟨[], rfl, by simp⟩
  | cons directory directories ih =>
      obtain ⟨found, hout, hclean⟩ := h directory (by simp)
      obtain ⟨more, hmore, hclean'⟩ := ih fun d hd => h d (by simp [hd])
      refine ⟨found ++ more, ?_, ?_⟩
      · rw [List.mapM_cons, hout]
        cases hrest : directories.mapM f with
        | error e =>
            rw [hrest] at hmore
            cases hmore
        | ok lists =>
            rw [hrest] at hmore
            obtain rfl : lists.flatten = more := Except.ok.inj hmore
            rfl
      · intro path hpath
        rcases List.mem_append.mp hpath with hpath | hpath
        · exact hclean path hpath
        · exact hclean' path hpath

theorem splitLast_notMem {reversed : Text} (h : nul ∉ reversed) :
    nul ∉ (splitLast reversed).1 ∧ nul ∉ (splitLast reversed).2 := by
  have hfront : nul ∉ reversed.dropWhile (· ≠ '/') := fun hmem =>
    h ((List.dropWhile_sublist _).mem hmem)
  refine ⟨fun hmem => h ((List.takeWhile_sublist _).mem hmem), ?_⟩
  unfold splitLast
  simp only
  split
  · exact hfront
  · exact fun hmem => hfront ((List.dropWhile_sublist _).mem hmem)

theorem expandReversed_openable (h : t.Nameable) (onlyDirectories : Bool) {reversed : Text}
    (hreversed : nul ∉ reversed) : Openable (t.expandReversed onlyDirectories reversed) := by
  fun_induction expandReversed t onlyDirectories reversed with
  | case1 onlyDirectories reversed parts last directory _ =>
      exact openable_ite (by simpa using hreversed) _
  | case2 onlyDirectories reversed parts last directory _ hempty =>
      exact matching_openable h (by simp) last onlyDirectories
  | case3 onlyDirectories reversed parts last directory _ _ _ ih =>
      obtain ⟨hlast, hdirectory⟩ := splitLast_notMem hreversed
      obtain ⟨directories, hout, hclean⟩ := ih hdirectory
      rw [hout]
      exact flatten_openable fun directory hmem =>
        expandLast_openable h (by simpa [last] using hlast) (hclean directory hmem) _
  | case4 onlyDirectories reversed parts last directory _ _ _ =>
      obtain ⟨hlast, hdirectory⟩ := splitLast_notMem hreversed
      exact expandLast_openable h (by simpa [last] using hlast)
        (by simpa [directory] using hdirectory) _

/-- A pattern without the character has its paths, and these are without it as well. -/
theorem expand_openable (h : t.Nameable) {pattern : Text} (hpattern : nul ∉ pattern) :
    Openable (t.expand pattern) := by
  obtain ⟨found, hout, hclean⟩ :=
    @expandReversed_openable t h false pattern.reverse (by simpa using hpattern)
  refine ⟨_, by rw [expand, hout]; rfl, ?_⟩
  intro path hpath
  exact hclean path (List.mem_mergeSort.mp hpath)

end SshTunnel.Files.Tree
