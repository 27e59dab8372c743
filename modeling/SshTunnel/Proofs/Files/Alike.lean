import SshTunnel.Files.Change
import SshTunnel.Files.Expand
import Mathlib.Tactic.Common

/-!
# Trees that differ in what files contain

In two trees that differ only in what their files contain, every path leads to the same place,
every directory has the same names, and every pattern describes the same paths. Only reading a
file can tell them apart.
-/

namespace SshTunnel.Files.Tree

/-- The trees are the same, except that a file may have related contents in them. -/
structure Alike (R : Bytes → Bytes → Prop) (t u : Tree) : Prop where
  workingDirectory : t.workingDirectory = u.workingDirectory
  namesAt : ∀ place, t.namesAt place = u.namesAt place
  node? : ∀ place, t.node? place = u.node? place ∨
    ∃ c d, t.node? place = some (.file c) ∧ u.node? place = some (.file d) ∧ R c d

namespace Alike

variable {R : Bytes → Bytes → Prop} {t u : Tree} (h : Alike R t u)

include h

theorem isDirectory_node? (place : Location) :
    t.node? place = some .directory ↔ u.node? place = some .directory := by
  rcases h.node? place with heq | ⟨c, d, hc, hd, -⟩
  · rw [heq]
  · simp [hc, hd]

theorem descend (follow : Location → List Text → Except Reason Location) (goal : Goal)
    (place : Location) (names : List Text) :
    t.descend follow goal place names = u.descend follow goal place names := by
  induction names generalizing place with
  | nil => rfl
  | cons name rest ih =>
      rw [Tree.descend, Tree.descend]
      simp only [h.isDirectory_node? place, ih]
      rcases h.node? (place ++ [name]) with heq | ⟨c, d, hc, hd, -⟩
      · rw [heq]
      · rw [hc, hd]

theorem walk (goal : Goal) (links : Nat) (place : Location) (names : List Text) :
    t.walk goal links place names = u.walk goal links place names := by
  induction links generalizing place names with
  | zero => exact h.descend _ goal place names
  | succ links ih =>
      have hwalk : t.walk goal links = u.walk goal links := by
        funext place names
        exact ih place names
      rw [Tree.walk, Tree.walk, hwalk]
      exact h.descend _ goal place names

theorem locate (goal : Goal) (path : Text) : t.locate goal path = u.locate goal path := by
  unfold Tree.locate
  simp only [h.workingDirectory, h.walk]

theorem isPresent (path : Text) : t.isPresent path = u.isPresent path := by
  rw [Tree.isPresent, Tree.isPresent, h.locate]

theorem find (path : Text) : t.find path = u.find path ∨
    ∃ c d, t.find path = .ok (.file c) ∧ u.find path = .ok (.file d) ∧ R c d := by
  unfold Tree.find
  rw [h.locate]
  cases u.locate .target path with
  | error reason => exact Or.inl rfl
  | ok place =>
      simp only [Except.bind]
      rcases h.node? place with heq | ⟨c, d, hc, hd, hR⟩
      · rw [heq]
        exact Or.inl rfl
      · rw [hc, hd]
        exact Or.inr ⟨c, d, rfl, rfl, hR⟩

theorem isDirectory (path : Text) : t.isDirectory path = u.isDirectory path := by
  unfold Tree.isDirectory
  rcases h.find path with heq | ⟨c, d, hc, hd, -⟩
  · rw [heq]
  · rw [hc, hd]

theorem isFile (path : Text) : t.isFile path = u.isFile path := by
  unfold Tree.isFile
  rcases h.find path with heq | ⟨c, d, hc, hd, -⟩
  · rw [heq]
  · rw [hc, hd]

/-- Reading a file gives related contents, or the same outcome. -/
theorem read (path : Text) : t.read path = u.read path ∨
    ∃ c d, t.read path = .ok c ∧ u.read path = .ok d ∧ R c d := by
  unfold Tree.read
  rcases h.find path with heq | ⟨c, d, hc, hd, hR⟩
  · rw [heq]
    exact Or.inl rfl
  · rw [hc, hd]
    exact Or.inr ⟨c, d, rfl, rfl, hR⟩

theorem list (path : Text) : t.list path = u.list path := by
  unfold Tree.list
  rw [h.locate]
  simp only [h.isDirectory_node?, h.namesAt]

theorem matching (directory pattern : Text) (onlyDirectories : Bool) :
    t.matching directory pattern onlyDirectories
      = u.matching directory pattern onlyDirectories := by
  unfold Tree.matching
  simp only [h.list, h.isDirectory]

theorem expandLast (last : Text) (onlyDirectories : Bool) (directory : Text) :
    t.expandLast last onlyDirectories directory = u.expandLast last onlyDirectories directory := by
  unfold Tree.expandLast literal
  simp only [h.matching, h.isDirectory, h.isPresent]

theorem expandReversed (onlyDirectories : Bool) (reversed : Text) :
    t.expandReversed onlyDirectories reversed = u.expandReversed onlyDirectories reversed := by
  have hlast : t.expandLast = u.expandLast := by
    funext last onlyDirectories directory
    exact h.expandLast last onlyDirectories directory
  fun_induction Tree.expandReversed t onlyDirectories reversed with
  | case1 onlyDirectories reversed parts last directory hplain =>
      conv_rhs => rw [Tree.expandReversed, if_pos hplain]
      simp only [h.isDirectory, h.isPresent, parts, last, directory]
  | case2 onlyDirectories reversed parts last directory hplain hempty =>
      conv_rhs => rw [Tree.expandReversed, if_neg hplain, if_pos hempty]
      rw [h.matching]
  | case3 onlyDirectories reversed parts last directory hplain hempty hdeeper ih =>
      conv_rhs => rw [Tree.expandReversed, if_neg hplain, if_neg hempty, dif_pos hdeeper]
      rw [ih, hlast]
  | case4 onlyDirectories reversed parts last directory hplain hempty hflat =>
      conv_rhs => rw [Tree.expandReversed, if_neg hplain, if_neg hempty, dif_neg hflat]
      rw [hlast]

theorem expand (pattern : Text) : t.expand pattern = u.expand pattern := by
  rw [Tree.expand, Tree.expand, h.expandReversed]

end Alike

/-! ## Another content for one file -/

theorem lookup_setContent (place p : Location) (content : Bytes)
    (nodes : List (Location × Node)) :
    List.lookup p (nodes.map fun entry =>
        if entry.1 = place then (place, .file content) else entry)
      = (List.lookup p nodes).map fun node => if p = place then .file content else node := by
  induction nodes with
  | nil => rfl
  | cons entry nodes ih =>
      obtain ⟨q, node⟩ := entry
      rw [List.map_cons]
      by_cases hp : p = q
      · subst hp
        by_cases hq : p = place <;> simp [hq]
      · have hne : (p == q) = false := by simpa using hp
        by_cases hq : q = place
        · subst hq
          simp [List.lookup_cons, hne, ih]
        · simp [List.lookup_cons, hne, hq, ih]

theorem namesAt_setContent (t : Tree) (place p : Location) (content : Bytes) :
    (t.setContent place content).namesAt p = t.namesAt p := by
  rw [namesAt, namesAt, setContent, List.filterMap_map]
  refine congrArg (List.filterMap · t.nodes) (funext fun entry => ?_)
  rw [Function.comp_apply]
  split
  next heq => rw [heq]
  next => rfl

theorem node?_setContent_of_ne (t : Tree) {place p : Location} (hp : p ≠ place)
    (content : Bytes) : (t.setContent place content).node? p = t.node? p := by
  rw [Tree.node?, Tree.node?, setContent, lookup_setContent]
  simp [hp]

theorem node?_setContent {t : Tree} {place : Location} {old : Bytes}
    (h : t.node? place = some (.file old)) (content : Bytes) (p : Location) :
    (t.setContent place content).node? p
      = if p = place then some (.file content) else t.node? p := by
  by_cases hp : p = place
  · subst hp
    have hroot : p.isEmpty = false := by
      by_contra hroot
      rw [Tree.node?, if_pos (by simpa using hroot)] at h
      cases h
    rw [Tree.node?, hroot, if_neg Bool.false_ne_true] at h ⊢
    rw [setContent, lookup_setContent, h]
    simp
  · rw [node?_setContent_of_ne t hp, if_neg hp]

section SetContent

variable {R : Bytes → Bytes → Prop} {t : Tree} {place : Location} {old content : Bytes}

/-- A tree and the one in which a file has another content. -/
theorem alike_setContent (h : t.node? place = some (.file old)) (hR : R old content) :
    Alike R t (t.setContent place content) where
  workingDirectory := rfl
  namesAt p := (namesAt_setContent t place p content).symm
  node? p := by
    rw [node?_setContent h]
    by_cases hp : p = place
    · subst hp
      exact Or.inr ⟨old, content, h, by rw [if_pos rfl], hR⟩
    · exact Or.inl (by rw [if_neg hp])

theorem locate_setContent (h : t.node? place = some (.file old)) (content : Bytes) (goal : Goal)
    (path : Text) : (t.setContent place content).locate goal path = t.locate goal path :=
  ((@alike_setContent (fun _ _ => True) t place old content h trivial).locate goal path).symm

theorem read_setContent (h : t.node? place = some (.file old)) (content : Bytes) {path : Text}
    (hpath : t.locate .target path = .ok place) :
    (t.setContent place content).read path = .ok content := by
  rw [Tree.read, Tree.find, locate_setContent h, hpath, Except.bind, node?_setContent h,
    if_pos rfl]

end SetContent

end SshTunnel.Files.Tree
