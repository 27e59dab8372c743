import SshTunnel.Proofs.Files.Walk
import SshTunnel.Proofs.Text.Glob
import Mathlib.Data.List.Forall2
import Mathlib.Data.List.Induction
import Mathlib.Data.List.Nodup

/-!
# What a path stands for as a pattern

A pattern for paths stands for paths of as many names, each of which its own name describes: a
name without wildcards describes itself only. When the last name has no wildcards, these are the
present paths that are described name by name, each of them once.
-/

namespace SshTunnel.Files

/-- A name of a pattern describes a name. One with wildcards describes names as they can stand in
a directory, and those that start with a dot only when it starts with one itself. -/
inductive Describes (pattern name : Text) : Prop where
  | plain (h : Text.Glob.hasWildcard pattern = false) (heq : name = pattern)
  | wild (h : Text.Glob.hasWildcard pattern = true) (hentry : IsEntry name)
      (hhidden : isHidden pattern = true ∨ isHidden name = false)
      (hmatch : Text.Glob.isMatch pattern name = true)

theorem describes_self {pattern : Text} (h : Text.Glob.hasWildcard pattern = false) :
    Describes pattern pattern := .plain h rfl

theorem describes_plain_iff {pattern name : Text} (h : Text.Glob.hasWildcard pattern = false) :
    Describes pattern name ↔ name = pattern := by
  constructor
  · intro hdescribes
    cases hdescribes with
    | plain _ heq => exact heq
    | wild hwild => cases h.symm.trans hwild
  · exact .plain h

theorem Describes.isComponent {pattern name : Text} (h : Describes pattern name)
    (hpattern : IsComponent pattern) : IsComponent name := by
  cases h with
  | plain _ heq => exact heq ▸ hpattern
  | wild _ hentry => exact hentry.toIsComponent

theorem isComponent_of_describes {pattern names : List Text}
    (h : List.Forall₂ Describes pattern names) (hpattern : ∀ p ∈ pattern, IsComponent p) :
    ∀ name ∈ names, IsComponent name := by
  induction h with
  | nil => simp
  | cons hname _ ih =>
      rw [List.forall_mem_cons] at hpattern ⊢
      exact ⟨hname.isComponent hpattern.1, ih hpattern.2⟩

theorem describes_append_iff {pattern tail names : List Text} :
    List.Forall₂ Describes (pattern ++ tail) names ↔
      ∃ front back, names = front ++ back ∧ List.Forall₂ Describes pattern front ∧
        List.Forall₂ Describes tail back := by
  constructor
  · intro h
    induction pattern generalizing names with
    | nil => exact ⟨[], names, rfl, .nil, h⟩
    | cons p pattern ih =>
        obtain ⟨first, rest, hfirst, hrest, rfl⟩ := List.forall₂_cons_left_iff.mp h
        obtain ⟨front, back, rfl, hfront, hback⟩ := ih hrest
        exact ⟨first :: front, back, rfl, .cons hfirst hfront, hback⟩
  · rintro ⟨front, back, rfl, hfront, hback⟩
    exact List.rel_append hfront hback

theorem describes_concat_iff {pattern names : List Text} {last : Text} :
    List.Forall₂ Describes (pattern ++ [last]) names ↔
      ∃ front name, names = front ++ [name] ∧ List.Forall₂ Describes pattern front ∧
        Describes last name := by
  rw [describes_append_iff]
  constructor
  · rintro ⟨front, back, rfl, hfront, hback⟩
    obtain ⟨name, rest, hname, hrest, rfl⟩ := List.forall₂_cons_left_iff.mp hback
    obtain rfl := List.forall₂_nil_left_iff.mp hrest
    exact ⟨front, name, rfl, hfront, hname⟩
  · rintro ⟨front, name, rfl, hfront, hname⟩
    exact ⟨front, [name], rfl, hfront, .cons hname .nil⟩

/-- A path without wildcards stands for itself only. -/
theorem describes_plain_path_iff {pattern names : List Text}
    (h : ∀ p ∈ pattern, Text.Glob.hasWildcard p = false) :
    List.Forall₂ Describes pattern names ↔ names = pattern := by
  induction pattern generalizing names with
  | nil => simp
  | cons p pattern ih =>
      rw [List.forall_mem_cons] at h
      rw [List.forall₂_cons_left_iff]
      constructor
      · rintro ⟨name, rest, hname, hrest, rfl⟩
        rw [(describes_plain_iff h.1).mp hname, (ih h.2).mp hrest]
      · rintro rfl
        exact ⟨p, pattern, describes_self h.1, (ih h.2).mpr rfl, rfl⟩

namespace Tree

variable {t : Tree} {start : Path.Start} {pattern names : List Text} {last : Text}

/-! ## Names in a directory -/

theorem nodup_namesAt (h : t.Tidy) (place : Location) : (t.namesAt place).Nodup := by
  have hmap : t.namesAt place = (t.nodes.map Prod.fst).filterMap fun loc =>
      if loc ≠ [] ∧ loc.dropLast = place then loc.getLast? else none := by
    rw [List.filterMap_map]
    rfl
  rw [hmap]
  apply h.distinct.filterMap
  intro loc loc' name hname hname'
  have hconcat : ∀ {loc : Location}, name ∈ (if loc ≠ [] ∧ loc.dropLast = place
      then loc.getLast? else none) → loc = place ++ [name] := by
    intro loc hmem
    split at hmem
    next hloc =>
      rw [← hloc.2]
      exact (List.dropLast_append_getLast? name hmem).symm
    next => cases hmem
  rw [hconcat hname, hconcat hname']

theorem nodup_list (h : t.Tidy) (path : Text) : (t.list path).Nodup := by
  unfold list
  split
  · exact List.nodup_nil
  · split
    · exact nodup_namesAt h _
    · exact List.nodup_nil

theorem isEntry_of_mem_list (h : t.Tidy) {path name : Text} (hname : name ∈ t.list path) :
    IsEntry name := by
  unfold list at hname
  split at hname
  · cases hname
  · split at hname
    · obtain ⟨entry, hentry, hlast⟩ := List.mem_filterMap.mp hname
      split at hlast
      · exact h.entries entry hentry name (List.mem_of_getLast? hlast)
      · cases hlast
    · cases hname

/-- The names in a directory that the last name of a pattern finds. -/
def lastNames (t : Tree) (last : Text) (onlyDirectories : Bool) (directory : Text) : List Text :=
  if Text.Glob.hasWildcard last then
    (t.list directory).filter fun name =>
      (!onlyDirectories || t.isDirectory (inside directory name))
        && (isHidden last || !isHidden name) && Text.Glob.isMatch last name
  else t.literal directory last

theorem expandLast_text (hstart : start ≠ .here) (h : ∀ name ∈ names, IsComponent name)
    (last : Text) (onlyDirectories : Bool) :
    t.expandLast last onlyDirectories (Path.text ⟨start, names⟩)
      = .ok ((t.lastNames last onlyDirectories (Path.text ⟨start, names⟩)).map
          (inside (Path.text ⟨start, names⟩))) := by
  have hnul : (Path.text ⟨start, names⟩).contains nul = false := by
    simpa using nul_notMem_text hstart h
  have hempty : (Path.text ⟨start, names⟩).isEmpty = false := by
    simpa using text_ne_nil hstart names
  rw [expandLast, lastNames]
  split
  · simp only [matching, hempty, Bool.false_eq_true, if_false, hnul]
    rfl
  · rfl

theorem nodup_lastNames (h : t.Tidy) (last : Text) (onlyDirectories : Bool) (directory : Text) :
    (t.lastNames last onlyDirectories directory).Nodup := by
  unfold lastNames literal
  split
  · exact (nodup_list h directory).filter _
  · split <;> split <;> simp

theorem describes_of_mem_lastNames (h : t.Tidy) (hlast : IsComponent last)
    {onlyDirectories : Bool} {directory name : Text}
    (hname : name ∈ t.lastNames last onlyDirectories directory) : Describes last name := by
  unfold lastNames at hname
  split at hname
  next hwild =>
    obtain ⟨hlisted, hkept⟩ := List.mem_filter.mp hname
    simp only [Bool.and_eq_true, Bool.or_eq_true, Bool.not_eq_true'] at hkept
    exact .wild hwild (isEntry_of_mem_list h hlisted) hkept.1.2 hkept.2
  next hplain =>
    refine .plain (by simpa using hplain) ?_
    rw [literal, hlast.isEmpty, if_neg Bool.false_ne_true] at hname
    split at hname
    · exact List.mem_singleton.mp hname
    · cases hname

theorem mem_lastNames_plain_iff (hplain : Text.Glob.hasWildcard last = false)
    (hlast : IsComponent last) (onlyDirectories : Bool) (directory name : Text) :
    name ∈ t.lastNames last onlyDirectories directory ↔
      name = last ∧ t.isPresent (inside directory last) = true := by
  rw [lastNames, hplain, if_neg Bool.false_ne_true, literal, hlast.isEmpty,
    if_neg Bool.false_ne_true]
  split
  next hpresent => simp [hpresent]
  next habsent => simp [habsent]

/-- A directory that the pattern describes is found in the directory before it. -/
theorem mem_lastNames_of_isDirectory (hstart : start ≠ .here)
    (h : ∀ name ∈ names, IsComponent name) (hlast : IsComponent last) {name : Text}
    (hname : Describes last name) (onlyDirectories : Bool)
    (hdirectory : t.isDirectory (Path.text ⟨start, names ++ [name]⟩) = true) :
    name ∈ t.lastNames last onlyDirectories (Path.text ⟨start, names⟩) := by
  have hcomponent := hname.isComponent hlast
  have hboth := isComponent_concat h hcomponent
  have hpresent := isPresent_of_isDirectory hstart (by simp) hboth hdirectory
  cases hname with
  | plain hplain heq =>
      subst heq
      rw [mem_lastNames_plain_iff hplain hlast, inside_text hstart h]
      exact ⟨rfl, hpresent⟩
  | wild hwild hentry hhidden hmatch =>
      rw [lastNames, if_pos hwild, List.mem_filter, inside_text hstart h, hdirectory]
      refine ⟨(directory_of_isPresent hstart h hcomponent hpresent).2 hentry, ?_⟩
      rcases hhidden with hhidden | hhidden <;> simp [hhidden, hmatch]

/-! ## Names below a directory -/

/-- Paths that a pattern finds, by their names: each of them once, all described by the pattern,
and among them all directories that it describes. -/
structure Finds (t : Tree) (start : Path.Start) (pattern : List Text)
    (found : List (List Text)) : Prop where
  nodup : found.Nodup
  described : ∀ names ∈ found, List.Forall₂ Describes pattern names
  complete : ∀ names, List.Forall₂ Describes pattern names →
    t.isDirectory (Path.text ⟨start, names⟩) = true → names ∈ found

/-- What the last name of a pattern finds in directories. -/
def foundIn (t : Tree) (start : Path.Start) (last : Text) (onlyDirectories : Bool)
    (directories : List (List Text)) : List (List Text) :=
  directories.flatMap fun names =>
    (t.lastNames last onlyDirectories (Path.text ⟨start, names⟩)).map (names ++ [·])

theorem mem_foundIn_iff {onlyDirectories : Bool} {directories : List (List Text)}
    {names : List Text} : names ∈ t.foundIn start last onlyDirectories directories ↔
      ∃ front ∈ directories, ∃ name ∈ t.lastNames last onlyDirectories (Path.text ⟨start, front⟩),
        names = front ++ [name] := by
  simp [foundIn, eq_comm]

theorem Finds.step (htidy : t.Tidy) (hstart : start ≠ .here)
    (hpattern : ∀ p ∈ pattern, IsComponent p) (hlast : IsComponent last)
    {directories : List (List Text)} (h : t.Finds start pattern directories)
    (onlyDirectories : Bool) :
    t.Finds start (pattern ++ [last]) (t.foundIn start last onlyDirectories directories) where
  nodup := by
    rw [foundIn, List.nodup_flatMap]
    constructor
    · intro names _
      apply (nodup_lastNames htidy last onlyDirectories _).map
      intro name name' heq
      simpa using heq
    · refine h.nodup.imp fun {front front'} hne names hnames hnames' => ?_
      obtain ⟨name, -, rfl⟩ := List.mem_map.mp hnames
      obtain ⟨name', -, heq⟩ := List.mem_map.mp hnames'
      exact hne (List.append_inj' heq rfl).1.symm
  described := by
    intro names hnames
    obtain ⟨front, hfront, name, hname, rfl⟩ := mem_foundIn_iff.mp hnames
    exact describes_concat_iff.mpr
      ⟨front, name, rfl, h.described front hfront, describes_of_mem_lastNames htidy hlast hname⟩
  complete := by
    intro names hdescribed hdirectory
    obtain ⟨front, name, rfl, hfront, hname⟩ := describes_concat_iff.mp hdescribed
    have hfrontNames := isComponent_of_describes hfront hpattern
    have hnameComponent := hname.isComponent hlast
    have hpresent := isPresent_of_isDirectory hstart (by simp)
      (isComponent_concat hfrontNames hnameComponent) hdirectory
    have hparent := (directory_of_isPresent hstart hfrontNames hnameComponent hpresent).1
    exact mem_foundIn_iff.mpr ⟨front, h.complete front hfront hparent, name,
      mem_lastNames_of_isDirectory hstart hfrontNames hlast hname onlyDirectories hdirectory, rfl⟩

/-- When the last name has no wildcards, the present paths are found that the pattern
describes. -/
theorem Finds.mem_foundIn_iff (hstart : start ≠ .here)
    (hpattern : ∀ p ∈ pattern, IsComponent p) (hlast : IsComponent last)
    (hplain : Text.Glob.hasWildcard last = false) {directories : List (List Text)}
    (h : t.Finds start pattern directories) (onlyDirectories : Bool) (names : List Text) :
    names ∈ t.foundIn start last onlyDirectories directories ↔
      List.Forall₂ Describes (pattern ++ [last]) names ∧
        t.isPresent (Path.text ⟨start, names⟩) = true := by
  rw [Tree.mem_foundIn_iff]
  constructor
  · rintro ⟨front, hfront, name, hname, rfl⟩
    obtain ⟨rfl, hpresent⟩ := (mem_lastNames_plain_iff hplain hlast _ _ _).mp hname
    have hdescribed := h.described front hfront
    rw [inside_text hstart (isComponent_of_describes hdescribed hpattern)] at hpresent
    exact ⟨describes_concat_iff.mpr ⟨front, name, rfl, hdescribed, describes_self hplain⟩, hpresent⟩
  · rintro ⟨hdescribed, hpresent⟩
    obtain ⟨front, name, rfl, hfront, hname⟩ := describes_concat_iff.mp hdescribed
    obtain rfl := (describes_plain_iff hplain).mp hname
    have hfrontNames := isComponent_of_describes hfront hpattern
    have hparent := (directory_of_isPresent hstart hfrontNames hlast hpresent).1
    refine ⟨front, h.complete front hfront hparent, name, ?_, rfl⟩
    rw [mem_lastNames_plain_iff hplain hlast, inside_text hstart hfrontNames]
    exact ⟨rfl, hpresent⟩

/-! ## Patterns -/

theorem hasWildcard_text (hstart : start ≠ .here) (names : List Text) :
    Text.Glob.hasWildcard (Path.text ⟨start, names⟩) = names.any Text.Glob.hasWildcard := by
  rw [Bool.eq_iff_iff, Text.Glob.hasWildcard, List.any_eq_true, List.any_eq_true]
  constructor
  · rintro ⟨c, hc, hwild⟩
    have hslash : c ≠ '/' := by
      rintro rfl
      revert hwild
      decide
    obtain ⟨name, hname, hmem⟩ := (mem_text hslash hstart).mp hc
    exact ⟨name, hname, List.any_eq_true.mpr ⟨c, hmem, hwild⟩⟩
  · rintro ⟨name, hname, hwild⟩
    obtain ⟨c, hmem, hc⟩ := List.any_eq_true.mp hwild
    have hslash : c ≠ '/' := by
      rintro rfl
      revert hc
      decide
    exact ⟨c, (mem_text hslash hstart).mpr ⟨name, hname, hmem⟩, hc⟩

theorem hasWildcard_reverse (t : Text) :
    Text.Glob.hasWildcard t.reverse = Text.Glob.hasWildcard t := List.any_reverse

/-- A pattern is expanded name by name. -/
theorem expandReversed_concat (hstart : start ≠ .here) (hpattern : ∀ p ∈ pattern, IsComponent p)
    (hlast : IsComponent last) (onlyDirectories : Bool) :
    t.expandReversed onlyDirectories (Path.text ⟨start, pattern ++ [last]⟩).reverse =
      if !Text.Glob.hasWildcard (Path.text ⟨start, pattern ++ [last]⟩) then
        .ok (if t.isPresent (Path.text ⟨start, pattern ++ [last]⟩)
          then [Path.text ⟨start, pattern ++ [last]⟩] else [])
      else if Text.Glob.hasWildcard (Path.text ⟨start, pattern⟩) then
        (t.expandReversed true (Path.text ⟨start, pattern⟩).reverse).bind fun directories =>
          (directories.mapM (t.expandLast last onlyDirectories)).map List.flatten
      else t.expandLast last onlyDirectories (Path.text ⟨start, pattern⟩) := by
  have hsplit := splitLast_text hstart hpattern hlast
  have hempty : (Path.text ⟨start, pattern⟩).isEmpty = false := by
    simpa using text_ne_nil hstart pattern
  have hlonger : (Path.text ⟨start, pattern⟩).length
      < (Path.text ⟨start, pattern ++ [last]⟩).length := by
    rw [← inside_text hstart hpattern, inside]
    have hpos := List.length_pos_iff.mpr hlast.ne_nil
    split
    · rw [List.length_append]
      omega
    · rw [List.length_append, List.length_cons]
      omega
  rw [expandReversed]
  simp only [hsplit, hasWildcard_reverse, List.reverse_reverse, hlast.isEmpty, hempty,
    List.length_reverse, hlonger, and_true, Bool.false_eq_true, if_false]
  split
  · rfl
  · split <;> simp_all

theorem mapM_eq_ok {α β ε : Type} {f : α → Except ε β} {g : α → β} {xs : List α}
    (h : ∀ x ∈ xs, f x = .ok (g x)) : xs.mapM f = .ok (xs.map g) := by
  induction xs with
  | nil => rfl
  | cons x xs ih =>
      rw [List.forall_mem_cons] at h
      rw [List.mapM_cons, h.1, ih h.2]
      rfl

theorem map_foundIn (hstart : start ≠ .here) {directories : List (List Text)}
    (h : ∀ names ∈ directories, ∀ name ∈ names, IsComponent name) (last : Text)
    (onlyDirectories : Bool) :
    (t.foundIn start last onlyDirectories directories).map (Path.text ⟨start, ·⟩)
      = directories.flatMap fun names =>
          (t.lastNames last onlyDirectories (Path.text ⟨start, names⟩)).map
            (inside (Path.text ⟨start, names⟩)) := by
  rw [foundIn, List.map_flatMap]
  apply List.flatMap_congr
  intro names hnames
  rw [List.map_map]
  apply List.map_congr_left
  intro name _
  exact (inside_text hstart (h names hnames) name).symm

/-- A pattern with a wildcard before its last name is expanded in what the names before find. -/
theorem expandReversed_foundIn (hstart : start ≠ .here) (hpattern : ∀ p ∈ pattern, IsComponent p)
    (hlast : IsComponent last) {directories : List (List Text)}
    (h : t.Finds start pattern directories)
    (hout : t.expandReversed true (Path.text ⟨start, pattern⟩).reverse
      = .ok (directories.map (Path.text ⟨start, ·⟩)))
    (hwild : Text.Glob.hasWildcard (Path.text ⟨start, pattern⟩) = true)
    (onlyDirectories : Bool) :
    t.expandReversed onlyDirectories (Path.text ⟨start, pattern ++ [last]⟩).reverse
      = .ok ((t.foundIn start last onlyDirectories directories).map (Path.text ⟨start, ·⟩)) := by
  have hboth : Text.Glob.hasWildcard (Path.text ⟨start, pattern ++ [last]⟩) = true := by
    rw [hasWildcard_text hstart] at hwild ⊢
    rw [List.any_append, hwild, Bool.true_or]
  have hnames : ∀ names ∈ directories, ∀ name ∈ names, IsComponent name :=
    fun names hmem => isComponent_of_describes (h.described names hmem) hpattern
  have hmap := @mapM_eq_ok _ _ _ (t.expandLast last onlyDirectories)
    (fun directory => (t.lastNames last onlyDirectories directory).map (inside directory))
    (directories.map (Path.text ⟨start, ·⟩)) (by
      intro directory hdirectory
      obtain ⟨names, hmem, rfl⟩ := List.mem_map.mp hdirectory
      exact expandLast_text hstart (hnames names hmem) last onlyDirectories)
  rw [expandReversed_concat hstart hpattern hlast, if_neg (by simp [hboth]), if_pos hwild, hout,
    Except.bind, hmap, Except.map, map_foundIn hstart hnames, List.map_map,
    List.flatMap_def]
  rfl

theorem finds_self (hplain : ∀ p ∈ pattern, Text.Glob.hasWildcard p = false) :
    t.Finds start pattern [pattern] where
  nodup := List.nodup_singleton pattern
  described := by
    intro names hnames
    rw [List.mem_singleton.mp hnames]
    exact (describes_plain_path_iff hplain).mpr rfl
  complete := by
    intro names hdescribed _
    rw [(describes_plain_path_iff hplain).mp hdescribed]
    exact List.mem_singleton_self pattern

/-- With its only wildcard in the last name, a pattern is expanded in one directory. -/
theorem expandReversed_last (hstart : start ≠ .here) (hpattern : ∀ p ∈ pattern, IsComponent p)
    (hlast : IsComponent last)
    (hplain : Text.Glob.hasWildcard (Path.text ⟨start, pattern⟩) = false)
    (hwild : Text.Glob.hasWildcard (Path.text ⟨start, pattern ++ [last]⟩) = true)
    (onlyDirectories : Bool) :
    t.expandReversed onlyDirectories (Path.text ⟨start, pattern ++ [last]⟩).reverse
      = .ok ((t.foundIn start last onlyDirectories [pattern]).map (Path.text ⟨start, ·⟩)) := by
  rw [expandReversed_concat hstart hpattern hlast, if_neg (by simp [hwild]),
    if_neg (by simp [hplain]), expandLast_text hstart hpattern,
    map_foundIn hstart (by simpa using hpattern), List.flatMap_singleton]

/-- Without wildcards a pattern finds itself, if it is present. -/
theorem expandReversed_plain (hstart : start ≠ .here) (hpattern : ∀ p ∈ pattern, IsComponent p)
    (hlast : IsComponent last)
    (hplain : Text.Glob.hasWildcard (Path.text ⟨start, pattern ++ [last]⟩) = false)
    (onlyDirectories : Bool) :
    t.expandReversed onlyDirectories (Path.text ⟨start, pattern ++ [last]⟩).reverse
      = .ok ((if t.isPresent (Path.text ⟨start, pattern ++ [last]⟩) then [pattern ++ [last]]
          else []).map (Path.text ⟨start, ·⟩)) := by
  rw [expandReversed_concat hstart hpattern hlast, if_pos (by simp [hplain])]
  split <;> rfl

theorem plain_of_text (hstart : start ≠ .here) (names : List Text)
    (h : Text.Glob.hasWildcard (Path.text ⟨start, names⟩) = false) :
    ∀ name ∈ names, Text.Glob.hasWildcard name = false := by
  rw [hasWildcard_text hstart, List.any_eq_false] at h
  exact fun name hname => by simpa using h name hname

/-- The root finds itself. -/
theorem expandReversed_root (hstart : start ≠ .here) (onlyDirectories : Bool) :
    t.expandReversed onlyDirectories (Path.text ⟨start, []⟩).reverse
      = .ok [Path.text ⟨start, []⟩] := by
  have hroot : t.isDirectory (Path.text ⟨start, []⟩) = true := isDirectory_root hstart
  have hplain : Text.Glob.hasWildcard (Path.text ⟨start, []⟩) = false := by
    rw [hasWildcard_text hstart]
    rfl
  have hsplit : splitLast (Path.text ⟨start, []⟩).reverse
      = ([], (Path.text ⟨start, []⟩).reverse) := by
    cases start
    · exact absurd rfl hstart
    · rfl
    · rfl
  rw [expandReversed]
  simp [hasWildcard_reverse, hplain, hsplit, hroot]

/-- A pattern with a wildcard is expanded in what the names before its last one find. -/
theorem exists_directories (hstart : start ≠ .here) (hpattern : ∀ p ∈ pattern, IsComponent p)
    (hlast : IsComponent last)
    (h : ∃ directories, t.Finds start pattern directories ∧
      t.expandReversed true (Path.text ⟨start, pattern⟩).reverse
        = .ok (directories.map (Path.text ⟨start, ·⟩)))
    (hwhole : Text.Glob.hasWildcard (Path.text ⟨start, pattern ++ [last]⟩) = true)
    (onlyDirectories : Bool) :
    ∃ directories, t.Finds start pattern directories ∧
      t.expandReversed onlyDirectories (Path.text ⟨start, pattern ++ [last]⟩).reverse
        = .ok ((t.foundIn start last onlyDirectories directories).map
            (Path.text ⟨start, ·⟩)) := by
  cases hwild : Text.Glob.hasWildcard (Path.text ⟨start, pattern⟩) with
  | true =>
      obtain ⟨directories, hfinds, hout⟩ := h
      exact ⟨directories, hfinds,
        expandReversed_foundIn hstart hpattern hlast hfinds hout hwild onlyDirectories⟩
  | false =>
      exact ⟨[pattern], finds_self (plain_of_text hstart pattern hwild),
        expandReversed_last hstart hpattern hlast hwild hwhole onlyDirectories⟩

/-- Every absolute pattern has its paths. -/
theorem exists_finds (htidy : t.Tidy) (hstart : start ≠ .here)
    (hpattern : ∀ p ∈ pattern, IsComponent p) (onlyDirectories : Bool) :
    ∃ found, t.Finds start pattern found ∧
      t.expandReversed onlyDirectories (Path.text ⟨start, pattern⟩).reverse
        = .ok (found.map (Path.text ⟨start, ·⟩)) := by
  induction pattern using List.reverseRecOn generalizing onlyDirectories with
  | nil =>
      refine ⟨[[]], finds_self (by simp), ?_⟩
      rw [expandReversed_root hstart]
      rfl
  | append_singleton pattern last ih =>
      have hfront : ∀ p ∈ pattern, IsComponent p := fun p hp => hpattern p (by simp [hp])
      have hlast : IsComponent last := hpattern last (by simp)
      cases hboth : Text.Glob.hasWildcard (Path.text ⟨start, pattern ++ [last]⟩) with
      | false =>
          refine ⟨_, ?_, expandReversed_plain hstart hfront hlast hboth onlyDirectories⟩
          have hplain := plain_of_text hstart _ hboth
          constructor
          · split <;> simp
          · intro names hnames
            have hself := (@finds_self t start _ hplain).described
            split at hnames
            · exact hself names hnames
            · cases hnames
          · intro names hdescribed hdirectory
            rw [(describes_plain_path_iff hplain).mp hdescribed] at hdirectory ⊢
            have hpresent := isPresent_of_isDirectory hstart (by simp) hpattern hdirectory
            simp [hpresent]
      | true =>
          obtain ⟨directories, hfinds, hout⟩ :=
            exists_directories hstart hfront hlast (ih hfront true) hboth onlyDirectories
          exact ⟨_, hfinds.step htidy hstart hfront hlast onlyDirectories, hout⟩

/-- When the last name of a pattern has no wildcards, the present paths that it describes are
found. -/
theorem exists_found (htidy : t.Tidy) (hstart : start ≠ .here)
    (hpattern : ∀ p ∈ pattern, IsComponent p) (hlast : IsComponent last)
    (hplain : Text.Glob.hasWildcard last = false) :
    ∃ found : List (List Text),
      t.expandReversed false (Path.text ⟨start, pattern ++ [last]⟩).reverse
        = .ok (found.map (Path.text ⟨start, ·⟩)) ∧ found.Nodup ∧
      ∀ names, names ∈ found ↔ List.Forall₂ Describes (pattern ++ [last]) names ∧
        t.isPresent (Path.text ⟨start, names⟩) = true := by
  cases hwhole : Text.Glob.hasWildcard (Path.text ⟨start, pattern ++ [last]⟩) with
  | false =>
      refine ⟨_, expandReversed_plain hstart hpattern hlast hwhole false, ?_, fun names => ?_⟩
      · split <;> simp
      · rw [describes_plain_path_iff (plain_of_text hstart _ hwhole)]
        split
        next hpresent =>
          rw [List.mem_singleton]
          exact ⟨fun heq => ⟨heq, heq ▸ hpresent⟩, fun h => h.1⟩
        next habsent => simp +contextual [habsent]
  | true =>
      obtain ⟨directories, hfinds, hout⟩ := exists_directories hstart hpattern hlast
        (exists_finds htidy hstart hpattern true) hwhole false
      exact ⟨_, hout, (hfinds.step htidy hstart hpattern hlast false).nodup,
        hfinds.mem_foundIn_iff hstart hpattern hlast hplain false⟩

/-- Such a pattern is expanded to the present paths that it describes. -/
theorem exists_expand (htidy : t.Tidy) (hstart : start ≠ .here)
    (hpattern : ∀ p ∈ pattern, IsComponent p) (hlast : IsComponent last)
    (hplain : Text.Glob.hasWildcard last = false) :
    ∃ found, t.expand (Path.text ⟨start, pattern ++ [last]⟩) = .ok found ∧ found.Nodup ∧
      ∀ path, path ∈ found ↔ ∃ names, path = Path.text ⟨start, names⟩ ∧
        List.Forall₂ Describes (pattern ++ [last]) names ∧ t.isPresent path = true := by
  obtain ⟨found, hout, hnodup, hmem⟩ := exists_found htidy hstart hpattern hlast hplain
  have hboth := isComponent_concat hpattern hlast
  have htexts : (found.map (Path.text ⟨start, ·⟩)).Nodup := by
    apply List.Nodup.map_on _ hnodup
    intro names hnames names' hnames' heq
    have hwell : ∀ {names}, names ∈ found → Path.WellFormed ⟨start, names⟩ := by
      intro names hnames name hname
      have hcomponent := isComponent_of_describes ((hmem names).mp hnames).1 hboth name hname
      exact ⟨hcomponent.isName, hcomponent.no_slash⟩
    exact (Path.mk.inj (Path.text_injective (hwell hnames) (hwell hnames') heq)).2
  refine ⟨_, by rw [expand, hout]; rfl, ?_, fun path => ?_⟩
  · exact (List.mergeSort_perm _ _).nodup_iff.mpr htexts
  · rw [(List.mergeSort_perm _ _).mem_iff, List.mem_map]
    constructor
    · rintro ⟨names, hnames, rfl⟩
      obtain ⟨hdescribed, hpresent⟩ := (hmem names).mp hnames
      exact ⟨names, rfl, hdescribed, hpresent⟩
    · rintro ⟨names, rfl, hdescribed, hpresent⟩
      exact ⟨names, (hmem names).mpr ⟨hdescribed, hpresent⟩, rfl⟩

end Tree

end SshTunnel.Files
