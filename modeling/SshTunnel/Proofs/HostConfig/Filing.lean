import SshTunnel.Proofs.HostConfig.Reading
import Mathlib.Data.List.Basic

/-!
# Where directive lines are filed

While a tree of files is read, each directive line goes into a place: the table for every
alias, or a section. Places are numbered in the order in which they come into being. Loading
keeps the lines of each place in reading order, but not those of different places: a line
above the first Host line of an included file goes into the place of its Include line, and
the sections of the files before may have come into being after that.
-/

namespace SshTunnel.HostConfig

/-- A governed directive line with the number of its place. -/
structure Filed where
  scope : Scope
  place : Nat
  directive : Directive
deriving DecidableEq, Repr

/-- The line apart from its place. -/
def Filed.line (a : Filed) : Governed := ⟨a.scope, a.directive⟩

namespace Reading

/-- How many sections a reading opens. Behind an Include line a new one is opened, except in
the table for every alias. -/
def opened (outer : Scope) (above : Option (List Text)) : Reading → Nat
  | done => 0
  | problem _ rest => rest.opened outer above
  | host patterns rest => rest.opened outer (some patterns) + 1
  | directive _ rest => rest.opened outer above
  | file body rest => body.opened (outer ++ above.toList) none + rest.opened outer above
  | resume rest =>
      if outer = [] ∧ above = none then rest.opened outer above
      else rest.opened outer above + 1

/-- The directive lines in reading order with their places, when `place` is under way and the
next section gets the number `fresh`. -/
def filed (outer : Scope) (above : Option (List Text)) (place fresh : Nat) :
    Reading → List Filed
  | done => []
  | problem _ rest => rest.filed outer above place fresh
  | host patterns rest => rest.filed outer (some patterns) fresh (fresh + 1)
  | directive d rest => ⟨outer ++ above.toList, place, d⟩ :: rest.filed outer above place fresh
  | file body rest =>
      body.filed (outer ++ above.toList) none place fresh ++
        rest.filed outer above place (fresh + body.opened (outer ++ above.toList) none)
  | resume rest =>
      if outer = [] ∧ above = none then rest.filed outer above place fresh
      else rest.filed outer above fresh (fresh + 1)

/-- The places take no line away and leave the order as it is. -/
theorem filed_lines (r : Reading) (outer : Scope) (above : Option (List Text))
    (place fresh : Nat) :
    (r.filed outer above place fresh).map Filed.line = r.lines outer above := by
  induction r generalizing outer above place fresh with
  | done => rfl
  | problem e rest ih => exact ih outer above place fresh
  | host patterns rest ih => exact ih outer (some patterns) fresh (fresh + 1)
  | directive d rest ih => rw [filed, List.map_cons, ih, lines, Filed.line]
  | file body rest ihbody ih => rw [filed, List.map_append, ihbody, ih, lines]
  | resume rest ih =>
      rw [filed, lines]
      split
      · exact ih outer above place fresh
      · exact ih outer above fresh (fresh + 1)

end Reading

/-! ## Lists with the same lines in each place -/

/-- Both lists have the same lines in each place, in the same order. -/
def SameFiling (L M : List Filed) : Prop :=
  ∀ n, L.filter (fun a => a.place = n) = M.filter (fun a => a.place = n)

namespace SameFiling

variable {L L' M M' N : List Filed}

theorem refl (L : List Filed) : SameFiling L L := fun _ => rfl

theorem symm (h : SameFiling L M) : SameFiling M L := fun n => (h n).symm

theorem trans (h : SameFiling L M) (h' : SameFiling M N) : SameFiling L N :=
  fun n => (h n).trans (h' n)

theorem append (h : SameFiling L L') (h' : SameFiling M M') :
    SameFiling (L ++ M) (L' ++ M') := by
  intro n
  rw [List.filter_append, List.filter_append, h n, h' n]

/-- Lines of different places may change sides. -/
theorem swap (h : ∀ a ∈ L, ∀ b ∈ M, a.place ≠ b.place) : SameFiling (L ++ M) (M ++ L) := by
  intro n
  rw [List.filter_append, List.filter_append]
  by_cases hL : ∃ a ∈ L, a.place = n
  · obtain ⟨a, ha, rfl⟩ := hL
    have hM : M.filter (fun b => b.place = a.place) = [] := by
      rw [List.filter_eq_nil_iff]
      intro b hb
      simpa using (h a ha b hb).symm
    rw [hM, List.append_nil, List.nil_append]
  · have hL' : L.filter (fun a => a.place = n) = [] := by
      rw [List.filter_eq_nil_iff]
      intro a ha
      simpa using fun hn => hL ⟨a, ha, hn⟩
    rw [hL', List.append_nil, List.nil_append]

theorem filter (h : SameFiling L M) (keep : Filed → Bool) :
    SameFiling (L.filter keep) (M.filter keep) := by
  intro n
  rw [List.filter_comm, h n, List.filter_comm]

/-- Such lists are rearrangements of each other. -/
theorem perm (h : SameFiling L M) : L.Perm M := by
  rw [List.perm_iff_count]
  intro a
  have hn := congrArg (List.count a) (h a.place)
  rwa [List.count_filter (by simp), List.count_filter (by simp)] at hn

end SameFiling

/-! ## The lines of loaded contents -/

/-- The directives of a section at its place. -/
def Section.filed (place : Nat) (s : Section) : List Filed :=
  s.directives.map (⟨s.scope, place, ·⟩)

/-- The directives of sections with numbers in a row. -/
def sectionsFiled : Nat → List Section → List Filed
  | _, [] => []
  | n, s :: rest => s.filed n ++ sectionsFiled (n + 1) rest

/-- The directives of what a file says, when it is read for `outer` at a place. -/
def Contents.filed (outer : Scope) (place fresh : Nat) (c : Contents) : List Filed :=
  c.top.map (⟨outer, place, ·⟩) ++ sectionsFiled fresh c.sections

theorem sectionsFiled_append (n : Nat) (xs ys : List Section) :
    sectionsFiled n (xs ++ ys) = sectionsFiled n xs ++ sectionsFiled (n + xs.length) ys := by
  induction xs generalizing n with
  | nil => rfl
  | cons s xs ih =>
      have hn : n + 1 + xs.length = n + (s :: xs).length := by
        rw [List.length_cons]
        omega
      rw [List.cons_append, sectionsFiled, ih, sectionsFiled, List.append_assoc, hn]

theorem place_of_mem_sectionsFiled {n : Nat} {xs : List Section} {a : Filed}
    (h : a ∈ sectionsFiled n xs) : n ≤ a.place ∧ a.place < n + xs.length := by
  induction xs generalizing n with
  | nil => cases h
  | cons s xs ih =>
      rw [sectionsFiled, List.mem_append] at h
      rw [List.length_cons]
      rcases h with h | h
      · obtain ⟨d, -, rfl⟩ := List.mem_map.mp h
        exact ⟨Nat.le_refl n, by simp⟩
      · obtain ⟨hlow, hhigh⟩ := ih h
        omega

/-- Directives at a place in front of all sections may come before or after these. -/
theorem sameFiling_top_swap {place fresh : Nat} (hplace : place < fresh) (outer : Scope)
    (ds : List Directive) (xs : List Section) :
    SameFiling (sectionsFiled fresh xs ++ ds.map (⟨outer, place, ·⟩))
      (ds.map (⟨outer, place, ·⟩) ++ sectionsFiled fresh xs) := by
  apply SameFiling.swap
  intro a ha b hb
  obtain ⟨d, -, rfl⟩ := List.mem_map.mp hb
  have hlow := (place_of_mem_sectionsFiled ha).1
  show a.place ≠ place
  omega

/-- What two files say one after the other, when the second follows the first in place. -/
theorem filed_append {place fresh : Nat} (hplace : place < fresh) (outer : Scope)
    (a b : Contents) :
    SameFiling (a.filed outer place fresh ++ b.filed outer place (fresh + a.sections.length))
      ((a.append b).filed outer place fresh) := by
  simp only [Contents.filed, Contents.append, List.map_append, sectionsFiled_append,
    List.append_assoc]
  apply (SameFiling.refl _).append
  rw [← List.append_assoc, ← List.append_assoc]
  exact (sameFiling_top_swap hplace outer b.top a.sections).append (SameFiling.refl _)

/-! ## Steps of reading a file -/

namespace Progress

/-- The number of the place under way. -/
def place (p : Progress) (place fresh : Nat) : Nat :=
  if p.inTop then place else fresh + p.contents.sections.length - 1

/-- The directives taken in so far. -/
abbrev filed (p : Progress) (outer : Scope) (place fresh : Nat) : List Filed :=
  p.contents.filed outer place fresh

/-- A file that is read for `outer` stands below the Host line `above`, if there is one. A
section is under way, unless the file stands above its first Host line and has not gone
through an Include line for fewer than all aliases. -/
structure Stands (outer : Scope) (above : Option (List Text)) (p : Progress) : Prop where
  scope : p.scope outer = outer ++ above.toList
  top : p.inTop = true → above = none
  under : p.inTop = false → ∃ init s, p.contents.sections = init ++ [s]
  every : p.inTop = false → outer = [] → above ≠ none

theorem Stands.start (outer : Scope) : Stands outer none start where
  scope := by simp [Progress.start, Progress.scope]
  top := fun _ => rfl
  under := by simp [Progress.start]
  every := by simp [Progress.start]

variable {outer : Scope} {above : Option (List Text)} {p : Progress} {place fresh : Nat}

theorem onLast_append {α : Type} (f : α → α) (init : List α) (x : α) :
    onLast f (init ++ [x]) = init ++ [f x] := by
  induction init with
  | nil => rfl
  | cons y init ih => cases init <;> simp_all [onLast]

/-- The next free number stays above the place under way. -/
theorem Stands.place_lt (h : Stands outer above p) (hplace : place < fresh) :
    p.place place fresh < fresh + p.contents.sections.length := by
  unfold Progress.place
  cases hin : p.inTop with
  | true =>
      simp only [↓reduceIte]
      omega
  | false =>
      obtain ⟨init, s, hs⟩ := h.under hin
      simp only [hs, List.length_append, List.length_singleton, Bool.false_eq_true, ↓reduceIte]
      omega

/-- A Host line opens a section of its own. -/
theorem Stands.openSection (p : Progress) (outer : Scope) (patterns : List Text) :
    Stands outer (some patterns) (p.openSection (outer ++ [patterns])) where
  scope := by simp [Progress.openSection, Progress.scope]
  top := by simp [Progress.openSection]
  under := fun _ => ⟨p.contents.sections, ⟨outer ++ [patterns], []⟩, rfl⟩
  every := by simp

theorem openSection_filed (p : Progress) (scope : Scope) :
    (p.openSection scope).filed outer place fresh = p.filed outer place fresh := by
  simp [Progress.openSection, Progress.filed, Contents.filed, sectionsFiled_append,
    sectionsFiled, Section.filed]

theorem openSection_place (p : Progress) (scope : Scope) :
    (p.openSection scope).place place fresh = fresh + p.contents.sections.length := by
  simp [Progress.openSection, Progress.place]

@[simp] theorem add_inTop (p : Progress) (ds : List Directive) :
    (p.add ds).inTop = p.inTop := by
  unfold Progress.add
  split <;> rfl

/-- What adding does in a section under way. -/
theorem add_section {ds : List Directive} {init : List Section} {s : Section}
    (hin : p.inTop = false) (hs : p.contents.sections = init ++ [s]) :
    (p.add ds).contents
      = ⟨p.contents.top, init ++ [{ s with directives := s.directives ++ ds }]⟩ := by
  simp only [Progress.add, hin, hs, onLast_append, Bool.false_eq_true, ↓reduceIte]

theorem add_top {ds : List Directive} (hin : p.inTop = true) :
    (p.add ds).contents = ⟨p.contents.top ++ ds, p.contents.sections⟩ := by
  simp only [Progress.add, hin, ↓reduceIte]

theorem Stands.add_length (h : Stands outer above p) (ds : List Directive) :
    (p.add ds).contents.sections.length = p.contents.sections.length := by
  cases hin : p.inTop with
  | true => rw [add_top hin]
  | false =>
      obtain ⟨init, s, hs⟩ := h.under hin
      rw [add_section hin hs, hs, List.length_append, List.length_append]
      rfl

/-- A directive line leaves the file where it stands. -/
theorem Stands.add (h : Stands outer above p) (ds : List Directive) :
    Stands outer above (p.add ds) := by
  refine ⟨?_, by simpa using h.top, ?_, by simpa using h.every⟩
  · rw [← h.scope]
    cases hin : p.inTop with
    | true => simp [Progress.scope, hin]
    | false =>
        obtain ⟨init, s, hs⟩ := h.under hin
        simp [Progress.scope, hin, add_section hin hs, hs]
  · intro hin
    rw [add_inTop] at hin
    obtain ⟨init, s, hs⟩ := h.under hin
    exact ⟨init, _, congrArg Contents.sections (add_section hin hs)⟩

theorem Stands.add_place (h : Stands outer above p) (ds : List Directive) :
    (p.add ds).place place fresh = p.place place fresh := by
  rw [Progress.place, add_inTop, h.add_length, Progress.place]

/-- Directives are filed at the place under way. -/
theorem Stands.add_filed (h : Stands outer above p) (hplace : place < fresh)
    (ds : List Directive) :
    SameFiling
      (p.filed outer place fresh
        ++ ds.map (⟨outer ++ above.toList, p.place place fresh, ·⟩))
      ((p.add ds).filed outer place fresh) := by
  rw [← h.scope]
  cases hin : p.inTop with
  | true =>
      have hscope : p.scope outer = outer := by simp [Progress.scope, hin]
      have hcur : p.place place fresh = place := by simp [Progress.place, hin]
      rw [hscope, hcur, Progress.filed, Progress.filed, add_top hin]
      simp only [Contents.filed, List.map_append, List.append_assoc]
      exact (SameFiling.refl _).append
        (sameFiling_top_swap hplace outer ds p.contents.sections)
  | false =>
      obtain ⟨init, s, hs⟩ := h.under hin
      have hscope : p.scope outer = s.scope := by simp [Progress.scope, hin, hs]
      have hcur : p.place place fresh = fresh + init.length := by
        simp [Progress.place, hin, hs]
      rw [hscope, hcur, Progress.filed, Progress.filed, add_section hin hs]
      simp only [Contents.filed, hs, sectionsFiled_append, sectionsFiled, Section.filed,
        List.map_append, List.append_assoc, List.append_nil]
      exact SameFiling.refl _

/-- The table for every alias is under way. -/
theorem Stands.inTop_and_every (h : Stands outer above p) :
    (p.inTop && outer.isEmpty) = true ↔ outer = [] ∧ above = none := by
  rw [Bool.and_eq_true, List.isEmpty_iff]
  constructor
  · rintro ⟨hin, houter⟩
    exact ⟨houter, h.top hin⟩
  · rintro ⟨houter, habove⟩
    refine ⟨?_, houter⟩
    by_contra hin
    exact h.every (by simpa using hin) houter habove

/-- What an Include line names, before a section is opened behind it. -/
def joined (p : Progress) (c : Contents) : Progress :=
  ⟨⟨(p.add c.top).contents.top, (p.add c.top).contents.sections ++ c.sections⟩, p.inTop⟩

theorem takeIn_eq (p : Progress) (outer : Scope) (c : Contents) :
    p.takeIn outer c =
      if p.inTop && outer.isEmpty then p.joined c
      else (p.joined c).openSection (p.scope outer) := rfl

theorem Stands.joined_length (h : Stands outer above p) (c : Contents) :
    (p.joined c).contents.sections.length
      = p.contents.sections.length + c.sections.length := by
  rw [joined, List.length_append, h.add_length]

/-- Behind an Include line the file stands where it stood. -/
theorem Stands.takeIn (h : Stands outer above p) (c : Contents) :
    Stands outer above (p.takeIn outer c) := by
  rw [takeIn_eq]
  by_cases hevery : (p.inTop && outer.isEmpty) = true
  · rw [if_pos hevery]
    obtain ⟨houter, habove⟩ := h.inTop_and_every.mp hevery
    have hin : p.inTop = true := (Bool.and_eq_true _ _ ▸ hevery).1
    subst houter habove
    exact ⟨by simp [joined, Progress.scope, hin], fun _ => rfl,
      by simp [joined, hin], by simp [joined, hin]⟩
  · rw [if_neg hevery]
    refine ⟨by simp [Progress.openSection, Progress.scope, ← h.scope], ?_, ?_, ?_⟩
    · simp [Progress.openSection]
    · exact fun _ => ⟨_, _, rfl⟩
    · rintro - houter habove
      exact hevery (h.inTop_and_every.mpr ⟨houter, habove⟩)

/-- What an Include line names is filed from the place under way on. -/
theorem Stands.takeIn_filed (h : Stands outer above p) (hplace : place < fresh)
    (c : Contents) :
    SameFiling
      (p.filed outer place fresh
        ++ c.filed (outer ++ above.toList) (p.place place fresh)
            (fresh + p.contents.sections.length))
      ((p.takeIn outer c).filed outer place fresh) := by
  have hjoined : (p.joined c).filed outer place fresh
      = (p.add c.top).filed outer place fresh
        ++ sectionsFiled (fresh + p.contents.sections.length) c.sections := by
    rw [← h.add_length c.top]
    simp [joined, Progress.filed, Contents.filed, sectionsFiled_append]
  have htake : (p.takeIn outer c).filed outer place fresh
      = (p.joined c).filed outer place fresh := by
    rw [takeIn_eq]
    split
    · rfl
    · exact openSection_filed (p.joined c) (p.scope outer)
  rw [htake, hjoined, Contents.filed, ← List.append_assoc]
  exact (h.add_filed hplace c.top).append (SameFiling.refl _)

/-- Behind an Include line a new section is under way, except in the table for every alias. -/
theorem Stands.takeIn_place (h : Stands outer above p) (c : Contents) :
    (p.takeIn outer c).place place fresh =
      if outer = [] ∧ above = none then p.place place fresh
      else fresh + (p.contents.sections.length + c.sections.length) := by
  rw [takeIn_eq, ← h.joined_length c]
  by_cases hevery : (p.inTop && outer.isEmpty) = true
  · have hin : p.inTop = true := (Bool.and_eq_true _ _ ▸ hevery).1
    rw [if_pos hevery, if_pos (h.inTop_and_every.mp hevery)]
    simp [Progress.place, joined, hin]
  · rw [if_neg hevery, if_neg (h.inTop_and_every.not.mp hevery), openSection_place]

theorem Stands.takeIn_length (h : Stands outer above p) (c : Contents) :
    (p.takeIn outer c).contents.sections.length =
      if outer = [] ∧ above = none then p.contents.sections.length + c.sections.length
      else p.contents.sections.length + c.sections.length + 1 := by
  rw [takeIn_eq, ← h.joined_length c]
  by_cases hevery : (p.inTop && outer.isEmpty) = true
  · rw [if_pos hevery, if_pos (h.inTop_and_every.mp hevery)]
  · rw [if_neg hevery, if_neg (h.inTop_and_every.not.mp hevery), Progress.openSection,
      List.length_append, List.length_singleton]

end Progress

end SshTunnel.HostConfig
