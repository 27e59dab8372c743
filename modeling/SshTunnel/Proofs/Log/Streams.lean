import SshTunnel.Log.Stream
import SshTunnel.Proofs.Files.Alike

/-!
# What writing does to streams

Writing to a stream, or emptying its file, changes what this stream or its file holds and where it
stands. Which streams there are, where they lead and in which mode stays the same, and so do all
other texts in memory and all other files.
-/

namespace SshTunnel.Log

/-- A stream without what it holds and where it stands. -/
def Stream.fresh : Stream → Stream
  | .memory _ => .memory []
  | .file place mode _ => .file place mode 0
  | stream => stream

namespace Streams

variable {s s' : Streams} {number n : Nat} {content : Text} {place : Files.Location} {mode : Mode}
  {position limit : Nat} {bytes : Bytes}

/-- Which streams there are, where they lead and in which mode. -/
def outline (s : Streams) : List Stream := s.streams.map Stream.fresh

theorem map_fresh_set {streams : List Stream} {old new : Stream}
    (h : streams[number]? = some old) (hsame : new.fresh = old.fresh) :
    (streams.set number new).map Stream.fresh = streams.map Stream.fresh := by
  have hold : (streams.map Stream.fresh)[number]? = some old.fresh := by
    rw [List.getElem?_map, h, Option.map_some]
  rw [List.map_set, hsame]
  refine List.ext_getElem? fun i => ?_
  by_cases hi : number = i
  · subst hi
    rw [List.getElem?_set_self', hold]
    rfl
  · rw [List.getElem?_set_ne hi]

theorem outline_truncateAt (s : Streams) (number : Nat) (limit : Option Nat) :
    (s.truncateAt number limit).outline = s.outline := by
  unfold truncateAt
  split
  next _ h =>
    split
    · rfl
    · exact map_fresh_set h rfl
  next => rfl

theorem outline_write (s : Streams) (number : Nat) (t : Text) :
    (s.write number t).outline = s.outline := by
  unfold write
  split
  next h => exact map_fresh_set h rfl
  next h =>
    split
    · rfl
    · exact map_fresh_set h rfl
  next => rfl

/-! ## What the outline decides -/

/-- The stream leads to the file at a place. -/
def leadsTo (s : Streams) (place : Files.Location) (number : Nat) : Bool :=
  match s.streams[number]? with
  | some (.file p _ _) => p = place
  | _ => false

theorem getElem?_outline (s : Streams) (number : Nat) :
    s.outline[number]? = s.streams[number]?.map Stream.fresh := List.getElem?_map

theorem isClosedFile_iff_outline (s : Streams) (number : Nat) :
    s.isClosedFile number = true ↔ ∃ place, s.outline[number]? = some (.closedFile place) := by
  rw [isClosedFile, getElem?_outline]
  cases s.streams[number]? with
  | none => simp
  | some stream => cases stream <;> simp [Stream.fresh]

theorem isClosedFile_congr (h : s'.outline = s.outline) (number : Nat) :
    s'.isClosedFile number = s.isClosedFile number := by
  rw [Bool.eq_iff_iff, isClosedFile_iff_outline, isClosedFile_iff_outline, h]

theorem leadsTo_iff_outline (s : Streams) (place : Files.Location) (number : Nat) :
    s.leadsTo place number = true ↔ ∃ mode, s.outline[number]? = some (.file place mode 0) := by
  rw [leadsTo, getElem?_outline]
  cases s.streams[number]? with
  | none => simp
  | some stream => cases stream <;> simp [Stream.fresh]

theorem leadsTo_congr (h : s'.outline = s.outline) (place : Files.Location) :
    s'.leadsTo place = s.leadsTo place := by
  funext number
  rw [Bool.eq_iff_iff, leadsTo_iff_outline, leadsTo_iff_outline, h]

theorem file_of_outline (h : s'.outline = s.outline)
    (hfile : s.streams[number]? = some (.file place mode position)) :
    ∃ position', s'.streams[number]? = some (.file place mode position') := by
  have hfresh : s'.streams[number]?.map Stream.fresh = some (.file place mode 0) := by
    rw [← getElem?_outline, h, getElem?_outline, hfile]
    rfl
  obtain ⟨stream, hstream, heq⟩ := Option.map_eq_some_iff.mp hfresh
  cases stream with
  | file place' mode' position' =>
      cases heq
      exact ⟨position', hstream⟩
  | _ => cases heq

theorem exists_file_of_leadsTo (h : s.leadsTo place number = true) :
    ∃ mode position, s.streams[number]? = some (.file place mode position) := by
  unfold leadsTo at h
  split at h
  next p mode position hfile =>
    obtain rfl := of_decide_eq_true h
    exact ⟨mode, position, hfile⟩
  next => cases h

theorem leadsTo_of_file (h : s.streams[number]? = some (.file place mode position)) :
    s.leadsTo place number = true := by
  rw [leadsTo, h]
  exact decide_eq_true rfl

/-! ## Texts in memory -/

theorem memory_truncateAt (h : s.streams[n]? = some (.memory content)) (number : Nat)
    (limit : Option Nat) : (s.truncateAt number limit).streams[n]? = some (.memory content) := by
  unfold truncateAt
  split
  next _ hfile =>
    split
    · exact h
    · have hne : number ≠ n := by
        rintro rfl
        cases hfile.symm.trans h
      exact (List.getElem?_set_ne hne).trans h
  next => exact h

theorem memory_write (h : s.streams[n]? = some (.memory content)) (number : Nat) (t : Text) :
    (s.write number t).streams[n]? = some (.memory (content ++ if number = n then t else [])) := by
  by_cases hn : number = n
  · subst hn
    simp only [write, h, replace, List.getElem?_set_self', ↓reduceIte]
    rfl
  · rw [if_neg hn, List.append_nil]
    unfold write
    split
    · exact (List.getElem?_set_ne hn).trans h
    · split
      · exact h
      · exact (List.getElem?_set_ne hn).trans h
    · exact h

/-! ## Files -/

theorem node?_truncateAt_of_leadsTo_eq_false (h : s.leadsTo place number = false)
    (limit : Option Nat) :
    (s.truncateAt number limit).files.node? place = s.files.node? place := by
  unfold truncateAt
  split
  next _ hfile =>
    split
    · rfl
    · refine Files.Tree.node?_setContent_of_ne s.files ?_ _
      rintro rfl
      cases h.symm.trans (leadsTo_of_file hfile)
  next => rfl

theorem node?_write_of_leadsTo_eq_false (h : s.leadsTo place number = false) (t : Text) :
    (s.write number t).files.node? place = s.files.node? place := by
  unfold write
  split
  next => rfl
  next hfile =>
    split
    · rfl
    · refine Files.Tree.node?_setContent_of_ne s.files ?_ _
      rintro rfl
      cases h.symm.trans (leadsTo_of_file hfile)
  next => rfl

theorem contentAt_of_node? (h : s.files.node? place = some (.file bytes)) :
    s.contentAt place = bytes := by
  rw [contentAt, h]

theorem ne_read_of_appends (h : mode.appends = true) : mode ≠ .read := by
  rintro rfl
  cases h

/-- A file that has reached the limit is emptied. -/
theorem node?_truncateAt (hfile : s.streams[number]? = some (.file place mode position))
    (hmode : mode.appends = true) (hnode : s.files.node? place = some (.file bytes))
    (limit : Nat) :
    (s.truncateAt number (some limit)).files.node? place
      = some (.file (if limit ≤ bytes.length then [] else bytes)) := by
  simp only [truncateAt, hfile, contentAt_of_node? hnode, ne_read_of_appends hmode, decide_false,
    Bool.false_or, decide_eq_true_eq]
  by_cases hfull : bytes.length < limit
  · rw [if_pos hfull, if_neg (Nat.not_le.mpr hfull), hnode]
  · rw [if_neg hfull, if_pos (Nat.not_lt.mp hfull)]
    exact (Files.Tree.node?_setContent hnode [] place).trans (if_pos rfl)

theorem overwrite_end (content bytes : Bytes) :
    overwrite content content.length bytes = content ++ bytes := by
  simp [overwrite]

/-- A stream that appends writes behind everything in its file. -/
theorem node?_write (hfile : s.streams[number]? = some (.file place mode position))
    (hmode : mode.appends = true) (hnode : s.files.node? place = some (.file bytes)) (t : Text) :
    (s.write number t).files.node? place = some (.file (bytes ++ Utf8.encode t)) := by
  simp only [write, hfile, contentAt_of_node? hnode, if_neg (ne_read_of_appends hmode), hmode,
    ↓reduceIte, overwrite_end]
  exact (Files.Tree.node?_setContent hnode _ place).trans (if_pos rfl)

end Streams

end SshTunnel.Log
