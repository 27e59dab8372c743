import SshTunnel.Text.Blank
import SshTunnel.Text.Lines
import Mathlib.Data.List.Induction
import Mathlib.Tactic.Common
import Mathlib.Data.List.TakeWhile

/-!
# Lines and words of a written text

Lines that hold no break come back from a text in which each is followed by a line feed, and
words that hold no blank come back from a line in which a blank stands between them.
-/

namespace SshTunnel.Text

/-- Every break is a blank, so a line without blanks has no breaks. -/
theorem isBlank_of_isLineBreak {c : Char} (h : isLineBreak c = true) : isBlank c = true := by
  simp only [isLineBreak, Bool.or_eq_true, Bool.and_eq_true, decide_eq_true_eq,
    beq_iff_eq] at h
  simp only [isBlank, Bool.or_eq_true, Bool.and_eq_true, decide_eq_true_eq, beq_iff_eq]
  omega

/-! ## Lines -/

theorem lines_of_not_break {c : Char} (h : isLineBreak c = false) (rest : Text) :
    lines (c :: rest) = consLine c (lines rest) := by
  have hne : c ≠ '\r' := by
    rintro rfl
    exact absurd h (by decide)
  rw [lines]
  · rw [if_neg (by simp [h])]
  · rintro rest' rfl
    exact absurd rfl hne

theorem lines_append_newline {line : Text} (h : ∀ c ∈ line, isLineBreak c = false)
    (rest : Text) : lines (line ++ '\n' :: rest) = line :: lines rest := by
  induction line with
  | nil =>
      rw [List.nil_append, lines]
      · simp [isLineBreak]
      · simp
  | cons c line ih =>
      have hc : isLineBreak c = false := h c (by simp)
      have hline : ∀ d ∈ line, isLineBreak d = false := fun d hd => h d (by simp [hd])
      rw [List.cons_append, lines_of_not_break hc, ih hline, consLine]

/-- A text of whole lines has these lines. -/
theorem lines_flatMap {ts : List Text} (h : ∀ t ∈ ts, ∀ c ∈ t, isLineBreak c = false) :
    lines (ts.flatMap fun t => t ++ ['\n']) = ts := by
  induction ts with
  | nil => rfl
  | cons t ts ih =>
      have ht : ∀ c ∈ t, isLineBreak c = false := h t (by simp)
      have hts : ∀ s ∈ ts, ∀ c ∈ s, isLineBreak c = false := fun s hs => h s (by simp [hs])
      rw [List.flatMap_cons, List.append_assoc, List.singleton_append,
        lines_append_newline ht, ih hts]

theorem map_snd_numberedLines (t : Text) : (numberedLines t).map Prod.snd = lines t := by
  rw [numberedLines, List.map_map]
  exact List.zipIdx_map_fst 0 (lines t)

theorem unifyNewlines_eq_self {t : Text} (h : '\r' ∉ t) : unifyNewlines t = t := by
  induction t with
  | nil => rfl
  | cons c rest ih =>
      obtain ⟨hc, hrest⟩ : c ≠ '\r' ∧ '\r' ∉ rest := by
        simpa [eq_comm] using h
      rw [unifyNewlines]
      · rw [if_neg hc, ih hrest]
      · rintro rest' rfl
        exact absurd rfl hc

/-! ## Words -/

/-- A blank ends the first word of a text. -/
theorem firstWord_append_blank {word : Text} (h : ∀ c ∈ word, isBlank c = false)
    {blank : Char} (hblank : isBlank blank = true) (rest : Text) :
    firstWord (word ++ blank :: rest) = word := by
  rw [firstWord, List.takeWhile_append_of_pos (by simpa using h),
    List.takeWhile_cons_of_neg (by simp [hblank]), List.append_nil]

theorem afterFirstWord_append_blank {word : Text} (h : ∀ c ∈ word, isBlank c = false)
    {blank : Char} (hblank : isBlank blank = true) (rest : Text) :
    afterFirstWord (word ++ blank :: rest) = trimStart rest := by
  rw [afterFirstWord, List.dropWhile_append_of_pos (by simpa using h),
    List.dropWhile_cons_of_neg (by simp [hblank]), trimStart,
    List.dropWhile_cons_of_pos hblank, trimStart]

theorem words_of_not_blank {word : Text} (hne : word ≠ [])
    (h : ∀ c ∈ word, isBlank c = false) : words word = [word] := by
  rw [words, List.splitOnP_eq_singleton h]
  simp [hne]

/-- A blank ends the first word. -/
theorem words_append_blank {word : Text} (hne : word ≠ [])
    (h : ∀ c ∈ word, isBlank c = false) {blank : Char} (hblank : isBlank blank = true)
    (rest : Text) : words (word ++ blank :: rest) = word :: words rest := by
  rw [words, words, List.splitOnP_append_cons_of_forall_mem h blank hblank]
  simp [hne]

/-- A blank parts the words of a text. -/
theorem words_append (t : Text) {blank : Char} (h : isBlank blank = true) (rest : Text) :
    words (t ++ blank :: rest) = words t ++ words rest := by
  rw [words, words, words, List.splitOnP_append_cons _ _ h, List.filter_append]

theorem words_cons_blank {blank : Char} (h : isBlank blank = true) (t : Text) :
    words (blank :: t) = words t :=
  words_append [] h t

theorem words_concat_blank (t : Text) {blank : Char} (h : isBlank blank = true) :
    words (t ++ [blank]) = words t := by
  rw [words_append t h, show words [] = [] from rfl, List.append_nil]

/-- A character that is no blank starts a word. -/
theorem words_cons_of_not_blank {c : Char} (hc : isBlank c = false) (rest : Text) :
    ∃ word more, words (c :: rest) = (c :: word) :: more := by
  obtain ⟨first, more, hsplit⟩ := List.exists_cons_of_ne_nil (List.splitOnP_ne_nil isBlank rest)
  refine ⟨first, more.filter (! ·.isEmpty), ?_⟩
  simp [words, List.splitOnP_cons_eq_if_modifyHead, hc, hsplit]

/-! ## Texts without blanks at their ends -/

theorem words_trimStart (t : Text) : words (trimStart t) = words t := by
  induction t with
  | nil => rfl
  | cons c rest ih =>
      by_cases hc : isBlank c = true
      · rw [trimStart, List.dropWhile_cons_of_pos hc, words_cons_blank hc]
        exact ih
      · rw [trimStart, List.dropWhile_cons_of_neg hc]

theorem words_trimEnd (t : Text) : words (trimEnd t) = words t := by
  induction t using List.reverseRecOn with
  | nil => rfl
  | append_singleton front c ih =>
      by_cases hc : isBlank c = true
      · have hcut : trimEnd (front ++ [c]) = trimEnd front := by
          simp [trimEnd, dropEnd, hc]
        rw [hcut, ih, words_concat_blank front hc]
      · have hkeep : trimEnd (front ++ [c]) = front ++ [c] := by
          simp [trimEnd, dropEnd, hc]
        rw [hkeep]

/-- Blanks at the ends are no part of a word. -/
theorem words_trim (t : Text) : words (trim t) = words t := by
  rw [trim, words_trimEnd, words_trimStart]

theorem trimEnd_isPrefix (t : Text) : trimEnd t <+: t := by
  rw [trimEnd, dropEnd, ← List.reverse_suffix, List.reverse_reverse]
  exact List.dropWhile_suffix isBlank

theorem not_blank_of_trim {t rest : Text} {c : Char} (h : trim t = c :: rest) :
    isBlank c = false := by
  obtain ⟨back, hback⟩ : c :: rest <+: trimStart t := h ▸ trimEnd_isPrefix (trimStart t)
  have hstart := List.head?_dropWhile_not isBlank t
  rw [← trimStart, ← hback] at hstart
  exact hstart

/-- What is left of a text without blanks at its ends starts as its first word. -/
theorem head?_trim {t word : Text} {more : List Text} (h : words t = word :: more) :
    (trim t).head? = word.head? := by
  rw [← words_trim] at h
  cases htrim : trim t with
  | nil =>
      rw [htrim] at h
      cases h
  | cons c rest =>
      obtain ⟨first, others, hwords⟩ := words_cons_of_not_blank (not_blank_of_trim htrim) rest
      rw [htrim, hwords] at h
      obtain ⟨rfl, -⟩ := List.cons.inj h
      rfl

theorem trimEnd_eq_self {t : Text} (h : ∀ c ∈ t.getLast?, isBlank c = false) : trimEnd t = t := by
  rcases List.eq_nil_or_concat t with rfl | ⟨front, c, rfl⟩
  · rfl
  · simp [trimEnd, dropEnd, h c (by simp)]

/-- Nothing is cut from a text that starts and ends with something else than a blank. -/
theorem trim_eq_self {t : Text} (hfirst : ∀ c ∈ t.head?, isBlank c = false)
    (hlast : ∀ c ∈ t.getLast?, isBlank c = false) : trim t = t := by
  have hstart : trimStart t = t := by
    cases t with
    | nil => rfl
    | cons c rest => simp [trimStart, hfirst c rfl]
  rw [trim, hstart, trimEnd_eq_self hlast]

/-! ## Blanks at the ends -/

theorem trimEnd_last (t : Text) : ∀ c ∈ (trimEnd t).getLast?, isBlank c = false := by
  intro c hc
  have hstop := List.head?_dropWhile_not isBlank t.reverse
  rw [trimEnd, dropEnd, List.getLast?_reverse, Option.mem_def] at hc
  rw [hc] at hstop
  exact hstop

/-- A text is what is left of it when it is trimmed, with blanks around. -/
theorem exists_trimEnd (t : Text) :
    ∃ gap, t = trimEnd t ++ gap ∧ ∀ c ∈ gap, isBlank c = true := by
  refine ⟨(t.reverse.takeWhile isBlank).reverse, ?_, fun c hc => ?_⟩
  · rw [trimEnd, dropEnd, ← List.reverse_append, List.takeWhile_append_dropWhile,
      List.reverse_reverse]
  · exact List.mem_takeWhile_imp (List.mem_reverse.mp hc)

theorem exists_trim (t : Text) : ∃ before after, t = before ++ trim t ++ after ∧
    (∀ c ∈ before, isBlank c = true) ∧ ∀ c ∈ after, isBlank c = true := by
  obtain ⟨after, hend, hafter⟩ := exists_trimEnd (trimStart t)
  refine ⟨t.takeWhile isBlank, after, ?_, fun c hc => List.mem_takeWhile_imp hc, hafter⟩
  rw [List.append_assoc, trim, ← hend]
  exact List.takeWhile_append_dropWhile.symm

theorem trimEnd_trim (t : Text) : trimEnd (trim t) = trim t :=
  trimEnd_eq_self (trimEnd_last (trimStart t))

theorem mem_trim {t : Text} {c : Char} (hc : isBlank c = false) (h : c ∈ t) : c ∈ trim t := by
  obtain ⟨before, after, ht, hbefore, hafter⟩ := exists_trim t
  rw [ht, List.mem_append, List.mem_append] at h
  rcases h with (hmem | hmem) | hmem
  · cases hc.symm.trans (hbefore c hmem)
  · exact hmem
  · cases hc.symm.trans (hafter c hmem)

theorem trim_surround {indent core tail : Text} (hindent : ∀ c ∈ indent, isBlank c = true)
    (htail : ∀ c ∈ tail, isBlank c = true) (hne : core ≠ [])
    (hfirst : ∀ c ∈ core.head?, isBlank c = false)
    (hlast : ∀ c ∈ core.getLast?, isBlank c = false) :
    trim (indent ++ core ++ tail) = core := by
  have hstart : trimStart (indent ++ core ++ tail) = core ++ tail := by
    obtain ⟨c, more, rfl⟩ := List.exists_cons_of_ne_nil hne
    rw [List.append_assoc, trimStart, List.dropWhile_append_of_pos hindent]
    exact List.dropWhile_cons_of_neg (by simp [hfirst c rfl])
  obtain ⟨front, c, rfl⟩ := (List.eq_nil_or_concat core).resolve_left hne
  rw [trim, hstart, trimEnd, dropEnd, List.reverse_append,
    List.dropWhile_append_of_pos (by simpa using htail), List.concat_eq_append,
    List.reverse_append, List.reverse_singleton, List.singleton_append,
    List.dropWhile_cons_of_neg (by simp [hlast c (by simp)]), List.reverse_cons,
    List.reverse_reverse]

theorem trimEnd_append (s : Text) {t : Text} (h : trimEnd t ≠ []) :
    trimEnd (s ++ t) = s ++ trimEnd t := by
  have hrest : t.reverse.dropWhile isBlank ≠ [] := by
    intro hnil
    exact h (by rw [trimEnd, dropEnd, hnil, List.reverse_nil])
  rw [trimEnd, dropEnd, trimEnd, dropEnd, List.reverse_append,
    List.dropWhile_append]
  simp [hrest]

end SshTunnel.Text
