import SshTunnel.Proofs.HostConfig.Letter
import SshTunnel.Proofs.HostConfig.Malformed
import SshTunnel.Proofs.Text.Lower

/-!
# Lines with `#` between quotes

When every `#` of a line stands between quotes, a letter can take its place. The line then writes
the same but for the letter, unless a `#` is taken for a comment. In that case the cut leaves a
quote open that the letter does not, and of the two lines just one is malformed, unless both are.
-/

namespace SshTunnel.HostConfig

/-- No quote stays open on the line, and every `#` stands where one is open. -/
structure MarksQuoted (line : Text) : Prop where
  balanced : ¬ IsOpen line
  inside : ∀ before after, line = before ++ '#' :: after → IsOpen before

theorem marksQuoted_iff (t : Text) : MarksQuoted t ↔ ¬ IsOpen t ∧
    ∀ i < t.length, t[i]? = some '#' → IsOpen (t.take i) := by
  constructor
  · rintro ⟨hbalanced, hinside⟩
    refine ⟨hbalanced, fun i hi hmark => hinside (t.take i) (t.drop (i + 1)) ?_⟩
    rw [List.getElem?_eq_getElem hi, Option.some.injEq] at hmark
    rw [← hmark, ← List.drop_eq_getElem_cons hi, List.take_append_drop]
  · rintro ⟨hbalanced, hinside⟩
    refine ⟨hbalanced, ?_⟩
    rintro before after rfl
    simpa using hinside before.length (by simp) (by simp)

instance (line : Text) : Decidable (MarksQuoted line) :=
  decidable_of_iff _ (marksQuoted_iff line).symm

/-- The line is malformed whatever follows the first blank with a `#` behind it. -/
def FailsBeforeMark (line : Text) : Prop :=
  ∃ keyword value, Writes line keyword value ∧
    (value = [] ∨ Text.lower keyword = "match".toList)

/-! ## Quotes and blanks -/

theorem count_quote_blanks {gap : Text} (h : ∀ c ∈ gap, Text.isBlank c = true) :
    gap.count '"' = 0 := by
  apply List.count_eq_zero_of_not_mem
  intro hmem
  exact absurd (h '"' hmem) (by decide)

theorem count_quote_trim (t : Text) : (Text.trim t).count '"' = t.count '"' := by
  obtain ⟨before, after, ht, hbefore, hafter⟩ := Text.exists_trim t
  conv_rhs => rw [ht]
  simp [count_quote_blanks hbefore, count_quote_blanks hafter]

theorem count_quote_trimEnd (t : Text) : (Text.trimEnd t).count '"' = t.count '"' := by
  obtain ⟨gap, ht, hgap⟩ := Text.exists_trimEnd t
  conv_rhs => rw [ht]
  simp [count_quote_blanks hgap]

theorem isOpen_trim (t : Text) : IsOpen (Text.trim t) ↔ IsOpen t := by
  rw [IsOpen, IsOpen, count_quote_trim]

theorem MarksQuoted.trim {line : Text} (h : MarksQuoted line) : MarksQuoted (Text.trim line) := by
  obtain ⟨front, back, hline, hfront, -⟩ := Text.exists_trim line
  refine ⟨fun hopen => h.balanced ((isOpen_trim line).mp hopen), ?_⟩
  intro before after htrim
  have hinside := h.inside (front ++ before) (after ++ back) (by
    conv_lhs => rw [hline]
    simp [htrim])
  rwa [IsOpen, List.count_append, count_quote_blanks hfront, Nat.zero_add] at hinside

/-! ## Quotes in the parts of a line -/

theorem Parts.count_quote {body keyword value : Text} (h : Parts body keyword value) :
    body.count '"' = keyword.count '"' + value.count '"' := by
  cases h with
  | equals h => simp
  | alone h => simp
  | blanks h hgap hblank hc hne => simp [count_quote_blanks hblank]
  | blanksEquals h hgap hblank => simp [count_quote_blanks hblank]

/-- A keyword with a `#` in it has a quote in front of that. -/
theorem Writes.hash_notMem {line keyword value : Text} (h : Writes line keyword value)
    (hmarks : MarksQuoted line) (hquote : '"' ∉ keyword) : '#' ∉ keyword := by
  intro hmem
  obtain ⟨before, after, rfl, -⟩ := List.eq_append_cons_of_mem hmem
  obtain ⟨rest, hrest⟩ := h.keyword_isPrefix
  have hopen := hmarks.trim.inside before (after ++ rest) (by simp [← hrest])
  rw [IsOpen, List.count_eq_zero_of_not_mem fun hq => hquote (List.mem_append_left _ hq)] at hopen
  cases hopen

theorem quote_mem_lower {t : Text} (h : '"' ∈ t) : '"' ∈ Text.lower t :=
  Text.mem_lower (Text.isSettled_of_ascii (by decide) (by decide)) h

theorem lower_ne_of_quote {keyword word : Text} (h : '"' ∈ keyword) (hword : '"' ∉ word) :
    Text.lower keyword ≠ word := by
  rintro rfl
  exact hword (quote_mem_lower h)

/-- With the letter, a keyword with a quote still has one, and any other stays the same. -/
theorem Writes.keyword_withLetter (x : Char) {line keyword value : Text}
    (h : Writes line keyword value) (hmarks : MarksQuoted line) :
    lettered x keyword = keyword ∨ '"' ∈ keyword ∧ '"' ∈ lettered x keyword := by
  by_cases hquote : '"' ∈ keyword
  · exact Or.inr ⟨hquote, List.mem_map.mpr ⟨'"', hquote, rfl⟩⟩
  · exact Or.inl (lettered_eq_self x (h.hash_notMem hmarks hquote))

theorem Writes.lower_withLetter_ne (x : Char) {line keyword value : Text}
    (h : Writes line keyword value) (hmarks : MarksQuoted line) {word : Text} (hword : '"' ∉ word)
    (hne : Text.lower keyword ≠ word) : Text.lower (lettered x keyword) ≠ word := by
  rcases h.keyword_withLetter x hmarks with hsame | ⟨-, hquote⟩
  · rwa [hsame]
  · exact lower_ne_of_quote hquote hword

/-- A line with quoted marks only is empty or significant. -/
theorem MarksQuoted.significant {line : Text} (h : MarksQuoted line)
    (hne : Text.trim line ≠ []) : isSignificant (Text.trim line) = true := by
  have hhead : (Text.trim line).head? ≠ some '#' := by
    intro hhead
    obtain ⟨rest, hrest⟩ := List.head?_eq_some_iff.mp hhead
    exact not_isOpen_nil (h.trim.inside [] rest hrest)
  simp [isSignificant, hne, hhead]

theorem isOpen_quote_mem {t : Text} (h : IsOpen t) : '"' ∈ t := by
  by_contra hnot
  rw [IsOpen, List.count_eq_zero_of_not_mem hnot] at h
  cases h

/-! ## The line with the letter -/

section Letter

variable {x : Char} (hx : IsOrdinary x) {line : Text}

include hx

theorem isSignificant_lettered {t : Text} (h : isSignificant t = true) :
    isSignificant (lettered x t) = true := by
  have hhash := hx.hash_notMem t
  have hne : t ≠ [] := by
    rintro rfl
    cases h
  have hne' : lettered x t ≠ [] := by simpa [lettered] using hne
  have hhead : (lettered x t).head? ≠ some '#' :=
    fun hhead => hhash (List.mem_of_mem_head? hhead)
  simp [isSignificant, hne', hhead]

/-- Without a comment, a line with the letter writes the same with the letter. -/
theorem Writes.withLetter {keyword value : Text} (h : Writes line keyword value)
    (hplain : NoComment (Text.trim line)) :
    Writes (lettered x line) (lettered x keyword) (lettered x value) := by
  obtain ⟨hsignificant, body, written, hcut, hparts, rfl⟩ := h
  obtain rfl : Text.trim line = body :=
    (beforeComment_eq_self hplain).symm.trans hcut.beforeComment
  rw [Text.trimEnd_trim] at hparts
  refine ⟨?_, lettered x (Text.trim line), lettered x written, ?_, ?_, ?_⟩
  · rw [hx.trim_lettered]
    exact isSignificant_lettered hx hsignificant
  · rw [hx.trim_lettered]
    exact .whole (hx.noComment_lettered _)
  · rw [← hx.trim_lettered, Text.trimEnd_trim, hx.trim_lettered]
    exact hx.parts_lettered hparts
  · rw [hx.trim_lettered]

/-- When a comment is cut off, the line with the letter writes the same keyword, and a longer
value with the letter in it. A quote is open in just one of the keyword and the value, and in both
or none of the keyword and the longer value. -/
theorem Writes.withLetter_of_comment {keyword value : Text} (h : Writes line keyword value)
    (hmarks : MarksQuoted line) (hcomment : ¬ NoComment (Text.trim line)) :
    ∃ longer, Writes (lettered x line) (lettered x keyword) longer ∧ x ∈ longer ∧
      (IsOpen value ↔ ¬ IsOpen keyword) ∧ (IsOpen longer ↔ IsOpen keyword) := by
  obtain ⟨hsignificant, body, written, hcut, hparts, rfl⟩ := h
  have hmarks := hmarks.trim
  generalize hline : Text.trim line = t at hsignificant hcut hmarks hcomment
  cases hcut with
  | whole h => exact absurd h hcomment
  | @comment _ rest blank h hblank =>
      obtain ⟨front, hlonger⟩ :=
        @Parts.extend body keyword written rest blank '#' hparts hblank (by decide) (by decide)
      have hopen : IsOpen (body ++ [blank]) := hmarks.inside _ rest (by simp)
      have hbalanced := hmarks.balanced
      have hcount := hparts.count_quote
      have hcountLonger := hlonger.count_quote
      have hx' : x ∈ lettered x (front ++ '#' :: rest) :=
        List.mem_map.mpr ⟨'#', by simp, by simp [letterFor]⟩
      refine ⟨Text.trim (lettered x (front ++ '#' :: rest)), ?_, ?_, ?_, ?_⟩
      · refine ⟨?_, lettered x (Text.trim line), _, ?_, ?_, rfl⟩
        · rw [hx.trim_lettered, hline]
          exact isSignificant_lettered hx hsignificant
        · rw [hx.trim_lettered]
          exact .whole (hx.noComment_lettered _)
        · rw [← hx.trim_lettered, Text.trimEnd_trim, hx.trim_lettered, hline]
          exact hx.parts_lettered hlonger
      · exact Text.mem_trim hx.not_blank hx'
      · have hgap : ([blank] : Text).count '"' = 0 := count_quote_blanks (by simpa using hblank)
        rw [count_quote_trimEnd] at hcount
        rw [IsOpen, List.count_append, hgap] at hopen
        rw [isOpen_trim, IsOpen, IsOpen]
        omega
      · rw [IsOpen] at hbalanced
        rw [isOpen_trim, hx.isOpen_iff, IsOpen, IsOpen]
        omega

/-! ## Malformed lines with the letter -/

theorem hasArgument_of_mem {value : Text} (h : x ∈ value) : HasArgument value := by
  obtain ⟨before, after, rfl⟩ := List.append_of_mem h
  refine ⟨before, x, after, rfl, ?_, ?_⟩
  · rintro rfl
    exact hx.not_mark (by decide)
  · intro hblank
    cases hx.not_blank.symm.trans hblank

/-- A line that fails before the mark fails with the letter as well. -/
theorem malformed_both (hmarks : MarksQuoted line) (hcomment : ¬ NoComment (Text.trim line))
    (hfails : FailsBeforeMark line) : Malformed line ∧ Malformed (lettered x line) := by
  obtain ⟨keyword, value, h, hcase⟩ := hfails
  obtain ⟨longer, h', -, hvalue, hlonger⟩ := h.withLetter_of_comment hx hmarks hcomment
  refine ⟨h.malformed_iff.mpr (hcase.imp_right Or.inl), h'.malformed_iff.mpr ?_⟩
  rcases hcase with rfl | hmatch
  · have hopen : IsOpen keyword := by
      by_contra hnot
      exact not_isOpen_nil (hvalue.mpr hnot)
    have hquote : '"' ∈ lettered x keyword :=
      List.mem_map.mpr ⟨'"', isOpen_quote_mem hopen, rfl⟩
    exact Or.inr (Or.inr (Or.inr ⟨lower_ne_of_quote hquote (by decide), hlonger.mpr hopen⟩))
  · rcases h.keyword_withLetter x hmarks with hkeyword | ⟨hquote, -⟩
    · exact Or.inr (Or.inl (hkeyword.symm ▸ hmatch))
    · exact absurd hmatch (lower_ne_of_quote hquote (by decide))

/-- Any other line that is no Include line is malformed just when it is not with the letter. -/
theorem malformed_one (hmarks : MarksQuoted line) (hcomment : ¬ NoComment (Text.trim line))
    (hinclude : ¬ IsInclude line) (hfails : ¬ FailsBeforeMark line) :
    ¬ IsInclude (lettered x line) ∧ (Malformed line ↔ ¬ Malformed (lettered x line)) := by
  have hblank : Text.trim line ≠ [] := by
    intro hnil
    rw [hnil] at hcomment
    exact hcomment List.isChain_nil
  obtain ⟨keyword, value, h⟩ := exists_writes (hmarks.significant hblank)
  obtain ⟨longer, h', hmem, hvalue, hlonger⟩ := h.withLetter_of_comment hx hmarks hcomment
  have hne : value ≠ [] := fun hnil => hfails ⟨keyword, value, h, Or.inl hnil⟩
  have hmatch : Text.lower keyword ≠ "match".toList :=
    fun hmatch => hfails ⟨keyword, value, h, Or.inr hmatch⟩
  have hnot : Text.lower keyword ≠ "include".toList :=
    fun heq => hinclude (h.isInclude_iff.mpr ⟨hne, heq⟩)
  have hmatch' : Text.lower (lettered x keyword) ≠ "match".toList :=
    h.lower_withLetter_ne x hmarks (by decide) hmatch
  have hnot' : Text.lower (lettered x keyword) ≠ "include".toList :=
    h.lower_withLetter_ne x hmarks (by decide) hnot
  -- The keyword of a Host line has no quote, so a quote is open in its value.
  have hhost : Text.lower keyword = "host".toList → IsOpen value ∨ HasArgument value := by
    intro hhost
    refine Or.inl (hvalue.mpr fun hopen => ?_)
    exact lower_ne_of_quote (isOpen_quote_mem hopen) (by decide) hhost
  have hline : Malformed line ↔ IsOpen value := h.malformed_iff_isOpen hne hmatch hnot hhost
  have hletter : Malformed (lettered x line) ↔ IsOpen longer :=
    h'.malformed_iff_isOpen (List.ne_nil_of_mem hmem) hmatch' hnot'
      fun _ => Or.inr (hasArgument_of_mem hx hmem)
  refine ⟨?_, by rw [hline, hletter, hvalue, hlonger]⟩
  rw [h'.isInclude_iff]
  exact fun hboth => hnot' hboth.2

end Letter

end SshTunnel.HostConfig
