import SshTunnel.Proofs.HostConfig.Alike
import SshTunnel.Proofs.HostConfig.Grammar
import SshTunnel.Proofs.HostConfig.Lookup

/-!
# Spellings of a line

A keyword and a value are written with a blank between them, with `=`, or with `=` and blanks
around it. Whatever way is taken, with whatever indentation and in whatever letter case, the line
says the same, and so does every configuration that it stands in.
-/

namespace SshTunnel.HostConfig

/-- What stands between a keyword and its value. -/
def marks : List Text :=
  [" ".toList, "=".toList, " = ".toList, " =".toList, "= ".toList]

/-- A word that can be a keyword in each of the spellings. -/
structure IsName (word : Text) : Prop where
  ne_nil : word ≠ []
  isWord : IsWord word
  not_comment : word.head? ≠ some '#'

instance (word : Text) : Decidable (IsName word) :=
  decidable_of_iff (word ≠ [] ∧ word.all (fun c => !Text.isBlank c && c != '=') = true ∧
      word.head? ≠ some '#')
    ⟨fun h => ⟨h.1, by simpa [IsWord] using h.2.1, h.2.2⟩,
      fun h => ⟨h.ne_nil, by simpa [IsWord] using h.isWord, h.not_comment⟩⟩

/-- A text without blanks at its ends that can be a value in each of the spellings. -/
structure IsValue (value : Text) : Prop where
  ne_nil : value ≠ []
  trimmed : Text.trim value = value
  not_equals : value.head? ≠ some '='
  not_comment : value.head? ≠ some '#'

instance (value : Text) : Decidable (IsValue value) :=
  decidable_of_iff (value ≠ [] ∧ Text.trim value = value ∧ value.head? ≠ some '=' ∧
      value.head? ≠ some '#')
    ⟨fun h => ⟨h.1, h.2.1, h.2.2.1, h.2.2.2⟩,
      fun h => ⟨h.ne_nil, h.trimmed, h.not_equals, h.not_comment⟩⟩

/-- The line has the keyword and the value with one of the marks between them, and blanks
around. -/
def Spells (line keyword value : Text) : Prop :=
  ∃ indent mark tail, (∀ c ∈ indent, Text.isBlank c = true) ∧ mark ∈ marks ∧
    (∀ c ∈ tail, Text.isBlank c = true) ∧ line = indent ++ (keyword ++ mark ++ value) ++ tail

/-! ## One line -/

section Line

variable {line keyword value : Text}

theorem IsValue.head (h : IsValue value) : ∃ c rest, value = c :: rest ∧ c ≠ '=' ∧ c ≠ '#' ∧
    Text.isBlank c = false := by
  obtain ⟨c, rest, rfl⟩ := List.exists_cons_of_ne_nil h.ne_nil
  exact ⟨c, rest, rfl, by simpa using h.not_equals, by simpa using h.not_comment,
    Text.not_blank_of_trim h.trimmed⟩

theorem IsValue.last (h : IsValue value) : ∀ c ∈ value.getLast?, Text.isBlank c = false := by
  have hlast := Text.trimEnd_last (Text.trimStart value)
  rwa [← Text.trim, h.trimmed] at hlast

/-- A value has its first character left when its comment is cut off. -/
theorem IsValue.withoutComment (h : IsValue value) :
    ∃ c rest, withoutComment value = c :: rest ∧ c ≠ '=' ∧ Text.isBlank c = false := by
  obtain ⟨c, rest, rfl, hequals, -, hc⟩ := h.head
  obtain ⟨back, hback⟩ := Text.trimEnd_isPrefix (c :: beforeComment rest)
  rw [HostConfig.withoutComment, beforeComment_cons hc]
  cases hcut : Text.trimEnd (c :: beforeComment rest) with
  | nil =>
      have hwords := Text.words_trimEnd (c :: beforeComment rest)
      obtain ⟨word, more, hword⟩ := Text.words_cons_of_not_blank hc (beforeComment rest)
      rw [hcut, hword] at hwords
      cases hwords
  | cons d cut =>
      rw [hcut] at hback
      obtain ⟨rfl, -⟩ := List.cons.inj hback
      exact ⟨d, cut, rfl, hequals, hc⟩

theorem noComment_mark {mark : Text} (h : mark ∈ marks) :
    NoComment mark ∧ mark.head? ≠ some '#' := by
  revert mark
  decide

/-- Each mark parts the keyword from the value. -/
theorem parts_of_mark {mark : Text} (hmark : mark ∈ marks) (hkeyword : IsWord keyword)
    {c : Char} {rest : Text} (hc : c ≠ '=') (hblank : Text.isBlank c = false)
    (hlast : ∀ d ∈ (c :: rest).getLast?, Text.isBlank d = false) :
    ∃ written, Parts (keyword ++ mark ++ c :: rest) keyword written ∧
      Text.trim written = c :: rest := by
  have htrim : Text.trim (c :: rest) = c :: rest :=
    Text.trim_eq_self (by simpa using hblank) hlast
  have hspace : Text.trim (' ' :: c :: rest) = Text.trim (c :: rest) := rfl
  rw [htrim] at hspace
  have hgap : ∀ b ∈ " ".toList, Text.isBlank b = true := List.all_eq_true.mp (by decide)
  have hne : " ".toList ≠ [] := by decide +kernel
  simp only [marks, List.mem_cons, List.not_mem_nil, or_false] at hmark
  rcases hmark with rfl | rfl | rfl | rfl | rfl
  · refine ⟨c :: rest, ?_, htrim⟩
    simpa using Parts.blanks hkeyword hne hgap hblank hc
  · refine ⟨c :: rest, ?_, htrim⟩
    simpa using @Parts.equals keyword (c :: rest) hkeyword
  · refine ⟨' ' :: c :: rest, ?_, hspace⟩
    simpa using @Parts.blanksEquals keyword _ (' ' :: c :: rest) hkeyword hne hgap
  · refine ⟨c :: rest, ?_, htrim⟩
    simpa using @Parts.blanksEquals keyword _ (c :: rest) hkeyword hne hgap
  · refine ⟨' ' :: c :: rest, ?_, hspace⟩
    simpa using @Parts.equals keyword (' ' :: c :: rest) hkeyword

/-- Every spelling writes the keyword and the value without its comment. -/
theorem Spells.writes (h : Spells line keyword value) (hkeyword : IsName keyword)
    (hvalue : IsValue value) : Writes line keyword (withoutComment value) := by
  obtain ⟨indent, mark, tail, hindent, hmark, htail, rfl⟩ := h
  obtain ⟨hmarkComment, hmarkHead⟩ := noComment_mark hmark
  have hhead : (keyword ++ mark ++ value).head? = keyword.head? := by
    rw [List.append_assoc, List.head?_append_of_ne_nil _ hkeyword.ne_nil]
  have hlast : (keyword ++ mark ++ value).getLast? = value.getLast? :=
    List.getLast?_append_of_ne_nil _ hvalue.ne_nil
  have htrim : Text.trim (indent ++ (keyword ++ mark ++ value) ++ tail)
      = keyword ++ mark ++ value := by
    apply Text.trim_surround hindent htail
    · simp [hkeyword.ne_nil]
    · rw [hhead]
      exact fun c hc => hkeyword.isWord.not_blank c (List.mem_of_mem_head? hc)
    · rw [hlast]
      exact hvalue.last
  -- A comment can only start inside of the value.
  have hcut : beforeComment (keyword ++ mark ++ value)
      = keyword ++ mark ++ beforeComment value :=
    beforeComment_append
      ((noComment_of_not_blank hkeyword.isWord.not_blank).append hmarkComment hmarkHead)
      hvalue.not_comment
  obtain ⟨c, rest, hbare, hequals, hc⟩ := hvalue.withoutComment
  have hend : Text.trimEnd (keyword ++ mark ++ beforeComment value)
      = keyword ++ mark ++ c :: rest := by
    rw [← hbare]
    apply Text.trimEnd_append
    rw [← HostConfig.withoutComment, hbare]
    exact List.cons_ne_nil c rest
  have hrestLast : ∀ d ∈ (c :: rest).getLast?, Text.isBlank d = false := by
    rw [← hbare]
    exact Text.trimEnd_last (beforeComment value)
  obtain ⟨written, hparts, hwritten⟩ :=
    parts_of_mark hmark hkeyword.isWord hequals hc hrestLast
  refine ⟨?_, keyword ++ mark ++ beforeComment value, written, ?_, ?_, ?_⟩
  · rw [htrim, isSignificant, hhead]
    simp [hkeyword.ne_nil, hkeyword.not_comment]
  · rw [htrim, ← hcut]
    exact cutsTo_beforeComment _
  · rw [hend]
    exact hparts
  · rw [hbare, hwritten]

/-- What a spelling says depends on the value and on the keyword in lower case. -/
theorem Spells.ofLine (h : Spells line keyword value) (hkeyword : IsName keyword)
    (hvalue : IsValue value) : Statement.ofLine line
      = (Statement.ofParts (Text.lower keyword) (withoutComment value)).map some := by
  apply (h.writes hkeyword hvalue).ofLine.2
  obtain ⟨c, rest, hbare, -⟩ := hvalue.withoutComment
  rw [hbare]
  exact List.cons_ne_nil c rest

/-! ## Values between quotes -/

theorem IsKeyword.isName (h : IsKeyword keyword) : IsName keyword :=
  ⟨h.ne_nil, fun c hc => ⟨(h.plain c hc).1, (h.plain c hc).2.1⟩, h.not_comment⟩

theorem IsEnclosed.isValue (h : IsEnclosed value) : IsValue value where
  ne_nil := by
    rintro rfl
    cases h.head
  trimmed := h.trim
  not_equals := by simp [h.head]
  not_comment := by simp [h.head]

theorem IsEnclosed.withoutComment (h : IsEnclosed value) (hplain : NoComment value) :
    withoutComment value = value := by
  rw [HostConfig.withoutComment, beforeComment_eq_self hplain,
    Text.trimEnd_eq_self h.isValue.last]

theorem spells_space (keyword value : Text) : Spells (keyword ++ ' ' :: value) keyword value :=
  ⟨[], " ".toList, [], by simp, by decide, by simp, by simp⟩

/-- A keyword and a value between quotes, with a space between them, say what the two say. -/
theorem ofLine_keyword (hkeyword : IsKeyword keyword) (hvalue : IsEnclosed value)
    (hcomment : NoComment value) : Statement.ofLine (keyword ++ ' ' :: value)
      = (Statement.ofParts (Text.lower keyword) value).map some := by
  rw [(spells_space keyword value).ofLine hkeyword.isName hvalue.isValue,
    hvalue.withoutComment hcomment]

end Line

/-! ## Configurations -/

/-- All spellings of a keyword, in whatever letter case, and a value give the same configuration,
or the same error, wherever the line stands in the files. -/
theorem ofFile_respell {env : Environment} {place : Files.Location} {content : Bytes}
    {line line' keyword keyword' value : Text} (h : Exchanges env place content line line')
    (hline : Spells line keyword value) (hline' : Spells line' keyword' value)
    (hkeyword : IsName keyword) (hkeyword' : IsName keyword') (hvalue : IsValue value)
    (hcase : Text.lower keyword = Text.lower keyword') (root : Path) :
    ofFile (env.withContent place content) root = ofFile env root := by
  apply ofFile_exchange_eq h
  rw [hline.ofLine hkeyword hvalue, hline'.ofLine hkeyword' hvalue, hcase]

/-- A Host line with a comment, and the same in other letter case with `=`. -/
def plainHost : Bytes := Utf8.encode "User root\nHost db # notes\n  User me\n".toList

def equalsHost : Bytes := Utf8.encode "User root\n\thOST= db # notes \n  User me\n".toList

theorem plainHost_respelled :
    let place := ["h".toList, ".ssh".toList, "config".toList]
    let env := sampleEnvironment [(place, .file plainHost)]
    Exchanges env place equalsHost "Host db # notes".toList "\thOST= db # notes ".toList ∧
      ofFile (env.withContent place equalsHost) samplePath = ofFile env samplePath := by
  intro place env
  have hexchange : Exchanges env place equalsHost "Host db # notes".toList
      "\thOST= db # notes ".toList :=
    ⟨plainHost, ["User root".toList], ["  User me".toList], by decide +kernel, by decide +kernel,
      by decide +kernel⟩
  have hline : Spells "Host db # notes".toList "Host".toList "db # notes".toList :=
    ⟨[], " ".toList, [], by simp, by decide +kernel, by simp, by decide +kernel⟩
  have hline' : Spells "\thOST= db # notes ".toList "hOST".toList "db # notes".toList :=
    ⟨"\t".toList, "= ".toList, " ".toList, List.all_eq_true.mp (by decide), by decide +kernel,
      List.all_eq_true.mp (by decide), by decide +kernel⟩
  have hkeyword : IsName "Host".toList := by decide +kernel
  have hkeyword' : IsName "hOST".toList := by decide +kernel
  have hvalue : IsValue "db # notes".toList := by decide +kernel
  exact ⟨hexchange, ofFile_respell hexchange hline hline' hkeyword hkeyword' hvalue
    (by decide +kernel) samplePath⟩

end SshTunnel.HostConfig
