import SshTunnel.Proofs.HostConfig.Line
import Mathlib.Data.List.TakeWhile

/-!
# The grammar of a line

A significant line ends at the first blank with a `#` right behind it. What is left has a keyword
and a value: they part at the first `=` when no blank comes before it, and else at the first run
of blanks, where one `=` in front of the value is left out. Every significant line writes exactly
one keyword and one value, and what it says depends on these two alone.
-/

namespace SshTunnel.HostConfig

/-- The part of a line in front of the first blank with a `#` right behind it. -/
inductive CutsTo : Text → Text → Prop where
  | whole {t : Text} (h : NoComment t) : CutsTo t t
  | comment {t rest : Text} {blank : Char} (h : NoComment (t ++ [blank]))
      (hblank : Text.isBlank blank = true) : CutsTo (t ++ blank :: '#' :: rest) t

/-- A text without blanks and without `=`. -/
def IsWord (t : Text) : Prop := ∀ c ∈ t, Text.isBlank c = false ∧ c ≠ '='

/-- The keyword and the value of a line without its comment, the value with blanks around it as
they stand. -/
inductive Parts : Text → Text → Text → Prop where
  | equals {keyword value : Text} (h : IsWord keyword) :
      Parts (keyword ++ '=' :: value) keyword value
  | alone {keyword : Text} (h : IsWord keyword) : Parts keyword keyword []
  | blanks {keyword gap value : Text} {c : Char} (h : IsWord keyword) (hgap : gap ≠ [])
      (hblank : ∀ b ∈ gap, Text.isBlank b = true) (hc : Text.isBlank c = false) (hne : c ≠ '=') :
      Parts (keyword ++ (gap ++ c :: value)) keyword (c :: value)
  | blanksEquals {keyword gap value : Text} (h : IsWord keyword) (hgap : gap ≠ [])
      (hblank : ∀ b ∈ gap, Text.isBlank b = true) :
      Parts (keyword ++ (gap ++ '=' :: value)) keyword value

/-- The significant line has this keyword, as it is spelled, and this value, without blanks
around it. -/
def Writes (line keyword value : Text) : Prop :=
  isSignificant (Text.trim line) = true ∧ ∃ body written,
    CutsTo (Text.trim line) body ∧ Parts (Text.trimEnd body) keyword written ∧
      value = Text.trim written

/-! ## Comments -/

/-- A text without a comment stays whole in front of another one that does not start with the
`#` of a comment. -/
theorem beforeComment_append {s t : Text} (hs : NoComment s) (ht : t.head? ≠ some '#') :
    beforeComment (s ++ t) = s ++ beforeComment t := by
  induction s with
  | nil => rfl
  | cons c s ih =>
      cases s with
      | nil =>
          cases t with
          | nil => rfl
          | cons d t =>
              have hd : d ≠ '#' := by simpa using ht
              rw [List.singleton_append, beforeComment, if_neg (by simp [hd])]
              rfl
      | cons d s =>
          obtain ⟨hcd, hmore⟩ := List.isChain_cons_cons.mp hs
          have hrest := ih hmore
          rw [List.cons_append] at hrest
          rw [List.cons_append, List.cons_append, beforeComment, if_neg (by simpa using hcd), hrest]
          rfl

/-- A comment does not start at a character that is no blank. -/
theorem beforeComment_cons {c : Char} (hc : Text.isBlank c = false) (rest : Text) :
    beforeComment (c :: rest) = c :: beforeComment rest := by
  cases rest with
  | nil => rfl
  | cons d rest => rw [beforeComment, if_neg (by simp [hc])]

theorem CutsTo.beforeComment {line body : Text} (h : CutsTo line body) :
    beforeComment line = body := by
  cases h with
  | whole h => exact beforeComment_eq_self h
  | @comment _ rest blank h hblank =>
      have hfront : NoComment body := (List.isChain_append.mp h).1
      have hhead : (blank :: '#' :: rest).head? ≠ some '#' := by
        intro hsame
        obtain rfl := Option.some.inj hsame
        exact absurd hblank (by decide)
      rw [beforeComment_append hfront hhead, HostConfig.beforeComment, if_pos (by simp [hblank]),
        List.append_nil]

theorem CutsTo.cons {c d : Char} {rest body : Text} (h : CutsTo (d :: rest) body)
    (hcd : ¬ (Text.isBlank c = true ∧ d = '#')) : CutsTo (c :: d :: rest) (c :: body) := by
  generalize hline : d :: rest = line at h
  cases h with
  | whole h =>
      subst hline
      exact .whole (List.isChain_cons_cons.mpr ⟨hcd, h⟩)
  | @comment _ more blank h hblank =>
      have hhead : (body ++ [blank]).head? = some d := by
        cases body with
        | nil => simpa using (List.cons.inj hline).1.symm
        | cons e body => simpa using (List.cons.inj hline).1.symm
      have hfront : NoComment (c :: body ++ [blank]) := by
        rw [List.cons_append]
        refine List.isChain_cons.mpr ⟨fun e he => ?_, h⟩
        rw [hhead, Option.mem_some_iff] at he
        exact he ▸ hcd
      show CutsTo (c :: body ++ blank :: '#' :: more) (c :: body)
      exact .comment hfront hblank

theorem cutsTo_beforeComment (line : Text) : CutsTo line (beforeComment line) := by
  induction line with
  | nil => exact .whole List.isChain_nil
  | cons c line ih =>
      cases line with
      | nil => exact .whole (List.isChain_singleton c)
      | cons d rest =>
          by_cases hcut : Text.isBlank c = true ∧ d = '#'
          · obtain ⟨hblank, rfl⟩ := hcut
            rw [beforeComment, if_pos (by simp [hblank])]
            exact .comment (t := []) (List.isChain_singleton c) hblank
          · rw [beforeComment, if_neg (by simpa using hcut)]
            exact ih.cons hcut

theorem CutsTo.isPrefix {line body : Text} (h : CutsTo line body) : body <+: line := by
  cases h with
  | whole => exact List.prefix_rfl
  | comment => exact List.prefix_append _ _

/-! ## Keywords and values -/

theorem IsWord.not_blank {word : Text} (h : IsWord word) : ∀ c ∈ word, Text.isBlank c = false :=
  fun c hc => (h c hc).1

theorem IsWord.not_equals {word : Text} (h : IsWord word) : '=' ∉ word :=
  fun hmem => (h '=' hmem).2 rfl

theorem IsWord.trim {word : Text} (h : IsWord word) : Text.trim word = word :=
  Text.trim_eq_self (fun c hc => h.not_blank c (List.mem_of_mem_head? hc))
    fun c hc => h.not_blank c (List.mem_of_mem_getLast? hc)

theorem cutAt_eq_none {mark : Char} {t : Text} (h : mark ∉ t) : Text.cutAt mark t = none := by
  induction t with
  | nil => rfl
  | cons c t ih =>
      obtain ⟨hc, ht⟩ : c ≠ mark ∧ mark ∉ t := by simpa [eq_comm] using h
      rw [Text.cutAt, if_neg hc, ih ht]
      rfl

theorem cutAt_append {mark : Char} {t : Text} (h : mark ∉ t) (rest : Text) :
    Text.cutAt mark (t ++ mark :: rest) = some (t, rest) := by
  induction t with
  | nil => simp [Text.cutAt]
  | cons c t ih =>
      obtain ⟨hc, ht⟩ : c ≠ mark ∧ mark ∉ t := by simpa [eq_comm] using h
      rw [List.cons_append, Text.cutAt, if_neg hc, ih ht]
      rfl

/-- A word that blanks end is the keyword. -/
theorem split_blanks {word gap value : Text} (hword : IsWord word) (hgap : gap ≠ [])
    (hblank : ∀ b ∈ gap, Text.isBlank b = true) {c : Char} (hc : Text.isBlank c = false) :
    split (word ++ (gap ++ c :: value))
      = .ok (word, if c = '=' then value else c :: value) := by
  obtain ⟨b, gap, rfl⟩ := List.exists_cons_of_ne_nil hgap
  rw [List.forall_mem_cons] at hblank
  have hfirst := Text.firstWord_append_blank hword.not_blank hblank.1 (gap ++ c :: value)
  have hrest := Text.afterFirstWord_append_blank hword.not_blank hblank.1 (gap ++ c :: value)
  have hstart : Text.trimStart (gap ++ c :: value) = c :: value := by
    rw [Text.trimStart, List.dropWhile_append_of_pos hblank.2,
      List.dropWhile_cons_of_neg (by simp [hc])]
  rw [← List.cons_append] at hfirst hrest
  simp only [split, hfirst, hrest, hstart, cutAt_eq_none hword.not_equals]
  split
  next heq => cases heq
  next heq =>
    obtain ⟨rfl, rfl⟩ := List.cons.inj heq
    rfl
  next hother =>
    rw [if_neg]
    rintro rfl
    exact hother value rfl

/-- What is read as the two parts of a line, when there is a value. -/
theorem Parts.split {body keyword value : Text} (h : Parts body keyword value) :
    split body = .ok (keyword, value) ∨
      value = [] ∧ split body = .error (.missingValue keyword) := by
  cases h with
  | equals h =>
      left
      have hfirst : Text.firstWord (keyword ++ '=' :: value)
          = keyword ++ '=' :: Text.firstWord value := by
        rw [Text.firstWord, List.takeWhile_append_of_pos (by simpa using h.not_blank),
          List.takeWhile_cons_of_pos (by decide)]
        rfl
      simp only [HostConfig.split, hfirst, cutAt_append h.not_equals, Option.getD_some]
  | alone h =>
      right
      have hfirst : Text.firstWord body = body :=
        List.takeWhile_eq_self_iff.mpr (by simpa using h.not_blank)
      have hrest : Text.afterFirstWord body = [] := by
        have hnone : body.dropWhile (! Text.isBlank ·) = [] :=
          List.dropWhile_eq_nil_iff.mpr (by simpa using h.not_blank)
        rw [Text.afterFirstWord, hnone]
        rfl
      simp only [HostConfig.split, hfirst, hrest, cutAt_eq_none h.not_equals, and_self]
  | blanks h hgap hblank hc hne =>
      left
      rw [split_blanks h hgap hblank hc, if_neg hne]
  | blanksEquals h hgap hblank =>
      left
      rw [split_blanks h hgap hblank (by decide), if_pos rfl]

/-- A text that starts with a blank and does not end with one goes on behind its first run of
blanks. -/
theorem exists_gap {b : Char} {rest : Text} (hb : Text.isBlank b = true)
    (hlast : ∀ c ∈ (b :: rest).getLast?, Text.isBlank c = false) :
    ∃ gap c value, b :: rest = gap ++ c :: value ∧ gap ≠ [] ∧
      (∀ d ∈ gap, Text.isBlank d = true) ∧ Text.isBlank c = false := by
  have hsplit : (b :: rest).takeWhile Text.isBlank ++ (b :: rest).dropWhile Text.isBlank
      = b :: rest := List.takeWhile_append_dropWhile
  have hgap : ∀ d ∈ (b :: rest).takeWhile Text.isBlank, Text.isBlank d = true :=
    fun d hd => List.mem_takeWhile_imp hd
  have hne : (b :: rest).takeWhile Text.isBlank ≠ [] := by simp [hb]
  have hstop := List.head?_dropWhile_not Text.isBlank (b :: rest)
  generalize (b :: rest).takeWhile Text.isBlank = gap at hsplit hgap hne
  generalize (b :: rest).dropWhile Text.isBlank = value at hsplit hstop
  rw [← hsplit] at hlast ⊢
  cases value with
  | nil =>
      obtain ⟨front, last, rfl⟩ := (List.eq_nil_or_concat gap).resolve_left hne
      have hblank := hgap last (by simp)
      rw [hlast last (by simp)] at hblank
      cases hblank
  | cons c value => exact ⟨gap, c, value, rfl, hne, hgap, by simpa using hstop⟩

/-- Every text without a blank at its end has two parts. -/
theorem exists_parts {body : Text} (hlast : ∀ c ∈ body.getLast?, Text.isBlank c = false) :
    ∃ keyword value, Parts body keyword value := by
  have hsplit : body.takeWhile (! Text.isBlank ·) ++ body.dropWhile (! Text.isBlank ·) = body :=
    List.takeWhile_append_dropWhile
  have hplain : ∀ c ∈ body.takeWhile (! Text.isBlank ·), Text.isBlank c = false := by
    intro c hc
    simpa using List.mem_takeWhile_imp hc
  have hstop := List.head?_dropWhile_not (! Text.isBlank ·) body
  generalize body.takeWhile (! Text.isBlank ·) = word at hsplit hplain
  generalize body.dropWhile (! Text.isBlank ·) = rest at hsplit hstop
  subst hsplit
  by_cases hequals : '=' ∈ word
  · obtain ⟨keyword, more, rfl, hnot⟩ := List.eq_append_cons_of_mem hequals
    have hkeyword : IsWord keyword :=
      fun c hc => ⟨hplain c (by simp [hc]), fun heq => hnot (heq ▸ hc)⟩
    rw [List.append_assoc, List.cons_append]
    exact ⟨keyword, more ++ rest, .equals hkeyword⟩
  · have hword : IsWord word := fun c hc => ⟨hplain c hc, fun heq => hequals (heq ▸ hc)⟩
    cases rest with
    | nil =>
        rw [List.append_nil]
        exact ⟨word, [], .alone hword⟩
    | cons b rest =>
        have hb : Text.isBlank b = true := by simpa using hstop
        rw [List.getLast?_append_of_ne_nil _ (List.cons_ne_nil b rest)] at hlast
        obtain ⟨gap, c, value, hrest, hne, hgap, hc⟩ := exists_gap hb hlast
        rw [hrest]
        by_cases heq : c = '='
        · subst heq
          exact ⟨word, value, .blanksEquals hword hne hgap⟩
        · exact ⟨word, c :: value, .blanks hword hne hgap hc heq⟩

/-! ## Lines -/

theorem Parts.isWord {body keyword value : Text} (h : Parts body keyword value) :
    IsWord keyword := by
  cases h with
  | equals h => exact h
  | alone h => exact h
  | blanks h => exact h
  | blanksEquals h => exact h

theorem Parts.keyword_isPrefix {body keyword value : Text} (h : Parts body keyword value) :
    keyword <+: body := by
  cases h with
  | alone => exact List.prefix_rfl
  | equals => exact List.prefix_append _ _
  | blanks => exact List.prefix_append _ _
  | blanksEquals => exact List.prefix_append _ _

/-- When the text goes on behind a blank, it has the same keyword and goes on with the value. -/
theorem Parts.extend {body keyword value rest : Text} {blank c : Char}
    (h : Parts (Text.trimEnd body) keyword value) (hblank : Text.isBlank blank = true)
    (hc : Text.isBlank c = false) (hne : c ≠ '=') :
    ∃ front, Parts (body ++ blank :: c :: rest) keyword (front ++ c :: rest) := by
  obtain ⟨gap, hbody, hgap⟩ := Text.exists_trimEnd body
  have hgap' : ∀ b ∈ gap ++ [blank], Text.isBlank b = true := by
    intro b hb
    rcases List.mem_append.mp hb with hb | hb
    · exact hgap b hb
    · rwa [List.mem_singleton.mp hb]
  generalize Text.trimEnd body = core at h hbody
  subst hbody
  cases h with
  | @equals _ value h =>
      refine ⟨value ++ gap ++ [blank], ?_⟩
      simpa using @Parts.equals keyword (value ++ gap ++ [blank] ++ c :: rest) h
  | alone h =>
      refine ⟨[], ?_⟩
      simpa using @Parts.blanks _ (gap ++ [blank]) rest c h (by simp) hgap' hc hne
  | @blanks _ sep value d h hsep hblanks hd hequals =>
      refine ⟨d :: value ++ gap ++ [blank], ?_⟩
      simpa using
        @Parts.blanks keyword sep (value ++ gap ++ [blank] ++ c :: rest) d h hsep hblanks hd hequals
  | @blanksEquals _ sep value h hsep hblanks =>
      refine ⟨value ++ gap ++ [blank], ?_⟩
      simpa using
        @Parts.blanksEquals keyword sep (value ++ gap ++ [blank] ++ c :: rest) h hsep hblanks

/-- The keyword stands at the start of the line. -/
theorem Writes.keyword_isPrefix {line keyword value : Text} (h : Writes line keyword value) :
    keyword <+: Text.trim line := by
  obtain ⟨-, body, written, hcut, hparts, -⟩ := h
  have hbody : Text.trimEnd body <+: Text.trim line :=
    (Text.trimEnd_isPrefix body).trans hcut.isPrefix
  exact hparts.keyword_isPrefix.trans hbody

/-- Every significant line has a keyword and a value. -/
theorem exists_writes {line : Text} (h : isSignificant (Text.trim line) = true) :
    ∃ keyword value, Writes line keyword value := by
  obtain ⟨keyword, written, hparts⟩ :=
    exists_parts (Text.trimEnd_last (beforeComment (Text.trim line)))
  exact ⟨keyword, Text.trim written, h, _, written, cutsTo_beforeComment _, hparts, rfl⟩

/-- What a significant line says depends on its keyword and its value alone: an empty value is
missing, and any other says something together with the keyword in lower case. -/
theorem Writes.ofLine {line keyword value : Text} (h : Writes line keyword value) :
    (value = [] → ∃ word ∈ [keyword, Text.lower keyword],
      Statement.ofLine line = .error (.missingValue word)) ∧
    (value ≠ [] → Statement.ofLine line
      = (Statement.ofParts (Text.lower keyword) value).map some) := by
  obtain ⟨hsignificant, body, written, hcut, hparts, rfl⟩ := h
  have hbody : withoutComment (Text.trim line) = Text.trimEnd body := by
    rw [withoutComment, hcut.beforeComment]
  rw [Statement.ofLine, Statement.ofTrimmed, if_pos hsignificant, hbody]
  rcases hparts.split with hsplit | ⟨rfl, hsplit⟩
  · rw [hsplit, Except.bind, hparts.isWord.trim]
    constructor
    · intro hempty
      exact ⟨Text.lower keyword, by simp, by simp [hempty]⟩
    · intro hne
      simp [hne]
  · rw [hsplit, Except.bind]
    exact ⟨fun _ => ⟨keyword, by simp, rfl⟩, fun hne => absurd rfl hne⟩

/-- Only a significant line says something or is at fault. -/
theorem isSignificant_of_ofLine {line : Text} (h : Statement.ofLine line ≠ .ok none) :
    isSignificant (Text.trim line) = true := by
  by_contra hnot
  rw [Statement.ofLine, Statement.ofTrimmed, if_neg hnot] at h
  exact h rfl

/-- A line says what its keyword in lower case and its value say together. -/
theorem ofLine_eq_some_iff (line : Text) (s : Statement) :
    Statement.ofLine line = .ok (some s) ↔ ∃ keyword value, Writes line keyword value ∧
      value ≠ [] ∧ Statement.ofParts (Text.lower keyword) value = .ok s := by
  constructor
  · intro h
    have hnone : Statement.ofLine line ≠ .ok none := by simp [h]
    obtain ⟨keyword, value, hwrites⟩ := exists_writes (isSignificant_of_ofLine hnone)
    obtain ⟨hmissing, hstated⟩ := hwrites.ofLine
    by_cases hvalue : value = []
    · obtain ⟨word, -, hline⟩ := hmissing hvalue
      cases h.symm.trans hline
    · refine ⟨keyword, value, hwrites, hvalue, ?_⟩
      rw [hstated hvalue] at h
      cases hparts : Statement.ofParts (Text.lower keyword) value with
      | error problem =>
          rw [hparts] at h
          cases h
      | ok s' =>
          rw [hparts] at h
          cases h
          rfl
  · rintro ⟨keyword, value, hwrites, hvalue, hparts⟩
    rw [hwrites.ofLine.2 hvalue, hparts]
    rfl

/-- The keywords of the lines that set no directive. -/
def reserved : List Text := ["host".toList, "match".toList, "include".toList]

/-- Only the keyword of an Include line names files, and its value stays as it is written. -/
theorem ofParts_eq_files_iff (keyword value arguments : Text) :
    Statement.ofParts keyword value = .ok (.files arguments) ↔
      keyword = "include".toList ∧ value = arguments := by
  unfold Statement.ofParts
  constructor
  · intro h
    split at h
    · split at h <;> cases h
    · split at h
      · cases h
      · split at h
        next hinclude =>
          cases h
          exact ⟨hinclude, rfl⟩
        next => split at h <;> cases h
  · rintro ⟨rfl, rfl⟩
    rfl

/-- Every keyword but three sets a directive to its value without quotes around it. -/
theorem ofParts_of_other {keyword : Text} (h : keyword ∉ reserved) (value : Text) :
    Statement.ofParts keyword value = match unquote? value with
      | none => .error .unbalancedQuotes
      | some v => .ok (.directive ⟨keyword, v⟩) := by
  simp only [reserved, List.mem_cons, List.not_mem_nil, or_false, not_or] at h
  obtain ⟨hhost, hmatch, hinclude⟩ := h
  cases hvalue : unquote? value <;>
    simp only [Statement.ofParts, if_neg hhost, if_neg hmatch, if_neg hinclude, hvalue]

theorem ofParts_eq_directive_iff (keyword value : Text) (d : Directive) :
    Statement.ofParts keyword value = .ok (.directive d) ↔
      keyword ∉ reserved ∧ unquote? value = some d.value ∧ d.keyword = keyword := by
  by_cases hreserved : keyword ∈ reserved
  · have hne : Statement.ofParts keyword value ≠ .ok (.directive d) := by
      simp only [reserved, List.mem_cons, List.not_mem_nil, or_false] at hreserved
      rcases hreserved with rfl | rfl | rfl
      · rw [Statement.ofParts, if_pos rfl]
        split <;> simp
      · simp [Statement.ofParts]
      · simp [Statement.ofParts]
    simp [hne, hreserved]
  · rw [ofParts_of_other hreserved]
    obtain ⟨word, v⟩ := d
    cases unquote? value with
    | none => simp
    | some v' => simp [hreserved, and_comm, eq_comm]

/-- A line has one keyword and one value only. -/
theorem Writes.unique {line keyword value keyword' value' : Text} (h : Writes line keyword value)
    (h' : Writes line keyword' value') : keyword = keyword' ∧ value = value' := by
  obtain ⟨-, body, written, hcut, hparts, rfl⟩ := h
  obtain ⟨-, body', written', hcut', hparts', rfl⟩ := h'
  obtain rfl : body = body' := hcut.beforeComment.symm.trans hcut'.beforeComment
  rcases hparts.split with hsplit | ⟨rfl, hsplit⟩
  all_goals rcases hparts'.split with hsplit' | ⟨rfl, hsplit'⟩
  all_goals cases hsplit.symm.trans hsplit'
  all_goals exact ⟨rfl, rfl⟩

end SshTunnel.HostConfig
