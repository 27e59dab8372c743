import SshTunnel.Proofs.HostConfig.QuotedLine
import SshTunnel.Proofs.HostConfig.Sheet

/-!
# `#` between quotes

The cut of a comment knows no quotes: a `#` behind a blank ends the line even where a quote is
open. Every other `#` between quotes can be exchanged for a letter, and the line says the same but
for the letter.
-/

namespace SshTunnel.HostConfig

/-- Alike but for `x` in the place of `#`. A keyword with a quote in it is surfaced by no lookup. -/
def letters (x : Char) : Likeness where
  problem _ _ := True
  patterns ps qs := qs = ps ∨ qs = ps.map (lettered x)
  directive d d' := d' = d ∨ d'.value = lettered x d.value ∧
    (d'.keyword = d.keyword ∨ '"' ∈ d.keyword ∧ '"' ∈ d'.keyword)
  problem_refl _ := trivial
  patterns_refl _ := Or.inl rfl
  directive_refl _ := Or.inl rfl

/-- The same text, or the one with the letter. -/
def SameButLetter (x : Char) (s t : Text) : Prop := t = s ∨ t = lettered x s

/-- Two entries are the same but for the letter. -/
structure EntriesAlike (x : Char) (e e' : HostEntry) : Prop where
  hostname : SameButLetter x e.hostname e'.hostname
  user : SameButLetter x e.user e'.user
  port : SameButLetter x e.port e'.port
  identityFile : SameButLetter x e.identityFile e'.identityFile
  identityFiles : List.Forall₂ (SameButLetter x) e.identityFiles e'.identityFiles

/-- Two configurations are the same but for the letter in values and patterns. So are the entries
of a name that the same sections apply to in both. -/
structure ConfigsAlike (x : Char) (a b : HostConfig) : Prop where
  path : a.path = b.path
  contents : (letters x).Contents a.contents b.contents
  lookup : ∀ name, List.Forall₂ (fun s s' => s.scope.covers name = s'.scope.covers name)
      a.contents.sections b.contents.sections → EntriesAlike x (a.lookup name) (b.lookup name)

/-- Wherever the line stands, it can have the letter in the place of `#` and the outcome of loading
is the same but for the letter. An Include line has to name the same files with the letter. -/
def Letterable (x : Char) (line : Text) : Prop :=
  ∀ (env : Environment) (place : Files.Location) (content : Bytes) (root : Path),
    Exchanges env place content line (lettered x line) →
    (∀ value, Statement.ofLine line = .ok (some (.files value)) →
      NameAlike env value (lettered x value)) →
    (letters x).Outcomes (ConfigsAlike x) (ofFile env root)
      (ofFile (env.withContent place content) root)

/-! ## Lines that are alike but for the letter -/

section Letter

variable {x : Char} (hx : IsOrdinary x) {line : Text}

include hx

/-- Directives are alike when both have the same keyword, or keywords with quotes. -/
theorem said_directive {env : Environment} {keyword keyword' : Text} (value : Text)
    (h : keyword ∉ reserved) (h' : keyword' ∉ reserved)
    (hkeyword : keyword' = keyword ∨ '"' ∈ keyword ∧ '"' ∈ keyword') :
    (letters x).Said env ((Statement.ofParts keyword value).map some)
      ((Statement.ofParts keyword' (lettered x value)).map some) := by
  rw [ofParts_of_other h, ofParts_of_other h', hx.unquote?_lettered]
  cases unquote? value with
  | none => exact .problem trivial
  | some v => exact .directive (Or.inr ⟨rfl, hkeyword⟩)

/-- The parts of a line say the same when the value has the letter, but for the letter. -/
theorem said_ofParts {env : Environment} {keyword keyword' value : Text}
    (hkeyword : keyword' = keyword ∨ '"' ∈ keyword ∧ '"' ∈ keyword')
    (hfiles : keyword = "include".toList → NameAlike env value (lettered x value)) :
    (letters x).Said env ((Statement.ofParts keyword value).map some)
      ((Statement.ofParts keyword' (lettered x value)).map some) := by
  have hquoted : ∀ word : Text, '"' ∈ word → word ∉ reserved := by
    intro word hword hmem
    simp only [reserved, List.mem_cons, List.not_mem_nil, or_false] at hmem
    rcases hmem with rfl | rfl | rfl <;> exact absurd hword (by decide)
  rcases hkeyword with rfl | ⟨hquote, hquote'⟩
  · by_cases hmem : keyword' ∈ reserved
    · simp only [reserved, List.mem_cons, List.not_mem_nil, or_false] at hmem
      rcases hmem with rfl | rfl | rfl
      · simp only [Statement.ofParts, if_true, hx.arguments?_lettered]
        rcases arguments? value with - | - | ⟨first, more⟩
        · exact .problem trivial
        · exact .problem trivial
        · exact .host (Or.inr rfl)
      · exact .problem trivial
      · exact .files (hfiles rfl)
    · exact said_directive hx value hmem hmem (Or.inl rfl)
  · exact said_directive hx value (hquoted _ hquote) (hquoted _ hquote')
      (Or.inr ⟨hquote, hquote'⟩)

/-- A line whose comments are no concern says the same with the letter, but for the letter. -/
theorem lines_withLetter {env : Environment} (hmarks : MarksQuoted line)
    (hplain : NoComment (Text.trim line))
    (hfiles : ∀ value, Statement.ofLine line = .ok (some (.files value)) →
      NameAlike env value (lettered x value)) :
    (letters x).Lines env line (lettered x line) := by
  by_cases hblank : Text.trim line = []
  · have hblank' : Text.trim (lettered x line) = [] := by
      rw [hx.trim_lettered, hblank]
      rfl
    rw [Likeness.Lines, Statement.ofLine, Statement.ofLine, hblank, hblank']
    exact .nothing
  · obtain ⟨keyword, value, h⟩ := exists_writes (hmarks.significant hblank)
    have h' := h.withLetter hx hplain
    by_cases hvalue : value = []
    · subst hvalue
      obtain ⟨word, -, hline⟩ := h.ofLine.1 rfl
      obtain ⟨word', -, hline'⟩ := h'.ofLine.1 rfl
      rw [Likeness.Lines, hline, hline']
      exact .problem trivial
    · have hvalue' : lettered x value ≠ [] := by simpa [lettered] using hvalue
      rw [Likeness.Lines, h.ofLine.2 hvalue, h'.ofLine.2 hvalue']
      apply said_ofParts hx
      · rcases h.keyword_withLetter x hmarks with hsame | ⟨hquote, hquote'⟩
        · exact Or.inl (by rw [hsame])
        · exact Or.inr ⟨quote_mem_lower hquote, quote_mem_lower hquote'⟩
      · intro hinclude
        apply hfiles
        rw [h.ofLine.2 hvalue, hinclude]
        rfl

end Letter

/-! ## Configurations that are alike but for the letter -/

section Lookup

variable {x : Char}

theorem valuesOf_alike {keyword : Text} (hkeyword : '"' ∉ keyword) {ds es : List Directive}
    (h : List.Forall₂ (letters x).directive ds es) :
    List.Forall₂ (SameButLetter x) (valuesOf keyword ds) (valuesOf keyword es) := by
  induction h with
  | nil => exact .nil
  | @cons d d' ds es hd _ ih =>
      have hsame : d'.keyword = keyword ↔ d.keyword = keyword := by
        rcases hd with rfl | ⟨-, hsame | ⟨hquote, hquote'⟩⟩
        · rfl
        · rw [hsame]
        · exact ⟨fun heq => absurd (heq ▸ hquote') hkeyword,
            fun heq => absurd (heq ▸ hquote) hkeyword⟩
      have hvalue : SameButLetter x d.value d'.value := by
        rcases hd with rfl | ⟨hvalue, -⟩
        · exact Or.inl rfl
        · exact Or.inr hvalue
      by_cases hd' : d.keyword = keyword
      · simpa [valuesOf, hd', hsame.mpr hd'] using And.intro hvalue ih
      · simpa [valuesOf, hd', mt hsame.mp hd'] using ih

theorem applying_alike {c c' : Contents} (h : (letters x).Contents c c') {name : Text}
    (hcovers : List.Forall₂ (fun s s' => s.scope.covers name = s'.scope.covers name)
      c.sections c'.sections) :
    List.Forall₂ (letters x).directive (c.applying name) (c'.applying name) := by
  refine List.rel_append h.top ?_
  have hsections := h.sections
  generalize c.sections = xs, c'.sections = ys at hsections hcovers
  induction hsections with
  | nil => exact .nil
  | @cons s s' xs ys hs _ ih =>
      rw [List.forall₂_cons] at hcovers
      have hrest := ih hcovers.2
      rw [List.filter_cons, List.filter_cons, hcovers.1]
      split
      · exact List.rel_append hs.directives hrest
      · exact hrest

theorem headD_alike {vs ws : List Text} (h : List.Forall₂ (SameButLetter x) vs ws) :
    SameButLetter x (vs.headD []) (ws.headD []) := by
  cases h with
  | nil => exact Or.inl rfl
  | cons h _ => exact h

theorem configsAlike_of_contents {a b : HostConfig} (hpath : a.path = b.path)
    (h : (letters x).Contents a.contents b.contents) : ConfigsAlike x a b := by
  refine ⟨hpath, h, fun name hcovers => ?_⟩
  have happlying := applying_alike h hcovers
  exact
    { hostname := headD_alike (valuesOf_alike (by decide) happlying)
      user := headD_alike (valuesOf_alike (by decide) happlying)
      port := headD_alike (valuesOf_alike (by decide) happlying)
      identityFile := headD_alike (valuesOf_alike (by decide) happlying)
      identityFiles := valuesOf_alike (by decide) happlying }

theorem letterable_of_lines {line : Text}
    (h : ∀ env : Environment, (∀ value, Statement.ofLine line = .ok (some (.files value)) →
      NameAlike env value (lettered x value)) → (letters x).Lines env line (lettered x line)) :
    Letterable x line := by
  intro env place content root hexchange hfiles
  have houtcomes := Likeness.ofFile_exchange hexchange (h env hfiles) root
  generalize ofFile env root = a, ofFile (env.withContent place content) root = b at houtcomes
  cases houtcomes with
  | failed he => exact .failed he
  | loaded hab => exact .loaded (configsAlike_of_contents hab.1 hab.2)

end Lookup

/-! ## Files of a single line -/

section Single

/-- A file with nothing but the line. -/
def lineFile (line : Text) : Bytes := Utf8.encode (line ++ ['\n'])

theorem lines_lineFile {line : Text} (h : ∀ c ∈ line, Text.isLineBreak c = false) :
    Text.lines (textOf (lineFile line)) = [line] := by
  have hbreak : ∀ l ∈ [line], ∀ c ∈ l, Text.isLineBreak c = false := by simpa using h
  have hfile : lineFile line = Utf8.encode ([line].flatMap fun l => l ++ ['\n']) := by
    simp [lineFile]
  rw [hfile, textOf_encode_lines hbreak, Text.lines_flatMap hbreak]

/-- The place of a configuration of one empty file. -/
def samplePlace : Files.Location := ["h".toList, ".ssh".toList, "config".toList]

def emptySample : Environment := sampleEnvironment [(samplePlace, .file [])]

/-- The configuration of the one line is refused just when the line is malformed. -/
theorem refused_lineFile {env : Environment} {old : Bytes} {line : Text}
    (hfile : env.files.node? samplePlace = some (.file old))
    (hpath : env.files.locate .target samplePath.text = .ok samplePlace)
    (hbreak : ∀ c ∈ line, Text.isLineBreak c = false) (hinclude : ¬ IsInclude line) :
    (∃ e, ofFile (env.withContent samplePlace (lineFile line)) samplePath = .error e) ↔
      Malformed line := by
  have hnul : samplePath.text.contains Files.nul = false := by decide +kernel
  have hread := Files.Tree.read_setContent hfile (lineFile line) hpath
  have hlines := lines_lineFile hbreak
  have hplain : ∀ l ∈ Text.lines (textOf (lineFile line)), ¬ IsInclude l := by
    rw [hlines]
    simpa using hinclude
  have hrefused := (@ofFile_refused_iff (env.withContent samplePlace (lineFile line)) samplePath _
    hnul hread hplain).1
  rw [hrefused, hlines]
  simp

end Single

/-! ## Which lines can have the letter -/

section Letterable

variable {x : Char} (hx : IsOrdinary x) {line : Text} (hmarks : MarksQuoted line)

include hx hmarks

theorem letterable_of_plain (hplain : NoComment (Text.trim line)) : Letterable x line :=
  letterable_of_lines fun _ hfiles => lines_withLetter hx hmarks hplain hfiles

theorem letterable_of_fails (hcomment : ¬ NoComment (Text.trim line))
    (hfails : FailsBeforeMark line) : Letterable x line := by
  obtain ⟨hbad, hbad'⟩ := malformed_both hx hmarks hcomment hfails
  obtain ⟨problem, hproblem⟩ := (malformed_iff line).mp hbad
  obtain ⟨problem', hproblem'⟩ := (malformed_iff (lettered x line)).mp hbad'
  apply letterable_of_lines
  intro env _
  rw [Likeness.Lines, hproblem, hproblem']
  exact .problem trivial

/-- A line of which a part is taken for a comment loads on its own just when it does not with the
letter, unless it fails anyway. -/
theorem not_letterable (hbreak : ∀ c ∈ line, Text.isLineBreak c = false)
    (hcomment : ¬ NoComment (Text.trim line)) (hinclude : ¬ IsInclude line)
    (hfails : ¬ FailsBeforeMark line) : ¬ Letterable x line := by
  obtain ⟨hinclude', hone⟩ := malformed_one hx hmarks hcomment hinclude hfails
  have hfile : emptySample.files.node? samplePlace = some (.file []) := by decide +kernel
  have hpath : emptySample.files.locate .target samplePath.text = .ok samplePlace := by
    decide +kernel
  have hbase := refused_lineFile hfile hpath hbreak hinclude
  have hfile' : (emptySample.withContent samplePlace (lineFile line)).files.node? samplePlace
      = some (.file (lineFile line)) := by
    rw [Environment.withContent, Files.Tree.node?_setContent hfile, if_pos rfl]
  have hpath' : (emptySample.withContent samplePlace (lineFile line)).files.locate .target
      samplePath.text = .ok samplePlace :=
    (Files.Tree.locate_setContent hfile _ _ _).trans hpath
  have hletter := refused_lineFile hfile' hpath' (hx.lettered_not_break hbreak) hinclude'
  intro hlaw
  have hexchange : Exchanges (emptySample.withContent samplePlace (lineFile line)) samplePlace
      (lineFile (lettered x line)) line (lettered x line) :=
    ⟨lineFile line, [], [], hfile', lines_lineFile hbreak,
      lines_lineFile (hx.lettered_not_break hbreak)⟩
  have houtcomes := hlaw _ _ _ samplePath hexchange
    fun value hvalue => absurd ((isInclude_iff line).mpr ⟨value, hvalue⟩) hinclude
  rw [← hbase, ← hletter] at hone
  generalize ofFile (emptySample.withContent samplePlace (lineFile line)) samplePath = a,
    ofFile ((emptySample.withContent samplePlace (lineFile line)).withContent samplePlace
      (lineFile (lettered x line))) samplePath = b at houtcomes hone
  cases houtcomes with
  | failed => simp at hone
  | loaded => simp at hone

end Letterable

/-! ## A value between quotes -/

section Quoted

variable {keyword value : Text}

/-- A line with a keyword and a value between quotes writes the keyword, and the quoted text up to
the first `#` behind a blank. -/
theorem writes_quoted (hkeyword : IsKeyword keyword) (value : Text) :
    Writes (keyword ++ ' ' :: quoted value) keyword (withoutComment (quoted value)) :=
  (spells_space keyword (quoted value)).writes hkeyword.isName (isEnclosed_quoted value).isValue

theorem noComment_of_quoted (h : NoComment (quoted value)) : NoComment value := by
  have hrest : NoComment (value ++ ['"']) := (List.isChain_cons.mp h).2
  exact (List.isChain_append.mp hrest).1

theorem withoutComment_quoted (h : NoComment value) :
    withoutComment (quoted value) = quoted value :=
  (isEnclosed_quoted value).withoutComment (noComment_quoted h)

theorem count_quoted (hquote : '"' ∉ value) : (quoted value).count '"' = 2 := by
  simp [quoted, List.count_eq_zero_of_not_mem hquote]

/-- The opening quote stays in front of the mark and the closing one goes. -/
theorem isOpen_withoutComment_quoted (hquote : '"' ∉ value) (h : ¬ NoComment value) :
    IsOpen (withoutComment (quoted value)) := by
  have hcount := count_quoted hquote
  have hlast := (isEnclosed_quoted value).last
  have hhead := (isEnclosed_quoted value).head
  have hcut := cutsTo_beforeComment (quoted value)
  rw [withoutComment, IsOpen, count_quote_trimEnd]
  generalize hbody : beforeComment (quoted value) = body at hcut
  generalize hwhole : quoted value = whole at hcut hcount hlast hhead
  cases hcut with
  | whole hplain => exact absurd (noComment_of_quoted (hwhole ▸ hplain)) h
  | @comment _ rest blank _ hblank =>
      have hgap : ([blank] : Text).count '"' = 0 := count_quote_blanks (by simpa using hblank)
      have hfirst : 0 < body.count '"' := by
        cases body with
        | nil =>
            obtain rfl : blank = '"' := by simpa using hhead
            exact absurd hblank (by decide)
        | cons c body =>
            obtain rfl : c = '"' := by simpa using hhead
            simp
      have hend : 0 < rest.count '"' := by
        rw [List.append_cons, List.getLast?_append_of_ne_nil _ (List.cons_ne_nil '#' rest)] at hlast
        have hmem : '"' ∈ rest := by simpa using List.mem_of_getLast? hlast
        exact List.count_pos_iff.mpr hmem
      rw [List.append_cons, List.count_append, List.count_append, hgap,
        List.count_cons_of_ne (by decide)] at hcount
      omega

/-- The line is malformed just when the value has a `#` behind a blank. -/
theorem malformed_quoted_iff (hkeyword : IsKeyword keyword)
    (hother : Text.lower keyword ∉ reserved) (hquote : '"' ∉ value) :
    Malformed (keyword ++ ' ' :: quoted value) ↔ ¬ NoComment value := by
  simp only [reserved, List.mem_cons, List.not_mem_nil, or_false, not_or] at hother
  obtain ⟨hhost, hmatch, hinclude⟩ := hother
  obtain ⟨c, rest, hbare, -⟩ := (isEnclosed_quoted value).isValue.withoutComment
  have hne : withoutComment (quoted value) ≠ [] := by simp [hbare]
  rw [(writes_quoted hkeyword value).malformed_iff_isOpen hne hmatch hinclude
    fun heq => absurd heq hhost]
  constructor
  · intro hopen hplain
    rw [withoutComment_quoted hplain, IsOpen, count_quoted hquote] at hopen
    cases hopen
  · exact isOpen_withoutComment_quoted hquote

/-- As the only line of a file, it surfaces the value just when that has no `#` behind a blank. -/
theorem surfaces_quoted_iff {env : Environment} {path : Path} {content : Bytes}
    (hnul : path.text.contains Files.nul = false) (hread : env.files.read path.text = .ok content)
    (hkeyword : IsKeyword keyword) (hother : Text.lower keyword ∉ reserved)
    (hquote : '"' ∉ value)
    (hlines : Text.lines (textOf content) = [keyword ++ ' ' :: quoted value]) :
    (∃ config, ofFile env path = .ok config ∧
      ∀ name, valuesOf (Text.lower keyword) (config.contents.applying name) = [value]) ↔
        NoComment value := by
  have hwrites := writes_quoted hkeyword value
  have hinclude : ¬ IsInclude (keyword ++ ' ' :: quoted value) := by
    rw [hwrites.isInclude_iff]
    exact fun h => hother (h.2 ▸ by decide)
  constructor
  · rintro ⟨config, hload, -⟩
    by_contra hcomment
    have hmalformed := (malformed_quoted_iff hkeyword hother hquote).mpr hcomment
    have hrefused := (ofFile_refused_iff hnul hread (by simpa [hlines] using hinclude)).1
    have hmem : keyword ++ ' ' :: quoted value ∈ Text.lines (textOf content) := by simp [hlines]
    obtain ⟨e, he⟩ := hrefused.mpr ⟨_, hmem, hmalformed⟩
    cases hload.symm.trans he
  · intro hplain
    rw [withoutComment_quoted hplain] at hwrites
    have hline : Statement.ofLine (keyword ++ ' ' :: quoted value)
        = .ok (some (.directive ⟨Text.lower keyword, value⟩)) := by
      rw [hwrites.ofLine.2 (List.cons_ne_nil _ _), ofParts_of_other hother,
        unquote?_quoted hquote]
      rfl
    have hnumbered : Text.numberedLines (textOf content)
        = [(1, keyword ++ ' ' :: quoted value)] := by
      rw [Text.numberedLines, hlines]
      rfl
    refine ⟨⟨path, ⟨[⟨Text.lower keyword, value⟩], []⟩⟩, ?_, fun name => ?_⟩
    · rw [ofFile, maxIncludeDepth, load, readFile, hnul, if_neg Bool.false_ne_true, hread]
      simp only [readText, hnumbered, readLines, hline]
      rfl
    · simp [Contents.applying, valuesOf]

end Quoted

/-- A line with quoted marks only can have the letter in their place when none of them stands behind
a blank. When one does, and the line is no Include line, it can only if it fails in any case. In
particular a value between quotes is surfaced just when it has no `#` behind a blank. -/
theorem quotedMarks_letterable_iff {x : Char} (hx : IsOrdinary x) {line : Text}
    (hbreak : ∀ c ∈ line, Text.isLineBreak c = false) (hmarks : MarksQuoted line) :
    (NoComment (Text.trim line) → Letterable x line) ∧
    (¬ IsInclude line →
      (Letterable x line ↔ NoComment (Text.trim line) ∨ FailsBeforeMark line)) ∧
    ∀ (env : Environment) (path : Path) (content : Bytes) (keyword value : Text),
      path.text.contains Files.nul = false → env.files.read path.text = .ok content →
      IsKeyword keyword → Text.lower keyword ∉ reserved → '"' ∉ value →
      Text.lines (textOf content) = [keyword ++ ' ' :: quoted value] →
      ((∃ config, ofFile env path = .ok config ∧
        ∀ name, valuesOf (Text.lower keyword) (config.contents.applying name) = [value]) ↔
          NoComment value) := by
  refine ⟨letterable_of_plain hx hmarks, fun hinclude => ⟨fun hlaw => ?_, ?_⟩, ?_⟩
  · by_contra hnot
    obtain ⟨hcomment, hfails⟩ := not_or.mp hnot
    exact not_letterable hx hmarks hbreak hcomment hinclude hfails hlaw
  · rintro (hplain | hfails)
    · exact letterable_of_plain hx hmarks hplain
    · by_cases hplain : NoComment (Text.trim line)
      · exact letterable_of_plain hx hmarks hplain
      · exact letterable_of_fails hx hmarks hplain hfails
  · intro env path content keyword value hnul hread hkeyword hother hquote hlines
    exact surfaces_quoted_iff hnul hread hkeyword hother hquote hlines

/-- A `#` behind a blank, between quotes: the line is refused, and with the letter it is not. -/
theorem quotedMark_cut :
    let line := "User \"a #b\"".toList
    MarksQuoted line ∧
    ofFile (emptySample.withContent samplePlace (lineFile line)) samplePath
      = .error (.line ⟨samplePath.text, 1, .unbalancedQuotes⟩) ∧
    ∃ config, ofFile (emptySample.withContent samplePlace (lineFile (lettered 'x' line))) samplePath
        = .ok config ∧ (config.lookup "a".toList).user = "a xb".toList := by
  intro line
  have hload : ofFile (emptySample.withContent samplePlace (lineFile (lettered 'x' line)))
      samplePath = .ok ⟨samplePath, ⟨[⟨"user".toList, "a xb".toList⟩], []⟩⟩ := by
    decide +kernel
  exact ⟨by decide +kernel, by decide +kernel, _, hload, by decide +kernel⟩

theorem quotedMark_letterable :
    let line := "User \"a# b#c\"".toList
    IsOrdinary 'x' ∧ (∀ c ∈ line, Text.isLineBreak c = false) ∧ MarksQuoted line ∧
      Letterable 'x' line := by
  intro line
  have hx : IsOrdinary 'x' := ⟨by decide, by decide⟩
  have hbreak : ∀ c ∈ line, Text.isLineBreak c = false := by
    have hall : line.all (fun c => !Text.isLineBreak c) = true := by decide
    simpa using hall
  have hmarks : MarksQuoted line := by decide +kernel
  exact ⟨hx, hbreak, hmarks, (quotedMarks_letterable_iff hx hbreak hmarks).1 (by decide +kernel)⟩

end SshTunnel.HostConfig
