import SshTunnel.Proofs.HostConfig.Arguments
import SshTunnel.Proofs.HostConfig.Lookup
import SshTunnel.Proofs.HostConfig.Spelling
import SshTunnel.Proofs.Text.Utf8

/-!
# A configuration that is written out

A sheet has settings for every alias and blocks of settings under patterns. Written with one
line for each, values and patterns between quotes, it is read back as it is: a lookup surfaces
the first setting of a keyword among those that apply to the alias, in the order of the sheet.
-/

namespace SshTunnel.HostConfig

/-- A keyword with its value. Lines for hosts and for included files are no settings. -/
structure Setting where
  keyword : Text
  value : Text
  isKeyword : IsKeyword keyword
  not_special : Text.lower keyword ∉ ["host".toList, "match".toList, "include".toList]
  quotable : IsQuotable value

/-- Settings for the aliases that some patterns match. -/
structure Block where
  patterns : List Text
  settings : List Setting
  patterns_ne_nil : patterns ≠ []
  quotable : ∀ p ∈ patterns, IsQuotable p

/-- Settings for every alias, then blocks. -/
structure Sheet where
  top : List Setting
  blocks : List Block

/-- The line that writes a setting. -/
def Setting.line (s : Setting) : Text := s.keyword ++ ' ' :: quoted s.value

/-- The Host line that opens a block. -/
def Block.header (b : Block) : Text := "Host".toList ++ ' ' :: quotedList b.patterns

/-- The lines that write a block. -/
def Block.lines (b : Block) : List Text := b.header :: b.settings.map Setting.line

namespace Sheet

/-- The lines that write a sheet. -/
def lines (sheet : Sheet) : List Text :=
  sheet.top.map Setting.line ++ sheet.blocks.flatMap Block.lines

/-- The text of a sheet, each line ended by a line feed. -/
def text (sheet : Sheet) : Text := sheet.lines.flatMap fun line => line ++ ['\n']

/-- The settings that apply to a name, in the order of the sheet. -/
def applying (sheet : Sheet) (name : Text) : List Setting :=
  sheet.top ++
    (sheet.blocks.filter fun b => matchesPatterns name b.patterns).flatMap (·.settings)

/-- The values of a keyword in lower case among the settings that apply to a name. -/
def values (sheet : Sheet) (name keyword : Text) : List Text :=
  ((sheet.applying name).filter fun s => Text.lower s.keyword = keyword).map (·.value)

end Sheet

/-! ## One line -/

/-- The directive that a setting is read as. -/
def Setting.directive (s : Setting) : Directive := ⟨Text.lower s.keyword, s.value⟩

theorem Setting.ofLine_line (s : Setting) :
    Statement.ofLine s.line = .ok (some (.directive s.directive)) := by
  rw [line, ofLine_keyword s.isKeyword (isEnclosed_quoted s.value)
    (noComment_quoted s.quotable.no_comment), ofParts_of_other s.not_special,
    unquote?_quoted s.quotable.no_quote]
  rfl

theorem isKeyword_host : IsKeyword "Host".toList := by decide

theorem Block.ofLine_header (b : Block) :
    Statement.ofLine b.header = .ok (some (.host b.patterns)) := by
  have hwrites : WritesQuoted b.patterns (quotedList b.patterns) :=
    writesQuoted_join (by decide) (List.all_eq_true.mp (by decide)) b.patterns
  have hread : arguments? (quotedList b.patterns) = some b.patterns :=
    hwrites.arguments? fun p hp => ⟨(b.quotable p hp).ne_nil, (b.quotable p hp).no_quote⟩
  have hlower : Text.lower "Host".toList = "host".toList := by decide
  obtain ⟨p, more, hpatterns⟩ := List.exists_cons_of_ne_nil b.patterns_ne_nil
  rw [header, ofLine_keyword isKeyword_host (isEnclosed_quotedList b.patterns_ne_nil)
    (noComment_quotedList fun p hp => (b.quotable p hp).no_comment), hlower,
    Statement.ofParts, if_pos rfl, hread, hpatterns]
  rfl

/-! ## All lines -/

theorem quoted_not_break {t : Text} (h : ∀ c ∈ t, Text.isLineBreak c = false) :
    ∀ c ∈ quoted t, Text.isLineBreak c = false := by
  intro c hc
  simp only [quoted, List.mem_cons, List.mem_append, List.not_mem_nil, or_false] at hc
  rcases hc with rfl | hc | rfl
  · decide
  · exact h c hc
  · decide

theorem quotedList_not_break {ts : List Text}
    (h : ∀ t ∈ ts, ∀ c ∈ t, Text.isLineBreak c = false) :
    ∀ c ∈ quotedList ts, Text.isLineBreak c = false := by
  induction ts with
  | nil => simp [quotedList, Text.join]
  | cons t more ih =>
      have ht := quoted_not_break (h t (by simp))
      have hmore := ih fun u hu => h u (by simp [hu])
      cases more with
      | nil => exact ht
      | cons u more =>
          intro c hc
          rw [quotedList_cons_cons, List.mem_append, List.mem_cons] at hc
          rcases hc with hc | rfl | hc
          · exact ht c hc
          · decide
          · exact hmore c hc

/-- A keyword and a value without breaks make a line without breaks. -/
theorem keyword_not_break {word value : Text} (hword : IsKeyword word)
    (hvalue : ∀ c ∈ value, Text.isLineBreak c = false) :
    ∀ c ∈ word ++ ' ' :: value, Text.isLineBreak c = false := by
  intro c hc
  rw [List.mem_append, List.mem_cons] at hc
  rcases hc with hc | rfl | hc
  · cases hbreak : Text.isLineBreak c with
    | false => rfl
    | true =>
        have hblank := Text.isBlank_of_isLineBreak hbreak
        exact absurd hblank (by simp [hword.not_blank c hc])
  · decide
  · exact hvalue c hc

theorem Setting.line_not_break (s : Setting) : ∀ c ∈ s.line, Text.isLineBreak c = false :=
  keyword_not_break s.isKeyword (quoted_not_break s.quotable.no_break)

theorem Block.header_not_break (b : Block) : ∀ c ∈ b.header, Text.isLineBreak c = false :=
  keyword_not_break isKeyword_host (quotedList_not_break fun p hp => (b.quotable p hp).no_break)

/-- A text of whole lines is read from its bytes as it is: no carriage return is in it. -/
theorem textOf_encode_lines {ls : List Text}
    (h : ∀ line ∈ ls, ∀ c ∈ line, Text.isLineBreak c = false) :
    textOf (Utf8.encode (ls.flatMap fun line => line ++ ['\n']))
      = ls.flatMap fun line => line ++ ['\n'] := by
  have hreturn : '\r' ∉ ls.flatMap fun line => line ++ ['\n'] := by
    intro hmem
    obtain ⟨line, hline, hc⟩ := List.mem_flatMap.mp hmem
    rcases List.mem_append.mp hc with hc | hc
    · exact absurd (h line hline _ hc) (by decide)
    · simp at hc
  rw [textOf, Utf8.decodeLossy_encode, Text.unifyNewlines_eq_self hreturn]

namespace Sheet

theorem lines_not_break (sheet : Sheet) :
    ∀ line ∈ sheet.lines, ∀ c ∈ line, Text.isLineBreak c = false := by
  intro line hline
  rw [lines, List.mem_append, List.mem_map, List.mem_flatMap] at hline
  rcases hline with ⟨s, -, rfl⟩ | ⟨b, -, hline⟩
  · exact s.line_not_break
  · rcases List.mem_cons.mp hline with rfl | hline
    · exact b.header_not_break
    · obtain ⟨s, -, rfl⟩ := List.mem_map.mp hline
      exact s.line_not_break

theorem lines_text (sheet : Sheet) : Text.lines sheet.text = sheet.lines :=
  Text.lines_flatMap sheet.lines_not_break

theorem textOf_encode (sheet : Sheet) : textOf (Utf8.encode sheet.text) = sheet.text :=
  textOf_encode_lines sheet.lines_not_break

end Sheet

/-! ## Reading -/

theorem onLast_eq_self {α : Type} {f : α → α} (h : ∀ x, f x = x) (xs : List α) :
    onLast f xs = xs := by
  fun_induction onLast f xs with
  | case1 => rfl
  | case2 x => rw [h]
  | case3 x y rest ih => rw [ih]

theorem onLast_onLast {α : Type} (f g : α → α) (xs : List α) :
    onLast g (onLast f xs) = onLast (fun x => g (f x)) xs := by
  rcases List.eq_nil_or_concat xs with rfl | ⟨init, x, rfl⟩
  · rfl
  · simp only [List.concat_eq_append, Progress.onLast_append]

namespace Progress

theorem add_nil (p : Progress) : p.add [] = p := by
  obtain ⟨⟨top, sections⟩, inTop⟩ := p
  cases inTop with
  | true => simp [add]
  | false => simp [add, onLast_eq_self]

theorem add_add (p : Progress) (ds es : List Directive) :
    (p.add ds).add es = p.add (ds ++ es) := by
  obtain ⟨⟨top, sections⟩, inTop⟩ := p
  cases inTop with
  | true => simp [add]
  | false => simp [add, onLast_onLast]

/-- A section that is opened takes in what comes next. -/
theorem openSection_add (p : Progress) (scope : Scope) (ds : List Directive) :
    (p.openSection scope).add ds
      = ⟨⟨p.contents.top, p.contents.sections ++ [⟨scope, ds⟩]⟩, false⟩ := by
  simp [openSection, add, onLast_append]

end Progress

/-- The section that a block is read as. -/
def Block.section (b : Block) : Section := ⟨[b.patterns], b.settings.map Setting.directive⟩

/-- The contents that a sheet is read as. -/
def Sheet.contents (sheet : Sheet) : Contents :=
  ⟨sheet.top.map Setting.directive, sheet.blocks.map Block.section⟩

section Reading

variable {path : Text} {outer : Scope}
  {includes : Scope → Nat → Text → Except LoadError Contents}

/-- Lines of settings go into the place under way, whatever their numbers. -/
theorem readLines_settings (ss : List Setting) {numbered : List (Nat × Text)}
    (h : numbered.map Prod.snd = ss.map Setting.line) (p : Progress)
    (rest : List (Nat × Text)) :
    readLines path outer includes p (numbered ++ rest)
      = readLines path outer includes (p.add (ss.map Setting.directive)) rest := by
  induction ss generalizing numbered p with
  | nil =>
      obtain rfl : numbered = [] := List.map_eq_nil_iff.mp h
      rw [List.map_nil, p.add_nil]
      rfl
  | cons s ss ih =>
      obtain ⟨⟨number, line⟩, more, rfl, rfl, hmore⟩ := List.map_eq_cons_iff.mp h
      rw [List.cons_append, readLines, s.ofLine_line]
      simp only
      rw [ih hmore, p.add_add]
      rfl

/-- The lines of a block make up its section. -/
theorem readLines_block (b : Block) {numbered : List (Nat × Text)}
    (h : numbered.map Prod.snd = b.lines) (p : Progress) (rest : List (Nat × Text)) :
    readLines path [] includes p (numbered ++ rest)
      = readLines path [] includes
          ⟨⟨p.contents.top, p.contents.sections ++ [b.section]⟩, false⟩ rest := by
  obtain ⟨⟨number, line⟩, more, rfl, rfl, hmore⟩ := List.map_eq_cons_iff.mp h
  rw [List.cons_append, readLines, b.ofLine_header]
  simp only
  rw [readLines_settings b.settings hmore, Progress.openSection_add]
  rfl

theorem readLines_blocks (bs : List Block) {numbered : List (Nat × Text)}
    (h : numbered.map Prod.snd = bs.flatMap Block.lines) (p : Progress) :
    (readLines path [] includes p numbered).map (·.contents)
      = .ok ⟨p.contents.top, p.contents.sections ++ bs.map Block.section⟩ := by
  induction bs generalizing numbered p with
  | nil =>
      obtain rfl : numbered = [] := List.map_eq_nil_iff.mp h
      simp [readLines, Except.map]
  | cons b bs ih =>
      rw [List.flatMap_cons] at h
      obtain ⟨first, more, rfl, hfirst, hmore⟩ := List.map_eq_append_iff.mp h
      rw [readLines_block b hfirst, ih hmore]
      simp

end Reading

namespace Sheet

variable {env : Environment} {path : Path}

/-- The text of a sheet is read as the sheet. -/
theorem readText_text (sheet : Sheet) (path : Text)
    (includes : Scope → Nat → Text → Except LoadError Contents) :
    readText path [] includes sheet.text = .ok sheet.contents := by
  have hlines : (Text.numberedLines sheet.text).map Prod.snd = sheet.lines := by
    rw [Text.map_snd_numberedLines, lines_text]
  obtain ⟨first, more, hsplit, hfirst, hmore⟩ := List.map_eq_append_iff.mp hlines
  rw [readText, hsplit, readLines_settings sheet.top hfirst, readLines_blocks sheet.blocks hmore]
  simp [Progress.start, Progress.add, Contents.empty, contents]

theorem ofFile_text (sheet : Sheet) (hnul : path.text.contains Files.nul = false)
    (hread : env.files.read path.text = .ok (Utf8.encode sheet.text)) :
    ofFile env path = .ok ⟨path, sheet.contents⟩ := by
  have hload : ∀ includes, readFile env.files includes [] path.text = .ok sheet.contents := by
    intro includes
    rw [readFile, hnul, if_neg Bool.false_ne_true, hread]
    simp only [textOf_encode, readText_text]
  rw [ofFile, maxIncludeDepth, load, hload]
  rfl

/-! ## Looking up -/

/-- The directives that apply to a name are those of the settings that do. -/
theorem applying_contents (sheet : Sheet) (name : Text) :
    sheet.contents.applying name = (sheet.applying name).map Setting.directive := by
  have hcovers : ∀ b : Block, b.section.scope.covers name = matchesPatterns name b.patterns := by
    intro b
    simp [Block.section, Scope.covers]
  simp only [Contents.applying, contents, applying, List.map_append, List.filter_map,
    List.flatMap_map, List.map_flatMap, Function.comp_def, hcovers]
  rfl

theorem valuesOf_contents (sheet : Sheet) (name keyword : Text) :
    valuesOf keyword (sheet.contents.applying name) = sheet.values name keyword := by
  rw [applying_contents, valuesOf, List.filter_map, List.map_map]
  rfl

/-- A sheet that stands in a file loads, and every lookup surfaces for each field the first
value among the settings that apply to the alias, and all identity files in their order. -/
theorem lookup_readsBack (sheet : Sheet) (hnul : path.text.contains Files.nul = false)
    (hread : env.files.read path.text = .ok (Utf8.encode sheet.text)) :
    ∃ config, ofFile env path = .ok config ∧ ∀ name,
      let e := config.lookup name
      e.hostname = (sheet.values name "hostname".toList).headD [] ∧
        e.user = (sheet.values name "user".toList).headD [] ∧
        e.port = (sheet.values name "port".toList).headD [] ∧
        e.identityFile = (sheet.values name "identityfile".toList).headD [] ∧
        e.identityFiles = sheet.values name "identityfile".toList := by
  refine ⟨_, sheet.ofFile_text hnul hread, fun name => ?_⟩
  simp only [lookup, entryOf, valuesOf_contents, and_self]

end Sheet

/-- Values with blanks, a `#` and a `=`, and a block that leaves one alias out. -/
def sampleSheet : Sheet where
  top := [⟨"User".toList, "#me =\tx ".toList, by decide, by decide, by decide⟩]
  blocks :=
    [{ patterns := ["!db.old".toList, "d b".toList, "db*".toList]
       settings :=
         [⟨"USER".toList, "late".toList, by decide, by decide, by decide⟩,
           ⟨"IdentityFile".toList, "a b".toList, by decide, by decide, by decide⟩]
       patterns_ne_nil := by decide
       quotable := by decide }]

def sheetEnvironment : Environment :=
  sampleEnvironment [(["h".toList, ".ssh".toList, "config".toList],
    .file (Utf8.encode sampleSheet.text))]

theorem sampleSheet_readsBack :
    samplePath.text.contains Files.nul = false ∧
    sheetEnvironment.files.read samplePath.text = .ok (Utf8.encode sampleSheet.text) ∧
    ∃ config, ofFile sheetEnvironment samplePath = .ok config ∧
      (config.lookup "DB1".toList).user = "#me =\tx ".toList ∧
      (config.lookup "DB1".toList).identityFiles = ["a b".toList] ∧
      (config.lookup "db.old".toList).identityFiles = [] := by
  have hnul : samplePath.text.contains Files.nul = false := by decide +kernel
  have hread : sheetEnvironment.files.read samplePath.text
      = .ok (Utf8.encode sampleSheet.text) := by
    decide +kernel
  obtain ⟨config, hload, hlookup⟩ := sampleSheet.lookup_readsBack hnul hread
  obtain ⟨-, huser, -, -, hfiles⟩ := hlookup "DB1".toList
  obtain ⟨-, -, -, -, hnone⟩ := hlookup "db.old".toList
  refine ⟨hnul, hread, config, hload, ?_, ?_, ?_⟩
  · rw [huser]
    decide +kernel
  · rw [hfiles]
    decide +kernel
  · rw [hnone]
    decide +kernel

end SshTunnel.HostConfig
