import SshTunnel.Proofs.HostConfig.Malformed
import SshTunnel.Proofs.HostConfig.Unseen

/-!
# Lines that do not matter

Blank lines, comments and lines with other keywords can be put into the files of a configuration
and left out of them without any lookup changing. An Include line below a Host line can be left
out without a lookup changing for the aliases that the Host line does not match, whatever the
files that it names have in them.
-/

namespace SshTunnel.HostConfig

/-- A line with nothing in it, a comment, or a well-formed line whose keyword is that of no block,
of no Include line and of nothing that a lookup surfaces. -/
inductive Irrelevant (line : Text) : Prop where
  | blank (h : ∀ c ∈ line, Text.isBlank c = true)
  | comment {gap rest : Text} (h : line = gap ++ '#' :: rest)
      (hgap : ∀ c ∈ gap, Text.isBlank c = true)
  | other {keyword value : Text} (h : Writes line keyword value) (hwell : ¬ Malformed line)
      (hreserved : Text.lower keyword ∉ reserved) (hsurfaced : Text.lower keyword ∉ surfaced)

/-- The second file is the first one with irrelevant lines put in or left out. -/
inductive Padded : List Text → List Text → Prop where
  | done : Padded [] []
  | kept (line : Text) {rest rest' : List Text} (h : Padded rest rest') :
      Padded (line :: rest) (line :: rest')
  | putIn {line : Text} {rest rest' : List Text} (hline : Irrelevant line)
      (h : Padded rest rest') : Padded rest (line :: rest')
  | leftOut {line : Text} {rest rest' : List Text} (hline : Irrelevant line)
      (h : Padded rest rest') : Padded (line :: rest) rest'

/-- The file with the second content is the one with the first content, with irrelevant lines put
in or left out. -/
def PaddedFile (content content' : Bytes) : Prop :=
  Padded (Text.lines (textOf content)) (Text.lines (textOf content'))

/-- The new content lacks one Include line of the file at a place. In this file the last Host line
above it has these patterns. -/
inductive LeavesOut (env : Environment) (place : Files.Location) (content : Bytes)
    (patterns : List Text) : Prop where
  | intro {old : Bytes} {front middle after : List Text} {host line : Text}
      (hfile : env.files.node? place = some (.file old))
      (hold : Text.lines (textOf old) = front ++ host :: (middle ++ line :: after))
      (hhost : Statement.ofLine host = .ok (some (.host patterns)))
      (hmiddle : ∀ l ∈ middle, ∀ others, Statement.ofLine l ≠ .ok (some (.host others)))
      (hline : IsInclude line)
      (hnew : Text.lines (textOf content) = front ++ host :: (middle ++ after))

/-! ## Irrelevant lines -/

theorem ofLine_of_not_significant {line : Text} (h : isSignificant (Text.trim line) = false) :
    Statement.ofLine line = .ok none := by
  by_contra hnone
  rw [isSignificant_of_ofLine hnone] at h
  cases h

theorem Irrelevant.saysNothing {line : Text} (h : Irrelevant line) : SaysNothing line := by
  cases h with
  | blank h =>
      have htrim : Text.trim line = [] := by
        rw [Text.trim, Text.trimStart, List.dropWhile_eq_nil_iff.mpr h]
        rfl
      exact .passed (ofLine_of_not_significant (by rw [htrim]; rfl))
  | @comment gap rest h hgap =>
      have hstart : Text.trimStart line = '#' :: rest := by
        rw [h, Text.trimStart, List.dropWhile_append_of_pos hgap,
          List.dropWhile_cons_of_neg (by decide)]
      have hhead : (Text.trim line).head? = some '#' := by
        obtain ⟨back, hend⟩ := Text.trimEnd_isPrefix (Text.trimStart line)
        rw [← Text.trim, hstart] at hend
        cases htrim : Text.trim line with
        | nil =>
            have hmem := Text.mem_trim (t := line) (c := '#') (by decide) (by simp [h])
            rw [htrim] at hmem
            cases hmem
        | cons c more =>
            rw [htrim] at hend
            simpa using (List.cons.inj hend).1
      exact .passed (ofLine_of_not_significant (by simp [isSignificant, hhead]))
  | @other keyword value h hwell hreserved hsurfaced =>
      rw [malformed_iff] at hwell
      cases hline : Statement.ofLine line with
      | error problem => exact absurd ⟨problem, hline⟩ hwell
      | ok statement =>
          cases statement with
          | none => exact .passed hline
          | some statement =>
              obtain ⟨keyword', value', h', -, hparts⟩ := (ofLine_eq_some_iff _ _).mp hline
              obtain ⟨rfl, rfl⟩ := h.unique h'
              rw [ofParts_of_other hreserved] at hparts
              split at hparts
              · cases hparts
              · cases hparts
                exact .unseen hline hsurfaced

theorem irrelevant_of_not_significant {line : Text}
    (h : isSignificant (Text.trim line) = false) : Irrelevant line := by
  obtain ⟨before, after, hline, hbefore, hafter⟩ := Text.exists_trim line
  cases htrim : Text.trim line with
  | nil =>
      refine .blank fun c hc => ?_
      rw [hline, htrim, List.append_nil] at hc
      exact (List.mem_append.mp hc).elim (hbefore c) (hafter c)
  | cons c rest =>
      obtain rfl : c = '#' := by simpa [isSignificant, htrim] using h
      rw [htrim, List.append_assoc, List.cons_append] at hline
      exact .comment hline hbefore

/-- The irrelevant lines are those that can be read and say nothing that a lookup surfaces. -/
theorem irrelevant_iff (line : Text) : Irrelevant line ↔ SaysNothing line := by
  constructor
  · exact Irrelevant.saysNothing
  · intro h
    cases h with
    | passed hline =>
        apply irrelevant_of_not_significant
        by_contra hsignificant
        obtain ⟨keyword, value, h⟩ := exists_writes (by simpa using hsignificant)
        obtain ⟨hmissing, hstated⟩ := h.ofLine
        by_cases hvalue : value = []
        · obtain ⟨word, -, herror⟩ := hmissing hvalue
          cases hline.symm.trans herror
        · rw [hstated hvalue] at hline
          cases hparts : Statement.ofParts (Text.lower keyword) value <;>
            simp [hparts, Except.map] at hline
    | @unseen d hline hkeyword =>
        obtain ⟨keyword, value, h, -, hparts⟩ := (ofLine_eq_some_iff _ _).mp hline
        obtain ⟨hreserved, -, heq⟩ := (ofParts_eq_directive_iff _ _ _).mp hparts
        have hwell : ¬ Malformed line := by simp [malformed_iff, hline]
        exact .other h hwell hreserved (heq ▸ hkeyword)

instance (line : Text) : Decidable (SaysNothing line) :=
  match h : Statement.ofLine line with
  | .ok none => isTrue (.passed h)
  | .ok (some (.directive d)) =>
      match hkeyword : surfaced.contains d.keyword with
      | true =>
          isFalse fun hsays => by
            cases hsays with
            | passed h' => cases h.symm.trans h'
            | unseen h' hnot =>
                cases h.symm.trans h'
                exact hnot (List.contains_iff_mem.mp hkeyword)
      | false => isTrue (.unseen h (by simpa using hkeyword))
  | .ok (some (.host _)) => isFalse fun hsays => by cases hsays <;> simp_all
  | .ok (some (.files _)) => isFalse fun hsays => by cases hsays <;> simp_all
  | .error _ => isFalse fun hsays => by cases hsays <;> simp_all

instance (line : Text) : Decidable (Irrelevant line) :=
  decidable_of_iff _ (irrelevant_iff line).symm

theorem Padded.edited {lines lines' : List Text} (h : Padded lines lines') (name : Text)
    (above : Option (List Text)) : Edited name above lines lines' := by
  induction h generalizing above with
  | done => exact .done
  | kept line _ ih => exact .kept line (ih _)
  | putIn hline _ ih => exact .putIn hline.saysNothing (ih _)
  | leftOut hline _ ih => exact .leftOut hline.saysNothing (ih _)

section Padding

variable {env : Environment} {files : Files.Tree} {root : Path} {config : HostConfig}

/-- Irrelevant lines are irrelevant: with any of them put into the files of a configuration that
loads, or left out of them, it loads with the same lookups. -/
theorem lookup_padded (hfiles : Files.Tree.Alike PaddedFile env.files files)
    (h : ofFile env root = .ok config) :
    ∃ config', ofFile { env with files := files } root = .ok config' ∧
      ∀ name, config'.lookup name = config.lookup name := by
  have hedited : ∀ name, Files.Tree.Alike (EditedFile name) env.files files := by
    intro name
    refine ⟨hfiles.workingDirectory, hfiles.namesAt, fun place => ?_⟩
    rcases hfiles.node? place with heq | ⟨content, content', hc, hc', hpadded⟩
    · exact Or.inl heq
    · exact Or.inr ⟨content, content', hc, hc', hpadded.edited name none⟩
  obtain ⟨config', hload, -⟩ := lookup_edited (hedited []) h
  refine ⟨config', hload, fun name => ?_⟩
  obtain ⟨config'', hload', hlookup⟩ := lookup_edited (hedited name) h
  cases hload.symm.trans hload'
  exact hlookup

/-- The place of the included file of the samples. -/
def includedPlace : Files.Location := ["h".toList, ".ssh".toList, "inc".toList]

def paddingSample : Environment := sampleEnvironment
  [sampleFile "config".toList "Host a\n  User me\n  Include i*\n",
    sampleFile "inc".toList "ForwardAgent yes\nHostName far\n# next\nHost b\n  Port 22\n"]

/-- The included file without two of its lines and with three others. -/
def repadded : Bytes := Utf8.encode
  "\n\t# far away\nHostName far\nHost b\n  LocalForward = \"8080 far\"\n  Port 22\n".toList

theorem paddedFile_sample : PaddedFile
    (Utf8.encode "ForwardAgent yes\nHostName far\n# next\nHost b\n  Port 22\n".toList)
    repadded := by
  have hold : Text.lines (textOf (Utf8.encode
      "ForwardAgent yes\nHostName far\n# next\nHost b\n  Port 22\n".toList))
        = ["ForwardAgent yes".toList, "HostName far".toList, "# next".toList, "Host b".toList,
            "  Port 22".toList] := by
    decide +kernel
  have hnew : Text.lines (textOf repadded)
      = ["".toList, "\t# far away".toList, "HostName far".toList, "Host b".toList,
          "  LocalForward = \"8080 far\"".toList, "  Port 22".toList] := by
    decide +kernel
  rw [PaddedFile, hold, hnew]
  apply Padded.putIn (by decide +kernel)
  apply Padded.putIn (by decide +kernel)
  apply Padded.leftOut (by decide +kernel)
  apply Padded.kept
  apply Padded.leftOut (by decide +kernel)
  apply Padded.kept
  apply Padded.putIn (by decide +kernel)
  exact .kept _ .done

theorem paddingSample_repadded : ∃ config config',
    ofFile paddingSample samplePath = .ok config ∧
    ofFile (paddingSample.withContent includedPlace repadded) samplePath = .ok config' ∧
    ∀ name, config'.lookup name = config.lookup name := by
  have hfile : paddingSample.files.node? includedPlace = some (.file (Utf8.encode
      "ForwardAgent yes\nHostName far\n# next\nHost b\n  Port 22\n".toList)) := by
    decide +kernel
  have hloads : (ofFile paddingSample samplePath).isOk = true := by decide +kernel
  cases hconfig : ofFile paddingSample samplePath with
  | error e =>
      rw [hconfig] at hloads
      cases hloads
  | ok config =>
      obtain ⟨config', hload, hlookup⟩ := lookup_padded
        (Files.Tree.alike_setContent hfile paddedFile_sample) hconfig
      exact ⟨config, config', rfl, hload, hlookup⟩

end Padding

/-! ## Include lines below a Host line -/

theorem foldl_hostAfter {lines : List Text}
    (h : ∀ l ∈ lines, ∀ patterns, Statement.ofLine l ≠ .ok (some (.host patterns)))
    (above : Option (List Text)) : lines.foldl hostAfter above = above := by
  induction lines generalizing above with
  | nil => rfl
  | cons line lines ih =>
      rw [List.forall_mem_cons] at h
      rw [List.foldl_cons, hostAfter_of_other h.1, ih h.2]

/-- Lines before an edit stay. -/
theorem Edited.append {name : Text} {lines lines' : List Text} (front : List Text)
    {above : Option (List Text)} (h : Edited name (front.foldl hostAfter above) lines lines') :
    Edited name above (front ++ lines) (front ++ lines') := by
  induction front generalizing above with
  | nil => exact h
  | cons line front ih => exact .kept line (ih h)

section Conditional

variable {env : Environment} {place : Files.Location} {content : Bytes} {patterns : List Text}

theorem LeavesOut.edited (h : LeavesOut env place content patterns) {name : Text}
    (hmatch : matchesPatterns name patterns = false) :
    ∃ old, env.files.node? place = some (.file old) ∧ EditedFile name old content := by
  obtain ⟨hfile, hold, hhost, hmiddle, hline, hnew⟩ := h
  obtain ⟨arguments, hline⟩ := (isInclude_iff _).mp hline
  refine ⟨_, hfile, ?_⟩
  rw [EditedFile, hold, hnew]
  apply Edited.append
  apply Edited.kept
  rw [hostAfter, hhost]
  apply Edited.append
  rw [foldl_hostAfter hmiddle]
  exact .hidden hline hmatch (.refl name _ _)

/-- An Include line below a Host line is invisible to the aliases that the Host line does not
match: without it the configuration loads with the same lookup. -/
theorem lookup_leavesOut (h : LeavesOut env place content patterns) {name : Text}
    (hmatch : matchesPatterns name patterns = false) {root : Path} {config : HostConfig}
    (hconfig : ofFile env root = .ok config) :
    ∃ config', ofFile (env.withContent place content) root = .ok config' ∧
      config'.lookup name = config.lookup name := by
  obtain ⟨old, hfile, hedited⟩ := h.edited hmatch
  exact lookup_edited (Files.Tree.alike_setContent hfile hedited) hconfig

/-- The Include line is in an included file, and the file that it names has a Host line for every
alias and lines above it. -/
def conditionalSample : Environment := sampleEnvironment
  [sampleFile "config".toList "Include inc\nHost *\n  User last\n",
    sampleFile "inc".toList "Host a\n  Port 22\n  Include deep\n  HostName far\n",
    sampleFile "deep".toList "User first\nHost *\n  HostName near\n"]

def unconditional : Bytes := Utf8.encode "Host a\n  Port 22\n  HostName far\n".toList

theorem conditionalSample_leavesOut :
    matchesPatterns "b".toList ["a".toList] = false ∧ ∃ config config',
      ofFile conditionalSample samplePath = .ok config ∧
      ofFile (conditionalSample.withContent includedPlace unconditional) samplePath
        = .ok config' ∧
      config'.lookup "b".toList = config.lookup "b".toList := by
  have hmatch : matchesPatterns "b".toList ["a".toList] = false := by decide +kernel
  have hport : Statement.ofLine "  Port 22".toList
      = .ok (some (.directive ⟨"port".toList, "22".toList⟩)) := by
    decide +kernel
  have hleaves : LeavesOut conditionalSample includedPlace unconditional ["a".toList] := by
    apply @LeavesOut.intro _ _ _ _
      (Utf8.encode "Host a\n  Port 22\n  Include deep\n  HostName far\n".toList) []
      ["  Port 22".toList] ["  HostName far".toList] "Host a".toList "  Include deep".toList
    · decide +kernel
    · decide +kernel
    · decide +kernel
    · intro l hl others
      rw [List.mem_singleton.mp hl, hport]
      simp
    · decide +kernel
    · decide +kernel
  have hloads : (ofFile conditionalSample samplePath).isOk = true := by decide +kernel
  cases hconfig : ofFile conditionalSample samplePath with
  | error e =>
      rw [hconfig] at hloads
      cases hloads
  | ok config =>
      obtain ⟨config', hload, hlookup⟩ := lookup_leavesOut hleaves hmatch hconfig
      exact ⟨hmatch, config, config', rfl, hload, hlookup⟩

end Conditional

end SshTunnel.HostConfig
