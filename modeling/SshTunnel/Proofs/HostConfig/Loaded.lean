import SshTunnel.Proofs.HostConfig.Filing

/-!
# Loaded contents hold their reading

Each kind of line is one step, which takes the lines of a reading up to it into the contents.
The run over the lines of a file and the descent into included files are put together from
these steps.
-/

namespace SshTunnel.HostConfig

/-- The contents hold the lines of a reading, each at its place. -/
def Holds (outer : Scope) (r : Reading) (c : Contents) : Prop :=
  c.sections.length = r.opened outer none ∧
    ∀ place fresh, place < fresh →
      SameFiling (r.filed outer none place fresh) (c.filed outer place fresh)

/-- The part of a reading that an Include line brings in, in front of the rest of the file. -/
def Brings (scope : Scope) (c : Contents) (r rest : Reading) : Prop :=
  ∀ outer above, scope = outer ++ above.toList →
    r.opened outer above = c.sections.length + rest.opened outer above ∧
    ∀ place fresh, place < fresh → ∃ L,
      r.filed outer above place fresh
        = L ++ rest.filed outer above place (fresh + c.sections.length) ∧
      SameFiling L (c.filed scope place fresh)

/-- The files of an Include line are held one behind the other. -/
theorem brings_ofItems {scope : Scope} {load : Text → Except LoadError Contents}
    {body : Text → Reading}
    (hload : ∀ path c, load path = .ok c → Holds scope (body path) c) (rest : Reading)
    {items : List (Except LoadError Text)} {c : Contents}
    (h : gather (loadItem load) items = .ok c) :
    Brings scope c (Reading.ofItems body rest items) (.resume rest) := by
  induction items generalizing c with
  | nil =>
      cases h
      rintro outer above -
      refine ⟨by simp [Reading.ofItems, Contents.empty], fun place fresh _ => ⟨[], ?_, ?_⟩⟩
      · simp [Reading.ofItems, Contents.empty]
      · exact SameFiling.refl []
  | cons item items ih =>
      cases item with
      | error e => cases h
      | ok path =>
          obtain ⟨a, b, hfirst, hmore, rfl⟩ := gather_cons_eq_ok.mp h
          obtain ⟨hlength, hheld⟩ := hload path a hfirst
          rintro outer above rfl
          obtain ⟨hopened, hbrings⟩ := ih hmore outer above rfl
          have hsum : (a.append b).sections.length
              = a.sections.length + b.sections.length := by
            rw [Contents.append, List.length_append]
          refine ⟨?_, fun place fresh hplace => ?_⟩
          · rw [Reading.ofItems, Reading.opened, hopened, ← hlength, hsum]
            omega
          · obtain ⟨L, hL, hsame⟩ := hbrings place (fresh + a.sections.length) (by omega)
            refine ⟨(body path).filed (outer ++ above.toList) none place fresh ++ L, ?_, ?_⟩
            · rw [Reading.ofItems, Reading.filed, ← hlength, hL, hsum, List.append_assoc,
                Nat.add_assoc]
            · have hfirst' := hheld place fresh hplace
              exact (hfirst'.append hsame).trans (filed_append hplace _ a b)

/-- Reading on from `p` leads to `q`: the lines of the reading are filed from the place under
way on. -/
def Reads (outer : Scope) (above : Option (List Text)) (r : Reading) (p q : Progress) : Prop :=
  q.contents.sections.length = p.contents.sections.length + r.opened outer above ∧
    ∀ place fresh, place < fresh →
      SameFiling
        (p.filed outer place fresh
          ++ r.filed outer above (p.place place fresh) (fresh + p.contents.sections.length))
        (q.filed outer place fresh)

namespace Reads

variable {outer : Scope} {above : Option (List Text)} {r rest : Reading} {p q : Progress}

theorem done (p : Progress) : Reads outer above .done p p := by
  refine ⟨rfl, fun place fresh _ => ?_⟩
  rw [Reading.filed, List.append_nil]
  exact SameFiling.refl _

theorem host {patterns : List Text}
    (h : Reads outer (some patterns) r (p.openSection (outer ++ [patterns])) q) :
    Reads outer above (.host patterns r) p q := by
  obtain ⟨hlength, hfiled⟩ := h
  refine ⟨?_, fun place fresh hplace => ?_⟩
  · rw [hlength, Progress.openSection, List.length_append, List.length_singleton,
      Reading.opened]
    omega
  · have hnext := hfiled place fresh hplace
    rw [Progress.openSection_filed, Progress.openSection_place, Progress.openSection,
      List.length_append, List.length_singleton, ← Nat.add_assoc] at hnext
    exact hnext

theorem directive {d : Directive} (hp : p.Stands outer above)
    (h : Reads outer above r (p.add [d]) q) : Reads outer above (.directive d r) p q := by
  obtain ⟨hlength, hfiled⟩ := h
  rw [hp.add_length] at hlength
  refine ⟨hlength, fun place fresh hplace => ?_⟩
  have hnext := hfiled place fresh hplace
  rw [hp.add_length, hp.add_place] at hnext
  rw [Reading.filed, List.append_cons]
  exact ((hp.add_filed hplace [d]).append (SameFiling.refl _)).trans hnext

theorem files {c : Contents} (hp : p.Stands outer above)
    (hb : Brings (p.scope outer) c r (.resume rest))
    (h : Reads outer above rest (p.takeIn outer c) q) : Reads outer above r p q := by
  obtain ⟨hlength, hfiled⟩ := h
  obtain ⟨hopened, hbrings⟩ := hb outer above hp.scope
  rw [hp.takeIn_length] at hlength
  refine ⟨?_, fun place fresh hplace => ?_⟩
  · rw [hlength, hopened, Reading.opened]
    split <;> omega
  · obtain ⟨L, hL, hsame⟩ := hbrings _ _ (hp.place_lt hplace)
    rw [hp.scope] at hsame
    have hnext := hfiled place fresh hplace
    rw [hp.takeIn_place, hp.takeIn_length] at hnext
    have hbrought : SameFiling (p.filed outer place fresh ++ L)
        ((p.takeIn outer c).filed outer place fresh) :=
      ((SameFiling.refl _).append hsame).trans (hp.takeIn_filed hplace c)
    rw [hL, Reading.filed, ← List.append_assoc]
    refine (hbrought.append (SameFiling.refl _)).trans ?_
    by_cases hevery : outer = [] ∧ above = none
    · simpa only [if_pos hevery, Nat.add_assoc] using hnext
    · simpa only [if_neg hevery, Nat.add_assoc] using hnext

end Reads

/-- A run over the lines of a file reads their reading. -/
theorem reads_of_readLines {path : Text} {outer : Scope}
    {includes : Scope → Nat → Text → Except LoadError Contents}
    {bring : Nat → Text → Reading → Reading}
    (hbring : ∀ scope number arguments c rest, includes scope number arguments = .ok c →
      Brings scope c (bring number arguments rest) (.resume rest))
    {lines : List (Nat × Text)} {above : Option (List Text)} {p q : Progress}
    (hp : p.Stands outer above) (h : readLines path outer includes p lines = .ok q) :
    Reads outer above (Reading.ofLines path bring lines) p q := by
  induction lines generalizing p above with
  | nil =>
      cases h
      exact Reads.done q
  | cons numbered lines ih =>
      obtain ⟨number, line⟩ := numbered
      rw [readLines] at h
      rw [Reading.ofLines]
      cases hline : Statement.ofLine line with
      | error problem => simp only [hline, reduceCtorEq] at h
      | ok statement =>
          simp only [hline] at h
          rcases statement with - | patterns | arguments | d
          · exact ih hp h
          · exact Reads.host (ih (Progress.Stands.openSection p outer patterns) h)
          · cases hinc : includes (p.scope outer) number arguments with
            | error e => simp only [hinc, reduceCtorEq] at h
            | ok c =>
                simp only [hinc] at h
                exact Reads.files hp (hbring _ number arguments c _ hinc)
                  (ih (hp.takeIn c) h)
          · exact Reads.directive hp (ih (hp.add [d]) h)

theorem holds_of_readFile {files : Files.Tree} {outer : Scope} {path : Text} {c : Contents}
    {includes : Text → Scope → Nat → Text → Except LoadError Contents}
    {bring : Text → Nat → Text → Reading → Reading}
    (hbring : ∀ path scope number arguments c rest,
      includes path scope number arguments = .ok c →
        Brings scope c (bring path number arguments rest) (.resume rest))
    (h : readFile files includes outer path = .ok c) :
    Holds outer (Reading.ofFile files bring path) c := by
  rw [readFile] at h
  rw [Reading.ofFile]
  by_cases hnul : path.contains Files.nul = true
  · rw [if_pos hnul] at h
    cases h
  · rw [if_neg hnul] at h ⊢
    cases hread : files.read path with
    | error e =>
        rw [hread] at h
        cases h
        exact ⟨rfl, fun _ _ _ => SameFiling.refl []⟩
    | ok content =>
        rw [hread] at h
        simp only [readText] at h
        cases hlines : readLines path outer (includes path) Progress.start
            (Text.numberedLines (textOf content)) with
        | error e =>
            rw [hlines] at h
            cases h
        | ok q =>
            rw [hlines] at h
            cases h
            obtain ⟨hlength, hfiled⟩ :=
              reads_of_readLines (hbring path) (Progress.Stands.start outer) hlines
            refine ⟨by simpa [Progress.start, Contents.empty] using hlength, ?_⟩
            intro place fresh hplace
            simpa [Progress.start, Progress.filed, Progress.place, Contents.filed,
              Contents.empty, sectionsFiled] using hfiled place fresh hplace

/-- Whatever is loaded holds the lines of its reading. -/
theorem holds_of_load {env : Environment} {depth : Nat} {outer : Scope} {path : Text}
    {c : Contents} (h : load env depth outer path = .ok c) :
    Holds outer (reading env depth path) c := by
  induction depth generalizing outer path c with
  | zero =>
      apply holds_of_readFile _ h
      intro path scope number arguments c rest hinc
      cases hinc
  | succ depth ih =>
      apply holds_of_readFile _ h
      intro path scope number arguments c rest hinc
      rw [readIncluded_eq] at hinc
      exact brings_ofItems (fun path c => ih) rest hinc

end SshTunnel.HostConfig
