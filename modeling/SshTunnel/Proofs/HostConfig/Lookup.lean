import SshTunnel.HostConfig.Entry
import SshTunnel.Proofs.HostConfig.Loaded
import Mathlib.Data.List.Nodup

/-!
# What a lookup surfaces

The directives that apply to an alias are the lines of the reading whose governing Host lines
all match it: each of them counts, as often as it is read, and no other. They take effect in
the order of their places, and within a place in reading order. So a field surfaces the first
line of the reading just when no line of an earlier place overtakes it.
-/

namespace SshTunnel.HostConfig

/-- The values of a keyword on the lines of a reading whose governing Host lines all match a
name, in reading order. -/
def Reading.values (r : Reading) (name keyword : Text) : List Text :=
  ((r.lines [] none).filter fun g =>
    g.scope.covers name && g.directive.keyword = keyword).map (·.directive.value)

/-- The lines of a keyword in a root file whose governing Host lines all match a name, in
reading order, with the places where they are filed. The table for every alias has the number
zero. -/
def Reading.placed (r : Reading) (name keyword : Text) : List Filed :=
  (r.filed [] none 0 1).filter fun a =>
    a.scope.covers name && a.directive.keyword = keyword

theorem Reading.placed_values (r : Reading) (name keyword : Text) :
    (r.placed name keyword).map (·.directive.value) = r.values name keyword := by
  rw [values, ← r.filed_lines [] none 0 1, List.filter_map, List.map_map]
  rfl

/-! ## Lines in the order of their places -/

/-- The place of `a` is not behind that of `b`. -/
def byPlace (a b : Filed) : Bool := decide (a.place ≤ b.place)

theorem byPlace_trans (a b c : Filed) (hab : byPlace a b = true) (hbc : byPlace b c = true) :
    byPlace a c = true := by
  simp only [byPlace, decide_eq_true_eq] at *
  omega

theorem byPlace_total (a b : Filed) : (byPlace a b || byPlace b a) = true := by
  simp only [byPlace, Bool.or_eq_true, decide_eq_true_eq]
  omega

/-- Sorting by place keeps the lines of each place in their order. -/
theorem sameFiling_mergeSort (L : List Filed) : SameFiling L (L.mergeSort byPlace) := by
  intro n
  have hsorted : (L.filter (fun a => a.place = n)).Pairwise (fun a b => byPlace a b = true) := by
    rw [List.pairwise_filter]
    apply List.pairwise_of_forall
    intro a b ha hb
    simp only [decide_eq_true_eq] at ha hb
    simp [byPlace, ha, hb]
  have hsub := List.sublist_mergeSort byPlace_trans byPlace_total hsorted List.filter_sublist
  have hsub' := hsub.filter (fun a => a.place = n)
  simp only [List.filter_filter, Bool.and_self] at hsub'
  apply hsub'.eq_of_length
  exact (((List.mergeSort_perm L byPlace).filter _).length_eq).symm

/-- Lists in the order of their places with the same lines in each place are equal. -/
theorem SameFiling.eq_of_sorted {L M : List Filed} (h : SameFiling L M)
    (hL : L.Pairwise (fun a b => a.place ≤ b.place))
    (hM : M.Pairwise (fun a b => a.place ≤ b.place)) : L = M := by
  induction L generalizing M with
  | nil => exact h.perm.nil_eq
  | cons a L ih =>
      cases M with
      | nil => exact h.perm.eq_nil
      | cons b M =>
          rw [List.pairwise_cons] at hL hM
          have hplace : a.place = b.place := by
            apply Nat.le_antisymm
            · rcases List.mem_cons.mp (h.perm.mem_iff.mpr (List.mem_cons_self (a := b))) with
                heq | hb
              · exact Nat.le_of_eq (congrArg Filed.place heq).symm
              · exact hL.1 b hb
            · rcases List.mem_cons.mp (h.perm.mem_iff.mp (List.mem_cons_self (a := a))) with
                heq | ha
              · exact Nat.le_of_eq (congrArg Filed.place heq).symm
              · exact hM.1 a ha
          have hhead := h a.place
          rw [List.filter_cons_of_pos (by simp), List.filter_cons_of_pos (by simp [hplace]),
            List.cons.injEq] at hhead
          obtain ⟨rfl, -⟩ := hhead
          have htail : SameFiling L M := by
            intro n
            have hn := h n
            rw [List.filter_cons, List.filter_cons] at hn
            split at hn
            · exact (List.cons.inj hn).2
            · exact hn
          rw [ih htail hL.2 hM.2]

/-! ## Contents under their places -/

theorem sectionsFiled_sorted (n : Nat) (xs : List Section) :
    (sectionsFiled n xs).Pairwise (fun a b => a.place ≤ b.place) := by
  induction xs generalizing n with
  | nil => exact List.Pairwise.nil
  | cons s xs ih =>
      rw [sectionsFiled, List.pairwise_append]
      refine ⟨?_, ih (n + 1), ?_⟩
      · rw [Section.filed, List.pairwise_map]
        exact List.pairwise_of_forall fun _ _ => Nat.le_refl n
      · intro a ha b hb
        obtain ⟨d, -, rfl⟩ := List.mem_map.mp ha
        have hlow := (place_of_mem_sectionsFiled hb).1
        show n ≤ b.place
        omega

/-- The contents of a root file lie in the order of their places. -/
theorem Contents.filed_sorted (c : Contents) :
    (c.filed [] 0 1).Pairwise (fun a b => a.place ≤ b.place) := by
  rw [Contents.filed, List.pairwise_append]
  refine ⟨?_, sectionsFiled_sorted 1 c.sections, ?_⟩
  · rw [List.pairwise_map]
    exact List.pairwise_of_forall fun _ _ => Nat.le_refl 0
  · intro a ha b hb
    obtain ⟨d, -, rfl⟩ := List.mem_map.mp ha
    exact Nat.zero_le b.place

theorem valuesOf_section (s : Section) (n : Nat) (name keyword : Text) :
    ((s.filed n).filter fun a => a.scope.covers name && a.directive.keyword = keyword).map
        (·.directive.value)
      = if s.scope.covers name then valuesOf keyword s.directives else [] := by
  rw [Section.filed, List.filter_map, List.map_map]
  cases hcovers : s.scope.covers name <;> simp [hcovers, valuesOf, Function.comp_def]

theorem valuesOf_append (keyword : Text) (ds es : List Directive) :
    valuesOf keyword (ds ++ es) = valuesOf keyword ds ++ valuesOf keyword es := by
  rw [valuesOf, List.filter_append, List.map_append]
  rfl

theorem valuesOf_sections (n : Nat) (xs : List Section) (name keyword : Text) :
    valuesOf keyword ((xs.filter (·.scope.covers name)).flatMap (·.directives))
      = ((sectionsFiled n xs).filter fun a =>
          a.scope.covers name && a.directive.keyword = keyword).map (·.directive.value) := by
  induction xs generalizing n with
  | nil => rfl
  | cons s xs ih =>
      rw [sectionsFiled, List.filter_append, List.map_append, ← ih, valuesOf_section,
        List.filter_cons]
      split
      · rw [List.flatMap_cons, valuesOf_append]
      · rfl

/-- The directives that apply to a name are those whose pattern lists match it. -/
theorem valuesOf_applying (c : Contents) (name keyword : Text) :
    valuesOf keyword (c.applying name)
      = ((c.filed [] 0 1).filter fun a =>
          a.scope.covers name && a.directive.keyword = keyword).map (·.directive.value) := by
  rw [Contents.applying, valuesOf_append, valuesOf_sections 1, Contents.filed,
    List.filter_append, List.map_append, List.filter_map, List.map_map]
  simp [valuesOf, Scope.covers, Function.comp_def]

/-! ## Lookups -/

section Lookup

variable {env : Environment} {path : Path} {config : HostConfig}

/-- The loaded contents of a root file hold its lines at their places. -/
theorem sameFiling_of_ofFile (h : ofFile env path = .ok config) :
    SameFiling ((reading env maxIncludeDepth path.text).filed [] none 0 1)
      (config.contents.filed [] 0 1) := by
  rw [ofFile] at h
  cases hload : load env maxIncludeDepth [] path.text with
  | error e =>
      rw [hload] at h
      cases h
  | ok c =>
      rw [hload] at h
      cases h
      exact (holds_of_load hload).2 0 1 Nat.zero_lt_one

/-- A lookup sees the values of a keyword in the order of their places. -/
theorem valuesOf_lookup (h : ofFile env path = .ok config) (name keyword : Text) :
    valuesOf keyword (config.contents.applying name)
      = (((reading env maxIncludeDepth path.text).placed name keyword).mergeSort byPlace).map
          (·.directive.value) := by
  rw [valuesOf_applying]
  apply congrArg
  apply SameFiling.eq_of_sorted
  · have hsame := (sameFiling_of_ofFile h).filter fun a =>
      a.scope.covers name && a.directive.keyword = keyword
    exact (SameFiling.symm hsame).trans (sameFiling_mergeSort _)
  · exact config.contents.filed_sorted.filter _
  · have hsorted := List.pairwise_mergeSort byPlace_trans byPlace_total
      ((reading env maxIncludeDepth path.text).placed name keyword)
    exact hsorted.imp fun hab => by simpa [byPlace] using hab

/-- The first line that no line of the list undercuts with an earlier place. -/
def leading? (L : List Filed) : Option Filed := L.find? fun a => L.all (byPlace a)

/-- It comes first in the order of places. -/
theorem head?_mergeSort (L : List Filed) : (L.mergeSort byPlace).head? = leading? L := by
  have hsame := sameFiling_mergeSort L
  have hperm := List.mergeSort_perm L byPlace
  have hsorted := List.pairwise_mergeSort byPlace_trans byPlace_total L
  cases hsort : L.mergeSort byPlace with
  | nil =>
      rw [hsort] at hperm
      rw [hperm.nil_eq.symm]
      rfl
  | cons a S =>
      rw [hsort] at hperm hsorted hsame
      rw [List.pairwise_cons] at hsorted
      have hleast : ∀ b ∈ L, a.place ≤ b.place := by
        intro b hb
        rcases List.mem_cons.mp (hperm.mem_iff.mpr hb) with rfl | hb
        · exact Nat.le_refl _
        · simpa [byPlace] using hsorted.1 b hb
      have ha : a ∈ L := hperm.mem_iff.mp List.mem_cons_self
      have hplace : ∀ b ∈ L, L.all (byPlace b) = decide (b.place = a.place) := by
        intro b hb
        have hle := hleast b hb
        rw [Bool.eq_iff_iff, List.all_eq_true, decide_eq_true_eq]
        simp only [byPlace, decide_eq_true_eq]
        constructor
        · intro hall
          have hge := hall a ha
          omega
        · intro heq c hc
          have hc' := hleast c hc
          omega
      calc (a :: S).head? = ((a :: S).filter fun b => b.place = a.place).head? := by
            rw [List.filter_cons_of_pos (by simp), List.head?_cons, List.head?_cons]
        _ = (L.filter fun b => b.place = a.place).head? := by rw [hsame a.place]
        _ = (L.filter fun b => L.all (byPlace b)).head? := by rw [List.filter_congr hplace]
        _ = leading? L := by rw [List.head?_filter, leading?]

/-- First match wins: each field has the first value of its keyword in reading order, and
the identity files are all of them in that order. -/
structure FirstWins (r : Reading) (name : Text) (e : HostEntry) : Prop where
  hostname : e.hostname = (r.values name "hostname".toList).headD []
  user : e.user = (r.values name "user".toList).headD []
  port : e.port = (r.values name "port".toList).headD []
  identityFile : e.identityFile = (r.values name "identityfile".toList).headD []
  identityFiles : e.identityFiles = r.values name "identityfile".toList

/-- No line that counts is overtaken: the line that leads by its place has the value of the
first one, and the identity files stay in order when they are sorted by place. -/
structure Undisturbed (r : Reading) (name : Text) : Prop where
  leading : ∀ keyword ∈ ["hostname".toList, "user".toList, "port".toList],
    ∀ a ∈ (r.placed name keyword).head?, ∀ b ∈ leading? (r.placed name keyword),
      b.directive.value = a.directive.value
  identityFiles : ((r.placed name "identityfile".toList).mergeSort byPlace).map
      (·.directive.value) = (r.placed name "identityfile".toList).map (·.directive.value)

/-- Lines that lie in the order of their places are not overtaken. -/
theorem undisturbed_of_pairwise (r : Reading) (name : Text)
    (h : ((r.filed [] none 0 1).filter (·.scope.covers name)).Pairwise
      fun a b => a.place ≤ b.place) : Undisturbed r name := by
  have hsort : ∀ keyword, (r.placed name keyword).mergeSort byPlace = r.placed name keyword := by
    intro keyword
    apply List.mergeSort_of_pairwise
    have hplaced : r.placed name keyword
        = ((r.filed [] none 0 1).filter (·.scope.covers name)).filter
            (fun a => a.directive.keyword = keyword) := by
      rw [List.filter_filter, Reading.placed]
      exact List.filter_congr fun a _ => Bool.and_comm _ _
    rw [hplaced]
    exact (h.filter _).imp fun hab => by simpa [byPlace] using hab
  refine ⟨?_, by rw [hsort]⟩
  rintro keyword - a ha b hb
  rw [← head?_mergeSort, hsort] at hb
  rw [Option.mem_unique ha hb]

/-- A field surfaces the first value in reading order, unless a line with another value
leads. -/
theorem headD_lookup_iff (h : ofFile env path = .ok config) (name keyword : Text) :
    (valuesOf keyword (config.contents.applying name)).headD []
        = ((reading env maxIncludeDepth path.text).values name keyword).headD [] ↔
      ∀ a ∈ ((reading env maxIncludeDepth path.text).placed name keyword).head?,
        ∀ b ∈ leading? ((reading env maxIncludeDepth path.text).placed name keyword),
          b.directive.value = a.directive.value := by
  rw [valuesOf_lookup h, ← Reading.placed_values]
  generalize (reading env maxIncludeDepth path.text).placed name keyword = L
  rw [← head?_mergeSort]
  have hperm := List.mergeSort_perm L byPlace
  cases L with
  | nil =>
      rw [hperm.eq_nil]
      simp
  | cons a L =>
      cases hsort : (a :: L).mergeSort byPlace with
      | nil =>
          rw [hsort] at hperm
          cases hperm.nil_eq
      | cons b S => simp

theorem identityFiles_lookup (h : ofFile env path = .ok config) (name : Text) :
    (config.lookup name).identityFiles
      = (((reading env maxIncludeDepth path.text).placed name
          "identityfile".toList).mergeSort byPlace).map (·.directive.value) :=
  valuesOf_lookup h name "identityfile".toList

theorem firstWins_of_undisturbed (h : ofFile env path = .ok config) {name : Text}
    (hcalm : Undisturbed (reading env maxIncludeDepth path.text) name) :
    FirstWins (reading env maxIncludeDepth path.text) name (config.lookup name) := by
  have hfiles : (config.lookup name).identityFiles
      = (reading env maxIncludeDepth path.text).values name "identityfile".toList := by
    rw [identityFiles_lookup h, hcalm.identityFiles, Reading.placed_values]
  have hfield : ∀ keyword ∈ ["hostname".toList, "user".toList, "port".toList],
      (valuesOf keyword (config.contents.applying name)).headD []
        = ((reading env maxIncludeDepth path.text).values name keyword).headD [] := by
    intro keyword hkeyword
    rw [headD_lookup_iff h]
    exact hcalm.leading keyword hkeyword
  exact
    { hostname := hfield _ (by simp)
      user := hfield _ (by simp)
      port := hfield _ (by simp)
      identityFile := congrArg (List.headD · []) hfiles
      identityFiles := hfiles }

theorem undisturbed_of_firstWins (h : ofFile env path = .ok config) {name : Text}
    (hwins : FirstWins (reading env maxIncludeDepth path.text) name (config.lookup name)) :
    Undisturbed (reading env maxIncludeDepth path.text) name := by
  constructor
  · intro keyword hkeyword
    rw [← headD_lookup_iff h]
    simp only [List.mem_cons, List.not_mem_nil, or_false] at hkeyword
    rcases hkeyword with rfl | rfl | rfl
    · exact hwins.hostname
    · exact hwins.user
    · exact hwins.port
  · rw [← identityFiles_lookup h, hwins.identityFiles, Reading.placed_values]

/-- First match wins for an alias just when no line that counts is overtaken. -/
theorem lookup_firstWins_iff (h : ofFile env path = .ok config) (name : Text) :
    FirstWins (reading env maxIncludeDepth path.text) name (config.lookup name) ↔
      Undisturbed (reading env maxIncludeDepth path.text) name := by
  constructor
  · intro hwins
    exact undisturbed_of_firstWins h hwins
  · intro hcalm
    exact firstWins_of_undisturbed h hcalm

/-- A file of the sample trees, in the per-user directory. -/
def sampleFile (name : Text) (t : String) : Files.Location × Files.Node :=
  (["h".toList, ".ssh".toList, name], .file (Utf8.encode t.toList))

def samplePath : Path := Path.ofText "/h/.ssh/config".toList

def sampleEnvironment (files : List (Files.Location × Files.Node)) : Environment :=
  { files :=
      { nodes := [(["h".toList], .directory), (["h".toList, ".ssh".toList], .directory)] ++ files
        workingDirectory := [] }
    home := some "/h".toList
    accountHome := "/".toList
    debug := none }

/-- Behind its Include line the file goes on in the table for every alias, which comes before
the section of the included file. -/
def overtakenSample : Environment := sampleEnvironment
  [sampleFile "config".toList "Include inc\nHostName late\n",
    sampleFile "inc".toList "Host a\n  HostName early\n"]

/-- The included file begins with a Host line. -/
def nestedSample : Environment := sampleEnvironment
  [sampleFile "config".toList "Host a\n  IdentityFile x\n  Include i*\n  IdentityFile z\n",
    sampleFile "inc".toList "Host b\n  IdentityFile w\nHost *\n  IdentityFile y\n"]

theorem lookup_overtaken : ∃ config, ofFile overtakenSample samplePath = .ok config ∧
    (config.lookup "a".toList).hostname = "late".toList ∧
    (reading overtakenSample maxIncludeDepth samplePath.text).values "a".toList
        "hostname".toList = ["early".toList, "late".toList] ∧
    ¬ FirstWins (reading overtakenSample maxIncludeDepth samplePath.text) "a".toList
        (config.lookup "a".toList) := by
  have hload : ofFile overtakenSample samplePath = .ok
      { path := samplePath
        contents :=
          { top := [⟨"hostname".toList, "late".toList⟩]
            sections := [⟨[["a".toList]], [⟨"hostname".toList, "early".toList⟩]⟩] } } := by
    decide +kernel
  have hvalues : (reading overtakenSample maxIncludeDepth samplePath.text).values "a".toList
      "hostname".toList = ["early".toList, "late".toList] := by
    decide +kernel
  refine ⟨_, hload, by decide +kernel, hvalues, ?_⟩
  intro hwins
  have hhost := hwins.hostname
  rw [hvalues] at hhost
  revert hhost
  decide +kernel

theorem nestedSample_loads : ∃ config, ofFile nestedSample samplePath = .ok config := by
  have hload : (ofFile nestedSample samplePath).isOk = true := by decide +kernel
  cases h : ofFile nestedSample samplePath with
  | error e =>
      rw [h] at hload
      cases hload
  | ok config => exact ⟨config, rfl⟩

theorem lookup_firstWins_nested : ∃ config, ofFile nestedSample samplePath = .ok config ∧
    FirstWins (reading nestedSample maxIncludeDepth samplePath.text) "a".toList
      (config.lookup "a".toList) := by
  obtain ⟨config, h⟩ := nestedSample_loads
  refine ⟨config, h, (lookup_firstWins_iff h "a".toList).mpr ?_⟩
  apply undisturbed_of_pairwise
  decide +kernel

/-- Includes lose no line, duplicate none and let none out from under its Host lines. -/
theorem lookup_perm_values (h : ofFile env path = .ok config) (name : Text) :
    let r := reading env maxIncludeDepth path.text
    let e := config.lookup name
    e.identityFiles.Perm (r.values name "identityfile".toList) ∧
      ∀ field ∈ [(e.hostname, "hostname".toList), (e.user, "user".toList),
          (e.port, "port".toList)],
        (r.values name field.2 ≠ [] → field.1 ∈ r.values name field.2) ∧
          (r.values name field.2 = [] → field.1 = []) := by
  intro r e
  have hvalues : ∀ keyword, (valuesOf keyword (config.contents.applying name)).Perm
      (r.values name keyword) := by
    intro keyword
    rw [valuesOf_lookup h, ← Reading.placed_values]
    exact (List.mergeSort_perm _ _).map _
  have hfield : ∀ keyword value,
      value = (valuesOf keyword (config.contents.applying name)).headD [] →
      (r.values name keyword ≠ [] → value ∈ r.values name keyword) ∧
        (r.values name keyword = [] → value = []) := by
    rintro keyword value rfl
    rw [← (hvalues keyword).mem_iff, ← List.length_pos_iff, ← (hvalues keyword).length_eq,
      ← List.length_eq_zero_iff, ← (hvalues keyword).length_eq]
    cases valuesOf keyword (config.contents.applying name) <;> simp
  refine ⟨hvalues _, ?_⟩
  intro field hfound
  simp only [List.mem_cons, List.not_mem_nil, or_false] at hfound
  rcases hfound with rfl | rfl | rfl <;> exact hfield _ _ rfl

theorem lookup_perm_nested : ∃ config, ofFile nestedSample samplePath = .ok config ∧
    (config.lookup "a".toList).identityFiles.Perm ["x".toList, "y".toList, "z".toList] := by
  obtain ⟨config, h⟩ := nestedSample_loads
  have hvalues : (reading nestedSample maxIncludeDepth samplePath.text).values "a".toList
      "identityfile".toList = ["x".toList, "y".toList, "z".toList] := by
    decide +kernel
  refine ⟨config, h, ?_⟩
  rw [← hvalues]
  exact (lookup_perm_values h "a".toList).1

end Lookup

end SshTunnel.HostConfig
