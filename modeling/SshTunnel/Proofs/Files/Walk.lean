import SshTunnel.Files.Expand
import SshTunnel.Proofs.Path
import Mathlib.Data.List.Basic

/-!
# Walking down a path

What stands under a path stands in a directory under its own name: the walk to it comes through
that directory. So the parts of a present path are directories, and each of their names is listed
in the directory before it.
-/

namespace SshTunnel.Files

/-- A name as it can stand in a path that can be opened. -/
structure IsComponent (name : Text) : Prop where
  isName : Path.isName name = true
  no_slash : '/' ∉ name
  no_nul : nul ∉ name

/-- A name as it can stand in a directory. -/
structure IsEntry (name : Text) : Prop extends IsComponent name where
  not_parent : name ≠ ['.', '.']

instance (name : Text) : Decidable (IsComponent name) :=
  decidable_of_iff (Path.isName name = true ∧ '/' ∉ name ∧ nul ∉ name)
    ⟨fun h => ⟨h.1, h.2.1, h.2.2⟩, fun h => ⟨h.isName, h.no_slash, h.no_nul⟩⟩

instance (name : Text) : Decidable (IsEntry name) :=
  decidable_of_iff (IsComponent name ∧ name ≠ ['.', '.'])
    ⟨fun h => ⟨h.1, h.2⟩, fun h => ⟨h.toIsComponent, h.not_parent⟩⟩

namespace Tree

/-- Every name can stand in a directory, and no location occurs twice. -/
structure Tidy (t : Tree) : Prop where
  entries : ∀ entry ∈ t.nodes, ∀ name ∈ entry.1, IsEntry name
  distinct : (t.nodes.map Prod.fst).Nodup

instance (t : Tree) : Decidable t.Tidy :=
  decidable_of_iff ((∀ entry ∈ t.nodes, ∀ name ∈ entry.1, IsEntry name) ∧
      (t.nodes.map Prod.fst).Nodup)
    ⟨fun h => ⟨h.1, h.2⟩, fun h => ⟨h.entries, h.distinct⟩⟩

end Tree

theorem IsComponent.ne_nil {name : Text} (h : IsComponent name) : name ≠ [] := by
  rintro rfl
  cases h.isName

theorem IsComponent.isEmpty {name : Text} (h : IsComponent name) : name.isEmpty = false := by
  simpa using h.ne_nil

theorem IsComponent.ne_dot {name : Text} (h : IsComponent name) : name ≠ ['.'] := by
  rintro rfl
  cases h.isName

theorem isComponent_concat {names : List Text} {name : Text}
    (h : ∀ name ∈ names, IsComponent name) (hname : IsComponent name) :
    ∀ n ∈ names ++ [name], IsComponent n := by
  intro n hn
  rcases List.mem_append.mp hn with hn | hn
  · exact h n hn
  · rwa [List.mem_singleton.mp hn]

/-! ## The text of an absolute path -/

section Text

variable {start : Path.Start} {names : List Text} {name : Text}

theorem text_absolute (hstart : start ≠ .here) (names : List Text) :
    Path.text ⟨start, names⟩ = start.text ++ Text.join ['/'] names := by
  unfold Path.text
  split
  next h _ => exact absurd h hstart
  next => rfl

theorem join_concat (hne : names ≠ []) (name : Text) :
    Text.join ['/'] (names ++ [name]) = Text.join ['/'] names ++ '/' :: name := by
  induction names with
  | nil => exact absurd rfl hne
  | cons first more ih =>
      by_cases hmore : more = []
      · simp [hmore, Text.join]
      · rw [List.cons_append, Text.join_cons _ _ (by simp), ih hmore, Text.join_cons _ _ hmore,
          List.append_assoc, List.append_assoc, List.append_assoc]

theorem getLast?_join (hne : names ≠ []) (h : ∀ name ∈ names, IsComponent name) :
    ∃ c, (Text.join ['/'] names).getLast? = some c ∧ c ≠ '/' := by
  obtain ⟨front, last, rfl⟩ := (List.eq_nil_or_concat names).resolve_left hne
  rw [List.concat_eq_append] at h ⊢
  have hlast := h last (by simp)
  have hsame : (Text.join ['/'] (front ++ [last])).getLast? = last.getLast? := by
    by_cases hfront : front = []
    · simp [hfront, Text.join]
    · rw [join_concat hfront, List.append_cons, List.getLast?_append_of_ne_nil _ hlast.ne_nil]
  refine ⟨last.getLast hlast.ne_nil, ?_, ?_⟩
  · rw [hsame, List.getLast?_eq_some_getLast hlast.ne_nil]
  · intro heq
    exact hlast.no_slash (heq ▸ List.getLast_mem hlast.ne_nil)

/-- The text of a path ends with a slash only when it is nothing but slashes. -/
theorem getLast?_text (hstart : start ≠ .here) (h : ∀ name ∈ names, IsComponent name) :
    (Path.text ⟨start, names⟩).getLast? = some '/' ↔ names = [] := by
  rw [text_absolute hstart]
  constructor
  · intro hlast
    by_contra hne
    obtain ⟨c, hc, hslash⟩ := getLast?_join hne h
    have hjoin : Text.join ['/'] names ≠ [] := by
      intro hnil
      rw [hnil] at hc
      cases hc
    rw [List.getLast?_append_of_ne_nil _ hjoin, hc] at hlast
    exact hslash (Option.some.inj hlast)
  · rintro rfl
    cases start
    · exact absurd rfl hstart
    · rfl
    · rfl

theorem text_ne_nil (hstart : start ≠ .here) (names : List Text) :
    Path.text ⟨start, names⟩ ≠ [] := by
  rw [text_absolute hstart]
  cases start
  · exact absurd rfl hstart
  · exact List.cons_ne_nil _ _
  · exact List.cons_ne_nil _ _

/-- One name more in a path is a name inside a directory. -/
theorem inside_text (hstart : start ≠ .here) (h : ∀ name ∈ names, IsComponent name)
    (name : Text) :
    inside (Path.text ⟨start, names⟩) name = Path.text ⟨start, names ++ [name]⟩ := by
  have hempty : (Path.text ⟨start, names⟩).isEmpty = false := by
    simpa using text_ne_nil hstart names
  by_cases hne : names = []
  · have hslash := (getLast?_text hstart h).mpr hne
    rw [inside, if_pos (by simp [hslash]), text_absolute hstart, text_absolute hstart, hne]
    simp [Text.join]
  · have hslash := (getLast?_text hstart h).not.mpr hne
    rw [inside, if_neg (by simp [hempty, hslash]), text_absolute hstart, text_absolute hstart,
      join_concat hne, List.append_assoc]

theorem mem_text {c : Char} (hc : c ≠ '/') (hstart : start ≠ .here) :
    c ∈ Path.text ⟨start, names⟩ ↔ ∃ name ∈ names, c ∈ name := by
  rw [text_absolute hstart]
  have hslashes : c ∉ start.text := by cases start <;> simp [Path.Start.text, hc]
  have hjoin : c ∈ Text.join ['/'] names ↔ ∃ name ∈ names, c ∈ name := by
    induction names with
    | nil => simp [Text.join]
    | cons first more ih =>
        cases more with
        | nil => simp [Text.join]
        | cons next more =>
            rw [Text.join_cons _ _ (by simp), List.mem_append, List.mem_append, ih]
            simp [hc]
  simp [hslashes, hjoin]

theorem nul_notMem_text (hstart : start ≠ .here) (h : ∀ name ∈ names, IsComponent name) :
    nul ∉ Path.text ⟨start, names⟩ := by
  rw [mem_text (by decide) hstart]
  rintro ⟨name, hname, hmem⟩
  exact (h name hname).no_nul hmem

/-- A path is cut in front of its last name. -/
theorem splitLast_text (hstart : start ≠ .here) (h : ∀ name ∈ names, IsComponent name)
    (hname : IsComponent name) :
    splitLast (Path.text ⟨start, names ++ [name]⟩).reverse
      = (name.reverse, (Path.text ⟨start, names⟩).reverse) := by
  have hplain : ∀ c ∈ name.reverse, (decide (c ≠ '/')) = true := by
    intro c hc
    have hne : c ≠ '/' := by
      rintro rfl
      exact hname.no_slash (List.mem_reverse.mp hc)
    simp [hne]
  by_cases hne : names = []
  · subst hne
    have htext : (Path.text ⟨start, [] ++ [name]⟩).reverse
        = name.reverse ++ (Path.text ⟨start, []⟩).reverse := by
      rw [text_absolute hstart, text_absolute hstart]
      simp [Text.join]
    have hslashes : (Path.text ⟨start, []⟩).reverse = start.text := by
      rw [text_absolute hstart]
      cases start <;> rfl
    rw [htext, hslashes, splitLast, List.takeWhile_append_of_pos hplain,
      List.dropWhile_append_of_pos hplain]
    cases start
    · exact absurd rfl hstart
    · simp [Path.Start.text]
    · simp [Path.Start.text]
  · have htext : (Path.text ⟨start, names ++ [name]⟩).reverse
        = name.reverse ++ '/' :: (Path.text ⟨start, names⟩).reverse := by
      rw [text_absolute hstart, text_absolute hstart, join_concat hne]
      simp
    have hbare : (Path.text ⟨start, names⟩).reverse.dropWhile (· = '/')
        = (Path.text ⟨start, names⟩).reverse := by
      have hslash := (getLast?_text hstart h).not.mpr hne
      rw [List.getLast?_eq_head?_reverse] at hslash
      cases hback : (Path.text ⟨start, names⟩).reverse with
      | nil => rfl
      | cons c rest =>
          rw [hback] at hslash
          exact List.dropWhile_cons_of_neg (by simpa using hslash)
    have hfull : (Path.text ⟨start, names⟩).reverse.isEmpty = false := by
      simpa using text_ne_nil hstart names
    rw [htext, splitLast, List.takeWhile_append_of_pos hplain,
      List.dropWhile_append_of_pos hplain]
    simp [hbare, hfull]

end Text

namespace Tree

variable {t : Tree}

/-! ## Walks -/

/-- A name that leads from a directory to what stands under it. -/
structure IsStep (name : Text) : Prop where
  ne_nil : name ≠ []
  ne_dot : name ≠ ['.']
  not_parent : name ≠ ['.', '.']
  short : (Utf8.encode name).length ≤ maxNameBytes

/-- Walking down the names from a place, through at most so many links, ends at a location where
something stands. -/
inductive Walks (t : Tree) (goal : Goal) : Nat → Location → List Text → Location → Prop where
  | done {links : Nat} {place : Location} : Walks t goal links place [] place
  | stay {links : Nat} {place loc : Location} {name : Text} {rest : List Text}
      (hplace : t.node? place = some .directory) (hname : name = [] ∨ name = ['.'])
      (h : Walks t goal links place rest loc) : Walks t goal links place (name :: rest) loc
  | up {links : Nat} {place loc : Location} {rest : List Text}
      (hplace : t.node? place = some .directory)
      (h : Walks t goal links place.dropLast rest loc) :
      Walks t goal links place (['.', '.'] :: rest) loc
  | enter {links : Nat} {place loc : Location} {name : Text} {rest : List Text} {node : Node}
      (hplace : t.node? place = some .directory) (hname : IsStep name)
      (hnode : t.node? (place ++ [name]) = some node) (hplain : ∀ target, node ≠ .link target)
      (h : Walks t goal links (place ++ [name]) rest loc) :
      Walks t goal links place (name :: rest) loc
  | halt {links : Nat} {place : Location} {name target : Text}
      (hplace : t.node? place = some .directory) (hname : IsStep name)
      (hnode : t.node? (place ++ [name]) = some (.link target)) (hgoal : goal.follow = false) :
      Walks t goal links place [name] (place ++ [name])
  | follow {links : Nat} {place loc : Location} {name target : Text} {rest : List Text}
      (hplace : t.node? place = some .directory) (hname : IsStep name)
      (hnode : t.node? (place ++ [name]) = some (.link target))
      (hgoal : rest ≠ [] ∨ goal.follow = true)
      (h : Walks t goal links (route place target).1 ((route place target).2 ++ rest) loc) :
      Walks t goal (links + 1) place (name :: rest) loc

section Walk

variable {goal : Goal} {links : Nat} {place loc : Location} {names : List Text}

/-- What a descent that ends has done, when `links` links are left and those behind them are
walked as `follow` says. -/
theorem walks_of_descend (hgoal : goal.free = false)
    {follow : Location → List Text → Except Reason Location}
    (hfollow : ∀ place name target rest, t.node? place = some .directory → IsStep name →
      t.node? (place ++ [name]) = some (.link target) → (rest ≠ [] ∨ goal.follow = true) →
      follow (route place target).1 ((route place target).2 ++ rest) = .ok loc →
      Walks t goal links place (name :: rest) loc)
    (h : t.descend follow goal place names = .ok loc) : Walks t goal links place names loc := by
  have hopened : goal ≠ .opened := by
    rintro rfl
    cases hgoal
  induction names generalizing place with
  | nil =>
      cases h
      exact .done
  | cons name rest ih =>
      rw [descend] at h
      split at h
      next hplace =>
        split at h
        next hstay => exact .stay hplace (by simpa using hstay) (ih h)
        next hstay =>
          split at h
          next hup =>
            subst hup
            exact .up hplace (ih h)
          next hup =>
            rw [if_neg (by simp [hopened])] at h
            split at h
            next => cases h
            next hshort =>
              have hname : IsStep name := by
                simp only [Bool.or_eq_true, List.isEmpty_iff, decide_eq_true_eq, not_or] at hstay
                exact ⟨hstay.1, hstay.2, hup, Nat.le_of_not_lt hshort⟩
              split at h
              next => simp [hgoal] at h
              next target hnode =>
                split at h
                next hhalt =>
                  obtain ⟨hrest, hnofollow⟩ : rest = [] ∧ goal.follow = false := by
                    simpa using hhalt
                  subst hrest
                  cases h
                  exact .halt hplace hname hnode hnofollow
                next hhalt =>
                  refine hfollow place name target rest hplace hname hnode ?_ h
                  by_cases hrest : rest = []
                  · exact Or.inr (by simpa [hrest] using hhalt)
                  · exact Or.inl hrest
              next node hplain hnode =>
                exact .enter hplace hname hnode (by simpa using hplain) (ih h)
      next => cases h

theorem walk_eq_descend (t : Tree) (goal : Goal) (links : Nat) :
    ∃ follow, t.walk goal links = t.descend follow goal := by
  cases links with
  | zero => exact ⟨_, rfl⟩
  | succ links => exact ⟨_, rfl⟩

/-- A step from a directory to what stands under a name. -/
theorem descend_step {follow : Location → List Text → Except Reason Location} {name : Text}
    (hgoal : goal.free = false) (hplace : t.node? place = some .directory)
    (hname : IsStep name) (rest : List Text) :
    t.descend follow goal place (name :: rest) =
      match t.node? (place ++ [name]) with
      | none => .error .missing
      | some (.link target) =>
          if rest.isEmpty && !goal.follow then .ok (place ++ [name])
          else follow (route place target).1 ((route place target).2 ++ rest)
      | some _ => t.descend follow goal (place ++ [name]) rest := by
  have hopened : goal ≠ .opened := by
    rintro rfl
    cases hgoal
  rw [descend, if_pos hplace, if_neg (by simp [hname.ne_nil, hname.ne_dot]),
    if_neg hname.not_parent, if_neg (by simp [hopened]), if_neg (Nat.not_lt.mpr hname.short)]
  cases t.node? (place ++ [name]) with
  | none => simp [hgoal]
  | some node => cases node <;> rfl

/-- The walks that end are those of the lookup. -/
theorem walk_eq_ok_iff (hgoal : goal.free = false) :
    t.walk goal links place names = .ok loc ↔ Walks t goal links place names loc := by
  constructor
  · intro h
    induction links generalizing place names with
    | zero =>
        apply walks_of_descend hgoal _ h
        intro place name target rest _ _ _ _ herror
        cases herror
    | succ links ih =>
        apply walks_of_descend hgoal _ h
        intro place name target rest hplace hname hnode hgoal hwalk
        exact .follow hplace hname hnode hgoal (ih hwalk)
  · intro h
    induction h with
    | @done links place =>
        obtain ⟨follow, hwalk⟩ := walk_eq_descend t goal links
        rw [hwalk]
        rfl
    | @stay links place loc name rest hplace hname _ ih =>
        obtain ⟨follow, hwalk⟩ := walk_eq_descend t goal links
        rw [hwalk] at ih ⊢
        rw [descend, if_pos hplace, if_pos (by simpa using hname), ih]
    | @up links place loc rest hplace _ ih =>
        obtain ⟨follow, hwalk⟩ := walk_eq_descend t goal links
        rw [hwalk] at ih ⊢
        rw [descend, if_pos hplace, if_neg (by decide), if_pos rfl, ih]
    | @enter links place loc name rest node hplace hname hnode hplain _ ih =>
        obtain ⟨follow, hwalk⟩ := walk_eq_descend t goal links
        rw [hwalk] at ih ⊢
        rw [descend_step hgoal hplace hname, hnode]
        cases node with
        | directory => exact ih
        | file content => exact ih
        | link target => exact absurd rfl (hplain target)
    | @halt links place name target hplace hname hnode hhalt =>
        obtain ⟨follow, hwalk⟩ := walk_eq_descend t goal links
        rw [hwalk, descend_step hgoal hplace hname, hnode]
        simp [hhalt]
    | @follow links place loc name target rest hplace hname hnode hmore _ ih =>
        rw [walk, descend_step hgoal hplace hname, hnode]
        have hgo : (rest.isEmpty && !goal.follow) = false := by
          rcases hmore with hrest | hfollow
          · simp [hrest]
          · simp [hfollow]
        simp only [hgo, Bool.false_eq_true, if_false]
        exact ih

/-- A walk down a path with more names behind it comes to where these start. -/
theorem Walks.append {front rest : List Text} (h : Walks t goal links place (front ++ rest) loc)
    (hne : rest ≠ []) :
    ∃ mid links', Walks t .target links place front mid ∧ Walks t goal links' mid rest loc := by
  generalize hall : front ++ rest = names at h
  induction h generalizing front with
  | done => exact absurd (List.append_eq_nil_iff.mp hall).2 hne
  | @stay links place loc name more hplace hname h ih =>
      cases front with
      | nil =>
          subst hall
          exact ⟨place, links, .done, .stay hplace hname h⟩
      | cons first front =>
          obtain ⟨rfl, hmore⟩ := List.cons.inj hall
          obtain ⟨mid, links', hmid, hrest⟩ := ih hmore
          exact ⟨mid, links', .stay hplace hname hmid, hrest⟩
  | @up links place loc more hplace h ih =>
      cases front with
      | nil =>
          subst hall
          exact ⟨place, links, .done, .up hplace h⟩
      | cons first front =>
          obtain ⟨rfl, hmore⟩ := List.cons.inj hall
          obtain ⟨mid, links', hmid, hrest⟩ := ih hmore
          exact ⟨mid, links', .up hplace hmid, hrest⟩
  | @enter links place loc name more node hplace hname hnode hplain h ih =>
      cases front with
      | nil =>
          subst hall
          exact ⟨place, links, .done, .enter hplace hname hnode hplain h⟩
      | cons first front =>
          obtain ⟨rfl, hmore⟩ := List.cons.inj hall
          obtain ⟨mid, links', hmid, hrest⟩ := ih hmore
          exact ⟨mid, links', .enter hplace hname hnode hplain hmid, hrest⟩
  | @halt links place name target hplace hname hnode hgoal =>
      cases front with
      | nil =>
          subst hall
          exact ⟨place, links, .done, .halt hplace hname hnode hgoal⟩
      | cons first front =>
          obtain ⟨-, hmore⟩ := List.cons.inj hall
          exact absurd (List.append_eq_nil_iff.mp hmore).2 hne
  | @follow links place loc name target more hplace hname hnode hgoal h ih =>
      cases front with
      | nil =>
          subst hall
          exact ⟨place, links + 1, .done, .follow hplace hname hnode hgoal h⟩
      | cons first front =>
          obtain ⟨rfl, rfl⟩ := List.cons.inj hall
          obtain ⟨mid, links', hmid, hrest⟩ := ih (List.append_assoc _ _ _)
          exact ⟨mid, links', .follow hplace hname hnode (Or.inr rfl) hmid, hrest⟩

/-- What a path leads to stands under a name. -/
theorem Walks.entry (h : Walks t .target links place names loc) :
    ∃ loc', Walks t .entry links place names loc' := by
  generalize hgoal : Goal.target = goal at h
  induction h with
  | done => exact ⟨_, .done⟩
  | stay hplace hname _ ih =>
      obtain ⟨loc', h⟩ := ih
      exact ⟨loc', .stay hplace hname h⟩
  | up hplace _ ih =>
      obtain ⟨loc', h⟩ := ih
      exact ⟨loc', .up hplace h⟩
  | enter hplace hname hnode hplain _ ih =>
      obtain ⟨loc', h⟩ := ih
      exact ⟨loc', .enter hplace hname hnode hplain h⟩
  | halt hplace hname hnode => exact ⟨_, .halt hplace hname hnode rfl⟩
  | @follow links place loc name target rest hplace hname hnode _ _ ih =>
      by_cases hrest : rest = []
      · subst hrest
        exact ⟨_, .halt hplace hname hnode rfl⟩
      · obtain ⟨loc', h⟩ := ih
        exact ⟨loc', .follow hplace hname hnode (Or.inl hrest) h⟩

/-- A name is looked up in a directory. -/
theorem Walks.directory {name : Text} {rest : List Text}
    (h : Walks t goal links place (name :: rest) loc) : t.node? place = some .directory := by
  cases h <;> assumption

/-- Something stands under the last name of a walk. -/
theorem Walks.last {name : Text} (h : Walks t goal links place [name] loc) (hname : IsEntry name) :
    ∃ node, t.node? (place ++ [name]) = some node := by
  cases h with
  | stay _ hstay => exact (hstay.elim hname.ne_nil hname.ne_dot).elim
  | up => exact absurd rfl hname.not_parent
  | enter _ _ hnode => exact ⟨_, hnode⟩
  | halt _ _ hnode => exact ⟨_, hnode⟩
  | follow _ _ hnode => exact ⟨_, hnode⟩

end Walk

/-! ## Absolute paths -/

section Absolute

variable {start : Path.Start} {names : List Text} {name : Text}

/-- An absolute path is walked from the root, name by name. -/
theorem locate_text (hstart : start ≠ .here) (hne : names ≠ [])
    (h : ∀ name ∈ names, IsComponent name) (goal : Goal) :
    t.locate goal (Path.text ⟨start, names⟩) =
      if pathLimit ≤ (Utf8.encode (Path.text ⟨start, names⟩)).length then .error .nameTooLong
      else t.walk goal maxLinks [] names := by
  have hempty : (Path.text ⟨start, names⟩).isEmpty = false := by
    simpa using text_ne_nil hstart names
  have hhead : (Path.text ⟨start, names⟩).head? = some '/' := by
    rw [text_absolute hstart]
    cases start
    · exact absurd rfl hstart
    · rfl
    · rfl
  have hpieces : ((Path.text ⟨start, names⟩).splitOn '/').filter (! ·.isEmpty) = names := by
    have hjoin : ((Text.join ['/'] names).splitOn '/').filter (! ·.isEmpty) = names := by
      rw [Text.splitOn_join hne fun name hname => (h name hname).no_slash]
      exact List.filter_eq_self.mpr fun name hname => by simp [(h name hname).ne_nil]
    rw [text_absolute hstart]
    cases start
    · exact absurd rfl hstart
    · simpa [Path.Start.text, List.splitOn_cons_eq_if_modifyHead] using hjoin
    · simpa [Path.Start.text, List.splitOn_cons_eq_if_modifyHead] using hjoin
  rw [locate, if_neg (by simp [hempty])]
  simp only [route, hpieces, hhead, if_pos, (getLast?_text hstart h).not.mpr hne, if_neg,
    not_false_eq_true]

theorem length_encode_le (t u : Text) :
    (Utf8.encode t).length ≤ (Utf8.encode (t ++ u)).length := by
  rw [Utf8.encode, Utf8.encode, List.flatMap_append, List.length_append]
  exact Nat.le_add_right _ _

/-- The text of a path is not longer than that of a path with one more name. -/
theorem length_text_le (hstart : start ≠ .here) (h : ∀ name ∈ names, IsComponent name)
    (name : Text) : (Utf8.encode (Path.text ⟨start, names⟩)).length
      ≤ (Utf8.encode (Path.text ⟨start, names ++ [name]⟩)).length := by
  rw [← inside_text hstart h, inside]
  split
  · exact length_encode_le _ _
  · exact length_encode_le _ _

theorem locate_text_eq_ok_iff {goal : Goal} {loc : Location} (hstart : start ≠ .here)
    (hne : names ≠ []) (h : ∀ name ∈ names, IsComponent name) (hgoal : goal.free = false) :
    t.locate goal (Path.text ⟨start, names⟩) = .ok loc ↔
      (Utf8.encode (Path.text ⟨start, names⟩)).length < pathLimit ∧
        Walks t goal maxLinks [] names loc := by
  rw [locate_text hstart hne h, ← walk_eq_ok_iff hgoal]
  split
  next hlong => simp [Nat.not_lt.mpr hlong]
  next hshort => simp [Nat.not_le.mp hshort]

theorem isPresent_text_iff (hstart : start ≠ .here)
    (h : ∀ name ∈ names, IsComponent name) :
    t.isPresent (Path.text ⟨start, names⟩) = true ↔
      ∃ loc, t.locate .entry (Path.text ⟨start, names⟩) = .ok loc := by
  have hnul : (Path.text ⟨start, names⟩).contains nul = false := by
    simpa using nul_notMem_text hstart h
  rw [isPresent, hnul]
  cases t.locate .entry (Path.text ⟨start, names⟩) <;> simp [Except.isOk, Except.toBool]

theorem isDirectory_text_iff (hstart : start ≠ .here) (h : ∀ name ∈ names, IsComponent name) :
    t.isDirectory (Path.text ⟨start, names⟩) = true ↔
      ∃ loc, t.locate .target (Path.text ⟨start, names⟩) = .ok loc ∧
        t.node? loc = some .directory := by
  have hnul : (Path.text ⟨start, names⟩).contains nul = false := by
    simpa using nul_notMem_text hstart h
  rw [isDirectory, hnul, find]
  cases t.locate .target (Path.text ⟨start, names⟩) with
  | error reason => simp [Except.bind]
  | ok loc =>
      cases hnode : t.node? loc with
      | none => simp [Except.bind, hnode]
      | some node => cases node <;> simp [Except.bind, hnode]

theorem locate_root (hstart : start ≠ .here) :
    t.locate .target (Path.text ⟨start, []⟩) = .ok [] := by
  have hwalk : t.walk .target maxLinks [] [[]] = .ok [] := by
    rw [walk_eq_ok_iff rfl]
    exact .stay rfl (Or.inl rfl) .done
  cases start
  · exact absurd rfl hstart
  · exact hwalk
  · exact hwalk

/-- The root is a directory. -/
theorem isDirectory_root (hstart : start ≠ .here) :
    t.isDirectory (Path.text ⟨start, []⟩) = true := by
  rw [isDirectory_text_iff hstart (by simp)]
  exact ⟨[], locate_root hstart, rfl⟩

/-- What a path leads to is present under it. -/
theorem isPresent_of_locate {loc : Location} (hstart : start ≠ .here) (hne : names ≠ [])
    (h : ∀ name ∈ names, IsComponent name)
    (hloc : t.locate .target (Path.text ⟨start, names⟩) = .ok loc) :
    t.isPresent (Path.text ⟨start, names⟩) = true := by
  obtain ⟨hshort, hwalk⟩ := (locate_text_eq_ok_iff hstart hne h rfl).mp hloc
  obtain ⟨loc', hentry⟩ := hwalk.entry
  rw [isPresent_text_iff hstart h]
  exact ⟨loc', (locate_text_eq_ok_iff hstart hne h rfl).mpr ⟨hshort, hentry⟩⟩

theorem isPresent_of_isDirectory (hstart : start ≠ .here) (hne : names ≠ [])
    (h : ∀ name ∈ names, IsComponent name)
    (hdirectory : t.isDirectory (Path.text ⟨start, names⟩) = true) :
    t.isPresent (Path.text ⟨start, names⟩) = true := by
  obtain ⟨loc, hloc, -⟩ := (isDirectory_text_iff hstart h).mp hdirectory
  exact isPresent_of_locate hstart hne h hloc

theorem isPresent_of_isFile (hstart : start ≠ .here) (hne : names ≠ [])
    (h : ∀ name ∈ names, IsComponent name)
    (hfile : t.isFile (Path.text ⟨start, names⟩) = .ok true) :
    t.isPresent (Path.text ⟨start, names⟩) = true := by
  have hnul : (Path.text ⟨start, names⟩).contains nul = false := by
    simpa using nul_notMem_text hstart h
  rw [isFile, hnul, if_neg Bool.false_ne_true, find] at hfile
  cases hloc : t.locate .target (Path.text ⟨start, names⟩) with
  | error reason =>
      rw [hloc] at hfile
      cases reason <;> cases hfile
  | ok loc => exact isPresent_of_locate hstart hne h hloc

/-- What is present stands in a directory, and a name as it can stand there is listed there. -/
theorem directory_of_isPresent (hstart : start ≠ .here) (h : ∀ name ∈ names, IsComponent name)
    (hname : IsComponent name)
    (hpresent : t.isPresent (Path.text ⟨start, names ++ [name]⟩) = true) :
    t.isDirectory (Path.text ⟨start, names⟩) = true ∧
      (IsEntry name → name ∈ t.list (Path.text ⟨start, names⟩)) := by
  have hboth := isComponent_concat h hname
  obtain ⟨loc, hloc⟩ := (isPresent_text_iff hstart hboth).mp hpresent
  obtain ⟨hshort, hwalk⟩ := (locate_text_eq_ok_iff hstart (by simp) hboth rfl).mp hloc
  obtain ⟨mid, links, hmid, hlast⟩ := hwalk.append (by simp)
  have hplace : t.locate .target (Path.text ⟨start, names⟩) = .ok mid := by
    by_cases hne : names = []
    · subst hne
      cases hmid
      exact locate_root hstart
    · exact (locate_text_eq_ok_iff hstart hne h rfl).mpr
        ⟨Nat.lt_of_le_of_lt (length_text_le hstart h name) hshort, hmid⟩
  refine ⟨(isDirectory_text_iff hstart h).mpr ⟨mid, hplace, hlast.directory⟩, fun hentry => ?_⟩
  obtain ⟨node, hnode⟩ := hlast.last hentry
  rw [list, hplace]
  simp only [hlast.directory, if_true]
  have hmem : (mid ++ [name], node) ∈ t.nodes := by
    have hroot : (mid ++ [name]).isEmpty = false := by simp
    rw [node?, hroot, if_neg Bool.false_ne_true] at hnode
    obtain ⟨front, back, hnodes, -⟩ := List.lookup_eq_some_iff.mp hnode
    simp [hnodes]
  exact List.mem_filterMap.mpr ⟨_, hmem, by simp⟩

end Absolute

end Tree

end SshTunnel.Files
