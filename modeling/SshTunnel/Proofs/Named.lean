import SshTunnel.Named
import Mathlib.Data.List.Induction
import Mathlib.Data.List.Nodup
import Mathlib.Tactic.Common

/-!
# Values set one after the other

Setting keeps one value under each name, the one that was set last, and the names stand in the
order in which they were first set. Under names that are all different every value is kept.
-/

namespace SshTunnel.Named

variable {α : Type}

@[simp] theorem names_nil : names ([] : Named α) = [] := rfl

@[simp] theorem names_cons (entry : Text × α) (more : Named α) :
    names (entry :: more) = entry.1 :: names more := rfl

@[simp] theorem names_append (entries further : Named α) :
    names (entries ++ further) = names entries ++ names further := List.map_append

@[simp] theorem length_names (entries : Named α) : (names entries).length = entries.length :=
  List.length_map _

theorem get?_cons (entry : Text × α) (more : Named α) (name : Text) :
    get? (entry :: more) name = if name = entry.1 then some entry.2 else get? more name := by
  obtain ⟨key, value⟩ := entry
  by_cases hname : name = key
  · subst hname
    simp [get?]
  · have hbeq : (name == key) = false := beq_eq_false_iff_ne.mpr hname
    simp [get?, List.lookup_cons, hbeq, hname]

theorem get?_eq_none_iff (entries : Named α) (name : Text) :
    get? entries name = none ↔ name ∉ names entries := by
  induction entries with
  | nil => simp [get?]
  | cons entry more ih =>
      rw [get?_cons]
      by_cases hname : name = entry.1 <;> simp [hname, ih]

/-- Under names that are all different each value is found by its name. -/
theorem get?_eq_some_iff {entries : Named α} (h : (names entries).Nodup) (name : Text)
    (value : α) : get? entries name = some value ↔ (name, value) ∈ entries := by
  induction entries with
  | nil => simp [get?]
  | cons entry more ih =>
      obtain ⟨hentry, hmore⟩ := List.nodup_cons.mp h
      rw [get?_cons, List.mem_cons, ← ih hmore]
      by_cases hname : name = entry.1
      · subst hname
        have hnone : get? more entry.1 ≠ some value := fun hget =>
          hentry (List.mem_map.mpr ⟨_, (ih hmore).mp hget, rfl⟩)
        simp [hnone, Prod.ext_iff, eq_comm]
      · simp [hname, Prod.ext_iff]

/-- The order of the values does not matter when their names are all different. -/
theorem get?_perm {entries further : Named α} (hperm : entries.Perm further)
    (h : (names further).Nodup) (name : Text) : get? entries name = get? further name := by
  have h' : (names entries).Nodup := (hperm.map Prod.fst).nodup_iff.mpr h
  refine Option.ext fun value => ?_
  rw [get?_eq_some_iff h', get?_eq_some_iff h]
  exact hperm.mem_iff

/-! ## One value -/

theorem names_set (entries : Named α) (name : Text) (value : α) :
    names (set entries name value) =
      if name ∈ names entries then names entries else names entries ++ [name] := by
  induction entries with
  | nil => rfl
  | cons entry more ih =>
      by_cases hname : entry.1 = name
      · simp [set, hname]
      · simp only [set, if_neg hname, names_cons, ih, List.mem_cons, Ne.symm hname, false_or]
        by_cases hmem : name ∈ names more <;> simp [hmem]

theorem get?_set (entries : Named α) (name : Text) (value : α) (other : Text) :
    get? (set entries name value) other =
      if other = name then some value else get? entries other := by
  induction entries with
  | nil => rw [set, get?_cons]
  | cons entry more ih =>
      by_cases hname : entry.1 = name
      · rw [set, if_pos hname, get?_cons, get?_cons, hname]
        by_cases hother : other = name <;> simp [hother]
      · rw [set, if_neg hname, get?_cons, get?_cons, ih]
        by_cases hother : other = entry.1
        · simp [hother, hname]
        · simp [hother]

theorem set_of_notMem {entries : Named α} {name : Text} (h : name ∉ names entries) (value : α) :
    set entries name value = entries ++ [(name, value)] := by
  induction entries with
  | nil => rfl
  | cons entry more ih =>
      obtain ⟨hname, hmore⟩ : ¬ name = entry.1 ∧ name ∉ names more := by simpa using h
      rw [set, if_neg (Ne.symm hname), ih hmore, List.cons_append]

/-! ## Further values -/

theorem update_concat (entries further : Named α) (entry : Text × α) :
    update entries (further ++ [entry]) = set (update entries further) entry.1 entry.2 := by
  simp [update]

/-- The names stand in the order in which they were first set. -/
theorem names_update (further : Named α) :
    names (update [] further) = (names further).eraseDups := by
  induction further using List.reverseRecOn with
  | nil => rfl
  | append_singleton further entry ih =>
      rw [update_concat, names_set, ih, names_append, List.eraseDups_append]
      by_cases hmem : entry.1 ∈ names further <;>
        simp [List.removeAll, hmem, List.eraseDups_cons]

/-- What was set before counts when none of the further values has the name. -/
theorem get?_update_onto (entries further : Named α) (name : Text) :
    get? (update entries further) name
      = ((further.filter (·.1 = name)).getLast?.map (·.2)).or (get? entries name) := by
  induction further using List.reverseRecOn with
  | nil => rfl
  | append_singleton further entry ih =>
      rw [update_concat, get?_set, ih, List.filter_append]
      by_cases hname : entry.1 = name
      · simp [hname]
      · simp [hname, Ne.symm hname]

/-- The value under a name is the one that was set last. -/
theorem get?_update (further : Named α) (name : Text) :
    get? (update [] further) name = (further.filter (·.1 = name)).getLast?.map (·.2) := by
  rw [get?_update_onto]
  exact Option.or_none

theorem nodup_names_update {entries : Named α} (h : (names entries).Nodup) (further : Named α) :
    (names (update entries further)).Nodup := by
  induction further using List.reverseRecOn with
  | nil => exact h
  | append_singleton further entry ih =>
      rw [update_concat, names_set]
      split
      next => exact ih
      next hnew => exact List.concat_eq_append ▸ ih.concat hnew

theorem nodup_names_concat_iff (further : Named α) (entry : Text × α) :
    (names (further ++ [entry])).Nodup ↔ entry.1 ∉ names further ∧ (names further).Nodup := by
  have hconcat : names (further ++ [entry]) = (names further).concat entry.1 := by simp
  rw [hconcat, List.nodup_concat]

/-- Under names that are all different the values stand as they were set. -/
theorem update_eq_self {further : Named α} (h : (names further).Nodup) :
    update [] further = further := by
  induction further using List.reverseRecOn with
  | nil => rfl
  | append_singleton further entry ih =>
      obtain ⟨hentry, hfurther⟩ := (nodup_names_concat_iff further entry).mp h
      rw [update_concat, ih hfurther, set_of_notMem hentry]

/-- Further values under names that are all different take the place of what was there. -/
theorem get?_update_of_nodup {further : Named α} (h : (names further).Nodup)
    (entries : Named α) (name : Text) :
    get? (update entries further) name = (get? further name).or (get? entries name) := by
  rw [get?_update_onto, ← get?_update, update_eq_self h]

theorem length_update_le (further : Named α) : (update [] further).length ≤ further.length := by
  induction further using List.reverseRecOn with
  | nil => exact Nat.le_refl 0
  | append_singleton further entry ih =>
      rw [update_concat, ← length_names, names_set]
      split <;> simp <;> omega

/-- No value is lost just when the names are all different. -/
theorem length_update_eq_iff (further : Named α) :
    (update [] further).length = further.length ↔ (names further).Nodup := by
  constructor
  · intro h
    induction further using List.reverseRecOn with
    | nil => exact List.nodup_nil
    | append_singleton further entry ih =>
        have hle := length_update_le further
        rw [update_concat, ← length_names, names_set, List.length_append] at h
        by_cases hmem : entry.1 ∈ names (update [] further)
        · rw [if_pos hmem, length_names, List.length_singleton] at h
          omega
        · rw [if_neg hmem, List.length_append, length_names] at h
          rw [names_update, List.mem_eraseDups] at hmem
          exact (nodup_names_concat_iff further entry).mpr ⟨hmem, ih (Nat.succ_inj.mp h)⟩
  · exact fun h => congrArg List.length (update_eq_self h)

end SshTunnel.Named
