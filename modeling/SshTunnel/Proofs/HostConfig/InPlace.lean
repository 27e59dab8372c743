import SshTunnel.Proofs.HostConfig.Lookup

/-!
# Files in which first match wins

A line is overtaken only by what stands above the first Host line of an included file, or
behind an Include line in the table for every alias. Where there are no such lines the lines
of a reading lie in the order of their places. In particular that is so without any Include
line.
-/

namespace SshTunnel.HostConfig

namespace Reading

/-- No directive comes before a new section is opened. `table` says that the table for every
alias is under way. -/
def opensFirst (table : Bool) : Reading → Bool
  | done => true
  | problem _ rest => rest.opensFirst table
  | host _ _ => true
  | directive _ _ => false
  | file body rest => body.opensFirst table && rest.opensFirst table
  | resume rest => !table || rest.opensFirst table

/-- Included files, and what follows them, open a section before their first directive. -/
def inPlace (table : Bool) : Reading → Bool
  | done => true
  | problem _ rest => rest.inPlace table
  | host _ rest => rest.inPlace false
  | directive _ rest => rest.inPlace table
  | file body rest =>
      body.opensFirst table && body.inPlace table && rest.opensFirst table && rest.inPlace table
  | resume rest => rest.inPlace table

variable {r : Reading} {outer : Scope} {above : Option (List Text)} {place fresh : Nat}

/-- The table for every alias is under way. -/
abbrev isTable (outer : Scope) (above : Option (List Text)) : Bool :=
  decide (outer = [] ∧ above = none)

theorem isTable_file (outer : Scope) (above : Option (List Text)) :
    isTable (outer ++ above.toList) none = isTable outer above := by
  cases outer <;> cases above <;> simp [isTable]

theorem isTable_host (outer : Scope) (patterns : List Text) :
    isTable outer (some patterns) = false := by
  simp [isTable]

/-- Lines are filed at the place under way or in a section that is opened later. -/
theorem place_of_mem_filed {a : Filed} (h : a ∈ r.filed outer above place fresh) :
    a.place = place ∨ (fresh ≤ a.place ∧ a.place < fresh + r.opened outer above) := by
  induction r generalizing outer above place fresh with
  | done => cases h
  | problem e rest ih => exact ih h
  | host patterns rest ih =>
      have hrest := ih h
      rw [opened]
      omega
  | directive d rest ih =>
      rcases List.mem_cons.mp h with rfl | h
      · exact Or.inl rfl
      · exact ih h
  | file body rest ihbody ih =>
      rw [opened]
      rcases List.mem_append.mp h with h | h
      · have hbody := ihbody h
        omega
      · have hrest := ih h
        omega
  | resume rest ih =>
      rw [filed] at h
      rw [opened]
      split at h <;> rename_i htable
      · rw [if_pos htable]
        exact ih h
      · rw [if_neg htable]
        have hrest := ih h
        omega

theorem fresh_le_of_opensFirst {a : Filed} (hopens : r.opensFirst (isTable outer above) = true)
    (h : a ∈ r.filed outer above place fresh) : fresh ≤ a.place := by
  induction r generalizing outer above place fresh with
  | done => cases h
  | problem e rest ih => exact ih hopens h
  | host patterns rest ih =>
      rw [filed] at h
      have hrest := place_of_mem_filed h
      omega
  | directive d rest ih => cases hopens
  | file body rest ihbody ih =>
      rw [opensFirst, Bool.and_eq_true] at hopens
      rcases List.mem_append.mp h with h | h
      · exact ihbody (by rw [isTable_file]; exact hopens.1) h
      · have hrest := ih hopens.2 h
        omega
  | resume rest ih =>
      rw [filed] at h
      rw [opensFirst, Bool.or_eq_true] at hopens
      split at h <;> rename_i htable
      · apply ih _ h
        exact hopens.resolve_left (by simp [isTable, htable])
      · have hrest := place_of_mem_filed h
        omega

/-- Such readings lie in the order of their places. -/
theorem filed_sorted_of_inPlace (hplace : place < fresh)
    (h : r.inPlace (isTable outer above) = true) :
    (r.filed outer above place fresh).Pairwise fun a b => a.place ≤ b.place := by
  induction r generalizing outer above place fresh with
  | done => exact List.Pairwise.nil
  | problem e rest ih => exact ih hplace h
  | host patterns rest ih =>
      apply ih (Nat.lt_succ_self fresh)
      rw [isTable_host]
      exact h
  | directive d rest ih =>
      rw [filed, List.pairwise_cons]
      refine ⟨?_, ih hplace h⟩
      intro a ha
      have hrest := place_of_mem_filed ha
      show place ≤ a.place
      omega
  | file body rest ihbody ih =>
      simp only [inPlace, Bool.and_eq_true] at h
      obtain ⟨⟨⟨-, hbody⟩, hopens⟩, hrest⟩ := h
      rw [filed, List.pairwise_append]
      refine ⟨ihbody hplace (by rwa [isTable_file]), ih (by omega) hrest, ?_⟩
      intro a ha b hb
      have hlow := place_of_mem_filed ha
      have hhigh := fresh_le_of_opensFirst hopens hb
      omega
  | resume rest ih =>
      rw [filed]
      split
      · exact ih hplace h
      · exact ih (Nat.lt_succ_self fresh) h

/-- Without Include lines a reading is in place. -/
theorem inPlace_ofLines {path : Text} {bring : Nat → Text → Reading → Reading}
    {lines : List (Nat × Text)}
    (h : ∀ line ∈ lines, ∀ arguments, Statement.ofLine line.2 ≠ .ok (some (.files arguments)))
    (table : Bool) : (ofLines path bring lines).inPlace table = true := by
  induction lines generalizing table with
  | nil => rfl
  | cons numbered lines ih =>
      obtain ⟨number, line⟩ := numbered
      rw [List.forall_mem_cons] at h
      rw [ofLines]
      cases hline : Statement.ofLine line with
      | error problem => exact ih h.2 table
      | ok statement =>
          rcases statement with - | patterns | arguments | d
          · exact ih h.2 table
          · exact ih h.2 false
          · exact absurd hline (h.1 arguments)
          · exact ih h.2 table

end Reading

/-- First match wins in files that are in place. -/
theorem firstWins_of_inPlace {env : Environment} {path : Path} {config : HostConfig}
    (h : ofFile env path = .ok config)
    (hplace : (reading env maxIncludeDepth path.text).inPlace true = true) (name : Text) :
    FirstWins (reading env maxIncludeDepth path.text) name (config.lookup name) := by
  apply firstWins_of_undisturbed h
  apply undisturbed_of_pairwise
  apply List.Pairwise.filter
  exact Reading.filed_sorted_of_inPlace Nat.zero_lt_one hplace

end SshTunnel.HostConfig
