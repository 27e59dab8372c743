import SshTunnel.Logging
import SshTunnel.Proofs.Log.Desk

/-!
# What a run says and what it comes to

A run that logs says one message after the other, whatever desk it is at, and comes to an outcome
when all of them are taken. Such a course is put together as the run itself is: `Follows` has a rule
for each way in which runs are made, and `runAt_of_takes` and `runAt_of_not_takes` say how a run
that follows a course ends.
-/

namespace SshTunnel

open Log (Desk Message)

/-- What a run comes to, and what it says before. -/
@[ext]
structure Course (α : Type) where
  outcome : Except Failure α
  said : List Message

namespace Course

variable {α β : Type}

/-- How a course ends at a desk. -/
def runAt (c : Course α) (desk : Desk) : Except Failure α × Desk :=
  match desk.logAll c.said with
  | (desk, none) => (c.outcome, desk)
  | (desk, some halt) => (.error (.halted halt), desk)

/-- One course after the other. -/
def bind (c : Course α) (next : α → Course β) : Course β :=
  match c.outcome with
  | .error failure => ⟨.error failure, c.said⟩
  | .ok a => ⟨(next a).outcome, c.said ++ (next a).said⟩

@[simp] theorem bind_ok (a : α) (said : List Message) (next : α → Course β) :
    bind ⟨.ok a, said⟩ next = ⟨(next a).outcome, said ++ (next a).said⟩ := rfl

@[simp] theorem bind_error (failure : Failure) (said : List Message) (next : α → Course β) :
    bind ⟨.error failure, said⟩ next = ⟨.error failure, said⟩ := rfl

/-- Outcomes are changed alike before and after a course has ended at a desk, if halts are kept. -/
theorem runAt_change (c : Course α) {change : Except Failure α → Except Failure β}
    (hkeeps : ∀ halt, change (.error (.halted halt)) = .error (.halted halt)) (desk : Desk) :
    runAt ⟨change c.outcome, c.said⟩ desk = (change (c.runAt desk).1, (c.runAt desk).2) := by
  rw [runAt, runAt]
  generalize desk.logAll c.said = logged
  obtain ⟨desk', _ | halt⟩ := logged
  · rfl
  · rw [hkeeps]

/-- Nothing that is said ends the run of whoever logs it at an open file. -/
def IsMild (c : Course α) : Prop := ∀ m ∈ c.said, m.level ≠ .fatal

theorem IsMild.bind {c : Course α} {next : α → Course β} (h : c.IsMild)
    (hnext : ∀ a, (next a).IsMild) : (c.bind next).IsMild := by
  rw [Course.bind]
  cases c.outcome with
  | error failure => exact h
  | ok a => exact List.forall_mem_append.mpr ⟨h, hnext a⟩

end Course

/-- A failure that is a report as a result. -/
def Failure.answer {α : Type} : Except Failure α → Except Failure (Except Failure α)
  | .ok a => .ok (.ok a)
  | .error failure => if failure.report?.isSome then .ok (.error failure) else .error failure

namespace Logging

variable {α β : Type}

/-- At every desk the run ends as the course does. -/
def Follows (run : Logging α) (c : Course α) : Prop := ∀ desk, run.runAt desk = c.runAt desk

theorem runAt_lift (outcome : Except Failure α) (desk : Desk) :
    Logging.runAt (liftM outcome) desk = (outcome, desk) := rfl

theorem follows_lift (outcome : Except Failure α) :
    Follows (liftM outcome : Logging α) ⟨outcome, []⟩ := fun _ => rfl

theorem follows_pure (a : α) : Follows (pure a : Logging α) ⟨.ok a, []⟩ := fun _ => rfl

theorem follows_throw (failure : Failure) :
    Follows (throw failure : Logging α) ⟨.error failure, []⟩ := fun _ => rfl

theorem runAt_tell (m : Message) (desk : Desk) :
    (tell m).runAt desk =
      match desk.log m with
      | (desk, none) => (.ok (), desk)
      | (desk, some halt) => (.error (.halted halt), desk) := by
  rw [runAt, tell, ExceptT.run_mk]
  simp only [StateT.run_bind, StateT.run_get, StateT.run_set, StateT.run_pure, pure_bind]
  generalize desk.log m = logged
  obtain ⟨desk', _ | halt⟩ := logged <;> rfl

theorem follows_tellAny (m : Option Message) : Follows (tellAny m) ⟨.ok (), m.toList⟩ := by
  intro desk
  cases m with
  | none => rfl
  | some m =>
      rw [tellAny, runAt_tell, Course.runAt, Option.toList_some, Desk.logAll_singleton]

theorem runAt_bind (run : Logging α) (next : α → Logging β) (desk : Desk) :
    (run >>= next).runAt desk =
      match run.runAt desk with
      | (.ok a, desk) => (next a).runAt desk
      | (.error failure, desk) => (.error failure, desk) := by
  have hrun : (run >>= next).runAt desk
      = ExceptT.bindCont next (run.runAt desk).1 (run.runAt desk).2 := rfl
  rw [hrun]
  generalize run.runAt desk = ended
  obtain ⟨_ | a, desk'⟩ := ended <;> rfl

theorem Follows.bind {run : Logging α} {next : α → Logging β} {c : Course α}
    {more : α → Course β} (h : Follows run c) (hmore : ∀ a, Follows (next a) (more a)) :
    Follows (run >>= next) (c.bind more) := by
  intro desk
  rw [runAt_bind, h desk, Course.runAt, Course.runAt, Course.bind]
  cases houtcome : c.outcome with
  | error failure =>
      generalize desk.logAll c.said = logged
      obtain ⟨desk', _ | halt⟩ := logged <;> rfl
  | ok a =>
      -- A halt in the first part is a halt of the whole; else the rest goes on at the desk it left.
      simp only [Desk.logAll_append]
      generalize desk.logAll c.said = logged
      obtain ⟨desk', _ | halt⟩ := logged
      · exact hmore a desk'
      · rfl

theorem runAt_adapt (run : Logging α) (f : Failure → Failure) (desk : Desk) :
    Logging.runAt (run.adapt f) desk = ((run.runAt desk).1.mapError f, (run.runAt desk).2) := rfl

/-- A failure is adapted unless it is a halt. -/
theorem Follows.adapt {run : Logging α} {c : Course α} (h : Follows run c)
    {f : Failure → Failure} (hf : ∀ halt, f (.halted halt) = .halted halt) :
    Follows (run.adapt f) ⟨c.outcome.mapError f, c.said⟩ := by
  intro desk
  rw [runAt_adapt, h desk]
  exact (c.runAt_change (fun halt => congrArg Except.error (hf halt)) desk).symm

theorem runAt_map (run : Logging α) (f : α → β) (desk : Desk) :
    Logging.runAt (f <$> run) desk = ((run.runAt desk).1.map f, (run.runAt desk).2) := by
  rw [map_eq_pure_bind, runAt_bind]
  generalize run.runAt desk = ended
  obtain ⟨_ | a, desk'⟩ := ended <;> rfl

theorem runAt_tryCatch (run : Logging α) (handle : Failure → Logging α) (desk : Desk) :
    Logging.runAt (tryCatch run handle) desk =
      match run.runAt desk with
      | (.ok a, desk) => (.ok a, desk)
      | (.error failure, desk) => (handle failure).runAt desk := by
  -- The handler is bound below the failures, where `runAt_bind` does not reach.
  have hrun : Logging.runAt (tryCatch run handle) desk
      = StateT.run (ExceptT.tryCatch run handle) desk := rfl
  generalize hended : run.runAt desk = ended
  have hended : StateT.run run desk = ended := hended
  rw [hrun, ExceptT.tryCatch, ExceptT.mk, StateT.run_bind, hended]
  obtain ⟨_ | a, desk'⟩ := ended <;> rfl

theorem runAt_reported (run : Logging α) (desk : Desk) :
    run.reported.runAt desk = (Failure.answer (run.runAt desk).1, (run.runAt desk).2) := by
  rw [reported, runAt_tryCatch, runAt_map]
  cases (run.runAt desk).1 with
  | ok a => rfl
  | error failure =>
      simp only [Failure.answer, Except.map]
      split <;> rfl

theorem Follows.reported {run : Logging α} {c : Course α} (h : Follows run c) :
    Follows run.reported ⟨Failure.answer c.outcome, c.said⟩ := by
  intro desk
  rw [runAt_reported, h desk]
  exact (c.runAt_change (fun _ => rfl) desk).symm

/-! ## Ends at a desk -/

section Ends

variable {run : Logging α} {c : Course α} {desk desk' : Desk} {a : α} {failure : Failure}

/-- A run that ends well has a result. -/
theorem exists_of_isOk (h : (run.runAt desk).1.isOk = true) :
    ∃ a desk', run.runAt desk = (.ok a, desk') := by
  generalize run.runAt desk = ended at h
  obtain ⟨_ | a, desk'⟩ := ended
  · cases h
  · exact ⟨a, desk', rfl⟩

theorem Follows.runAt_of_takes (h : Follows run c) (hmild : c.IsMild) (htakes : desk.Takes c.said) :
    run.runAt desk = (c.outcome, (desk.logAll c.said).1) := by
  have hlogged := Desk.logAll_of_takes hmild htakes
  rw [h desk, Course.runAt]
  generalize desk.logAll c.said = logged at hlogged
  obtain ⟨desk', halt⟩ := logged
  obtain rfl : halt = none := hlogged
  rfl

theorem Follows.runAt_of_not_takes (h : Follows run c) (hnot : ¬ desk.Takes c.said) :
    run.runAt desk = (.error (.halted .writeToClosed), desk) := by
  rw [h desk, Course.runAt, Desk.logAll_of_not_takes hnot]

/-- Only the streams of a desk are changed. -/
theorem Follows.sink_eq (h : Follows run c) (desk : Desk) :
    (run.runAt desk).2.sink = desk.sink := by
  have hsink := desk.sink_logAll c.said
  rw [h desk, Course.runAt]
  generalize desk.logAll c.said = logged at hsink
  obtain ⟨desk', _ | halt⟩ := logged <;> exact hsink

theorem Follows.runAt_eq_ok_iff (h : Follows run c) (hmild : c.IsMild) :
    run.runAt desk = (.ok a, desk') ↔
      desk.Takes c.said ∧ c.outcome = .ok a ∧ (desk.logAll c.said).1 = desk' := by
  by_cases htakes : desk.Takes c.said
  · rw [h.runAt_of_takes hmild htakes, Prod.mk.injEq]
    exact (and_iff_right htakes).symm
  · rw [h.runAt_of_not_takes htakes]
    simp [htakes]

theorem Follows.fst_eq_error_iff (h : Follows run c) (hmild : c.IsMild) :
    (run.runAt desk).1 = .error failure ↔
      desk.Takes c.said ∧ c.outcome = .error failure ∨
        ¬ desk.Takes c.said ∧ failure = .halted .writeToClosed := by
  by_cases htakes : desk.Takes c.said
  · simp [h.runAt_of_takes hmild htakes, htakes]
  · simp [h.runAt_of_not_takes htakes, htakes, eq_comm]

end Ends

end Logging

end SshTunnel
