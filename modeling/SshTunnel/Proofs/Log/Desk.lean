import SshTunnel.Log.Desk
import SshTunnel.Proofs.Log.Output

/-!
# Messages at a desk

A closed file takes no message that is shown, and ends the run of whoever logs it. Any other desk
takes one message after the other, and what is written there is the only thing that changes: a
text in memory has got their lines.
-/

namespace SshTunnel.Log

/-- The message as a call at some time. -/
def Message.at (m : Message) (clock : Clock) : Call := ⟨clock, m.level, m.template, m.values⟩

namespace Desk

variable {desk : Desk} {m : Message} {said more : List Message} {content : Text}

/-- The sink writes to a file that was closed. -/
def isClosed (desk : Desk) : Bool := desk.streams.isClosedFile desk.sink.stream

/-- The sink shows a message, or it would if it could. -/
def shows (desk : Desk) (m : Message) : Bool := desk.sink.style.shows m.level

/-- Nothing that is shown goes to a file that was closed. -/
def Takes (desk : Desk) (said : List Message) : Prop :=
  desk.isClosed = true → ∀ m ∈ said, desk.shows m = false

instance (desk : Desk) (said : List Message) : Decidable (desk.Takes said) :=
  inferInstanceAs (Decidable (_ → _))

/-- Logs one message after the other, until a call does not return. -/
def logAll (desk : Desk) : List Message → Desk × Option Halt
  | [] => (desk, none)
  | m :: more =>
      match desk.log m with
      | (desk, none) => desk.logAll more
      | stopped => stopped

/-- The desk after lines were handed to its stream. -/
def put (desk : Desk) (lines : List Text) : Desk :=
  { desk with streams := lines.foldl desk.sink.put desk.streams }

/-- The sink writes to a text in memory, which is this one so far. -/
def Holds (desk : Desk) (content : Text) : Prop :=
  desk.streams.streams[desk.sink.stream]? = some (.memory content)

instance (desk : Desk) (content : Text) : Decidable (desk.Holds content) :=
  inferInstanceAs (Decidable (_ = _))

/-- The line of a message, if it is shown. -/
def line? (desk : Desk) (m : Message) : Option Text := (m.at desk.clock).line? desk.sink.style

/-- The lines of messages, one after the other. -/
def text (desk : Desk) (said : List Message) : Text := (said.filterMap desk.line?).flatten

/-! ## One message -/

theorem log_of_hidden (h : desk.shows m = false) : desk.log m = (desk, none) := by
  have hshows : desk.sink.style.shows m.level = false := h
  simp [log, Sink.log, hshows]

theorem log_of_closed (hclosed : desk.isClosed = true) (h : desk.shows m = true) :
    desk.log m = (desk, some .writeToClosed) := by
  have hfile : desk.streams.isClosedFile desk.sink.stream = true := hclosed
  have hshows : desk.sink.style.shows m.level = true := h
  simp [log, Sink.log, hshows, hfile]

theorem log_of_open (hopen : desk.isClosed = false) (hlevel : m.level ≠ .fatal) :
    (desk.log m).2 = none := by
  have hfile : desk.streams.isClosedFile desk.sink.stream = false := hopen
  rw [log]
  simp only [Sink.log, hfile, Bool.false_eq_true, ↓reduceIte, if_neg hlevel]
  split <;> rfl

/-- Logging a message closes no file and opens none. -/
theorem isClosed_log (desk : Desk) (m : Message) : (desk.log m).1.isClosed = desk.isClosed := by
  cases hclosed : desk.isClosed with
  | false =>
      have houtline := Sink.outline_after_log hclosed (m.at desk.clock)
      exact (Streams.isClosedFile_congr houtline desk.sink.stream).trans hclosed
  | true =>
      cases hshows : desk.shows m with
      | false => rw [log_of_hidden hshows, hclosed]
      | true => rw [log_of_closed hclosed hshows, hclosed]

theorem takes_log (desk : Desk) (m : Message) : (desk.log m).1.Takes said ↔ desk.Takes said := by
  rw [Takes, Takes, isClosed_log]
  rfl

theorem Holds.isClosed (h : desk.Holds content) : desk.isClosed = false := by
  rw [Desk.isClosed, Streams.isClosedFile, h]

theorem Holds.log (h : desk.Holds content) (m : Message) :
    (desk.log m).1.Holds (content ++ (desk.line? m).toList.flatten) := by
  have hmemory := Sink.memory_after_log h.isClosed h (m.at desk.clock)
  rw [if_pos rfl] at hmemory
  exact hmemory

theorem Holds.put (h : desk.Holds content) (lines : List Text) :
    (desk.put lines).Holds (content ++ lines.flatten) :=
  Sink.foldl_put_memory lines h

theorem Holds.unique {content' : Text} (h : desk.Holds content) (h' : desk.Holds content') :
    content = content' :=
  Stream.memory.inj (Option.some.inj (h.symm.trans h'))

/-! ## One message after the other -/

theorem takes_cons : desk.Takes (m :: said) ↔
    (desk.isClosed = true → desk.shows m = false) ∧ desk.Takes said := by
  simp only [Takes, List.forall_mem_cons, imp_and]

theorem takes_append : desk.Takes (said ++ more) ↔ desk.Takes said ∧ desk.Takes more := by
  simp only [Takes, List.forall_mem_append, imp_and]

theorem takes_of_open (hopen : desk.isClosed = false) : desk.Takes said :=
  fun hclosed => absurd (hopen.symm.trans hclosed) Bool.false_ne_true

theorem logAll_cons (h : (desk.log m).2 = none) :
    desk.logAll (m :: said) = (desk.log m).1.logAll said := by
  rw [logAll]
  generalize desk.log m = logged at h
  obtain ⟨desk', halt⟩ := logged
  obtain rfl : halt = none := h
  rfl

theorem logAll_singleton (desk : Desk) (m : Message) : desk.logAll [m] = desk.log m := by
  rw [logAll]
  generalize desk.log m = logged
  obtain ⟨desk', _ | halt⟩ := logged <;> rfl

theorem logAll_append (desk : Desk) (said more : List Message) :
    desk.logAll (said ++ more) =
      match desk.logAll said with
      | (desk, none) => desk.logAll more
      | stopped => stopped := by
  induction said generalizing desk with
  | nil => rfl
  | cons m said ih =>
      rw [List.cons_append, logAll, logAll]
      generalize desk.log m = logged
      obtain ⟨desk', _ | halt⟩ := logged
      · exact ih desk'
      · rfl

/-- Logging at a desk is logging at its sink, at its time. -/
theorem logAll_eq_sink (desk : Desk) (said : List Message) :
    desk.logAll said =
      ({ desk with
          streams := (desk.sink.logAll desk.streams (said.map (·.at desk.clock))).1 },
        (desk.sink.logAll desk.streams (said.map (·.at desk.clock))).2) := by
  induction said generalizing desk with
  | nil => rfl
  | cons m said ih =>
      rw [Desk.logAll, List.map_cons, Sink.logAll, Desk.log]
      simp only [Message.at]
      generalize desk.sink.log desk.streams desk.clock m.level m.template m.values = logged
      obtain ⟨streams, _ | halt⟩ := logged
      · exact ih { desk with streams := streams }
      · rfl

/-- Messages that make records are handed over line by line, at a time that has a date. -/
theorem logAll_of_isSound (hopen : desk.isClosed = false)
    (hsound : ∀ m ∈ said, (m.at desk.clock).IsSound) :
    desk.logAll said = (desk.put (said.filterMap desk.line?), none) := by
  have hcalls : ∀ c ∈ said.map (·.at desk.clock), c.IsSound := List.forall_mem_map.mpr hsound
  rw [logAll_eq_sink, Sink.logAll_of_isSound hopen hcalls, List.filterMap_map]
  rfl

theorem sink_logAll (desk : Desk) (said : List Message) :
    (desk.logAll said).1.sink = desk.sink := by
  rw [logAll_eq_sink]

/-- Messages that are taken are all logged. -/
theorem logAll_of_takes (hlevels : ∀ m ∈ said, m.level ≠ .fatal) (h : desk.Takes said) :
    (desk.logAll said).2 = none := by
  induction said generalizing desk with
  | nil => rfl
  | cons m said ih =>
      obtain ⟨hlevel, hlevels⟩ := List.forall_mem_cons.mp hlevels
      obtain ⟨hm, hsaid⟩ := takes_cons.mp h
      -- At a closed file it is taken only because it is not shown.
      have hlog : (desk.log m).2 = none := by
        cases hclosed : desk.isClosed with
        | false => exact log_of_open hclosed hlevel
        | true => rw [log_of_hidden (hm hclosed)]
      rw [logAll_cons hlog]
      exact ih hlevels ((takes_log desk m).mpr hsaid)

/-- The first message that is shown ends it all at a closed file, and nothing is written. -/
theorem logAll_of_not_takes (h : ¬ desk.Takes said) :
    desk.logAll said = (desk, some .writeToClosed) := by
  -- Up to the first message that is shown the desk stays as it is, and so it can be kept fixed.
  obtain ⟨hclosed, hshown⟩ := Classical.not_imp.mp h
  clear h
  induction said with
  | nil => exact absurd nofun hshown
  | cons m said ih =>
      cases hm : desk.shows m with
      | true => rw [logAll, log_of_closed hclosed hm]
      | false =>
          rw [logAll, log_of_hidden hm]
          exact ih fun hsaid => hshown (List.forall_mem_cons.mpr ⟨hm, hsaid⟩)

theorem text_flatMap {α : Type} (desk : Desk) (said : α → List Message) (xs : List α) :
    desk.text (xs.flatMap said) = xs.flatMap fun x => desk.text (said x) := by
  induction xs with
  | nil => rfl
  | cons x xs ih =>
      rw [List.flatMap_cons, List.flatMap_cons, ← ih, text, List.filterMap_append,
        List.flatten_append]
      rfl

/-- A text in memory takes every line. -/
theorem Holds.logAll (h : desk.Holds content) (hlevels : ∀ m ∈ said, m.level ≠ .fatal) :
    (desk.logAll said).1.Holds (content ++ desk.text said) := by
  induction said generalizing desk content with
  | nil => simpa [Desk.logAll, text] using h
  | cons m said ih =>
      obtain ⟨hlevel, hlevels⟩ := List.forall_mem_cons.mp hlevels
      have htext : (desk.log m).1.text = desk.text := rfl
      have hmore := ih (h.log m) hlevels
      rw [htext, List.append_assoc] at hmore
      rw [logAll_cons (log_of_open h.isClosed hlevel), text, List.filterMap_cons]
      cases hm : desk.line? m <;> simpa [hm, text] using hmore

end Desk

end SshTunnel.Log
