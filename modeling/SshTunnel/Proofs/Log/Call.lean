import SshTunnel.Log.Sink
import SshTunnel.Proofs.Log.Streams

/-!
# Calls to a sink

A call names a level, a template and its values, and comes at some time. Calls whose messages can
be written, at times that have a date, hand their lines to the stream one after the other, and a
text in memory takes them all.
-/

namespace SshTunnel.Log

/-! ## Messages with one value -/

namespace Template

theorem pieces_literal {c : Char} (hc : c ≠ '%') (t : Text) :
    pieces (c :: t) = (pieces t).map (.literal c :: ·) := by
  rw [pieces]
  · exact fun rest hmark => absurd hmark hc
  · exact hc

theorem pieces_front {front : Text} (hfront : '%' ∉ front) (t : Text) :
    pieces (front ++ t) = (pieces t).map (front.map .literal ++ ·) := by
  induction front with
  | nil => simp
  | cons c front ih =>
      have hc : c ≠ '%' := fun h => hfront (by simp [h])
      rw [List.cons_append, pieces_literal hc, ih fun h => hfront (List.mem_cons_of_mem c h),
        Option.map_map]
      rfl

theorem writeAll_front (s : Supply) (front : Text) (ps : List Piece) :
    writeAll s (front.map .literal ++ ps) = (writeAll s ps).map (front ++ ·) := by
  induction front with
  | nil => simp
  | cons c front ih =>
      rw [List.map_cons, List.cons_append, writeAll, ih, Option.map_map]
      rfl

/-- What stands in front of the first place of a template is written as it is. -/
theorem message_front {front : Text} (hfront : '%' ∉ front) (t : Text) (d : Datum)
    (more : List Datum) :
    message (front ++ t) (d :: more) = (message t (d :: more)).map (front ++ ·) := by
  simp only [message, List.isEmpty_cons, Bool.false_eq_true, ↓reduceIte, pieces_front hfront]
  cases pieces t with
  | none => rfl
  | some ps => exact writeAll_front _ front ps

theorem readPlace_plain {form : Char} (hform : form = 's' ∨ form = 'r') (t : Text) :
    readPlace (form :: t) = some (⟨none, [], .absent, .absent, form⟩, t) := by
  rcases hform with rfl | rfl <;>
    simp [readPlace, readName, readSize, readPrecision, skipLength, isFlag, isSizeDigit]

/-- A place of its own for a text, without a name, flags and sizes. -/
theorem pieces_place {form : Char} (hform : form = 's' ∨ form = 'r') (t : Text) :
    pieces ('%' :: form :: t)
      = (pieces t).map (.place ⟨none, [], .absent, .absent, form⟩ :: ·) := by
  have hmark : form ≠ '%' := by rcases hform with rfl | rfl <;> decide
  have hlength : t.length < (form :: t).length + 1 := by
    rw [List.length_cons]
    omega
  rw [pieces]
  · simp only [readPlace_plain hform, dif_pos hlength]
  · exact fun rest hrest => hmark (List.cons.inj hrest).1

/-- A text is written as it is, or between quotes, whatever it holds, and what stands behind its
place is written as it is. -/
theorem message_place {form : Char} (hform : form = 's' ∨ form = 'r') {back : Text}
    (hback : '%' ∉ back) (t : Text) :
    message ('%' :: form :: back) [.text t] = (textFor? form (.text t)).map (· ++ back) := by
  have hpieces : pieces back = some (back.map .literal) := by
    have hfront := pieces_front hback []
    rwa [List.append_nil, pieces, Option.map_some, List.append_nil] at hfront
  have hback : writeAll ⟨[], none⟩ (back.map .literal) = some back := by
    have hfront := writeAll_front ⟨[], none⟩ back []
    rwa [List.append_nil, writeAll, Option.isNone_none, Bool.true_and, if_neg (by simp),
      Option.map_some, List.append_nil] at hfront
  simp only [message, List.isEmpty_cons, Bool.false_eq_true, ↓reduceIte, pieces_place hform,
    hpieces, Option.map_some, Option.bind_some]
  rcases hform with rfl | rfl <;>
    simp [supplyOf, writeAll, writePlace, Supply.size, Supply.next, write, layoutFor?, textFor?,
      fill, Datum.shown, Datum.quoted, Except.toOption, hback]

end Template

/-! ## What a call hands to the stream -/

/-- The line of a record at a time that has a date. -/
def Style.lineOf (style : Style) (clock : Clock) (r : Record) : Text :=
  '[' :: style.stamp clock ++ "] ".toList ++ style.levelName r.level ++ ' ' :: r.message ++ ['\n']

/-- What is asked of a sink: a message at a level, at some time. -/
structure Call where
  clock : Clock
  level : Level
  template : Text
  values : List Datum

namespace Call

/-- The record that a call makes, if its message can be written. -/
def record? (c : Call) : Option Record :=
  (Template.message c.template c.values).map fun m => ⟨c.level, m⟩

/-- The line that a call hands to the stream, if it is shown. -/
def line? (style : Style) (c : Call) : Option Text :=
  if style.shows c.level then c.record?.bind (style.line? c.clock) else none

theorem line?_of_record {c : Call} {r : Record} (hdate : c.clock.hasDate = true)
    (h : c.record? = some r) (style : Style) :
    c.line? style = if style.shows r.level then some (style.lineOf c.clock r) else none := by
  obtain ⟨m, -, rfl⟩ := Option.map_eq_some_iff.mp h
  simp only [line?, h, Option.bind_some, Style.line?, hdate, ↓reduceIte, Style.lineOf]

/-- The call is made at a time that has a date, makes a record and does not end the run. -/
structure IsSound (c : Call) : Prop where
  date : c.clock.hasDate = true
  record : ∃ r, c.record? = some r
  level : c.level ≠ .fatal

end Call

/-! ## Calls one after the other -/

namespace Sink

variable {k : Sink} {s : Streams} {content : Text}

/-- Makes one call after the other, until one does not return. -/
def logAll (k : Sink) (s : Streams) : List Call → Streams × Option Halt
  | [] => (s, none)
  | c :: more =>
      match k.log s c.clock c.level c.template c.values with
      | (s, none) => k.logAll s more
      | stopped => stopped

/-- Hands a line to the stream; a file that has reached the limit is emptied before. -/
def put (k : Sink) (s : Streams) (line : Text) : Streams :=
  (s.truncateAt k.stream k.limit).write k.stream line

theorem outline_put (k : Sink) (s : Streams) (line : Text) :
    (k.put s line).outline = s.outline :=
  (Streams.outline_write _ _ line).trans (s.outline_truncateAt k.stream k.limit)

theorem memory_put {n : Nat} (k : Sink) (h : s.streams[n]? = some (.memory content))
    (line : Text) :
    (k.put s line).streams[n]? = some (.memory (content ++ if k.stream = n then line else [])) :=
  Streams.memory_write (Streams.memory_truncateAt h k.stream k.limit) k.stream line

theorem isClosedFile_foldl_put (hopen : s.isClosedFile k.stream = false) (lines : List Text) :
    (lines.foldl k.put s).isClosedFile k.stream = false := by
  induction lines generalizing s with
  | nil => exact hopen
  | cons line more ih =>
      exact ih ((Streams.isClosedFile_congr (outline_put k s line) k.stream).trans hopen)

/-- Hands over the line of a record; for a record without one the file may still be emptied. -/
def hand (k : Sink) (s : Streams) : Option Text → Streams
  | some line => k.put s line
  | none => s.truncateAt k.stream k.limit

/-- A call that is shown hands over its line, and only a fatal one does not return. -/
theorem log_of_open (hopen : s.isClosedFile k.stream = false) (c : Call) :
    k.log s c.clock c.level c.template c.values =
      if k.style.shows c.level then
        (k.hand s (c.line? k.style), if c.level = .fatal then some .exit else none)
      else (s, none) := by
  rw [log]
  cases hshows : k.style.shows c.level with
  | false => rfl
  | true =>
      simp only [hopen, Bool.false_eq_true, ↓reduceIte, emit, Call.line?, hshows, Call.record?]
      cases Template.message c.template c.values with
      | none => rfl
      | some m =>
          simp only [Option.bind_some, Option.map_some]
          cases k.style.line? c.clock ⟨c.level, m⟩ <;> rfl

/-- A sound call hands over its line and returns. -/
theorem log_of_isSound {c : Call} (hopen : s.isClosedFile k.stream = false) (hc : c.IsSound) :
    k.log s c.clock c.level c.template c.values
      = ((c.line? k.style).toList.foldl k.put s, none) := by
  obtain ⟨r, hr⟩ := hc.record
  rw [log_of_open hopen, Call.line?_of_record hc.date hr, if_neg hc.level]
  obtain ⟨m, -, rfl⟩ := Option.map_eq_some_iff.mp hr
  cases k.style.shows c.level <;> rfl

/-- Sound calls hand over their lines one after the other. -/
theorem logAll_of_isSound {calls : List Call} (hopen : s.isClosedFile k.stream = false)
    (hcalls : ∀ c ∈ calls, c.IsSound) :
    k.logAll s calls = ((calls.filterMap (Call.line? k.style)).foldl k.put s, none) := by
  induction calls generalizing s with
  | nil => rfl
  | cons c more ih =>
      rw [logAll, log_of_isSound hopen (hcalls c (by simp))]
      simp only
      rw [ih (isClosedFile_foldl_put hopen _) fun c' hc' => hcalls c' (by simp [hc']),
        ← List.foldl_append, List.filterMap_cons]
      cases c.line? k.style <;> rfl

/-- A text in memory takes every line. -/
theorem foldl_put_memory (lines : List Text)
    (h : s.streams[k.stream]? = some (.memory content)) :
    (lines.foldl k.put s).streams[k.stream]? = some (.memory (content ++ lines.flatten)) := by
  induction lines generalizing s content with
  | nil => simpa using h
  | cons line more ih =>
      have hput := memory_put k h line
      rw [if_pos rfl] at hput
      rw [List.foldl_cons, ih hput, List.flatten_cons, List.append_assoc]

end Sink

end SshTunnel.Log
