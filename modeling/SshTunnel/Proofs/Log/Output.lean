import SshTunnel.Proofs.Log.Call
import Mathlib.Data.List.Induction

/-!
# What a sink leaves in its streams

A sink is called time and again, and in between it may be sent to another stream. A text in memory
keeps everything and gets the lines of the calls that were made while the sink wrote to it. A file
that is opened for appending gets the same lines, but is emptied before a line when it has reached
the limit, so that it always ends in the latest line and never grows far beyond the limit.
-/

namespace SshTunnel.Log

/-! ## Lines under a limit -/

/-- A content with a line behind it; a content that has reached the limit is dropped first. -/
def appendUnder (limit : Nat) (content line : Bytes) : Bytes :=
  if limit ≤ content.length then line else content ++ line

/-- What lines leave in a file: each in its turn was put behind a content below the limit or took
the place of the others. So the file holds whole lines in a row up to the latest one, behind what
was there at the start or behind nothing. -/
structure LeavesLines (limit : Nat) (start : Bytes) (lines : List Bytes) (content : Bytes) :
    Prop where
  inTurn : content = lines.foldl (appendUnder limit) start
  whole : ∃ kept older newer, lines = older ++ newer ∧ content = kept ++ newer.flatten ∧
    (kept = [] ∨ kept = start ∧ older = []) ∧ (lines ≠ [] → newer ≠ [])
  latest : ∀ last, lines.getLast? = some last →
    last <:+ content ∧ content.length < limit + last.length

theorem suffix_appendUnder (limit : Nat) (content line : Bytes) :
    line <:+ appendUnder limit content line := by
  unfold appendUnder
  split
  · exact List.suffix_refl line
  · exact List.suffix_append content line

theorem length_appendUnder_lt {limit : Nat} (hlimit : 0 < limit) (content line : Bytes) :
    (appendUnder limit content line).length < limit + line.length := by
  unfold appendUnder
  split
  · omega
  · rw [List.length_append]
    omega

theorem foldl_appendUnder_concat (limit : Nat) (start line : Bytes) (lines : List Bytes) :
    (lines ++ [line]).foldl (appendUnder limit) start
      = appendUnder limit (lines.foldl (appendUnder limit) start) line := by
  rw [List.foldl_append, List.foldl_cons, List.foldl_nil]

theorem foldl_appendUnder_whole (limit : Nat) (start : Bytes) (lines : List Bytes) :
    ∃ kept older newer, lines = older ++ newer ∧
      lines.foldl (appendUnder limit) start = kept ++ newer.flatten ∧
      (kept = [] ∨ kept = start ∧ older = []) ∧ (lines ≠ [] → newer ≠ []) := by
  induction lines using List.reverseRecOn with
  | nil => exact ⟨start, [], [], rfl, (List.append_nil start).symm, Or.inr ⟨rfl, rfl⟩, id⟩
  | append_singleton lines line ih =>
      obtain ⟨kept, older, newer, hlines, hcontent, hkept, -⟩ := ih
      rw [foldl_appendUnder_concat, appendUnder, hcontent]
      split
      · exact ⟨[], lines, [line], rfl, by simp, Or.inl rfl, fun _ => List.cons_ne_nil line []⟩
      · exact ⟨kept, older, newer ++ [line], by simp [hlines], by simp, hkept, by simp⟩

theorem leavesLines_foldl {limit : Nat} (hlimit : 0 < limit) (start : Bytes)
    (lines : List Bytes) :
    LeavesLines limit start lines (lines.foldl (appendUnder limit) start) where
  inTurn := rfl
  whole := foldl_appendUnder_whole limit start lines
  latest := by
    intro last hlast
    obtain ⟨earlier, rfl⟩ := List.getLast?_eq_some_iff.mp hlast
    rw [foldl_appendUnder_concat]
    exact ⟨suffix_appendUnder limit _ last, length_appendUnder_lt hlimit _ last⟩

/-! ## A sink in use -/

/-- What can be done with a sink: it is called, or sent to another stream. -/
inductive Action where
  | log (c : Call)
  | setOutput (number : Nat)

namespace Sink

/-- The sink and the streams after something was done. The exit after a fatal call may be caught,
so that calls can follow it. -/
def after (state : Sink × Streams) : Action → Sink × Streams
  | .log c => (state.1, (state.1.log state.2 c.clock c.level c.template c.values).1)
  | .setOutput number =>
      match state.1.redirect state.2 number with
      | .ok k => (k, state.2)
      | .error _ => state

/-- The sink and the streams after one thing and another was done. -/
def afterAll (state : Sink × Streams) (actions : List Action) : Sink × Streams :=
  actions.foldl after state

/-- The streams that a sink goes through. -/
def outputs (number : Nat) : List Action → List Nat
  | [] => [number]
  | .log _ :: more => outputs number more
  | .setOutput next :: more => number :: outputs next more

/-- The stream that a sink was sent to last. -/
def lastOutput (number : Nat) : List Action → Nat
  | [] => number
  | .log _ :: more => lastOutput number more
  | .setOutput next :: more => lastOutput next more

/-- The lines of the calls made while the sink writes to one of these streams. -/
def linesTo (style : Style) (these : Nat → Bool) (number : Nat) : List Action → List Text
  | [] => []
  | .log c :: more =>
      (if these number then (c.line? style).toList else []) ++ linesTo style these number more
  | .setOutput next :: more => linesTo style these next more

variable {k : Sink} {s : Streams} {n limit : Nat} {content : Text} {place : Files.Location}
  {bytes : Bytes} {c : Call}

theorem mem_outputs (number : Nat) (actions : List Action) : number ∈ outputs number actions := by
  induction actions with
  | nil => exact List.mem_singleton_self number
  | cons a more ih =>
      cases a with
      | log c => exact ih
      | setOutput next => exact List.mem_cons_self

theorem lastOutput_mem (number : Nat) (actions : List Action) :
    lastOutput number actions ∈ outputs number actions := by
  induction actions generalizing number with
  | nil => exact List.mem_singleton_self number
  | cons a more ih =>
      cases a with
      | log c => exact ih number
      | setOutput next => exact List.mem_cons_of_mem number (ih next)

/-! ## One step -/

theorem after_log (hopen : s.isClosedFile k.stream = false) (c : Call) :
    after (k, s) (.log c)
      = (k, if k.style.shows c.level then k.hand s (c.line? k.style) else s) := by
  rw [after, log_of_open hopen]
  cases k.style.shows c.level <;> rfl

theorem after_setOutput (hopen : s.isClosedFile k.stream = false) (number : Nat) :
    after (k, s) (.setOutput number) = ({ k with stream := number }, s) := by
  simp [after, redirect, hopen]

theorem outline_hand (k : Sink) (s : Streams) (line : Option Text) :
    (k.hand s line).outline = s.outline := by
  cases line with
  | none => exact s.outline_truncateAt k.stream k.limit
  | some line => exact outline_put k s line

theorem outline_after_log (hopen : s.isClosedFile k.stream = false) (c : Call) :
    (after (k, s) (.log c)).2.outline = s.outline := by
  rw [after_log hopen]
  split
  · exact outline_hand k s _
  · rfl

theorem line?_of_not_shows {style : Style} (h : style.shows c.level = false) :
    c.line? style = none := by
  rw [Call.line?, h, if_neg Bool.false_ne_true]

theorem shows_of_line? {style : Style} {line : Text} (h : c.line? style = some line) :
    style.shows c.level = true := by
  cases hshows : style.shows c.level with
  | true => rfl
  | false => cases h.symm.trans (line?_of_not_shows hshows)

/-- A text in memory gets the line of a call, if the sink writes to it. -/
theorem memory_after_log (hopen : s.isClosedFile k.stream = false)
    (h : s.streams[n]? = some (.memory content)) (c : Call) :
    (after (k, s) (.log c)).2.streams[n]? = some (.memory
      (content ++ (if k.stream = n then (c.line? k.style).toList else []).flatten)) := by
  rw [after_log hopen]
  cases hshows : k.style.shows c.level with
  | false =>
      rw [line?_of_not_shows hshows]
      simpa using h
  | true =>
      cases hline : c.line? k.style with
      | none => simpa [hand] using Streams.memory_truncateAt h k.stream k.limit
      | some line =>
          have hput := memory_put k h line
          by_cases hn : k.stream = n <;> simpa [hand, hn] using hput

/-- A line that goes to the end of a file; a file that has reached the limit is emptied before. -/
theorem node?_put {mode : Mode} {position : Nat}
    (hfile : s.streams[k.stream]? = some (.file place mode position))
    (hmode : mode.appends = true) (hlimit : k.limit = some limit)
    (hnode : s.files.node? place = some (.file bytes)) (line : Text) :
    (k.put s line).files.node? place
      = some (.file (appendUnder limit bytes (Utf8.encode line))) := by
  have hnode' := Streams.node?_truncateAt hfile hmode hnode limit
  obtain ⟨position', hfile'⟩ :=
    Streams.file_of_outline (s.outline_truncateAt k.stream (some limit)) hfile
  rw [put, hlimit, Streams.node?_write hfile' hmode hnode', appendUnder]
  split <;> rfl

theorem node?_put_of_leadsTo_eq_false (h : s.leadsTo place k.stream = false) (line : Text) :
    (k.put s line).files.node? place = s.files.node? place := by
  have h' : (s.truncateAt k.stream k.limit).leadsTo place k.stream = false := by
    rw [Streams.leadsTo_congr (s.outline_truncateAt k.stream k.limit), h]
  rw [put, Streams.node?_write_of_leadsTo_eq_false h',
    Streams.node?_truncateAt_of_leadsTo_eq_false h]

/-- A call whose message can be written, as far as it is shown, gives its line to the file that the
stream leads to. -/
theorem node?_after_log (hopen : s.isClosedFile k.stream = false) (hlimit : k.limit = some limit)
    (happends : ∀ mode position, s.streams[k.stream]? = some (.file place mode position) →
      mode.appends = true)
    (hwritten : k.style.shows c.level = true → ∃ line, c.line? k.style = some line)
    (hnode : s.files.node? place = some (.file bytes)) :
    (after (k, s) (.log c)).2.files.node? place = some (.file
      (((if s.leadsTo place k.stream then (c.line? k.style).toList else []).map
        Utf8.encode).foldl (appendUnder limit) bytes)) := by
  rw [after_log hopen]
  cases hshows : k.style.shows c.level with
  | false =>
      rw [line?_of_not_shows hshows]
      simpa using hnode
  | true =>
      obtain ⟨line, hline⟩ := hwritten hshows
      rw [hline]
      cases hleads : s.leadsTo place k.stream with
      | true =>
          obtain ⟨mode, position, hfile⟩ := Streams.exists_file_of_leadsTo hleads
          exact node?_put hfile (happends mode position hfile) hlimit hnode line
      | false => exact (node?_put_of_leadsTo_eq_false hleads line).trans hnode

/-! ## A whole run -/

theorem afterAll_concat (state : Sink × Streams) (actions : List Action) (a : Action) :
    afterAll state (actions ++ [a]) = after (afterAll state actions) a := by
  rw [afterAll, List.foldl_append]
  rfl

theorem afterAll_log (k : Sink) (s : Streams) (c : Call) (more : List Action) :
    afterAll (k, s) (.log c :: more) = afterAll (k, (after (k, s) (.log c)).2) more := rfl

theorem afterAll_setOutput (hopen : s.isClosedFile k.stream = false) (next : Nat)
    (more : List Action) :
    afterAll (k, s) (.setOutput next :: more) = afterAll ({ k with stream := next }, s) more := by
  rw [afterAll, List.foldl_cons, after_setOutput hopen, ← afterAll]

/-- A run changes nothing about the sink but its stream, and nothing about where streams lead. -/
theorem afterAll_keeps {actions : List Action}
    (hopen : ∀ i ∈ outputs k.stream actions, s.isClosedFile i = false) :
    (afterAll (k, s) actions).1 = { k with stream := lastOutput k.stream actions } ∧
      (afterAll (k, s) actions).2.outline = s.outline := by
  induction actions generalizing k s with
  | nil => exact ⟨rfl, rfl⟩
  | cons a more ih =>
      have hnow := hopen k.stream (mem_outputs _ _)
      cases a with
      | log c =>
          have houtline := outline_after_log hnow c
          rw [afterAll_log]
          obtain ⟨hsink, hstreams⟩ :=
            ih fun i hi => (Streams.isClosedFile_congr houtline i).trans (hopen i hi)
          exact ⟨hsink, hstreams.trans houtline⟩
      | setOutput next =>
          rw [afterAll_setOutput hnow]
          exact ih (k := { k with stream := next }) fun i hi => hopen i (List.mem_cons_of_mem _ hi)

/-- A text in memory gets the lines of the calls made while the sink writes to it. -/
theorem memory_afterAll {actions : List Action}
    (hopen : ∀ i ∈ outputs k.stream actions, s.isClosedFile i = false)
    (h : s.streams[n]? = some (.memory content)) :
    (afterAll (k, s) actions).2.streams[n]? = some (.memory
      (content ++ (linesTo k.style (· = n) k.stream actions).flatten)) := by
  induction actions generalizing k s content with
  | nil => simpa [afterAll, linesTo] using h
  | cons a more ih =>
      have hnow := hopen k.stream (mem_outputs _ _)
      cases a with
      | log c =>
          have houtline := outline_after_log hnow c
          have hstep := memory_after_log hnow h c
          rw [afterAll_log, ih _ hstep, linesTo, List.flatten_append, List.append_assoc]
          · simp only [decide_eq_true_eq]
          · exact fun i hi => (Streams.isClosedFile_congr houtline i).trans (hopen i hi)
      | setOutput next =>
          rw [afterAll_setOutput hnow]
          exact ih (k := { k with stream := next })
            (fun i hi => hopen i (List.mem_cons_of_mem _ hi)) h

/-- A file that is opened for appending gets the lines of the calls made while the sink writes to
it, each under the limit. -/
theorem node?_afterAll {actions : List Action} (hlimit : k.limit = some limit)
    (hopen : ∀ i ∈ outputs k.stream actions, s.isClosedFile i = false)
    (happends : ∀ i ∈ outputs k.stream actions, ∀ mode position,
      s.streams[i]? = some (.file place mode position) → mode.appends = true)
    (hwritten : ∀ c, .log c ∈ actions → k.style.shows c.level = true →
      ∃ line, c.line? k.style = some line)
    (hnode : s.files.node? place = some (.file bytes)) :
    (afterAll (k, s) actions).2.files.node? place = some (.file
      (((linesTo k.style (s.leadsTo place) k.stream actions).map Utf8.encode).foldl
        (appendUnder limit) bytes)) := by
  induction actions generalizing k s bytes with
  | nil => exact hnode
  | cons a more ih =>
      have hnow := hopen k.stream (mem_outputs _ _)
      have hlater : ∀ c, .log c ∈ more → k.style.shows c.level = true →
          ∃ line, c.line? k.style = some line :=
        fun c hc => hwritten c (List.mem_cons_of_mem _ hc)
      cases a with
      | log c =>
          have houtline := outline_after_log hnow c
          have hstep := node?_after_log hnow hlimit (happends k.stream (mem_outputs _ _))
            (hwritten c List.mem_cons_self) hnode
          rw [afterAll_log, ih hlimit _ _ hlater hstep, Streams.leadsTo_congr houtline, linesTo,
            List.map_append, List.foldl_append]
          · exact fun i hi => (Streams.isClosedFile_congr houtline i).trans (hopen i hi)
          · intro i hi mode position hfile
            obtain ⟨position', hfile'⟩ := Streams.file_of_outline houtline.symm hfile
            exact happends i hi mode position' hfile'
      | setOutput next =>
          rw [afterAll_setOutput hnow]
          exact ih (k := { k with stream := next }) hlimit
            (fun i hi => hopen i (List.mem_cons_of_mem _ hi))
            (fun i hi => happends i (List.mem_cons_of_mem _ hi)) hlater hnode

theorem make_int (style : Style) (number : Nat) {limit : Nat} (hlimit : 0 < limit) :
    make style number (.int limit) = .ok ⟨style, number, some limit⟩ := by
  have hexceeds : (Datum.int limit).exceeds 0 = .ok true := by
    simp [Datum.exceeds, Datum.whole?, hlimit]
  rw [make, hexceeds]
  rfl

/-- What a run of a sink leaves behind, and what the next step makes of it. Texts in memory keep
everything they had and get their lines. A file that is opened for appending holds what its lines
leave under the limit. A call that is not shown changes nothing, and sending the sink to another
stream changes only where it writes to. -/
structure Leaves (k : Sink) (limit : Nat) (s : Streams) (actions : List Action) : Prop where
  memory : ∀ (n : Nat) (content : Text), s.streams[n]? = some (.memory content) →
    (afterAll (k, s) actions).2.streams[n]? = some (.memory
      (content ++ (linesTo k.style (· = n) k.stream actions).flatten))
  file : ∀ (place : Files.Location) (start : Bytes), s.files.node? place = some (.file start) →
    (∀ i ∈ outputs k.stream actions, ∀ mode position,
      s.streams[i]? = some (.file place mode position) → mode.appends = true) →
    (∀ c, .log c ∈ actions → k.style.shows c.level = true → ∃ line, c.line? k.style = some line) →
    ∃ content, (afterAll (k, s) actions).2.files.node? place = some (.file content) ∧
      LeavesLines limit start
        ((linesTo k.style (s.leadsTo place) k.stream actions).map Utf8.encode) content ∧
      ∀ c line, c.line? k.style = some line →
        s.leadsTo place (lastOutput k.stream actions) = true →
        (afterAll (k, s) (actions ++ [.log c])).2.files.node? place
          = some (.file (appendUnder limit content (Utf8.encode line)))
  hidden : ∀ c, k.style.shows c.level = false →
    afterAll (k, s) (actions ++ [.log c]) = afterAll (k, s) actions
  redirected : ∀ next, afterAll (k, s) (actions ++ [.setOutput next])
    = ({ k with stream := next }, (afterAll (k, s) actions).2)

/-- A sink with a positive limit can be made, and over every run it leaves whole lines: all of them
in texts in memory, and in files opened for appending those since the limit was last reached. -/
theorem output_leavesLines (style : Style) (number : Nat) {limit : Nat} (hlimit : 0 < limit) :
    ∃ k, make style number (.int limit) = .ok k ∧ k.style = style ∧ k.stream = number ∧
      ∀ (s : Streams) (actions : List Action),
        (∀ i ∈ outputs number actions, s.isClosedFile i = false) → Leaves k limit s actions := by
  refine ⟨_, make_int style number hlimit, rfl, rfl, fun s actions hopen => ?_⟩
  obtain ⟨hsink, houtline⟩ := afterAll_keeps (k := ⟨style, number, some limit⟩) hopen
  have hstate : afterAll (⟨style, number, some limit⟩, s) actions
      = (⟨style, lastOutput number actions, some limit⟩, _) := Prod.ext hsink rfl
  have hlast := lastOutput_mem number actions
  have hnow := (Streams.isClosedFile_congr houtline _).trans (hopen _ hlast)
  constructor
  case memory => exact fun n content h => memory_afterAll hopen h
  case file =>
    intro place start hstart happends hwritten
    have hnode := node?_afterAll rfl hopen happends hwritten hstart
    refine ⟨_, hnode, leavesLines_foldl hlimit start _, fun c line hline hleads => ?_⟩
    rw [← Streams.leadsTo_congr houtline] at hleads
    obtain ⟨mode, position, hfile⟩ := Streams.exists_file_of_leadsTo hleads
    obtain ⟨position', hfile'⟩ := Streams.file_of_outline houtline.symm hfile
    have hmode := happends _ hlast mode position' hfile'
    rw [afterAll_concat, hstate, after_log hnow, if_pos (shows_of_line? hline), hline]
    exact node?_put hfile hmode rfl hnode line
  case hidden =>
    intro c hhidden
    rw [afterAll_concat, hstate, after_log hnow, if_neg (by simp [hhidden])]
  case redirected =>
    intro next
    rw [afterAll_concat, hstate]
    exact after_setOutput hnow next

/-- A text in memory, and a file with a line in it that is opened for appending. -/
def memoryAndFile : Streams :=
  ⟨⟨[(["log".toList], .file (Utf8.encode "old\n".toList))], []⟩,
    [.memory [], .file ["log".toList] .append 0]⟩

/-- A call at midnight, without values. -/
def atMidnight (level : Level) (message : String) : Call := ⟨0, level, message.toList, []⟩

/-- Two calls that are shown and one that is not, and one more while the sink is sent away. -/
def thereAndBack : List Action :=
  [.log (atMidnight .info "one"), .log (atMidnight .debug "unseen"), .log (atMidnight .info "two"),
    .setOutput 0, .log (atMidnight .warning "three"), .setOutput 1]

/-- The file reaches its limit with the second line, so that the next one takes the place of
all. -/
theorem output_thereAndBack : 0 < 30 ∧ ∃ k, make ⟨false, false⟩ 1 (.int 30) = .ok k ∧
    (afterAll (k, memoryAndFile) thereAndBack).2.streams[0]?
      = some (.memory "[00:00:00] WARNING three\n".toList) ∧
    (∃ content, (afterAll (k, memoryAndFile) thereAndBack).2.files.node? ["log".toList]
        = some (.file content) ∧
      LeavesLines 30 (Utf8.encode "old\n".toList)
        (["[00:00:00] INFO one\n".toList, "[00:00:00] INFO two\n".toList].map Utf8.encode)
        content) ∧
    (afterAll (k, memoryAndFile) (thereAndBack ++ [.log (atMidnight .error "four")])).2.files.node?
        ["log".toList] = some (.file (Utf8.encode "[00:00:00] ERROR four\n".toList)) := by
  obtain ⟨k, hmake, hstyle, hstream, hleaves⟩ :=
    output_leavesLines ⟨false, false⟩ 1 (show 0 < 30 by decide)
  obtain ⟨hmemory, hfile, -, -⟩ := hleaves memoryAndFile thereAndBack (by decide)
  rw [hstyle, hstream] at hmemory hfile
  have happends : ∀ i ∈ outputs 1 thereAndBack, ∀ mode position,
      memoryAndFile.streams[i]? = some (.file ["log".toList] mode position) →
        mode.appends = true := by
    intro i hi mode position h
    obtain rfl | rfl : i = 0 ∨ i = 1 := by
      simp only [outputs, thereAndBack, List.mem_cons, List.not_mem_nil, or_false] at hi
      omega
    · cases h
    · cases h
      rfl
  have hwritten : ∀ c, .log c ∈ thereAndBack → (⟨false, false⟩ : Style).shows c.level = true →
      ∃ line, c.line? ⟨false, false⟩ = some line := by
    intro c hc hshown
    simp only [thereAndBack, List.mem_cons, Action.log.injEq, reduceCtorEq, List.not_mem_nil,
      or_false, false_or] at hc
    rcases hc with rfl | rfl | rfl | rfl
    · exact ⟨_, rfl⟩
    · cases hshown
    · exact ⟨_, rfl⟩
    · exact ⟨_, rfl⟩
  obtain ⟨content, hnode, hlines, hnext⟩ :=
    hfile ["log".toList] (Utf8.encode "old\n".toList) (by decide +kernel) happends hwritten
  have hlines' : LeavesLines 30 (Utf8.encode "old\n".toList)
      (["[00:00:00] INFO one\n".toList, "[00:00:00] INFO two\n".toList].map Utf8.encode)
      content := hlines
  have hfull : appendUnder 30 content (Utf8.encode "[00:00:00] ERROR four\n".toList)
      = Utf8.encode "[00:00:00] ERROR four\n".toList := by
    rw [hlines'.inTurn]
    decide +kernel
  refine ⟨by decide, k, hmake, hmemory 0 [] rfl, ⟨content, hnode, hlines'⟩, ?_⟩
  rw [hnext (atMidnight .error "four") "[00:00:00] ERROR four\n".toList rfl rfl, hfull]

end Sink

end SshTunnel.Log
