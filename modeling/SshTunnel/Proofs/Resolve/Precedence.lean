import SshTunnel.Proofs.Named
import SshTunnel.Proofs.Resolve.Merge

/-!
# Precedence of sources

Merging keeps, for each field, the first value that says something, and a merged result gives
exactly these values again. So sources may be merged in groups, one group after the other, and
what stands behind a value that was found never changes it.
-/

namespace SshTunnel.Resolve

variable {f : Field}

/-! ## Merging in groups -/

theorem firstGiven_append (sources more : List Source) (f : Field) :
    firstGiven (sources ++ more) f = (firstGiven sources f).or (firstGiven more f) :=
  List.findSome?_append

theorem isGiven_of_firstGiven {sources : List Source} {v : Datum}
    (h : firstGiven sources f = some v) : v.isGiven = true := by
  obtain ⟨s, -, hs⟩ := List.exists_of_findSome?_eq_some h
  exact (Option.filter_eq_some_iff.mp hs).2

theorem Field.isGiven_blank (f : Field) : f.blank.isGiven = false := by
  cases f <;> rfl

/-- A merged result says about a field what its sources say first, and nothing more. -/
theorem filter_source_merge (sources : List Source) (f : Field) :
    ((merge sources).source f).filter Datum.isGiven = firstGiven sources f := by
  rw [Merged.source, merge, Option.filter_some]
  cases hfirst : firstGiven sources f with
  | none => rw [Option.getD_none, f.isGiven_blank, if_neg Bool.false_ne_true]
  | some v => rw [Option.getD_some, isGiven_of_firstGiven hfirst, if_pos rfl]

theorem firstGiven_flatten (groups : List (List Source)) (f : Field) :
    firstGiven groups.flatten f = firstGiven (groups.map fun group => (merge group).source) f := by
  induction groups with
  | nil => rfl
  | cons group more ih =>
      calc firstGiven (group :: more).flatten f
          = (firstGiven group f).or (firstGiven more.flatten f) := by
            rw [List.flatten_cons, firstGiven_append]
        _ = firstGiven ((group :: more).map fun group => (merge group).source) f := by
            rw [ih, List.map_cons, firstGiven_cons, filter_source_merge]

/-- Sources can be merged in groups before the results are merged. -/
theorem merge_flatten (groups : List (List Source)) :
    merge groups.flatten = merge (groups.map fun group => (merge group).source) := by
  funext f
  rw [merge, firstGiven_flatten, merge]

/-! ## Records as sources -/

/-- Merged fields under their names. -/
def Merged.record (m : Merged) : Record := Field.all.map fun f => (f.name, m f)

theorem Merged.get?_record (m : Merged) (f : Field) : m.record.get? f.name = some (m f) := by
  cases f <;> rfl

theorem Merged.names_record (m : Merged) : m.record.names = Field.all.map Field.name := rfl

theorem Merged.ofRecord_record (m : Merged) : Source.ofRecord m.record = m.source :=
  funext m.get?_record

/-- Merges records, with the result as a record. -/
def mergeRecords (records : List Record) : Except Misfit Record :=
  (mergeChecked (records.map fun r => Source.ofDatum (.record r))).map Merged.record

theorem mergeRecords_eq (records : List Record) :
    mergeRecords records = .ok (merge (records.map Source.ofRecord)).record := by
  have hsources : (records.map fun r => Source.ofDatum (.record r))
      = (records.map Source.ofRecord).map .ok := by
    rw [List.map_map]
    rfl
  rw [mergeRecords, hsources, mergeChecked_ok, Except.map]

theorem mergeRecords_groups (groups : List (List Record)) :
    mergeRecords (groups.map fun group => (merge (group.map Source.ofRecord)).record)
      = mergeRecords groups.flatten := by
  rw [mergeRecords_eq, mergeRecords_eq, List.map_flatten, merge_flatten, List.map_map, List.map_map]
  congr 3
  exact List.map_congr_left fun group _ => Merged.ofRecord_record _

/-- A record without a value for the field, or with one that is empty. -/
def SaysNothing (f : Field) (r : Record) : Prop :=
  ∀ v, r.get? f.name = some v → v.isGiven = false

theorem saysNothing_iff (f : Field) (r : Record) :
    SaysNothing f r ↔ (Source.ofRecord r f).filter Datum.isGiven = none := by
  simp [SaysNothing, Source.ofRecord, Option.filter_eq_none_iff]

/-- The value is the one that counts for a field: the first that says something, or the blank one
when no record has any. -/
inductive Counts (f : Field) (records : List Record) : Datum → Prop where
  | first {before after : List Record} {r : Record} {v : Datum}
      (hrecords : records = before ++ r :: after) (hbefore : ∀ r' ∈ before, SaysNothing f r')
      (hv : r.get? f.name = some v) (hgiven : v.isGiven = true) : Counts f records v
  | blank (hnone : ∀ r ∈ records, SaysNothing f r) : Counts f records f.blank

theorem counts_merge (f : Field) (records : List Record) :
    Counts f records (merge (records.map Source.ofRecord) f) := by
  have hfirst : firstGiven (records.map Source.ofRecord) f
      = records.findSome? fun r => (Source.ofRecord r f).filter Datum.isGiven :=
    List.findSome?_map
  rw [merge, hfirst]
  cases hvalue : records.findSome? fun r => (Source.ofRecord r f).filter Datum.isGiven with
  | none =>
      refine .blank fun r hr => (saysNothing_iff f r).mpr ?_
      exact List.findSome?_eq_none_iff.mp hvalue r hr
  | some v =>
      obtain ⟨before, r, after, hrecords, hr, hbefore⟩ := List.findSome?_eq_some_iff.mp hvalue
      obtain ⟨hv, hgiven⟩ := Option.filter_eq_some_iff.mp hr
      exact .first hrecords (fun r' hr' => (saysNothing_iff f r').mpr (hbefore r' hr')) hv hgiven

/-- Merging lists of records one after the other is merging their results, and merging one result
changes nothing. Each field has the first value that says something, and a field that is set stays
as it is whatever follows. -/
theorem mergeRecords_inOrder (records more : List Record) :
    ∃ m m' both, mergeRecords records = .ok m ∧ mergeRecords more = .ok m' ∧
      mergeRecords (records ++ more) = .ok both ∧ mergeRecords [m, m'] = .ok both ∧
      mergeRecords [m] = .ok m ∧ m.names = Field.all.map Field.name ∧
      (∀ f : Field, ∃ v, m.get? f.name = some v ∧ Counts f records v) ∧
      ∀ (f : Field) (v : Datum), m.get? f.name = some v → v.isGiven = true →
        both.get? f.name = some v := by
  refine ⟨_, _, _, mergeRecords_eq records, mergeRecords_eq more, mergeRecords_eq _, ?_, ?_,
    Merged.names_record _, ?_, ?_⟩
  · rw [← mergeRecords_eq]
    simpa using mergeRecords_groups [records, more]
  · rw [← mergeRecords_eq]
    simpa using mergeRecords_groups [records]
  · exact fun f => ⟨_, Merged.get?_record _ f, counts_merge f records⟩
  · intro f v hv hgiven
    rw [Merged.get?_record, Option.some.injEq, merge] at hv
    subst hv
    rw [Merged.get?_record, List.map_append, merge, firstGiven_append]
    cases hfirst : firstGiven (records.map Source.ofRecord) f with
    | none =>
        rw [hfirst, Option.getD_none, f.isGiven_blank] at hgiven
        cases hgiven
    | some v => rfl

end SshTunnel.Resolve
