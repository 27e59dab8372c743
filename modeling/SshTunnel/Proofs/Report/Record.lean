import SshTunnel.Proofs.Named
import SshTunnel.Proofs.Report.Make

/-!
# Reports as structured records

A structured record takes its values from three places: the report itself, the fields of its
context that are set, and the further fields. A further field that has taken the name of a context
field is refused. The names of the report's own two values are not guarded in this way: a further
field under one of them takes its place.
-/

namespace SshTunnel

namespace Context

variable {c : Context} {further : Record}

/-- The names that the fields of a context have. -/
def fieldNames : List Text :=
  ["host", "port", "username", "key_path", "original_error"].map String.toList

theorem names_fields (c : Context) : c.fields.names = fieldNames := rfl

theorem names_setFields_sublist (c : Context) : c.setFields.names.Sublist fieldNames :=
  List.filter_sublist.map Prod.fst

theorem nodup_names_setFields (c : Context) : c.setFields.names.Nodup :=
  c.names_setFields_sublist.nodup (by decide)

theorem mem_takenNames (c : Context) (further : Record) (name : Text) :
    name ∈ c.takenNames further ↔ name ∈ fieldNames ∧ name ∈ further.names := by
  rw [takenNames, List.mem_filter, List.contains_iff_mem, names_fields]

/-- A field of the context that is set is among the set ones, and no other value is under its
name. -/
theorem get?_setFields_iff (c : Context) (name : Text) (value : Datum) :
    c.setFields.get? name = some value ↔ (name, value) ∈ c.fields ∧ value.isSet = true := by
  rw [Named.get?_eq_some_iff c.nodup_names_setFields, setFields, List.mem_filter]

theorem get?_setFields_of_notMem {name : Text} (h : name ∉ fieldNames) :
    c.setFields.get? name = none :=
  (Named.get?_eq_none_iff _ name).mpr fun hmem => h (c.names_setFields_sublist.mem hmem)

/-- Further fields under names of their own come behind the fields that are set. -/
theorem toRecord_of_disjoint (hextra : c.extra = .record further)
    (hown : ∀ name ∈ fieldNames, name ∉ further.names) :
    c.toRecord = .ok (c.setFields.update further) := by
  have hnone : c.takenNames further = [] :=
    List.eq_nil_iff_forall_not_mem.mpr fun name hmem =>
      hown name ((mem_takenNames c further name).mp hmem).1
        ((mem_takenNames c further name).mp hmem).2
  simp only [toRecord, hextra, hnone, List.isEmpty_nil, ↓reduceIte]

/-- A further field under the name of a context field is refused. -/
theorem toRecord_of_taken (hextra : c.extra = .record further) {name : Text}
    (hfield : name ∈ fieldNames) (hfurther : name ∈ further.names) :
    c.toRecord = .error (.extraNames (c.takenNames further)) := by
  have hmem := (mem_takenNames c further name).mpr ⟨hfield, hfurther⟩
  have hempty : (c.takenNames further).isEmpty = false :=
    List.isEmpty_eq_false_iff.mpr (List.ne_nil_of_mem hmem)
  simp only [toRecord, hextra, hempty, Bool.false_eq_true, ↓reduceIte]

end Context

namespace Report

variable {r : Report} {further d : Record}

/-- The values that a report has besides its context. -/
def ownFields (r : Report) : Record :=
  [("error_type".toList, .text r.kind.name), ("message".toList, .text r.message)]

theorem toRecord_eq (r : Report) : r.toRecord = r.context.toRecord.map r.ownFields.update := rfl

/-- Further fields count before those of the context, and these before the report's own. -/
theorem get?_toRecord (hextra : r.context.extra = .record further) (hnames : further.names.Nodup)
    (h : r.toRecord = .ok d) (name : Text) :
    d.get? name
      = ((further.get? name).or (r.context.setFields.get? name)).or (r.ownFields.get? name) := by
  by_cases htaken : ∃ name ∈ Context.fieldNames, name ∈ further.names
  · obtain ⟨name, hfield, hfurther⟩ := htaken
    rw [toRecord_eq, Context.toRecord_of_taken hextra hfield hfurther] at h
    cases h
  · rw [toRecord_eq, Context.toRecord_of_disjoint hextra fun name hfield hfurther =>
      htaken ⟨name, hfield, hfurther⟩] at h
    cases h
    rw [Named.get?_update_of_nodup
        (Named.nodup_names_update r.context.nodup_names_setFields further),
      Named.get?_update_of_nodup hnames]

/-- The record tells what the report says: its kind, its message, the fields of its context that
are set and the further ones, each under its own name. -/
structure Tells (r : Report) (further d : Record) : Prop where
  kind : d.get? "error_type".toList = some (.text r.kind.name)
  message : d.get? "message".toList = some (.text r.message)
  field : ∀ name value, (name, value) ∈ r.context.fields → value.isSet = true →
    d.get? name = some value
  further : ∀ name value, (name, value) ∈ further → d.get? name = some value

/-- No further field says something else under the name of the kind or of the message. -/
structure KeepsOwn (r : Report) (further : Record) : Prop where
  kind : ∀ v, further.get? "error_type".toList = some v → v = .text r.kind.name
  message : ∀ v, further.get? "message".toList = some v → v = .text r.message

/-- A value of the report itself stands in the record unless a further field has its name. -/
theorem get?_own (hextra : r.context.extra = .record further) (hnames : further.names.Nodup)
    (h : r.toRecord = .ok d) (name : Text) {value : Datum}
    (hfield : name ∉ Context.fieldNames) (hown : r.ownFields.get? name = some value) :
    d.get? name = some value ↔ ∀ v, further.get? name = some v → v = value := by
  rw [get?_toRecord hextra hnames h, Context.get?_setFields_of_notMem hfield, hown]
  cases further.get? name <;> simp

/-- A report whose further fields are not refused is told faithfully, but for its own two values:
these are told exactly when no further field says something else under their names. -/
theorem tells_iff_keepsOwn (hextra : r.context.extra = .record further)
    (hnames : further.names.Nodup)
    (hown : ∀ name ∈ Context.fieldNames, name ∉ further.names) (h : r.toRecord = .ok d) :
    (∀ name value, (name, value) ∈ r.context.fields → value.isSet = true →
        d.get? name = some value) ∧
      (∀ name value, (name, value) ∈ further → d.get? name = some value) ∧
      (Tells r further d ↔ KeepsOwn r further) := by
  have hfields : ∀ name value, (name, value) ∈ r.context.fields → value.isSet = true →
      d.get? name = some value := by
    intro name value hmem hset
    have hnone : further.get? name = none :=
      (Named.get?_eq_none_iff further name).mpr
        (hown name (List.mem_map_of_mem (f := Prod.fst) hmem))
    rw [get?_toRecord hextra hnames h, hnone, Option.none_or,
      (Context.get?_setFields_iff r.context name value).mpr ⟨hmem, hset⟩, Option.some_or]
  have hfurther : ∀ name value, (name, value) ∈ further → d.get? name = some value := by
    intro name value hmem
    rw [get?_toRecord hextra hnames h, (Named.get?_eq_some_iff hnames name value).mpr hmem,
      Option.some_or, Option.some_or]
  have hkind := get?_own hextra hnames h "error_type".toList (by decide) rfl
  have hmessage := get?_own hextra hnames h "message".toList (by decide) rfl
  refine ⟨hfields, hfurther, fun htells => ?_, fun hkeeps => ?_⟩
  · exact ⟨hkind.mp htells.kind, hmessage.mp htells.message⟩
  · exact ⟨hkind.mpr hkeeps.kind, hmessage.mpr hkeeps.message, hfields, hfurther⟩

/-- The record of a report is refused, or tells what the report says, exactly when a further field
has the name of a context field, or when none says something else under the two names of the
report itself. It is refused exactly for the names of context fields, and otherwise the context is
told whatever the further fields are. -/
theorem toRecord_faithful_iff (hextra : r.context.extra = .record further)
    (hnames : further.names.Nodup) :
    (((∃ taken, r.toRecord = .error (.extraNames taken)) ∨
        ∃ d, r.toRecord = .ok d ∧ Tells r further d) ↔
      (∃ name ∈ Context.fieldNames, name ∈ further.names) ∨ KeepsOwn r further) ∧
    ((∃ name ∈ Context.fieldNames, name ∈ further.names) →
      ∃ taken, r.toRecord = .error (.extraNames taken) ∧
        ∀ name, name ∈ taken ↔ name ∈ Context.fieldNames ∧ name ∈ further.names) ∧
    ((∀ name ∈ Context.fieldNames, name ∉ further.names) →
      ∃ d, r.toRecord = .ok d ∧
        (∀ name value, (name, value) ∈ r.context.fields → value.isSet = true →
          d.get? name = some value) ∧
        ∀ name value, (name, value) ∈ further → d.get? name = some value) := by
  have hrefused : (∃ name ∈ Context.fieldNames, name ∈ further.names) →
      r.toRecord = .error (.extraNames (r.context.takenNames further)) := by
    rintro ⟨name, hfield, hfurther⟩
    rw [toRecord_eq, Context.toRecord_of_taken hextra hfield hfurther, Except.map]
  have htold : (∀ name ∈ Context.fieldNames, name ∉ further.names) →
      ∃ d, r.toRecord = .ok d := by
    intro hown
    rw [toRecord_eq, Context.toRecord_of_disjoint hextra hown, Except.map]
    exact ⟨_, rfl⟩
  refine ⟨?_, fun htaken => ?_, fun hown => ?_⟩
  · by_cases htaken : ∃ name ∈ Context.fieldNames, name ∈ further.names
    · exact iff_of_true (Or.inl ⟨_, hrefused htaken⟩) (Or.inl htaken)
    · have hown : ∀ name ∈ Context.fieldNames, name ∉ further.names :=
        fun name hfield hfurther => htaken ⟨name, hfield, hfurther⟩
      obtain ⟨d, hd⟩ := htold hown
      obtain ⟨-, -, htells⟩ := tells_iff_keepsOwn hextra hnames hown hd
      rw [or_iff_right htaken, ← htells]
      constructor
      · rintro (⟨taken, herror⟩ | ⟨d', hd', htells'⟩)
        · cases hd.symm.trans herror
        · cases hd.symm.trans hd'
          exact htells'
      · exact fun htells' => Or.inr ⟨d, hd, htells'⟩
  · exact ⟨_, hrefused htaken, Context.mem_takenNames r.context further⟩
  · obtain ⟨d, hd⟩ := htold hown
    obtain ⟨hfields, hfurther, -⟩ := tells_iff_keepsOwn hextra hnames hown hd
    exact ⟨d, hd, hfields, hfurther⟩

/-- Further fields with names of their own, one of them not set. -/
def tunnelFields : Record := [("tunnel".toList, .text "db".toList), ("line".toList, .null)]

theorem tunnelFields_told :
    ∃ report, (plain .config (.text "invalid port 70000".toList)
        { Context.empty with
          host := .text "db.example".toList
          extra := .record tunnelFields }).outcome = .ok report ∧
      report.context.extra = .record tunnelFields ∧ tunnelFields.names.Nodup ∧
      ∃ d, report.toRecord = .ok d ∧ Tells report tunnelFields d := by
  refine ⟨_, rfl, rfl, by decide, ?_⟩
  refine Or.resolve_left ((toRecord_faithful_iff rfl (by decide)).1.mpr (Or.inr ?_)) ?_
  · exact ⟨nofun, nofun⟩
  · rintro ⟨taken, herror⟩
    cases herror

/-- A further field under the name of the message takes its place. -/
theorem messageField_replacesMessage :
    ∃ report, (plain .tunnel (.text "real".toList)
        { Context.empty with
          extra := .record [("message".toList, .text "fake".toList)] }).outcome = .ok report ∧
      report.message = "real".toList ∧
      report.toRecord = .ok [("error_type".toList, .text "TunnelError".toList),
        ("message".toList, .text "fake".toList)] ∧
      ¬ ((∃ taken, report.toRecord = .error (.extraNames taken)) ∨
        ∃ d, report.toRecord = .ok d ∧
          Tells report [("message".toList, .text "fake".toList)] d) := by
  refine ⟨_, rfl, rfl, rfl, ?_⟩
  rintro (⟨taken, herror⟩ | ⟨d, hd, htells⟩)
  · cases herror
  · cases hd
    cases htells.message

end Report

end SshTunnel
