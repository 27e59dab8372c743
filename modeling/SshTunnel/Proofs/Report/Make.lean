import SshTunnel.Report.Basic
import Mathlib.Tactic.Common

/-!
# Reports that can be made

A report fails to come about for a blank message, an unknown field, a blank key path or a
context that cannot take further fields. A context with a record of further fields takes any.
-/

namespace SshTunnel

/-- A text with a character that is not blank is not blank. -/
theorem Text.isBlankText_eq_false {t : Text} {c : Char} (hmem : c ∈ t)
    (hc : Text.isBlank c = false) : Text.isBlankText t = false := by
  rw [Text.isBlankText, List.all_eq_false]
  exact ⟨c, hmem, by simp [hc]⟩

namespace Context

/-- Further fields are kept as a record. -/
def KeepsRecord (c : Context) : Prop := ∃ entries, c.extra = .record entries

theorem keepsRecord_empty : KeepsRecord empty := ⟨[], rfl⟩

theorem KeepsRecord.withExtra {c : Context} (h : c.KeepsRecord) (name : Text)
    (value : Datum) : ∃ c', c.withExtra name value = .ok c' ∧ c'.KeepsRecord := by
  obtain ⟨entries, hextra⟩ := h
  refine ⟨{ c with extra := .record (Named.set entries name value) }, ?_, _, rfl⟩
  simp only [Context.withExtra, hextra, Datum.withEntry]

theorem KeepsRecord.withOptional {c : Context} (h : c.KeepsRecord) (wanted : Bool)
    (name : Text) (value : Datum) :
    ∃ c', c.withOptional wanted name value = .ok c' ∧ c'.KeepsRecord := by
  cases wanted with
  | true => exact h.withExtra name value
  | false => exact ⟨c, rfl, h⟩

end Context

namespace Report

variable {context : Context} {message : Text}

/-- The report is made, of this kind and with this message. -/
def Makes (made : Except Misuse Report) (kind : Kind) : Prop :=
  ∃ report, made = .ok report ∧ report.kind = kind ∧ report.context.KeepsRecord

theorem make_report (kind : Kind) (context : Context)
    (hmessage : Text.isBlankText message = false) (attributes : Record) :
    (make kind (.text message) context attributes).outcome
      = .ok ⟨kind, message, context, attributes⟩ := by
  simp only [make, hmessage, Bool.false_eq_true, ↓reduceIte]

theorem plain_report (kind : Kind) (context : Context)
    (hmessage : Text.isBlankText message = false) :
    (plain kind (.text message) context).outcome = .ok ⟨kind, message, context, []⟩ :=
  make_report kind context hmessage []

/-- A report about a line of a file carries the path and the line as they were given. -/
theorem located_report (kind : Kind) (pathName : Text) (path line : Datum)
    (h : context.KeepsRecord) (hmessage : Text.isBlankText message = false) :
    ∃ report, (located kind pathName (.text message) path line context).outcome = .ok report ∧
      report.kind = kind ∧ report.context.KeepsRecord ∧
      report.attributes = [("path".toList, path), ("line_no".toList, line)] := by
  obtain ⟨withPath, hpath, hkeeps⟩ := h.withOptional path.isGiven pathName path
  obtain ⟨withLine, hline, hkeeps'⟩ := hkeeps.withOptional line.isSet "line".toList line
  refine ⟨⟨kind, message, withLine, _⟩, ?_, rfl, hkeeps', rfl⟩
  rw [located, hpath, Made.after, hline, Made.after, make_report kind withLine hmessage]

theorem located_makes (kind : Kind) (pathName : Text) (path line : Datum)
    (h : context.KeepsRecord) (hmessage : Text.isBlankText message = false) :
    Makes (located kind pathName (.text message) path line context).outcome kind := by
  obtain ⟨report, hmade, hkind, hkeeps, -⟩ :=
    located_report kind pathName path line h hmessage
  exact ⟨report, hmade, hkind, hkeeps⟩

/-- The path and the line are kept as further fields too. -/
theorem located_fields (kind : Kind) (pathName : Text) {path : Text} (line : Int)
    {entries : Record} (hpath : path ≠ []) (hextra : context.extra = .record entries)
    (hmessage : Text.isBlankText message = false) :
    (located kind pathName (.text message) (.text path) (.int line) context).outcome
      = .ok ⟨kind, message,
        { context with
          extra := .record
            (Named.set (Named.set entries pathName (.text path)) "line".toList (.int line)) },
        [("path".toList, .text path), ("line_no".toList, .int line)]⟩ := by
  have hgiven : (Datum.text path).isGiven = true := by simp [Datum.isGiven, hpath]
  have hset : (Datum.int line).isSet = true := rfl
  simp only [located, Context.withOptional, hgiven, hset, ↓reduceIte, Context.withExtra, hextra,
    Datum.withEntry, Made.after]
  exact make_report kind _ hmessage _

/-- A report about a key file carries its path, and the reason among its further fields. -/
theorem keyLoad_report {path reason : Text} {entries : Record}
    (hextra : context.extra = .record entries) (hmessage : Text.isBlankText message = false)
    (hpath : Text.isBlankText path = false) (hreason : reason ≠ []) :
    (keyLoad (.text message) (.text path) (.text reason) context).outcome
      = .ok ⟨.keyLoad, message,
        { context with
          keyPath := .text path
          extra := .record (Named.set entries "reason".toList (.text reason)) }, []⟩ := by
  have hgiven : (Datum.text reason).isGiven = true := by simp [Datum.isGiven, hreason]
  simp only [keyLoad, isKeyPath, hpath, Bool.not_false, ↓reduceIte, Context.withOptional, hgiven,
    Context.withExtra, hextra, Datum.withEntry, Made.after]
  exact plain_report .keyLoad _ hmessage

/-- A key file under a blank path is not reported. -/
theorem keyLoad_blank {path : Text} (hpath : Text.isBlankText path = true)
    (message reason : Datum) :
    (keyLoad message (.text path) reason context).outcome
      = .error (.blankKeyPath (Text.quoted path)) := by
  rw [keyLoad, isKeyPath, hpath, Bool.not_true, if_neg Bool.false_ne_true]
  rfl

/-- A report about the key of a host carries the host, the port and the fingerprint, and its
record shows them behind its kind and its message. -/
theorem hostKey_report (kind : Kind) (host : Text) {port : Int} {fingerprint : Text}
    (hport : 1 ≤ port ∧ port ≤ 65535) (hmessage : Text.isBlankText message = false)
    (hfingerprint : fingerprint ≠ []) :
    ∃ report, hostKey kind (.text message) (.text host) (.int port) (.text fingerprint)
        = .ok report ∧
      report.kind = kind ∧ report.message = message ∧
      report.attributes = [("host".toList, .text host), ("port".toList, .int port),
        ("fingerprint".toList, .text fingerprint)] ∧
      report.toRecord = .ok [("error_type".toList, .text kind.name),
        ("message".toList, .text message), ("host".toList, .text host),
        ("port".toList, .int port), ("fingerprint".toList, .text fingerprint)] := by
  have hchecked : Context.checked { Context.empty with host := .text host, port := .int port } =
      .ok { Context.empty with host := .text host, port := .int port } := by
    simp [Context.checked, Context.isPort, Datum.whole?, hport]
  have hgiven : (Datum.text fingerprint).isGiven = true := by simp [Datum.isGiven, hfingerprint]
  refine ⟨⟨kind, message, ⟨.text host, .int port, .null, .null, .null,
    .record [("fingerprint".toList, .text fingerprint)]⟩, _⟩, ?_, rfl, rfl, rfl, ?_⟩
  · rw [hostKey, hchecked, Except.bind, hgiven]
    exact make_report kind _ hmessage _
  · rfl

end Report

end SshTunnel
