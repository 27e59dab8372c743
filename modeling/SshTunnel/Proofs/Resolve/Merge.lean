import SshTunnel.Resolve.Resolver
import Mathlib.Tactic.Common

/-!
# Connections with the usual defaults

When only the usual port is a default, merging always succeeds, and each field of the
connection is what the declaration says, or else the entry, or else the usual value.
-/

namespace SshTunnel.Resolve

theorem firstGiven_cons (s : Source) (more : List Source) (f : Field) :
    firstGiven (s :: more) f = ((s f).filter Datum.isGiven).or (firstGiven more f) := by
  rw [firstGiven, List.findSome?_cons, firstGiven]
  cases (s f).filter Datum.isGiven <;> rfl

/-- Sources that all are sources can be merged. -/
theorem mergeChecked_ok (sources : List Source) :
    mergeChecked (sources.map .ok) = .ok (merge sources) := by
  have hmisfit : ∀ f, misfit? f (sources.map .ok) = none := by
    intro f
    induction sources with
    | nil => rfl
    | cons s more ih =>
        rw [List.map_cons, misfit?, ih, ite_self]
  have hsources : (sources.map (Except.ok (ε := Misfit))).filterMap Except.toOption = sources := by
    rw [List.filterMap_map]
    exact List.filterMap_some
  rw [mergeChecked, hsources, List.findSome?_eq_none_iff.mpr fun f _ => hmisfit f]

namespace Resolver

variable {r : Resolver} {d : Declaration} {e : HostEntry}

/-- The port of an entry, or zero when it has none. -/
def entryPort (e : HostEntry) : Int := if hasBadPort e then 0 else e.portNumber

/-- The declared value if it says something, or else the other one. -/
def declaredOr (declared other : Datum) : Datum := if declared.isGiven then declared else other

/-- The fields of a connection when the usual port is the only default. -/
def usualConnection (d : Declaration) (e : HostEntry) : Connection :=
  { hostname := if e.hostname = [] then .text d.host else .text e.hostname
    user := declaredOr d.user (.text e.user)
    port := declaredOr d.port (if entryPort e = 0 then .int 22 else .int (entryPort e))
    identityFile := declaredOr d.identityFile (.text e.identityFile) }

/-- The merged value of a field that all three sources may set. -/
theorem merge_three (s t u : Source) (f : Field) :
    merge [s, t, u] f
      = ((((s f).filter Datum.isGiven).or ((t f).filter Datum.isGiven)).or
          ((u f).filter Datum.isGiven)).getD f.blank := by
  rw [merge, firstGiven_cons, firstGiven_cons, firstGiven_cons, Option.or_assoc]
  simp [firstGiven]

/-- A text that says nothing is the blank one. -/
theorem getD_filter_text (t : Text) :
    ((some (Datum.text t)).filter Datum.isGiven).getD (.text []) = .text t := by
  cases t <;> rfl

theorem getD_filter (declared other : Datum) :
    ((some declared).filter Datum.isGiven).getD other = declaredOr declared other := by
  rw [Option.filter_some, declaredOr]
  split <;> rfl

section Usual

variable (d : Declaration) (e : HostEntry)

/-- A field that no default sets. -/
theorem merge_text {f : Field} {declared : Datum} {t : Text} (hblank : f.blank = .text [])
    (hdeclared : d.source f = some declared) (hentry : entrySource e f = some (.text t))
    (husual : Source.ofRecord builtin f = none) :
    merge [d.source, entrySource e, Source.ofRecord builtin] f
      = declaredOr declared (.text t) := by
  rw [merge_three, hdeclared, hentry, husual, hblank, ← getD_filter]
  cases (some declared).filter Datum.isGiven with
  | none => simpa using getD_filter_text t
  | some value => rfl

theorem merge_hostname :
    merge [d.source, entrySource e, Source.ofRecord builtin] .hostname = .text e.hostname := by
  have husual : Source.ofRecord builtin .hostname = none := rfl
  have hentry : entrySource e .hostname = some (.text e.hostname) := rfl
  have hdeclared : d.source .hostname = none := rfl
  rw [merge_three, hdeclared, hentry, husual]
  simpa [Field.blank] using getD_filter_text e.hostname

theorem merge_port :
    merge [d.source, entrySource e, Source.ofRecord builtin] .port
      = declaredOr d.port (if entryPort e = 0 then .int 22 else .int (entryPort e)) := by
  have husual : Source.ofRecord builtin .port = some (.int 22) := rfl
  have hentry : entrySource e .port = some (.int (entryPort e)) := rfl
  have hdeclared : d.source .port = some d.port := rfl
  rw [merge_three, hdeclared, hentry, husual, ← getD_filter]
  cases (some d.port).filter Datum.isGiven with
  | some value => rfl
  | none =>
      rw [Option.none_or, Option.filter_some, Option.filter_some]
      by_cases hzero : entryPort e = 0
      · rw [if_pos hzero, hzero]
        rfl
      · have hgiven : (Datum.int (entryPort e)).isGiven = true := by
          simpa [Datum.isGiven] using hzero
        rw [if_neg hzero, hgiven]
        rfl

end Usual

theorem connection_builtin (h : r.defaults = .record builtin) (d : Declaration)
    (e : HostEntry) : r.connection d e = .ok (usualConnection d e) := by
  have hchecked := mergeChecked_ok [d.source, entrySource e, Source.ofRecord builtin]
  rw [List.map_cons, List.map_cons, List.map_cons, List.map_nil] at hchecked
  have hhost : (if (Datum.text e.hostname).isGiven then Datum.text e.hostname
      else .text d.host) = if e.hostname = [] then .text d.host else .text e.hostname := by
    cases e.hostname <;> rfl
  rw [connection, h, Source.ofDatum, hchecked, Except.map, merge_hostname, merge_port,
    merge_text d e rfl rfl rfl rfl, merge_text d e rfl rfl rfl rfl, hhost]
  rfl

/-! ## The port -/

theorem entryPort_nonneg (e : HostEntry) : 0 ≤ entryPort e := by
  unfold entryPort
  cases hbad : hasBadPort e with
  | true => exact Int.le_refl 0
  | false =>
      rw [if_neg Bool.false_ne_true]
      cases hport : e.port with
      | nil =>
          rw [HostEntry.portNumber, hport]
          decide
      | cons c rest =>
          simp only [hasBadPort, hport, List.isEmpty_cons, Bool.not_false, Bool.true_and,
            decide_eq_false_iff_not] at hbad
          omega

/-- A declared port that says something is a positive number. -/
theorem declaredPort_pos (d : Declaration) (h : d.port.isGiven = true) :
    ∃ n, d.port.whole? = some n ∧ 1 ≤ n := by
  have hdeclared := d.port_declared
  rw [isDeclaredPort] at hdeclared
  cases hport : d.port with
  | bool b =>
      rw [hport] at h
      cases b with
      | true => exact ⟨1, rfl, Int.le_refl 1⟩
      | false => cases h
  | int n =>
      rw [hport] at h hdeclared
      have hne : n ≠ 0 := by simpa [Datum.isGiven] using h
      have hnonneg : 0 ≤ n := by simpa [Datum.whole?] using hdeclared
      exact ⟨n, rfl, by omega⟩
  | _ =>
      rw [hport] at hdeclared
      cases hdeclared

/-- The port of a connection with the usual defaults is a positive number. -/
theorem usualConnection_port (d : Declaration) (e : HostEntry) :
    ∃ n, (usualConnection d e).port.whole? = some n ∧ 1 ≤ n := by
  simp only [usualConnection, declaredOr]
  cases hgiven : d.port.isGiven with
  | true => exact declaredPort_pos d hgiven
  | false =>
      have hnonneg := entryPort_nonneg e
      rw [if_neg Bool.false_ne_true]
      by_cases hzero : entryPort e = 0
      · rw [if_pos hzero]
        exact ⟨22, rfl, by omega⟩
      · rw [if_neg hzero]
        exact ⟨entryPort e, rfl, by omega⟩

end Resolver

end SshTunnel.Resolve
