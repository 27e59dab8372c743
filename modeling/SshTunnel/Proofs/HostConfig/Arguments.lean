import SshTunnel.HostConfig.Load
import SshTunnel.Proofs.HostConfig.Line
import SshTunnel.Proofs.HostConfig.Quotes
import Mathlib.Data.List.Infix

/-!
# Arguments of a value

A value in which no quote stays open falls into pieces at the blanks outside of quotes. Its
arguments are the pieces without their quotes, in order, and a piece in which nothing else stands
is none. So only quotes and such blanks are lost, there is no argument in a value without other
characters, and texts that are written between quotes, with any blanks between neighbours, come
back as they are.
-/

namespace SshTunnel.HostConfig

/-- Behind `front`, no quote stays open in the text, and blanks stand only where one is. -/
structure IsPieceAfter (front t : Text) : Prop where
  closed : ¬ IsOpen (front ++ t)
  blank_open : ∀ before c after, t = before ++ c :: after → Text.isBlank c = true →
    IsOpen (front ++ before)

/-- No quote stays open in the text, and blanks stand only between quotes. -/
def IsPiece (t : Text) : Prop := IsPieceAfter [] t

/-- The pieces of a value, which a blank outside of quotes keeps apart. -/
inductive FallsInto : Text → List Text → Prop
  | whole {piece : Text} (h : IsPiece piece) : FallsInto piece [piece]
  | apart {piece value : Text} {pieces : List Text} {b : Char} (h : IsPiece piece)
      (hblank : Text.isBlank b = true) (more : FallsInto value pieces) :
      FallsInto (piece ++ b :: value) (piece :: pieces)

/-- The text without its quotes. -/
def withoutQuotes (t : Text) : Text := t.filter (· ≠ '"')

/-- The character is no quote, and no blank unless the text in front of it leaves a quote open. -/
def IsKept (c : Char) (front : Text) : Prop := c ≠ '"' ∧ (Text.isBlank c = true → IsOpen front)

instance (c : Char) (front : Text) : Decidable (IsKept c front) :=
  inferInstanceAs (Decidable (_ ∧ _))

/-- The value without its quotes and without the blanks outside of quotes. -/
def condensed (value : Text) : Text :=
  ((value.zip value.inits).filter fun p => IsKept p.1 p.2).map Prod.fst

/-- The value is these texts between quotes, with blanks between neighbours. -/
inductive WritesQuoted : List Text → Text → Prop
  | none : WritesQuoted [] []
  | one (t : Text) : WritesQuoted [t] (quoted t)
  | more {t u gap value : Text} {ts : List Text} (hgap : gap ≠ [])
      (hblank : ∀ b ∈ gap, Text.isBlank b = true) (h : WritesQuoted (u :: ts) value) :
      WritesQuoted (t :: u :: ts) (quoted t ++ (gap ++ value))

/-! ## Pieces -/

theorem ne_quote_of_blank {b : Char} (h : Text.isBlank b = true) : b ≠ '"' := by
  rintro rfl
  exact absurd h (by decide)

theorem isOpen_append_congr {s s' : Text} (h : IsOpen s ↔ IsOpen s') (t : Text) :
    IsOpen (s ++ t) ↔ IsOpen (s' ++ t) := by
  simp only [IsOpen, List.count_append] at h ⊢
  omega

theorem isPieceAfter_nil (front : Text) : IsPieceAfter front [] ↔ ¬ IsOpen front := by
  constructor
  · intro h
    simpa using h.closed
  · intro h
    refine ⟨by simpa using h, ?_⟩
    intro before c after hnil
    cases before <;> cases hnil

theorem isPieceAfter_cons (front : Text) (c : Char) (t : Text) :
    IsPieceAfter front (c :: t) ↔
      (Text.isBlank c = true → IsOpen front) ∧ IsPieceAfter (front ++ [c]) t := by
  constructor
  · rintro ⟨hclosed, hblank⟩
    refine ⟨by simpa using hblank [] c t rfl, by simpa using hclosed, ?_⟩
    rintro before d after rfl
    simpa using hblank (c :: before) d after rfl
  · rintro ⟨hfirst, hclosed, hblank⟩
    refine ⟨by simpa using hclosed, ?_⟩
    intro before d after h
    cases before with
    | nil =>
        obtain ⟨rfl, rfl⟩ := List.cons.inj h
        simpa using hfirst
    | cons e before =>
        obtain ⟨rfl, rfl⟩ := List.cons.inj h
        simpa using hblank before d after rfl

theorem isPiece_nil : IsPiece [] := (isPieceAfter_nil []).mpr not_isOpen_nil

/-- Up to the closing quote every character stands between quotes. -/
theorem isPieceAfter_closing {front t : Text} (hopen : IsOpen front) (h : '"' ∉ t) :
    IsPieceAfter front (t ++ ['"']) := by
  induction t generalizing front with
  | nil =>
      rw [List.nil_append, isPieceAfter_cons, isPieceAfter_nil, isOpen_concat_quote, not_not]
      exact ⟨fun _ => hopen, hopen⟩
  | cons c t ih =>
      obtain ⟨hc, ht⟩ : c ≠ '"' ∧ '"' ∉ t := by simpa [eq_comm] using h
      rw [List.cons_append, isPieceAfter_cons]
      exact ⟨fun _ => hopen, ih ((isOpen_concat hc front).mpr hopen) ht⟩

theorem isPiece_quoted {t : Text} (h : '"' ∉ t) : IsPiece (quoted t) := by
  rw [IsPiece, quoted, isPieceAfter_cons]
  exact ⟨fun hblank => absurd hblank (by decide), isPieceAfter_closing (by decide) h⟩

theorem withoutQuotes_quoted {t : Text} (h : '"' ∉ t) : withoutQuotes (quoted t) = t := by
  have hall : ∀ c ∈ t, c ≠ '"' := fun c hc heq => h (heq ▸ hc)
  simpa [withoutQuotes, quoted] using hall

theorem quote_notMem_withoutQuotes (t : Text) : '"' ∉ withoutQuotes t := by
  simp [withoutQuotes]

/-- A piece, and behind it nothing or a blank and more pieces, stands in every text that leaves no
quote open. -/
theorem exists_piece {front t : Text} (h : ¬ IsOpen (front ++ t)) :
    ∃ piece, IsPieceAfter front piece ∧
      (t = piece ∨ ∃ b value pieces, t = piece ++ b :: value ∧ Text.isBlank b = true ∧
        FallsInto value pieces) := by
  induction t generalizing front with
  | nil => exact ⟨[], (isPieceAfter_nil front).mpr (by simpa using h), Or.inl rfl⟩
  | cons c t ih =>
      by_cases hcut : Text.isBlank c = true → IsOpen front
      · obtain ⟨piece, hpiece, hrest⟩ := @ih (front ++ [c]) (by simpa using h)
        refine ⟨c :: piece, (isPieceAfter_cons front c piece).mpr ⟨hcut, hpiece⟩, ?_⟩
        rcases hrest with rfl | ⟨b, value, pieces, rfl, hb, hvalue⟩
        · exact Or.inl rfl
        · exact Or.inr ⟨b, value, pieces, rfl, hb, hvalue⟩
      · -- The blank ends an empty piece, and what follows it starts anew.
        obtain ⟨hblank, hclosed⟩ := Classical.not_imp.mp hcut
        have hstart : IsOpen (front ++ [c]) ↔ IsOpen [] := by
          simp [isOpen_concat (ne_quote_of_blank hblank), hclosed, not_isOpen_nil]
        have ht : ¬ IsOpen ([] ++ t) := by
          rw [← isOpen_append_congr hstart]
          simpa using h
        refine ⟨[], (isPieceAfter_nil front).mpr hclosed, Or.inr ?_⟩
        obtain ⟨piece, hpiece, rfl | ⟨b, value, pieces, rfl, hb, hvalue⟩⟩ := ih ht
        · exact ⟨c, _, _, rfl, hblank, .whole hpiece⟩
        · exact ⟨c, _, _, rfl, hblank, .apart hpiece hb hvalue⟩

theorem exists_fallsInto {value : Text} (h : ¬ IsOpen value) :
    ∃ pieces, FallsInto value pieces := by
  obtain ⟨piece, hpiece, rfl | ⟨b, rest, pieces, rfl, hb, hrest⟩⟩ :=
    @exists_piece [] value (by simpa using h)
  · exact ⟨_, .whole hpiece⟩
  · exact ⟨_, .apart hpiece hb hrest⟩

/-! ## Reading pieces -/

/-- A piece goes into the argument under way without its quotes. -/
theorem argumentsFrom_piece {front piece : Text} (h : IsPieceAfter front piece) (rest : Text) :
    argumentsFrom (decide (IsOpen front)) (piece ++ rest) =
      (argumentsFrom false rest).map fun r => (withoutQuotes piece ++ r.1, r.2) := by
  induction piece generalizing front with
  | nil =>
      rw [decide_eq_false ((isPieceAfter_nil front).mp h)]
      simp [withoutQuotes]
  | cons c piece ih =>
      obtain ⟨hblank, hpiece⟩ := (isPieceAfter_cons front c piece).mp h
      have hmore := ih hpiece
      rw [List.cons_append, argumentsFrom]
      by_cases hquote : c = '"'
      · subst hquote
        simpa [isOpen_concat_quote, withoutQuotes] using hmore
      · have hinside : (Text.isBlank c && !decide (IsOpen front)) = false := by
          simpa [← Bool.not_eq_true] using hblank
        simp only [isOpen_concat hquote] at hmore
        simp [hquote, hinside, hmore, Option.map_map, Function.comp_def, withoutQuotes]

theorem arguments?_whole {piece : Text} (h : IsPiece piece) :
    arguments? piece = some (consArgument (withoutQuotes piece) []) := by
  have hread := argumentsFrom_piece h []
  rw [decide_eq_false not_isOpen_nil, List.append_nil] at hread
  simp [arguments?, hread, argumentsFrom]

/-- A piece with a blank behind it is an argument in front of the others. -/
theorem arguments?_apart {piece : Text} {b : Char} (h : IsPiece piece)
    (hblank : Text.isBlank b = true) (value : Text) :
    arguments? (piece ++ b :: value) =
      (arguments? value).map (consArgument (withoutQuotes piece)) := by
  have hread := argumentsFrom_piece h (b :: value)
  rw [decide_eq_false not_isOpen_nil, argumentsFrom, if_neg (ne_quote_of_blank hblank),
    if_pos (by simp [hblank])] at hread
  simp [arguments?, hread, Option.map_map, Function.comp_def]

theorem consArgument_filter (argument : Text) (pieces : List Text) :
    consArgument argument (pieces.filter (· ≠ [])) = (argument :: pieces).filter (· ≠ []) := by
  cases argument <;> simp [consArgument]

theorem FallsInto.arguments? {value : Text} {pieces : List Text} (h : FallsInto value pieces) :
    HostConfig.arguments? value = some ((pieces.map withoutQuotes).filter (· ≠ [])) := by
  induction h with
  | whole hpiece =>
      rw [arguments?_whole hpiece, List.map_singleton, ← consArgument_filter]
      rfl
  | apart hpiece hblank _ ih =>
      rw [arguments?_apart hpiece hblank, ih, Option.map_some, List.map_cons, consArgument_filter]

/-- The arguments are the pieces without their quotes, but for the empty ones. -/
theorem arguments?_eq_some_iff (value : Text) (list : List Text) :
    arguments? value = some list ↔ ∃ pieces, FallsInto value pieces ∧
      list = (pieces.map withoutQuotes).filter (· ≠ []) := by
  constructor
  · intro h
    have hclosed : ¬ IsOpen value := by
      rw [← arguments?_eq_none_iff, h]
      exact Option.some_ne_none list
    obtain ⟨pieces, hpieces⟩ := exists_fallsInto hclosed
    exact ⟨pieces, hpieces, Option.some.inj (h.symm.trans hpieces.arguments?)⟩
  · rintro ⟨pieces, hpieces, rfl⟩
    exact hpieces.arguments?

/-! ## What is kept -/

/-- What `condensed` keeps of a text behind `front`. -/
def condensedAfter (front t : Text) : Text :=
  ((t.zip (t.inits.map (front ++ ·))).filter fun p => IsKept p.1 p.2).map Prod.fst

theorem condensedAfter_cons (front : Text) (c : Char) (t : Text) :
    condensedAfter front (c :: t) =
      if IsKept c front then c :: condensedAfter (front ++ [c]) t
      else condensedAfter (front ++ [c]) t := by
  have hfronts : t.inits.map (fun before => front ++ [c] ++ before) =
      (t.inits.map (c :: ·)).map (front ++ ·) := by
    simp
  simp only [condensedAfter, hfronts, List.inits_cons, List.map_cons, List.append_nil,
    List.zip_cons_cons, List.filter_cons, decide_eq_true_eq]
  split <;> rfl

theorem condensedAfter_congr {front front' : Text} (h : IsOpen front ↔ IsOpen front') (t : Text) :
    condensedAfter front t = condensedAfter front' t := by
  induction t generalizing front front' with
  | nil => rfl
  | cons c t ih =>
      have hkept : IsKept c front ↔ IsKept c front' := by simp only [IsKept, h]
      simp only [condensedAfter_cons, ih (isOpen_append_congr h [c]), hkept]

theorem condensedAfter_piece {front piece : Text} (h : IsPieceAfter front piece) (rest : Text) :
    condensedAfter front (piece ++ rest) = withoutQuotes piece ++ condensedAfter [] rest := by
  induction piece generalizing front with
  | nil =>
      have hclosed : IsOpen front ↔ IsOpen [] := by
        simp [(isPieceAfter_nil front).mp h, not_isOpen_nil]
      exact condensedAfter_congr hclosed rest
  | cons c piece ih =>
      obtain ⟨hblank, hpiece⟩ := (isPieceAfter_cons front c piece).mp h
      rw [List.cons_append, condensedAfter_cons, ih hpiece]
      by_cases hquote : c = '"'
      · simp [IsKept, withoutQuotes, hquote]
      · rw [if_pos ⟨hquote, hblank⟩]
        simp [withoutQuotes, hquote]

theorem condensed_eq (value : Text) : condensed value = condensedAfter [] value := by
  simp [condensed, condensedAfter]

/-- Of a value that falls into pieces only quotes and the blanks between pieces are left out. -/
theorem FallsInto.condensed {value : Text} {pieces : List Text} (h : FallsInto value pieces) :
    HostConfig.condensed value = (pieces.map withoutQuotes).flatten := by
  simp only [condensed_eq]
  induction h with
  | @whole piece hpiece =>
      have hread := condensedAfter_piece hpiece []
      rw [List.append_nil] at hread
      rw [hread, List.map_singleton, List.flatten_singleton]
      exact List.append_nil _
  | @apart piece value pieces b hpiece hblank _ ih =>
      have hdropped : ¬ IsKept b [] := fun hkept => not_isOpen_nil (hkept.2 hblank)
      have hclosed : IsOpen ([] ++ [b]) ↔ IsOpen [] :=
        isOpen_concat (ne_quote_of_blank hblank) []
      calc condensedAfter [] (piece ++ b :: value)
          = withoutQuotes piece ++ condensedAfter [] (b :: value) :=
            condensedAfter_piece hpiece _
        _ = withoutQuotes piece ++ condensedAfter ([] ++ [b]) value := by
            rw [condensedAfter_cons, if_neg hdropped]
        _ = withoutQuotes piece ++ condensedAfter [] value := by
            rw [condensedAfter_congr hclosed]
        _ = ((piece :: pieces).map withoutQuotes).flatten := by
            rw [ih, List.map_cons, List.flatten_cons]

theorem condensedAfter_eq_nil_iff (front t : Text) :
    condensedAfter front t = [] ↔ ¬ HasArgumentAfter front t := by
  induction t generalizing front with
  | nil => simp [condensedAfter, not_hasArgumentAfter_nil]
  | cons c t ih =>
      have hkept : IsKept c front ↔ c ≠ '"' ∧ (Text.isBlank c = true → IsOpen front) := Iff.rfl
      rw [condensedAfter_cons, hasArgumentAfter_cons, ← hkept]
      split
      next h => simp [h]
      next h => simp [h, ih]

/-- The list of arguments is empty when the value has no character of one. -/
theorem arguments?_eq_nil_iff (value : Text) :
    arguments? value = some [] ↔ ¬ IsOpen value ∧ ¬ HasArgument value := by
  by_cases hopen : IsOpen value
  · simp [(arguments?_eq_none_iff value).mpr hopen, hopen]
  · obtain ⟨pieces, hpieces⟩ := exists_fallsInto hopen
    rw [HasArgument, ← condensedAfter_eq_nil_iff, ← condensed_eq, hpieces.condensed,
      hpieces.arguments?]
    simp [hopen]

/-! ## Texts between quotes -/

/-- Blanks in front of a value are no arguments. -/
theorem arguments?_gap {gap : Text} (h : ∀ b ∈ gap, Text.isBlank b = true) (value : Text) :
    arguments? (gap ++ value) = arguments? value := by
  induction gap with
  | nil => rfl
  | cons b gap ih =>
      rw [List.forall_mem_cons] at h
      have hread := arguments?_apart isPiece_nil h.1 (gap ++ value)
      rw [List.nil_append] at hread
      rw [List.cons_append, hread, ih h.2]
      exact Option.map_id'

/-- Texts between quotes are read back as arguments, one for each. -/
theorem WritesQuoted.arguments? {ts : List Text} {value : Text} (h : WritesQuoted ts value)
    (hts : ∀ t ∈ ts, t ≠ [] ∧ '"' ∉ t) : HostConfig.arguments? value = some ts := by
  induction h with
  | none => rfl
  | one t =>
      obtain ⟨hne, hquote⟩ := hts t (by simp)
      rw [arguments?_whole (isPiece_quoted hquote), withoutQuotes_quoted hquote]
      simp [consArgument, hne]
  | @more t u gap value ts hgap hblank _ ih =>
      obtain ⟨⟨hne, hquote⟩, hmore⟩ := List.forall_mem_cons.mp hts
      obtain ⟨b, gap, rfl⟩ := List.exists_cons_of_ne_nil hgap
      rw [List.forall_mem_cons] at hblank
      calc HostConfig.arguments? (quoted t ++ (b :: gap ++ value))
          = (HostConfig.arguments? (gap ++ value)).map (consArgument (withoutQuotes (quoted t))) :=
            arguments?_apart (isPiece_quoted hquote) hblank.1 _
        _ = (some (u :: ts)).map (consArgument t) := by
            rw [arguments?_gap hblank.2, ih hmore, withoutQuotes_quoted hquote]
        _ = some (t :: u :: ts) := by
            simp [consArgument, hne]

/-- The same blanks may stand between all neighbours. -/
theorem writesQuoted_join {gap : Text} (hgap : gap ≠ [])
    (hblank : ∀ b ∈ gap, Text.isBlank b = true) (ts : List Text) :
    WritesQuoted ts (Text.join gap (ts.map quoted)) := by
  induction ts with
  | nil => exact .none
  | cons t ts ih =>
      cases ts with
      | nil => exact .one t
      | cons u ts =>
          have hjoin : Text.join gap ((t :: u :: ts).map quoted) =
              quoted t ++ (gap ++ Text.join gap ((u :: ts).map quoted)) := by
            simp [Text.join]
          rw [hjoin]
          exact .more hgap hblank ih

/-! ## Arguments -/

/-- A value has arguments unless a quote stays open in it, and a Host line or an Include line with
such a value is refused. The arguments are the pieces of the value without their quotes. None of
them is empty, and together they are the value without its quotes and without the blanks outside of
quotes. Texts between quotes, with any blanks between neighbours, are read back one for each. -/
theorem arguments_splitAtBlanks (value : Text) :
    (arguments? value = none ↔ IsOpen value) ∧
    (IsOpen value → Statement.ofParts "host".toList value = .error .unbalancedQuotes ∧
      ∀ env load path scope number, readIncluded env load path scope number value =
        .error (.line ⟨path, number, .unbalancedQuotes⟩)) ∧
    (¬ IsOpen value → ∃ list, arguments? value = some list ∧
      (∃ pieces, FallsInto value pieces ∧ list = (pieces.map withoutQuotes).filter (· ≠ [])) ∧
      (∀ argument ∈ list, argument ≠ [] ∧ '"' ∉ argument) ∧ list.flatten = condensed value) ∧
    ∀ ts, (∀ t ∈ ts, t ≠ [] ∧ '"' ∉ t) → WritesQuoted ts value → arguments? value = some ts := by
  refine ⟨arguments?_eq_none_iff value, fun hopen => ?_, fun hclosed => ?_,
    fun ts hts hwrites => hwrites.arguments? hts⟩
  · have hnone := (arguments?_eq_none_iff value).mpr hopen
    refine ⟨by simp [Statement.ofParts, hnone], fun env load path scope number => ?_⟩
    rw [readIncluded, hnone]
  · have hsome : arguments? value ≠ none := mt (arguments?_eq_none_iff value).mp hclosed
    obtain ⟨list, hread⟩ := Option.ne_none_iff_exists'.mp hsome
    obtain ⟨pieces, hpieces, rfl⟩ := (arguments?_eq_some_iff value list).mp hread
    refine ⟨_, hread, ⟨pieces, hpieces, rfl⟩, fun argument hmem => ?_, ?_⟩
    · obtain ⟨hpiece, hne⟩ := List.mem_filter.mp hmem
      obtain ⟨piece, -, rfl⟩ := List.mem_map.mp hpiece
      exact ⟨by simpa using hne, quote_notMem_withoutQuotes piece⟩
    · rw [hpieces.condensed, List.flatten_filter_ne_nil]

/-- An argument of three parts, an empty pair of quotes and one more argument. -/
def gluedValue : Text :=
  "x".toList ++ quoted "a b".toList ++ "y\t".toList ++ quoted [] ++ " z".toList

/-- Two texts with a tab and a space between them. -/
def quotedPair : Text := quoted "d b".toList ++ ("\t ".toList ++ quoted "#db".toList)

theorem samples_splitAtBlanks :
    (IsOpen ('"' :: gluedValue) ∧ arguments? ('"' :: gluedValue) = none ∧
      Statement.ofParts "host".toList ('"' :: gluedValue) = .error .unbalancedQuotes) ∧
    (¬ IsOpen gluedValue ∧ arguments? gluedValue = some ["xa by".toList, "z".toList] ∧
      condensed gluedValue = "xa byz".toList) ∧
    WritesQuoted ["d b".toList, "#db".toList] quotedPair ∧
      arguments? quotedPair = some ["d b".toList, "#db".toList] := by
  have hopen : IsOpen ('"' :: gluedValue) := by decide
  have hclosed : ¬ IsOpen gluedValue := by decide
  have hwrites : WritesQuoted ["d b".toList, "#db".toList] quotedPair :=
    .more (by decide) (List.all_eq_true.mp (by decide)) (.one _)
  obtain ⟨hnone, hrefused, -, -⟩ := arguments_splitAtBlanks ('"' :: gluedValue)
  obtain ⟨list, hread, -, -, hkept⟩ := (arguments_splitAtBlanks gluedValue).2.2.1 hclosed
  obtain ⟨-, -, -, hback⟩ := arguments_splitAtBlanks quotedPair
  have hlist : arguments? gluedValue = some ["xa by".toList, "z".toList] := by decide
  obtain rfl := Option.some.inj (hread.symm.trans hlist)
  exact ⟨⟨hopen, hnone.mpr hopen, (hrefused hopen).1⟩, ⟨hclosed, hread, hkept.symm⟩, hwrites,
    hback _ (by decide) hwrites⟩

end SshTunnel.HostConfig
