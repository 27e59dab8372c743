import SshTunnel.HostConfig.Line
import SshTunnel.Proofs.Text.Lines
import Mathlib.Data.List.Chain

/-!
# Quoted texts on a line

Between quotes the blanks, the `=` and the `#` of a text are kept together, as a value or as one
of many arguments. Only a `#` right behind a blank would be taken for a comment.
-/

namespace SshTunnel.HostConfig

/-- No blank has a `#` right behind it. -/
def NoComment (t : Text) : Prop := t.IsChain fun c d => ¬ (Text.isBlank c = true ∧ d = '#')

instance (t : Text) : Decidable (NoComment t) := inferInstanceAs (Decidable (List.IsChain _ t))

/-- A text that keeps its characters between quotes on a line. -/
structure IsQuotable (t : Text) : Prop where
  ne_nil : t ≠ []
  no_quote : '"' ∉ t
  no_break : ∀ c ∈ t, Text.isLineBreak c = false
  no_comment : NoComment t

instance (t : Text) : Decidable (IsQuotable t) :=
  decidable_of_iff
    (t ≠ [] ∧ '"' ∉ t ∧ t.all (fun c => !Text.isLineBreak c) = true ∧ NoComment t)
    ⟨fun h => ⟨h.1, h.2.1, by simpa using h.2.2.1, h.2.2.2⟩,
      fun h => ⟨h.1, h.2, by simpa using h.3, h.4⟩⟩

/-- The text between quotes. -/
def quoted (t : Text) : Text := '"' :: (t ++ ['"'])

/-- Texts between quotes, with a space between neighbours. -/
def quotedList (ts : List Text) : Text := Text.join [' '] (ts.map quoted)

theorem quotedList_cons_cons (t u : Text) (more : List Text) :
    quotedList (t :: u :: more) = quoted t ++ ' ' :: quotedList (u :: more) := by
  simp [quotedList, Text.join]

/-- A text that starts and ends with a quote. -/
structure IsEnclosed (t : Text) : Prop where
  head : t.head? = some '"'
  last : t.getLast? = some '"'

theorem IsEnclosed.trim {t : Text} (h : IsEnclosed t) : Text.trim t = t := by
  apply Text.trim_eq_self
  · intro c hc
    rw [h.head, Option.mem_some_iff] at hc
    exact hc ▸ by decide
  · intro c hc
    rw [h.last, Option.mem_some_iff] at hc
    exact hc ▸ by decide

theorem isEnclosed_quoted (t : Text) : IsEnclosed (quoted t) := by
  constructor
  · rfl
  · rw [quoted, ← List.cons_append, List.getLast?_concat]

theorem isEnclosed_quotedList {ts : List Text} (hne : ts ≠ []) :
    IsEnclosed (quotedList ts) := by
  induction ts with
  | nil => exact absurd rfl hne
  | cons t more ih =>
      cases more with
      | nil => exact isEnclosed_quoted t
      | cons u more =>
          have hmore := ih (by simp)
          have hnext : quotedList (u :: more) ≠ [] := by
            intro hnil
            simpa [hnil] using hmore.head
          rw [quotedList_cons_cons]
          constructor
          · rfl
          · rw [List.append_cons, List.getLast?_append_of_ne_nil _ hnext]
            exact hmore.last

/-! ## Values -/

theorem unquote?_quoted {t : Text} (h : '"' ∉ t) : unquote? (quoted t) = some t := by
  have hcount : (quoted t).count '"' = 2 := by
    simp [quoted, List.count_eq_zero_of_not_mem h]
  rw [unquote?, hcount, (isEnclosed_quoted t).last]
  simp [quoted]

/-! ## Comments -/

theorem beforeComment_eq_self {t : Text} (h : NoComment t) : beforeComment t = t := by
  induction t with
  | nil => rfl
  | cons c t ih =>
      cases t with
      | nil => rfl
      | cons d t =>
          obtain ⟨hcd, hmore⟩ := List.isChain_cons_cons.mp h
          rw [beforeComment, if_neg (by simpa using hcd), ih hmore]

theorem noComment_of_not_blank {t : Text} (h : ∀ c ∈ t, Text.isBlank c = false) :
    NoComment t := by
  induction t with
  | nil => exact List.isChain_nil
  | cons c t ih =>
      have hmore : NoComment t := ih fun d hd => h d (by simp [hd])
      cases t with
      | nil => exact List.isChain_singleton c
      | cons d t =>
          refine List.isChain_cons_cons.mpr ⟨?_, hmore⟩
          simp [h c (by simp)]

/-- A blank and a `#` that meet where two texts are joined make the only new comment. -/
theorem NoComment.append {s t : Text} (hs : NoComment s) (ht : NoComment t)
    (h : t.head? ≠ some '#') : NoComment (s ++ t) := by
  apply List.IsChain.append hs ht
  rintro c - d hd ⟨-, rfl⟩
  exact h hd

/-- A quote shuts a comment out. -/
theorem IsEnclosed.noComment_space {t : Text} (h : IsEnclosed t) (ht : NoComment t) :
    NoComment (' ' :: t) := by
  have hhash : t.head? ≠ some '#' := by simp [h.head]
  exact NoComment.append (List.isChain_singleton ' ') ht hhash

theorem noComment_quoted {t : Text} (h : NoComment t) : NoComment (quoted t) := by
  have hopen : NoComment ('"' :: t) := by
    cases t with
    | nil => exact List.isChain_singleton _
    | cons c t =>
        refine List.isChain_cons_cons.mpr ⟨fun hblank => ?_, h⟩
        exact absurd hblank.1 (by decide)
  exact hopen.append (List.isChain_singleton _) (by simp)

theorem noComment_quotedList {ts : List Text} (h : ∀ t ∈ ts, NoComment t) :
    NoComment (quotedList ts) := by
  induction ts with
  | nil => exact List.isChain_nil
  | cons t more ih =>
      have ht := noComment_quoted (h t (by simp))
      have hmore := ih fun u hu => h u (by simp [hu])
      cases more with
      | nil => exact ht
      | cons u more =>
          rw [quotedList_cons_cons]
          have hnext := isEnclosed_quotedList (List.cons_ne_nil u more)
          exact ht.append (hnext.noComment_space hmore) (by simp)

/-! ## Keywords -/

/-- A word that can stand at the start of a line in front of a value. -/
structure IsKeyword (word : Text) : Prop where
  ne_nil : word ≠ []
  plain : ∀ c ∈ word, Text.isBlank c = false ∧ c ≠ '=' ∧ c ≠ '"'
  not_comment : word.head? ≠ some '#'

instance (word : Text) : Decidable (IsKeyword word) :=
  decidable_of_iff
    (word ≠ [] ∧ word.all (fun c => !Text.isBlank c && c != '=' && c != '"') = true ∧
      word.head? ≠ some '#')
    ⟨fun h => ⟨h.1, by simpa [and_assoc] using h.2.1, h.2.2⟩,
      fun h => ⟨h.1, by simpa [and_assoc] using h.2, h.3⟩⟩

theorem IsKeyword.not_blank {word : Text} (h : IsKeyword word) :
    ∀ c ∈ word, Text.isBlank c = false :=
  fun c hc => (h.plain c hc).1

end SshTunnel.HostConfig
