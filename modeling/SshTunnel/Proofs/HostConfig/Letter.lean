import SshTunnel.Proofs.HostConfig.Grammar
import SshTunnel.Proofs.HostConfig.Quotes

/-!
# A letter in the place of `#`

Outside of comments `#` is a character of a keyword, a value or an argument like any other. So
the parts of a line, its value without quotes and its arguments have the letter where they had
`#`, when the line has.
-/

namespace SshTunnel.HostConfig

/-- A character that is no blank and has no meaning of its own on a line. -/
structure IsOrdinary (x : Char) : Prop where
  not_blank : Text.isBlank x = false
  not_mark : x ∉ ['"', '=', '#']

/-- The character, or `x` in the place of `#`. -/
def letterFor (x c : Char) : Char := if c = '#' then x else c

/-- The text with `x` in the place of every `#`. -/
def lettered (x : Char) (t : Text) : Text := t.map (letterFor x)

theorem lettered_eq_self {t : Text} (x : Char) (h : '#' ∉ t) : lettered x t = t := by
  have hsame : ∀ c ∈ t, letterFor x c = id c := by
    intro c hc
    rw [letterFor, if_neg, id]
    rintro rfl
    exact h hc
  rw [lettered, List.map_congr_left hsame, List.map_id]

variable {x : Char} (hx : IsOrdinary x)

include hx

namespace IsOrdinary

theorem isBlank_letterFor (c : Char) : Text.isBlank (letterFor x c) = Text.isBlank c := by
  unfold letterFor
  split
  next heq => rw [heq, hx.not_blank]; decide
  next => rfl

theorem letterFor_eq_iff {mark : Char} (hmark : mark ∈ ['"', '=']) (c : Char) :
    letterFor x c = mark ↔ c = mark := by
  have hne : x ≠ mark := by
    rintro rfl
    exact hx.not_mark (List.mem_append_left ['#'] hmark)
  have hhash : '#' ≠ mark := by
    rintro rfl
    revert hmark
    decide
  unfold letterFor
  split
  next heq => simp [heq, hne, hhash]
  next => rfl

theorem hash_notMem (t : Text) : '#' ∉ lettered x t := by
  intro hmem
  obtain ⟨c, -, hc⟩ := List.mem_map.mp hmem
  unfold letterFor at hc
  split at hc
  · exact hx.not_mark (by simp [hc])
  next hne => exact hne hc

theorem lettered_not_break {t : Text} (h : ∀ c ∈ t, Text.isLineBreak c = false) :
    ∀ c ∈ lettered x t, Text.isLineBreak c = false := by
  intro d hd
  obtain ⟨c, hc, rfl⟩ := List.mem_map.mp hd
  unfold letterFor
  split
  · by_contra hbroken
    have hblank := Text.isBlank_of_isLineBreak (Bool.not_eq_false _ ▸ hbroken)
    cases hx.not_blank.symm.trans hblank
  · exact h c hc

/-! ## Blanks and quotes -/

theorem count_quote (t : Text) : (lettered x t).count '"' = t.count '"' := by
  rw [lettered, List.count_eq_countP, List.count_eq_countP, List.countP_map]
  apply List.countP_congr
  intro c _
  simpa using hx.letterFor_eq_iff (by decide) c

theorem isOpen_iff (t : Text) : IsOpen (lettered x t) ↔ IsOpen t := by
  rw [IsOpen, IsOpen, hx.count_quote]

theorem trim_lettered (t : Text) : Text.trim (lettered x t) = lettered x (Text.trim t) := by
  have hblank : Text.isBlank ∘ letterFor x = Text.isBlank := funext hx.isBlank_letterFor
  have hstart : ∀ s : Text, (lettered x s).dropWhile Text.isBlank
      = lettered x (s.dropWhile Text.isBlank) := by
    intro s
    rw [lettered, List.dropWhile_map, hblank, lettered]
  have hreverse : ∀ s : Text, (lettered x s).reverse = lettered x s.reverse :=
    fun s => List.map_reverse.symm
  rw [Text.trim, Text.trimEnd, Text.dropEnd, Text.trimStart, hstart, hreverse, hstart, hreverse]
  rfl

theorem noComment_lettered (t : Text) : NoComment (lettered x t) := by
  have hhash := hx.hash_notMem t
  generalize lettered x t = s at hhash
  induction s with
  | nil => exact List.isChain_nil
  | cons c s ih =>
      obtain ⟨-, hs⟩ : c ≠ '#' ∧ '#' ∉ s := by simpa [eq_comm] using hhash
      refine List.isChain_cons.mpr ⟨fun d hd => ?_, ih hs⟩
      rintro ⟨-, rfl⟩
      exact hs (List.mem_of_mem_head? hd)

/-! ## Parts -/

theorem isWord_lettered {word : Text} (h : IsWord word) : IsWord (lettered x word) := by
  intro d hd
  obtain ⟨c, hc, rfl⟩ := List.mem_map.mp hd
  rw [hx.isBlank_letterFor, Ne, hx.letterFor_eq_iff (by decide)]
  exact h c hc

theorem parts_lettered {body keyword value : Text} (h : Parts body keyword value) :
    Parts (lettered x body) (lettered x keyword) (lettered x value) := by
  have hequals : letterFor x '=' = '=' := (hx.letterFor_eq_iff (by decide) '=').mpr rfl
  have hblanks : ∀ gap : Text, (∀ b ∈ gap, Text.isBlank b = true) →
      ∀ b ∈ lettered x gap, Text.isBlank b = true := by
    intro gap hgap b hb
    obtain ⟨c, hc, rfl⟩ := List.mem_map.mp hb
    rw [hx.isBlank_letterFor]
    exact hgap c hc
  have hne : ∀ gap : Text, gap ≠ [] → lettered x gap ≠ [] := by
    intro gap hgap
    simpa [lettered] using hgap
  cases h with
  | equals h =>
      simp only [lettered, List.map_append, List.map_cons, hequals]
      exact .equals (hx.isWord_lettered h)
  | alone h => exact .alone (hx.isWord_lettered h)
  | blanks h hgap hblank hc hequals =>
      simp only [lettered, List.map_append, List.map_cons]
      refine .blanks (hx.isWord_lettered h) (hne _ hgap) (hblanks _ hblank) ?_ ?_
      · rw [hx.isBlank_letterFor]
        exact hc
      · rwa [Ne, hx.letterFor_eq_iff (by decide)]
  | blanksEquals h hgap hblank =>
      simp only [lettered, List.map_append, List.map_cons, hequals]
      exact .blanksEquals (hx.isWord_lettered h) (hne _ hgap) (hblanks _ hblank)

/-! ## Values and arguments -/

theorem unquote?_lettered (value : Text) :
    unquote? (lettered x value) = (unquote? value).map (lettered x) := by
  have hquote : ∀ o : Option Char, o.map (letterFor x) = some '"' ↔ o = some '"' := by
    intro o
    cases o with
    | none => simp
    | some c => simpa using hx.letterFor_eq_iff (by decide) c
  unfold unquote?
  rw [hx.count_quote]
  simp only [lettered, List.length_map, List.head?_map, List.getLast?_map, hquote]
  split
  · rfl
  · split
    · simp [lettered, List.map_dropLast]
    · rfl

theorem argumentsFrom_lettered (inside : Bool) (t : Text) :
    argumentsFrom inside (lettered x t)
      = (argumentsFrom inside t).map fun r => (lettered x r.1, r.2.map (lettered x)) := by
  induction t generalizing inside with
  | nil => cases inside <;> rfl
  | cons c t ih =>
      have hcons : lettered x (c :: t) = letterFor x c :: lettered x t := rfl
      rw [hcons, argumentsFrom, argumentsFrom]
      simp only [hx.letterFor_eq_iff (by decide : '"' ∈ ['"', '=']), hx.isBlank_letterFor, ih]
      split
      · rfl
      · split
        · cases argumentsFrom false t with
          | none => rfl
          | some r => cases hr : r.1 <;> simp [consArgument, lettered, hr]
        · cases argumentsFrom inside t <;> rfl

theorem arguments?_lettered (value : Text) :
    arguments? (lettered x value) = (arguments? value).map (List.map (lettered x)) := by
  rw [arguments?, arguments?, hx.argumentsFrom_lettered]
  cases argumentsFrom false value with
  | none => rfl
  | some r => cases hr : r.1 <;> simp [consArgument, lettered, hr]

end IsOrdinary

end SshTunnel.HostConfig
