import SshTunnel.Proofs.Text.Glob

/-!
# Patterns with two special characters

`Wild` is the reading of a pattern in which `*` and `?` are special and brackets are not. A
pattern with a closed bracket in it is read otherwise: the bracket takes one character where
`Wild` takes each of its own, so the shortest text that it describes is too short for `Wild`.
-/

namespace SshTunnel.Text.Glob

/-- The texts that a pattern describes when `*` stands for any text, `?` for any character and
every other character for itself. -/
inductive Wild : Text → Text → Prop where
  | nil : Wild [] []
  | many (s : Text) {p t : Text} (h : Wild p t) : Wild ('*' :: p) (s ++ t)
  | one (c : Char) {p t : Text} (h : Wild p t) : Wild ('?' :: p) (c :: t)
  | same {c : Char} (hmany : c ≠ '*') (hone : c ≠ '?') {p t : Text} (h : Wild p t) :
      Wild (c :: p) (c :: t)

/-- The part that a character writes when brackets are not special. -/
def plainPart (c : Char) : Part :=
  if c = '*' then .many else if c = '?' then .one else .literal c

/-- No bracket of the pattern is closed, but around nothing or a `!`. -/
def Unbracketed (p : Text) : Prop :=
  ∀ before inside behind : Text, p = before ++ '[' :: (inside ++ ']' :: behind) →
    inside = [] ∨ inside = ['!']

/-! ## The relation and its parts -/

/-- A `*` in front stands for what comes before some ending. -/
theorem matches_many_iff (ps : List Part) (t : Text) :
    Matches (.many :: ps) t ↔ ∃ s rest, t = s ++ rest ∧ Matches ps rest := by
  constructor
  · intro h
    induction t with
    | nil => exact ⟨[], [], rfl, (matches_many_nil_iff ps).mp h⟩
    | cons c t ih =>
        rcases (matches_many_cons_iff ps c t).mp h with h | h
        · exact ⟨[], c :: t, rfl, h⟩
        · obtain ⟨s, rest, rfl, hrest⟩ := ih h
          exact ⟨c :: s, rest, rfl, hrest⟩
  · rintro ⟨s, rest, rfl, hrest⟩
    induction s with
    | nil => exact .skip hrest
    | cons c s ih => exact .grow ih

theorem plainPart_ne_many {c : Char} (h : c ≠ '*') : plainPart c ≠ .many := by
  rw [plainPart, if_neg h]
  split <;> simp

/-- The reading without brackets is the one by the parts of the single characters. -/
theorem wild_iff (p t : Text) : Wild p t ↔ Matches (p.map plainPart) t := by
  constructor
  · intro h
    induction h with
    | nil => exact .nil
    | many s _ ih => exact (matches_many_iff _ _).mpr ⟨s, _, rfl, ih⟩
    | one c _ ih => exact .step rfl ih
    | same hmany hone _ ih => exact .step (by simp [plainPart, hmany, hone, Part.accepts]) ih
  · intro h
    induction p generalizing t with
    | nil =>
        cases h
        exact .nil
    | cons c p ih =>
        rw [List.map_cons] at h
        by_cases hmany : c = '*'
        · subst hmany
          obtain ⟨s, rest, rfl, hrest⟩ := (matches_many_iff _ _).mp h
          exact .many s (ih _ hrest)
        · obtain ⟨d, rest, rfl, hd, hrest⟩ := (matches_cons_iff (plainPart_ne_many hmany) _ _).mp h
          by_cases hone : c = '?'
          · subst hone
            exact .one d (ih _ hrest)
          · obtain rfl : c = d := by simpa [plainPart, hmany, hone, Part.accepts] using hd
            exact .same hmany hone (ih _ hrest)

instance (p t : Text) : Decidable (Wild p t) :=
  decidable_of_iff (describes (p.map plainPart) t = true)
    ((describes_iff _ _).trans (wild_iff p t).symm)

example : Wild "[a]?*".toList "[a]bc".toList ∧ ¬ Wild "[a]".toList "a".toList := by decide

/-- A pattern describes itself without its stars. -/
theorem wild_without_stars (p : Text) : Wild p (p.filter (· ≠ '*')) := by
  induction p with
  | nil => exact .nil
  | cons c p ih =>
      by_cases hmany : c = '*'
      · subst hmany
        simpa using Wild.many [] ih
      · rw [List.filter_cons_of_pos (by simpa using hmany)]
        by_cases hone : c = '?'
        · subst hone
          exact .one '?' ih
        · exact .same hmany hone ih

/-- A character of a pattern that is no wildcard is in every text that the pattern describes. -/
theorem Wild.mem {p t : Text} (h : Wild p t) {c : Char} (hc : c ∈ p) (hmany : c ≠ '*')
    (hone : c ≠ '?') : c ∈ t := by
  induction h with
  | nil => cases hc
  | many s _ ih =>
      have hrest := (List.mem_cons.mp hc).resolve_left hmany
      exact List.mem_append_right s (ih hrest)
  | one d _ ih =>
      have hrest := (List.mem_cons.mp hc).resolve_left hone
      exact List.mem_cons_of_mem d (ih hrest)
  | same _ _ _ ih =>
      rcases List.mem_cons.mp hc with rfl | hrest
      · exact List.mem_cons_self
      · exact List.mem_cons_of_mem _ (ih hrest)

/-! ## Shortest texts -/

/-- How many characters the parts take at least: one each, but for `*`. -/
def least (ps : List Part) : Nat := ps.countP (· ≠ .many)

@[simp] theorem least_many (ps : List Part) : least (.many :: ps) = least ps := by
  simp [least]

theorem least_cons {p : Part} (h : p ≠ .many) (ps : List Part) :
    least (p :: ps) = least ps + 1 := by
  simp [least, h]

theorem least_append (ps qs : List Part) : least (ps ++ qs) = least ps + least qs :=
  List.countP_append

theorem Part.ne_many_of_accepts {p : Part} {c : Char} (h : p.accepts c = true) : p ≠ .many := by
  rintro rfl
  cases h

theorem Matches.least_le {ps : List Part} {t : Text} (h : Matches ps t) :
    least ps ≤ t.length := by
  induction h with
  | nil => simp [least]
  | skip _ ih => simpa using ih
  | grow _ ih => exact Nat.le_succ_of_le ih
  | step hc _ ih =>
      rw [least_cons (Part.ne_many_of_accepts hc), List.length_cons]
      omega

/-- A text that the parts describe has a shortest such text in it. -/
theorem Matches.shortest {ps : List Part} {t : Text} (h : Matches ps t) :
    ∃ s : Text, List.Sublist s t ∧ Matches ps s ∧ s.length = least ps := by
  induction h with
  | nil => exact ⟨[], .slnil, .nil, rfl⟩
  | skip _ ih =>
      obtain ⟨s, hsub, hs, hlen⟩ := ih
      exact ⟨s, hsub, .skip hs, by simpa using hlen⟩
  | grow _ ih =>
      obtain ⟨s, hsub, hs, hlen⟩ := ih
      exact ⟨s, hsub.cons _, hs, hlen⟩
  | @step p ps c t hc _ ih =>
      obtain ⟨s, hsub, hs, hlen⟩ := ih
      refine ⟨c :: s, hsub.cons_cons c, .step hc hs, ?_⟩
      rw [least_cons (Part.ne_many_of_accepts hc), List.length_cons, hlen]

/-! ## Brackets -/

/-- An opening bracket stands for itself when what follows closes none around more than `!`. -/
theorem insideLength?_eq_none_iff (t : Text) :
    insideLength? t = none ↔
      ∀ inside behind : Text, t = inside ++ ']' :: behind → inside = [] ∨ inside = ['!'] := by
  have hread : insideLength? t = none ↔
      ∀ c ∈ t.drop (if t.head? = some '!' then 2 else 1), c ≠ ']' := by
    simp [insideLength?]
  rw [hread]
  constructor
  · rintro h inside behind rfl
    match inside with
    | [] => exact Or.inl rfl
    | [c] =>
        by_cases hc : c = '!'
        · exact Or.inr (by rw [hc])
        · exact absurd rfl (h ']' (by simp [hc]))
    | c :: d :: more => exact absurd rfl (h ']' (by by_cases hc : c = '!' <;> simp [hc]))
  · rintro h c hc rfl
    match t with
    | [] => simp at hc
    | d :: rest =>
        by_cases hd : d = '!'
        · subst hd
          match rest with
          | [] => simp at hc
          | e :: more =>
              obtain ⟨front, behind, rfl⟩ := List.append_of_mem (by simpa using hc)
              simpa using h ('!' :: e :: front) behind (by simp)
        · obtain ⟨front, behind, rfl⟩ := List.append_of_mem (by simpa [hd] using hc)
          simpa [hd] using h (d :: front) behind (by simp)

/-- A closed bracket ends with its closing character. -/
theorem drop_of_insideLength? {t : Text} {n : Nat} (h : insideLength? t = some n) :
    t.drop n = ']' :: t.drop (n + 1) := by
  obtain ⟨k, hk, rfl⟩ := Option.map_eq_some_iff.mp h
  generalize (if t.head? = some '!' then 2 else 1) = free at hk ⊢
  obtain ⟨hlt, hclose, -⟩ := List.findIdx?_eq_some_iff_getElem.mp hk
  have hcons := List.drop_eq_getElem_cons hlt
  rw [show (t.drop free)[k] = ']' by simpa using hclose, List.drop_drop, List.drop_drop] at hcons
  rwa [Nat.add_comm free k, show free + (k + 1) = k + free + 1 by omega] at hcons

theorem bracket_ne_many (inside : Text) : bracket inside ≠ .many := by
  unfold bracket
  simp only
  split <;> simp

theorem partsAfter_eq_parse (n : Nat) (p : Text) : partsAfter n p = parse (p.drop n) := by
  induction p generalizing n with
  | nil => simp [parse, partsAfter]
  | cons c p ih =>
      cases n with
      | zero => rfl
      | succ n => simpa [partsAfter] using ih n

/-- A closed bracket is one part, and reading goes on behind it. -/
theorem parse_bracket {rest : Text} {n : Nat} (h : insideLength? rest = some n) :
    parse ('[' :: rest) = bracket (rest.take n) :: parse (rest.drop (n + 1)) := by
  rw [← partsAfter_eq_parse]
  simp [parse, partsAfter, h]

/-- A character that opens no closed bracket is one part. -/
theorem parse_plain {c : Char} {rest : Text} (h : c = '[' → insideLength? rest = none) :
    parse (c :: rest) = plainPart c :: parse rest := by
  by_cases hopen : c = '['
  · subst hopen
    simp [parse, partsAfter, plainPart, h rfl]
  · simp only [parse, partsAfter, plainPart, if_neg hopen]
    split_ifs <;> rfl

theorem unbracketed_nil : Unbracketed [] := by
  intro before inside behind h
  simp at h

theorem unbracketed_cons_iff (c : Char) (rest : Text) :
    Unbracketed (c :: rest) ↔ (c = '[' → insideLength? rest = none) ∧ Unbracketed rest := by
  constructor
  · intro h
    refine ⟨?_, fun before inside behind hrest => h (c :: before) inside behind (by simp [hrest])⟩
    rintro rfl
    exact (insideLength?_eq_none_iff rest).mpr
      fun inside behind hrest => h [] inside behind (by simp [hrest])
  · rintro ⟨hopen, hrest⟩ before inside behind heq
    cases before with
    | nil =>
        obtain ⟨rfl, htail⟩ := List.cons.inj heq
        exact (insideLength?_eq_none_iff rest).mp (hopen rfl) inside behind htail
    | cons d before => exact hrest before inside behind (List.cons.inj heq).2

/-- Without a closing character no bracket is closed. -/
theorem unbracketed_of_not_mem {p : Text} (h : ']' ∉ p) : Unbracketed p := by
  rintro before inside behind rfl
  simp at h

/-- A pattern without closed brackets is read character by character. -/
theorem Unbracketed.parse {p : Text} (h : Unbracketed p) : parse p = p.map plainPart := by
  induction p with
  | nil => rfl
  | cons c rest ih =>
      obtain ⟨hopen, hrest⟩ := (unbracketed_cons_iff c rest).mp h
      rw [parse_plain hopen, ih hrest, List.map_cons]

/-- The characters behind an opening bracket are those inside, the closing one and those behind
it. -/
theorem least_map_closed {t : Text} {n : Nat} (h : insideLength? t = some n) :
    least (t.map plainPart) =
      least ((t.take n).map plainPart) + (least ((t.drop (n + 1)).map plainPart) + 1) := by
  have hclose : plainPart ']' ≠ .many := by decide
  conv_lhs => rw [← List.take_append_drop n t, drop_of_insideLength? h]
  rw [List.map_append, List.map_cons, least_append, least_cons hclose]

/-- A pattern with a closed bracket has parts for fewer characters than it has itself. -/
theorem least_parse_lt {p : Text} (h : ¬ Unbracketed p) :
    least (parse p) < least (p.map plainPart) := by
  have hle : ∀ q : Text, q.length < p.length → least (parse q) ≤ least (q.map plainPart) := by
    intro q hq
    by_cases hread : Unbracketed q
    · exact Nat.le_of_eq (congrArg least hread.parse)
    · exact Nat.le_of_lt (least_parse_lt hread)
  cases p with
  | nil => exact absurd unbracketed_nil h
  | cons c rest =>
      by_cases hopen : c = '[' → insideLength? rest = none
      · have hrest : ¬ Unbracketed rest := fun hrest =>
          h ((unbracketed_cons_iff c rest).mpr ⟨hopen, hrest⟩)
        have hlt := least_parse_lt hrest
        rw [parse_plain hopen, List.map_cons]
        by_cases hmany : c = '*'
        · subst hmany
          simpa [plainPart] using hlt
        · rw [least_cons (plainPart_ne_many hmany), least_cons (plainPart_ne_many hmany)]
          omega
      · obtain ⟨rfl, hsome⟩ := Classical.not_imp.mp hopen
        obtain ⟨n, hn⟩ := Option.ne_none_iff_exists'.mp hsome
        have hshorter : (rest.drop (n + 1)).length < ('[' :: rest).length := by
          rw [List.length_drop, List.length_cons]
          omega
        have hbehind := hle (rest.drop (n + 1)) hshorter
        have hcount := least_map_closed hn
        rw [parse_bracket hn, List.map_cons, least_cons (bracket_ne_many _),
          least_cons (plainPart_ne_many (by decide))]
        omega
termination_by p.length

/-! ## Where the two readings agree -/

/-- A pattern with a closed bracket is read otherwise on a text made of its own characters. -/
theorem exists_text_apart {p : Text} (h : ¬ Unbracketed p) :
    ∃ t : Text, List.Sublist t p ∧ ¬ (isMatch p t = true ↔ Wild p t) := by
  by_contra hnone
  have hagree : ∀ t : Text, List.Sublist t p → (Matches (parse p) t ↔ Wild p t) := by
    intro t ht
    rw [← isMatch_iff]
    by_contra hapart
    exact hnone ⟨t, ht, hapart⟩
  have hself : Matches (parse p) (p.filter (· ≠ '*')) :=
    (hagree _ List.filter_sublist).mpr (wild_without_stars p)
  obtain ⟨s, hsub, hs, hlen⟩ := hself.shortest
  have hwild : Wild p s := (hagree s (hsub.trans List.filter_sublist)).mp hs
  have hlong := ((wild_iff p s).mp hwild).least_le
  have hshort := least_parse_lt h
  omega

/-- The two readings of a pattern agree on all texts when it has no closed bracket. -/
theorem Unbracketed.isMatch_iff {p : Text} (h : Unbracketed p) (t : Text) :
    isMatch p t = true ↔ Wild p t := by
  rw [Glob.isMatch_iff, h.parse, wild_iff]

end SshTunnel.Text.Glob
