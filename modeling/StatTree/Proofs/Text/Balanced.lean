namespace StatTree.Text

/-- The parentheses of a text match: as many close as open, and no prefix closes more of them than
    it opens. -/
structure Balanced (text : List Char) : Prop where
  whole : text.count '(' = text.count ')'
  front : ∀ front, front <+: text → front.count ')' ≤ front.count '('

/-- How many parentheses are open after a text, when so many are before it; nothing where one closes
    that is not open. -/
def depth? (depth : Nat) : List Char → Option Nat
  | [] => some depth
  | c :: rest =>
    if c = '(' then depth? (depth + 1) rest
    else if c = ')' then (if depth = 0 then none else depth? (depth - 1) rest)
    else depth? depth rest

theorem forall_prefix_cons_iff {c : Char} {text : List Char} {property : List Char → Prop} :
    (∀ front, front <+: c :: text → property front) ↔
      property [] ∧ ∀ front, front <+: text → property (c :: front) := by
  constructor
  · intro each
    refine ⟨each [] List.nil_prefix, fun front inText => each _ ?_⟩
    exact (List.prefix_cons_inj c).mpr inText
  · intro each front inText
    rcases List.prefix_cons_iff.mp inText with rfl | ⟨front, rfl, below⟩
    · exact each.1
    · exact each.2 front below

theorem depth?_eq_some_iff {depth after : Nat} {text : List Char} :
    depth? depth text = some after ↔
      depth + text.count '(' = after + text.count ')' ∧
        ∀ front, front <+: text → front.count ')' ≤ depth + front.count '(' := by
  induction text generalizing depth with
  | nil => simp [depth?]
  | cons c text ih =>
    rw [depth?, forall_prefix_cons_iff]
    by_cases opens : c = '('
    · rw [if_pos opens, ih, opens]
      simp only [List.count_nil, List.count_cons_self, List.count_cons_of_ne (by decide : '(' ≠ ')')]
      constructor
      · intro matching
        refine ⟨by omega, by omega, fun front inText => ?_⟩
        have bound := matching.2 front inText
        omega
      · intro matching
        refine ⟨by omega, fun front inText => ?_⟩
        have bound := matching.2.2 front inText
        omega
    · rw [if_neg opens]
      by_cases closes : c = ')'
      · rw [if_pos closes, closes]
        simp only [List.count_nil, List.count_cons_self,
          List.count_cons_of_ne (by decide : ')' ≠ '(')]
        by_cases bottom : depth = 0
        · rw [if_pos bottom]
          refine ⟨nofun, fun matching => ?_⟩
          have bound := matching.2.2 [] List.nil_prefix
          simp only [List.count_nil] at bound
          omega
        · rw [if_neg bottom, ih]
          constructor
          · intro matching
            refine ⟨by omega, by omega, fun front inText => ?_⟩
            have bound := matching.2 front inText
            omega
          · intro matching
            refine ⟨by omega, fun front inText => ?_⟩
            have bound := matching.2.2 front inText
            omega
      · rw [if_neg closes, ih]
        simp only [List.count_nil, List.count_cons_of_ne opens, List.count_cons_of_ne closes,
          Nat.zero_le, true_and]

theorem balanced_iff_depth? {text : List Char} : Balanced text ↔ depth? 0 text = some 0 := by
  rw [depth?_eq_some_iff]
  simp only [Nat.zero_add]
  exact ⟨fun matching => ⟨matching.whole, matching.front⟩, fun matching => ⟨matching.1, matching.2⟩⟩

instance (text : List Char) : Decidable (Balanced text) :=
  decidable_of_iff (depth? 0 text = some 0) balanced_iff_depth?.symm

theorem Balanced.depth? {text : List Char} (matching : Balanced text) (depth : Nat) :
    depth? depth text = some depth := by
  refine depth?_eq_some_iff.mpr ⟨by rw [matching.whole], fun front inText => ?_⟩
  exact Nat.le_trans (matching.front front inText) (Nat.le_add_left _ _)

theorem balanced_of_notMem {text : List Char} (opens : '(' ∉ text) (closes : ')' ∉ text) :
    Balanced text := by
  refine ⟨by rw [List.count_eq_zero.mpr opens, List.count_eq_zero.mpr closes], ?_⟩
  intro front inText
  have absent : ')' ∉ front := fun member => closes (inText.subset member)
  rw [List.count_eq_zero.mpr absent]
  exact Nat.zero_le _

theorem depth?_append (depth : Nat) (front back : List Char) :
    depth? depth (front ++ back) = (depth? depth front).bind fun between => depth? between back := by
  induction front generalizing depth with
  | nil => rfl
  | cons c front ih =>
    rw [List.cons_append, depth?, depth?]
    split
    · exact ih _
    · split
      · split
        · rfl
        · exact ih _
      · exact ih _

theorem Balanced.append {front back : List Char} (first : Balanced front) (second : Balanced back) :
    Balanced (front ++ back) := by
  rw [balanced_iff_depth?, depth?_append, first.depth?, Option.bind_some, second.depth?]

theorem Balanced.ne_append_close {text other : List Char} (first : Balanced text)
    (second : Balanced other) (back : List Char) : other ≠ text ++ ')' :: back := by
  rintro rfl
  have inOther : text ++ [')'] <+: text ++ ')' :: back := by
    rw [List.prefix_append_right_inj]
    exact ⟨back, rfl⟩
  have bound := second.front _ inOther
  have whole := first.whole
  simp at bound
  omega

theorem Balanced.append_close_injective {text other left right : List Char} (first : Balanced text)
    (second : Balanced other) (same : text ++ ')' :: left = other ++ ')' :: right) :
    text = other ∧ left = right := by
  rcases List.append_eq_append_iff.mp same with ⟨back, longer, rest⟩ | ⟨back, longer, rest⟩
  -- The longer of the two texts would hold the parenthesis that closes the shorter.
  · cases back with
    | nil => exact ⟨by rw [longer, List.append_nil], (List.cons.inj rest).2⟩
    | cons c back =>
      obtain ⟨rfl, _⟩ := List.cons.inj rest
      exact absurd longer (first.ne_append_close second back)
  · cases back with
    | nil => exact ⟨by rw [longer, List.append_nil], (List.cons.inj rest).2.symm⟩
    | cons c back =>
      obtain ⟨rfl, _⟩ := List.cons.inj rest
      exact absurd longer (second.ne_append_close first back)

end StatTree.Text
