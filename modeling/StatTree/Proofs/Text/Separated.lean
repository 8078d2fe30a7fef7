import StatTree.Proofs.Text.Balanced
import StatTree.Text.Separated

namespace StatTree.Text

theorem separated_eq_intercalate (separator : String) (texts : List String) :
    separated separator texts = separator.intercalate texts := by
  induction texts with
  | nil => rfl
  | cons text rest ih =>
    by_cases last : rest = []
    · subst last
      rfl
    · rw [separated_cons separator text last, String.intercalate_cons_of_ne_nil last, ih]

theorem append_mark_injective {mark : Char} {front back left right : List Char}
    (hf : mark ∉ front) (hb : mark ∉ back)
    (same : front ++ mark :: left = back ++ mark :: right) : front = back ∧ left = right := by
  induction front generalizing back with
  | nil =>
    cases back with
    | nil => exact ⟨rfl, (List.cons.inj same).2⟩
    | cons c back =>
      have head : mark = c := (List.cons.inj same).1
      exact absurd (head ▸ List.mem_cons_self) hb
  | cons c front ih =>
    cases back with
    | nil =>
      have head : c = mark := (List.cons.inj same).1
      exact absurd (head ▸ List.mem_cons_self) hf
    | cons d back =>
      obtain ⟨head, tail⟩ := List.cons.inj same
      rw [List.mem_cons, not_or] at hf hb
      obtain ⟨fronts, rest⟩ := ih hf.2 hb.2 tail
      exact ⟨by rw [head, fronts], rest⟩

theorem mark_append_injective {mark : Char} {left right front back : List Char}
    (hf : mark ∉ front) (hb : mark ∉ back)
    (same : left ++ mark :: front = right ++ mark :: back) : left = right ∧ front = back := by
  have mirrored := congrArg List.reverse same
  simp only [List.reverse_append, List.reverse_cons, List.append_assoc,
    List.singleton_append] at mirrored
  obtain ⟨after, before⟩ := append_mark_injective (mt List.mem_reverse.mp hf)
    (mt List.mem_reverse.mp hb) mirrored
  exact ⟨List.reverse_inj.mp before, List.reverse_inj.mp after⟩

theorem mem_toList_separated {separator : String} {texts : List String} {c : Char}
    (member : c ∈ (separated separator texts).toList) :
    c ∈ separator.toList ∨ ∃ text ∈ texts, c ∈ text.toList := by
  induction texts with
  | nil => cases member
  | cons text rest ih =>
    by_cases last : rest = []
    · subst last
      exact .inr ⟨text, List.mem_cons_self, member⟩
    · rw [separated_cons separator text last, String.toList_append, String.toList_append,
        List.mem_append, List.mem_append] at member
      rcases member with (member | member) | member
      · exact .inr ⟨text, List.mem_cons_self, member⟩
      · exact .inl member
      · rcases ih member with inSeparator | ⟨other, inRest, inOther⟩
        · exact .inl inSeparator
        · exact .inr ⟨other, List.mem_cons_of_mem _ inRest, inOther⟩

theorem balanced_separated {separator : String} {texts : List String}
    (between : Balanced separator.toList) (each : ∀ text ∈ texts, Balanced text.toList) :
    Balanced (separated separator texts).toList := by
  induction texts with
  | nil =>
    rw [separated_nil]
    decide
  | cons text rest ih =>
    have first := each text List.mem_cons_self
    by_cases last : rest = []
    · subst last
      exact first
    · rw [separated_cons separator text last, String.toList_append, String.toList_append]
      refine .append (first.append between) (ih fun other member => ?_)
      exact each other (List.mem_cons_of_mem _ member)

section

variable {separator : String} {mark : Char} {gap : List Char}

theorem toList_separated_cons (opening : separator.toList = mark :: gap) (text : String)
    {rest : List String} (more : rest ≠ []) :
    (separated separator (text :: rest)).toList =
      text.toList ++ mark :: (gap ++ (separated separator rest).toList) := by
  rw [separated_cons separator text more, String.toList_append, String.toList_append, opening,
    List.append_assoc]
  rfl

theorem separated_cons_ne_empty (opening : separator.toList = mark :: gap) {text : String}
    (filled : text ≠ "") (rest : List String) : separated separator (text :: rest) ≠ "" := by
  intro empty
  by_cases last : rest = []
  · subst last
    exact filled empty
  · have chars := toList_separated_cons opening text last
    rw [empty] at chars
    exact absurd chars.symm (List.append_ne_nil_of_right_ne_nil _ (List.cons_ne_nil _ _))

theorem separated_cons_ne (opening : separator.toList = mark :: gap) (text : String)
    {rest : List String} (more : rest ≠ []) {other : String} (absent : mark ∉ other.toList) :
    separated separator (text :: rest) ≠ other := by
  rintro rfl
  rw [toList_separated_cons opening text more] at absent
  exact absent (List.mem_append_right _ List.mem_cons_self)

theorem separated_injective (opening : separator.toList = mark :: gap) {texts others : List String}
    (plain : ∀ text ∈ texts, mark ∉ text.toList ∧ text ≠ "")
    (plainOthers : ∀ text ∈ others, mark ∉ text.toList ∧ text ≠ "")
    (same : separated separator texts = separated separator others) : texts = others := by
  induction texts generalizing others with
  | nil =>
    cases others with
    | nil => rfl
    | cons other rest =>
      have filled := (plainOthers other List.mem_cons_self).2
      exact absurd same.symm (separated_cons_ne_empty opening filled rest)
  | cons text rest ih =>
    obtain ⟨absent, filled⟩ := plain text List.mem_cons_self
    cases others with
    | nil => exact absurd same (separated_cons_ne_empty opening filled rest)
    | cons other rest' =>
      obtain ⟨absentOther, _⟩ := plainOthers other List.mem_cons_self
      by_cases last : rest = [] <;> by_cases lastOther : rest' = []
      · subst last lastOther
        exact congrArg (· :: []) same
      · subst last
        exact absurd same.symm (separated_cons_ne opening other lastOther absent)
      · subst lastOther
        exact absurd same (separated_cons_ne opening text last absentOther)
      · have chars := congrArg String.toList same
        rw [toList_separated_cons opening text last,
          toList_separated_cons opening other lastOther] at chars
        obtain ⟨first, after⟩ := append_mark_injective absent absentOther chars
        have below := ih (fun next member => plain next (List.mem_cons_of_mem _ member))
          (fun next member => plainOthers next (List.mem_cons_of_mem _ member))
          (String.toList_inj.mp (List.append_cancel_left after))
        rw [String.toList_inj.mp first, below]

end

end StatTree.Text
