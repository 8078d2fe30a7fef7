namespace StatTree.Text

def separated (separator : String) : List String → String
  | [] => ""
  | [text] => text
  | text :: next :: rest => text ++ separator ++ separated separator (next :: rest)

@[simp] theorem separated_nil (separator : String) : separated separator [] = "" := rfl

@[simp] theorem separated_singleton (separator text : String) :
    separated separator [text] = text := rfl

theorem separated_cons (separator text : String) {rest : List String} (h : rest ≠ []) :
    separated separator (text :: rest) = text ++ separator ++ separated separator rest := by
  cases rest with
  | nil => exact absurd rfl h
  | cons next rest => rfl

theorem length_le_separated (separator : String) {text : String} {texts : List String}
    (member : text ∈ texts) : text.length ≤ (separated separator texts).length := by
  induction texts with
  | nil => cases member
  | cons first rest ih =>
    by_cases last : rest = []
    · subst rest
      rw [List.mem_singleton] at member
      refine Nat.le_of_eq ?_
      rw [member, separated_singleton]
    · rw [separated_cons separator first last, String.length_append, String.length_append]
      rcases List.mem_cons.mp member with rfl | member
      · omega
      · have below := ih member
        omega

end StatTree.Text
