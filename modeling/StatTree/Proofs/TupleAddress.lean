import StatTree.Proofs.Text.Integer
import StatTree.Proofs.Text.Separated
import StatTree.TupleAddress

namespace StatTree.TupleAddress

open Text

/-- The statement up to the parenthesis that opens the place. -/
def selection (relation : String) : List Char :=
  "SELECT row_to_json(".toList ++ (relation.toList ++ (") FROM ".toList ++
    (relation.toList ++ " WHERE ctid = '".toList)))

def place (page tuple : Int) : List Char :=
  (toString page).toList ++ ',' :: ((toString tuple).toList ++ ")'".toList)

theorem toList_text (address : TupleAddress) :
    address.text.toList =
      selection address.relation ++ '(' :: place address.page.toInt address.tuple.toInt := by
  have opening : " WHERE ctid = '(".toList = " WHERE ctid = '".toList ++ ['('] := by decide
  have comma : ",".toList = [','] := by decide
  unfold text selection place
  simp only [String.toList_append, opening, comma, List.append_assoc, List.cons_append,
    List.nil_append]

theorem selection_injective {relation other : String}
    (same : selection relation = selection other) : relation = other := by
  unfold selection at same
  have names := List.append_cancel_left same
  -- Where one name ends cannot be seen, but the whole is as long as two of them.
  have length := congrArg List.length names
  simp only [List.length_append] at length
  have equal : relation.toList.length = other.toList.length := by omega
  exact String.toList_inj.mp (List.append_inj names equal).1

theorem open_notMem_place (page tuple : Int) : '(' ∉ place page tuple := by
  have first : '(' ∉ (toString page).toList := toString_notMem (by decide) (by decide)
  have second : '(' ∉ (toString tuple).toList := toString_notMem (by decide) (by decide)
  have closing : '(' ∉ ")'".toList := by decide
  simp only [place, List.mem_append, List.mem_cons, first, second, closing, or_false]
  decide

theorem place_injective {page tuple page' tuple' : Int}
    (same : place page tuple = place page' tuple') : page = page' ∧ tuple = tuple' := by
  have commas : ',' ∉ (toString page).toList ∧ ',' ∉ (toString page').toList :=
    ⟨toString_notMem (by decide) (by decide), toString_notMem (by decide) (by decide)⟩
  obtain ⟨pages, rest⟩ := append_mark_injective commas.1 commas.2 same
  have tuples := List.append_cancel_right rest
  exact ⟨(writesInteger_toString page).unique (pages ▸ writesInteger_toString page'),
    (writesInteger_toString tuple).unique (tuples ▸ writesInteger_toString tuple')⟩

/-- Different addresses have different statements, whatever the names of their relations are. -/
theorem text_inj {a b : TupleAddress} : a.text = b.text ↔ a = b := by
  refine ⟨fun same => ?_, congrArg text⟩
  have chars := congrArg String.toList same
  rw [toList_text, toList_text] at chars
  -- Names may hold the parenthesis, but no place does, so the last one opens the place.
  obtain ⟨selections, places⟩ :=
    mark_append_injective (open_notMem_place _ _) (open_notMem_place _ _) chars
  obtain ⟨pages, tuples⟩ := place_injective places
  obtain ⟨relation, page, tuple⟩ := a
  obtain ⟨relation', page', tuple'⟩ := b
  obtain rfl : relation = relation' := selection_injective selections
  obtain rfl : page = page' := Int64.toInt_inj.mp pages
  obtain rfl : tuple = tuple' := Int64.toInt_inj.mp tuples
  rfl

end StatTree.TupleAddress
