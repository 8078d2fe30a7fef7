import StatTree.Proofs.Compile.Shape
import StatTree.Proofs.Text.Balanced
import StatTree.Proofs.Text.Separated

namespace StatTree.Sql

open Text

def nameCode (code : Nat) : Bool :=
  (97 ≤ code && code ≤ 122) || (48 ≤ code && code ≤ 57) || code == 95

theorem nameCode_eq_false_of_lt {code : Nat} (large : 127 < code) : nameCode code = false := by
  simp [nameCode]
  omega

theorem exists_byte_of_lt {c : Char} (large : 127 < c.toNat) :
    ∃ byte ∈ String.utf8EncodeChar c, 127 < byte.toNat := by
  -- The first byte of a longer encoding has its highest bit set.
  have beyond : ¬c.val.toNat ≤ 127 := Nat.not_le_of_lt large
  rw [String.utf8EncodeChar, if_neg beyond]
  split
  · exact ⟨_, List.mem_cons_self, by rw [UInt8.toNat_ofNat']; omega⟩
  · split
    · exact ⟨_, List.mem_cons_self, by rw [UInt8.toNat_ofNat']; omega⟩
    · exact ⟨_, List.mem_cons_self, by rw [UInt8.toNat_ofNat']; omega⟩

theorem forall_mem_utf8EncodeChar_iff (c : Char) :
    (∀ byte ∈ String.utf8EncodeChar c, nameCode byte.toNat = true) ↔ nameCode c.toNat = true := by
  by_cases large : 127 < c.toNat
  · obtain ⟨byte, member, beyond⟩ := exists_byte_of_lt large
    rw [nameCode_eq_false_of_lt large]
    refine ⟨fun each => ?_, nofun⟩
    rw [← each byte member, nameCode_eq_false_of_lt beyond]
  · have ascii : c.val.toNat ≤ 127 := Nat.le_of_not_lt large
    rw [String.utf8EncodeChar, if_pos ascii, List.forall_mem_singleton, UInt8.toNat_ofNat',
      Nat.mod_eq_of_lt (by omega)]
    rfl

theorem bytes_eq_flatMap (text : String) :
    text.toByteArray.data.toList = text.toList.flatMap String.utf8EncodeChar := by
  conv => lhs; rw [← String.ofList_toList (s := text)]
  rw [String.toByteArray_ofList, List.utf8Encode, List.toList_data_toByteArray]

def IsName (text : String) : Prop := text ≠ "" ∧ ∀ c ∈ text.toList, nameCode c.toNat = true

theorem isName_iff_bytes {text : String} : IsName text ↔
    text ≠ "" ∧ (text.toByteArray.data.toList.all fun byte => nameCode byte.toNat) = true := by
  rw [IsName, List.all_eq_true, bytes_eq_flatMap, List.forall_mem_flatMap]
  simp only [forall_mem_utf8EncodeChar_iff]

/-- The bytes are looked at, which are at hand where the characters have to be decoded first. -/
instance (text : String) : Decidable (IsName text) := decidable_of_iff _ isName_iff_bytes.symm

def Column.Named (column : Column) : Prop := IsName column.relation ∧ IsName column.name

instance (column : Column) : Decidable column.Named := inferInstanceAs (Decidable (_ ∧ _))

def SelectItem.Named : SelectItem → Prop
  | .column source => source.Named
  | .array asName output => IsName asName ∧ IsName output
  | .call function argument output => IsName function ∧ argument.Named ∧ IsName output

instance : (item : SelectItem) → Decidable item.Named
  | .column _ => inferInstanceAs (Decidable (Column.Named _))
  | .array _ _ => inferInstanceAs (Decidable (_ ∧ _))
  | .call _ _ _ => inferInstanceAs (Decidable (_ ∧ _ ∧ _))

structure Select.Named (level : Select) : Prop where
  items : ∀ item ∈ level.items, item.Named
  table : IsName level.table
  joins : ∀ joined ∈ level.joins, IsName joined.rule.asName ∧ joined.rule.left.Named ∧
    joined.rule.right.Named
  groupBy : ∀ column ∈ level.groupBy, column.Named

theorem IsName.notMem {text : String} (name : IsName text) {mark : Char}
    (other : nameCode mark.toNat = false) : mark ∉ text.toList := by
  intro member
  rw [name.2 mark member] at other
  cases other

theorem IsName.balanced {text : String} (name : IsName text) : Balanced text.toList :=
  balanced_of_notMem (name.notMem (by decide)) (name.notMem (by decide))

theorem SelectItem.text_array (asName output : String) :
    (array asName output).text = "(CASE WHEN count(" ++ asName ++
      ") = 0 THEN '[]' ELSE json_agg(" ++ asName ++ ") END) AS " ++ output := rfl

theorem SelectItem.text_call (function : String) (argument : Column) (output : String) :
    (call function argument output).text =
      function ++ "(" ++ argument.text ++ ") AS " ++ output := rfl

def SelectItem.wording : List String :=
  [".", "(CASE WHEN count(", ") = 0 THEN '[]' ELSE json_agg(", ") END) AS ", "(", ") AS "]

theorem Column.Named.notMem_text {column : Column} (named : column.Named) {mark : Char}
    (other : nameCode mark.toNat = false) (wording : ∀ piece ∈ SelectItem.wording, mark ∉ piece.toList) :
    mark ∉ column.text.toList := by
  have dot := wording "." (by decide)
  simp only [Column.text, String.toList_append, List.mem_append, not_or]
  exact ⟨⟨named.1.notMem other, dot⟩, named.2.notMem other⟩

theorem SelectItem.Named.notMem_text {item : SelectItem} (named : item.Named) {mark : Char}
    (other : nameCode mark.toNat = false) (wording : ∀ piece ∈ SelectItem.wording, mark ∉ piece.toList) :
    mark ∉ item.text.toList := by
  have pieces := wording
  simp only [SelectItem.wording, List.forall_mem_cons] at pieces
  obtain ⟨_, count, agg, close, opening, closing, _⟩ := pieces
  cases item with
  | column source => exact Column.Named.notMem_text named other wording
  | array asName output =>
    have absent := named.1.notMem other
    simp only [text_array, String.toList_append, List.mem_append, not_or]
    exact ⟨⟨⟨⟨⟨count, absent⟩, agg⟩, absent⟩, close⟩, named.2.notMem other⟩
  | call function argument output =>
    have absent := named.2.1.notMem_text other wording
    simp only [text_call, String.toList_append, List.mem_append, not_or]
    exact ⟨⟨⟨⟨named.1.notMem other, opening⟩, absent⟩, closing⟩, named.2.2.notMem other⟩

theorem SelectItem.exists_text_eq_append_output (item : SelectItem) :
    ∃ front, item.text = front ++ item.output := by
  cases item <;> exact ⟨_, rfl⟩

theorem SelectItem.Named.text_ne_empty {item : SelectItem} (named : item.Named) :
    item.text ≠ "" := by
  have output : IsName item.output := by
    cases item with
    | column source => exact named.2
    | array asName output => exact named.2
    | call function argument output => exact named.2.2
  obtain ⟨front, same⟩ := item.exists_text_eq_append_output
  rw [same]
  exact fun empty => output.1 (String.append_eq_empty_iff.mp empty).2

theorem Column.Named.depth? {column : Column} (named : column.Named) (depth : Nat) :
    Text.depth? depth column.text.toList = some depth := by
  have dot : Balanced ".".toList := by decide
  simp only [Column.text, String.toList_append, depth?_append, named.1.balanced.depth?, dot.depth?,
    named.2.balanced.depth?, Option.bind_some]

theorem SelectItem.Named.balanced {item : SelectItem} (named : item.Named) :
    Balanced item.text.toList := by
  rw [balanced_iff_depth?]
  cases item with
  | column source => exact Column.Named.depth? named 0
  | array asName output =>
    have opening : Text.depth? 0 "(CASE WHEN count(".toList = some 2 := by decide
    have middle : Text.depth? 2 ") = 0 THEN '[]' ELSE json_agg(".toList = some 2 := by decide
    have closing : Text.depth? 2 ") END) AS ".toList = some 0 := by decide
    simp only [text_array, String.toList_append, depth?_append, opening, middle, closing,
      named.1.balanced.depth?, named.2.balanced.depth?, Option.bind_some]
  | call function argument output =>
    have opening : Text.depth? 0 "(".toList = some 1 := by decide
    have closing : Text.depth? 1 ") AS ".toList = some 0 := by decide
    simp only [text_call, String.toList_append, depth?_append, opening, closing,
      named.1.balanced.depth?, named.2.1.depth?, named.2.2.balanced.depth?, Option.bind_some]

end StatTree.Sql
