namespace StatTree.Yaml

def isBlank (c : Char) : Bool := c == ' ' || c == '\t'

def isBreak (c : Char) : Bool := c == '\n' || c == '\r'

def isFlowMark (c : Char) : Bool :=
  c == ',' || c == '[' || c == ']' || c == '\x7b' || c == '\x7d'

def endsWord (next : Option Char) : Bool := next.all fun c => isBlank c || isBreak c

structure Cursor where
  rest : List Char
  index : Nat := 0
  line : Nat := 0
  column : Nat := 0
  leading : Bool := true
deriving Repr

namespace Cursor

def peek (cursor : Cursor) (ahead : Nat) : Option Char := cursor.rest[ahead]?

def skip (cursor : Cursor) (count : Nat) : Cursor :=
  { cursor with
    rest := cursor.rest.drop count
    index := cursor.index + count
    column := cursor.column + count }

def pass (cursor : Cursor) (count : Nat) : Cursor :=
  if count = 0 then cursor else { cursor.skip count with leading := false }

def breakLine (cursor : Cursor) : Cursor :=
  let nextLine := fun (cursor : Cursor) =>
    { cursor with line := cursor.line + 1, column := 0, leading := true }
  match cursor.rest with
  | '\r' :: '\n' :: _ => nextLine (cursor.skip 2)
  | '\n' :: _ | '\r' :: _ => nextLine (cursor.skip 1)
  | _ => cursor

def atBreak (cursor : Cursor) : Bool := cursor.rest.head?.any isBreak

def atBlank (cursor : Cursor) : Bool := cursor.rest.head?.any isBlank

def atEnd (cursor : Cursor) : Bool := cursor.rest.isEmpty

def atLineEnd (cursor : Cursor) : Bool := cursor.rest.head?.all isBreak

def atMark (mark : Char) (cursor : Cursor) : Bool :=
  cursor.column == 0 && cursor.rest.take 3 == [mark, mark, mark] && endsWord (cursor.peek 3)

def atDocumentStart (cursor : Cursor) : Bool := cursor.atMark '-'

def atDocumentEnd (cursor : Cursor) : Bool := cursor.atMark '.'

def passLine (cursor : Cursor) : Cursor :=
  cursor.pass (cursor.rest.takeWhile fun c => !isBreak c).length

theorem breakLine_of_not_atBreak {cursor : Cursor} (h : cursor.atBreak = false) :
    cursor.breakLine = cursor := by
  unfold breakLine
  split <;> simp_all [atBreak, isBreak]

end Cursor

structure Gap where
  hasTab : Bool
  hasSpace : Bool
  after : Cursor

def readGap (tabs : Bool) (cursor : Cursor) : Option Gap :=
  let blanks := cursor.rest.takeWhile fun c => c == ' ' || (tabs && c == '\t')
  let after := cursor.skip blanks.length
  let gap := fun after => { hasTab := blanks.contains '\t', hasSpace := blanks.contains ' ', after }
  if after.peek 0 == some '#' then
    if blanks.isEmpty then none else some (gap after.passLine)
  else some (gap after)

end StatTree.Yaml
