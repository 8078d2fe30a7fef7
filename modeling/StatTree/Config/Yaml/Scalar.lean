import StatTree.Config.Yaml.Cursor
import StatTree.Text.CodePoint

namespace StatTree.Yaml

/-- What stands between two words. A break that is escaped joins the words. -/
structure Spread where
  blanks : List Char := []
  isBroken : Bool := false
  isJoined : Bool := false
  emptyLines : Nat := 0

def Spread.text (spread : Spread) : List Char :=
  if !spread.isBroken then spread.blanks.reverse
  else if spread.emptyLines = 0 && !spread.isJoined then [' ']
  else List.replicate spread.emptyLines '\n'

def readSpread (floor : Int) (atTab : Cursor → Option Cursor) :
    Nat → Spread → Cursor → Option (Spread × Cursor)
  | 0, _, _ => none
  | fuel + 1, spread, cursor =>
    match cursor.peek 0 with
    | some c =>
      if isBlank c then
        if !spread.isBroken then
          readSpread floor atTab fuel { spread with blanks := c :: spread.blanks } (cursor.skip 1)
        else if c == '\t' && cursor.column < floor then do
          readSpread floor atTab fuel spread (← atTab cursor)
        else readSpread floor atTab fuel spread (cursor.skip 1)
      else if isBreak c then
        let spread :=
          if spread.isBroken then { spread with emptyLines := spread.emptyLines + 1 }
          else { spread with isBroken := true }
        readSpread floor atTab fuel spread cursor.breakLine
      else some (spread, cursor)
    | none => some (spread, cursor)

def shortEscape? : Char → Option Char
  | '0' => some '\x00'
  | 'a' => some '\x07'
  | 'b' => some '\x08'
  | 't' | '\t' => some '\t'
  | 'n' => some '\n'
  | 'v' => some '\x0b'
  | 'f' => some '\x0c'
  | 'r' => some '\r'
  | 'e' => some '\x1b'
  | ' ' => some ' '
  | '"' => some '"'
  | '/' => some '/'
  | '\\' => some '\\'
  | 'N' => some '\x85'
  | '_' => some '\xa0'
  | 'L' => some '\u2028'
  | 'P' => some '\u2029'
  | _ => none

def coded? (count : Nat) (chars : List Char) : Option Char :=
  if chars.length < count then none else Text.coded? (chars.take count)

def escape? : List Char → Option (Char × Nat)
  | 'x' :: rest => (coded? 2 rest).map (·, 3)
  | 'u' :: rest => (coded? 4 rest).map (·, 5)
  | 'U' :: rest => (coded? 8 rest).map (·, 9)
  | c :: _ => (shortEscape? c).map (·, 1)
  | [] => none

def readQuotedWord (single : Bool) :
    Nat → List Char → Cursor → Option (List Char × Bool × Cursor)
  | 0, _, _ => none
  | fuel + 1, done, cursor =>
    match cursor.rest with
    | [] => some (done, false, cursor)
    | c :: rest =>
      if isBlank c || isBreak c || (c == '"' && !single) then some (done, false, cursor)
      else if c == '\'' && single then
        if rest.head? == some '\'' then
          readQuotedWord single fuel (c :: done) (cursor.pass 2)
        else some (done, false, cursor)
      else if c == '\\' && !single then
        if rest.head?.any isBreak then some (done, true, (cursor.pass 1).breakLine)
        else do
          let (c, count) ← escape? rest
          readQuotedWord single fuel (c :: done) (cursor.pass (1 + count))
      else readQuotedWord single fuel (c :: done) (cursor.pass 1)

def readQuoted (single : Bool) (indent : Int) :
    Nat → List Char → Cursor → Option (String × Cursor)
  | 0, _, _ => none
  | fuel + 1, done, cursor => do
    if cursor.atDocumentStart || cursor.atDocumentEnd || cursor.atEnd then none
    if cursor.column < indent then none
    let (done, isJoined, cursor) ← readQuotedWord single (fuel + 1) done cursor
    if cursor.peek 0 == some (if single then '\'' else '"') then
      return (String.ofList done.reverse, cursor.pass 1)
    let spread := { isBroken := isJoined, isJoined : Spread }
    let (spread, cursor) ← readSpread indent (fun _ => none) (fuel + 1) spread cursor
    readQuoted single indent fuel (spread.text.reverse ++ done) cursor

def endsPlain (inFlow : Bool) : List Char → Bool
  | [] => true
  | c :: rest =>
    isBlank c || isBreak c || (inFlow && isFlowMark c) ||
      (c == ':' && (endsWord rest.head? || (inFlow && rest.head?.any isFlowMark)))

def readPlainWord (inFlow : Bool) : Nat → List Char → Cursor → List Char × Cursor
  | 0, done, cursor => (done, cursor)
  | fuel + 1, done, cursor =>
    match cursor.rest with
    | [] => (done, cursor)
    | c :: _ =>
      if endsPlain inFlow cursor.rest then (done, cursor)
      else readPlainWord inFlow fuel (c :: done) (cursor.pass 1)

def passTabs (cursor : Cursor) : Option Cursor := do
  let gap ← readGap true cursor
  if gap.after.atLineEnd then some gap.after else none

def readPlain (inFlow : Bool) (floor : Int) :
    Nat → List Char → Spread → Cursor → Option (String × Cursor)
  | 0, _, _, _ => none
  | fuel + 1, done, spread, cursor => do
    if cursor.atDocumentStart || cursor.atDocumentEnd || cursor.peek 0 == some '#' then
      return (String.ofList done.reverse, cursor)
    if inFlow && cursor.peek 0 == some '-' && (cursor.peek 1).any isFlowMark then none
    let (done, cursor) :=
      if endsPlain inFlow cursor.rest then (done, cursor)
      else readPlainWord inFlow (fuel + 1) (spread.text.reverse ++ done) cursor
    if !(cursor.atBlank || cursor.atBreak) then return (String.ofList done.reverse, cursor)
    let (spread, cursor) ← readSpread floor passTabs (fuel + 1) {} cursor
    if !inFlow && cursor.column < floor then return (String.ofList done.reverse, cursor)
    readPlain inFlow floor fuel done spread cursor

inductive Chomping
  | strip
  | clip
  | keep
deriving DecidableEq

def Chomping.ofChar? : Char → Option Chomping
  | '-' => some .strip
  | '+' => some .keep
  | _ => none

def width? (c : Char) : Option Nat := if '1' ≤ c ∧ c ≤ '9' then some (c.toNat - '0'.toNat) else none

def readBlockHeader (cursor : Cursor) : Option (Chomping × Option Nat × Cursor) := do
  let first := cursor.peek 0
  let second := cursor.peek 1
  if let some chomping := first.bind Chomping.ofChar? then
    if second == some '0' then none
    match second.bind width? with
    | some width => some (chomping, some width, cursor.pass 2)
    | none => some (chomping, none, cursor.pass 1)
  else if first == some '0' then none
  else
    match first.bind width?, second.bind Chomping.ofChar? with
    | some width, some chomping => some (chomping, some width, cursor.pass 2)
    | some width, none => some (.clip, some width, cursor.pass 1)
    | none, _ => some (.clip, none, cursor)

def skipIndent (indent : Nat) : Nat → Nat → Cursor → Nat × Cursor
  | 0, lines, cursor => (lines, cursor)
  | fuel + 1, lines, cursor =>
    let spaces := (cursor.rest.takeWhile (· == ' ')).length
    let cursor := cursor.skip (min spaces (indent - cursor.column))
    if cursor.atBreak then skipIndent indent fuel (lines + 1) cursor.breakLine else (lines, cursor)

def skipToContent : Nat → Nat → Nat → Cursor → Nat × Nat × Cursor
  | 0, widest, lines, cursor => (widest, lines, cursor)
  | fuel + 1, widest, lines, cursor =>
    let cursor := cursor.skip (cursor.rest.takeWhile (· == ' ')).length
    let widest := max widest cursor.column
    if cursor.atBreak then skipToContent fuel widest (lines + 1) cursor.breakLine
    else (widest, lines, cursor)

structure Block where
  done : List Char := []
  isOpen : Bool := false
  isIndented : Bool := false
  emptyLines : Nat := 0

namespace Block

def breaks (count : Nat) : List Char := List.replicate count '\n'

def withLine (block : Block) (literal : Bool) (line : List Char) : Block :=
  let isIndented := line.head?.any isBlank
  let between :=
    if !literal && block.isOpen && !block.isIndented && !isIndented then
      if block.emptyLines = 0 then [' '] else breaks block.emptyLines
    else breaks (block.emptyLines + block.isOpen.toNat)
  { done := line.reverse ++ between ++ block.done, isIndented }

def readLines (literal : Bool) (indent : Nat) : Nat → Block → Cursor → Block × Cursor
  | 0, block, cursor => (block, cursor)
  | fuel + 1, block, cursor =>
    if cursor.column != indent || cursor.atEnd || cursor.atDocumentEnd then (block, cursor)
    else
      let line := cursor.rest.takeWhile fun c => !isBreak c
      let block := block.withLine literal line
      let cursor := cursor.skip line.length
      if cursor.atEnd then (block, cursor)
      else
        let cursor := cursor.breakLine
        let (emptyLines, cursor) := skipIndent indent (cursor.rest.length + 1) 0 cursor
        readLines literal indent fuel { block with isOpen := true, emptyLines } cursor

end Block

def readBlock (literal : Bool) (indent : Int) (cursor : Cursor) : Option (String × Cursor) := do
  let (chomping, width, cursor) ← readBlockHeader cursor
  let start := (← readGap true cursor).after
  if !start.atLineEnd then none
  let cursor := start.breakLine
  if cursor.peek 0 == some '\t' then none
  let size := cursor.rest.length + 1
  let (column, emptyLines, cursor) := match width with
    | some width =>
      let column := width + indent.toNat
      (column, skipIndent column size 0 cursor)
    | none =>
      let (widest, emptyLines, cursor) := skipToContent size 0 0 cursor
      (max widest (indent + 1).toNat, emptyLines, cursor)
  if cursor.atEnd then
    let breaks := if chomping = .strip || cursor.line = start.line then 0
      else if chomping = .keep then max 1 emptyLines
      else 1
    return (String.ofList (Block.breaks breaks), cursor)
  if cursor.column < column ∧ indent < cursor.column then none
  let (block, cursor) := Block.readLines literal column size { emptyLines } cursor
  let ending :=
    if chomping = .strip then 0
    else
      let unended := cursor.atEnd && max indent 1 ≤ (cursor.column : Int)
      block.isOpen.toNat + unended.toNat + (if chomping = .keep then block.emptyLines else 0)
  return (String.ofList (Block.breaks ending ++ block.done).reverse, cursor)

end StatTree.Yaml
