import StatTree.Config.Yaml.Scalar
import StatTree.Config.Yaml.Token

namespace StatTree.Yaml

structure CandidateKey where
  isRequired : Bool
  token : Nat
  place : Cursor

structure Level where
  outside : Int
  isBlock : Bool

structure Lexer where
  cursor : Cursor
  tokens : Array Token := #[]
  keyAllowed : Bool := true
  candidate : Option CandidateKey := none
  outer : List (Option CandidateKey) := []
  indent : Int := -1
  levels : List Level := []
  /-- Where a colon may stand right before its value. -/
  adjacentAt : Option Nat := none
  inFlowMapping : Bool := false
  pairs : List Bool := []

namespace Lexer

def inFlow (lexer : Lexer) : Bool := !lexer.outer.isEmpty

def push (lexer : Lexer) (token : Token) : Lexer :=
  { lexer with tokens := lexer.tokens.push token }

def insert (lexer : Lexer) (place : Nat) (token : Token) : Lexer :=
  { lexer with tokens := lexer.tokens.insertIdxIfInBounds place token }

def pass (lexer : Lexer) (count : Nat) : Lexer :=
  { lexer with cursor := lexer.cursor.pass count }

def allowKey (lexer : Lexer) (allowed : Bool) : Lexer := { lexer with keyAllowed := allowed }

def levelsTo (column : Int) : Int → List Level → Array Token → Int × List Level × Array Token
  | indent, [], tokens => (indent, [], tokens)
  | indent, level :: rest, tokens =>
    if indent ≤ column then (indent, level :: rest, tokens)
    else
      levelsTo column level.outside rest
        (if level.isBlock then tokens.push .blockEnd else tokens)

def leaveTo (lexer : Lexer) (column : Int) : Lexer :=
  if lexer.inFlow then lexer
  else
    let (indent, levels, tokens) := levelsTo column lexer.indent lexer.levels lexer.tokens
    { lexer with indent, levels, tokens }

def openBlock (lexer : Lexer) (column : Nat) (place : Nat) (token : Token) : Lexer :=
  if lexer.inFlow then lexer
  else
    let lexer := match lexer.levels with
      | level :: rest =>
        if lexer.indent ≤ column ∧ !level.isBlock then
          { lexer with indent := level.outside, levels := rest }
        else lexer
      | [] => lexer
    if lexer.indent < (column : Int) then
      { lexer.insert place token with
        indent := (column : Int)
        levels := ⟨lexer.indent, true⟩ :: lexer.levels }
    else lexer

def indentContent (lexer : Lexer) : Lexer :=
  if !lexer.inFlow && lexer.levels.head?.any Level.isBlock then
    { lexer with indent := lexer.indent + 1, levels := ⟨lexer.indent, false⟩ :: lexer.levels }
  else lexer

def dropContent : Int → List Level → Int × List Level
  | indent, [] => (indent, [])
  | indent, level :: rest =>
    if level.isBlock then (indent, level :: rest) else dropContent level.outside rest

def leaveContent (lexer : Lexer) : Lexer :=
  let (indent, levels) := dropContent lexer.indent lexer.levels
  { lexer with indent, levels }

def saveKey (lexer : Lexer) : Lexer :=
  if lexer.keyAllowed then
    let isRequired := !lexer.inFlow && lexer.indent == lexer.cursor.column &&
      lexer.levels.head?.any Level.isBlock
    { lexer with candidate := some ⟨isRequired, lexer.tokens.size, lexer.cursor⟩ }
  else lexer

def dropKey (lexer : Lexer) : Option Lexer :=
  if lexer.candidate.any CandidateKey.isRequired then none
  else some { lexer with candidate := none }

def maxKeyLength : Nat := 1024

/-- Outside flow collections, a key ends on its line and does not reach far. -/
def dropStaleKey (lexer : Lexer) : Option Lexer :=
  let isStale := lexer.candidate.any fun key =>
    !lexer.inFlow && (key.place.line < lexer.cursor.line ||
      key.place.index + maxKeyLength < lexer.cursor.index)
  if isStale then lexer.dropKey else some lexer

def skipToToken : Nat → Lexer → Option Lexer
  | 0, _ => none
  | fuel + 1, lexer =>
    let cursor := lexer.cursor
    match cursor.peek 0 with
    | some c =>
      if c == '\t' && !lexer.levels.isEmpty && cursor.leading &&
          cursor.column < lexer.indent then do
        skipToToken fuel { lexer with cursor := ← passTabs cursor }
      else if isBlank c then skipToToken fuel { lexer with cursor := cursor.skip 1 }
      else if isBreak c then
        skipToToken fuel
          { lexer with
            cursor := cursor.breakLine
            keyAllowed := lexer.keyAllowed || !lexer.inFlow }
      else if c == '#' then skipToToken fuel { lexer with cursor := cursor.passLine }
      else some lexer
    | none => some lexer

def toToken (lexer : Lexer) : Option Lexer := lexer.skipToToken (lexer.cursor.rest.length + 1)

def passGap (lexer : Lexer) : Option Lexer := do
  return { lexer with cursor := (← readGap true lexer.cursor).after }

def endBlocks (lexer : Lexer) : Option Lexer := do
  return (← (lexer.leaveTo (-1)).dropKey).allowKey false

def readDocumentMark (lexer : Lexer) (token : Token) : Option Lexer := do
  return ((← lexer.endBlocks).pass 3).push token

def isNameChar (c : Char) : Bool := c.isAlphanum || c == '_' || c == '-'

def dropNumber (chars : List Char) : Option (List Char) :=
  let count := (chars.takeWhile Char.isDigit).length
  if count = 0 ∨ 9 < count then none else some (chars.drop count)

def isTagChar (c : Char) : Bool :=
  c.isAlphanum || "-#;/?:@&=+$_.~*'()".toList.contains c

def isFullTagChar (c : Char) : Bool := isTagChar c || "!,[]".toList.contains c

def readTagText (isChar : Char → Bool) (done : ByteArray) : List Char → Option (String × List Char)
  | '%' :: a :: b :: rest => do
    readTagText isChar (done.push (.ofNat (← Text.hexValue? [a, b]))) rest
  | c :: rest =>
    if c == '%' then none
    else if isChar c then readTagText isChar (done ++ (String.singleton c).toUTF8) rest
    else (String.fromUTF8? done).map (·, c :: rest)
  | [] => (String.fromUTF8? done).map (·, [])

def readHandle (chars : List Char) : Option (String × List Char) :=
  match chars with
  | '!' :: rest =>
    let name := rest.takeWhile isNameChar
    match rest.drop name.length with
    | '!' :: rest => some (String.ofList ('!' :: name ++ ['!']), rest)
    | rest => some (String.ofList ('!' :: name), rest)
  | _ => none

def readTagDirective (chars : List Char) : Option (Token × List Char) := do
  let (handle, rest) ← readHandle (chars.dropWhile isBlank)
  if handle != "!" && !(handle.drop 1).endsWith "!" then none
  let rest := rest.dropWhile isBlank
  if !(rest.head?.any fun c => c == '!' || c == '%' || isTagChar c) then none
  let (meaning, rest) ← readTagText isFullTagChar .empty rest
  if endsWord rest.head? then some (.tagDirective handle meaning, rest) else none

def readDirectiveValue (name : String) (chars : List Char) : Option (Token × List Char) :=
  match name with
  | "YAML" => do
    match ← dropNumber (chars.dropWhile isBlank) with
    | '.' :: rest => some (.versionDirective, ← dropNumber rest)
    | _ => none
  | "TAG" => readTagDirective chars
  | _ => some (.tagDirective "" "", chars.dropWhile fun c => !isBreak c)

def readDirective (lexer : Lexer) : Option Lexer := do
  let lexer ← lexer.endBlocks
  let chars := lexer.cursor.rest.drop 1
  let name := chars.takeWhile isNameChar
  let chars := chars.drop name.length
  if name.isEmpty || !endsWord chars.head? then none
  let (token, rest) ← readDirectiveValue (String.ofList name) chars
  let lexer ← (lexer.pass (lexer.cursor.rest.length - rest.length)).passGap
  if lexer.cursor.atLineEnd then
    some { lexer.push token with cursor := lexer.cursor.breakLine }
  else none

def readName (lexer : Lexer) (token : String → Token) : Option Lexer :=
  let name := (lexer.cursor.rest.drop 1).takeWhile fun c =>
    !(isBlank c || isBreak c || isFlowMark c || c == '\ufeff')
  if name.isEmpty then none
  else some (((lexer.saveKey.allowKey false).pass (1 + name.length)).push
    (token (String.ofList name)))

def readTagToken (chars : List Char) : Option (Token × List Char) := do
  match chars with
  | '!' :: '<' :: rest =>
    match ← readTagText isFullTagChar .empty rest with
    | (name, '>' :: rest) => some (.tag "" name, rest)
    | _ => none
  | _ =>
    let (handle, rest) ← readHandle chars
    let (name, rest) ← readTagText isTagChar .empty rest
    if handle != "!" && handle.endsWith "!" then
      if name.isEmpty then none else some (.tag handle name, rest)
    else
      let name := String.ofList (handle.toList.drop 1) ++ name
      some (if name.isEmpty then .tag "" "!" else .tag "!" name, rest)

def readTag (lexer : Lexer) : Option Lexer := do
  let lexer := lexer.saveKey.allowKey false
  let (token, rest) ← readTagToken lexer.cursor.rest
  if endsWord rest.head? || (lexer.inFlow && rest.head?.any isFlowMark) then
    some ((lexer.pass (lexer.cursor.rest.length - rest.length)).push token)
  else none

def endPair (lexer : Lexer) : Lexer :=
  match lexer.pairs with
  | true :: rest =>
    { lexer.push .flowMappingEnd with inFlowMapping := false, pairs := false :: rest }
  | _ => lexer

def maxFlowDepth : Nat := 255

def startFlow (lexer : Lexer) (isMapping : Bool) : Option Lexer := do
  let lexer := lexer.saveKey.indentContent
  if maxFlowDepth ≤ lexer.outer.length then none
  let lexer := { lexer with
    outer := lexer.candidate :: lexer.outer
    candidate := none
    keyAllowed := true
    inFlowMapping := lexer.inFlowMapping || isMapping
    pairs := if isMapping then lexer.pairs else false :: lexer.pairs }
  return (← (lexer.pass 1).passGap).push (if isMapping then .flowMapping else .flowSequence)

def endFlow (lexer : Lexer) (isMapping : Bool) : Option Lexer := do
  let lexer := (← lexer.dropKey).allowKey false
  let lexer := match lexer.outer with
    | candidate :: outer => { lexer with candidate, outer }
    | [] => lexer
  let lexer :=
    if isMapping then lexer else { lexer.endPair with pairs := lexer.pairs.drop 1 }
  let lexer ← (lexer.pass 1).passGap
  let adjacentAt := if lexer.inFlow then some lexer.cursor.index else lexer.adjacentAt
  return { lexer with adjacentAt }.push (if isMapping then .flowMappingEnd else .flowSequenceEnd)

def readFlowEntry (lexer : Lexer) : Option Lexer := do
  let lexer := ((← lexer.dropKey).allowKey true).endPair
  return (← (lexer.pass 1).passGap).push .flowEntry

def readBlockEntry (lexer : Lexer) : Option Lexer := do
  if lexer.inFlow || !lexer.keyAllowed then none
  let column := lexer.cursor.column
  let lexer := (lexer.pass 1).openBlock column lexer.tokens.size .blockSequence
  let gap ← readGap true lexer.cursor
  if gap.hasTab && gap.after.peek 0 == some '-' && endsWord (gap.after.peek 1) then none
  let lexer := { lexer with cursor := gap.after }
  let lexer :=
    if lexer.cursor.atBreak || (lexer.cursor.peek 0).any isFlowMark then lexer.indentContent
    else lexer
  return ((← lexer.dropKey).allowKey true).push .blockEntry

def skipSpace : Nat → Lexer → Lexer
  | 0, lexer => lexer
  | fuel + 1, lexer =>
    match lexer.cursor.peek 0 with
    | some ' ' => skipSpace fuel { lexer with cursor := lexer.cursor.skip 1 }
    | some '#' => skipSpace fuel { lexer with cursor := lexer.cursor.passLine }
    | some c =>
      if isBreak c then
        skipSpace fuel
          { lexer with
            cursor := lexer.cursor.breakLine
            keyAllowed := lexer.keyAllowed || !lexer.inFlow }
      else lexer
    | none => lexer

def readKeyMark (lexer : Lexer) : Option Lexer := do
  if !lexer.inFlow && !lexer.keyAllowed then none
  let lexer := lexer.openBlock lexer.cursor.column lexer.tokens.size .blockMapping
  let lexer ← { lexer with inFlowMapping := lexer.inFlowMapping || lexer.inFlow }.dropKey
  let lexer := (lexer.allowKey !lexer.inFlow).pass 1
  if !(lexer.cursor.peek 0).any fun c => c == ' ' || isBreak c then none
  let lexer := lexer.skipSpace (lexer.cursor.rest.length + 1)
  if lexer.cursor.peek 0 == some '\t' then none
  return lexer.push .key

def passValueGap (lexer : Lexer) : Option Lexer := do
  if lexer.cursor.peek 0 != some '\t' then return lexer
  let gap ← readGap true lexer.cursor
  if !gap.hasSpace && (gap.after.peek 0).any fun c => c == '-' || c.isAlphanum then none
  return { lexer with cursor := gap.after }

/-- Reads the colon of a value. The candidate becomes its key, if there is one; otherwise a key
    that is written as such, or none, comes before it. In a flow sequence, a pair needs no
    braces. -/
def readValueMark (lexer : Lexer) : Option Lexer := do
  let place := lexer.cursor
  let isPair := !lexer.pairs.isEmpty && !lexer.inFlowMapping
  let lexer := if isPair then { lexer with pairs := true :: lexer.pairs.drop 1 } else lexer
  let lexer ← (lexer.pass 1).passValueGap
  match lexer.candidate with
  | some key =>
    if isPair && key.place.line < place.line then none
    let lexer := lexer.insert key.token .key
    let lexer := if isPair then lexer.insert key.token .flowMapping else lexer
    let lexer := (lexer.openBlock key.place.column key.token .blockMapping).indentContent
    return { lexer with candidate := none, keyAllowed := false }.push .value
  | none =>
    let lexer := if isPair then lexer.push .flowMapping else lexer
    if !lexer.inFlow && !lexer.keyAllowed then none
    let lexer := (lexer.openBlock place.column lexer.tokens.size .blockMapping).indentContent
    return (lexer.allowKey !lexer.inFlow).push .value

def readBlockScalar (lexer : Lexer) (literal : Bool) : Option Lexer := do
  let lexer := ((lexer.saveKey.allowKey true).pass 1).leaveContent
  let (text, cursor) ← readBlock literal lexer.indent lexer.cursor
  return { lexer with cursor }.push (.scalar false text)

def mayFollowQuoted (lexer : Lexer) (start : Cursor) : Bool :=
  match lexer.cursor.peek 0 with
  | some c =>
    isBreak c ||
      (if lexer.inFlow then c == ',' || c == ']' || c == '\x7d' || c == ':'
      else c == ':' && start.line == lexer.cursor.line)
  | none => true

def readQuotedScalar (lexer : Lexer) (single : Bool) : Option Lexer := do
  let start := lexer.cursor
  let lexer := (lexer.saveKey.allowKey false).pass 1
  let (text, cursor) ← readQuoted single lexer.indent (start.rest.length + 1) [] lexer.cursor
  let lexer ← { lexer with cursor }.passGap
  if !lexer.mayFollowQuoted start then none
  let lexer ← lexer.toToken
  return { lexer with adjacentAt := some lexer.cursor.index }.push (.scalar false text)

def readPlainScalar (lexer : Lexer) : Option Lexer := do
  let lexer := (lexer.saveKey.allowKey false).leaveContent
  let floor := lexer.indent + 1
  if lexer.inFlow ∧ lexer.cursor.column < floor then none
  let size := lexer.cursor.rest.length + 1
  let (text, cursor) ← readPlain lexer.inFlow floor size [] {} lexer.cursor
  return { lexer with cursor, keyAllowed := cursor.leading }.push (.scalar true text)

def readFlowValue (lexer : Lexer) : Option Lexer :=
  let opensNext := (lexer.cursor.peek 1).any fun c => c == '[' || c == '\x7b'
  if opensNext && lexer.adjacentAt != some lexer.cursor.index then none
  else lexer.readValueMark

def readToken (lexer : Lexer) (c : Char) : Option Lexer :=
  let next := lexer.cursor.peek 1
  match c with
  | '[' => lexer.startFlow false
  | '\x7b' => lexer.startFlow true
  | ']' => lexer.endFlow false
  | '\x7d' => lexer.endFlow true
  | ',' => lexer.readFlowEntry
  | '*' => lexer.readName .reference
  | '&' => lexer.readName .anchor
  | '!' => lexer.readTag
  | '\'' => lexer.readQuotedScalar true
  | '"' => lexer.readQuotedScalar false
  | '%' | '@' | '\x60' => none
  | '-' => if endsWord next then lexer.readBlockEntry else lexer.readPlainScalar
  | '?' => if endsWord next then lexer.readKeyMark else lexer.readPlainScalar
  | ':' =>
    if endsWord next then lexer.readValueMark
    else if lexer.inFlow &&
        (next.any isFlowMark || lexer.adjacentAt == some lexer.cursor.index) then
      lexer.readFlowValue
    else lexer.readPlainScalar
  | '|' => if lexer.inFlow then lexer.readPlainScalar else lexer.readBlockScalar true
  | '>' => if lexer.inFlow then lexer.readPlainScalar else lexer.readBlockScalar false
  | _ => lexer.readPlainScalar

def finish (lexer : Lexer) : Option (Array Token) := do
  if (lexer.candidate :: lexer.outer).any fun key => key.any CandidateKey.isRequired then none
  return (lexer.leaveTo (-1)).tokens

def readAll : Nat → Lexer → Option (Array Token)
  | 0, _ => none
  | fuel + 1, lexer => do
    let lexer := (← (← lexer.toToken).dropStaleKey)
    let lexer := lexer.leaveTo lexer.cursor.column
    match lexer.cursor.rest with
    | [] => lexer.finish
    | c :: _ =>
      let atStart := lexer.cursor.column == 0
      if atStart && c == '%' then readAll fuel (← lexer.readDirective)
      else if lexer.cursor.atDocumentStart then
        readAll fuel (← lexer.readDocumentMark .documentStart)
      else if lexer.cursor.atDocumentEnd then
        let lexer ← (← lexer.readDocumentMark .documentEnd).passGap
        if lexer.cursor.atLineEnd then readAll fuel lexer else none
      else if lexer.cursor.column < lexer.indent then none
      else readAll fuel (← lexer.readToken c)

end Lexer

def tokens? (source : String) : Option (List Token) := do
  let chars := source.toList.takeWhile (· != '\x00')
  return (← ({ cursor := { rest := chars } : Lexer }.readAll (chars.length + 1))).toList

end StatTree.Yaml
