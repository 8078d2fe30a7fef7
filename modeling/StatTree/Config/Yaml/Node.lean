import StatTree.Config.Value
import StatTree.Config.Yaml.Scalar
import StatTree.Config.Yaml.Token
import StatTree.Number.Decimal

namespace StatTree.Yaml

inductive Node
  | nothing
  | boolean (value : Bool)
  | integer (value : Int)
  | real (text : String)
  | text (value : String)
  | sequence (items : List Node)
  | mapping (items : List Node)
  | invalid
deriving Repr, Inhabited

def integer? (base : Nat) (chars : List Char) : Option Int := do
  let (negative, digits) := match chars with
    | '-' :: rest => (true, rest)
    | '+' :: rest => (false, rest)
    | rest => (false, rest)
  if digits.isEmpty then none
  let values ← digits.mapM Text.hexDigit?
  if values.any (base ≤ ·) then none
  let magnitude := values.foldl (fun value digit => base * value + digit) 0
  let value : Int := if negative then -magnitude else magnitude
  if fitsSigned64 value then some value else none

def specialReals : List String :=
  [".inf", ".Inf", ".INF", "+.inf", "+.Inf", "+.INF", "-.inf", "-.Inf", "-.INF", ".nan", ".NAN"]

def isReal (text : String) : Bool := specialReals.contains text || (Binary64.ofText? text).isSome

namespace Node

def plainInteger? : List Char → Option Int
  | '0' :: 'x' :: rest => integer? 16 rest
  | '0' :: 'o' :: rest => integer? 8 rest
  | '+' :: rest => integer? 10 rest
  | chars => integer? 10 chars

def ofPlain (text : String) : Node :=
  match plainInteger? text.toList, text with
  | some value, _ => .integer value
  | none, "~" => .nothing
  | none, "null" => .nothing
  | none, "true" => .boolean true
  | none, "false" => .boolean false
  | none, _ => if isReal text then .real text else .text text

def ofTagged (name text : String) : Node :=
  match name, text with
  | "bool", "true" => .boolean true
  | "bool", "false" => .boolean false
  | "bool", _ => .invalid
  | "int", _ => ((integer? 10 text.toList).map .integer).getD .invalid
  | "float", _ => if isReal text then .real text else .invalid
  | "null", "~" => .nothing
  | "null", "null" => .nothing
  | "null", _ => .invalid
  | _, _ => .text text

def ownTags : String := "tag:yaml.org,2002:"

def ofScalar (isPlain : Bool) (text : String) (tag : Option (String × String)) : Node :=
  if !isPlain then .text text
  else match tag with
    | none => ofPlain text
    | some (space, name) => if space == ownTags then ofTagged name text else .text text

def key? : Node → Option (Bool × String)
  | .text value => some (false, value)
  | .integer value => some (true, toString value)
  | _ => none

mutual

def toValue : Node → Option ConfigValue
  | .nothing => some .nothing
  | .boolean value => some (.boolean value)
  | .integer value => some (.integer value)
  | .real written => (Binary64.ofText? written).map .real
  | .text value => some (.text value)
  | .sequence items => (toValues items).map .list
  | .mapping items => (toEntries [] [] items).map .table
  | .invalid => some .nothing

def toValues : List Node → Option (List ConfigValue)
  | [] => some []
  | item :: rest => do return (← toValue item) :: (← toValues rest)

def toEntries (keys : List (Bool × String)) (done : List (String × ConfigValue)) :
    List Node → Option (List (String × ConfigValue))
  | [] => some done
  | [_] => some done
  | .invalid :: item :: rest => toEntries keys done (item :: rest)
  | key :: item :: rest => do
    let key ← key.key?
    if keys.contains key then none
    toEntries (key :: keys) (ConfigValue.setEntry key.2 (← toValue item) done) rest

end

end Node

/-- The tokens that are left, and the anchors so far. An anchor is known by its name from its start
    on, and its node by the number of the anchor once it is complete. -/
structure Reading where
  tokens : List Token
  tags : List (String × String) := []
  anchors : List String := []
  nodes : List (Nat × Node) := []

namespace Reading

def anchor? (reading : Reading) (name : String) : Option Nat :=
  (reading.anchors.idxOf? name).map fun place => reading.anchors.length - place

def addAnchor (reading : Reading) (name : String) : Reading :=
  { reading with anchors := name :: reading.anchors }

def complete (reading : Reading) (anchor : Option Nat) (node : Node) : Node × Reading :=
  match anchor with
  | some number => (node, { reading with nodes := (number, node) :: reading.nodes })
  | none => (node, reading)

def tag? (reading : Reading) (handle name : String) : Option (String × String) :=
  match reading.tags.lookup handle with
  | some space => some (space, name)
  | none =>
    if handle == "!!" then some (Node.ownTags, name)
    else if 2 ≤ handle.length ∧ handle.endsWith "!" then none
    else some (handle, name)

structure Properties where
  anchor : Option Nat := none
  tag : Option (String × String) := none

def properties (reading : Reading) : Option (Properties × Reading) :=
  match reading.tokens with
  | .anchor name :: .tag handle rest :: tokens => do
    let reading := { reading with tokens }.addAnchor name
    return ({ anchor := reading.anchors.length, tag := ← reading.tag? handle rest }, reading)
  | .anchor name :: tokens =>
    let reading := { reading with tokens }.addAnchor name
    some ({ anchor := reading.anchors.length }, reading)
  | .tag handle rest :: .anchor name :: tokens => do
    let reading := { reading with tokens }.addAnchor name
    return ({ anchor := reading.anchors.length, tag := ← reading.tag? handle rest }, reading)
  | .tag handle rest :: tokens => do
    return ({ tag := ← reading.tag? handle rest }, { reading with tokens })
  | _ => some ({}, reading)

def isPlaceEmpty : List Token → Bool
  | .key :: _ | .value :: _ | .blockEnd :: _ => true
  | _ => false

end Reading

mutual

/-- Reads a node. Whether a block may open here, and whether entries may follow without one,
    depends on what the node is in. With properties alone it is an empty scalar. -/
def readNode (fuel : Nat) (block entries : Bool) (reading : Reading) : Option (Node × Reading) :=
  match fuel, reading.tokens with
  | 0, _ => none
  | _ + 1, .reference name :: tokens => do
    let number ← reading.anchor? name
    return ((reading.nodes.lookup number).getD .invalid, { reading with tokens })
  | fuel + 1, _ => do
    let (properties, reading) ← reading.properties
    let rest := fun tokens => { reading with tokens : Reading }
    let done := fun (node, reading) => Reading.complete reading properties.anchor node
    match reading.tokens, block, entries with
    | .blockEntry :: _, _, true => (readEntries fuel [] reading).map done
    | .scalar isPlain text :: tokens, _, _ =>
      some (done (.ofScalar isPlain text properties.tag, rest tokens))
    | .flowSequence :: tokens, _, _ => (readFlowItems fuel [] true (rest tokens)).map done
    | .flowMapping :: tokens, _, _ => (readFlowPairs fuel [] true (rest tokens)).map done
    | .blockSequence :: tokens, true, _ => (readItems fuel [] (rest tokens)).map done
    | .blockMapping :: tokens, true, _ => (readPairs fuel [] (rest tokens)).map done
    | _, _, _ =>
      if properties.tag.isNone && properties.anchor.isNone then none
      else some (done (.ofScalar true "" properties.tag, reading))

def readEntries (fuel : Nat) (items : List Node) (reading : Reading) : Option (Node × Reading) :=
  match fuel, reading.tokens with
  | 0, _ => none
  | fuel + 1, .blockEntry :: tokens => do
    let reading := { reading with tokens }
    let (item, reading) ←
      if tokens.head? == some .blockEntry || Reading.isPlaceEmpty tokens then
        some (.nothing, reading)
      else readNode fuel true false reading
    readEntries fuel (item :: items) reading
  | _ + 1, _ => some (.sequence items.reverse, reading)

def readItems (fuel : Nat) (items : List Node) (reading : Reading) : Option (Node × Reading) :=
  match fuel, reading.tokens with
  | 0, _ => none
  | fuel + 1, .blockEntry :: tokens => do
    let reading := { reading with tokens }
    let (item, reading) ←
      if tokens.head? == some .blockEntry || tokens.head? == some .blockEnd then
        some (.nothing, reading)
      else readNode fuel true false reading
    readItems fuel (item :: items) reading
  | _ + 1, .blockEnd :: tokens => some (.sequence items.reverse, { reading with tokens })
  | _ + 1, _ => none

def readPlace (fuel : Nat) (reading : Reading) : Option (Node × Reading) :=
  match fuel with
  | 0 => none
  | fuel + 1 =>
    if Reading.isPlaceEmpty reading.tokens then some (.nothing, reading)
    else readNode fuel true true reading

def readPairs (fuel : Nat) (items : List Node) (reading : Reading) : Option (Node × Reading) :=
  match fuel, reading.tokens with
  | 0, _ => none
  | _ + 1, .blockEnd :: tokens => some (.mapping items.reverse, { reading with tokens })
  | fuel + 1, tokens => do
    let (key, reading) ← match tokens with
      | .key :: tokens => readPlace fuel { reading with tokens }
      | .value :: _ => some (.nothing, reading)
      | _ => none
    let (value, reading) ← match reading.tokens with
      | .value :: tokens => readPlace fuel { reading with tokens }
      | _ => some (.nothing, reading)
    readPairs fuel (value :: key :: items) reading

def readFlowItems (fuel : Nat) (items : List Node) (isFirst : Bool) (reading : Reading) :
    Option (Node × Reading) :=
  match fuel with
  | 0 => none
  | fuel + 1 => do
    let ends := reading.tokens.head? == some .flowSequenceEnd
    let tokens ← match reading.tokens with
      | .flowEntry :: tokens => if isFirst then some (.flowEntry :: tokens) else some tokens
      | tokens => if isFirst || ends then some tokens else none
    let reading := { reading with tokens }
    match tokens with
    | .flowSequenceEnd :: tokens => some (.sequence items.reverse, { reading with tokens })
    | .key :: tokens =>
      let (item, reading) ← readPair fuel { reading with tokens }
      readFlowItems fuel (item :: items) false reading
    | _ =>
      let (item, reading) ← readNode fuel false false reading
      readFlowItems fuel (item :: items) false reading

def readPair (fuel : Nat) (reading : Reading) : Option (Node × Reading) :=
  match fuel with
  | 0 => none
  | fuel + 1 => do
    let (key, reading) ← match reading.tokens with
      | .value :: tokens | .flowEntry :: tokens | .flowSequenceEnd :: tokens =>
        some (.nothing, { reading with tokens })
      | _ => readNode fuel false false reading
    let (value, reading) ← match reading.tokens with
      | .value :: tokens =>
        let reading := { reading with tokens }
        match tokens with
        | .flowEntry :: _ | .flowSequenceEnd :: _ => some (.nothing, reading)
        | _ => readNode fuel false false reading
      | _ => some (.nothing, reading)
    return (.mapping [key, value], reading)

def readFlowPairs (fuel : Nat) (items : List Node) (isFirst : Bool) (reading : Reading) :
    Option (Node × Reading) :=
  match fuel with
  | 0 => none
  | fuel + 1 => do
    let ends := reading.tokens.head? == some .flowMappingEnd
    let tokens ← match reading.tokens with
      | .flowEntry :: tokens => if isFirst then some (.flowEntry :: tokens) else some tokens
      | tokens => if isFirst || ends then some tokens else none
    let reading := { reading with tokens }
    match tokens with
    | .flowMappingEnd :: tokens => some (.mapping items.reverse, { reading with tokens })
    | .key :: tokens =>
      let reading := { reading with tokens }
      let (key, reading) ← match tokens with
        | .value :: _ | .flowEntry :: _ | .flowMappingEnd :: _ => some (.nothing, reading)
        | _ => readNode fuel false false reading
      let (value, reading) ← readFlowPlace fuel reading
      readFlowPairs fuel (value :: key :: items) false reading
    | .value :: _ =>
      let (value, reading) ← readFlowPlace fuel reading
      readFlowPairs fuel (value :: .nothing :: items) false reading
    | _ =>
      let (key, reading) ← readNode fuel false false reading
      readFlowPairs fuel (.nothing :: key :: items) false reading

def readFlowPlace (fuel : Nat) (reading : Reading) : Option (Node × Reading) :=
  match fuel, reading.tokens with
  | 0, _ => none
  | fuel + 1, .value :: tokens =>
    let reading := { reading with tokens }
    match tokens with
    | .flowEntry :: _ | .flowMappingEnd :: _ => some (.nothing, reading)
    | _ => readNode fuel false false reading
  | _ + 1, _ => some (.nothing, reading)

end

end StatTree.Yaml
