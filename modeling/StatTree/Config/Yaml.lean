import StatTree.Config.Yaml.Lexer
import StatTree.Config.Yaml.Node

namespace StatTree.Yaml

def isDirective : Token → Bool
  | .versionDirective | .tagDirective .. => true
  | _ => false

def declaredTags? (directives : List Token) : Option (List (String × String)) :=
  if 1 < directives.count .versionDirective then none
  else match directives.getLast? with
    | some (.tagDirective handle meaning) => some [(handle, meaning)]
    | _ => some []

def isContentEmpty : List Token → Bool
  | [] | .versionDirective :: _ | .tagDirective .. :: _ | .documentStart :: _
  | .documentEnd :: _ => true
  | _ => false

def readDocument (tokens : List Token) : Option (Node × List Token) := do
  let directives := tokens.takeWhile isDirective
  let tags ← declaredTags? directives
  let rest := tokens.drop directives.length
  let fuel := 4 * tokens.length + 8
  match rest with
  | .documentStart :: rest =>
    if isContentEmpty rest then some (.nothing, rest)
    else (readNode fuel true false { tokens := rest, tags }).map fun (node, reading) =>
      (node, reading.tokens)
  | _ =>
    if directives.isEmpty then
      (readNode fuel true false { tokens := rest }).map fun (node, reading) =>
        (node, reading.tokens)
    else none

def document? (tokens : List Token) : Option (Option Node) :=
  match tokens.dropWhile (· == .documentEnd) with
  | [] => some none
  | tokens => do
    let (node, rest) ← readDocument tokens
    if rest.all (· == .documentEnd) then some (some node) else none

def parse? (source : String) : Option (List (String × ConfigValue)) := do
  match ← document? (← tokens? source) with
  | none => some []
  | some node =>
    match ← node.toValue with
    | .table entries => some entries
    | _ => none

end StatTree.Yaml
