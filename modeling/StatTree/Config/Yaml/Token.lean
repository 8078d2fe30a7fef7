namespace StatTree.Yaml

inductive Token
  | versionDirective
  | tagDirective (handle meaning : String)
  | documentStart
  | documentEnd
  | blockSequence
  | blockMapping
  | blockEnd
  | flowSequence
  | flowSequenceEnd
  | flowMapping
  | flowMappingEnd
  | blockEntry
  | flowEntry
  | key
  | value
  | anchor (name : String)
  | reference (name : String)
  | tag (handle name : String)
  | scalar (isPlain : Bool) (text : String)
deriving DecidableEq, Repr

end StatTree.Yaml
