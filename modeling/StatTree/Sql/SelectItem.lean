import StatTree.Sql.Column

namespace StatTree.Sql

inductive SelectItem
  | column (source : Column)
  /-- The rows of a joined subquery as a JSON array, empty where there are none. -/
  | array (asName output : String)
  | call (function : String) (argument : Column) (output : String)
deriving DecidableEq, Repr

namespace SelectItem

def text : SelectItem → String
  | .column source => source.text
  | .array asName output =>
    "(CASE WHEN count(" ++ asName ++ ") = 0 THEN '[]' ELSE json_agg(" ++ asName ++ ") END) AS " ++
      output
  | .call function argument output =>
    function ++ "(" ++ argument.text ++ ") AS " ++ output

def output : SelectItem → String
  | .column source => source.name
  | .array _ output => output
  | .call _ _ output => output

end SelectItem

end StatTree.Sql
