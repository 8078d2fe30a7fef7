import StatTree.Number.Binary64
import StatTree.Text.Digits

namespace StatTree.Binary64

def ofText? (text : String) : Option Binary64 := do
  let (negative, rest) := match text.toList with
    | '-' :: rest => (true, rest)
    | '+' :: rest => (false, rest)
    | rest => (false, rest)
  match (String.ofList rest).toLower with
  | "inf" | "infinity" => some (.infinite negative)
  | "nan" => some .notANumber
  | _ =>
    let whole := rest.takeWhile Char.isDigit
    let rest := rest.dropWhile Char.isDigit
    let (fraction, rest) := match rest with
      | '.' :: rest => (rest.takeWhile Char.isDigit, rest.dropWhile Char.isDigit)
      | rest => ([], rest)
    if whole.isEmpty && fraction.isEmpty then none
    let exponent ← match rest with
      | [] => some 0
      | mark :: rest => do
        if mark != 'e' && mark != 'E' then none
        match ← Text.readExponent rest with
        | (value, []) => some value
        | _ => none
    some (.ofDecimal negative (Text.digitsValue (whole ++ fraction)) (exponent - fraction.length))

end StatTree.Binary64
