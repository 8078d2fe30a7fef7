import StatTree.Text.Blank

namespace StatTree.Text

structure CharSet where
  isNegated : Bool
  ranges : List (Char × Char)
deriving DecidableEq, Repr

namespace CharSet

def holds (set : CharSet) (c : Char) : Bool :=
  set.ranges.any (fun (low, high) => low ≤ c && c ≤ high) != set.isNegated

def single (c : Char) : CharSet := ⟨false, [(c, c)]⟩

def point : CharSet := ⟨true, [('\n', '\n')]⟩

def ofLetter? (c : Char) : Option CharSet :=
  match c.toLower with
  | 'd' => some ⟨c.isUpper, [('0', '9')]⟩
  | 'w' => some ⟨c.isUpper, [('0', '9'), ('A', 'Z'), ('_', '_'), ('a', 'z')]⟩
  | 's' => some ⟨c.isUpper, [('\t', '\r'), (' ', ' ')]⟩
  | _ => none

end CharSet

/-- A pattern. Of two choices the first is preferred; a greedy repetition prefers to go on. -/
inductive Pattern
  | empty
  | one (set : CharSet)
  | start
  | finish
  | both (first second : Pattern)
  | either (first second : Pattern)
  | many (isGreedy : Bool) (inner : Pattern)
deriving Repr

namespace Pattern

/-- What is left after each number of repetitions, in the order of preference. Every repetition
    takes a character at least. -/
def repeated (isGreedy : Bool) (step : List Char → List (List Char)) :
    Nat → List Char → List (List Char)
  | 0, chars => [chars]
  | count + 1, chars =>
    let further := (step chars).filter (·.length < chars.length)
    let more := further.flatMap (repeated isGreedy step count)
    if isGreedy then more ++ [chars] else chars :: more

def rests (size : Nat) : Pattern → List Char → List (List Char)
  | .empty, chars => [chars]
  | .one set, c :: chars => if set.holds c then [chars] else []
  | .one _, [] => []
  | .start, chars => if chars.length = size then [chars] else []
  | .finish, chars => if chars.isEmpty then [chars] else []
  | .both first second, chars => (rests size first chars).flatMap (rests size second)
  | .either first second, chars => rests size first chars ++ rests size second chars
  | .many isGreedy inner, chars => repeated isGreedy (rests size inner) chars.length chars

def firstRest? (size : Nat) (pattern : Pattern) : List Char → Option (List Char)
  | [] => (pattern.rests size []).head?
  | c :: chars => ((pattern.rests size (c :: chars)).head?).or (firstRest? size pattern chars)

def fits (pattern : Pattern) (text : String) : Bool :=
  (pattern.firstRest? text.length text.toList).any List.isEmpty

def escaped? (c : Char) : Option Char :=
  match c with
  | 'n' => some '\n'
  | 't' => some '\t'
  | 'r' => some '\r'
  | 'f' => some '\x0c'
  | 'v' => some '\x0b'
  | 'a' => some '\x07'
  | c => if c.toNat < 0x80 && !c.isAlphanum && !isBlank c then some c else none

def readRanges : Nat → List (Char × Char) → List Char → Option (List (Char × Char) × List Char)
  | 0, _, _ => none
  | fuel + 1, done, chars =>
    match chars with
    | ']' :: rest => if done.isEmpty then range fuel done ']' rest else some (done, rest)
    | '[' :: _ => none
    | '\\' :: c :: rest =>
      match CharSet.ofLetter? c with
      | some set => if set.isNegated then none else readRanges fuel (set.ranges ++ done) rest
      | none => do range fuel done (← escaped? c) rest
    | c :: rest => range fuel done c rest
    | [] => none
where
  range (fuel : Nat) (done : List (Char × Char)) (low : Char) (rest : List Char) :
      Option (List (Char × Char) × List Char) :=
    match rest with
    | '-' :: ']' :: _ => readRanges fuel ((low, low) :: done) rest
    | '-' :: '\\' :: c :: rest => do
      let high ← escaped? c
      if low ≤ high then readRanges fuel ((low, high) :: done) rest else none
    | '-' :: high :: rest =>
      if low ≤ high then readRanges fuel ((low, high) :: done) rest else none
    | _ => readRanges fuel ((low, low) :: done) rest

def withRepetitions : Nat → Pattern → List Char → Pattern × List Char
  | 0, pattern, chars => (pattern, chars)
  | fuel + 1, pattern, chars =>
    let isGreedy := chars[1]? != some '?'
    let rest := chars.drop (if isGreedy then 1 else 2)
    match chars.head? with
    | some '*' => withRepetitions fuel (.many isGreedy pattern) rest
    | some '+' => withRepetitions fuel (.both pattern (.many isGreedy pattern)) rest
    | some '?' =>
      let optional := if isGreedy then .either pattern .empty else .either .empty pattern
      withRepetitions fuel optional rest
    | _ => (pattern, chars)

mutual

def readChoices (fuel : Nat) (chars : List Char) : Option (Pattern × List Char) :=
  match fuel with
  | 0 => none
  | fuel + 1 => do
    let (first, rest) ← readRow fuel .empty chars
    match rest with
    | '|' :: rest =>
      let (second, rest) ← readChoices fuel rest
      some (.either first second, rest)
    | rest => some (first, rest)

def readRow (fuel : Nat) (before : Pattern) (chars : List Char) : Option (Pattern × List Char) :=
  match fuel, chars with
  | 0, _ => none
  | _ + 1, [] | _ + 1, '|' :: _ | _ + 1, ')' :: _ => some (before, chars)
  | fuel + 1, chars => do
    let (next, rest) ← readOne fuel chars
    let (next, rest) := withRepetitions rest.length next rest
    readRow fuel (.both before next) rest

def readOne (fuel : Nat) (chars : List Char) : Option (Pattern × List Char) :=
  match fuel, chars with
  | 0, _ | _, [] => none
  | fuel + 1, '(' :: rest => do
    let inner ← match rest with
      | '?' :: ':' :: inner => some inner
      | '?' :: _ => none
      | inner => some inner
    match ← readChoices fuel inner with
    | (pattern, ')' :: rest) => some (pattern, rest)
    | _ => none
  | _ + 1, '[' :: '^' :: rest => do
    let (ranges, rest) ← readRanges (rest.length + 1) [] rest
    some (.one ⟨true, ranges⟩, rest)
  | _ + 1, '[' :: rest => do
    let (ranges, rest) ← readRanges (rest.length + 1) [] rest
    some (.one ⟨false, ranges⟩, rest)
  | _ + 1, '\\' :: c :: rest =>
    match CharSet.ofLetter? c with
    | some set => some (.one set, rest)
    | none => (escaped? c).map fun c => (.one (.single c), rest)
  | _ + 1, '.' :: rest => some (.one .point, rest)
  | _ + 1, '^' :: rest => some (.start, rest)
  | _ + 1, '$' :: rest => some (.finish, rest)
  | _ + 1, c :: rest =>
    if "*+?\x7b\\".toList.contains c then none else some (.one (.single c), rest)

end

def ofText? (text : String) : Option Pattern := do
  let chars := text.toList
  match ← readChoices (3 * chars.length + 3) chars with
  | (pattern, []) => some pattern
  | _ => none

end Pattern

end StatTree.Text
