import StatTree.Log
import StatTree.Number.Decimal
import StatTree.Text.Alphanumeric
import StatTree.Text.Digits
import StatTree.Text.Pattern

namespace StatTree

structure FieldCondition where
  name : String
  value : Option String
deriving DecidableEq, Repr

namespace FieldCondition

def asksForNumber (value : String) : Bool :=
  value == "true" || value == "false" || (Binary64.ofText? value).isSome

def ofText? (source : String) : Option FieldCondition :=
  match source.splitOn "=" with
  | name :: value :: _ =>
    if asksForNumber value || (Text.Pattern.ofText? value).isSome then some ⟨name, some value⟩
    else none
  | _ => if source.isEmpty then none else some ⟨source, none⟩

def holds (condition : FieldCondition) (text : String) : Bool :=
  match condition.value with
  | none => true
  | some value =>
    !asksForNumber value && (Text.Pattern.ofText? value).any (·.fits text)

end FieldCondition

/-- What a directive is for: all modules, or those under a path; and all spans, or those of a name
    and with some fields. -/
structure LogScope where
  path : Option String := none
  span : Option String := none
  fields : List FieldCondition := []
deriving DecidableEq, Repr

namespace LogScope

def isForSpans (scope : LogScope) : Bool := scope.span.isSome || !scope.fields.isEmpty

def hasValues (scope : LogScope) : Bool := scope.fields.any (·.value.isSome)

def isForEvents (scope : LogScope) : Bool := scope.span.isNone && !scope.hasValues

def fieldNames (scope : LogScope) : List String := scope.fields.map (·.name)

def coversModule (scope : LogScope) (module : String) : Bool :=
  scope.path.all fun path => module.startsWith path

def coversEvent (scope : LogScope) (event : LogEvent) : Bool :=
  scope.coversModule event.module && scope.fieldNames.all event.fieldNames.contains

def coversSpan (scope : LogScope) (span : LogSpan) : Bool :=
  scope.coversModule span.module && scope.span.all (· == span.name) &&
    scope.fieldNames.all (span.fields.map (·.1)).contains

def fitsSpan (scope : LogScope) (span : LogSpan) : Bool :=
  scope.fields.all fun condition => (span.fields.lookup condition.name).any condition.holds

def isAtMost (a b : LogScope) : Bool :=
  let rank := fun (scope : LogScope) =>
    (scope.path.map fun path => path.utf8ByteSize + 1).getD 0
  if rank a ≠ rank b then rank a < rank b
  else if a.fields.length ≠ b.fields.length then a.fields.length < b.fields.length
  else !b.fieldNames.lex a.fieldNames fun x y => (compare x y).isLT

end LogScope

structure LogDirective where
  scope : LogScope
  verbosity : Nat
deriving DecidableEq, Repr

abbrev LogFilter := List LogDirective

namespace LogDirective

def levelVerbosity? (name : String) : Option Nat :=
  match Text.readBelow 6 name with
  | .ok verbosity => some verbosity
  | .error _ =>
    match name.toLower with
    | "off" => some 0
    | "error" => some 1
    | "warn" => some 2
    | "info" => some 3
    | "debug" => some 4
    | "trace" => some 5
    | _ => none

def unlimited : Nat := 5

def startsPath (c : Char) : Bool := Text.isAlphanumeric c || c == '-' || c == ':' || c == '_'

def part? (source : String) (start stop : Nat) : Option String :=
  String.fromUTF8? (source.toUTF8.extract start stop)

def width (chars : List Char) : Nat := (String.ofList chars).utf8ByteSize

def level? (source : String) (start : Nat) : Option Nat := do
  let name ← part? source start source.utf8ByteSize
  if name.isEmpty then some unlimited else levelVerbosity? name

def afterSpan? (source : String) (place : Nat) (scope : LogScope) :
    List Char → Option LogDirective
  | [] => some ⟨scope, unlimited⟩
  | '=' :: _ => do return ⟨scope, ← level? source (place + 1)⟩
  | _ => none

def span? (source : String) (place : Nat) (path : Option String) (chars : List Char) :
    Option LogDirective := do
  let name := chars.takeWhile fun c => c != ']' && c != '\x7b'
  let stop := place + width name
  let span ← part? source place stop
  match chars.drop name.length with
  | ']' :: rest => afterSpan? source (stop + 1) { path, span := some span } rest
  | '\x7b' :: rest =>
    let field := rest.takeWhile (· != '\x7d')
    let fieldStop := stop + 1 + width field
    let condition ← FieldCondition.ofText? (← part? source (stop + 1) fieldStop)
    let span := if span.isEmpty then none else some span
    match rest.drop field.length with
    | '\x7d' :: ']' :: rest =>
      afterSpan? source (fieldStop + 2) { path, span, fields := [condition] } rest
    | _ => none
  | _ => none

/-- Reads `level`, `path` or `path=level`, where a span in brackets may follow the path or take its
    place. The marks are looked for in the text less the blanks around it, but its parts are cut
    out of the whole text at the places found. -/
def ofText? (source : String) : Option LogDirective := do
  let chars := (Text.trimBlanks source.toList)
  let path := chars.takeWhile fun c => c != '=' && c != '['
  let place := width path
  match chars.drop path.length with
  | '[' :: rest =>
    if path.isEmpty then span? source 1 none rest
    else if !path.head?.any startsPath then none
    else span? source (place + 1) (some (← part? source 0 place)) rest
  | rest =>
    if !path.head?.any startsPath then none
    match rest with
    | [] =>
      match levelVerbosity? source with
      | some verbosity => some ⟨{}, verbosity⟩
      | none => some ⟨{ path := some source }, unlimited⟩
    | _ :: _ =>
      let verbosity ← level? source (place + 1)
      return ⟨{ path := some (← part? source 0 place) }, verbosity⟩

end LogDirective

namespace LogFilter

def parse? (source : String) : Option LogFilter :=
  ((source.splitOn ",").filter fun part => !part.isEmpty).mapM LogDirective.ofText?

def upTo (level : LogLevel) : LogFilter := [⟨{}, level.verbosity⟩]

def decisive? (filter : LogFilter) : Option LogDirective :=
  filter.foldl (fun best directive =>
    match best with
    | some best => if best.scope.isAtMost directive.scope then some directive else some best
    | none => some directive) none

def decisiveVerbosity (filter : LogFilter) : Nat :=
  (filter.decisive?.map LogDirective.verbosity).getD 0

def eventVerbosity (filter : LogFilter) (event : LogEvent) : Nat :=
  decisiveVerbosity (filter.filter fun directive =>
    directive.scope.isForEvents && directive.scope.coversEvent event)

def forSpan (filter : LogFilter) (span : LogSpan) : List LogDirective :=
  let covering := filter.filter fun directive =>
    directive.scope.isForSpans && directive.scope.coversSpan span
  covering.foldr (fun directive later =>
    if later.any (·.scope == directive.scope) then later else directive :: later) []

def spanVerbosity (filter : LogFilter) (span : LogSpan) : Nat :=
  (((filter.forSpan span).filter (·.scope.fitsSpan span)).map LogDirective.verbosity).foldl max 0

def limit (filter : LogFilter) : Nat :=
  if filter.any (·.scope.hasValues) then LogDirective.unlimited
  else (filter.map LogDirective.verbosity).foldl max 0

/-- Whether a span is kept. Spans have the level info; one that a directive for spans is about is
    kept for it, and any other as an event of its module would pass. -/
def keepsSpan (filter : LogFilter) (span : LogSpan) : Bool :=
  LogLevel.info.verbosity ≤ filter.limit &&
    (!(filter.forSpan span).isEmpty ||
      LogLevel.info.verbosity ≤ decisiveVerbosity (filter.filter fun directive =>
        directive.scope.isForEvents && directive.scope.coversModule span.module))

def pass? (filter : LogFilter) (event : LogEvent) : Option LogEvent :=
  let span := event.span.filter filter.keepsSpan
  let inside := (span.map filter.spanVerbosity).getD 0
  if event.level.verbosity ≤ max inside (filter.eventVerbosity event) then some { event with span }
  else none

end LogFilter

end StatTree
