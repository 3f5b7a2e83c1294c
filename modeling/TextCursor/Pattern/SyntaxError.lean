import TextCursor.Pattern.Location
/-!
Why a text is no pattern, and the message that says so. The message shows the pattern and marks the
span at fault, and a second span where the fault is a repetition of something earlier. In a pattern
of several lines the lines are numbered, and a span over several lines is told in words.
-/
namespace TextCursor.Pattern

def nestLimit : Nat := 250

inductive SyntaxErrorKind where
  | classUnclosed
  | classEscapeInvalid
  | classRangeInvalid
  | classRangeLiteral
  | decimalInvalid
  | escapeHexEmpty
  | escapeHexInvalid
  | escapeHexInvalidDigit
  | escapeUnexpectedEnd
  | escapeUnrecognized
  | flagDanglingNegation
  | flagDuplicate (earlier : Span)
  | flagRepeatedNegation (earlier : Span)
  | flagUnexpectedEnd
  | flagUnrecognized
  | groupNameDuplicate (earlier : Span)
  | groupNameEmpty
  | groupNameInvalid
  | groupNameUnexpectedEnd
  | groupUnclosed
  | groupUnopened
  | nestLimitExceeded
  | repetitionCountInvalid
  | repetitionCountDecimalEmpty
  | repetitionCountUnclosed
  | repetitionMissing
  | wordBoundaryUnclosed
  | wordBoundaryUnrecognized
  | wordBoundaryUnexpectedEnd
  | unicodeClassInvalid
  | unsupportedBackreference
  | unsupportedLookAround
  | unicodeNotAllowed
  | invalidUtf8
  | unicodePropertyNotFound
  | unicodePropertyValueNotFound
  deriving DecidableEq, Repr

namespace SyntaxErrorKind

def earlier? : SyntaxErrorKind → Option Span
  | flagDuplicate s => some s
  | flagRepeatedNegation s => some s
  | groupNameDuplicate s => some s
  | _ => none

def reason : SyntaxErrorKind → String
  | classUnclosed => "unclosed character class"
  | classEscapeInvalid => "invalid escape sequence found in character class"
  | classRangeInvalid => "invalid character class range, the start must be <= the end"
  | classRangeLiteral => "invalid range boundary, must be a literal"
  | decimalInvalid => "decimal literal invalid"
  | escapeHexEmpty => "hexadecimal literal empty"
  | escapeHexInvalid => "hexadecimal literal is not a Unicode scalar value"
  | escapeHexInvalidDigit => "invalid hexadecimal digit"
  | escapeUnexpectedEnd => "incomplete escape sequence, reached end of pattern prematurely"
  | escapeUnrecognized => "unrecognized escape sequence"
  | flagDanglingNegation => "dangling flag negation operator"
  | flagDuplicate _ => "duplicate flag"
  | flagRepeatedNegation _ => "flag negation operator repeated"
  | flagUnexpectedEnd => "expected flag but got end of regex"
  | flagUnrecognized => "unrecognized flag"
  | groupNameDuplicate _ => "duplicate capture group name"
  | groupNameEmpty => "empty capture group name"
  | groupNameInvalid => "invalid capture group character"
  | groupNameUnexpectedEnd => "unclosed capture group name"
  | groupUnclosed => "unclosed group"
  | groupUnopened => "unopened group"
  | nestLimitExceeded =>
    "exceed the maximum number of nested parentheses/brackets (" ++ toString nestLimit ++ ")"
  | repetitionCountInvalid =>
    "invalid repetition count range, the start must be <= the end"
  | repetitionCountDecimalEmpty => "repetition quantifier expects a valid decimal"
  | repetitionCountUnclosed => "unclosed counted repetition"
  | repetitionMissing => "repetition operator missing expression"
  | wordBoundaryUnclosed =>
    "special word boundary assertion is either unclosed or contains an invalid character"
  | wordBoundaryUnrecognized =>
    "unrecognized special word boundary assertion, valid choices are: " ++
      "start, end, start-half or end-half"
  | wordBoundaryUnexpectedEnd =>
    "found either the beginning of a special word boundary or a bounded repetition on a \\b " ++
      "with an opening brace, but no closing brace"
  | unicodeClassInvalid => "invalid Unicode character class"
  | unsupportedBackreference => "backreferences are not supported"
  | unsupportedLookAround =>
    "look-around, including look-ahead and look-behind, is not supported"
  | unicodeNotAllowed => "Unicode not allowed here"
  | invalidUtf8 => "pattern can match invalid UTF-8"
  | unicodePropertyNotFound => "Unicode property not found"
  | unicodePropertyValueNotFound => "Unicode property value not found"

end SyntaxErrorKind

structure Fault where
  span : Span
  kind : SyntaxErrorKind
  deriving DecidableEq, Repr

structure SyntaxError where
  pattern : Text
  fault : Fault
  deriving DecidableEq, Repr

namespace SyntaxError

/-- The lines of a text. A line feed ends a line, and takes a carriage return before it along. -/
def lines : Text → List Text
  | [] => []
  | '\r' :: '\n' :: rest => [] :: lines rest
  | '\n' :: rest => [] :: lines rest
  | c :: rest =>
    match lines rest with
    | [] => [[c]]
    | line :: more => (c :: line) :: more

/-- How many lines a message can point at: a line feed at the very end opens one more. -/
def lineCount (pattern : Text) : Nat :=
  (lines pattern).length + if pattern.getLast? = some '\n' then 1 else 0

def numberWidth (pattern : Text) : Nat :=
  if lineCount pattern ≤ 1 then 0 else (Nat.repr (lineCount pattern)).length

def spans (e : SyntaxError) : List Span :=
  match e.fault.kind.earlier? with
  | none => [e.fault.span]
  | some s => if e.fault.span.le s then [e.fault.span, s] else [s, e.fault.span]

def carets : Nat → List Span → Text
  | _, [] => []
  | column, s :: rest =>
    let gap := s.start.column - column
    let width := max 1 (s.stop.column - s.start.column)
    List.replicate gap ' ' ++ List.replicate width '^' ++ carets (column + gap + width) rest

def margin (width number : Nat) : Text :=
  if width = 0 then List.replicate 4 ' '
  else
    let digits := (Nat.repr number).toList
    List.replicate (width - digits.length) ' ' ++ digits ++ [':', ' ']

def notate (width : Nat) (marked : List Span) : Nat → List Text → Text
  | _, [] => []
  | number, line :: rest =>
    let here := marked.filter fun s => s.start.line == number
    let below :=
      if here.isEmpty then []
      else List.replicate (if width = 0 then 4 else width + 2) ' ' ++ carets 1 here ++ ['\n']
    margin width number ++ line ++ ['\n'] ++ below ++ notate width marked (number + 1) rest

def describe (s : Span) : Text :=
  ("on line " ++ toString s.start.line ++ " (column " ++ toString s.start.column ++
    ") through line " ++ toString s.stop.line ++ " (column " ++ toString (s.stop.column - 1) ++
    ")").toList

def message (e : SyntaxError) : Text :=
  let (short, long) := e.spans.partition Span.isOneLine
  let notated := notate (numberWidth e.pattern) short 1 (lines e.pattern)
  let divider := List.replicate 79 '~' ++ ['\n']
  let body :=
    if e.pattern.contains '\n' then
      divider ++ notated ++ divider ++ long.flatMap fun s => describe s ++ ['\n']
    else notated
  "regex parse error:\n".toList ++ body ++ "error: ".toList ++ e.fault.kind.reason.toList

end SyntaxError

end TextCursor.Pattern
