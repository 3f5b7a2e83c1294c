import TextCursor.Pattern.Bracketed
/-!
Reading a whole pattern. What has been read so far is kept as a run of parts, and groups and
alternations that are still open wait on a stack of frames, so that each step handles one construct:
a group's opening or closing parenthesis, a bar, a class, a repetition operator or an element.
`Ast.parse` takes steps to the end of the text and then checks how deep the pattern nests.
-/
namespace TextCursor.Pattern

structure Parts where
  start : Location
  items : List Ast

namespace Parts

def push (p : Parts) (a : Ast) : Parts := { p with items := p.items ++ [a] }

def toAst (p : Parts) (stop : Location) : Ast :=
  match p.items with
  | [] => .empty ⟨p.start, stop⟩
  | [a] => a
  | items => .concat ⟨p.start, stop⟩ items

def splitLast? (p : Parts) : Option (Parts × Ast) :=
  match p.items.getLast? with
  | some a => some ({ p with items := p.items.dropLast }, a)
  | none => none

end Parts

inductive Frame where
  /-- An open group, with the parts before it and the verbosity outside it. -/
  | group (outer : Parts) (opening : Span) (kind : GroupKind) (verbose : Bool)
  | alternation (start : Location) (branches : List Ast)

structure State where
  verbose : Bool
  reader : Reader
  frames : List Frame
  parts : Parts
  captures : Nat
  names : List (Text × Span)

def isNameChar (first : Bool) (c : Char) : Bool :=
  if first then c == '_' || Unicode.alphabetic.contains c
  else c == '_' || c == '.' || c == '[' || c == ']' || Unicode.alphanumeric.contains c

def readNameChars : Nat → Bool → Reader → Except Fault (Text × Reader)
  | 0, _, r => .ok ([], r)
  | fuel + 1, first, r =>
    match r.peek? with
    | none => .ok ([], r)
    | some '>' => .ok ([], r)
    | some c =>
      if isNameChar first c then do
        let (name, r) ← readNameChars fuel false r.bump
        .ok (c :: name, r)
      else fault r.spanChar .groupNameInvalid

def readGroupName (names : List (Text × Span)) (r : Reader) :
    Except Fault ((Text × Span) × Reader) := do
  let start := r.place
  let (name, r) ← readNameChars r.rest.length true r
  if r.atEnd then fault r.spanHere .groupNameUnexpectedEnd
  else
    let span := r.spanFrom start
    if name.isEmpty then fault (.point start) .groupNameEmpty
    else
      match names.find? fun p => p.1 == name with
      | some (_, earlier) => fault span (.groupNameDuplicate earlier)
      | none => .ok ((name, span), r.bump)

def flag? : Char → Option Flag
  | 'i' => some .caseInsensitive
  | 'm' => some .multiLine
  | 's' => some .dotMatchesNewLine
  | 'U' => some .swapGreed
  | 'u' => some .unicode
  | 'R' => some .crlf
  | 'x' => some .ignoreWhitespace
  | _ => none

structure FlagsRead where
  items : List (FlagItem × Span)
  minus : Option Span
  lastIsMinus : Bool

def readFlagItems : Nat → FlagsRead → Reader → Except Fault (FlagsRead × Reader)
  | 0, f, r => .ok (f, r)
  | fuel + 1, f, r =>
    match r.peek? with
    | some ':' => .ok (f, r)
    | some ')' => .ok (f, r)
    | none => fault r.spanHere .flagUnexpectedEnd
    | some '-' =>
      match f.minus with
      | some earlier => fault r.spanChar (.flagRepeatedNegation earlier)
      | none => readFlagItems fuel ⟨f.items, some r.spanChar, true⟩ r.bump
    | some c =>
      match flag? c with
      | none => fault r.spanChar .flagUnrecognized
      | some flag =>
        match f.items.find? fun p => p.1.flag = flag with
        | some (_, earlier) => fault r.spanChar (.flagDuplicate earlier)
        | none =>
          readFlagItems fuel
            ⟨f.items ++ [(⟨flag, f.minus.isNone⟩, r.spanChar)], f.minus, false⟩ r.bump

/-- Reads flags up to a colon or a closing parenthesis; a minus sign needs a flag behind it. Tells
whether nothing at all was given. -/
def readFlags (r : Reader) : Except Fault ((List FlagItem × Bool) × Reader) := do
  let (f, r) ← readFlagItems (r.rest.length + 1) ⟨[], none, false⟩ r
  match f.minus, f.lastIsMinus with
  | some span, true => fault span .flagDanglingNegation
  | _, _ => .ok ((f.items.map (·.1), f.items.isEmpty), r)

def openCapture (s : State) (opening : Span) (name : Option (Text × Span)) (r : Reader) : State :=
  { s with
    reader := r
    frames := .group s.parts opening (.capture (s.captures + 1) (name.map (·.1))) s.verbose
      :: s.frames
    parts := ⟨r.place, []⟩
    captures := s.captures + 1
    names := s.names ++ name.toList }

/-- Handles what follows `(?`: flags for the rest of the group around, or a group with flags. -/
def openFlags (s : State) (opening : Span) (inner : Location) (r : Reader) :
    Except Fault State := do
  if r.atEnd then fault opening .groupUnclosed
  else
    let ((items, none?), r) ← readFlags r
    let verbose := (flagState items .ignoreWhitespace).getD s.verbose
    let closes := r.peek? = some ')'
    let r := r.bump
    if closes then
      if none? then fault (.point inner) .repetitionMissing
      else
        .ok { s with
          verbose := verbose
          reader := r
          parts := s.parts.push (.flags (r.spanFrom opening.start) items) }
    else
      .ok { s with
        verbose := verbose
        reader := r
        frames := .group s.parts opening (.plain items) s.verbose :: s.frames
        parts := ⟨r.place, []⟩ }

def openGroup (s : State) : Except Fault State := do
  let opening := s.reader.spanChar
  let r := s.reader.bumpSkip s.verbose
  let lookAround := r.expect? ['?', '='] <|> r.expect? ['?', '!'] <|>
    r.expect? ['?', '<', '='] <|> r.expect? ['?', '<', '!']
  match lookAround with
  | some r => fault (r.spanFrom opening.start) .unsupportedLookAround
  | none =>
    match r.expect? ['?', 'P', '<'] <|> r.expect? ['?', '<'], r.expect? ['?'] with
    | some r, _ =>
      let (name, r) ← readGroupName s.names r
      .ok (openCapture s opening (some name) r)
    | none, some inside => openFlags s opening r.place inside
    | none, none => .ok (openCapture s opening none r)

def closeBranches (frames : List Frame) (parts : Parts) (stop : Location) : Ast × List Frame :=
  match frames with
  | .alternation start branches :: frames =>
    (.alternation ⟨start, stop⟩ (branches ++ [parts.toAst stop]), frames)
  | frames => (parts.toAst stop, frames)

def closeGroup (s : State) : Except Fault State :=
  let (sub, frames) := closeBranches s.frames s.parts s.reader.place
  match frames with
  | .group outer opening kind verbose :: frames =>
    let r := s.reader.bump
    .ok { s with
      verbose := verbose
      reader := r
      frames := frames
      parts := outer.push (.group (r.spanFrom opening.start) kind sub) }
  | _ => fault s.reader.spanChar .groupUnopened

def pushBranch (s : State) : State :=
  let branch := s.parts.toAst s.reader.place
  let r := s.reader.bump
  let frames :=
    match s.frames with
    | .alternation start branches :: frames => .alternation start (branches ++ [branch]) :: frames
    | frames => .alternation s.parts.start [branch] :: frames
  { s with reader := r, frames := frames, parts := ⟨r.place, []⟩ }

def repeatable? (parts : Parts) : Option (Parts × Ast) :=
  match parts.splitLast? with
  | some (_, .empty _) => none
  | some (_, .flags _ _) => none
  | last => last

def repeatPlain (s : State) (count : Count) : Except Fault State :=
  match repeatable? s.parts with
  | none => fault s.reader.spanHere .repetitionMissing
  | some (before, sub) =>
    let r := s.reader.bump
    let lazy := r.peek? == some '?'
    let r := if lazy then r.bump else r
    .ok { s with
      reader := r
      parts := before.push (.repetition (r.spanFrom sub.span.start) count (!lazy) sub) }

def maxRepetition : Nat := 0xFFFFFFFF

def skipSpace : Text → Location → Reader
  | [], l => ⟨[], l⟩
  | c :: rest, l => if Unicode.isBlank c then skipSpace rest (l.next c) else ⟨c :: rest, l⟩

/-- Reads a number with white space around it. What is wrong with it is only told if it is used. -/
def readDecimal (verbose : Bool) (r : Reader) : Except Fault Nat × Reader :=
  let r := skipSpace r.rest r.place
  let start := r.place
  let (digits, r) := r.collect verbose Char.isDigit
  let span := r.spanFrom start
  let n := digits.foldl (fun n c => n * 10 + (c.toNat - 48)) 0
  let value :=
    if digits.isEmpty then fault span .repetitionCountDecimalEmpty
    else if n ≤ maxRepetition then .ok n
    else fault span .decimalInvalid
  (value, skipSpace r.rest r.place)

def readCount (verbose : Bool) (start : Location) (r : Reader) :
    Except Fault (Count × Reader) := do
  let ensure (r : Reader) : Except Fault Unit :=
    if r.atEnd then fault (r.spanFrom start) .repetitionCountUnclosed else .ok ()
  let r := r.bumpSkip verbose
  ensure r
  let (least, r) := readDecimal verbose r
  ensure r
  if r.peek? = some ',' then
    let r := r.bumpSkip verbose
    ensure r
    let least ← least
    if r.peek? = some '\x7d' then .ok (⟨least, none⟩, r)
    else
      let (most, r) := readDecimal verbose r
      let most ← most
      .ok (⟨least, some most⟩, r)
  else
    let least ← least
    .ok (⟨least, some least⟩, r)

def repeatCounted (s : State) : Except Fault State := do
  let start := s.reader.place
  match repeatable? s.parts with
  | none => fault s.reader.spanHere .repetitionMissing
  | some (before, sub) =>
    let (count, r) ← readCount s.verbose start s.reader
    if r.peek? ≠ some '\x7d' then fault (r.spanFrom start) .repetitionCountUnclosed
    else
      let r := r.bumpSkip s.verbose
      let lazy := r.peek? == some '?'
      let r := if lazy then r.bump else r
      if count.most.any (· < count.least) then
        fault (r.spanFrom start) .repetitionCountInvalid
      else
        .ok { s with
          reader := r
          parts := before.push (.repetition (r.spanFrom sub.span.start) count (!lazy) sub) }

def step (s : State) : Except Fault State :=
  match s.reader.peek? with
  | some '(' => openGroup s
  | some ')' => closeGroup s
  | some '|' => .ok (pushBranch s)
  | some '[' => do
    let (a, r) ← readClass s.verbose s.reader
    .ok { s with reader := r, parts := s.parts.push a }
  | some '?' => repeatPlain s ⟨0, some 1⟩
  | some '*' => repeatPlain s ⟨0, none⟩
  | some '+' => repeatPlain s ⟨1, none⟩
  | some '\x7b' => repeatCounted s
  | _ => do
    let (e, r) ← readElement s.verbose s.reader
    .ok { s with reader := r, parts := s.parts.push e.toAst }

def finish (s : State) : Except Fault Ast :=
  let (a, frames) := closeBranches s.frames s.parts s.reader.place
  match frames with
  | [] => .ok a
  | .group _ opening _ _ :: _ => fault opening .groupUnclosed
  | .alternation start _ :: _ => fault (.point start) .groupUnclosed

def runFuel : Nat → State → Except Fault Ast
  | 0, s => finish s
  | fuel + 1, s =>
    let s := { s with reader := s.reader.skipBlanks s.verbose }
    if s.reader.atEnd then finish s
    else do
      let s ← step s
      runFuel fuel s

/-- The pattern that a text is, its depth unchecked. Each step takes a codepoint at least. -/
def readPattern (verbose : Bool) (text : Text) : Except Fault Ast :=
  runFuel (text.length + 1) ⟨verbose, .ofText text, [], ⟨.start, []⟩, 0, []⟩

end TextCursor.Pattern
