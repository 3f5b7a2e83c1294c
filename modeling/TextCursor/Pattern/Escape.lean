import TextCursor.Pattern.Reader
/-!
Reading single elements: a codepoint that stands for itself, or an escape. `readElement` reads what
may stand outside brackets, `readClassElement` what may stand inside.
-/
namespace TextCursor.Pattern

def isMeta (c : Char) : Bool :=
  ['\\', '.', '+', '*', '?', '(', ')', '|', '[', ']', '\x7b', '\x7d', '^', '$', '#', '&', '-',
    '~'].contains c

/-- Whether an escaped `c` stands for itself: any ASCII codepoint but letters, digits and angles. -/
def isEscapable (c : Char) : Bool :=
  c.toNat < 128 && !c.isAlphanum && c != '<' && c != '>'

def hexDigit? (c : Char) : Option Nat :=
  if '0' ≤ c ∧ c ≤ '9' then some (c.toNat - 48)
  else if 'a' ≤ c ∧ c ≤ 'f' then some (c.toNat - 87)
  else if 'A' ≤ c ∧ c ≤ 'F' then some (c.toNat - 55)
  else none

def isHexDigit (c : Char) : Bool := (hexDigit? c).isSome

def hexChar? (digits : Text) : Option Char :=
  let n := digits.foldl (fun n c => n * 16 + (hexDigit? c).getD 0) 0
  if n.isValidChar then some (Char.ofNat n) else none

inductive Element where
  | literal (l : Literal)
  | dot (span : Span)
  | assertion (span : Span) (kind : Assertion)
  | property (p : PropertyItem)
  | shorthand (p : ShorthandItem)

def Element.span : Element → Span
  | literal l => l.span
  | dot s => s
  | assertion s _ => s
  | property p => p.span
  | shorthand p => p.span

def Element.toAst : Element → Ast
  | literal l => .literal l
  | dot s => .dot s
  | assertion s k => .assertion s k
  | property p => .property p
  | shorthand p => .shorthand p

def readHexBraced (verbose : Bool) (start : Location) (r : Reader) :
    Except Fault (Literal × Reader) := do
  let brace := r.place
  let first := r.bump.place
  let (digits, r) := (r.bumpSkip verbose).collect verbose isHexDigit
  match r.peek? with
  | none => fault (r.spanFrom brace) .escapeUnexpectedEnd
  | some '\x7d' =>
    let last := r.place
    let r := r.bumpSkip verbose
    if digits.isEmpty then fault (r.spanFrom brace) .escapeHexEmpty
    else
      match hexChar? digits with
      | some c => .ok (⟨r.spanFrom start, c, false⟩, r)
      | none => fault ⟨first, last⟩ .escapeHexInvalid
  | some _ => fault r.spanChar .escapeHexInvalidDigit

def readHexDigits (verbose : Bool) : Nat → Reader → Except Fault (Text × Reader)
  | 0, r => .ok ([], r)
  | n + 1, r =>
    match r.peek? with
    | none => fault r.spanHere .escapeUnexpectedEnd
    | some c =>
      if isHexDigit c then do
        let (digits, r) ← readHexDigits verbose n (r.bumpSkip verbose)
        .ok (c :: digits, r)
      else fault r.spanChar .escapeHexInvalidDigit

def readHex (verbose : Bool) (start : Location) (r : Reader) :
    Except Fault (Literal × Reader) := do
  let letter := r.peek?
  let width := if letter = some 'x' then 2 else if letter = some 'u' then 4 else 8
  let r := r.bumpSkip verbose
  match r.peek? with
  | none => fault r.spanHere .escapeUnexpectedEnd
  | some '\x7b' => readHexBraced verbose start r
  | some _ =>
    let first := r.place
    let (digits, r) ← readHexDigits verbose width r
    match hexChar? digits with
    | some c => .ok (⟨r.spanFrom start, c, letter = some 'x'⟩, r)
    | none => fault (r.spanFrom first) .escapeHexInvalid

def splitAtFirst (sign : Text) : Text → Option (Text × Text)
  | [] => none
  | c :: rest =>
    if sign.isPrefixOf (c :: rest) then some ([], (c :: rest).drop sign.length)
    else (splitAtFirst sign rest).map fun p => (c :: p.1, p.2)

/-- The property that stands between braces, and whether it is excluded, as `\p{gc!=Lu}` excludes the
uppercase letters. -/
def propertyQuery (name : Text) : Bool × Unicode.PropertyQuery :=
  match splitAtFirst ['!', '='] name with
  | some (p, v) => (true, .valued p v)
  | none =>
    match splitAtFirst [':'] name <|> splitAtFirst ['='] name with
    | some (p, v) => (false, .valued p v)
    | none => (false, .named name)

def readProperty (verbose : Bool) (start : Location) (r : Reader) :
    Except Fault (PropertyItem × Reader) :=
  let negated := r.peek? == some 'P'
  let r := r.bumpSkip verbose
  match r.peek? with
  | none => fault r.spanHere .escapeUnexpectedEnd
  | some '\x7b' =>
    let (name, r) := (r.bumpSkip verbose).collect verbose (· != '\x7d')
    if r.atEnd then fault r.spanHere .escapeUnexpectedEnd
    else
      let r := r.bump
      let (excluded, query) := propertyQuery name
      -- `!=` asks for the complement just as `\P` does, so the two together cancel out
      .ok (⟨r.spanFrom start, negated != excluded, query⟩, r)
  | some '\\' => fault r.spanChar .unicodeClassInvalid
  | some c =>
    let r := r.bumpSkip verbose
    .ok (⟨r.spanFrom start, negated, .named [c]⟩, r)

/-- Reads the name of a special word boundary, if there is one; the reader is at the opening brace
behind `\b`, which starts at `start`. A brace without a name belongs to a counted repetition. -/
def readBoundaryName (verbose : Bool) (start : Location) (r : Reader) :
    Except Fault (Option Assertion × Reader) :=
  let brace := r
  let nameChar (c : Char) : Bool := c.isAlpha || c == '-'
  let r := r.bumpSkip verbose
  match r.peek? with
  | none => fault (r.spanFrom start) .wordBoundaryUnexpectedEnd
  | some c =>
    if !nameChar c then .ok (none, brace)
    else
      let first := r.place
      let (name, r) := r.collect verbose nameChar
      if r.peek? != some '\x7d' then fault (r.spanFrom brace.place) .wordBoundaryUnclosed
      else
        let last := r.place
        let r := r.bump
        match String.ofList name with
        | "start" => .ok (some .wordStart, r)
        | "end" => .ok (some .wordEnd, r)
        | "start-half" => .ok (some .wordStartHalf, r)
        | "end-half" => .ok (some .wordEndHalf, r)
        | _ => fault ⟨first, last⟩ .wordBoundaryUnrecognized

inductive LetterEscape where
  | char (c : Char)
  | assertion (kind : Assertion)

def letterEscape? : Char → Option LetterEscape
  | 'a' => some (.char '\x07')
  | 'f' => some (.char '\x0c')
  | 't' => some (.char '\t')
  | 'n' => some (.char '\n')
  | 'r' => some (.char '\r')
  | 'v' => some (.char '\x0b')
  | 'A' => some (.assertion .startText)
  | 'z' => some (.assertion .endText)
  | 'b' => some (.assertion .wordBoundary)
  | 'B' => some (.assertion .notWordBoundary)
  | '<' => some (.assertion .wordStart)
  | '>' => some (.assertion .wordEnd)
  | _ => none

def shorthand? : Char → Option (Bool × Shorthand)
  | 'd' => some (false, .digit)
  | 's' => some (false, .space)
  | 'w' => some (false, .word)
  | 'D' => some (true, .digit)
  | 'S' => some (true, .space)
  | 'W' => some (true, .word)
  | _ => none

def readWordBoundary (verbose : Bool) (start : Location) (r : Reader) :
    Except Fault (Element × Reader) := do
  let plain := r.spanFrom start
  if r.peek? = some '\x7b' then
    let (special, r) ← readBoundaryName verbose start r
    match special with
    | some kind => .ok (.assertion (r.spanFrom start) kind, r)
    | none => .ok (.assertion plain .wordBoundary, r)
  else .ok (.assertion plain .wordBoundary, r)

def readEscape (verbose : Bool) (r : Reader) : Except Fault (Element × Reader) := do
  let start := r.place
  let r := r.bump
  match r.peek? with
  | none => fault (r.spanFrom start) .escapeUnexpectedEnd
  | some c =>
    if c.isDigit then fault (r.bump.spanFrom start) .unsupportedBackreference
    else if c = 'x' ∨ c = 'u' ∨ c = 'U' then do
      let (l, r) ← readHex verbose start r
      .ok (.literal l, r)
    else if c = 'p' ∨ c = 'P' then do
      let (p, r) ← readProperty verbose start r
      .ok (.property p, r)
    else
      let r := r.bump
      let span := r.spanFrom start
      match shorthand? c, letterEscape? c with
      | some (negated, kind), _ => .ok (.shorthand ⟨span, negated, kind⟩, r)
      | none, some (.char c) => .ok (.literal ⟨span, c, false⟩, r)
      | none, some (.assertion .wordBoundary) => readWordBoundary verbose start r
      | none, some (.assertion kind) => .ok (.assertion span kind, r)
      | none, none =>
        if isEscapable c then .ok (.literal ⟨span, c, false⟩, r)
        else fault span .escapeUnrecognized

def readElement (verbose : Bool) (r : Reader) : Except Fault (Element × Reader) :=
  let span := r.spanChar
  match r.peek? with
  | some '\\' => readEscape verbose r
  | some '.' => .ok (.dot span, r.bump)
  | some '^' => .ok (.assertion span .startLine, r.bump)
  | some '$' => .ok (.assertion span .endLine, r.bump)
  | some c => .ok (.literal ⟨span, c, false⟩, r.bump)
  | none => fault span .escapeUnexpectedEnd

def readClassElement (verbose : Bool) (r : Reader) : Except Fault (Element × Reader) :=
  match r.peek? with
  | some '\\' => readEscape verbose r
  | some c => .ok (.literal ⟨r.spanChar, c, false⟩, r.bump)
  | none => fault r.spanHere .escapeUnexpectedEnd

end TextCursor.Pattern
