import TextCursor.Pattern.Escape
/-!
Reading character classes. Brackets nest, and between them the operators `&&`, `--` and `~~` join
what stands left of them with what follows, all with one precedence. Open brackets and pending
operators wait on a stack of frames; each step reads one item, operator or bracket.
-/
namespace TextCursor.Pattern

structure ItemList where
  span : Span
  items : List ClassSet

namespace ItemList

def startAt (r : Reader) : ItemList := ⟨r.spanHere, []⟩

def push (l : ItemList) (item : ClassSet) : ItemList :=
  let start := if l.items.isEmpty then item.span.start else l.span.start
  ⟨⟨start, item.span.stop⟩, l.items ++ [item]⟩

def toSet (l : ItemList) : ClassSet :=
  match l.items with
  | [] => .empty l.span
  | [item] => item
  | items => .union l.span items

end ItemList

inductive ClassFrame where
  | opened (outer : ItemList) (span : Span) (negated : Bool)
  | op (kind : ClassOp) (lhs : ClassSet)

structure ClassState where
  frames : List ClassFrame
  items : ItemList
  reader : Reader

def classUnclosed {α : Type} (frames : List ClassFrame) (r : Reader) : Except Fault α :=
  let opened? : ClassFrame → Option Span
    | .opened _ span _ => some span
    | .op _ _ => none
  fault ((frames.findSome? opened?).getD r.spanHere) .classUnclosed

def asciiClass? (name : Text) : Option AsciiClass :=
  match String.ofList name with
  | "alnum" => some .alnum
  | "alpha" => some .alpha
  | "ascii" => some .ascii
  | "blank" => some .blank
  | "cntrl" => some .cntrl
  | "digit" => some .digit
  | "graph" => some .graph
  | "lower" => some .lower
  | "print" => some .print
  | "punct" => some .punct
  | "space" => some .space
  | "upper" => some .upper
  | "word" => some .word
  | "xdigit" => some .xdigit
  | _ => none

def asciiItem? (r : Reader) : Option (ClassSet × Reader) := do
  let start := r.place
  let r ← r.expect? ['[', ':']
  let (negated, r) := if r.peek? = some '^' then (true, r.bump) else (false, r)
  let (name, r) := r.collectPlain (· != ':')
  let r ← r.expect? [':', ']']
  let kind ← asciiClass? name
  some (.ascii (r.spanFrom start) negated kind, r)

/-- Reads the minus signs that may open a class. A class that ends there is unclosed. -/
def readOpeningMinus (verbose : Bool) (start : Location) :
    Nat → ItemList → Reader → Except Fault (ItemList × Reader)
  | 0, items, r => .ok (items, r)
  | fuel + 1, items, r =>
    if r.peek? = some '-' then
      let items := items.push (.literal ⟨r.spanChar, '-', false⟩)
      let r := r.bumpSkip verbose
      if r.atEnd then fault (.point start) .classUnclosed
      else readOpeningMinus verbose start fuel items r
    else .ok (items, r)

/-- Reads an opening bracket with what belongs to it: a caret, minus signs and a closing bracket
that stands for itself. -/
def openBracket (verbose : Bool) (s : ClassState) : Except Fault ClassState := do
  let start := s.reader.place
  let ensure (r : Reader) : Except Fault Unit :=
    if r.atEnd then fault (r.spanFrom start) .classUnclosed else .ok ()
  let r := s.reader.bumpSkip verbose
  ensure r
  let negated := r.peek? = some '^'
  let r := if negated then r.bumpSkip verbose else r
  ensure r
  let (items, r) ← readOpeningMinus verbose start r.rest.length (.startAt r) r
  if items.items.isEmpty ∧ r.peek? = some ']' then
    let items := items.push (.literal ⟨r.spanChar, ']', false⟩)
    let r := r.bumpSkip verbose
    ensure r
    .ok ⟨.opened s.items (r.spanFrom start) negated :: s.frames, items, r⟩
  else .ok ⟨.opened s.items (r.spanFrom start) negated :: s.frames, items, r⟩

/-- The set that the operator on top of the frames makes with `rhs`; without one, `rhs` itself. -/
def applyOp (frames : List ClassFrame) (rhs : ClassSet) : ClassSet × List ClassFrame :=
  match frames with
  | .op kind lhs :: frames => (.op ⟨lhs.span.start, rhs.span.stop⟩ kind lhs rhs, frames)
  | frames => (rhs, frames)

def pushOp (kind : ClassOp) (s : ClassState) : ClassState :=
  let (lhs, frames) := applyOp s.frames s.items.toSet
  let r := Reader.bumpBy 2 s.reader
  ⟨.op kind lhs :: frames, .startAt r, r⟩

def closeBracket (s : ClassState) : Except Fault (ClassState ⊕ (Ast × Reader)) :=
  let (set, frames) := applyOp s.frames s.items.toSet
  let r := s.reader.bump
  match frames with
  | .opened outer span negated :: frames =>
    let span := r.spanFrom span.start
    if frames.isEmpty then .ok (.inr (.bracketed span negated set, r))
    else .ok (.inl ⟨frames, outer.push (.bracketed span negated set), r⟩)
  | _ => classUnclosed s.frames s.reader

def Element.toItem : Element → Except Fault ClassSet
  | .literal l => .ok (.literal l)
  | .property p => .ok (.property p)
  | .shorthand p => .ok (.shorthand p)
  | .dot span => fault span .classEscapeInvalid
  | .assertion span _ => fault span .classEscapeInvalid

def Element.toBound : Element → Except Fault Literal
  | .literal l => .ok l
  | e => fault e.span .classRangeLiteral

def readItem (verbose : Bool) (frames : List ClassFrame) (r : Reader) :
    Except Fault (ClassSet × Reader) := do
  let (first, r) ← readClassElement verbose r
  let r := r.skipBlanks verbose
  if r.atEnd then classUnclosed frames r
  else
    let behind := r.peekPast? verbose
    if r.peek? ≠ some '-' ∨ behind = some ']' ∨ behind = some '-' then
      let item ← first.toItem
      .ok (item, r)
    else
      let r := r.bumpSkip verbose
      if r.atEnd then classUnclosed frames r
      else
        let (last, r) ← readClassElement verbose r
        let span : Span := ⟨first.span.start, last.span.stop⟩
        let lo ← first.toBound
        let hi ← last.toBound
        if lo.char ≤ hi.char then .ok (.range span lo hi, r)
        else fault span .classRangeInvalid

def classOp? (r : Reader) : Option ClassOp :=
  match r.rest with
  | '&' :: '&' :: _ => some .intersection
  | '-' :: '-' :: _ => some .difference
  | '~' :: '~' :: _ => some .symmetricDifference
  | _ => none

def classStep (verbose : Bool) (s : ClassState) :
    Except Fault (ClassState ⊕ (Ast × Reader)) := do
  let s := { s with reader := s.reader.skipBlanks verbose }
  match s.reader.peek? with
  | none => classUnclosed s.frames s.reader
  | some '[' =>
    match if s.frames.isEmpty then none else asciiItem? s.reader with
    | some (item, r) => .ok (.inl { s with items := s.items.push item, reader := r })
    | none => (openBracket verbose s).map .inl
  | some ']' => closeBracket s
  | some _ =>
    match classOp? s.reader with
    | some kind => .ok (.inl (pushOp kind s))
    | none =>
      let (item, r) ← readItem verbose s.frames s.reader
      .ok (.inl { s with items := s.items.push item, reader := r })

def readClassFuel (verbose : Bool) : Nat → ClassState → Except Fault (Ast × Reader)
  | 0, s => classUnclosed s.frames s.reader
  | fuel + 1, s => do
    match ← classStep verbose s with
    | .inr done => .ok done
    | .inl s => readClassFuel verbose fuel s

/-- Reads a class; the reader is at its opening bracket. Each step takes a codepoint at least. -/
def readClass (verbose : Bool) (r : Reader) : Except Fault (Ast × Reader) :=
  readClassFuel verbose (r.rest.length + 1) ⟨[], .startAt r, r⟩

end TextCursor.Pattern
