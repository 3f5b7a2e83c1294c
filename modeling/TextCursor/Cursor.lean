import TextCursor.Checkpoint
import TextCursor.Count
import TextCursor.Error
import TextCursor.Event
import TextCursor.Match
/-!
A cursor walks over a text from its start to its end. Peeking and matching only stage a length;
`accept` commits it and moves on. Each commit leaves a checkpoint at the position before it, so that
`cancel` goes back there, unless a checkpoint was locked by `saveWith`: then it is that one that
`cancel` goes back to. Every operation gives its result, the cursor after it and the events that it
emitted.
-/
namespace TextCursor

structure CacheKey where
  source : Text
  modifiers : Modifiers
  deriving DecidableEq, Repr

abbrev Cache := List (CacheKey × Pattern)

namespace Cache

def get? (cache : Cache) (key : CacheKey) : Option Pattern :=
  (cache.find? fun entry => entry.1 = key).map (·.2)

def insert (cache : Cache) (key : CacheKey) (p : Pattern) : Cache := (key, p) :: cache

end Cache

structure Cursor where
  text : Text
  totalChars : Nat
  position : Position
  /-- The length that was staged and not committed. -/
  pending : Nat
  checkpoint : Checkpoint
  options : CursorOptions
  cache : Cache

/-- What an operation leaves: its result, the cursor and the events in the order they occurred. -/
structure Effect (α : Type) where
  result : α
  cursor : Cursor
  events : List Event

namespace Cursor

def ofText (text : Text) (options : CursorOptions) : Cursor where
  text := text
  totalChars := text.length
  position := .start
  pending := 0
  checkpoint := .empty
  options := options
  cache := []

def creation (c : Cursor) : Event := .created c.totalChars c.options.encoding

def withEncoding (text label : Text) : Except CursorError Cursor := do
  let encoding ← readEncoding label
  let _ ← decodeText encoding (Utf8.encode text)
  .ok (ofText text { encoding })

def ofBytes (bytes : List UInt8) (label : Text) : Except CursorError Cursor := do
  let encoding ← readEncoding label
  let text ← decodeText encoding bytes
  .ok (ofText text { encoding })

def hasRemaining (c : Cursor) : Bool := c.position.byteOffset < c.text.byteLength

def remaining (c : Cursor) : Nat := c.totalChars - c.position.offset

def currentText (c : Cursor) : Text := c.text.dropBytes c.position.byteOffset

def consumedText (c : Cursor) : Text := c.text.takeBytes c.position.byteOffset

def isLocked (c : Cursor) : Bool := c.checkpoint.isLocked

def hasCheckpoint (c : Cursor) : Bool := c.checkpoint.snapshot.isSome

/-- Commits the staged length and `length + offset` codepoints more, as far as there is input. -/
def acceptWith (c : Cursor) (length offset : Nat) : Effect Unit :=
  let advance := min (saturatingAdd (saturatingAdd c.pending length) offset) c.remaining
  let position := c.position.advanceOver (c.currentText.charPrefix advance)
  { result := ()
    cursor :=
      { c with
        position := position
        pending := 0
        checkpoint := if c.isLocked then c.checkpoint else .unlocked c.position }
    events := [.accepted c.position position advance] }

def accept (c : Cursor) : Effect Unit := c.acceptWith 0 0

def saveWith (c : Cursor) (lock : Bool) : Effect Unit :=
  if c.isLocked then ⟨(), c, []⟩
  else
    { result := ()
      cursor :=
        { c with checkpoint := if lock then .locked c.position else .unlocked c.position }
      events := [.saved c.position lock] }

def cancel (c : Cursor) : Effect Unit :=
  match c.checkpoint.take with
  | (some position, checkpoint) =>
    ⟨(), { c with position, pending := 0, checkpoint }, [.cancelled c.position position]⟩
  | (none, checkpoint) => ⟨(), { c with pending := 0, checkpoint }, []⟩

def reset (c : Cursor) : Effect Unit :=
  ⟨(), { c with position := .start, pending := 0, checkpoint := .empty }, [.resetting]⟩

def peekWith (c : Cursor) (length extra : Nat) : Effect (Option Slice) :=
  if c.hasRemaining then
    let pending := min (saturatingAdd (min length c.remaining) extra) c.remaining
    ⟨some (.charsFrom c.text c.position.byteOffset pending), { c with pending }, []⟩
  else ⟨none, c, []⟩

def peek (c : Cursor) (length : Nat) : Effect (Option Slice) := c.peekWith length 0

def consumeWith (c : Cursor) (length extra : Nat) : Effect (Option Slice) :=
  let peeked := c.peekWith length extra
  let accepted := peeked.cursor.accept
  ⟨peeked.result, accepted.cursor, peeked.events ++ accepted.events⟩

def consume (c : Cursor) (length : Nat) : Effect (Option Slice) := c.consumeWith length 0

/-- A test for chunks, which may depend on the chunks it was given before, oldest first. -/
abbrev ChunkTest := List Text → Text → Bool

structure Chunks where
  text : Text
  seen : List Text
  deriving DecidableEq, Repr

def chunksFuel (test : ChunkTest) (size : Nat) : Nat → List Text → Cursor → Effect Chunks
  | 0, seen, c => ⟨⟨[], seen⟩, c, []⟩
  | fuel + 1, seen, c =>
    let peeked := c.peek size
    match peeked.result with
    | none => ⟨⟨[], seen⟩, peeked.cursor, peeked.events⟩
    | some slice =>
      let chunk := slice.text
      let seen' := seen ++ [chunk]
      if test seen chunk then
        let accepted := peeked.cursor.accept
        let others := chunksFuel test size fuel seen' accepted.cursor
        ⟨⟨chunk ++ others.result.text, others.result.seen⟩, others.cursor,
          peeked.events ++ accepted.events ++ others.events⟩
      else ⟨⟨[], seen'⟩, peeked.cursor, peeked.events⟩

section
variable {test : ChunkTest} {size fuel : Nat} {seen : List Text} {c : Cursor} {s : Slice}

theorem chunksFuel_none (peeked : (c.peek size).result = none) :
    chunksFuel test size (fuel + 1) seen c =
      ⟨⟨[], seen⟩, (c.peek size).cursor, (c.peek size).events⟩ := by
  simp only [chunksFuel, peeked]

theorem chunksFuel_rejected (peeked : (c.peek size).result = some s)
    (rejected : test seen s.text = false) :
    chunksFuel test size (fuel + 1) seen c =
      ⟨⟨[], seen ++ [s.text]⟩, (c.peek size).cursor, (c.peek size).events⟩ := by
  simp only [chunksFuel, peeked, rejected, Bool.false_eq_true, ↓reduceIte]

theorem chunksFuel_accepted (peeked : (c.peek size).result = some s)
    (accepted : test seen s.text = true) :
    chunksFuel test size (fuel + 1) seen c =
      let consumed := c.consume size
      let others := chunksFuel test size fuel (seen ++ [s.text]) consumed.cursor
      ⟨⟨s.text ++ others.result.text, others.result.seen⟩, others.cursor,
        consumed.events ++ others.events⟩ := by
  simp only [chunksFuel, peeked, accepted, ↓reduceIte]
  rfl

end

/-- Consumes chunks of `size` codepoints, the last perhaps shorter, while the test accepts them. The
chunk that fails the test stays staged. Each round but the last takes a codepoint at least. -/
def peekWhileChunked (c : Cursor) (test : ChunkTest) (size : Nat) : Effect Chunks :=
  if size = 0 then ⟨⟨[], []⟩, c, []⟩ else chunksFuel test size (c.remaining + 1) [] c

def peekWhile (c : Cursor) (test : ChunkTest) : Effect Chunks := c.peekWhileChunked test 1

/-- Matches a compiled pattern at the start of the remaining input. A match is staged, and committed
if the options say so; a failure changes nothing. -/
def matchCompiled (c : Cursor) (p : Pattern) (options : MatchOptions) :
    Effect (Option MatchOutcome) :=
  match p.matchAt? c.text c.position.byteOffset options.capture with
  | none => ⟨none, c, []⟩
  | some outcome =>
    let staged := { c with pending := outcome.charLength }
    let event := .matched p.source outcome.text c.position options.commit
    if options.commit then
      let accepted := staged.accept
      ⟨some outcome, accepted.cursor, event :: accepted.events⟩
    else ⟨some outcome, staged, [event]⟩

def remember (c : Cursor) (key : CacheKey) (p : Pattern) : Cursor :=
  if c.options.cachePatterns then { c with cache := c.cache.insert key p } else c

def cacheKey (c : Cursor) (source : Text) (modifiers : Modifiers) : CacheKey :=
  ⟨source, modifiers.union c.options.defaultModifiers⟩

def matchKey (c : Cursor) (key : CacheKey) (options : MatchOptions) :
    Effect (Except CursorError (Option MatchOutcome)) :=
  match c.cache.get? key with
  | some p =>
    let e := c.matchCompiled p options
    ⟨.ok e.result, e.cursor, e.events⟩
  | none =>
    match compilePattern key.source key.modifiers with
    | .error err => ⟨.error err, c, []⟩
    | .ok p =>
      let e := c.matchCompiled p options
      ⟨.ok e.result, e.cursor.remember key p, .compiled key.source key.modifiers :: e.events⟩

def matchWith (c : Cursor) (source flags : Text) (options : MatchOptions) :
    Effect (Except CursorError (Option MatchOutcome)) :=
  match readModifiers flags with
  | .error err => ⟨.error err, c, []⟩
  | .ok modifiers => c.matchKey (c.cacheKey source modifiers) options

def matchPattern (c : Cursor) (source flags : Text) :
    Effect (Except CursorError (Option MatchOutcome)) :=
  c.matchWith source flags { capture := c.options.capture }

end Cursor

def Pattern.compilation (p : Pattern) : Event := .compiled p.source p.modifiers

end TextCursor
