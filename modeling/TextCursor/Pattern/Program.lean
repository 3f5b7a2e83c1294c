import TextCursor.Pattern.Tree
/-!
A tree as a program for the search. Every instruction names its successors, and instructions are
emitted from the last to the first: `emit t next code` adds what matches `t` and goes on at `next`.
A loop is emitted around a place that is kept free for its head. A loop whose body may match the
empty text is one round followed by further rounds, inside an option, so that the order of
preference is the same as for any other body.
-/
namespace TextCursor.Pattern

inductive Instr where
  | char (c : Char) (next : Nat)
  | codes (set : Unicode.CodeSet) (next : Nat)
  | look (l : Look) (next : Nat)
  | save (slot : Nat) (next : Nat)
  /-- Goes on at `first`, and if that fails at `second`. -/
  | split (first second : Nat)
  | fail
  | accept
  deriving DecidableEq, Repr

abbrev Code := Array Instr

abbrev Emitted := Nat × Code

def push (i : Instr) (code : Code) : Emitted := (code.size, code.push i)

def branch (greedy : Bool) (body exit : Nat) : Instr :=
  if greedy then .split body exit else .split exit body

/-- What emits the program of a tree in front of a given place. -/
abbrev Emitter := Nat → Code → Emitted

def emitCopies (body : Emitter) : Nat → Emitter
  | 0, next, code => (next, code)
  | n + 1, next, code =>
    let (entry, code) := body next code
    emitCopies body n entry code

def emitOptional (greedy : Bool) (body : Emitter) (exit : Nat) : Nat → Emitter
  | 0, next, code => (next, code)
  | n + 1, next, code =>
    let (entry, code) := body next code
    let (entry, code) := push (branch greedy entry exit) code
    emitOptional greedy body exit n entry code

/-- A body that goes on at a choice between another round and `next`. Gives the entry of the body
and the choice. -/
def emitLoop (greedy : Bool) (body : Emitter) (next : Nat) (code : Code) : Nat × Nat × Code :=
  let (head, code) := push .fail code
  let (entry, code) := body head code
  (entry, head, code.setIfInBounds head (branch greedy entry next))

/-- A repetition of a body; `solid` tells that every match of the body takes a codepoint. -/
def emitRepetition (count : Count) (greedy solid : Bool) (body : Emitter) : Emitter :=
  fun next code =>
    match count.least, count.most with
    | least, some most =>
      let (entry, code) := emitOptional greedy body next (most - least) next code
      emitCopies body least entry code
    | 0, none =>
      let (entry, head, code) := emitLoop greedy body next code
      if solid then (head, code) else push (branch greedy entry next) code
    | least + 1, none =>
      let (entry, _, code) := emitLoop greedy body next code
      emitCopies body least entry code

def emitChars : Text → Emitter
  | [], next, code => (next, code)
  | c :: rest, next, code =>
    let (entry, code) := emitChars rest next code
    push (.char c entry) code

mutual

def Tree.emit : Tree → Emitter
  | empty, next, code => (next, code)
  | literal chars, next, code => emitChars chars next code
  | codes _ set, next, code => if set.isEmpty then push .fail code else push (.codes set next) code
  | look l, next, code => push (.look l next) code
  | repetition count greedy sub, next, code =>
    emitRepetition count greedy sub.consumes (fun next code => sub.emit next code) next code
  | capture index _ sub, next, code =>
    let (last, code) := push (.save (2 * index + 1) next) code
    let (entry, code) := sub.emit last code
    push (.save (2 * index) entry) code
  | concat parts, next, code => Tree.emitAll parts next code
  | alternation branches, next, code => Tree.emitBranches branches next code

def Tree.emitAll : List Tree → Emitter
  | [], next, code => (next, code)
  | t :: rest, next, code =>
    let (entry, code) := Tree.emitAll rest next code
    t.emit entry code

def Tree.emitBranches : List Tree → Emitter
  | [], _, code => push .fail code
  | [t], next, code => t.emit next code
  | t :: rest, next, code =>
    let (others, code) := Tree.emitBranches rest next code
    let (entry, code) := t.emit next code
    push (.split entry others) code

end

/-- A program, where it starts, and the names of its groups, the whole match being group 0. -/
structure Program where
  code : Code
  entry : Nat
  names : List (Option Text)

def Tree.lastGroup (t : Tree) : Nat := t.captures.foldl (fun n p => max n p.1) 0

def Tree.groupNames (t : Tree) : List (Option Text) :=
  none :: (List.range t.lastGroup).map fun i =>
    ((t.captures.find? fun p => p.1 = i + 1).bind (·.2))

def Program.ofTree (t : Tree) : Program :=
  let (entry, code) := (Tree.capture 0 none t).emit 0 #[.accept]
  ⟨code, entry, t.groupNames⟩

end TextCursor.Pattern
