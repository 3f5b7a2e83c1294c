import TextCursor.Proofs.History
import TextCursor.Proofs.Walk
import TextCursor.Session
/-!
The event log as an account of where a cursor stands. A log shows a position by line and column: the
first of a text to begin with, and after each event the one that the event tells to be reached. An
event fits a log if it starts from what the log shows. The events of every operation fit, and
afterwards the log shows where the cursor stands. So it does along every run, and for each cursor of
a session, where a clone takes over what the log of its original shows.
-/
namespace TextCursor

namespace Event

/-- Where a cursor that stood at `p` stands after an event, if the event fits there. A commit also
has to tell by how many codepoints it moved on. -/
def lead? (p : Position) : Event → Option Position
  | created _ _ => if p = .start then some p else none
  | resetting => some .start
  | accepted start stop chars =>
    if start = p ∧ stop.offset = start.offset + chars then some stop else none
  | cancelled start stop => if start = p then some stop else none
  | saved q _ => if q = p then some p else none
  | matched _ _ q _ => if q = p then some p else none
  | compiled _ _ => some p

def show? (shown : FieldValue) (e : Event) : Option FieldValue :=
  match e with
  | created _ _ => if shown = .position .start then some shown else none
  | resetting => some (.position .start)
  | accepted _ _ _ => if e.fields.lookup "from" = some shown then e.fields.lookup "to" else none
  | cancelled _ _ => if e.fields.lookup "from" = some shown then e.fields.lookup "to" else none
  | saved _ _ => if e.fields.lookup "position" = some shown then some shown else none
  | matched _ _ _ _ => if e.fields.lookup "position" = some shown then some shown else none
  | compiled _ _ => some shown

def moves : Event → Bool
  | accepted _ _ _ => true
  | cancelled _ _ => true
  | resetting => true
  | _ => false

def isCompiled : Event → Bool
  | compiled _ _ => true
  | _ => false

def committedAt? : Event → Option Position
  | accepted start _ _ => some start
  | _ => none

theorem show_of_lead {p q : Position} {e : Event} (led : e.lead? p = some q) :
    e.show? (.position p) = some (.position q) := by
  cases e with
  | created chars encoding =>
    obtain ⟨rfl, rfl⟩ : p = .start ∧ p = q := by simpa [lead?] using led
    rfl
  | resetting =>
    cases led
    rfl
  | accepted start stop chars =>
    obtain ⟨⟨rfl, _⟩, rfl⟩ : (start = p ∧ stop.offset = start.offset + chars) ∧ stop = q := by
      simpa [lead?] using led
    exact if_pos rfl
  | cancelled start stop =>
    obtain ⟨rfl, rfl⟩ : start = p ∧ stop = q := by simpa [lead?] using led
    exact if_pos rfl
  | saved r lock =>
    obtain ⟨rfl, rfl⟩ : r = p ∧ p = q := by simpa [lead?] using led
    exact if_pos rfl
  | matched pattern text r commit =>
    obtain ⟨rfl, rfl⟩ : r = p ∧ p = q := by simpa [lead?] using led
    exact if_pos rfl
  | compiled pattern modifiers =>
    cases led
    rfl

theorem lead_one {p q : Position} {e : Event} (led : e.lead? p = some q) :
    [e].foldlM lead? p = some q := by
  rw [List.foldlM_cons, led]
  rfl

theorem lead_append {p q r : Position} {first later : List Event}
    (led : first.foldlM lead? p = some q) (led' : later.foldlM lead? q = some r) :
    (first ++ later).foldlM lead? p = some r := by
  rw [List.foldlM_append, led]
  exact led'

theorem showAll_of_lead {p q : Position} {events : List Event}
    (led : events.foldlM lead? p = some q) :
    events.foldlM show? (.position p) = some (.position q) := by
  induction events generalizing p with
  | nil =>
    cases led
    rfl
  | cons e rest ih =>
    rw [List.foldlM_cons, Option.bind_eq_bind, Option.bind_eq_some_iff] at led ⊢
    obtain ⟨mid, first, later⟩ := led
    exact ⟨.position mid, show_of_lead first, ih later⟩

theorem lead_still {p q : Position} {e : Event} (led : e.lead? p = some q)
    (still : e.moves = false) : q = p := by
  cases e <;> simp_all [lead?, moves]

theorem leadAll_still {p q : Position} {events : List Event}
    (led : events.foldlM lead? p = some q) (still : ∀ e ∈ events, e.moves = false) : q = p := by
  induction events generalizing p with
  | nil =>
    cases led
    rfl
  | cons e rest ih =>
    rw [List.foldlM_cons, Option.bind_eq_bind, Option.bind_eq_some_iff] at led
    obtain ⟨mid, first, later⟩ := led
    obtain ⟨here, others⟩ := List.forall_mem_cons.mp still
    rw [ih later others, lead_still first here]

end Event

example : FieldValue.position .start = .text ['1', ':', '1'] := rfl

def Mark.committedAt? : Mark → Option Position
  | commit p => some p
  | _ => none

def commitsOf (marks : List Mark) : List Position := marks.filterMap Mark.committedAt?

/-- The events of a match that found `m` and led from `p` to `q`, but for a compilation before them:
one that tells of the match and, behind it, one that tells of the commit, if there was one. -/
def matchEvents (source : Text) (m : MatchOutcome) (commit : Bool) (p q : Position) : List Event :=
  .matched source m.text p commit ::
    if commit then [.accepted p q (q.offset - p.offset)] else []

/-- The events of an effect lead from `c` to the cursor that it leaves, and tell of the commits
among the marks, of each once. -/
structure Effect.Logged {α : Type} (c : Cursor) (marks : List Mark) (e : Effect α) : Prop where
  led : e.events.foldlM Event.lead? c.position = some e.cursor.position
  commits : e.events.filterMap Event.committedAt? = commitsOf marks

theorem Effect.Logged.map {α β : Type} {c : Cursor} {marks : List Mark} {e : Effect α}
    (logged : e.Logged c marks) (f : α → β) : (e.map f).Logged c marks :=
  ⟨logged.led, logged.commits⟩

theorem Effect.Logged.trans {α β γ : Type} {c : Cursor} {marks marks' : List Mark} {e : Effect α}
    {e' : Effect β} {result : γ} (first : e.Logged c marks) (later : e'.Logged e.cursor marks') :
    Effect.Logged c (marks ++ marks') ⟨result, e'.cursor, e.events ++ e'.events⟩ where
  led := Event.lead_append first.led later.led
  commits := by
    rw [List.filterMap_append, first.commits, later.commits]
    exact List.filterMap_append.symm

namespace Cursor
variable {text : Text} {options : CursorOptions} {c : Cursor}

theorem silent_logged {α : Type} {e : Effect α} (silent : e.events = [])
    (stays : e.cursor.position = c.position) : e.Logged c [] where
  led := by rw [silent, stays]; rfl
  commits := by rw [silent]; rfl

theorem offset_acceptWith (h : c.Coherent text options) (length offset : Nat) :
    (c.acceptWith length offset).cursor.position.offset = c.position.offset +
      min (saturatingAdd (saturatingAdd c.pending length) offset) c.remaining := by
  rw [(acceptWith_walks c length offset).offset, List.length_take, ← remaining_coherent h,
    Nat.min_eq_left (Nat.min_le_right _ _)]

theorem acceptWith_logged (h : c.Coherent text options) (length offset : Nat) :
    (c.acceptWith length offset).Logged c [.commit c.position] where
  led := Event.lead_one (if_pos ⟨rfl, offset_acceptWith h length offset⟩)
  commits := rfl

theorem peekWith_silent (c : Cursor) (length extra : Nat) :
    (c.peekWith length extra).events = [] := by
  unfold peekWith
  split <;> rfl

theorem peekWith_logged (c : Cursor) (length extra : Nat) :
    (c.peekWith length extra).Logged c [] :=
  silent_logged (peekWith_silent c length extra) (position_peekWith c length extra)

theorem consumeWith_logged (h : c.Coherent text options) (length extra : Nat) :
    (c.consumeWith length extra).Logged c [.commit c.position] := by
  have accepted := acceptWith_logged (peekWith_coherent h length extra) 0 0
  have events : (c.consumeWith length extra).events =
      (c.peekWith length extra).cursor.accept.events := by
    rw [consumeWith, peekWith_silent, List.nil_append]
  have place := position_peekWith c length extra
  constructor
  · rw [events, ← place]
    exact accepted.led
  · rw [events, ← place]
    exact accepted.commits

theorem saveWith_logged (c : Cursor) (lock : Bool) :
    (c.saveWith lock).Logged c (if lock then [.lock c.position] else [.save c.position]) := by
  have none_committed :
      commitsOf (if lock then [.lock c.position] else [.save c.position]) = [] := by
    cases lock <;> rfl
  constructor
  · unfold saveWith
    split
    · rfl
    · exact Event.lead_one (if_pos rfl)
  · rw [none_committed, saveWith]
    split <;> rfl

theorem cancel_logged (c : Cursor) : c.cancel.Logged c [.clear] := by
  unfold cancel Checkpoint.take
  cases c.checkpoint.snapshot with
  | none => exact ⟨rfl, rfl⟩
  | some p => exact ⟨Event.lead_one (if_pos rfl), rfl⟩

theorem reset_logged (c : Cursor) : c.reset.Logged c [.clear] := ⟨rfl, rfl⟩

theorem chunksFuel_logged (test : ChunkTest) (size fuel : Nat) (seen : List Text)
    (h : c.Coherent text options) :
    ∃ more, (chunksFuel test size fuel seen c).result.seen = seen ++ more ∧
      (chunksFuel test size fuel seen c).Logged c (chunkMarks test c.position seen more) := by
  -- each accepted chunk is told of as it is consumed, in front of what the later rounds tell
  induction fuel generalizing seen c with
  | zero => exact ⟨[], (List.append_nil seen).symm, silent_logged rfl rfl⟩
  | succ fuel ih =>
    have silent := peekWith_silent c size 0
    have stays := position_peekWith c size 0
    cases peeked : (c.peek size).result with
    | none =>
      rw [chunksFuel_none peeked]
      exact ⟨[], (List.append_nil seen).symm, silent_logged silent stays⟩
    | some s =>
      cases fits : test seen s.text with
      | false =>
        rw [chunksFuel_rejected peeked fits]
        refine ⟨[s.text], rfl, ?_⟩
        simp only [chunkMarks, fits, Bool.false_eq_true, ↓reduceIte]
        exact silent_logged silent stays
      | true =>
        have consumed := consumeWith_logged h size 0
        have place : (c.consume size).cursor.position = c.position.advanceOver s.text :=
          position_accept_peek c size 0 peeked
        obtain ⟨more, given, others⟩ := ih (seen ++ [s.text]) (consumeWith_coherent h size 0)
        rw [chunksFuel_accepted peeked fits]
        refine ⟨s.text :: more, ?_, ?_⟩
        · rw [List.append_assoc] at given
          exact given
        · simp only [chunkMarks, fits, ↓reduceIte, ← place]
          exact consumed.trans others

theorem peekWhileChunked_logged (h : c.Coherent text options) (test : ChunkTest) (size : Nat) :
    (c.peekWhileChunked test size).Logged c
      (chunkMarks test c.position [] (c.peekWhileChunked test size).result.seen) := by
  unfold peekWhileChunked
  split
  · exact silent_logged rfl rfl
  · obtain ⟨more, given, logged⟩ := chunksFuel_logged test size (c.remaining + 1) [] h
    rw [given]
    exact logged

theorem matched_logged {m : MatchOutcome} (source : Text) (commit : Bool) :
    Effect.Logged c []
      ⟨some m, { c with pending := m.charLength }, [.matched source m.text c.position commit]⟩ :=
  ⟨Event.lead_one (if_pos rfl), rfl⟩

theorem matchCompiled_logged (h : c.Coherent text options) (p : Pattern) (how : MatchOptions) :
    (c.matchCompiled p how).Logged c
      (matchMarks c.position how.commit (.outcome (c.matchCompiled p how).result)) := by
  unfold matchCompiled
  split
  · simp only [matchMarks, Answer.isMatched, Bool.and_false, Bool.false_eq_true, ↓reduceIte]
    exact silent_logged rfl rfl
  · rename_i m found
    have told := matched_logged (c := c) (m := m) p.source how.commit
    have staged := stage_coherent h m.charLength (charLength_matchAt h found)
    have accepted := acceptWith_logged staged 0 0
    split
    · rename_i commit
      simp only [matchMarks, commit, Answer.isMatched, Bool.and_self, ↓reduceIte]
      rw [commit] at told
      exact told.trans accepted
    · rename_i staged_only
      rw [Bool.eq_false_iff.mpr staged_only] at told ⊢
      exact told

theorem position_remember (c : Cursor) (key : CacheKey) (p : Pattern) :
    (c.remember key p).position = c.position := by
  unfold remember
  split <;> rfl

theorem compiled_logged {α : Type} {e : Effect α} {marks : List Mark} (logged : e.Logged c marks)
    (key : CacheKey) (p : Pattern) :
    Effect.Logged c marks
      ⟨e.result, e.cursor.remember key p, .compiled key.source key.modifiers :: e.events⟩ := by
  constructor
  · rw [position_remember]
    exact logged.led
  · exact logged.commits

theorem matchKey_logged (h : c.Coherent text options) (key : CacheKey) (how : MatchOptions) :
    (c.matchKey key how).Logged c
      (matchMarks c.position how.commit (.ofMatch (c.matchKey key how).result)) := by
  unfold matchKey
  split
  · rename_i p kept
    have logged := matchCompiled_logged h p how
    exact ⟨logged.led, logged.commits⟩
  · split
    · simp only [matchMarks, Answer.ofMatch, Answer.isMatched, Bool.and_false, Bool.false_eq_true,
        ↓reduceIte]
      exact silent_logged rfl rfl
    · rename_i p compiled
      have logged := compiled_logged (matchCompiled_logged h p how) key p
      exact ⟨logged.led, logged.commits⟩

theorem matchWith_logged (h : c.Coherent text options) (source flags : Text)
    (how : MatchOptions) :
    (c.matchWith source flags how).Logged c
      (matchMarks c.position how.commit (.ofMatch (c.matchWith source flags how).result)) := by
  unfold matchWith
  split
  · simp only [matchMarks, Answer.ofMatch, Answer.isMatched, Bool.and_false, Bool.false_eq_true,
      ↓reduceIte]
    exact silent_logged rfl rfl
  · exact matchKey_logged h _ how

theorem acceptWith_events (h : c.Coherent text options) (length offset : Nat) :
    (c.acceptWith length offset).events =
      [.accepted c.position (c.acceptWith length offset).cursor.position
        ((c.acceptWith length offset).cursor.position.offset - c.position.offset)] := by
  rw [offset_acceptWith h, Nat.add_sub_cancel_left]
  rfl

theorem matchCompiled_events (h : c.Coherent text options) {p : Pattern} {how : MatchOptions}
    {m : MatchOutcome} (matched : (c.matchCompiled p how).result = some m) :
    (c.matchCompiled p how).events =
      matchEvents p.source m how.commit c.position (c.matchCompiled p how).cursor.position := by
  have found := matchCompiled_found matched
  have staged := stage_coherent h m.charLength (charLength_matchAt h found)
  have accepted := acceptWith_events staged 0 0
  unfold matchCompiled
  rw [found]
  simp only [matchEvents]
  split
  · exact congrArg _ accepted
  · rfl

theorem matchEvents_told (source : Text) (m : MatchOutcome) (commit : Bool) (p q : Position) :
    (matchEvents source m commit p q).filter (!·.isCompiled) =
      matchEvents source m commit p q := by
  cases commit <;> rfl

theorem matchKey_events (h : c.Coherent text options) {key : CacheKey} {how : MatchOptions}
    {m : MatchOutcome} (matched : (c.matchKey key how).result = .ok (some m)) :
    ∃ source, (c.matchKey key how).events.filter (!·.isCompiled) =
      matchEvents source m how.commit c.position (c.matchKey key how).cursor.position := by
  unfold matchKey at matched ⊢
  split at matched
  · rename_i p kept
    have events := matchCompiled_events h (Except.ok.inj matched)
    rw [events, matchEvents_told]
    exact ⟨p.source, rfl⟩
  · split at matched
    · cases matched
    · rename_i p compiled
      have events := matchCompiled_events h (Except.ok.inj matched)
      rw [position_remember, List.filter_cons, events, matchEvents_told]
      exact ⟨p.source, rfl⟩

theorem matchWith_events (h : c.Coherent text options) {source flags : Text} {how : MatchOptions}
    {m : MatchOutcome} (matched : (c.matchWith source flags how).result = .ok (some m)) :
    ∃ source', (c.matchWith source flags how).events.filter (!·.isCompiled) =
      matchEvents source' m how.commit c.position
        (c.matchWith source flags how).cursor.position := by
  unfold matchWith at matched ⊢
  split at matched
  · cases matched
  · exact matchKey_events h matched

end Cursor

variable {text : Text} {options : CursorOptions} {c : Cursor}

theorem run_logged (h : c.Coherent text options) (op : Operation) :
    (op.run c).Logged c (op.marks c) := by
  cases op with
  | peekWith length extra => exact (Cursor.peekWith_logged c length extra).map Answer.slice
  | consumeWith length extra => exact (Cursor.consumeWith_logged h length extra).map Answer.slice
  | peekWhileChunked test size =>
    exact (Cursor.peekWhileChunked_logged h test size).map Answer.chunks
  | acceptWith length offset =>
    exact (Cursor.acceptWith_logged h length offset).map fun _ => Answer.done
  | saveWith lock => exact (Cursor.saveWith_logged c lock).map fun _ => Answer.done
  | cancel => exact (Cursor.cancel_logged c).map fun _ => Answer.done
  | reset => exact (Cursor.reset_logged c).map fun _ => Answer.done
  | matchPattern source flags =>
    have logged := Cursor.matchWith_logged h source flags { capture := c.options.capture }
    exact logged.map Answer.ofMatch
  | matchWith source flags how =>
    exact (Cursor.matchWith_logged h source flags how).map Answer.ofMatch
  | matchCompiled pattern how =>
    exact (Cursor.matchCompiled_logged h pattern how).map Answer.outcome

theorem run_events (h : c.Coherent text options) {op : Operation} {commit : Bool}
    {m : MatchOutcome} (isMatch : op.matchCommit? = some commit)
    (matched : (op.run c).result = .outcome (some m)) :
    ∃ source, (op.run c).events.filter (!·.isCompiled) =
      matchEvents source m commit c.position (op.run c).cursor.position := by
  cases op with
  | matchPattern source flags =>
    cases isMatch
    exact Cursor.matchWith_events h (ofMatch_outcome matched)
  | matchWith source flags how =>
    cases isMatch
    exact Cursor.matchWith_events h (ofMatch_outcome matched)
  | matchCompiled pattern how =>
    cases isMatch
    have events := Cursor.matchCompiled_events h (Answer.outcome.inj matched)
    have filtered := congrArg (List.filter (!·.isCompiled)) events
    exact ⟨pattern.source, filtered.trans (Cursor.matchEvents_told _ m how.commit _ _)⟩
  | _ => cases isMatch

structure Operation.Told (c : Cursor) (op : Operation) : Prop where
  led : (op.run c).events.foldlM Event.lead? c.position = some (op.run c).cursor.position
  commits : (op.run c).events.filterMap Event.committedAt? = commitsOf (op.marks c)
  matched : ∀ commit m, op.matchCommit? = some commit → (op.run c).result = .outcome (some m) →
    ∃ source, (op.run c).events.filter (!·.isCompiled) =
      matchEvents source m commit c.position (op.run c).cursor.position
  still : (∀ e ∈ (op.run c).events, e.moves = false) →
    (op.run c).cursor.position = c.position

theorem run_told (h : c.Coherent text options) (op : Operation) : op.Told c where
  led := (run_logged h op).led
  commits := (run_logged h op).commits
  matched := fun _ _ isMatch matched => run_events h isMatch matched
  still := Event.leadAll_still (run_logged h op).led

namespace Session

def show? (s : Session) (shown : Array FieldValue) : Step → Option (Array FieldValue)
  | .operate op =>
    match s.cursor? with
    | none => some shown
    | some c => do
      let before ← shown[s.current]?
      let after ← (op.run c).events.foldlM Event.show? before
      some (shown.setIfInBounds s.current after)
  | .clone =>
    match s.cursor? with
    | none => some shown
    | some _ => do
      let before ← shown[s.current]?
      some (shown.push before)
  | .use _ => some shown

def showAll? (s : Session) (shown : Array FieldValue) : List Step → Option (Array FieldValue)
  | [] => some shown
  | todo :: rest => do
    let shown ← s.show? shown todo
    (s.step todo).showAll? shown rest

def places (s : Session) : Array FieldValue := s.cursors.map fun c => .position c.position

theorem show_step {s : Session} (coherent : ∀ c ∈ s.cursors, c.Coherent text options)
    (todo : Step) : s.show? s.places todo = some (s.step todo).places := by
  have here (c : Cursor) (used : s.cursor? = some c) :
      s.places[s.current]? = some (.position c.position) := by
    rw [places, Array.getElem?_map, ← cursor?, used]
    rfl
  cases todo with
  | use index =>
    simp only [show?, step, use?]
    split <;> rfl
  | clone =>
    simp only [show?, step, clone]
    split
    · rename_i unused
      rw [unused]
    · rename_i c used
      rw [here c used, used]
      simp [places]
  | operate op =>
    simp only [show?, step]
    split
    · rename_i unused
      rw [unused]
    · rename_i c used
      have led := Event.showAll_of_lead (run_logged (coherent c (mem_cursor? used)) op).led
      rw [here c used, used]
      simp [places, update, led]

theorem step_coherent {s : Session} (coherent : ∀ c ∈ s.cursors, c.Coherent text options)
    (todo : Step) : ∀ c ∈ (s.step todo).cursors, c.Coherent text options := by
  intro c held
  rcases mem_step held with old | ⟨before, old, op, rfl⟩
  · exact coherent c old
  · exact run_coherent (coherent before old) op

theorem showAll_run {s : Session} (coherent : ∀ c ∈ s.cursors, c.Coherent text options)
    (steps : List Step) : s.showAll? s.places steps = some (s.run steps).places := by
  induction steps generalizing s with
  | nil => rfl
  | cons todo rest ih =>
    rw [showAll?, show_step coherent todo]
    exact ih (step_coherent coherent todo)

end Session

/-- Along every run of a session all events fit the logs of their cursors, and each log shows where
its cursor stands. The events of whatever is done next tell of each commit once, of a match before
its commit, and of all that moves the cursor. -/
theorem log_shows_position (text : Text) (options : CursorOptions) (steps : List Session.Step) :
    let s := Session.ofCursor (.ofText text options)
    s.showAll? #[.position .start] steps = some (s.run steps).places ∧
      ∀ c ∈ (s.run steps).cursors, ∀ op : Operation, op.Told c := by
  intro s
  have fresh : ∀ c ∈ s.cursors, c.Coherent text options := by
    intro c held
    have only : c = .ofText text options := by simpa [s, Session.ofCursor] using held
    rw [only]
    exact Cursor.ofText_coherent text options
  have begun : s.places = #[.position .start] := List.map_toArray
  constructor
  · rw [← begun]
    exact Session.showAll_run fresh steps
  · intro c held op
    obtain ⟨before, rfl⟩ := Session.run_reached (.ofText text options) steps c held
    exact run_told (runCursor_coherent (Cursor.ofText_coherent text options) before) op

/-- A clone that goes back to where its original was before a match, which reads on meanwhile. What
the clone logs next are two chunks, a save, a cancel that stays there, and a reset. -/
theorem clone_log_shows_position :
    let steps : List Session.Step :=
      [.operate (.matchPattern ['a'] []), .clone, .operate (.consumeWith 1 0), .use 1,
        .operate .cancel]
    let s := Session.ofCursor (.ofText ['a', '\n', 'b'] {})
    let second : Position := ⟨2, 1, 2, 2⟩
    let last : Position := ⟨2, 2, 3, 3⟩
    s.showAll? #[.position .start] steps =
        some #[.text ['2', ':', '1'], .text ['1', ':', '1']] ∧
      ∃ c ∈ (s.run steps).cursors,
        (runAll c [.peekWhileChunked (fun _ _ => true) 2, .saveWith true, .cancel, .reset]).map
            (·.events) =
          [[.accepted .start second 2, .accepted second last 1], [.saved last true],
            [.cancelled last last], [.resetting]] ∧
        ∀ op : Operation, op.Told c := by
  intro steps s second last
  obtain ⟨shown, told⟩ := log_shows_position ['a', '\n', 'b'] {} steps
  have places : (s.run steps).places = #[.text ['2', ':', '1'], .text ['1', ':', '1']] := by
    decide +kernel
  have logged : (s.run steps).cursor?.map (fun c => (runAll c
      [.peekWhileChunked (fun _ _ => true) 2, .saveWith true, .cancel, .reset]).map (·.events)) =
      some [[.accepted .start second 2, .accepted second last 1], [.saved last true],
        [.cancelled last last], [.resetting]] := by
    decide +kernel
  obtain ⟨c, used, events⟩ := Option.map_eq_some_iff.mp logged
  have member := Session.mem_cursor? used
  constructor
  · rw [← places]
    exact shown
  · exact ⟨c, member, events, told c member⟩

end TextCursor
