import TextCursor.Proofs.Conservation
import TextCursor.Proofs.Pattern.Spans
/-!
What a match reports, and where it leaves the cursor. The search counts codepoints from the cursor
on; a group names a part of the whole buffer by its bytes, and a match stages codepoints again. All
three measures agree: a group lies where its span says, and committing a match leads behind the last
codepoint of the whole match, just as consuming so many codepoints does.
-/
namespace TextCursor

def Group.bare (g : Group) : Group := { g with offset := none }

def MatchOutcome.bare (m : MatchOutcome) : MatchOutcome :=
  ⟨m.whole.bare, m.groups.map (Option.map Group.bare), m.names⟩

namespace Pattern
variable {p : Pattern} {buffer : Text} {start : Nat} {capture : CaptureMode}

theorem matchAt?_spans {spans : List (Option CharSpan)} {stop : Nat}
    (found : p.find? (buffer.dropBytes start) = some spans)
    (head : spans.head? = some (some ⟨0, stop⟩)) :
    p.matchAt? buffer start capture =
      some ⟨groupAt buffer start capture ⟨0, stop⟩,
        spans.map (Option.map (groupAt buffer start capture)), p.program.names⟩ := by
  simp [matchAt?, found, head]

theorem find?_length (p : Pattern) {text : Text} {spans : List (Option CharSpan)}
    (found : p.find? text = some spans) : spans.length = p.groupCount := by
  obtain ⟨slots, _, rfl⟩ := Option.map_eq_some_iff.mp found
  rw [List.length_map, List.length_range]
  rfl

theorem matchAt?_isSome (p : Pattern) (buffer : Text) (start : Nat) (capture : CaptureMode) :
    (p.matchAt? buffer start capture).isSome = p.isMatch (buffer.dropBytes start) := by
  have isMatch : p.isMatch (buffer.dropBytes start) = (p.find? (buffer.dropBytes start)).isSome :=
    rfl
  rw [isMatch]
  cases found : p.find? (buffer.dropBytes start) with
  | none => simp [matchAt?, found]
  | some spans =>
    obtain ⟨stop, head⟩ := find?_start p found
    rw [matchAt?_spans found head]
    rfl

theorem matchAt?_bare (p : Pattern) (buffer : Text) (start : Nat) (capture other : CaptureMode) :
    (p.matchAt? buffer start capture).map MatchOutcome.bare =
      (p.matchAt? buffer start other).map MatchOutcome.bare := by
  have bare (span : CharSpan) : (groupAt buffer start capture span).bare =
      (groupAt buffer start other span).bare := rfl
  cases found : p.find? (buffer.dropBytes start) with
  | none => simp [matchAt?, found]
  | some spans =>
    obtain ⟨stop, head⟩ := find?_start p found
    rw [matchAt?_spans found head, matchAt?_spans found head]
    simp [MatchOutcome.bare, bare, Option.map_map, Function.comp_def]

end Pattern

structure Effect.SameButOffsets (e e' : Effect (Option MatchOutcome)) : Prop where
  result : e.result.map MatchOutcome.bare = e'.result.map MatchOutcome.bare
  cursor : e.cursor = e'.cursor
  events : e.events = e'.events

namespace Cursor
variable {text : Text} {options : CursorOptions} {c : Cursor} {p : Pattern} {how : MatchOptions}
  {m : MatchOutcome}

/-- The group is a slice of the cursor's buffer, made of whole codepoints, and a part of the whole
match; its offset counts the codepoints from the cursor to its start. -/
structure Places (c : Cursor) (capture : CaptureMode) (m : MatchOutcome) (g : Group) : Prop where
  buffer : g.slice.buffer = c.text
  start_boundary : c.text.isBoundary g.slice.start = true
  stop_boundary : c.text.isBoundary g.slice.stop = true
  ordered : g.slice.start ≤ g.slice.stop
  within : m.whole.slice.start ≤ g.slice.start ∧ g.slice.stop ≤ m.whole.slice.stop
  offset : g.offset =
    match capture with
    | .text => none
    | .offset => some (Slice.mk c.text c.position.byteOffset g.slice.start).charLength

theorem groupAt_places (h : c.Coherent text options) {capture : CaptureMode}
    {span : Pattern.CharSpan} {stop : Nat} (ordered : span.start ≤ span.stop)
    (within : span.stop ≤ stop) (inside : stop ≤ c.currentText.length)
    (whole : m.whole = Pattern.groupAt c.text c.position.byteOffset capture ⟨0, stop⟩) :
    c.Places capture m (Pattern.groupAt c.text c.position.byteOffset capture span) where
  buffer := rfl
  start_boundary := by
    change c.text.isBoundary
      (c.position.byteOffset + Text.byteIndex c.currentText span.start) = true
    rw [byteOffset_add_byteIndex h]
    exact Text.isBoundary_byteIndex _ _
  stop_boundary := by
    change c.text.isBoundary
      (c.position.byteOffset + Text.byteIndex c.currentText span.stop) = true
    rw [byteOffset_add_byteIndex h]
    exact Text.isBoundary_byteIndex _ _
  ordered := Nat.add_le_add_left (Text.byteIndex_mono _ ordered) _
  within := by
    rw [whole]
    constructor
    · exact Nat.add_le_add_left (Text.byteIndex_mono _ (Nat.zero_le _)) _
    · exact Nat.add_le_add_left (Text.byteIndex_mono _ within) _
  offset := by
    cases capture with
    | text => rfl
    | offset =>
      have counted : (Slice.mk c.text c.position.byteOffset (c.position.byteOffset +
          Text.byteIndex c.currentText span.start)).text = c.currentText.take span.start := by
        rw [Slice.text, Nat.add_sub_cancel_left]
        exact Text.takeBytes_byteIndex _ _
      change some span.start = some (Slice.mk c.text c.position.byteOffset (c.position.byteOffset +
          Text.byteIndex c.currentText span.start)).text.length
      rw [counted, List.length_take, Nat.min_eq_left (by omega)]

/-- What a match reports: one group for each of the pattern, the whole match first. -/
structure Reports (c : Cursor) (p : Pattern) (capture : CaptureMode) (m : MatchOutcome) : Prop where
  size : m.size = p.groupCount
  whole : m.get? 0 = some m.whole
  groups : ∀ g, some g ∈ m.groups → c.Places capture m g

theorem matchAt_reports (h : c.Coherent text options) {capture : CaptureMode}
    (found : p.matchAt? c.text c.position.byteOffset capture = some m) :
    c.Reports p capture m := by
  cases search : p.find? (c.text.dropBytes c.position.byteOffset) with
  | none => simp [Pattern.matchAt?, search] at found
  | some spans =>
    obtain ⟨stop, inside, head, groups⟩ := Pattern.find?_within p search
    rw [Pattern.matchAt?_spans search head] at found
    cases found
    constructor
    · rw [MatchOutcome.size, List.length_map]
      exact Pattern.find?_length p search
    · obtain ⟨rest, rfl⟩ := List.head?_eq_some_iff.mp head
      rfl
    · intro g mem
      obtain ⟨span?, listed, same⟩ := List.mem_map.mp mem
      obtain ⟨span, rfl, rfl⟩ := Option.map_eq_some_iff.mp same
      obtain ⟨ordered, within⟩ := groups span listed
      exact groupAt_places h ordered within inside rfl

theorem cursor_matchCompiled (matched : (c.matchCompiled p how).result = some m) :
    (c.matchCompiled p how).cursor =
      if how.commit then ({ c with pending := m.charLength } : Cursor).accept.cursor
      else { c with pending := m.charLength } := by
  rw [matchCompiled_result] at matched
  simp only [matchCompiled, matched]
  split
  · rfl
  · rfl

theorem accept_staged (h : c.Coherent text options) {n : Nat} (left : n ≤ c.remaining) :
    ({ c with pending := n } : Cursor).accept.cursor = (c.consume n).cursor := by
  change _ = (c.peekWith n 0).cursor.accept.cursor
  cases more : c.hasRemaining with
  | true =>
    -- both sums stop at the same limit, whether the length is clamped before or not
    have clamped : min (saturatingAdd (min n c.remaining) 0) c.remaining = min n maxCount := by
      unfold saturatingAdd
      omega
    have staged : (c.peekWith n 0).cursor = { c with pending := min n maxCount } := by
      simp [peekWith, more, clamped]
    have same : saturatingAdd (saturatingAdd (min n maxCount) 0) 0 =
        saturatingAdd (saturatingAdd n 0) 0 := by
      unfold saturatingAdd
      omega
    rw [staged]
    simp only [accept, acceptWith, same]
    rfl
  | false =>
    -- nothing is staged here, for nothing is left
    have nothing := nothing_left h more
    have staged := h.staged
    have unstaged : n = c.pending := by omega
    rw [peekWith_used more, unstaged]

theorem matchCompiled_capture (c : Cursor) (p : Pattern) (how : MatchOptions)
    (capture : CaptureMode) :
    (c.matchCompiled p { how with capture }).SameButOffsets (c.matchCompiled p how) := by
  have bare := Pattern.matchAt?_bare p c.text c.position.byteOffset capture how.capture
  cases found : p.matchAt? c.text c.position.byteOffset how.capture with
  | none =>
    rw [found, Option.map_none, Option.map_eq_none_iff] at bare
    simp only [matchCompiled, found, bare]
    exact ⟨rfl, rfl, rfl⟩
  | some m =>
    rw [found, Option.map_some] at bare
    obtain ⟨m', found', same⟩ := Option.map_eq_some_iff.mp bare
    have slice : m'.whole.slice = m.whole.slice := congrArg (·.whole.slice) same
    have text : m'.text = m.text := congrArg Slice.text slice
    have charLength : m'.charLength = m.charLength := congrArg Slice.charLength slice
    simp only [matchCompiled, found, found', text, charLength]
    split
    · exact ⟨congrArg some same, rfl, rfl⟩
    · exact ⟨congrArg some same, rfl, rfl⟩

theorem byteOffset_committed (h : c.Coherent text options) (countable : c.remaining ≤ maxCount)
    (commit : how.commit = true) (matched : (c.matchCompiled p how).result = some m) :
    (c.matchCompiled p how).cursor.position.byteOffset = m.whole.slice.stop := by
  have walk := matchCompiled_walks h countable p how
  rw [matched, commit] at walk
  obtain ⟨stop, whole⟩ := whole_fromStart (matchCompiled_found matched)
  have text : m.text = c.currentText.take stop := by
    rw [MatchOutcome.text, whole, text_groupAt h]
    rfl
  have moved : (c.matchCompiled p how).cursor.position = c.position.advanceOver m.text :=
    walk.position
  rw [moved, Position.byteOffset_advanceOver, text, Text.byteLength_take, whole]
  rfl

end Cursor

/-- A pattern that a cursor matches finds something just if it matches the input that is left. All
that it finds is reported as parts of the whole match, where they lie in the buffer; only their
offsets depend on what is to be reported. A match that is staged changes what is staged, one that is
committed leaves the cursor where consuming as many codepoints does, at the end of the match. -/
theorem matchCompiled_outcome (text : Text) (options : CursorOptions) (ops : List Operation)
    (p : Pattern) (how : MatchOptions) :
    let c := runCursor (Cursor.ofText text options) ops
    let e := c.matchCompiled p how
    e.result.isSome = p.isMatch c.currentText ∧
      (∀ m, e.result = some m →
        c.Reports p how.capture m ∧
          (how.commit = false → e.cursor = { c with pending := m.charLength }) ∧
          (how.commit = true → e.cursor = (c.consume m.charLength).cursor ∧
            (text.length ≤ maxCount → e.cursor.position.byteOffset = m.whole.slice.stop))) ∧
      ∀ capture, (c.matchCompiled p { how with capture }).SameButOffsets e := by
  intro c e
  have coherent : c.Coherent text options :=
    runCursor_coherent (Cursor.ofText_coherent text options) ops
  refine ⟨?_, ?_, ?_⟩
  · rw [Cursor.matchCompiled_result]
    exact Pattern.matchAt?_isSome p c.text c.position.byteOffset how.capture
  · intro m matched
    have found := Cursor.matchCompiled_found matched
    have cursor := Cursor.cursor_matchCompiled matched
    refine ⟨Cursor.matchAt_reports coherent found, ?_, ?_⟩
    · intro commit
      rwa [commit] at cursor
    · intro commit
      constructor
      · rw [commit] at cursor
        have left := Cursor.charLength_matchAt coherent found
        exact cursor.trans (Cursor.accept_staged coherent left)
      · intro countable
        have left := Cursor.remaining_countable coherent countable
        exact Cursor.byteOffset_committed coherent left commit matched
  · exact Cursor.matchCompiled_capture c p how

theorem multibyte_match_outcome :
    ∃ (p : Pattern) (m m' : MatchOutcome),
      let c := runCursor (Cursor.ofText ['é', 'x', 'é', 'b'] {}) [.consumeWith 1 0]
      let e := c.matchCompiled p { capture := .offset }
      e.result = some m ∧ c.Reports p .offset m ∧ m.charLength = 2 ∧
        e.cursor = (c.consume m.charLength).cursor ∧
        e.cursor.position.byteOffset = m.whole.slice.stop ∧
        (c.matchCompiled p .staged).result = some m' ∧
        (c.matchCompiled p .staged).cursor = { c with pending := m'.charLength } := by
  obtain ⟨p, _, program⟩ := Pattern.compiles "x(é)(z)?".toList .none (by decide +kernel)
  have run : (Pattern.Program.compile "x(é)(z)?".toList .none).toOption.bind
      (·.find? ['x', 'é', 'b']) = some [some ⟨0, 2⟩, some ⟨1, 2⟩, none] := by decide +kernel
  rw [program] at run
  have matched (how : MatchOptions) :=
    (Cursor.matchCompiled_result (runCursor (Cursor.ofText ['é', 'x', 'é', 'b'] {})
      [.consumeWith 1 0]) p how).trans (Pattern.matchAt?_spans run rfl)
  obtain ⟨_, outcome, _⟩ := matchCompiled_outcome ['é', 'x', 'é', 'b'] {} [.consumeWith 1 0] p
    { capture := .offset }
  obtain ⟨reports, _, committed⟩ := outcome _ (matched _)
  obtain ⟨consumed, ends⟩ := committed rfl
  obtain ⟨_, outcome', _⟩ := matchCompiled_outcome ['é', 'x', 'é', 'b'] {} [.consumeWith 1 0] p
    .staged
  obtain ⟨_, staged, _⟩ := outcome' _ (matched _)
  exact ⟨p, _, _, matched _, reports, rfl, consumed, ends (by decide), matched _, staged rfl⟩

end TextCursor
