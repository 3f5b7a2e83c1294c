import TextCursor.Session
/-!
Kept patterns are invisible. A cache is sound if what it keeps under a key is what compiling the key
afresh gives. Only a match adds to a cache, and only what it compiled for the key, so every cache
that a run leads to is sound. Beside that no operation looks at what is kept, so two cursors that
differ in nothing else go the same way: operation by operation they answer alike and end up alike.
-/
namespace TextCursor

/-- Every entry is what compiling its key gives. -/
def Cache.Sound (cache : Cache) : Prop :=
  ∀ key p, (key, p) ∈ cache → compilePattern key.source key.modifiers = .ok p

theorem Cache.mem_of_get? {cache : Cache} {key : CacheKey} {p : Pattern}
    (kept : cache.get? key = some p) : (key, p) ∈ cache := by
  unfold get? at kept
  obtain ⟨entry, first, rfl⟩ := Option.map_eq_some_iff.mp kept
  have same : entry.1 = key := by simpa using List.find?_some first
  rw [← same]
  exact List.mem_of_find?_eq_some first

theorem Cache.empty_sound : Cache.Sound [] := by
  intro key p held
  cases held

theorem Cache.insert_sound {cache : Cache} {key : CacheKey} {p : Pattern} (sound : cache.Sound)
    (compiled : compilePattern key.source key.modifiers = .ok p) : (cache.insert key p).Sound := by
  intro k q held
  rcases List.mem_cons.mp held with new | old
  · cases new
    exact compiled
  · exact sound k q old

namespace Cursor

def withCaching (c : Cursor) (caching : Bool) : Cursor :=
  { c with options := { c.options with cachePatterns := caching } }

def keeping (c : Cursor) (cache : Cache) (caching : Bool) : Cursor :=
  { c.withCaching caching with cache }

/-- The cursor as its caller sees it, who is not told of patterns that are kept. -/
def uncached (c : Cursor) : Cursor := c.keeping [] false

def matchIfCompiled (c : Cursor) (compiled : Except CursorError Pattern) (how : MatchOptions) :
    Effect (Except CursorError (Option MatchOutcome)) :=
  match compiled with
  | .ok p => (c.matchCompiled p how).map .ok
  | .error err => ⟨.error err, c, []⟩

def matchAfresh (c : Cursor) (source flags : Text) (how : MatchOptions) :
    Effect (Except CursorError (Option MatchOutcome)) :=
  let compiled := do
    let modifiers ← readModifiers flags
    compilePattern source (modifiers.union c.options.defaultModifiers)
  c.matchIfCompiled compiled how

end Cursor

namespace Effect

def keeping {α : Type} (e : Effect α) (cache : Cache) (caching : Bool) : Effect α :=
  ⟨e.result, e.cursor.keeping cache caching, e.events⟩

def seen {α : Type} (e : Effect α) : α × Cursor := (e.result, e.cursor.uncached)

end Effect

namespace Cursor
variable {c : Cursor} (cache : Cache) (caching : Bool)

theorem peekWith_keeping (length extra : Nat) :
    (c.keeping cache caching).peekWith length extra =
      (c.peekWith length extra).keeping cache caching := by
  have same : (c.keeping cache caching).hasRemaining = c.hasRemaining := rfl
  unfold peekWith
  rw [same]
  split <;> rfl

theorem saveWith_keeping (lock : Bool) :
    (c.keeping cache caching).saveWith lock = (c.saveWith lock).keeping cache caching := by
  have same : (c.keeping cache caching).isLocked = c.isLocked := rfl
  unfold saveWith
  rw [same]
  split <;> rfl

theorem cancel_keeping :
    (c.keeping cache caching).cancel = c.cancel.keeping cache caching := by
  have same : (c.keeping cache caching).checkpoint = c.checkpoint := rfl
  unfold cancel Checkpoint.take
  rw [same]
  cases c.checkpoint.snapshot <;> rfl

theorem consumeWith_keeping (length extra : Nat) :
    (c.keeping cache caching).consumeWith length extra =
      (c.consumeWith length extra).keeping cache caching := by
  unfold consumeWith
  rw [peekWith_keeping]
  rfl

theorem chunksFuel_keeping (test : ChunkTest) (size fuel : Nat) (seen : List Text) :
    chunksFuel test size fuel seen (c.keeping cache caching) =
      (chunksFuel test size fuel seen c).keeping cache caching := by
  induction fuel generalizing seen c with
  | zero => rfl
  | succ fuel ih =>
    have accepted (d : Cursor) : (d.keeping cache caching).accept.cursor =
      d.accept.cursor.keeping cache caching := rfl
    simp only [chunksFuel, peek, peekWith_keeping, Effect.keeping, accepted, ih]
    obtain ⟨result, d, events⟩ := c.peekWith size 0
    cases result with
    | none => rfl
    | some s => by_cases fits : test seen s.text <;> simp only [fits] <;> rfl

theorem peekWhileChunked_keeping (test : ChunkTest) (size : Nat) :
    (c.keeping cache caching).peekWhileChunked test size =
      (c.peekWhileChunked test size).keeping cache caching := by
  unfold peekWhileChunked
  split
  · rfl
  · exact chunksFuel_keeping cache caching test size _ []

theorem matchCompiled_keeping (p : Pattern) (how : MatchOptions) :
    (c.keeping cache caching).matchCompiled p how =
      (c.matchCompiled p how).keeping cache caching := by
  have buffer : (c.keeping cache caching).text = c.text := rfl
  have place : (c.keeping cache caching).position = c.position := rfl
  unfold matchCompiled
  rw [buffer, place]
  cases p.matchAt? c.text c.position.byteOffset how.capture with
  | none => rfl
  | some m =>
    simp only
    split <;> rfl

theorem matchIfCompiled_keeping (compiled : Except CursorError Pattern) (how : MatchOptions) :
    (c.keeping cache caching).matchIfCompiled compiled how =
      (c.matchIfCompiled compiled how).keeping cache caching := by
  cases compiled with
  | error err => rfl
  | ok p =>
    simp only [matchIfCompiled, matchCompiled_keeping]
    rfl

theorem matchAfresh_keeping (source flags : Text) (how : MatchOptions) :
    (c.keeping cache caching).matchAfresh source flags how =
      (c.matchAfresh source flags how).keeping cache caching :=
  matchIfCompiled_keeping cache caching _ how

theorem uncached_remember (c : Cursor) (key : CacheKey) (p : Pattern) :
    (c.remember key p).uncached = c.uncached := by
  unfold remember
  split <;> rfl

theorem matchKey_afresh (sound : c.cache.Sound) (key : CacheKey) (how : MatchOptions) :
    (c.matchKey key how).seen =
      (c.matchIfCompiled (compilePattern key.source key.modifiers) how).seen := by
  unfold matchKey
  split
  · rename_i p kept
    rw [sound key p (Cache.mem_of_get? kept)]
    rfl
  · cases compilePattern key.source key.modifiers with
    | error err => rfl
    | ok p => exact congrArg (Prod.mk _) (uncached_remember _ key p)

theorem matchWith_afresh (sound : c.cache.Sound) (source flags : Text) (how : MatchOptions) :
    (c.matchWith source flags how).seen = (c.matchAfresh source flags how).seen := by
  unfold matchWith matchAfresh
  cases readModifiers flags with
  | error err => rfl
  | ok modifiers => exact matchKey_afresh sound (c.cacheKey source modifiers) how

theorem matchWith_uncached (sound : c.cache.Sound) (source flags : Text) (how : MatchOptions) :
    (c.uncached.matchWith source flags how).seen = (c.matchWith source flags how).seen := by
  rw [matchWith_afresh sound, matchWith_afresh Cache.empty_sound, uncached, matchAfresh_keeping]
  rfl

theorem remember_sound (sound : c.cache.Sound) {key : CacheKey} {p : Pattern}
    (compiled : compilePattern key.source key.modifiers = .ok p) :
    (c.remember key p).cache.Sound := by
  unfold remember
  split
  · exact Cache.insert_sound sound compiled
  · exact sound

theorem cache_matchCompiled (c : Cursor) (p : Pattern) (how : MatchOptions) :
    (c.matchCompiled p how).cursor.cache = c.cache :=
  congrArg (·.cursor.cache) (matchCompiled_keeping c.cache c.options.cachePatterns p how)

theorem matchKey_sound (sound : c.cache.Sound) (key : CacheKey) (how : MatchOptions) :
    (c.matchKey key how).cursor.cache.Sound := by
  have kept (p : Pattern) : (c.matchCompiled p how).cursor.cache.Sound := by
    rw [cache_matchCompiled]
    exact sound
  unfold matchKey
  split
  · exact kept _
  · split
    · exact sound
    · rename_i p compiled
      exact remember_sound (kept p) compiled

theorem matchWith_sound (sound : c.cache.Sound) (source flags : Text) (how : MatchOptions) :
    (c.matchWith source flags how).cursor.cache.Sound := by
  unfold matchWith
  split
  · exact sound
  · exact matchKey_sound sound _ how

end Cursor

def Operation.readsPattern : Operation → Bool
  | matchPattern _ _ => true
  | matchWith _ _ _ => true
  | _ => false

theorem run_keeping (c : Cursor) (cache : Cache) (caching : Bool) (op : Operation)
    (plain : op.readsPattern = false) :
    op.run (c.keeping cache caching) = (op.run c).keeping cache caching := by
  cases op with
  | peekWith length extra =>
    rw [Operation.run, Cursor.peekWith_keeping]
    rfl
  | consumeWith length extra =>
    rw [Operation.run, Cursor.consumeWith_keeping]
    rfl
  | peekWhileChunked test size =>
    rw [Operation.run, Cursor.peekWhileChunked_keeping]
    rfl
  | acceptWith length offset => rfl
  | saveWith lock =>
    rw [Operation.run, Cursor.saveWith_keeping]
    rfl
  | cancel =>
    rw [Operation.run, Cursor.cancel_keeping]
    rfl
  | reset => rfl
  | matchPattern source flags => cases plain
  | matchWith source flags how => cases plain
  | matchCompiled pattern how =>
    rw [Operation.run, Cursor.matchCompiled_keeping]
    rfl

theorem cache_run (c : Cursor) (op : Operation) (plain : op.readsPattern = false) :
    (op.run c).cursor.cache = c.cache :=
  congrArg (·.cursor.cache) (run_keeping c c.cache c.options.cachePatterns op plain)

theorem run_sound {c : Cursor} (sound : c.cache.Sound) (op : Operation) :
    (op.run c).cursor.cache.Sound := by
  cases reads : op.readsPattern with
  | false =>
    rw [cache_run c op reads]
    exact sound
  | true =>
    cases op with
    | matchPattern source flags => exact Cursor.matchWith_sound sound source flags _
    | matchWith source flags how => exact Cursor.matchWith_sound sound source flags how
    | _ => cases reads

theorem runCursor_sound {c : Cursor} (sound : c.cache.Sound) (ops : List Operation) :
    (runCursor c ops).cache.Sound := by
  induction ops generalizing c with
  | nil => exact sound
  | cons op rest ih => exact ih (run_sound sound op)

theorem run_uncached {c : Cursor} (sound : c.cache.Sound) (op : Operation) :
    (op.run c.uncached).seen = (op.run c).seen := by
  cases reads : op.readsPattern with
  | false =>
    rw [Cursor.uncached, run_keeping c [] false op reads]
    rfl
  | true =>
    cases op with
    | matchPattern source flags =>
      exact congrArg (Prod.map Answer.ofMatch id) (Cursor.matchWith_uncached sound source flags _)
    | matchWith source flags how =>
      exact congrArg (Prod.map Answer.ofMatch id) (Cursor.matchWith_uncached sound source flags how)
    | _ => cases reads

theorem run_seen {c d : Cursor} (hc : c.cache.Sound) (hd : d.cache.Sound)
    (alike : c.uncached = d.uncached) (op : Operation) : (op.run c).seen = (op.run d).seen := by
  rw [← run_uncached hc, alike, run_uncached hd]

theorem runAll_seen {c d : Cursor} (hc : c.cache.Sound) (hd : d.cache.Sound)
    (alike : c.uncached = d.uncached) (ops : List Operation) :
    (runAll c ops).map Effect.seen = (runAll d ops).map Effect.seen := by
  induction ops generalizing c d with
  | nil => rfl
  | cons op rest ih =>
    have here := run_seen hc hd alike op
    have after := ih (run_sound hc op) (run_sound hd op) (congrArg Prod.snd here)
    simp only [runAll, List.map_cons, here, after]

/-- Whatever happened in a session before, each of its cursors matches a pattern as if it compiled
the pattern there and then; and from any of them on, keeping patterns or not makes no difference to
what the operations of a run give and leave. -/
theorem cache_invisible (text : Text) (options : CursorOptions) (steps : List Session.Step) :
    ∀ c ∈ ((Session.ofCursor (.ofText text options)).run steps).cursors,
      (∀ source flags how,
        (c.matchWith source flags how).seen = (c.matchAfresh source flags how).seen) ∧
      ∀ caching ops,
        (runAll (c.withCaching caching) ops).map Effect.seen = (runAll c ops).map Effect.seen := by
  intro c held
  obtain ⟨before, rfl⟩ := Session.run_reached (.ofText text options) steps c held
  have sound := runCursor_sound (c := .ofText text options) Cache.empty_sound before
  constructor
  · intro source flags how
    exact Cursor.matchWith_afresh sound source flags how
  · intro caching ops
    exact runAll_seen (c := Cursor.withCaching _ caching) sound sound rfl ops

/-- A clone that was made after one pattern was kept, and then keeps another one. -/
theorem clone_cache_invisible :
    let s := (Session.ofCursor (.ofText ['a', 'b', 'a'] {})).run
      [.operate (.matchPattern ['a'] []), .clone, .use 1, .operate (.matchPattern ['b'] [])]
    ∃ c ∈ s.cursors, c.cache.length = 2 ∧
      (∀ source flags how,
        (c.matchWith source flags how).seen = (c.matchAfresh source flags how).seen) ∧
      ∀ caching ops,
        (runAll (c.withCaching caching) ops).map Effect.seen = (runAll c ops).map Effect.seen := by
  intro s
  have kept : s.cursor?.map (·.cache.length) = some 2 := by decide +kernel
  obtain ⟨c, used, entries⟩ := Option.map_eq_some_iff.mp kept
  have held : c ∈ s.cursors := Session.mem_cursor? used
  exact ⟨c, held, entries, cache_invisible _ _ _ c held⟩

end TextCursor
