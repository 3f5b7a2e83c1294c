import Mathlib.Tactic.Tauto
import TextCursor.Proofs.Caching
import TextCursor.Proofs.EventLog
/-!
When patterns are compiled. The operations that read a pattern match it under a key: its source, with
the modifiers that the flags and the defaults of the cursor add up to. One such operation compiles the
key, unless the cache keeps it, and tells so in an event; no other operation compiles anything or
changes the cache. Nothing is ever removed from a cache. So it keeps, if anything is to be kept, what
was used so far and could be compiled; and a key is compiled where it is used first.
-/
namespace TextCursor

namespace CacheKey

def read? (defaults : Modifiers) (source flags : Text) : Option CacheKey :=
  match readModifiers flags with
  | .ok modifiers => some ⟨source, modifiers.union defaults⟩
  | .error _ => none

def compiles (key : CacheKey) : Bool := (compilePattern key.source key.modifiers).isOk

theorem compiles_of_ok {key : CacheKey} {p : Pattern}
    (compiled : compilePattern key.source key.modifiers = .ok p) : key.compiles = true := by
  rw [compiles, compiled]
  rfl

theorem compiles_of_error {key : CacheKey} {err : CursorError}
    (refused : compilePattern key.source key.modifiers = .error err) : key.compiles = false := by
  rw [compiles, refused]
  rfl

end CacheKey

def Operation.key? (defaults : Modifiers) : Operation → Option CacheKey
  | matchPattern source flags => CacheKey.read? defaults source flags
  | matchWith source flags _ => CacheKey.read? defaults source flags
  | _ => none

def keysUsed (defaults : Modifiers) (ops : List Operation) : List CacheKey :=
  ops.filterMap (·.key? defaults)

def Event.compiledKey? : Event → Option CacheKey
  | compiled source modifiers => some ⟨source, modifiers⟩
  | _ => none

def Effect.compilations {α : Type} (e : Effect α) : List CacheKey :=
  e.events.filterMap Event.compiledKey?

def compilationsAlong (c : Cursor) (ops : List Operation) : List CacheKey :=
  (runAll c ops).flatMap Effect.compilations

namespace Cache

def keeps (cache : Cache) (key : CacheKey) : Bool := (cache.get? key).isSome

theorem keeps_of_get {cache : Cache} {key : CacheKey} {p : Pattern}
    (kept : cache.get? key = some p) : cache.keeps key = true :=
  Option.isSome_of_eq_some kept

theorem keeps_of_get_none {cache : Cache} {key : CacheKey} (missing : cache.get? key = none) :
    cache.keeps key = false := by
  rw [keeps, missing]
  rfl

theorem keeps_insert (cache : Cache) (key k : CacheKey) (p : Pattern) :
    (cache.insert key p).keeps k ↔ cache.keeps k ∨ k = key := by
  by_cases same : key = k
  · simp [keeps, get?, insert, same]
  · simp [keeps, get?, insert, same, Ne.symm same]

end Cache

namespace Cursor
variable (c : Cursor)

def wouldCompile (key : CacheKey) : Bool := key.compiles && !c.cache.keeps key

theorem wouldCompile_iff {c : Cursor} {key : CacheKey} :
    c.wouldCompile key ↔ key.compiles ∧ ¬ c.cache.keeps key := by
  rw [wouldCompile, Bool.and_eq_true, Bool.not_eq_true', Bool.not_eq_true]

theorem compilations_peekWith (length extra : Nat) :
    (c.peekWith length extra).compilations = [] := by
  rw [Effect.compilations, peekWith_silent]
  rfl

theorem compilations_consumeWith (length extra : Nat) :
    (c.consumeWith length extra).compilations = [] := by
  rw [Effect.compilations, consumeWith, peekWith_silent]
  rfl

theorem compilations_saveWith (lock : Bool) : (c.saveWith lock).compilations = [] := by
  unfold saveWith
  split <;> rfl

theorem compilations_cancel : c.cancel.compilations = [] := by
  unfold cancel
  split <;> rfl

theorem compilations_chunksFuel (test : ChunkTest) (size fuel : Nat) (seen : List Text) :
    (chunksFuel test size fuel seen c).compilations = [] := by
  induction fuel generalizing seen c with
  | zero => rfl
  | succ fuel ih =>
    cases peeked : (c.peek size).result with
    | none =>
      rw [chunksFuel_none peeked]
      exact compilations_peekWith c size 0
    | some s =>
      cases fits : test seen s.text with
      | false =>
        rw [chunksFuel_rejected peeked fits]
        exact compilations_peekWith c size 0
      | true =>
        rw [chunksFuel_accepted peeked fits, Effect.compilations, List.filterMap_append]
        exact List.append_eq_nil_iff.mpr ⟨compilations_consumeWith c size 0, ih _ _⟩

theorem compilations_peekWhileChunked (test : ChunkTest) (size : Nat) :
    (c.peekWhileChunked test size).compilations = [] := by
  unfold peekWhileChunked
  split
  · rfl
  · exact compilations_chunksFuel c test size _ []

theorem compilations_matchCompiled (p : Pattern) (how : MatchOptions) :
    (c.matchCompiled p how).compilations = [] := by
  unfold matchCompiled
  split
  · rfl
  · simp only
    split <;> rfl

theorem caching_matchCompiled (p : Pattern) (how : MatchOptions) :
    (c.matchCompiled p how).cursor.options.cachePatterns = c.options.cachePatterns :=
  congrArg (·.cursor.options.cachePatterns)
    (matchCompiled_keeping c.cache c.options.cachePatterns p how)

section
variable {c} {key : CacheKey} {how : MatchOptions} {p : Pattern}

theorem matchKey_kept (kept : c.cache.get? key = some p) :
    c.matchKey key how = (c.matchCompiled p how).map .ok := by
  simp only [matchKey, kept]
  rfl

theorem matchKey_refused {err : CursorError} (missing : c.cache.get? key = none)
    (refused : compilePattern key.source key.modifiers = .error err) :
    c.matchKey key how = ⟨.error err, c, []⟩ := by
  simp only [matchKey, missing, refused]

theorem matchKey_compiled (missing : c.cache.get? key = none)
    (compiled : compilePattern key.source key.modifiers = .ok p) :
    c.matchKey key how =
      let e := c.matchCompiled p how
      ⟨.ok e.result, e.cursor.remember key p, .compiled key.source key.modifiers :: e.events⟩ := by
  simp only [matchKey, missing, compiled]

end

theorem compilations_matchKey (key : CacheKey) (how : MatchOptions) :
    (c.matchKey key how).compilations = [key].filter c.wouldCompile := by
  have silent (p : Pattern) := compilations_matchCompiled c p how
  cases kept : c.cache.get? key with
  | some p =>
    rw [matchKey_kept kept, List.filter_singleton, wouldCompile, Cache.keeps_of_get kept,
      Bool.not_true, Bool.and_false]
    exact silent p
  | none =>
    rw [List.filter_singleton, wouldCompile, Cache.keeps_of_get_none kept]
    cases compiled : compilePattern key.source key.modifiers with
    | error err =>
      rw [matchKey_refused kept compiled, CacheKey.compiles_of_error compiled]
      rfl
    | ok p =>
      rw [matchKey_compiled kept compiled, CacheKey.compiles_of_ok compiled]
      exact congrArg (key :: ·) (silent p)

theorem keeps_remember (key k : CacheKey) (p : Pattern) :
    (c.remember key p).cache.keeps k ↔
      c.cache.keeps k ∨ c.options.cachePatterns ∧ k = key := by
  unfold remember
  split
  · rename_i caching
    simp only [Cache.keeps_insert, caching, true_and]
  · rename_i caching
    exact (or_iff_left fun added => caching added.1).symm

theorem keeps_matchKey (key k : CacheKey) (how : MatchOptions) :
    (c.matchKey key how).cursor.cache.keeps k ↔
      c.cache.keeps k ∨ c.options.cachePatterns ∧ k.compiles ∧ k = key := by
  have same (p : Pattern) := cache_matchCompiled c p how
  cases kept : c.cache.get? key with
  | some p =>
    have already : k = key → c.cache.keeps k := by
      rintro rfl
      exact Cache.keeps_of_get kept
    rw [matchKey_kept kept, Effect.map, same]
    tauto
  | none =>
    cases compiled : compilePattern key.source key.modifiers with
    | error err =>
      have refused : ¬ (k.compiles ∧ k = key) := by
        rintro ⟨compiles, rfl⟩
        rw [CacheKey.compiles_of_error compiled] at compiles
        cases compiles
      rw [matchKey_refused kept compiled]
      tauto
    | ok p =>
      have compiles : k = key → k.compiles := by
        rintro rfl
        exact CacheKey.compiles_of_ok compiled
      rw [matchKey_compiled kept compiled]
      simp only [keeps_remember, same, caching_matchCompiled]
      tauto

variable {c} {source flags : Text} {how : MatchOptions}

theorem matchWith_read {key : CacheKey}
    (read : CacheKey.read? c.options.defaultModifiers source flags = some key) :
    c.matchWith source flags how = c.matchKey key how := by
  unfold CacheKey.read? at read
  unfold matchWith
  split at read
  · rename_i modifiers parsed
    cases read
    rw [parsed]
    rfl
  · cases read

theorem matchWith_unread (how : MatchOptions)
    (unread : CacheKey.read? c.options.defaultModifiers source flags = none) :
    ∃ err, c.matchWith source flags how = ⟨.error err, c, []⟩ := by
  unfold CacheKey.read? at unread
  unfold matchWith
  split at unread
  · cases unread
  · rename_i err refused
    rw [refused]
    exact ⟨err, rfl⟩

end Cursor

variable {c : Cursor} {op : Operation} {key : CacheKey}

theorem run_key (uses : op.key? c.options.defaultModifiers = some key) :
    ∃ how, op.run c = (c.matchKey key how).map .ofMatch := by
  cases op with
  | matchPattern source flags =>
    refine ⟨{ capture := c.options.capture }, ?_⟩
    rw [Operation.run, Cursor.matchPattern, Cursor.matchWith_read uses]
  | matchWith source flags how =>
    refine ⟨how, ?_⟩
    rw [Operation.run, Cursor.matchWith_read uses]
  | _ => cases uses

theorem run_no_key (unused : op.key? c.options.defaultModifiers = none) :
    (op.run c).compilations = [] ∧ (op.run c).cursor.cache = c.cache := by
  cases op with
  | peekWith length extra => exact ⟨c.compilations_peekWith length extra, cache_run c _ rfl⟩
  | consumeWith length extra => exact ⟨c.compilations_consumeWith length extra, cache_run c _ rfl⟩
  | peekWhileChunked test size =>
    exact ⟨c.compilations_peekWhileChunked test size, cache_run c _ rfl⟩
  | acceptWith length offset => exact ⟨rfl, rfl⟩
  | saveWith lock => exact ⟨c.compilations_saveWith lock, cache_run c _ rfl⟩
  | cancel => exact ⟨c.compilations_cancel, cache_run c _ rfl⟩
  | reset => exact ⟨rfl, rfl⟩
  | matchPattern source flags =>
    obtain ⟨err, failed⟩ := Cursor.matchWith_unread { capture := c.options.capture } unused
    rw [Operation.run, Cursor.matchPattern, failed]
    exact ⟨rfl, rfl⟩
  | matchWith source flags how =>
    obtain ⟨err, failed⟩ := Cursor.matchWith_unread how unused
    rw [Operation.run, failed]
    exact ⟨rfl, rfl⟩
  | matchCompiled pattern how =>
    exact ⟨c.compilations_matchCompiled pattern how, cache_run c _ rfl⟩

theorem compilations_run (c : Cursor) (op : Operation) :
    (op.run c).compilations =
      (op.key? c.options.defaultModifiers).toList.filter c.wouldCompile := by
  cases uses : op.key? c.options.defaultModifiers with
  | none => exact (run_no_key uses).1
  | some key =>
    obtain ⟨how, same⟩ := run_key uses
    rw [same]
    exact c.compilations_matchKey key how

theorem keeps_run (c : Cursor) (op : Operation) (k : CacheKey) :
    (op.run c).cursor.cache.keeps k ↔ c.cache.keeps k ∨
      c.options.cachePatterns ∧ k.compiles ∧ op.key? c.options.defaultModifiers = some k := by
  cases uses : op.key? c.options.defaultModifiers with
  | none => simp [(run_no_key uses).2]
  | some key =>
    obtain ⟨how, same⟩ := run_key uses
    rw [same, Option.some_inj, eq_comm (a := key)]
    exact c.keeps_matchKey key k how

theorem keysUsed_cons (defaults : Modifiers) (op : Operation) (rest : List Operation) :
    keysUsed defaults (op :: rest) = (op.key? defaults).toList ++ keysUsed defaults rest := by
  rw [keysUsed, List.filterMap_cons]
  cases op.key? defaults <;> rfl

theorem mem_keysUsed_cons {defaults : Modifiers} {op : Operation} {rest : List Operation}
    {k : CacheKey} :
    k ∈ keysUsed defaults (op :: rest) ↔ op.key? defaults = some k ∨ k ∈ keysUsed defaults rest := by
  rw [keysUsed_cons, List.mem_append, Option.mem_toList]

section
variable {text : Text} {options : CursorOptions}

theorem wouldCompile_run (c : Cursor) (op : Operation) (k : CacheKey) :
    (op.run c).cursor.wouldCompile k ↔ c.wouldCompile k ∧
      ¬ (c.options.cachePatterns ∧ op.key? c.options.defaultModifiers = some k) := by
  simp only [Cursor.wouldCompile_iff, keeps_run]
  tauto

theorem wouldCompile_runCursor (h : c.Coherent text options) (ops : List Operation)
    (k : CacheKey) :
    (runCursor c ops).wouldCompile k ↔ c.wouldCompile k ∧
      ¬ (options.cachePatterns ∧ k ∈ keysUsed options.defaultModifiers ops) := by
  induction ops generalizing c with
  | nil => simp [runCursor, keysUsed]
  | cons op rest ih =>
    have here := wouldCompile_run c op k
    have later := ih (run_coherent h op)
    rw [h.settings] at here
    rw [mem_keysUsed_cons]
    exact later.trans (by tauto)

theorem wouldCompile_ofText (text : Text) (options : CursorOptions) (key : CacheKey) :
    (Cursor.ofText text options).wouldCompile key = key.compiles := Bool.and_true _

theorem compilationsAlong_cons (c : Cursor) (op : Operation) (rest : List Operation) :
    compilationsAlong c (op :: rest) =
      (op.run c).compilations ++ compilationsAlong (op.run c).cursor rest := rfl

theorem compilationsAlong_fresh (h : c.Coherent text options)
    (fresh : options.cachePatterns = false) (ops : List Operation) :
    compilationsAlong c ops =
      (keysUsed options.defaultModifiers ops).filter c.wouldCompile := by
  induction ops generalizing c with
  | nil => rfl
  | cons op rest ih =>
    have after : (op.run c).cursor.wouldCompile = c.wouldCompile := by
      funext k
      rw [Bool.eq_iff_iff, wouldCompile_run, h.settings, fresh]
      simp
    rw [compilationsAlong_cons, compilations_run, h.settings, ih (run_coherent h op), after,
      keysUsed_cons, List.filter_append]

theorem compilationsAlong_caching (h : c.Coherent text options)
    (caching : options.cachePatterns = true) (ops : List Operation) :
    compilationsAlong c ops =
      ((keysUsed options.defaultModifiers ops).filter c.wouldCompile).eraseDups := by
  induction ops generalizing c with
  | nil => rfl
  | cons op rest ih =>
    have once : ((op.key? options.defaultModifiers).toList.filter c.wouldCompile).eraseDups =
        (op.key? options.defaultModifiers).toList.filter c.wouldCompile := by
      cases op.key? options.defaultModifiers with
      | none => rfl
      | some key =>
        rw [Option.toList_some, List.filter_singleton]
        cases c.wouldCompile key <;> rfl
    rw [compilationsAlong_cons, compilations_run, h.settings, ih (run_coherent h op),
      keysUsed_cons, List.filter_append, List.eraseDups_append, once, List.removeAll,
      List.filter_filter]
    -- what is left to compile is what this operation does not compile
    congr 2
    apply List.filter_congr
    intro k _
    rw [Bool.eq_iff_iff, wouldCompile_run, h.settings]
    simp only [caching, true_and, Bool.and_eq_true, Bool.not_eq_true', List.elem_eq_mem,
      decide_eq_false_iff_not, List.mem_filter, Option.mem_toList]
    tauto

end

theorem nodup_eraseDups : ∀ keys : List CacheKey, keys.eraseDups.Nodup
  | [] => List.nodup_nil
  | key :: rest => by
    rw [List.eraseDups_cons, List.nodup_cons]
    refine ⟨?_, nodup_eraseDups _⟩
    intro again
    simpa using List.mem_eraseDups.mp again
termination_by keys => keys.length
decreasing_by exact Nat.lt_succ_of_le (List.length_filter_le _ _)

structure Cursor.CompilesOnce (options : CursorOptions) (past : List Operation) (c : Cursor) :
    Prop where
  /-- A key that is used is compiled if it can be, but, where patterns are kept, only the first
  time. -/
  used : ∀ (op : Operation) key, op.key? options.defaultModifiers = some key →
    (op.run c).compilations =
      if key.compiles ∧ (options.cachePatterns → key ∉ keysUsed options.defaultModifiers past) then
        [key]
      else []
  refused : ∀ (op : Operation) key err, op.key? options.defaultModifiers = some key →
    compilePattern key.source key.modifiers = .error err → (op.run c).result = .failed err
  /-- All else, as resetting or matching a compiled pattern, compiles nothing and leaves the cache
  as it was. -/
  unused : ∀ op : Operation, op.key? options.defaultModifiers = none →
    (op.run c).compilations = [] ∧ (op.run c).cursor.cache = c.cache
  /-- Where patterns are kept, a run compiles what was not used before, each key once. -/
  caching : options.cachePatterns → ∀ later,
    (compilationsAlong c later).Nodup ∧
    compilationsAlong c later = ((keysUsed options.defaultModifiers later).filter fun key =>
      key.compiles ∧ key ∉ keysUsed options.defaultModifiers past).eraseDups
  fresh : options.cachePatterns = false → ∀ later,
    compilationsAlong c later =
      (keysUsed options.defaultModifiers later).filter CacheKey.compiles

theorem run_refused {text : Text} {options : CursorOptions} (h : c.Coherent text options)
    (sound : c.cache.Sound) {err : CursorError}
    (uses : op.key? options.defaultModifiers = some key)
    (refused : compilePattern key.source key.modifiers = .error err) :
    (op.run c).result = .failed err := by
  rw [← h.settings] at uses
  obtain ⟨how, same⟩ := run_key uses
  have missing : c.cache.get? key = none := by
    rw [Option.eq_none_iff_forall_ne_some]
    intro p kept
    have compiled := sound key p (Cache.mem_of_get? kept)
    rw [refused] at compiled
    cases compiled
  rw [same, Cursor.matchKey_refused missing refused]
  rfl

/-- Whatever was done to the cursors of a session, and to what they were cloned from, each key is
compiled once on each of them at most, when it is used first. -/
theorem compiled_once_per_key (text : Text) (options : CursorOptions) (steps : List Session.Step)
    {i : Nat} {c : Cursor}
    (held : ((Session.ofCursor (.ofText text options)).run steps).cursors[i]? = some c) :
    ∃ past, (Session.Account.ofSteps steps).pasts[i]? = some past ∧
      c.CompilesOnce options past := by
  rw [Session.run_eq_session, Session.Account.session, Array.getElem?_map,
    Option.map_eq_some_iff] at held
  obtain ⟨past, done, rfl⟩ := held
  have coherent := runCursor_coherent (Cursor.ofText_coherent text options) past
  have sound := runCursor_sound (c := .ofText text options) Cache.empty_sound past
  have would (key : CacheKey) : (runCursor (.ofText text options) past).wouldCompile key ↔
      key.compiles ∧ (options.cachePatterns → key ∉ keysUsed options.defaultModifiers past) := by
    rw [wouldCompile_runCursor (Cursor.ofText_coherent text options), wouldCompile_ofText, not_and]
  refine ⟨past, done, ?_, ?_, ?_, ?_, ?_⟩
  · intro op key uses
    rw [compilations_run, coherent.settings, uses, Option.toList_some, List.filter_singleton,
      Bool.cond_eq_ite]
    simp only [would]
  · intro op key err uses refused
    exact run_refused coherent sound uses refused
  · intro op unused
    rw [← coherent.settings] at unused
    exact run_no_key unused
  · intro caching later
    rw [compilationsAlong_caching coherent caching]
    refine ⟨nodup_eraseDups _, congrArg List.eraseDups (List.filter_congr fun key _ => ?_)⟩
    rw [Bool.eq_iff_iff, would, decide_eq_true_iff]
    exact and_congr_right fun _ => forall_prop_of_true caching
  · intro fresh later
    rw [compilationsAlong_fresh coherent fresh]
    apply List.filter_congr
    intro key _
    rw [Bool.eq_iff_iff, would, fresh]
    simp

/-- A clone takes over what its original kept, under every spelling of the flags, and a reset does not
touch that; what its original came to keep later, the clone still compiles, once. -/
theorem clone_compiles_new_keys :
    let steps : List Session.Step :=
      [.operate (.matchPattern ['a'] ['i']), .clone, .operate (.matchPattern ['b'] []), .use 1,
        .operate .reset]
    let later : List Operation :=
      [.matchPattern ['a'] ['u', 'i'], .matchPattern ['b'] [], .matchPattern ['b'] []]
    ∃ c, ((Session.ofCursor (.ofText ['A', 'c'] {})).run steps).cursors[1]? = some c ∧
      compilationsAlong c later = [⟨['b'], .none⟩] := by
  intro steps later
  have two : ((Session.ofCursor (.ofText ['A', 'c'] {})).run steps).cursors[1]?.isSome := by
    decide +kernel
  obtain ⟨c, held⟩ := Option.isSome_iff_exists.mp two
  refine ⟨c, held, ?_⟩
  obtain ⟨past, done, once⟩ := compiled_once_per_key ['A', 'c'] {} steps held
  cases done
  rw [(once.caching rfl later).2]
  decide +kernel

end TextCursor
