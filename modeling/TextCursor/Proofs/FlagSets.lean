import TextCursor.Proofs.Compilation
/-!
Flag strings are sets. A string is read if each of its characters is a flag; otherwise the first
that is none is told. What is read sets the flags of the string and no others, and `u` adds nothing.
So a string behind another adds its flags to those of the other. Two strings of the same flags match
under the same key, so that each finds what was kept for the other, and flags that the cursor sets
anyhow make no difference.
-/
namespace TextCursor

namespace Modifiers
variable {m n : Modifiers} {f g : Char} {flags : Text}

def letters : Text := ['i', 'm', 's', 'x', 'U', 'u']

def has (m : Modifiers) : Char → Bool
  | 'i' => m.caseInsensitive
  | 'm' => m.multiLine
  | 's' => m.dotMatchesNewLine
  | 'x' => m.ignoreWhitespace
  | 'U' => m.swapGreed
  | _ => false

theorem has_none (f : Char) : none.has f = false := by
  unfold has
  split <;> rfl

theorem has_union (f : Char) : (m.union n).has f = (m.has f || n.has f) := by
  unfold has
  split <;> rfl

theorem eq_of_has (same : ∀ f, m.has f ↔ n.has f) : m = n := by
  have hi : m.caseInsensitive ↔ n.caseInsensitive := same 'i'
  have hm : m.multiLine ↔ n.multiLine := same 'm'
  have hs : m.dotMatchesNewLine ↔ n.dotMatchesNewLine := same 's'
  have hx : m.ignoreWhitespace ↔ n.ignoreWhitespace := same 'x'
  have hU : m.swapGreed ↔ n.swapGreed := same 'U'
  rw [← Bool.eq_iff_iff] at hi hm hs hx hU
  cases m
  cases n
  simp_all

theorem withFlag?_eq_none_iff : m.withFlag? f = Option.none ↔ f ∉ letters := by
  unfold withFlag?
  split <;> simp_all [letters]

theorem exists_withFlag (m : Modifiers) (flag : f ∈ letters) : ∃ n, m.withFlag? f = some n := by
  rw [← Option.ne_none_iff_exists', Ne, withFlag?_eq_none_iff, not_not]
  exact flag

theorem mem_letters (added : m.withFlag? f = some n) : f ∈ letters := by
  by_contra other
  rw [withFlag?_eq_none_iff.mpr other] at added
  cases added

theorem has_withFlag (added : m.withFlag? f = some n) :
    n.has g ↔ m.has g ∨ g = f ∧ g ≠ 'u' := by
  unfold withFlag? at added
  split at added <;> cases added
  all_goals
    unfold has
    split <;> simp_all

theorem withFlags_append (m : Modifiers) (a b : Text) :
    m.withFlags (a ++ b) = (m.withFlags a).bind fun n => n.withFlags b := by
  induction a generalizing m with
  | nil => rfl
  | cons f rest ih =>
    simp only [List.cons_append, withFlags]
    cases m.withFlag? f with
    | none => rfl
    | some n => exact ih n

theorem withFlags_read (read : m.withFlags flags = .ok n) :
    (∀ f ∈ flags, f ∈ letters) ∧ ∀ g, n.has g ↔ m.has g ∨ g ∈ flags ∧ g ≠ 'u' := by
  induction flags generalizing m with
  | nil =>
    cases read
    simp
  | cons f rest ih =>
    cases added : m.withFlag? f with
    | none =>
      rw [withFlags, added] at read
      cases read
    | some m' =>
      rw [withFlags, added] at read
      obtain ⟨all, set⟩ := ih read
      constructor
      · exact List.forall_mem_cons.mpr ⟨mem_letters added, all⟩
      · intro g
        rw [set, has_withFlag added, List.mem_cons, or_and_right, or_assoc]

theorem exists_withFlags (m : Modifiers) (all : ∀ f ∈ flags, f ∈ letters) :
    ∃ n, m.withFlags flags = .ok n := by
  induction flags generalizing m with
  | nil => exact ⟨m, rfl⟩
  | cons f rest ih =>
    obtain ⟨here, later⟩ := List.forall_mem_cons.mp all
    obtain ⟨m', added⟩ := exists_withFlag m here
    rw [withFlags, added]
    exact ih m' later

theorem withFlags_eq_error_iff : m.withFlags flags = .error f ↔
    ∃ front rest, flags = front ++ f :: rest ∧ (∀ g ∈ front, g ∈ letters) ∧ f ∉ letters := by
  constructor
  · intro failed
    induction flags generalizing m with
    | nil => cases failed
    | cons g rest ih =>
      cases added : m.withFlag? g with
      | none =>
        rw [withFlags, added] at failed
        cases failed
        exact ⟨[], rest, rfl, by simp, withFlag?_eq_none_iff.mp added⟩
      | some m' =>
        rw [withFlags, added] at failed
        obtain ⟨front, rest, rfl, all, other⟩ := ih failed
        exact ⟨g :: front, rest, rfl, List.forall_mem_cons.mpr ⟨mem_letters added, all⟩, other⟩
  · rintro ⟨front, rest, rfl, all, other⟩
    obtain ⟨n, read⟩ := exists_withFlags m all
    rw [withFlags_append, read]
    change n.withFlags (f :: rest) = .error f
    rw [withFlags, withFlag?_eq_none_iff.mpr other]

theorem parse_eq_ok_iff : parse flags = .ok m ↔
    (∀ f ∈ flags, f ∈ letters) ∧ ∀ g, m.has g ↔ g ∈ flags ∧ g ≠ 'u' := by
  have set {n : Modifiers} (read : parse flags = .ok n) (g : Char) :
      n.has g ↔ g ∈ flags ∧ g ≠ 'u' := by
    rw [(withFlags_read read).2 g, has_none, Bool.false_eq_true, false_or]
  constructor
  · intro read
    exact ⟨(withFlags_read read).1, set read⟩
  · rintro ⟨all, same⟩
    obtain ⟨n, read⟩ := exists_withFlags none all
    have equal : n = m := eq_of_has fun g => (set read g).trans (same g).symm
    rw [← equal]
    exact read

theorem withFlags_eq_union (m : Modifiers) (flags : Text) :
    m.withFlags flags = (parse flags).map m.union := by
  cases read : parse flags with
  | error f =>
    have first := withFlags_eq_error_iff.mp read
    exact withFlags_eq_error_iff.mpr first
  | ok n =>
    obtain ⟨all, set⟩ := parse_eq_ok_iff.mp read
    obtain ⟨both, together⟩ := exists_withFlags m all
    have equal : both = m.union n := by
      apply eq_of_has
      intro g
      rw [(withFlags_read together).2 g, has_union, Bool.or_eq_true, set g]
    rw [together, equal]
    rfl

theorem parse_append (a b : Text) : parse (a ++ b) = do
    let m ← parse a
    let n ← parse b
    return m.union n := by
  have behind : parse (a ++ b) = (parse a).bind fun m => m.withFlags b := withFlags_append none a b
  rw [behind]
  cases parse a with
  | error f => rfl
  | ok m => exact withFlags_eq_union m b

end Modifiers

theorem readModifiers_eq_ok_iff {flags : Text} {m : Modifiers} :
    readModifiers flags = .ok m ↔ Modifiers.parse flags = .ok m := by
  unfold readModifiers
  cases Modifiers.parse flags <;> simp [Except.mapError]

theorem readModifiers_eq_error_iff {flags : Text} {e : CursorError} :
    readModifiers flags = .error e ↔
      ∃ f, Modifiers.parse flags = .error f ∧ e = .unknownModifier f := by
  unfold readModifiers
  cases Modifiers.parse flags <;> simp [Except.mapError, eq_comm]

theorem readModifiers_append (a b : Text) : readModifiers (a ++ b) = do
    let m ← readModifiers a
    let n ← readModifiers b
    return m.union n := by
  unfold readModifiers
  rw [Modifiers.parse_append]
  cases Modifiers.parse a with
  | error f => rfl
  | ok m => cases Modifiers.parse b <;> rfl

/-- Two strings of flags that are the same set, but for flags that are set anyhow and for `u`. -/
structure SameFlags (defaults : Modifiers) (a b : Text) : Prop where
  first : ∀ f ∈ a, f ∈ Modifiers.letters
  second : ∀ f ∈ b, f ∈ Modifiers.letters
  same : ∀ f, f ≠ 'u' → defaults.has f = false → (f ∈ a ↔ f ∈ b)

theorem SameFlags.key {defaults : Modifiers} {a b : Text} (h : SameFlags defaults a b)
    (source : Text) : ∃ key, CacheKey.read? defaults source a = some key ∧
      CacheKey.read? defaults source b = some key := by
  obtain ⟨m, readA⟩ := Modifiers.exists_withFlags .none h.first
  obtain ⟨n, readB⟩ := Modifiers.exists_withFlags .none h.second
  have setA := (Modifiers.parse_eq_ok_iff.mp readA).2
  have setB := (Modifiers.parse_eq_ok_iff.mp readB).2
  have equal : m.union defaults = n.union defaults := by
    apply Modifiers.eq_of_has
    intro f
    rw [Modifiers.has_union, Modifiers.has_union, Bool.or_eq_true, Bool.or_eq_true, setA, setB]
    by_cases letter : f = 'u'
    · simp [letter]
    · cases unset : defaults.has f with
      | true => simp
      | false => simp [letter, h.same f letter unset]
  refine ⟨⟨source, m.union defaults⟩, ?_, ?_⟩
  · rw [CacheKey.read?, readModifiers_eq_ok_iff.mpr readA]
  · rw [CacheKey.read?, readModifiers_eq_ok_iff.mpr readB, equal]

theorem Cursor.compilations_again (c : Cursor) (key : CacheKey) (how again : MatchOptions)
    (caching : c.options.cachePatterns = true) :
    ((c.matchKey key how).cursor.matchKey key again).compilations = [] := by
  have kept : ¬ (c.matchKey key how).cursor.wouldCompile key := by
    rw [wouldCompile_iff, keeps_matchKey]
    tauto
  rw [compilations_matchKey, List.filter_eq_nil_iff, List.forall_mem_singleton]
  exact kept

/-- A string of flags adds its flags to those read before it, the first character that is none is
the error, and no more is read of it than the set of its flags. So, whatever happened in a session
before, strings that are the same set, but for `u` and the flags that the cursor sets anyhow, make a
match the same in what it gives, leaves and tells; both match under one key, and what is kept of a
match with the one is found by a match with the other. -/
theorem flag_strings_are_sets :
    (∀ a b, readModifiers (a ++ b) = do
      let m ← readModifiers a
      let n ← readModifiers b
      return m.union n) ∧
    (∀ flags m, readModifiers flags = .ok m ↔
      (∀ f ∈ flags, f ∈ Modifiers.letters) ∧ ∀ f, m.has f ↔ f ∈ flags ∧ f ≠ 'u') ∧
    (∀ flags e, readModifiers flags = .error e ↔ ∃ front f rest, flags = front ++ f :: rest ∧
      (∀ g ∈ front, g ∈ Modifiers.letters) ∧ f ∉ Modifiers.letters ∧ e = .unknownModifier f) ∧
    ∀ text options steps,
      ∀ c ∈ ((Session.ofCursor (.ofText text options)).run steps).cursors,
        ∀ a b, SameFlags options.defaultModifiers a b → ∀ source,
          ∃ key, CacheKey.read? options.defaultModifiers source a = some key ∧
            CacheKey.read? options.defaultModifiers source b = some key ∧
            (∀ how, c.matchWith source a how = c.matchKey key how ∧
              c.matchWith source a how = c.matchWith source b how) ∧
            (options.cachePatterns = true → ∀ how again,
              ((c.matchWith source a how).cursor.matchWith source b again).compilations = []) := by
  refine ⟨readModifiers_append, ?_, ?_, ?_⟩
  · intro flags m
    exact readModifiers_eq_ok_iff.trans Modifiers.parse_eq_ok_iff
  · intro flags e
    rw [readModifiers_eq_error_iff]
    simp only [Modifiers.parse, Modifiers.withFlags_eq_error_iff]
    constructor
    · rintro ⟨f, ⟨front, rest, split, all, other⟩, told⟩
      exact ⟨front, f, rest, split, all, other, told⟩
    · rintro ⟨front, f, rest, split, all, other, told⟩
      exact ⟨f, ⟨front, rest, split, all, other⟩, told⟩
  · intro text options steps c held a b same source
    obtain ⟨before, rfl⟩ := Session.run_reached (.ofText text options) steps c held
    have coherent := runCursor_coherent (Cursor.ofText_coherent text options) before
    obtain ⟨key, readA, readB⟩ := same.key source
    have under {d : Cursor} (h : d.Coherent text options) (how : MatchOptions) :
        d.matchWith source a how = d.matchKey key how ∧
          d.matchWith source b how = d.matchKey key how := by
      rw [← h.settings] at readA readB
      exact ⟨Cursor.matchWith_read readA, Cursor.matchWith_read readB⟩
    refine ⟨key, readA, readB, ?_, ?_⟩
    · intro how
      obtain ⟨first, second⟩ := under coherent how
      exact ⟨first, first.trans second.symm⟩
    · intro caching how again
      have after := Cursor.matchWith_coherent coherent source a how
      rw [← coherent.settings] at caching
      rw [(under after again).2, (under coherent how).1]
      exact Cursor.compilations_again _ key how again caching

/-- `U` is set anyhow. Behind the line feed, a match with the one string of flags compiles the
pattern and finds `B`, and one with the other string does not compile it again. -/
theorem repeated_flags_find_pattern :
    let options : CursorOptions := { defaultModifiers := { Modifiers.none with swapGreed := true } }
    let s := (Session.ofCursor (.ofText ['\n', 'B'] options)).run
      [.operate (.consumeWith 1 0), .clone, .use 1]
    let a : Text := ['m', 'i']
    let b : Text := ['i', 'U', 'm', 'u', 'i']
    SameFlags options.defaultModifiers a b ∧ options.cachePatterns = true ∧
      ∃ c ∈ s.cursors, (c.matchWith ['^', 'b'] a {}).compilations.length = 1 ∧
        c.matchWith ['^', 'b'] a {} = c.matchWith ['^', 'b'] b {} ∧
        ((c.matchWith ['^', 'b'] a {}).cursor.matchWith ['^', 'b'] b {}).compilations = [] := by
  intro options s a b
  have same : SameFlags options.defaultModifiers a b := by
    constructor
    · simp [a, Modifiers.letters]
    · simp [b, Modifiers.letters]
    · intro f letter unset
      by_cases swaps : f = 'U'
      · rw [swaps] at unset
        cases unset
      · simp only [a, b, List.mem_cons, List.not_mem_nil]
        tauto
  have compiled : s.cursor?.map (fun c => (c.matchWith ['^', 'b'] a {}).compilations.length) =
      some 1 := by decide +kernel
  obtain ⟨c, used, once⟩ := Option.map_eq_some_iff.mp compiled
  have held : c ∈ s.cursors := Session.mem_cursor? used
  obtain ⟨_, _, _, alike, found⟩ :=
    flag_strings_are_sets.2.2.2 _ _ _ c held a b same ['^', 'b']
  exact ⟨same, rfl, c, held, once, (alike {}).2, found rfl {} {}⟩

end TextCursor
