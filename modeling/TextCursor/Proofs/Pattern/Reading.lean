import TextCursor.Proofs.Pattern.Levels
import TextCursor.Proofs.Pattern.Normal
import TextCursor.Proofs.Pattern.PrintedCount
import TextCursor.Proofs.Pattern.Reread
/-!
How texts are read inside a longer pattern, as laws for parts, operators, groups and branches. What a
text means does not depend on what was read before it, but for the number of capture groups, and
hardly on what follows: `Reads` states the condition on that. All patterns are read without
modifiers, so white space counts and no greed is swapped.
-/
namespace TextCursor.Pattern

def Leads (s s' : State) : Prop :=
  ∃ steps, s'.reader.rest.length + steps ≤ s.reader.rest.length ∧
    ∀ fuel, runFuel (fuel + steps) s = runFuel fuel s'

theorem Leads.refl (s : State) : Leads s s := ⟨0, Nat.le_refl _, fun _ => rfl⟩

theorem Leads.trans {s s' s'' : State} (h : Leads s s') (h' : Leads s' s'') : Leads s s'' := by
  obtain ⟨n, shorter, run⟩ := h
  obtain ⟨m, shorter', run'⟩ := h'
  refine ⟨m + n, by omega, ?_⟩
  intro fuel
  rw [← Nat.add_assoc, run, run']

theorem step_leads {s s' : State} (plain : s.verbose = false) (stepped : step s = .ok s')
    (shorter : s'.reader.rest.length < s.reader.rest.length) : Leads s s' := by
  refine ⟨1, by omega, ?_⟩
  intro fuel
  have same : s.reader.skipBlanks s.verbose = s.reader := by
    rw [plain]
    rfl
  have more : s.reader.atEnd = false := by
    cases text : s.reader.rest with
    | nil => simp [text] at shorter
    | cons c rest => simp [Reader.atEnd, text]
  rw [runFuel]
  simp [same, more, stepped, bind, Except.bind]

structure Flags.Settled (flags : Flags) : Prop where
  greed : flags.swapGreed = false
  case : flags.caseInsensitive = false

def Fresh (names : List (Text × Span)) (groups : List (Option Text)) : Prop :=
  (names.map (·.1) ++ groups.filterMap id).Nodup

theorem Fresh.split {names : List (Text × Span)} {groups groups' : List (Option Text)}
    (h : Fresh names (groups ++ groups')) :
    Fresh names groups ∧ ∀ new : List (Text × Span), new.map (·.1) = groups.filterMap id →
      Fresh (names ++ new) groups' := by
  unfold Fresh at *
  rw [List.filterMap_append, ← List.append_assoc] at h
  refine ⟨(List.nodup_append.mp h).1, ?_⟩
  intro new named
  rw [List.map_append, named]
  exact h

/-- What may follow a part: no repetition operator that is written with braces or may be a mark. -/
def Follows (rest : Text) : Prop := rest.head? ≠ some '?' ∧ rest.head? ≠ some '\x7b'

/-- What may follow an atom: a brace must open bounds, lest it names a word boundary. -/
def Bounds (rest : Text) : Prop :=
  ∀ more, rest = '\x7b' :: more → more.head?.any Char.isDigit = true

theorem Follows.bounds {rest : Text} (h : Follows rest) : Bounds rest := by
  rintro more rfl
  exact absurd rfl h.2

def State.plain (frames : List Frame) (parts : Parts) (captures : Nat)
    (names : List (Text × Span)) (rest : Text) (place : Location) : State :=
  ⟨false, ⟨rest, place⟩, frames, parts, captures, names⟩

/-- Reading `text` adds one part of so many levels that means `tree`, given what may follow; `groups`
are the names of the capture groups that open meanwhile. -/
def Reads (next : Text → Prop) (flags : Flags) (text : Text) (groups : List (Option Text))
    (tree : Nat → Tree) (levels : Nat) : Prop :=
  ∀ frames parts captures names rest place, next rest → Fresh names groups →
    ∃ a new place', a.Repeatable ∧ a.lower flags = .ok (tree captures, flags) ∧
      a.levels = levels ∧ new.map (·.1) = groups.filterMap id ∧
      Leads (.plain frames parts captures names (text ++ rest) place)
        (.plain frames (parts.push a) (captures + groups.length) (names ++ new) rest place')

theorem Reads.mono {next next' : Text → Prop} {flags : Flags} {text : Text}
    {groups : List (Option Text)} {tree : Nat → Tree} {levels : Nat}
    (h : Reads next flags text groups tree levels) (weaker : ∀ rest, next' rest → next rest) :
    Reads next' flags text groups tree levels :=
  fun frames parts captures names rest place follows fresh =>
    h frames parts captures names rest place (weaker rest follows) fresh

theorem reads_of_step {next : Text → Prop} {flags : Flags} {text : Text} {tree : Tree}
    {levels : Nat} (nonempty : text ≠ [])
    (h : ∀ frames parts captures names rest place, next rest → ∃ a place', a.Repeatable ∧
      a.lower flags = .ok (tree, flags) ∧ a.levels = levels ∧
      step (.plain frames parts captures names (text ++ rest) place) =
        .ok (.plain frames (parts.push a) captures names rest place')) :
    Reads next flags text [] (fun _ => tree) levels := by
  intro frames parts captures names rest place follows _
  obtain ⟨a, place', repeatable, lowered, deep, stepped⟩ :=
    h frames parts captures names rest place follows
  refine ⟨a, [], place', repeatable, lowered, deep, rfl, ?_⟩
  have shorter : rest.length < (text ++ rest).length := by
    have := List.length_pos_iff.mpr nonempty
    simp only [List.length_append]
    omega
  rw [List.append_nil]
  exact step_leads rfl stepped shorter

theorem countBody_head (c : Count) : (countBody c).head?.any Char.isDigit = true := by
  have first (n : Nat) (rest : Text) : (digits n ++ rest).head?.any Char.isDigit = true := by
    obtain ⟨d, more, same⟩ := List.exists_cons_of_ne_nil (digits_ne_nil n)
    simpa [same] using digits_isDigit n d (by simp [same])
  unfold countBody
  split
  · exact first _ _
  · split
    · simpa using first _ []
    · exact first _ _

theorem sign_head (count : Count) (rest : Text) :
    Bounds (count.print ++ rest) ∧
      ((count.print ++ rest).head? = some '?' ↔ count = .option) := by
  rcases countPrint_cases count with ⟨sign, rfl⟩ | ⟨sign, rfl⟩ | ⟨sign, rfl⟩ | sign
  · exact ⟨by simp [sign, Bounds], by simp [sign, Count.option]⟩
  · exact ⟨by simp [sign, Bounds], by simp [sign, Count.option]⟩
  · exact ⟨by simp [sign, Bounds], by simp [sign, Count.option]⟩
  · constructor
    · intro more same
      simp only [sign, List.cons_append, List.cons.injEq, true_and] at same
      have := countBody_head count
      cases body : countBody count with
      | nil => simp [body] at this
      | cons d rest =>
        rw [body] at same this
        simpa [← same] using this
    · simp only [sign, List.cons_append, List.head?_cons]
      constructor
      · intro same
        cases same
      · rintro rfl
        cases sign

theorem signs_bounds (signs : List Count) {rest : Text} (follows : Follows rest) :
    Bounds (signs.flatMap Count.print ++ rest) := by
  cases signs with
  | nil => exact follows.bounds
  | cons count more =>
    rw [List.flatMap_cons, List.append_assoc]
    exact (sign_head count _).1

theorem repetition_lower {flags : Flags} (settled : flags.Settled) {a : Ast} {t : Tree}
    (lowered : a.lower flags = .ok (t, flags)) (span : Span) (count : Count) (greedy : Bool) :
    (Ast.repetition span count greedy a).lower flags = .ok (.repeated count greedy t, flags) := by
  simp [Ast.lower, lowered, bind, Except.bind, settled.greed]

theorem sign_leads (frames : List Frame) (before : Parts) (captures : Nat)
    (names : List (Text × Span)) {a : Ast} {count : Count} (repeatable : a.Repeatable)
    (bounded : count.Bounded) (rest : Text) (place : Location) :
    ∃ span place', Leads
      (.plain frames (before.push a) captures names (count.print ++ rest) place)
      (.plain frames (before.push (.repetition span count (rest.head? != some '?') a)) captures
        names (behindMark rest) place') := by
  obtain ⟨span, place', stepped⟩ :=
    sign_step frames before captures names repeatable bounded rest place
  refine ⟨span, place', step_leads rfl stepped ?_⟩
  have taken : (behindMark rest).length ≤ rest.length := by
    unfold behindMark
    split <;> simp
  have some : count.print.length ≠ 0 := by
    rcases countPrint_cases count with ⟨sign, _⟩ | ⟨sign, _⟩ | ⟨sign, _⟩ | sign <;> simp [sign]
  simp only [State.plain, List.length_append]
  omega

theorem signs_lead {flags : Flags} (settled : flags.Settled) (frames : List Frame)
    (before : Parts) (captures : Nat) (names : List (Text × Span)) {rest : Text}
    (follows : Follows rest) (signs : List Count) (bounded : ∀ c ∈ signs, c.Bounded)
    {a : Ast} {t : Tree} (repeatable : a.Repeatable) (lowered : a.lower flags = .ok (t, flags))
    (place : Location) :
    ∃ a' place', a'.Repeatable ∧ a'.lower flags = .ok (t.under signs, flags) ∧
      a'.levels = a.levels + (operators signs).length ∧
      Leads (.plain frames (before.push a) captures names
          (signs.flatMap Count.print ++ rest) place)
        (.plain frames (before.push a') captures names rest place') := by
  induction signs using operators.induct generalizing a t place with
  | case1 => exact ⟨a, place, repeatable, lowered, rfl, Leads.refl _⟩
  | case2 count =>
    obtain ⟨span, place', leads⟩ :=
      sign_leads frames before captures names repeatable (bounded count (by simp)) rest place
    have unmarked : behindMark rest = rest := if_neg follows.1
    have greedy : (rest.head? != some '?') = true := by simpa using follows.1
    rw [unmarked, greedy] at leads
    have lowered' := repetition_lower settled lowered span count true
    have again : (Ast.repetition span count true a).Repeatable := trivial
    exact ⟨_, place', again, by simpa [Tree.under, operators] using lowered', rfl,
      by simpa using leads⟩
  | case3 count more ih =>
    obtain ⟨span, middle, leads⟩ :=
      sign_leads frames before captures names repeatable (bounded count (by simp))
        ('?' :: (more.flatMap Count.print ++ rest)) place
    have lowered' := repetition_lower settled lowered span count false
    have again : (Ast.repetition span count false a).Repeatable := trivial
    obtain ⟨a', place', repeatable', meant, deep, leads'⟩ :=
      ih (fun c mem => bounded c (by simp [mem])) again lowered' middle
    refine ⟨a', place', repeatable', by simpa [Tree.under, operators] using meant, ?_, ?_⟩
    · simp only [deep, Ast.levels, operators, ↓reduceIte, List.length_cons]
      omega
    · have mark : Count.option.print = ['?'] := rfl
      simpa [mark] using leads.trans leads'
  | case4 count next more other ih =>
    obtain ⟨span, middle, leads⟩ :=
      sign_leads frames before captures names repeatable (bounded count (by simp))
        ((next :: more).flatMap Count.print ++ rest) place
    have head : ((next :: more).flatMap Count.print ++ rest).head? ≠ some '?' := by
      rw [List.flatMap_cons, List.append_assoc]
      exact fun mark => other ((sign_head next _).2.mp mark)
    have unmarked : behindMark ((next :: more).flatMap Count.print ++ rest) =
        (next :: more).flatMap Count.print ++ rest := if_neg head
    have greedy : (((next :: more).flatMap Count.print ++ rest).head? != some '?') = true := by
      simpa using head
    rw [unmarked, greedy] at leads
    have lowered' := repetition_lower settled lowered span count true
    have again : (Ast.repetition span count true a).Repeatable := trivial
    obtain ⟨a', place', repeatable', meant, deep, leads'⟩ :=
      ih (fun c mem => bounded c (List.mem_cons_of_mem _ mem)) again lowered' middle
    refine ⟨a', place', repeatable', by simpa [Tree.under, operators, other] using meant, ?_, ?_⟩
    · simp only [deep, Ast.levels, operators, other, ↓reduceIte, List.length_cons]
      omega
    · rw [List.flatMap_cons, List.append_assoc]
      exact leads.trans leads'

theorem reads_under {flags : Flags} (settled : flags.Settled) {text : Text}
    {groups : List (Option Text)} {tree : Nat → Tree} {levels : Nat}
    (h : Reads Bounds flags text groups tree levels) (signs : List Count)
    (bounded : ∀ c ∈ signs, c.Bounded) :
    Reads Follows flags (text ++ signs.flatMap Count.print) groups
      (fun n => (tree n).under signs) (levels + (operators signs).length) := by
  intro frames parts captures names rest place follows fresh
  obtain ⟨a, new, middle, repeatable, lowered, deep, named, leads⟩ :=
    h frames parts captures names _ place (signs_bounds signs follows) fresh
  obtain ⟨a', place', repeatable', lowered', deep', leads'⟩ :=
    signs_lead settled frames parts (captures + groups.length) (names ++ new) follows signs bounded
      repeatable lowered middle
  refine ⟨a', new, place', repeatable', lowered', by rw [deep', deep], named, ?_⟩
  rw [List.append_assoc]
  exact leads.trans leads'

def ReadsAll (flags : Flags) (text : Text) (groups : List (Option Text))
    (trees : Nat → List Tree) (levels : Nat) : Prop :=
  ∀ frames start items captures names rest place, Follows rest → Fresh names groups →
    ∃ as new place', Ast.lowerAll flags as = .ok (trees captures, flags) ∧
      as.length = (trees captures).length ∧ Ast.levelsAll as = levels ∧
      new.map (·.1) = groups.filterMap id ∧
      Leads (.plain frames ⟨start, items⟩ captures names (text ++ rest) place)
        (.plain frames ⟨start, items ++ as⟩ (captures + groups.length) (names ++ new) rest place')

theorem readsAll_nil (flags : Flags) : ReadsAll flags [] [] (fun _ => []) 0 := by
  intro frames start items captures names rest place _ _
  exact ⟨[], [], place, rfl, rfl, rfl, rfl, by simpa using Leads.refl _⟩

def Starts (text : Text) : Prop := ∀ rest, Follows rest → Follows (text ++ rest)

theorem readsAll_cons {flags : Flags} {text text' : Text} {groups groups' : List (Option Text)}
    {tree : Nat → Tree} {trees : Nat → List Tree} {levels levels' : Nat}
    (first : Reads Follows flags text groups tree levels)
    (others : ReadsAll flags text' groups' trees levels') (starts : Starts text') :
    ReadsAll flags (text ++ text') (groups ++ groups')
      (fun n => tree n :: trees (n + groups.length)) (max levels levels') := by
  intro frames start items captures names rest place follows fresh
  obtain ⟨fresh₁, fresh₂⟩ := fresh.split
  obtain ⟨a, new, middle, _, lowered, deep, named, leads⟩ :=
    first frames ⟨start, items⟩ captures names _ place (starts rest follows) fresh₁
  obtain ⟨as, new', place', lowered', length, deep', named', leads'⟩ :=
    others frames start (items ++ [a]) (captures + groups.length) (names ++ new) rest middle
      follows (fresh₂ new named)
  refine ⟨a :: as, new ++ new', place', ?_, by simp [length], by rw [Ast.levelsAll, deep, deep'],
    by simp [named, named'], ?_⟩
  · simp [Ast.lowerAll, lowered, lowered', bind, Except.bind]
  · simpa [Nat.add_assoc] using leads.trans leads'

def Closed (frames : List Frame) : Prop :=
  ∀ start branches more, frames ≠ .alternation start branches :: more

theorem closeBranches_closed {frames : List Frame} (closed : Closed frames) (parts : Parts)
    (stop : Location) : closeBranches frames parts stop = (parts.toAst stop, frames) := by
  unfold closeBranches
  split
  · rename_i start branches more
    exact absurd rfl (closed start branches more)
  · rfl

def Ends (rest : Text) : Prop := rest = [] ∨ ∃ more, rest = ')' :: more

theorem Ends.follows {rest : Text} (h : Ends rest) : Follows rest := by
  rcases h with rfl | ⟨more, rfl⟩ <;> exact ⟨by simp, by simp⟩

def ReadsInside (flags : Flags) (text : Text) (groups : List (Option Text))
    (tree : Nat → Tree) (levels : Nat) : Prop :=
  ∀ frames start captures names rest place, Closed frames → Ends rest → Fresh names groups →
    ∃ frames' parts new place', (∀ stop, ∃ a, closeBranches frames' parts stop = (a, frames) ∧
        a.levels = levels ∧ ∃ flags', a.lower flags = .ok (tree captures, flags')) ∧
      new.map (·.1) = groups.filterMap id ∧
      Leads (.plain frames ⟨start, []⟩ captures names (text ++ rest) place)
        (.plain frames' parts (captures + groups.length) (names ++ new) rest place')

theorem inside_empty (flags : Flags) : ReadsInside flags [] [] (fun _ => .empty) 0 := by
  intro frames start captures names rest place closed _ _
  refine ⟨frames, ⟨start, []⟩, [], place, ?_, rfl, by simpa using Leads.refl _⟩
  intro stop
  exact ⟨_, closeBranches_closed closed _ stop, rfl, flags, rfl⟩

theorem inside_one {flags : Flags} {text : Text} {groups : List (Option Text)}
    {tree : Nat → Tree} {levels : Nat} (h : Reads Follows flags text groups tree levels) :
    ReadsInside flags text groups tree levels := by
  intro frames start captures names rest place closed ends fresh
  obtain ⟨a, new, place', _, lowered, deep, named, leads⟩ :=
    h frames ⟨start, []⟩ captures names rest place ends.follows fresh
  refine ⟨frames, _, new, place', ?_, named, leads⟩
  intro stop
  exact ⟨_, closeBranches_closed closed _ stop, deep, flags, lowered⟩

theorem inside_all {flags : Flags} {text : Text} {groups : List (Option Text)}
    {trees : Nat → List Tree} {levels : Nat} (h : ReadsAll flags text groups trees levels)
    (several : ∀ n, 2 ≤ (trees n).length) :
    ReadsInside flags text groups (fun n => .concatenation (trees n)) (levels + 1) := by
  intro frames start captures names rest place closed ends fresh
  obtain ⟨as, new, place', lowered, length, deep, named, leads⟩ :=
    h frames start [] captures names rest place ends.follows fresh
  refine ⟨frames, _, new, place', ?_, named, leads⟩
  intro stop
  match as, length with
  | [], length =>
    have := several captures
    simp at length
    omega
  | [_], length =>
    have := several captures
    simp at length
    omega
  | a :: b :: more, _ =>
    refine ⟨_, closeBranches_closed closed _ stop, congrArg (· + 1) deep, flags, ?_⟩
    simp [Parts.toAst, Ast.lower, lowered, bind, Except.bind]

def Tree.groups (t : Tree) : List (Option Text) := t.captures.map (·.2)

def Tree.groupsAll (ts : List Tree) : List (Option Text) := (Tree.capturesAll ts).map (·.2)

theorem Tree.groupsAll_cons (t : Tree) (rest : List Tree) :
    groupsAll (t :: rest) = t.groups ++ groupsAll rest := by
  simp [groupsAll, groups, capturesAll]

theorem Tree.groups_length (t : Tree) : t.groups.length = t.captures.length := by
  simp [groups]

theorem Tree.rereadAll_cons (n : Nat) (t : Tree) (rest : List Tree) :
    rereadAll n (t :: rest) = t.reread n [] :: rereadAll (n + t.groups.length) rest := by
  rw [rereadAll, groups_length]

def ReadsBack (flags : Flags) (t : Tree) : Prop :=
  Reads Follows flags t.print t.groups (fun n => t.reread n []) (t.levels [])

theorem lowerAll_append {flags flags' flags'' : Flags} {as bs : List Ast} {ts us : List Tree}
    (h : Ast.lowerAll flags as = .ok (ts, flags'))
    (h' : Ast.lowerAll flags' bs = .ok (us, flags'')) :
    Ast.lowerAll flags (as ++ bs) = .ok (ts ++ us, flags'') := by
  induction as generalizing flags ts with
  | nil =>
    cases h
    exact h'
  | cons a rest ih =>
    simp only [Ast.lowerAll, bind_ok, Prod.exists] at h
    obtain ⟨t, between, here, others, last, there, made⟩ := h
    cases made
    simp [Ast.lowerAll, here, ih there, bind, Except.bind]

def withBranch (start : Location) (a : Ast) : List Frame → List Frame
  | .alternation first branches :: more => .alternation first (branches ++ [a]) :: more
  | frames => .alternation start [a] :: frames

theorem withBranch_closed {frames : List Frame} (closed : Closed frames) (start : Location)
    (a : Ast) : withBranch start a frames = .alternation start [a] :: frames := by
  unfold withBranch
  split
  · rename_i first branches more
    exact absurd rfl (closed first branches more)
  · rfl

theorem bar_leads (frames : List Frame) (start : Location) (a : Ast) (captures : Nat)
    (names : List (Text × Span)) (rest : Text) (place : Location) :
    ∃ place', Leads (.plain frames ⟨start, [a]⟩ captures names ('|' :: rest) place)
      (.plain (withBranch start a frames) ⟨place', []⟩ captures names rest place') := by
  have stepped : step (.plain frames ⟨start, [a]⟩ captures names ('|' :: rest) place) =
      .ok (.plain (withBranch start a frames) ⟨place.next '|', []⟩ captures names rest
        (place.next '|')) := by
    cases frames with
    | nil => rfl
    | cons frame more => cases frame <;> rfl
  exact ⟨place.next '|', step_leads rfl stepped (by simp [State.plain])⟩

theorem branches_lead {flags : Flags} (outer : List Frame) (first : Location) {rest : Text}
    (ends : Ends rest) (t : Tree) (ts : List Tree) (each : ∀ u ∈ t :: ts, ReadsBack flags u)
    (before : List Ast) (start : Location) (captures : Nat) (names : List (Text × Span))
    (place : Location) (fresh : Fresh names (Tree.groupsAll (t :: ts))) :
    ∃ between last start' new place',
      Ast.lowerAll flags (between ++ [last]) = .ok (Tree.rereadAll captures (t :: ts), flags) ∧
      Ast.levelsAll (between ++ [last]) = Tree.levelsAll (t :: ts) ∧
      new.map (·.1) = (Tree.groupsAll (t :: ts)).filterMap id ∧
      Leads (.plain (.alternation first before :: outer) ⟨start, []⟩ captures names
          (Tree.printBranches (t :: ts) ++ rest) place)
        (.plain (.alternation first (before ++ between) :: outer) ⟨start', [last]⟩
          (captures + (Tree.groupsAll (t :: ts)).length) (names ++ new) rest place') := by
  obtain ⟨here, later⟩ := List.forall_mem_cons.mp each
  induction ts generalizing t before start captures names place with
  | nil =>
    have same : Tree.groupsAll [t] = t.groups := by
      simp [Tree.groupsAll, Tree.groups, Tree.capturesAll]
    rw [same] at fresh ⊢
    obtain ⟨a, new, place', _, lowered, deep, named, leads⟩ :=
      here (.alternation first before :: outer) ⟨start, []⟩ captures names rest place ends.follows
        fresh
    refine ⟨[], a, start, new, place', ?_, ?_, named, ?_⟩
    · simp [Ast.lowerAll, lowered, Tree.rereadAll, bind, Except.bind]
    · simp [Ast.levelsAll, Tree.levelsAll, deep]
    · simpa [Tree.printBranches, Parts.push] using leads
  | cons u us ih =>
    obtain ⟨next, others⟩ := List.forall_mem_cons.mp later
    rw [Tree.groupsAll_cons] at fresh ⊢
    obtain ⟨fresh₁, fresh₂⟩ := fresh.split
    have bar : Follows ('|' :: (Tree.printBranches (u :: us) ++ rest)) := ⟨by simp, by simp⟩
    obtain ⟨a, new, middle, _, lowered, deep, named, leads⟩ :=
      here (.alternation first before :: outer) ⟨start, []⟩ captures names _ place bar fresh₁
    obtain ⟨place₁, barred⟩ := bar_leads (.alternation first before :: outer) start a
      (captures + t.groups.length) (names ++ new) (Tree.printBranches (u :: us) ++ rest) middle
    obtain ⟨between, last, start', new', place', lowered', deep', named', leads'⟩ :=
      ih u later (before ++ [a]) place₁ (captures + t.groups.length) (names ++ new) place₁
        (fresh₂ new named) next others
    refine ⟨a :: between, last, start', new ++ new', place', ?_, ?_, by simp [named, named'], ?_⟩
    · simp [Ast.lowerAll, lowered, lowered', bind, Except.bind, Tree.rereadAll_cons captures t]
    · rw [List.cons_append, Ast.levelsAll, deep, deep']
      rfl
    · have all := (leads.trans barred).trans leads'
      simpa [Tree.printBranches, Nat.add_assoc] using all

theorem inside_branches {flags : Flags} {ts : List Tree} (several : 2 ≤ ts.length)
    (each : ∀ t ∈ ts, ReadsBack flags t) :
    ReadsInside flags (Tree.printBranches ts) (Tree.groupsAll ts)
      (fun n => .anyOf (Tree.rereadAll n ts)) (Tree.levelsAll ts + 1) := by
  match ts, several with
  | t :: u :: us, _ =>
    intro frames start captures names rest place closed ends fresh
    obtain ⟨here, later⟩ := List.forall_mem_cons.mp each
    rw [Tree.groupsAll_cons] at fresh ⊢
    obtain ⟨fresh₁, fresh₂⟩ := fresh.split
    have bar : Follows ('|' :: (Tree.printBranches (u :: us) ++ rest)) := ⟨by simp, by simp⟩
    obtain ⟨a, new, middle, _, lowered, deep, named, leads⟩ :=
      here frames ⟨start, []⟩ captures names _ place bar fresh₁
    obtain ⟨place₁, barred⟩ := bar_leads frames start a (captures + t.groups.length)
      (names ++ new) (Tree.printBranches (u :: us) ++ rest) middle
    rw [withBranch_closed closed] at barred
    obtain ⟨between, last, start', new', place', lowered', deep', named', leads'⟩ :=
      branches_lead frames start ends u us later [a] place₁ (captures + t.groups.length)
        (names ++ new) place₁ (fresh₂ new named)
    refine ⟨.alternation start ([a] ++ between) :: frames, ⟨start', [last]⟩, new ++ new', place', ?_,
      by simp [named, named'], ?_⟩
    · intro stop
      refine ⟨_, rfl, ?_, flags, ?_⟩
      · have all : Ast.levelsAll ([a] ++ between ++ [last]) = Tree.levelsAll (t :: u :: us) := by
          rw [List.append_assoc, List.singleton_append, Ast.levelsAll, deep, deep']
          rfl
        exact congrArg (· + 1) all
      have one : Ast.lowerAll flags [a] = .ok ([t.reread captures []], flags) := by
        simp [Ast.lowerAll, lowered, bind, Except.bind]
      have whole := lowerAll_append one lowered'
      rw [← List.append_assoc] at whole
      simp only [Ast.lower, Parts.toAst, whole, bind, Except.bind, Tree.rereadAll_cons captures t]
      rfl
    · have all := (leads.trans barred).trans leads'
      simpa [Tree.printBranches, Nat.add_assoc] using all

theorem close_leads {frames frames' : List Frame} {outer parts : Parts} {opening : Span}
    {kind : GroupKind} {a : Ast} (captures : Nat) (names : List (Text × Span)) (rest : Text)
    (place : Location)
    (closed : closeBranches frames' parts place = (a, .group outer opening kind false :: frames)) :
    ∃ span place', Leads (.plain frames' parts captures names (')' :: rest) place)
      (.plain frames (outer.push (.group span kind a)) captures names rest place') := by
  refine ⟨⟨opening.start, place.next ')'⟩, place.next ')', step_leads rfl ?_ (by simp [State.plain])⟩
  have stepped : step (.plain frames' parts captures names (')' :: rest) place) =
      closeGroup (.plain frames' parts captures names (')' :: rest) place) := rfl
  rw [stepped]
  simp only [closeGroup, State.plain, closed]
  rfl

/-- Reading `opening` opens a group of some kind, in which the flags `inner` hold; `wrap` is what the
group makes of the tree inside, and `fits` what may stand there. -/
structure Opens (flags inner : Flags) (opening : Text) (groups : List (Option Text))
    (kind : Nat → GroupKind) (wrap : Nat → Tree → Tree) (fits : Text → Prop) : Prop where
  nonempty : opening ≠ []
  opened : ∀ frames parts captures names rest place, Fresh names groups → fits rest →
    ∃ span new place', new.map (·.1) = groups.filterMap id ∧
      step (.plain frames parts captures names (opening ++ rest) place) =
        .ok (.plain (.group parts span (kind captures) false :: frames) ⟨place', []⟩
          (captures + groups.length) (names ++ new) rest place')
  lowered : ∀ captures span a t flags', a.lower inner = .ok (t, flags') →
    (Ast.group span (kind captures) a).lower flags = .ok (wrap captures t, flags)

theorem reads_group {flags inner : Flags} {opening text : Text} {groups groups' : List (Option Text)}
    {kind : Nat → GroupKind} {wrap : Nat → Tree → Tree} {fits : Text → Prop} {tree : Nat → Tree}
    (opens : Opens flags inner opening groups kind wrap fits)
    {levels : Nat} (inside : ReadsInside inner text groups' tree levels)
    (fit : ∀ rest, fits (text ++ ')' :: rest)) :
    Reads Bounds flags (opening ++ text ++ [')']) (groups ++ groups')
      (fun n => wrap n (tree (n + groups.length))) (levels + 1) := by
  intro frames parts captures names rest place _ fresh
  obtain ⟨fresh₁, fresh₂⟩ := fresh.split
  obtain ⟨span, new, place₁, named, stepped⟩ :=
    opens.opened frames parts captures names _ place fresh₁ (fit rest)
  have closed : Closed (.group parts span (kind captures) false :: frames) := by
    intro start branches more same
    cases same
  obtain ⟨frames', parts', new', place₂, meant, named', leads⟩ :=
    inside _ place₁ _ _ (')' :: rest) place₁ closed (Or.inr ⟨rest, rfl⟩) (fresh₂ new named)
  obtain ⟨a, whole, deep, flags', lowered⟩ := meant place₂
  obtain ⟨span', place', leads'⟩ :=
    close_leads (captures + groups.length + groups'.length) (names ++ new ++ new') rest place₂ whole
  refine ⟨.group span' (kind captures) a, new ++ new', place', trivial,
    opens.lowered captures span' a _ flags' lowered, congrArg (· + 1) deep,
    by simp [named, named'], ?_⟩
  have entered := step_leads (s := .plain frames parts captures names
    (opening ++ (text ++ ')' :: rest)) place) rfl stepped (by
      have := List.length_pos_iff.mpr opens.nonempty
      simp only [State.plain, List.length_append]
      omega)
  simpa [Nat.add_assoc] using (entered.trans leads).trans leads'

theorem plain_opens {flags : Flags} (opening : Text) (items : List FlagItem)
    (nonempty : opening ≠ [])
    (opened : ∀ frames parts captures names rest place, ∃ span place',
      step (.plain frames parts captures names (opening ++ rest) place) =
        .ok (.plain (.group parts span (.plain items) false :: frames) ⟨place', []⟩ captures names
          rest place')) :
    Opens flags (flags.applyAll items) opening [] (fun _ => .plain items) (fun _ t => t)
      fun _ => True where
  nonempty := nonempty
  opened := by
    intro frames parts captures names rest place _ _
    obtain ⟨span, place', stepped⟩ := opened frames parts captures names rest place
    exact ⟨span, [], place', rfl, by rw [stepped, List.append_nil]; rfl⟩
  lowered := by
    intro captures span a t flags' lowered
    simp [Ast.lower, lowered, bind, Except.bind]

theorem parenthesis_opens (flags : Flags) :
    Opens flags flags ['(', '?', ':'] [] (fun _ => .plain []) (fun _ t => t) fun _ => True :=
  plain_opens _ [] (by simp) fun _ _ _ _ _ _ => ⟨_, _, rfl⟩

theorem bytes_opens (flags : Flags) :
    Opens flags { flags with unicode := false } ['(', '?', '-', 'u', ':'] []
      (fun _ => .plain [⟨.unicode, false⟩]) (fun _ t => t) fun _ => True :=
  plain_opens _ [⟨.unicode, false⟩] (by simp) fun _ _ _ _ _ _ => ⟨_, _, rfl⟩

theorem lines_opens (flags : Flags) :
    Opens flags { flags with multiLine := true } ['(', '?', 'm', ':'] []
      (fun _ => .plain [⟨.multiLine, true⟩]) (fun _ t => t) fun _ => True :=
  plain_opens _ [⟨.multiLine, true⟩] (by simp) fun _ _ _ _ _ _ => ⟨_, _, rfl⟩

theorem crlf_opens (flags : Flags) :
    Opens flags { flags with multiLine := true, crlf := true } ['(', '?', 'm', 'R', ':'] []
      (fun _ => .plain [⟨.multiLine, true⟩, ⟨.crlf, true⟩]) (fun _ t => t) fun _ => True :=
  plain_opens _ [⟨.multiLine, true⟩, ⟨.crlf, true⟩] (by simp) fun _ _ _ _ _ _ => ⟨_, _, rfl⟩

theorem capture_lower {flags flags' : Flags} {a : Ast} {t : Tree} (lowered : a.lower flags = .ok (t, flags'))
    (span : Span) (index : Nat) (name : Option Text) :
    (Ast.group span (.capture index name) a).lower flags = .ok (.capture index name t, flags) := by
  simp [Ast.lower, lowered, bind, Except.bind]

theorem capture_opens (flags : Flags) :
    Opens flags flags ['('] [none] (fun n => .capture (n + 1) none)
      (fun n t => .capture (n + 1) none t) fun rest => rest.head? ≠ some '?' where
  nonempty := by simp
  opened := by
    intro frames parts captures names rest place _ other
    refine ⟨⟨place, place.next '('⟩, [], place.next '(', rfl, ?_⟩
    have unmarked (word : Text) :
        Reader.expect? ⟨rest, place.next '('⟩ ('?' :: word) = none := by
      cases rest with
      | nil => rfl
      | cons c more =>
        have : c ≠ '?' := by simpa using other
        have : ('?' == c) = false := by simpa using this.symm
        simp [Reader.expect?, List.isPrefixOf, this]
    have stepped : step (.plain frames parts captures names ('(' :: rest) place) =
        openGroup (.plain frames parts captures names ('(' :: rest) place) := rfl
    rw [List.singleton_append, stepped]
    simp only [openGroup, State.plain, Reader.bumpSkip, Reader.bump, Reader.skipBlanks,
      Bool.false_eq_true, if_false, unmarked]
    simp [openCapture, Reader.spanChar, Reader.bump]
  lowered := fun captures span _ _ _ lowered => capture_lower lowered span (captures + 1) none

theorem readNameChars_name (rest : Text) (name : Text) (first : Bool) (fuel : Nat)
    (enough : name.length ≤ fuel)
    (start : ∀ c, name.head? = some c → isNameChar first c = true ∧ c ≠ '>')
    (tail : ∀ c ∈ name.tail, isNameChar false c = true ∧ c ≠ '>') (place : Location) :
    ∃ place', readNameChars fuel first ⟨name ++ '>' :: rest, place⟩ =
      .ok (name, ⟨'>' :: rest, place'⟩) := by
  induction name generalizing first fuel place with
  | nil =>
    refine ⟨place, ?_⟩
    cases fuel <;> rfl
  | cons c name ih =>
    obtain ⟨valid, angle⟩ := start c rfl
    cases fuel with
    | zero => simp at enough
    | succ fuel =>
      obtain ⟨place', read⟩ := ih false fuel (by simpa using enough)
        (fun d same => tail d (by cases name <;> simp_all))
        (fun d mem => tail d (by cases name <;> simp_all)) (place.next c)
      refine ⟨place', ?_⟩
      simp [readNameChars, Reader.peek?, valid, Reader.bump, read, bind, Except.bind]

theorem readGroupName_name {names : List (Text × Span)} {name : Text} (valid : ValidName name)
    (fresh : name ∉ names.map (·.1)) (rest : Text) (place : Location) :
    ∃ span place', readGroupName names ⟨name ++ '>' :: rest, place⟩ =
      .ok ((name, span), ⟨rest, place'⟩) := by
  obtain ⟨c, more, rfl⟩ : ∃ c more, name = c :: more := by
    cases name with
    | nil => exact valid.elim
    | cons c more => exact ⟨c, more, rfl⟩
  obtain ⟨place', read⟩ := readNameChars_name rest (c :: more) true
    (c :: more ++ '>' :: rest).length (by simp) (by rintro d same; cases same; exact valid.1)
    valid.2 place
  have missing : names.find? (fun p => p.1 == c :: more) = none := by
    rw [List.find?_eq_none]
    intro p mem same
    exact fresh (List.mem_map.mpr ⟨p, mem, by simpa using same⟩)
  refine ⟨⟨place, place'⟩, place'.next '>', ?_⟩
  simp only [readGroupName, read, bind, Except.bind]
  simp [Reader.atEnd, missing, Reader.spanFrom, Reader.bump]

theorem named_opens (flags : Flags) {name : Text} (valid : ValidName name) :
    Opens flags flags (['(', '?', 'P', '<'] ++ name ++ ['>']) [some name]
      (fun n => .capture (n + 1) (some name)) (fun n t => .capture (n + 1) (some name) t)
      fun _ => True where
  nonempty := by simp
  opened := by
    intro frames parts captures names rest place fresh _
    have unused : name ∉ names.map (·.1) := by
      intro mem
      exact (List.nodup_append.mp fresh).2.2 name mem name (by simp) rfl
    obtain ⟨span, place', read⟩ := readGroupName_name valid unused rest
      ((((place.next '(').next '?').next 'P').next '<')
    refine ⟨⟨place, place.next '('⟩, [(name, span)], place', by simp, ?_⟩
    have text : ['(', '?', 'P', '<'] ++ name ++ ['>'] ++ rest =
        '(' :: '?' :: 'P' :: '<' :: (name ++ '>' :: rest) := by simp
    have stepped : step (.plain frames parts captures names
        ('(' :: '?' :: 'P' :: '<' :: (name ++ '>' :: rest)) place) =
        (readGroupName names ⟨name ++ '>' :: rest,
          (((place.next '(').next '?').next 'P').next '<'⟩ >>= fun found =>
            .ok (openCapture (.plain frames parts captures names
              ('(' :: '?' :: 'P' :: '<' :: (name ++ '>' :: rest)) place)
              ⟨place, place.next '('⟩ (some found.1) found.2)) := rfl
    rw [text, stepped, read]
    simp [openCapture, State.plain, bind, Except.bind]
  lowered := fun captures span _ _ _ lowered =>
    capture_lower lowered span (captures + 1) (some name)

end TextCursor.Pattern
