import TextCursor.Proofs.Pattern.ElsewhereGroup
import TextCursor.Proofs.Pattern.ElsewhereSet
/-!
Reading a pattern behind flags. `(?…)` at the start of a text leaves the flags as the first part,
and then the rest is read as it would be on its own: the two readings take the same steps, and their
stacks only differ in places and in those flags, which stay in the first part at the bottom.
-/
namespace TextCursor.Pattern

def Parts.unplaced (p : Parts) : List Ast := p.items.map Ast.unplaced

section

variable {items : List FlagItem} {led : Bool} {text : Text}

def Parts.Led (items : List FlagItem) (led : Bool) (p p' : Parts) : Prop :=
  p'.unplaced = (if led then [.flags .nowhere items] else []) ++ p.unplaced

inductive Ast.Led (items : List FlagItem) : Bool → Ast → Ast → Prop
  | same {a a' : Ast} (same : a.unplaced = a'.unplaced) : Led items false a a'
  | empty (span span' : Span) : Led items true (.empty span) (.flags span' items)
  | single {a a' : Ast} (span span' : Span) (same : a.unplaced = a'.unplaced) :
      Led items true a (.concat span [.flags span' items, a'])
  | several {parts parts' : List Ast} (span span' span'' : Span)
      (same : parts.map Ast.unplaced = parts'.map Ast.unplaced) :
      Led items true (.concat span parts) (.concat span' (.flags span'' items :: parts'))
  | branches {a a' : Ast} {rest rest' : List Ast} (span span' : Span) (first : Led items true a a')
      (same : rest.map Ast.unplaced = rest'.map Ast.unplaced) :
      Led items true (.alternation span (a :: rest)) (.alternation span' (a' :: rest'))

/-- Two stacks that differ in places only, and in the flags, which are in the first part at the
bottom. The index tells whether that is the run of parts on top of the stacks. -/
inductive FramesLed (items : List FlagItem) : Bool → List Frame → List Frame → Prop
  | bottom : FramesLed items true [] []
  | group {led : Bool} {frames frames' : List Frame} {outer outer' : Parts}
      (opening opening' : Span) (kind : GroupKind) (verbose : Bool)
      (below : FramesLed items led frames frames') (parts : outer.Led items led outer') :
      FramesLed items false (.group outer opening kind verbose :: frames)
        (.group outer' opening' kind verbose :: frames')
  | alternation {led : Bool} {frames frames' : List Frame} {a a' : Ast} {rest rest' : List Ast}
      (start start' : Location) (below : FramesLed items led frames frames')
      (first : a.Led items led a') (same : rest.map Ast.unplaced = rest'.map Ast.unplaced) :
      FramesLed items false (.alternation start (a :: rest) :: frames)
        (.alternation start' (a' :: rest') :: frames')

/-- Two readings of the same text that differ in places, and in flags in front of the first part. -/
structure State.Led (items : List FlagItem) (text : Text) (s s' : State) : Prop where
  verbose : s.verbose = s'.verbose
  reader : s.reader.Same text s'.reader
  level : ∃ led, FramesLed items led s.frames s'.frames ∧ s.parts.Led items led s'.parts
  captures : s.captures = s'.captures
  names : s.names.map Prod.fst = s'.names.map Prod.fst

theorem Parts.Led.push {p p' : Parts} {a a' : Ast} (h : p.Led items led p')
    (same : a.unplaced = a'.unplaced) : (p.push a).Led items led (p'.push a') := by
  unfold Parts.Led at h ⊢
  simp only [unplaced, Parts.push, List.map_append, List.map_cons, List.map_nil] at h ⊢
  rw [h, same, List.append_assoc]

theorem Parts.led_nil (start start' : Location) : Parts.Led items false ⟨start, []⟩ ⟨start', []⟩ :=
  rfl

theorem Ast.unplaced_flags {a : Ast} (same : a.unplaced = .flags .nowhere items) :
    ∃ span, a = .flags span items := by
  cases a <;> simp_all [unplaced]

theorem Element.toAst_same {e e' : Element} (same : e.unplaced = e'.unplaced) :
    e.toAst.unplaced = e'.toAst.unplaced := by
  have made (e : Element) : e.toAst.unplaced = e.unplaced.toAst := by
    cases e <;> rfl
  rw [made, made, same]

theorem Parts.toAst_unplaced (p : Parts) (stop : Location) :
    (p.toAst stop).unplaced = Parts.toAst ⟨.start, p.unplaced⟩ .start := by
  obtain ⟨start, parts⟩ := p
  match parts with
  | [] => rfl
  | [a] => rfl
  | a :: b :: rest =>
    simp only [toAst, Ast.unplaced, Ast.allUnplaced_eq]
    rfl

theorem Parts.Led.toAst {p p' : Parts} (h : p.Led items led p') (stop stop' : Location) :
    (p.toAst stop).Led items led (p'.toAst stop') := by
  cases led with
  | false =>
    have same : p'.unplaced = p.unplaced := h
    constructor
    rw [Parts.toAst_unplaced, Parts.toAst_unplaced, same]
  | true =>
    obtain ⟨start, parts⟩ := p
    obtain ⟨start', parts'⟩ := p'
    obtain ⟨f, rest', rfl, first, same⟩ := List.map_eq_cons_iff.mp h
    obtain ⟨span, rfl⟩ := Ast.unplaced_flags first
    match parts, rest', same with
    | [], rest', same =>
      obtain rfl : rest' = [] := List.map_eq_nil_iff.mp same
      exact .empty _ _
    | [a], rest', same =>
      obtain ⟨a', none, rfl, alone, nil⟩ := List.map_eq_cons_iff.mp same
      obtain rfl : none = [] := List.map_eq_nil_iff.mp nil
      exact .single _ _ alone.symm
    | a :: b :: rest, rest', same =>
      obtain ⟨a', more, rfl, _, _⟩ := List.map_eq_cons_iff.mp same
      exact .several _ _ _ same.symm

theorem closeBranches_led {frames frames' : List Frame} {p p' : Parts}
    (stack : FramesLed items led frames frames') (parts : p.Led items led p')
    (stop stop' : Location) :
    ∃ below, (closeBranches frames p stop).1.Led items below (closeBranches frames' p' stop').1 ∧
      FramesLed items below (closeBranches frames p stop).2 (closeBranches frames' p' stop').2 := by
  have last := parts.toAst stop stop'
  cases stack with
  | bottom => exact ⟨true, last, .bottom⟩
  | group opening opening' kind verbose below outer =>
    exact ⟨false, last, .group opening opening' kind verbose below outer⟩
  | @alternation level _ _ _ _ rest rest' start start' below first same =>
    refine ⟨level, ?_, below⟩
    obtain ⟨last⟩ := last
    have rest : (rest ++ [p.toAst stop]).map Ast.unplaced =
        (rest' ++ [p'.toAst stop']).map Ast.unplaced := by
      rw [List.map_append, List.map_append, same, List.map_singleton, last, List.map_singleton]
    cases level with
    | false =>
      obtain ⟨first⟩ := first
      refine .same ?_
      simp only [closeBranches, Ast.unplaced, Ast.allUnplaced_eq, List.cons_append, List.map_cons,
        first, rest]
    | true => exact .branches _ _ first rest

theorem repeatable?_last (p : Parts) (a : Ast) :
    repeatable? (p.push a) =
      match a.unplaced with
      | .empty _ => none
      | .flags _ _ => none
      | _ => some (p, a) := by
  have split : (p.push a).splitLast? = some (p, a) := by
    simp [Parts.splitLast?, Parts.push]
  unfold repeatable?
  rw [split]
  cases a <;> rfl

theorem repeatable?_led {p p' : Parts} (h : p.Led items led p') :
    Option.Rel (fun q q' => q.1.Led items led q'.1 ∧ q.2.unplaced = q'.2.unplaced)
      (repeatable? p) (repeatable? p') := by
  obtain ⟨start, parts⟩ := p
  obtain ⟨start', parts'⟩ := p'
  rcases List.eq_nil_or_concat parts with rfl | ⟨before, a, rfl⟩
  · cases led with
    | false =>
      obtain rfl : parts' = [] := List.map_eq_nil_iff.mp h
      exact .none
    | true =>
      -- flags alone are no more to be repeated than nothing at all
      obtain ⟨f, none, rfl, first, nil⟩ := List.map_eq_cons_iff.mp h
      obtain ⟨span, rfl⟩ := Ast.unplaced_flags first
      obtain rfl : none = [] := List.map_eq_nil_iff.mp nil
      exact .none
  · have h : parts'.map Ast.unplaced =
        ((if led then [.flags .nowhere items] else []) ++ before.map Ast.unplaced) ++
          [a.unplaced] := by
      rw [List.append_assoc]
      simpa [Parts.Led, Parts.unplaced] using h
    obtain ⟨before', last, rfl, outer, single⟩ := List.map_eq_append_iff.mp h
    obtain ⟨a', none, rfl, same, nil⟩ := List.map_eq_cons_iff.mp single
    obtain rfl : none = [] := List.map_eq_nil_iff.mp nil
    have pushed := repeatable?_last ⟨start, before⟩ a
    have pushed' := repeatable?_last ⟨start', before'⟩ a'
    simp only [Parts.push, same] at pushed pushed'
    rw [List.concat_eq_append, pushed, pushed']
    split
    · exact .none
    · exact .none
    · exact .some ⟨outer, same.symm⟩

section

variable {s s' : State}

theorem closeGroup_led (h : s.Led items text s') :
    Alike (State.Led items text.tail) (closeGroup s) (closeGroup s') := by
  obtain ⟨led, stack, parts⟩ := h.level
  obtain ⟨below, sub, rest⟩ := closeBranches_led stack parts s.reader.place s'.reader.place
  unfold closeGroup
  generalize closeBranches s.frames s.parts s.reader.place = closed at sub rest
  generalize closeBranches s'.frames s'.parts s'.reader.place = closed' at sub rest
  obtain ⟨a, frames⟩ := closed
  obtain ⟨a', frames'⟩ := closed'
  dsimp only at sub rest ⊢
  cases rest with
  | bottom => exact .error _ _
  | alternation => exact .error _ _
  | group opening opening' kind verbose below outer =>
    -- what stands on top of a group is not at the bottom, so the flags are not inside
    obtain ⟨sub⟩ := sub
    refine .ok ⟨rfl, h.reader.bump_tail, ⟨_, below, outer.push ?_⟩, h.captures, h.names⟩
    simp only [Ast.unplaced, sub]

theorem pushBranch_led (h : s.Led items text s') :
    (pushBranch s).Led items text.tail (pushBranch s') := by
  obtain ⟨led, stack, parts⟩ := h.level
  have last := parts.toAst s.reader.place s'.reader.place
  have next (frames frames' : List Frame) (stack : FramesLed items false frames frames') :
      State.Led items text.tail
        { s with reader := s.reader.bump, frames := frames, parts := ⟨s.reader.bump.place, []⟩ }
        { s' with
          reader := s'.reader.bump, frames := frames', parts := ⟨s'.reader.bump.place, []⟩ } :=
    ⟨h.verbose, h.reader.bump_tail, ⟨false, stack, Parts.led_nil _ _⟩, h.captures, h.names⟩
  unfold pushBranch
  generalize s.frames = frames at stack
  generalize s'.frames = frames' at stack
  cases stack with
  | bottom => exact next _ _ (.alternation _ _ .bottom last rfl)
  | group opening opening' kind verbose below outer =>
    exact next _ _ (.alternation _ _ (.group opening opening' kind verbose below outer) last rfl)
  | alternation start start' below first same =>
    obtain ⟨last⟩ := last
    refine next _ _ (.alternation start start' below first ?_)
    simp only [List.append_eq, List.map_append, List.map_singleton, same, last]

theorem State.Led.push (h : s.Led items text s') (verbose : Bool) {r r' : Reader}
    (reader : r.Same text.tail r') {a a' : Ast} (same : a.unplaced = a'.unplaced) :
    State.Led items text.tail
      { s with verbose := verbose, reader := r, parts := s.parts.push a }
      { s' with verbose := verbose, reader := r', parts := s'.parts.push a' } := by
  obtain ⟨led, stack, parts⟩ := h.level
  exact ⟨rfl, reader, ⟨led, stack, parts.push same⟩, h.captures, h.names⟩

theorem State.Led.repeat (h : s.Led items text s') (verbose : Bool) {r r' : Reader}
    (reader : r.Same text.tail r') {led : Bool} (stack : FramesLed items led s.frames s'.frames)
    {before before' : Parts} (outer : before.Led items led before') {sub sub' : Ast}
    (same : sub.unplaced = sub'.unplaced) (count : Count) (lazy : Bool) (span span' : Span) :
    State.Led items text.tail
      { s with
        verbose := verbose
        reader := if lazy then r.bump else r
        parts := before.push (.repetition span count (!lazy) sub) }
      { s' with
        verbose := verbose
        reader := if lazy then r'.bump else r'
        parts := before'.push (.repetition span' count (!lazy) sub') } := by
  refine ⟨rfl, .ite reader.bump reader, ⟨led, stack, outer.push ?_⟩, h.captures, h.names⟩
  simp only [Ast.unplaced, same]

theorem repeatPlain_led (count : Count) (h : s.Led items text s') :
    Alike (State.Led items text.tail) (repeatPlain s count) (repeatPlain s' count) := by
  obtain ⟨led, stack, parts⟩ := h.level
  have last := repeatable?_led parts
  have behind := h.reader.bump_tail
  unfold repeatPlain
  generalize repeatable? s.parts = found at last
  generalize repeatable? s'.parts = found' at last
  cases last with
  | none => exact .error _ _
  | some last =>
    obtain ⟨outer, same⟩ := last
    dsimp only
    rw [h.verbose, behind.peek?]
    exact .ok (h.repeat _ behind stack outer same count _ _ _)

theorem repeatCounted_led (h : s.Led items text s') :
    Alike (State.Led items text.tail) (repeatCounted s) (repeatCounted s') := by
  obtain ⟨led, stack, parts⟩ := h.level
  have last := repeatable?_led parts
  unfold repeatCounted
  generalize repeatable? s.parts = found at last
  generalize repeatable? s'.parts = found' at last
  cases last with
  | none => exact .error _ _
  | some last =>
    obtain ⟨outer, same⟩ := last
    dsimp only
    rw [h.verbose]
    refine (readCount_same h.reader).bind ?_
    rintro ⟨count, r⟩ ⟨count', r'⟩ ⟨result, inside⟩
    obtain rfl : count = count' := result
    have behind := inside.bumpSkip s'.verbose
    dsimp only
    rw [inside.peek?, behind.peek?]
    split
    · exact .error _ _
    · split
      · exact .error _ _
      · exact .ok (h.repeat _ behind stack outer same count _ _ _)

theorem State.Led.open (h : s.Led items text s') (verbose outside : Bool) {r r' : Reader}
    (reader : r.Same text.tail r') (opening opening' : Span) (kind : GroupKind) {n n' : Nat}
    (captures : n = n') {names names' : List (Text × Span)}
    (same : names.map Prod.fst = names'.map Prod.fst) :
    State.Led items text.tail
      ⟨verbose, r, .group s.parts opening kind outside :: s.frames, ⟨r.place, []⟩, n, names⟩
      ⟨verbose, r', .group s'.parts opening' kind outside :: s'.frames, ⟨r'.place, []⟩, n',
        names'⟩ := by
  obtain ⟨led, stack, parts⟩ := h.level
  exact ⟨rfl, reader, ⟨false, .group opening opening' kind outside stack parts, Parts.led_nil _ _⟩,
    captures, same⟩

theorem openCapture_led (h : s.Led items text s') {r r' : Reader} (reader : r.Same text.tail r')
    {name name' : Option (Text × Span)} (same : name.map Prod.fst = name'.map Prod.fst)
    (opening opening' : Span) :
    (openCapture s opening name r).Led items text.tail (openCapture s' opening' name' r') := by
  have named : (s.names ++ name.toList).map Prod.fst = (s'.names ++ name'.toList).map Prod.fst := by
    rw [List.map_append, List.map_append, h.names, ← Option.toList_map, ← Option.toList_map, same]
  unfold openCapture
  rw [same, h.captures, h.verbose]
  exact h.open _ _ reader opening opening' _ rfl named

theorem openFlags_led (h : s.Led items text s') {r r' : Reader} (reader : r.Same text.tail r')
    (opening opening' : Span) (inner inner' : Location) :
    Alike (State.Led items text.tail) (openFlags s opening inner r)
      (openFlags s' opening' inner' r') := by
  unfold openFlags
  rw [reader.atEnd]
  split
  · exact .error _ _
  · refine (readFlags_same reader).bind ?_
    rintro ⟨⟨given, none?⟩, q⟩ ⟨⟨given', none'⟩, q'⟩ ⟨result, behind⟩
    obtain ⟨⟩ : (given, none?) = (given', none') := result
    dsimp only
    rw [behind.peek?, h.verbose]
    split
    · split
      · exact .error _ _
      · exact .ok (h.push _ behind.bump rfl)
    · exact .ok (h.open _ _ behind.bump _ _ _ h.captures h.names)

theorem openGroup_led (h : s.Led items text s') :
    Alike (State.Led items text.tail) (openGroup s) (openGroup s') := by
  have inside : (s.reader.bumpSkip s'.verbose).Same text.tail (s'.reader.bumpSkip s'.verbose) :=
    h.reader.bump_tail.skipBlanks _
  have found (c : Char) (word : Text) := (inside.expect? c word).mono fun _ _ same =>
    same.shorter (List.tail_suffix _)
  have around := (found '?' ['=']).orElse ((found '?' ['!']).orElse
    ((found '?' ['<', '=']).orElse (found '?' ['<', '!'])))
  have name := (found '?' ['P', '<']).orElse (found '?' ['<'])
  have flags := found '?' []
  unfold openGroup
  rw [h.verbose]
  generalize s.reader.bumpSkip s'.verbose = r at inside around name flags
  generalize s'.reader.bumpSkip s'.verbose = r' at inside around name flags
  dsimp only
  generalize (r.expect? ['?', '='] <|> _) = look at around
  generalize (r'.expect? ['?', '='] <|> _) = look' at around
  cases around with
  | some _ => exact .error _ _
  | none =>
    generalize (r.expect? ['?', 'P', '<'] <|> _) = named at name
    generalize (r'.expect? ['?', 'P', '<'] <|> _) = named' at name
    cases name with
    | some name =>
      refine (readGroupName_same h.names name).bind ?_
      rintro ⟨given, q⟩ ⟨given', q'⟩ ⟨result, behind⟩
      have same : (some given).map Prod.fst = (some given').map Prod.fst := congrArg some result
      exact .ok (openCapture_led h behind same _ _)
    | none =>
      generalize r.expect? ['?'] = flagged at flags
      generalize r'.expect? ['?'] = flagged' at flags
      cases flags with
      | some flags => exact openFlags_led h flags _ _ _ _
      | none => exact .ok (openCapture_led h inside rfl _ _)

theorem step_led (h : s.Led items text s') :
    Alike (State.Led items text.tail) (step s) (step s') := by
  unfold step
  rw [h.reader.peek?, h.verbose]
  split
  · exact openGroup_led h
  · exact closeGroup_led h
  · exact .ok (pushBranch_led h)
  · refine (readClass_same h.reader).bind ?_
    rintro ⟨a, r⟩ ⟨a', r'⟩ ⟨same, reader⟩
    exact .ok (h.push _ reader same)
  · exact repeatPlain_led _ h
  · exact repeatPlain_led _ h
  · exact repeatPlain_led _ h
  · exact repeatCounted_led h
  · refine (readElement_same h.reader).bind ?_
    rintro ⟨e, r⟩ ⟨e', r'⟩ ⟨same, reader⟩
    exact .ok (h.push _ reader (Element.toAst_same same))

theorem finish_led (h : s.Led items text s') :
    Alike (Ast.Led items true) (finish s) (finish s') := by
  obtain ⟨led, stack, parts⟩ := h.level
  obtain ⟨below, whole, rest⟩ := closeBranches_led stack parts s.reader.place s'.reader.place
  unfold finish
  generalize closeBranches s.frames s.parts s.reader.place = closed at whole rest
  generalize closeBranches s'.frames s'.parts s'.reader.place = closed' at whole rest
  obtain ⟨a, frames⟩ := closed
  obtain ⟨a', frames'⟩ := closed'
  dsimp only at whole rest ⊢
  cases rest with
  | bottom => exact .ok whole
  | group => exact .error _ _
  | alternation => exact .error _ _

/-- The two readings end alike, whatever fuel each has beyond what the text needs. -/
theorem runFuel_led {fuel fuel' : Nat} (h : s.Led items text s') (enough : text.length < fuel)
    (enough' : text.length < fuel') :
    Alike (Ast.Led items true) (runFuel fuel s) (runFuel fuel' s') := by
  induction fuel generalizing fuel' text s s' with
  | zero => exact absurd enough (Nat.not_lt_zero _)
  | succ fuel ih =>
    cases fuel' with
    | zero => exact absurd enough' (Nat.not_lt_zero _)
    | succ fuel' =>
      have skipped : State.Led items text { s with reader := s.reader.skipBlanks s.verbose }
          { s' with reader := s'.reader.skipBlanks s'.verbose } :=
        ⟨h.verbose, h.verbose ▸ h.reader.skipBlanks _, h.level, h.captures, h.names⟩
      simp only [runFuel, skipped.reader.atEnd]
      split
      · exact finish_led skipped
      · rename_i more
        -- a step takes a codepoint, so that either amount of fuel lasts to the end of the text
        have some : 0 < text.length := by
          have rest := skipped.reader.behind.length_le
          rw [skipped.reader.rest] at rest
          refine Nat.lt_of_lt_of_le (List.length_pos_iff.mpr ?_) rest
          intro none
          exact more (List.isEmpty_iff.mpr none)
        have shorter := List.length_tail (l := text)
        refine (step_led skipped).bind fun next next' stepped => ?_
        exact ih stepped (by omega) (by omega)

end

end

end TextCursor.Pattern
