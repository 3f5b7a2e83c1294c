import TextCursor.Pattern.Depth
/-!
What holds of every pattern that was read: ranges of classes go upwards, counts are in order and not
too large, names of groups are names, and capture groups are numbered from one in the order in which
they open, no name given twice. `State.Sound` is the invariant that carries this through the reading.
-/
namespace TextCursor.Pattern

theorem bind_ok {ε α β : Type} {x : Except ε α} {f : α → Except ε β} {b : β} :
    x >>= f = .ok b ↔ ∃ a, x = .ok a ∧ f a = .ok b := by
  cases x <;> simp [bind, Except.bind]

theorem fault_ne_ok {α : Type} {span : Span} {kind : SyntaxErrorKind} {a : α} :
    (fault span kind : Except Fault α) ≠ .ok a := by
  simp [fault]

mutual

def ClassSet.Ordered : ClassSet → Prop
  | range _ lo hi => lo.char ≤ hi.char
  | bracketed _ _ set => set.Ordered
  | union _ items => ClassSet.AllOrdered items
  | op _ _ lhs rhs => lhs.Ordered ∧ rhs.Ordered
  | _ => True

def ClassSet.AllOrdered : List ClassSet → Prop
  | [] => True
  | set :: rest => set.Ordered ∧ ClassSet.AllOrdered rest

end

theorem ClassSet.literal_ordered (l : Literal) : (ClassSet.literal l).Ordered := trivial

theorem ClassSet.allOrdered_append (a b : List ClassSet) :
    AllOrdered (a ++ b) ↔ AllOrdered a ∧ AllOrdered b := by
  induction a with
  | nil => simp [AllOrdered]
  | cons set rest ih => simp [AllOrdered, ih, and_assoc]

def ClassFrame.Ordered : ClassFrame → Prop
  | opened outer _ _ => ClassSet.AllOrdered outer.items
  | op _ lhs => lhs.Ordered

structure ClassState.Ordered (s : ClassState) : Prop where
  frames : ∀ f ∈ s.frames, f.Ordered
  items : ClassSet.AllOrdered s.items.items

theorem ItemList.toSet_ordered {l : ItemList} (h : ClassSet.AllOrdered l.items) :
    l.toSet.Ordered := by
  unfold toSet
  split
  · trivial
  · rename_i item one
    rw [one] at h
    exact h.1
  · exact h

theorem ItemList.push_ordered {l : ItemList} {item : ClassSet}
    (h : ClassSet.AllOrdered l.items) (new : item.Ordered) :
    ClassSet.AllOrdered (l.push item).items := by
  simp only [push, ClassSet.allOrdered_append]
  exact ⟨h, new, trivial⟩

theorem applyOp_ordered {frames : List ClassFrame} {rhs : ClassSet}
    (h : ∀ f ∈ frames, f.Ordered) (right : rhs.Ordered) :
    (applyOp frames rhs).1.Ordered ∧ ∀ f ∈ (applyOp frames rhs).2, f.Ordered := by
  unfold applyOp
  split
  · rename_i kind lhs rest
    have left := h (.op kind lhs) (by simp)
    exact ⟨⟨left, right⟩, fun f mem => h f (List.mem_cons_of_mem _ mem)⟩
  · exact ⟨right, h⟩

theorem toItem_ordered {e : Element} {item : ClassSet} (h : e.toItem = .ok item) :
    item.Ordered := by
  cases e <;> simp only [Element.toItem, Except.ok.injEq, fault_ne_ok] at h <;>
    subst h <;> trivial

theorem readItem_ordered {verbose : Bool} {frames : List ClassFrame} {r r' : Reader}
    {item : ClassSet} (h : readItem verbose frames r = .ok (item, r')) : item.Ordered := by
  simp only [readItem, bind_ok, Prod.exists] at h
  obtain ⟨first, r₁, _, h⟩ := h
  split at h
  · exact absurd h fault_ne_ok
  · split at h
    · obtain ⟨made, single, done⟩ := bind_ok.mp h
      cases done
      exact toItem_ordered single
    · split at h
      · exact absurd h fault_ne_ok
      · simp only [bind_ok, Prod.exists] at h
        obtain ⟨last, r₂, _, lo, _, hi, _, h⟩ := h
        split at h
        · rename_i ordered
          cases h
          exact ordered
        · exact absurd h fault_ne_ok

theorem readOpeningMinus_ordered {verbose : Bool} {start : Location} {fuel : Nat}
    {l l' : ItemList} {r r' : Reader} (ordered : ClassSet.AllOrdered l.items)
    (h : readOpeningMinus verbose start fuel l r = .ok (l', r')) :
    ClassSet.AllOrdered l'.items := by
  induction fuel generalizing l r with
  | zero =>
    cases h
    exact ordered
  | succ fuel ih =>
    simp only [readOpeningMinus] at h
    split at h
    · split at h
      · exact absurd h fault_ne_ok
      · exact ih (ItemList.push_ordered ordered (ClassSet.literal_ordered _)) h
    · cases h
      exact ordered

theorem openBracket_ordered {verbose : Bool} {s s' : ClassState} (ordered : s.Ordered)
    (h : openBracket verbose s = .ok s') : s'.Ordered := by
  have frames (span : Span) (negated : Bool) :
      ∀ f ∈ ClassFrame.opened s.items span negated :: s.frames, f.Ordered := by
    intro f mem
    rcases List.mem_cons.mp mem with rfl | later
    · exact ordered.items
    · exact ordered.frames f later
  simp only [openBracket, bind_ok, Prod.exists] at h
  obtain ⟨_, _, _, _, l, r, minus, h⟩ := h
  have opening := readOpeningMinus_ordered (by trivial) minus
  split at h
  · obtain ⟨_, _, done⟩ := bind_ok.mp h
    cases done
    exact ⟨frames _ _, ItemList.push_ordered opening (ClassSet.literal_ordered _)⟩
  · cases h
    exact ⟨frames _ _, opening⟩

theorem pushOp_ordered {kind : ClassOp} {s : ClassState} (ordered : s.Ordered) :
    (pushOp kind s).Ordered := by
  obtain ⟨left, rest⟩ := applyOp_ordered ordered.frames (ItemList.toSet_ordered ordered.items)
  refine ⟨?_, trivial⟩
  intro f mem
  rcases List.mem_cons.mp mem with rfl | later
  · exact left
  · exact rest f later

def ClassDone : ClassState ⊕ (Ast × Reader) → Prop
  | .inl s => s.Ordered
  | .inr (a, _) => ∃ span negated set, a = .bracketed span negated set ∧ set.Ordered

theorem closeBracket_ordered {s : ClassState} {done : ClassState ⊕ (Ast × Reader)}
    (ordered : s.Ordered) (h : closeBracket s = .ok done) : ClassDone done := by
  obtain ⟨whole, rest⟩ := applyOp_ordered ordered.frames (ItemList.toSet_ordered ordered.items)
  simp only [closeBracket] at h
  split at h
  · rename_i outer span negated frames same
    have inner := rest _ (by rw [same]; exact List.mem_cons_self)
    split at h
    · cases h
      exact ⟨_, _, _, rfl, whole⟩
    · cases h
      refine ⟨?_, ItemList.push_ordered inner whole⟩
      intro f mem
      exact rest f (by rw [same]; exact List.mem_cons_of_mem _ mem)
  · exact absurd h fault_ne_ok

theorem asciiItem?_ordered {r r' : Reader} {item : ClassSet}
    (h : asciiItem? r = some (item, r')) : item.Ordered := by
  simp only [asciiItem?, Option.bind_eq_bind, Option.bind_eq_some_iff] at h
  obtain ⟨_, _, _, _, _, _, made⟩ := h
  cases made
  trivial

theorem classStep_ordered {verbose : Bool} {s : ClassState}
    {done : ClassState ⊕ (Ast × Reader)} (ordered : s.Ordered)
    (h : classStep verbose s = .ok done) : ClassDone done := by
  have skipped : ClassState.Ordered { s with reader := s.reader.skipBlanks verbose } :=
    ⟨ordered.frames, ordered.items⟩
  simp only [classStep] at h
  split at h
  · exact absurd h fault_ne_ok
  · split at h
    · rename_i item r named
      cases h
      have new : item.Ordered := by
        split at named
        · cases named
        · exact asciiItem?_ordered named
      exact ⟨ordered.frames, ItemList.push_ordered ordered.items new⟩
    · simp only [Except.map] at h
      split at h
      · cases h
      · rename_i s' opened
        cases h
        exact openBracket_ordered skipped opened
  · exact closeBracket_ordered skipped h
  · split at h
    · cases h
      exact pushOp_ordered skipped
    · simp only [bind_ok, Prod.exists] at h
      obtain ⟨item, r, read, made⟩ := h
      cases made
      exact ⟨ordered.frames, ItemList.push_ordered ordered.items (readItem_ordered read)⟩

theorem readClassFuel_ordered {verbose : Bool} {fuel : Nat} {s : ClassState} {a : Ast}
    {r : Reader} (ordered : s.Ordered) (h : readClassFuel verbose fuel s = .ok (a, r)) :
    ∃ span negated set, a = .bracketed span negated set ∧ set.Ordered := by
  induction fuel generalizing s with
  | zero => exact absurd h fault_ne_ok
  | succ fuel ih =>
    obtain ⟨next, stepped, h⟩ := bind_ok.mp h
    have done := classStep_ordered ordered stepped
    cases next with
    | inl s => exact ih done h
    | inr closed =>
      cases h
      exact done

theorem readClass_ordered {verbose : Bool} {r r' : Reader} {a : Ast}
    (h : readClass verbose r = .ok (a, r')) :
    ∃ span negated set, a = .bracketed span negated set ∧ set.Ordered :=
  readClassFuel_ordered ⟨fun f mem => absurd mem List.not_mem_nil, by
    simp [ItemList.startAt, ClassSet.AllOrdered]⟩ h

structure Count.Bounded (c : Count) : Prop where
  least : c.least ≤ maxRepetition
  most : ∀ m, c.most = some m → c.least ≤ m ∧ m ≤ maxRepetition

def ValidName : Text → Prop
  | [] => False
  | c :: rest => (isNameChar true c = true ∧ c ≠ '>') ∧
    ∀ d ∈ rest, isNameChar false d = true ∧ d ≠ '>'

def GroupKind.Sound : GroupKind → Prop
  | capture _ name => ∀ n, name = some n → ValidName n
  | plain _ => True

def GroupKind.captures : GroupKind → List (Nat × Option Text)
  | capture index name => [(index, name)]
  | plain _ => []

mutual

def Ast.Sound : Ast → Prop
  | bracketed _ _ set => set.Ordered
  | repetition _ count _ sub => count.Bounded ∧ sub.Sound
  | group _ kind sub => kind.Sound ∧ sub.Sound
  | alternation _ branches => Ast.AllSound branches
  | concat _ parts => Ast.AllSound parts
  | _ => True

def Ast.AllSound : List Ast → Prop
  | [] => True
  | a :: rest => a.Sound ∧ Ast.AllSound rest

end

mutual

def Ast.captures : Ast → List (Nat × Option Text)
  | repetition _ _ _ sub => sub.captures
  | group _ kind sub => kind.captures ++ sub.captures
  | alternation _ branches => Ast.capturesAll branches
  | concat _ parts => Ast.capturesAll parts
  | _ => []

def Ast.capturesAll : List Ast → List (Nat × Option Text)
  | [] => []
  | a :: rest => a.captures ++ Ast.capturesAll rest

end

theorem Ast.allSound_append (a b : List Ast) :
    AllSound (a ++ b) ↔ AllSound a ∧ AllSound b := by
  induction a with
  | nil => simp [AllSound]
  | cons first rest ih => simp [AllSound, ih, and_assoc]

theorem Ast.capturesAll_append (a b : List Ast) :
    capturesAll (a ++ b) = capturesAll a ++ capturesAll b := by
  induction a with
  | nil => rfl
  | cons first rest ih => simp [capturesAll, ih]

def Frame.Sound : Frame → Prop
  | group outer _ kind _ => Ast.AllSound outer.items ∧ kind.Sound
  | alternation _ branches => Ast.AllSound branches

def framesCaptures : List Frame → List (Nat × Option Text)
  | [] => []
  | .group outer _ kind _ :: rest =>
    framesCaptures rest ++ Ast.capturesAll outer.items ++ kind.captures
  | .alternation _ branches :: rest => framesCaptures rest ++ Ast.capturesAll branches

def State.found (s : State) : List (Nat × Option Text) :=
  framesCaptures s.frames ++ Ast.capturesAll s.parts.items

structure State.Sound (s : State) : Prop where
  frames : ∀ f ∈ s.frames, f.Sound
  parts : Ast.AllSound s.parts.items
  numbered : s.found.map (·.1) = List.range' 1 s.captures
  named : s.found.filterMap (·.2) = s.names.map (·.1)
  distinct : (s.names.map (·.1)).Nodup

theorem State.sound_of_found {s s' : State} (h : s.Sound) (frames : ∀ f ∈ s'.frames, f.Sound)
    (parts : Ast.AllSound s'.parts.items) (found : s'.found = s.found)
    (captures : s'.captures = s.captures) (names : s'.names = s.names) : s'.Sound where
  frames := frames
  parts := parts
  numbered := by rw [found, captures, h.numbered]
  named := by rw [found, names, h.named]
  distinct := by rw [names]; exact h.distinct

theorem Parts.toAst_sound {p : Parts} (stop : Location) (h : Ast.AllSound p.items) :
    (p.toAst stop).Sound ∧ (p.toAst stop).captures = Ast.capturesAll p.items := by
  unfold toAst
  split
  · rename_i none
    rw [none]
    exact ⟨trivial, rfl⟩
  · rename_i a one
    rw [one] at h ⊢
    exact ⟨h.1, by simp [Ast.capturesAll]⟩
  · exact ⟨h, rfl⟩

theorem closeBranches_sound {frames : List Frame} {parts : Parts} (stop : Location)
    (outside : ∀ f ∈ frames, f.Sound) (inside : Ast.AllSound parts.items) :
    (closeBranches frames parts stop).1.Sound ∧
      (∀ f ∈ (closeBranches frames parts stop).2, f.Sound) ∧
      framesCaptures (closeBranches frames parts stop).2 ++
        (closeBranches frames parts stop).1.captures =
          framesCaptures frames ++ Ast.capturesAll parts.items := by
  obtain ⟨last, kept⟩ := Parts.toAst_sound stop inside
  unfold closeBranches
  split
  · rename_i start branches rest
    have earlier : Ast.AllSound branches := outside _ List.mem_cons_self
    refine ⟨?_, fun f mem => outside f (List.mem_cons_of_mem _ mem), ?_⟩
    · exact (Ast.allSound_append _ _).mpr ⟨earlier, last, trivial⟩
    · simp [Ast.captures, framesCaptures, Ast.capturesAll_append, Ast.capturesAll, kept]
  · exact ⟨last, outside, by rw [kept]⟩

theorem push_sound {s : State} (h : s.Sound) (r : Reader) (verbose : Bool) (a : Ast)
    (sound : a.Sound) (plain : a.captures = []) :
    { s with verbose := verbose, reader := r, parts := s.parts.push a }.Sound := by
  have parts : Ast.AllSound (s.parts.push a).items :=
    (Ast.allSound_append _ _).mpr ⟨h.parts, sound, trivial⟩
  have same : Ast.capturesAll (s.parts.push a).items = Ast.capturesAll s.parts.items := by
    simp [Parts.push, Ast.capturesAll_append, Ast.capturesAll, plain]
  exact State.sound_of_found h h.frames parts (congrArg (framesCaptures s.frames ++ ·) same)
    rfl rfl

theorem element_sound (e : Element) : e.toAst.Sound ∧ e.toAst.captures = [] := by
  cases e <;> exact ⟨trivial, rfl⟩

theorem readNameChars_valid {fuel : Nat} {first : Bool} {r r' : Reader} {name : Text}
    (h : readNameChars fuel first r = .ok (name, r')) :
    (∀ c, name.head? = some c → isNameChar first c = true ∧ c ≠ '>') ∧
      ∀ d ∈ name.tail, isNameChar false d = true ∧ d ≠ '>' := by
  induction fuel generalizing first r name with
  | zero =>
    cases h
    simp
  | succ fuel ih =>
    simp only [readNameChars] at h
    split at h
    · cases h
      simp
    · cases h
      simp
    · rename_i c other _
      split at h
      · rename_i named
        simp only [bind_ok, Prod.exists] at h
        obtain ⟨rest, r₁, read, made⟩ := h
        cases made
        obtain ⟨head, tail⟩ := ih read
        refine ⟨?_, ?_⟩
        · intro d same
          cases same
          exact ⟨named, fun angle => other (by rw [angle])⟩
        · intro d mem
          cases rest with
          | nil => simp at mem
          | cons e rest =>
            rcases List.mem_cons.mp mem with rfl | later
            · exact head _ rfl
            · exact tail d later
      · exact absurd h fault_ne_ok

theorem readGroupName_valid {names : List (Text × Span)} {r r' : Reader} {name : Text}
    {span : Span} (h : readGroupName names r = .ok ((name, span), r')) :
    ValidName name ∧ name ∉ names.map (·.1) := by
  simp only [readGroupName, bind_ok, Prod.exists] at h
  obtain ⟨given, r₁, read, h⟩ := h
  obtain ⟨head, tail⟩ := readNameChars_valid read
  split at h
  · exact absurd h fault_ne_ok
  · split at h
    · exact absurd h fault_ne_ok
    · rename_i nonempty
      split at h
      · exact absurd h fault_ne_ok
      · rename_i fresh
        cases h
        constructor
        · cases name with
          | nil => simp at nonempty
          | cons c rest => exact ⟨head c rfl, tail⟩
        · intro known
          obtain ⟨earlier, mem, same⟩ := List.mem_map.mp known
          have missed := List.find?_eq_none.mp fresh earlier mem
          simp [same] at missed

theorem openCapture_sound {s : State} (h : s.Sound) (opening : Span)
    (name : Option (Text × Span)) (r : Reader)
    (valid : ∀ n, name = some n → ValidName n.1 ∧ n.1 ∉ s.names.map (·.1)) :
    (openCapture s opening name r).Sound := by
  have found : (openCapture s opening name r).found =
      s.found ++ [(s.captures + 1, name.map (·.1))] := by
    simp [openCapture, State.found, framesCaptures, GroupKind.captures, Ast.capturesAll]
  refine ⟨?_, trivial, ?_, ?_, ?_⟩
  · intro f mem
    rcases List.mem_cons.mp mem with rfl | later
    · refine ⟨h.parts, ?_⟩
      intro n named
      obtain ⟨given, same, rfl⟩ := Option.map_eq_some_iff.mp named
      exact (valid given same).1
    · exact h.frames f later
  · rw [found, List.map_append, h.numbered]
    simp [openCapture, List.range'_concat, Nat.add_comm]
  · rw [found, List.filterMap_append, h.named]
    cases name <;> simp [openCapture]
  · cases name with
    | none => simpa [openCapture] using h.distinct
    | some n =>
      obtain ⟨_, fresh⟩ := valid n rfl
      simp only [openCapture, Option.toList_some, List.map_append, List.map_cons, List.map_nil]
      rw [List.nodup_append]
      refine ⟨h.distinct, by simp, ?_⟩
      intro a mem b single same
      rw [List.mem_singleton.mp single] at same
      exact fresh (same ▸ mem)

theorem openPlain_sound {s : State} (h : s.Sound) (opening : Span) (items : List FlagItem)
    (verbose : Bool) (r : Reader) :
    { s with
      verbose := verbose
      reader := r
      frames := .group s.parts opening (.plain items) s.verbose :: s.frames
      parts := ⟨r.place, []⟩ }.Sound := by
  refine State.sound_of_found h ?_ trivial ?_ rfl rfl
  · intro f mem
    rcases List.mem_cons.mp mem with rfl | later
    · exact ⟨h.parts, trivial⟩
    · exact h.frames f later
  · simp [State.found, framesCaptures, GroupKind.captures, Ast.capturesAll]

theorem openFlags_sound {s s' : State} {opening : Span} {inner : Location} {r : Reader}
    (h : s.Sound) (step : openFlags s opening inner r = .ok s') : s'.Sound := by
  simp only [openFlags] at step
  split at step
  · exact absurd step fault_ne_ok
  · simp only [bind_ok, Prod.exists] at step
    obtain ⟨items, none?, r₁, _, step⟩ := step
    split at step
    · split at step
      · exact absurd step fault_ne_ok
      · cases step
        exact push_sound h _ _ _ trivial rfl
    · cases step
      exact openPlain_sound h _ _ _ _

theorem openGroup_sound {s s' : State} (h : s.Sound) (step : openGroup s = .ok s') :
    s'.Sound := by
  simp only [openGroup] at step
  split at step
  · exact absurd step fault_ne_ok
  · split at step
    · simp only [bind_ok, Prod.exists] at step
      obtain ⟨name, span, r, read, made⟩ := step
      cases made
      refine openCapture_sound h _ _ _ ?_
      intro n same
      cases same
      exact readGroupName_valid read
    · exact openFlags_sound h step
    · cases step
      exact openCapture_sound h _ _ _ (by simp)

theorem closeGroup_sound {s s' : State} (h : s.Sound) (step : closeGroup s = .ok s') :
    s'.Sound := by
  obtain ⟨sub, frames, found⟩ := closeBranches_sound s.reader.place h.frames h.parts
  simp only [closeGroup] at step
  split at step
  · rename_i outer opening kind verbose rest same
    rw [same] at frames found
    obtain ⟨before, given⟩ := frames _ List.mem_cons_self
    cases step
    refine State.sound_of_found h ?_ ?_ ?_ rfl rfl
    · exact fun f mem => frames f (List.mem_cons_of_mem _ mem)
    · exact (Ast.allSound_append _ _).mpr ⟨before, ⟨given, sub⟩, trivial⟩
    · simp only [State.found, Parts.push, Ast.capturesAll_append, Ast.capturesAll, Ast.captures]
      rw [← found]
      simp [framesCaptures]
  · exact absurd step fault_ne_ok

theorem pushBranch_sound {s : State} (h : s.Sound) : (pushBranch s).Sound := by
  obtain ⟨branch, kept⟩ := Parts.toAst_sound s.reader.place h.parts
  have added (branches : List Ast) (earlier : Ast.AllSound branches) (start : Location) :
      Frame.Sound (.alternation start (branches ++ [s.parts.toAst s.reader.place])) :=
    (Ast.allSound_append _ _).mpr ⟨earlier, branch, trivial⟩
  refine State.sound_of_found h ?_ trivial ?_ rfl rfl
  · intro f mem
    simp only [pushBranch] at mem
    split at mem
    · rename_i start branches rest same
      rcases List.mem_cons.mp mem with rfl | later
      · exact added branches (h.frames (.alternation start branches) (by simp [same])) start
      · exact h.frames f (by simp [same, later])
    · rcases List.mem_cons.mp mem with rfl | later
      · exact added [] trivial s.parts.start
      · exact h.frames f later
  · simp only [State.found, pushBranch]
    split
    · rename_i start branches rest same
      simp [same, framesCaptures, Ast.capturesAll_append, Ast.capturesAll, kept]
    · simp [framesCaptures, Ast.capturesAll, kept]

theorem repeatable?_eq {parts before : Parts} {sub : Ast}
    (h : repeatable? parts = some (before, sub)) : parts.items = before.items ++ [sub] := by
  have split : parts.splitLast? = some (before, sub) := by
    unfold repeatable? at h
    split at h
    · cases h
    · cases h
    · exact h
  unfold Parts.splitLast? at split
  split at split
  · rename_i a last
    cases split
    obtain ⟨earlier, same⟩ := List.getLast?_eq_some_iff.mp last
    simp [same]
  · cases split

theorem repeat_sound {s : State} {before : Parts} {sub : Ast} {count : Count} (h : s.Sound)
    (last : repeatable? s.parts = some (before, sub)) (bounded : count.Bounded) (r : Reader)
    (span : Span) (greedy : Bool) :
    { s with reader := r, parts := before.push (.repetition span count greedy sub) }.Sound := by
  have same := repeatable?_eq last
  have parts := h.parts
  rw [same, Ast.allSound_append] at parts
  refine State.sound_of_found h h.frames ?_ ?_ rfl rfl
  · exact (Ast.allSound_append _ _).mpr ⟨parts.1, ⟨bounded, parts.2.1⟩, trivial⟩
  · simp [State.found, same, Parts.push, Ast.capturesAll_append, Ast.capturesAll, Ast.captures]

theorem repeatPlain_sound {s s' : State} {count : Count} (h : s.Sound) (bounded : count.Bounded)
    (step : repeatPlain s count = .ok s') : s'.Sound := by
  simp only [repeatPlain] at step
  split at step
  · exact absurd step fault_ne_ok
  · rename_i before sub last
    cases step
    exact repeat_sound h last bounded _ _ _

theorem readDecimal_le {verbose : Bool} {r : Reader} {n : Nat}
    (h : (readDecimal verbose r).1 = .ok n) : n ≤ maxRepetition := by
  simp only [readDecimal] at h
  split at h
  · exact absurd h fault_ne_ok
  · split at h
    · rename_i small
      cases h
      exact small
    · exact absurd h fault_ne_ok

theorem readCount_le {verbose : Bool} {start : Location} {r r' : Reader} {count : Count}
    (h : readCount verbose start r = .ok (count, r')) :
    count.least ≤ maxRepetition ∧ ∀ m, count.most = some m → m ≤ maxRepetition := by
  simp only [readCount, bind_ok] at h
  obtain ⟨_, _, _, _, h⟩ := h
  split at h
  · obtain ⟨_, _, h⟩ := bind_ok.mp h
    obtain ⟨least, read, h⟩ := bind_ok.mp h
    split at h
    · cases h
      exact ⟨readDecimal_le read, by simp⟩
    · obtain ⟨most, second, made⟩ := bind_ok.mp h
      cases made
      refine ⟨readDecimal_le read, ?_⟩
      intro m same
      cases same
      exact readDecimal_le second
  · obtain ⟨least, read, made⟩ := bind_ok.mp h
    cases made
    refine ⟨readDecimal_le read, ?_⟩
    intro m same
    cases same
    exact readDecimal_le read

theorem repeatCounted_sound {s s' : State} (h : s.Sound) (step : repeatCounted s = .ok s') :
    s'.Sound := by
  simp only [repeatCounted] at step
  split at step
  · exact absurd step fault_ne_ok
  · rename_i before sub last
    simp only [bind_ok, Prod.exists] at step
    obtain ⟨count, r, read, step⟩ := step
    obtain ⟨least, most⟩ := readCount_le read
    split at step
    · exact absurd step fault_ne_ok
    · split at step
      · exact absurd step fault_ne_ok
      · rename_i upwards
        cases step
        refine repeat_sound h last ⟨least, ?_⟩ _ _ _
        intro m bound
        have : count.least ≤ m := by simpa [bound] using upwards
        exact ⟨this, most m bound⟩

theorem step_sound {s s' : State} (h : s.Sound) (stepped : step s = .ok s') : s'.Sound := by
  have optional : Count.Bounded ⟨0, some 1⟩ := ⟨by decide, by simp [maxRepetition]⟩
  have many : Count.Bounded ⟨0, none⟩ := ⟨by decide, by simp⟩
  have some : Count.Bounded ⟨1, none⟩ := ⟨by decide, by simp⟩
  unfold step at stepped
  split at stepped
  · exact openGroup_sound h stepped
  · exact closeGroup_sound h stepped
  · cases stepped
    exact pushBranch_sound h
  · simp only [bind_ok, Prod.exists] at stepped
    obtain ⟨a, r, read, made⟩ := stepped
    cases made
    obtain ⟨span, negated, set, rfl, ordered⟩ := readClass_ordered read
    exact push_sound h _ _ _ ordered rfl
  · exact repeatPlain_sound h optional stepped
  · exact repeatPlain_sound h many stepped
  · exact repeatPlain_sound h some stepped
  · exact repeatCounted_sound h stepped
  · simp only [bind_ok, Prod.exists] at stepped
    obtain ⟨e, r, _, made⟩ := stepped
    cases made
    exact push_sound h _ _ _ (element_sound e).1 (element_sound e).2

/-- A pattern that was read: sound, its capture groups numbered in order, no name given twice. -/
structure Ast.Read (a : Ast) : Prop where
  sound : a.Sound
  numbered : ∃ n, a.captures.map (·.1) = List.range' 1 n
  distinct : (a.captures.filterMap (·.2)).Nodup

theorem finish_read {s : State} {a : Ast} (h : s.Sound) (done : finish s = .ok a) : a.Read := by
  obtain ⟨sub, _, found⟩ := closeBranches_sound s.reader.place h.frames h.parts
  simp only [finish] at done
  split at done
  · rename_i same
    cases done
    rw [same] at found
    have whole : (closeBranches s.frames s.parts s.reader.place).1.captures = s.found := found
    refine ⟨sub, ⟨s.captures, by rw [whole, h.numbered]⟩, ?_⟩
    rw [whole, h.named]
    exact h.distinct
  · exact absurd done fault_ne_ok
  · exact absurd done fault_ne_ok

theorem runFuel_read {fuel : Nat} {s : State} {a : Ast} (h : s.Sound)
    (done : runFuel fuel s = .ok a) : a.Read := by
  induction fuel generalizing s with
  | zero => exact finish_read h done
  | succ fuel ih =>
    have skipped : { s with reader := s.reader.skipBlanks s.verbose }.Sound :=
      State.sound_of_found h h.frames h.parts rfl rfl rfl
    simp only [runFuel] at done
    split at done
    · exact finish_read skipped done
    · obtain ⟨s', stepped, rest⟩ := bind_ok.mp done
      exact ih (step_sound skipped stepped) rest

theorem readPattern_read {verbose : Bool} {text : Text} {a : Ast}
    (h : readPattern verbose text = .ok a) : a.Read := by
  have start : State.Sound ⟨verbose, .ofText text, [], ⟨.start, []⟩, 0, []⟩ :=
    ⟨fun f mem => absurd mem List.not_mem_nil, trivial, rfl, rfl, List.nodup_nil⟩
  exact runFuel_read start h

theorem readPattern_of_parse {verbose : Bool} {text : Text} {a : Ast}
    (h : Ast.parse verbose text = .ok a) : readPattern verbose text = .ok a := by
  obtain ⟨b, read, rest⟩ := bind_ok.mp h
  obtain ⟨_, _, same⟩ := bind_ok.mp rest
  cases same
  exact read

theorem Ast.parse_read {verbose : Bool} {text : Text} {a : Ast}
    (h : Ast.parse verbose text = .ok a) : a.Read :=
  readPattern_read (readPattern_of_parse h)

end TextCursor.Pattern
