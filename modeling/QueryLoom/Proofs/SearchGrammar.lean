import QueryLoom.Sql.Predicate

/-!
# Reading search conditions

The grammar of search conditions: a disjunction of conjunctions of operands, where an operand is a
leaf or a disjunction in parentheses. A text has at most one value under an assignment of truth
values to its leaves, and no OR stands outside parentheses in a conjunction.

## Implementation notes

Derivations build their texts from the left, as texts are put together. That they agree on the value
of a text is shown by a reader that goes through it once, part by part, and keeps the disjunction
and the conjunction that it is in.
-/

namespace QueryLoom

/-- The ranks of the grammar of search conditions. -/
inductive Rank where
  | operand
  | conjunction
  | disjunction

/-- A text of a rank has a truth value, where the leaves have the given ones. -/
inductive Reads (holds : Sql → Bool) : Rank → SearchText → Bool → Prop where
  | leaf (sql : Sql) : Reads holds .operand [.leaf sql] (holds sql)
  | parens {text : SearchText} {v : Bool} (h : Reads holds .disjunction text v) :
      Reads holds .operand text.parens v
  | single {text : SearchText} {v : Bool} (h : Reads holds .operand text v) :
      Reads holds .conjunction text v
  | and {a b : SearchText} {v w : Bool} (ha : Reads holds .conjunction a v)
      (hb : Reads holds .operand b w) : Reads holds .conjunction (a.connect .and b) (v && w)
  | only {text : SearchText} {v : Bool} (h : Reads holds .conjunction text v) :
      Reads holds .disjunction text v
  | or {a b : SearchText} {v w : Bool} (ha : Reads holds .disjunction a v)
      (hb : Reads holds .conjunction b w) : Reads holds .disjunction (a.connect .or b) (v || w)

/-! ## One value -/

/-- A reader in the middle of a text: the value of the conjunctions before, the value of the
conjunction so far, and both of them for each open parenthesis. -/
structure Reader where
  before : Bool := false
  current : Bool := true
  outer : List (Bool × Bool) := []

namespace Reader

/-- The value of what is read since the last open parenthesis. -/
def value (r : Reader) : Bool := r.before || r.current

/-- Reads one part. -/
def step (holds : Sql → Bool) (r : Reader) : SearchPart → Reader
  | .leaf sql => { r with current := r.current && holds sql }
  | .connective .and => r
  | .connective .or => { r with before := r.value, current := true }
  | .opening => { outer := (r.before, r.current) :: r.outer }
  | .closing =>
    match r.outer with
    | [] => r
    | (before, current) :: outer => ⟨before, current && r.value, outer⟩

/-- Reads a text. -/
def read (holds : Sql → Bool) (r : Reader) (text : SearchText) : Reader := text.foldl (step holds) r

theorem read_append (holds : Sql → Bool) (r : Reader) (a b : SearchText) :
    r.read holds (a ++ b) = (r.read holds a).read holds b := List.foldl_append

theorem read_cons (holds : Sql → Bool) (r : Reader) (part : SearchPart) (text : SearchText) :
    r.read holds (part :: text) = (r.step holds part).read holds text := rfl

theorem step_closing (holds : Sql → Bool) {r : Reader} {before current : Bool}
    {outer : List (Bool × Bool)} (h : r.outer = (before, current) :: outer) :
    r.step holds .closing = ⟨before, current && r.value, outer⟩ := by
  simp only [step, h]

end Reader

/-- What a text of a rank does to a reader: it takes part in the conjunction that is being read, or
it is read from the start of a disjunction. -/
def Reader.Takes (holds : Sql → Bool) (text : SearchText) (v : Bool) : Rank → Prop
  | .operand | .conjunction => ∀ r : Reader,
      r.read holds text = { r with current := r.current && v }
  | .disjunction => ∀ r : Reader, r.current = true →
      (r.read holds text).outer = r.outer ∧ (r.read holds text).value = (r.before || v)

theorem Reads.takes {holds : Sql → Bool} {rank : Rank} {text : SearchText} {v : Bool}
    (h : Reads holds rank text v) : Reader.Takes holds text v rank := by
  induction h with
  | leaf sql =>
    intro r
    rfl
  | @parens text v h ih =>
    intro r
    obtain ⟨houter, hvalue⟩ := ih { outer := (r.before, r.current) :: r.outer } rfl
    rw [Bool.false_or] at hvalue
    rw [SearchText.parens, List.cons_append, Reader.read_cons, Reader.read_append]
    have hclosing := Reader.step_closing holds houter
    rw [hvalue] at hclosing
    exact hclosing
  | single h ih => exact ih
  | @and a b v w ha hb iha ihb =>
    intro r
    rw [SearchText.connect, Reader.read_append, iha, Reader.read_cons]
    have hb := ihb { r with current := r.current && v }
    rw [Bool.and_assoc] at hb
    exact hb
  | only h ih =>
    intro r hcurrent
    rw [ih r, hcurrent, Bool.true_and]
    exact ⟨rfl, rfl⟩
  | @or a b v w ha hb iha ihb =>
    intro r hcurrent
    obtain ⟨houter, hvalue⟩ := iha r hcurrent
    rw [SearchText.connect, Reader.read_append, Reader.read_cons, ihb]
    refine ⟨houter, ?_⟩
    show ((r.read holds a).value || (true && w)) = _
    rw [hvalue, Bool.true_and, Bool.or_assoc]

/-- The grammar gives a text one value at most. -/
theorem Reads.unique {holds : Sql → Bool} {text : SearchText} {v w : Bool}
    (hv : Reads holds .disjunction text v) (hw : Reads holds .disjunction text w) : v = w := by
  have hv := (hv.takes {} rfl).2
  have hw := (hw.takes {} rfl).2
  exact hv.symm.trans hw

/-- A text whose leaves all hold is true. -/
theorem Reads.eq_true {holds : Sql → Bool} {rank : Rank} {text : SearchText} {v : Bool}
    (h : Reads holds rank text v) (hleaves : ∀ sql, .leaf sql ∈ text → holds sql = true) :
    v = true := by
  induction h with
  | leaf sql => exact hleaves sql (List.mem_singleton_self _)
  | parens h ih =>
    exact ih fun sql hsql => hleaves sql (List.mem_append_left _ (List.mem_cons_of_mem _ hsql))
  | single h ih => exact ih hleaves
  | and ha hb iha ihb =>
    rw [iha fun sql hsql => hleaves sql (List.mem_append_left _ hsql),
      ihb fun sql hsql => hleaves sql (List.mem_append_right _ (List.mem_cons_of_mem _ hsql))]
    rfl
  | only h ih => exact ih hleaves
  | or ha hb iha ihb =>
    rw [iha fun sql hsql => hleaves sql (List.mem_append_left _ hsql), Bool.true_or]

/-! ## The outermost OR -/

namespace SearchText

/-- Whether an OR stands outside the parentheses that open in a text, some of which are open
already. -/
def outerOr : Nat → SearchText → Bool
  | _, [] => false
  | depth, .leaf _ :: rest => outerOr depth rest
  | depth, .connective op :: rest => (depth == 0 && op == .or) || outerOr depth rest
  | depth, .opening :: rest => outerOr (depth + 1) rest
  | depth, .closing :: rest => outerOr (depth - 1) rest

/-- Whether an OR connects outermost parts of a text. -/
def hasOuterOr (text : SearchText) : Bool := outerOr 0 text

end SearchText

/-- What a text of a rank adds to the outermost ORs of a text that begins with it. -/
def OuterOrs (text : SearchText) : Rank → Prop
  | .operand | .conjunction => ∀ depth rest,
      SearchText.outerOr depth (text ++ rest) = SearchText.outerOr depth rest
  | .disjunction => ∀ rest,
      (∀ depth, SearchText.outerOr (depth + 1) (text ++ rest) =
        SearchText.outerOr (depth + 1) rest) ∧
      SearchText.outerOr 0 (text ++ rest) =
        (text.hasOuterOr || SearchText.outerOr 0 rest)

theorem Reads.outerOrs {holds : Sql → Bool} {rank : Rank} {text : SearchText} {v : Bool}
    (h : Reads holds rank text v) : OuterOrs text rank := by
  induction h with
  | leaf sql =>
    intro depth rest
    rfl
  | @parens text v h ih =>
    intro depth rest
    have hbody := (ih (.closing :: rest)).1 depth
    rw [SearchText.parens, List.cons_append, List.cons_append, List.append_assoc,
      SearchText.outerOr]
    exact hbody
  | single h ih => exact ih
  | @and a b v w ha hb iha ihb =>
    intro depth rest
    rw [SearchText.connect, List.append_assoc, iha, List.cons_append, SearchText.outerOr, ihb]
    simp
  | @only text v h ih =>
    intro rest
    have hnone : text.hasOuterOr = false := by
      have := ih 0 []
      rwa [List.append_nil] at this
    refine ⟨fun depth => ih (depth + 1) rest, ?_⟩
    rw [ih 0 rest, hnone, Bool.false_or]
  | @or a b v w ha hb iha ihb =>
    intro rest
    have hor : (a.connect .or b).hasOuterOr = true := by
      rw [SearchText.hasOuterOr, SearchText.connect, (iha (.connective .or :: b)).2,
        SearchText.outerOr]
      simp
    refine ⟨?_, ?_⟩
    · intro depth
      rw [SearchText.connect, List.append_assoc, List.cons_append,
        (iha (.connective .or :: (b ++ rest))).1, SearchText.outerOr, ihb]
      simp
    · rw [hor, SearchText.connect, List.append_assoc, List.cons_append,
        (iha (.connective .or :: (b ++ rest))).2, SearchText.outerOr]
      simp

/-- No OR stands outside parentheses in a conjunction. -/
theorem Reads.hasOuterOr_conjunction {holds : Sql → Bool} {text : SearchText} {v : Bool}
    (h : Reads holds .conjunction text v) : text.hasOuterOr = false := by
  have := h.outerOrs 0 []
  rwa [List.append_nil] at this

theorem Reads.hasOuterOr_or {holds : Sql → Bool} {a b : SearchText} {v : Bool}
    (ha : Reads holds .disjunction a v) : (a.connect .or b).hasOuterOr = true := by
  rw [SearchText.hasOuterOr, SearchText.connect, (ha.outerOrs (.connective .or :: b)).2,
    SearchText.outerOr]
  simp

/-- A text without an outermost OR is a conjunction. -/
theorem Reads.conjunction {holds : Sql → Bool} {text : SearchText} {v : Bool}
    (h : Reads holds .disjunction text v) (hor : text.hasOuterOr = false) :
    Reads holds .conjunction text v := by
  cases h with
  | only h => exact h
  | or ha hb =>
    rw [ha.hasOuterOr_or] at hor
    exact absurd hor.symm Bool.false_ne_true

/-- A conjunction may be put together from any two conjunctions. -/
theorem Reads.and_conjunction {holds : Sql → Bool} {a b : SearchText} {v w : Bool}
    (ha : Reads holds .conjunction a v) (hb : Reads holds .conjunction b w) :
    Reads holds .conjunction (a.connect .and b) (v && w) := by
  generalize hrank : Rank.conjunction = rank at hb
  induction hb with
  | leaf sql => cases hrank
  | parens h => cases hrank
  | single h => exact .and ha h
  | @and b' b'' v' v'' hb' hb'' ih =>
    have hassoc : a.connect .and (b'.connect .and b'') = (a.connect .and b').connect .and b'' := by
      simp [SearchText.connect]
    rw [hassoc, ← Bool.and_assoc]
    exact .and (ih rfl) hb''
  | only h => cases hrank
  | or ha hb => cases hrank

end QueryLoom
