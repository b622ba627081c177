import Mathlib.Data.List.Chain
import QueryLoom.Batch

/-!
# Partition into batches

What comes of a new grouping, whatever is pushed into it and whenever it is flushed: the calls fall
into stretches, one after the other, and each stretch of pushes is one batch. A statement that runs
alone is a batch as it is. All others are batched in runs that are as long as the limits let them.

## Implementation notes

A run is described by its statements alone, without the open batch that gathers them: how many they
are and how many names their parameters have decide whether it is full. The open batch is never
full, so a run is full at its last statement at the earliest.
-/

namespace QueryLoom

/-! ## Runs of statements -/

/-- The parameters of some statements, put together from left to right. -/
def unitedParameters (statements : List Statement) : Parameters :=
  statements.foldl (fun ps s => ps.union s.parameters) Parameters.empty

/-- Some statements as one text, a script per line. -/
def joined (statements : List Statement) : Statement where
  script := Sql.separated "\n" (statements.map (·.script))
  parameters := unitedParameters statements
  kind := .text
  mustAffect := statements.any (·.mustAffect)
  hasTraversal := false
  alone := false

theorem Sql.render_separated (separator : String) (pieces : List Sql) :
    (Sql.separated separator pieces).render = separator.intercalate (pieces.map Sql.render) := by
  induction pieces with
  | nil => rfl
  | cons first rest ih =>
    cases rest with
    | nil => simp [separated]
    | cons second rest =>
      rw [separated, render_append, render_append, render_text, ih]
      · simp [String.intercalate_cons_cons, String.append_assoc]
      · exact List.cons_ne_nil _ _

/-- The text of a batch is the texts of its statements with line breaks between them. -/
theorem render_joined (statements : List Statement) :
    (joined statements).script.render = "\n".intercalate (statements.map (·.script.render)) := by
  rw [joined, Sql.render_separated, List.map_map]
  rfl

/-- The open batch of some statements. -/
def OpenBatch.ofList (statements : List Statement) : OpenBatch :=
  statements.foldl OpenBatch.append {}

namespace OpenBatch

theorem ofList_append (front : List Statement) (s : Statement) :
    ofList (front ++ [s]) = (ofList front).append s := by
  simp [ofList]

@[simp] theorem scripts_ofList (statements : List Statement) :
    (ofList statements).scripts = statements.map (·.script) := by
  induction statements using List.reverseRecOn with
  | nil => rfl
  | append_singleton front s ih => simp [ofList_append, append, ih]

@[simp] theorem parameters_ofList (statements : List Statement) :
    (ofList statements).parameters = unitedParameters statements := by
  induction statements using List.reverseRecOn with
  | nil => rfl
  | append_singleton front s ih => simp [ofList_append, append, ih, unitedParameters]

@[simp] theorem mustAffect_ofList (statements : List Statement) :
    (ofList statements).mustAffect = statements.any (·.mustAffect) := by
  induction statements using List.reverseRecOn with
  | nil => rfl
  | append_singleton front s ih => simp [ofList_append, append, ih]

theorem close_ofList (statements : List Statement) :
    (ofList statements).close = joined statements := by
  simp [close, joined]

end OpenBatch

/-! ## Stretches of calls -/

/-- A call of a grouping. -/
inductive BatchCall where
  | push (statement : Statement)
  | flush

namespace Batcher

/-- The grouping after a call. -/
def call (b : Batcher) : BatchCall → Batcher
  | .push statement => b.push statement
  | .flush => b.flush

/-- The grouping after some calls. -/
def called (b : Batcher) (calls : List BatchCall) : Batcher := calls.foldl call b

end Batcher

/-- A run of statements is as long as one of the limits. -/
def Full (limits : BatchLimits) (statements : List Statement) : Prop :=
  limits.maxStatements ≤ statements.length ∨
    limits.maxParameters ≤ (unitedParameters statements).size

/-- A run of statements that one batch may hold. -/
structure Fitting (limits : BatchLimits) (statements : List Statement) : Prop where
  nonempty : statements ≠ []
  shared : ∀ s ∈ statements, s.alone = false
  length : statements.length ≤ limits.maxStatements
  parameters : (unitedParameters statements.dropLast).size < limits.maxParameters

/-- Consecutive calls: the pushes of a run of statements, the push of a statement that runs alone,
or a flush. -/
inductive Stretch where
  | run (statements : List Statement)
  | alone (statement : Statement)
  | flush

namespace Stretch

/-- The calls of a stretch. -/
def calls : Stretch → List BatchCall
  | run statements => statements.map .push
  | alone statement => [.push statement]
  | flush => [.flush]

/-- The batches of a stretch: a run is one, and a flush is none. -/
def batches : Stretch → List Statement
  | run statements => [joined statements]
  | alone statement => [statement]
  | flush => []

/-- A stretch keeps to the limits. -/
def Fits (limits : BatchLimits) : Stretch → Prop
  | run statements => Fitting limits statements
  | alone statement => statement.alone = true
  | flush => True

/-- One stretch may stand behind another one: only a full run is followed by a run. -/
def MayPrecede (limits : BatchLimits) : Stretch → Stretch → Prop
  | run statements, run _ => Full limits statements
  | _, _ => True

end Stretch

/-- Some batches are those of some calls, cut into stretches that keep to the limits and are as long
as these let them be. -/
structure Partition (limits : BatchLimits) (stretches : List Stretch) (calls : List BatchCall)
    (batches : List Statement) : Prop where
  calls : stretches.flatMap Stretch.calls = calls
  batches : stretches.flatMap Stretch.batches = batches
  fits : ∀ stretch ∈ stretches, stretch.Fits limits
  maximal : stretches.IsChain (Stretch.MayPrecede limits)

variable {limits : BatchLimits} {stretches : List Stretch} {calls : List BatchCall}
  {batches : List Statement}

theorem Partition.nil : Partition limits [] [] [] := ⟨rfl, rfl, by simp, .nil⟩

/-- One more stretch behind the others. -/
theorem Partition.append (h : Partition limits stretches calls batches) (stretch : Stretch)
    (hfits : stretch.Fits limits)
    (hlast : ∀ last ∈ stretches.getLast?, last.MayPrecede limits stretch) :
    Partition limits (stretches ++ [stretch]) (calls ++ stretch.calls)
      (batches ++ stretch.batches) := by
  refine ⟨by simp [h.calls], by simp [h.batches], ?_, ?_⟩
  · intro other hother
    rcases List.mem_append.mp hother with hother | hother
    · exact h.fits other hother
    · rw [List.mem_singleton.mp hother]
      exact hfits
  · refine h.maximal.append (.singleton stretch) ?_
    intro last hmem other hother
    cases hother
    exact hlast last hmem

/-! ## The open run -/

/-- Nothing is not full. -/
theorem not_full_nil : ¬ Full limits [] := by
  have hstatements := BatchLimits.one_le_positive limits.statements
  have hparameters := BatchLimits.one_le_positive limits.parameters
  rintro (h | h)
  · exact absurd h (Nat.not_le_of_lt hstatements)
  · exact absurd h (Nat.not_le_of_lt hparameters)

/-- A run that is not full has room for one more statement. -/
theorem Fitting.append {opened : List Statement} {s : Statement}
    (hopened : opened ≠ [] → Fitting limits opened) (hroom : ¬ Full limits opened)
    (hs : s.alone = false) : Fitting limits (opened ++ [s]) := by
  obtain ⟨hlength, hsize⟩ := not_or.mp hroom
  refine ⟨by simp, ?_, ?_, ?_⟩
  · intro other hother
    rcases List.mem_append.mp hother with hother | hother
    · exact (hopened (List.ne_nil_of_mem hother)).shared other hother
    · rw [List.mem_singleton.mp hother]
      exact hs
  · rw [List.length_append, List.length_singleton]
    omega
  · rw [List.dropLast_concat]
    omega

/-- A grouping keeps to some limits. -/
structure Batcher.Within (b : Batcher) (limits : BatchLimits) : Prop where
  maxStatements : b.maxStatements = limits.maxStatements
  maxParameters : b.maxParameters = limits.maxParameters

/-- A batch is full exactly if its run is. -/
theorem Batcher.Within.isFull_iff {b : Batcher} (h : b.Within limits)
    (statements : List Statement) :
    b.isFull (OpenBatch.ofList statements) = true ↔ Full limits statements := by
  simp [Batcher.isFull, Full, h.maxStatements, h.maxParameters]

theorem Batcher.Within.flush {b : Batcher} (h : b.Within limits) : b.flush.Within limits := by
  unfold Batcher.flush
  split
  · exact ⟨h.maxStatements, h.maxParameters⟩
  · exact h

/-- A grouping has batched the first of some calls, and the pushes after them are its open run. -/
structure Gathers (limits : BatchLimits) (b : Batcher) (stretches : List Stretch)
    (front : List BatchCall) (opened : List Statement) : Prop where
  within : b.Within limits
  partition : Partition limits stretches front b.closed
  /-- A run may follow the last stretch. -/
  last : ∀ last ∈ stretches.getLast?, ∀ statements, last.MayPrecede limits (.run statements)
  current : b.current = if opened.isEmpty then none else some (OpenBatch.ofList opened)
  fitting : opened ≠ [] → Fitting limits opened
  room : ¬ Full limits opened

namespace Gathers

variable {b : Batcher} {front : List BatchCall} {opened : List Statement}

/-- Nothing is open behind a stretch that a run may follow. -/
theorem closed (hwithin : b.Within limits) (hpartition : Partition limits stretches front b.closed)
    (hlast : ∀ last ∈ stretches.getLast?, ∀ statements, last.MayPrecede limits (.run statements))
    (hcurrent : b.current = none) : Gathers limits b stretches front [] :=
  ⟨hwithin, hpartition, hlast, hcurrent, fun h => absurd rfl h, not_full_nil⟩

theorem ofLimits (limits : BatchLimits) : Gathers limits (Batcher.ofLimits limits) [] [] [] :=
  closed ⟨rfl, rfl⟩ .nil (by simp) rfl

/-- After a flush the open run, if there is one, is the last batch. -/
theorem flushed (h : Gathers limits b stretches front opened) :
    b.flush.current = none ∧
      ∃ stretches', Partition limits stretches' (front ++ opened.map .push) b.flush.closed := by
  unfold Batcher.flush
  by_cases hopened : opened = []
  · subst hopened
    rw [h.current]
    exact ⟨h.current, stretches, by simpa using h.partition⟩
  · rw [h.current, if_neg (by simpa using hopened)]
    refine ⟨rfl, stretches ++ [.run opened], ?_⟩
    have := h.partition.append (.run opened) (h.fitting hopened)
      fun last hlast => h.last last hlast opened
    simpa [Batcher.close, OpenBatch.close_ofList, Stretch.calls, Stretch.batches] using this

/-- A statement that runs alone closes the open run and is a batch. -/
theorem push_alone (h : Gathers limits b stretches front opened) {s : Statement}
    (hs : s.alone = true) :
    ∃ stretches', Gathers limits (b.push s) stretches'
      (front ++ opened.map .push ++ [.push s]) [] := by
  obtain ⟨hcurrent, stretches', hpartition⟩ := h.flushed
  rw [Batcher.push, if_pos hs]
  refine ⟨stretches' ++ [.alone s], closed ⟨h.within.flush.1, h.within.flush.2⟩ ?_ ?_ hcurrent⟩
  · refine hpartition.append (.alone s) hs ?_
    intro last _
    cases last <;> trivial
  · intro last hlast statements
    rw [List.getLast?_concat] at hlast
    cases hlast
    trivial

/-- Any other statement goes to the end of the open run, which is closed as soon as it is full. -/
theorem push_shared (h : Gathers limits b stretches front opened) {s : Statement}
    (hs : s.alone = false) :
    ∃ stretches' front' opened', Gathers limits (b.push s) stretches' front' opened' ∧
      front' ++ opened'.map .push = front ++ opened.map .push ++ [.push s] := by
  have hbatch : (b.current.getD {}).append s = OpenBatch.ofList (opened ++ [s]) := by
    rw [OpenBatch.ofList_append, h.current]
    cases opened <;> rfl
  have hfitting : Fitting limits (opened ++ [s]) := .append h.fitting h.room hs
  have hcalls : front ++ (opened ++ [s]).map .push = front ++ opened.map .push ++ [.push s] := by
    simp
  simp only [Batcher.push, hs, Bool.false_eq_true, if_false, hbatch]
  split
  · rename_i hisFull
    have hfull : Full limits (opened ++ [s]) := (h.within.isFull_iff _).mp hisFull
    refine ⟨stretches ++ [.run (opened ++ [s])], _, [], closed ⟨h.within.1, h.within.2⟩ ?_ ?_ rfl,
      by rw [List.map_nil, List.append_nil, ← hcalls]⟩
    · rw [Batcher.close, OpenBatch.close_ofList]
      exact h.partition.append (.run (opened ++ [s])) hfitting
        fun last hlast => h.last last hlast _
    · intro last hlast statements
      rw [List.getLast?_concat] at hlast
      cases hlast
      exact hfull
  · rename_i hisFull
    refine ⟨stretches, front, opened ++ [s], ⟨⟨h.within.1, h.within.2⟩, h.partition, h.last, ?_,
      fun _ => hfitting, fun hfull => hisFull ((h.within.isFull_iff _).mpr hfull)⟩, hcalls⟩
    simp

/-- A flush closes the open run. -/
theorem flush (h : Gathers limits b stretches front opened) :
    ∃ stretches', Gathers limits b.flush stretches' (front ++ opened.map .push ++ [.flush]) [] := by
  obtain ⟨hcurrent, stretches', hpartition⟩ := h.flushed
  refine ⟨stretches' ++ [.flush], closed h.within.flush ?_ ?_ hcurrent⟩
  · rw [← List.append_nil b.flush.closed]
    refine hpartition.append .flush trivial ?_
    intro last _
    cases last <;> trivial
  · intro last hlast statements
    rw [List.getLast?_concat] at hlast
    cases hlast
    trivial

/-- Each call is accounted for: by a stretch, or by the open run. -/
theorem call (h : Gathers limits b stretches front opened) (c : BatchCall) :
    ∃ stretches' front' opened', Gathers limits (b.call c) stretches' front' opened' ∧
      front' ++ opened'.map .push = front ++ opened.map .push ++ [c] := by
  cases c with
  | flush =>
    obtain ⟨stretches', hflush⟩ := h.flush
    exact ⟨stretches', _, [], hflush, by simp⟩
  | push s =>
    cases hs : s.alone with
    | true =>
      obtain ⟨stretches', hpush⟩ := h.push_alone hs
      exact ⟨stretches', _, [], hpush, by simp⟩
    | false => exact h.push_shared hs

/-- So are the calls of a whole run. -/
theorem called (h : Gathers limits b stretches front opened) (calls : List BatchCall) :
    ∃ stretches' front' opened', Gathers limits (b.called calls) stretches' front' opened' ∧
      front' ++ opened'.map .push = front ++ opened.map .push ++ calls := by
  induction calls generalizing b stretches front opened with
  | nil => exact ⟨stretches, front, opened, h, by simp⟩
  | cons first rest ih =>
    obtain ⟨stretches', front', opened', hfirst, hcalls⟩ := h.call first
    obtain ⟨stretches'', front'', opened'', hrest, hcalls'⟩ := ih hfirst
    refine ⟨stretches'', front'', opened'', hrest, ?_⟩
    rw [hcalls', hcalls, List.append_assoc, List.singleton_append]

end Gathers

/-- The batches of a new grouping are those of its calls, cut into stretches: a statement that runs
alone as it is, and runs of the others, each within the limits and ended by a full batch, a
statement that runs alone, a flush or the end. -/
theorem finish_partition (limits : BatchLimits) (calls : List BatchCall) :
    ∃ stretches, Partition limits stretches calls
      ((Batcher.ofLimits limits).called calls).finish := by
  obtain ⟨_, front, opened, hgathers, hcalls⟩ := (Gathers.ofLimits limits).called calls
  obtain ⟨-, stretches, hpartition⟩ := hgathers.flushed
  rw [hcalls] at hpartition
  exact ⟨stretches, hpartition⟩

/-- A limit below one is a limit of one. -/
example :
    ((Batcher.ofLimits { statements := -3 }).called
      [.push { script := Sql.text "A" }, .flush, .push { script := Sql.text "B" }]).finish.map
        (·.script.render) = ["A", "B"] := by
  decide +kernel

end QueryLoom
