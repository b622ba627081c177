import Mathlib.Data.List.Forall2
import QueryLoom.Proofs.BatchPartition
import QueryLoom.Proofs.StatementBindings

/-!
# What a batch gathers

Every batch is one statement that runs alone, or a run of statements that do not, in the order of
their commands. The numbers of different commands in one batch do not overlap, although a command
may have its statements on both sides of a full batch.

## Implementation notes

A grouping does not keep where its statements come from. `Grouped` states it beside the grouping:
every statement taken in is listed with the compilation of its command, closed batches group by
group and then those of the open batch.
-/

namespace QueryLoom

variable {c : Compiler}

/-- The compilation of one command of a list: its place in the list, the number at which its
parameters start, and what comes of it. -/
structure Part where
  place : Nat
  command : Command
  number : Nat
  compiled : Compiled

/-- A statement with the compilation that it comes from. -/
abbrev Contribution := Part × Statement

namespace Part

/-- The statements of a part. -/
def contributions (p : Part) : List Contribution := p.compiled.statements.map (p, ·)

/-- A part comes before another one, and its numbers end before those of the other. -/
def Before (p q : Part) : Prop :=
  p.place < q.place ∧ p.compiled.nextParameter ≤ q.number

/-- A part is what a command of its number compiles to. -/
def Compiles (c : Compiler) (p : Part) : Prop :=
  c.command p.command p.number = .ok p.compiled

theorem Compiles.number_le {p : Part} (h : p.Compiles c) :
    p.number ≤ p.compiled.nextParameter := by
  have hnext := (command_placed h).1
  omega

end Part

/-- The open batch of some statements. -/
def gathered (entries : List Contribution) : OpenBatch :=
  (entries.map (·.2)).foldl OpenBatch.append {}

/-- What was gathered does not depend on who contributed it. -/
theorem gathered_eq_ofList (entries : List Contribution) :
    gathered entries = OpenBatch.ofList (entries.map Prod.snd) := rfl

theorem gathered_append (entries : List Contribution) (e : Contribution) :
    gathered (entries ++ [e]) = (gathered entries).append e.2 := by
  simp [gathered]

/-- Statements that can run in one text, in the order of their commands. -/
structure Together (entries : List Contribution) : Prop where
  nonempty : entries ≠ []
  shared : ∀ e ∈ entries, e.2.alone = false
  ordered : entries.Pairwise fun a b => a.1 = b.1 ∨ a.1.Before b.1

/-- What a batch is made of: one statement that runs alone, or several in one text. -/
inductive BatchOf : Statement → List Contribution → Prop where
  | alone (e : Contribution) (h : e.2.alone = true) : BatchOf e.2 [e]
  | together (entries : List Contribution) (h : Together entries) :
      BatchOf (gathered entries).close entries

/-- The closed batches of a grouping hold some groups of statements, and the open one holds the
statements after them. -/
structure Grouped (b : Batcher) (groups : List (List Contribution))
    (opened : List Contribution) : Prop where
  closed : List.Forall₂ BatchOf b.closed groups
  current : b.current = if opened.isEmpty then none else some (gathered opened)
  together : opened ≠ [] → Together opened

namespace Grouped

variable {b : Batcher} {groups : List (List Contribution)} {opened : List Contribution}

theorem ofLimits (limits : BatchLimits) : Grouped (Batcher.ofLimits limits) [] [] :=
  ⟨.nil, rfl, fun h => absurd rfl h⟩

theorem current_none (h : Grouped b groups []) : b.current = none := h.current

theorem current_some (h : Grouped b groups opened) (hopened : opened ≠ []) :
    b.current = some (gathered opened) := by
  rw [h.current, if_neg (by simpa using hopened)]

/-- Closing the open batch makes it the last group. -/
theorem close (h : List.Forall₂ BatchOf b.closed groups) (hopened : Together opened) :
    Grouped (b.close (gathered opened)) (groups ++ [opened]) [] :=
  ⟨List.rel_append h (.cons (.together opened hopened) .nil), rfl, fun h => absurd rfl h⟩

/-- Nothing is open after a flush, and nothing is lost. -/
theorem flush (h : Grouped b groups opened) :
    ∃ groups', Grouped b.flush groups' [] ∧ groups'.flatten = groups.flatten ++ opened := by
  unfold Batcher.flush
  by_cases hopened : opened = []
  · subst hopened
    rw [h.current_none]
    exact ⟨groups, h, (List.append_nil _).symm⟩
  · rw [h.current_some hopened]
    exact ⟨groups ++ [opened], close h.closed (h.together hopened), by simp⟩

/-- A statement goes to the end of the open batch, or makes a batch of its own. -/
theorem push {e : Contribution} (h : Grouped b groups opened)
    (hlast : ∀ a ∈ opened, a.1 = e.1 ∨ a.1.Before e.1) :
    ∃ groups' opened', Grouped (b.push e.2) groups' opened' ∧
      groups'.flatten ++ opened' = groups.flatten ++ opened ++ [e] ∧
      ∀ a ∈ opened', a ∈ opened ∨ a = e := by
  unfold Batcher.push
  by_cases halone : e.2.alone = true
  · obtain ⟨groups', hflush, hflat⟩ := h.flush
    rw [if_pos halone]
    refine ⟨groups' ++ [[e]], [], ?_, ?_, fun a ha => absurd ha (List.not_mem_nil)⟩
    · exact ⟨List.rel_append hflush.closed (.cons (.alone e halone) .nil), hflush.current,
        fun h => absurd rfl h⟩
    · simp [hflat]
  · rw [if_neg halone]
    have hbatch : (b.current.getD {}).append e.2 = gathered (opened ++ [e]) := by
      rw [gathered_append]
      by_cases hopened : opened = []
      · subst hopened
        rw [h.current_none]
        rfl
      · rw [h.current_some hopened]
        rfl
    have htogether : Together (opened ++ [e]) := by
      refine ⟨by simp, ?_, ?_⟩
      · intro a ha
        rcases List.mem_append.mp ha with ha | ha
        · exact (h.together (List.ne_nil_of_mem ha)).shared a ha
        · rw [List.mem_singleton.mp ha]
          simpa using halone
      · refine List.pairwise_append.mpr ⟨?_, List.pairwise_singleton _ _, ?_⟩
        · by_cases hopened : opened = []
          · subst hopened
            exact .nil
          · exact (h.together hopened).ordered
        · intro a ha a' ha'
          rw [List.mem_singleton.mp ha']
          exact hlast a ha
    have hmem : ∀ a ∈ opened ++ [e], a ∈ opened ∨ a = e := by
      intro a ha
      simpa using ha
    simp only [hbatch]
    split
    · refine ⟨groups ++ [opened ++ [e]], [], close h.closed htogether, by simp, ?_⟩
      exact fun a ha => absurd ha (List.not_mem_nil)
    · refine ⟨groups, opened ++ [e], ⟨h.closed, ?_, fun _ => htogether⟩, by simp, hmem⟩
      simp

/-- The statements of a part are taken in one after the other. -/
theorem pushAll {p : Part} (statements : List Statement) (h : Grouped b groups opened)
    (hlast : ∀ a ∈ opened, a.1 = p ∨ a.1.Before p) :
    ∃ groups' opened', Grouped (statements.foldl Batcher.push b) groups' opened' ∧
      groups'.flatten ++ opened' = groups.flatten ++ opened ++ statements.map (p, ·) ∧
      ∀ a ∈ opened', a.1 = p ∨ a.1.Before p := by
  induction statements generalizing b groups opened with
  | nil => exact ⟨groups, opened, h, by simp, hlast⟩
  | cons first rest ih =>
    obtain ⟨groups', opened', hpush, hflat, hmem⟩ := h.push (e := (p, first)) hlast
    have hlast' : ∀ a ∈ opened', a.1 = p ∨ a.1.Before p := by
      intro a ha
      rcases hmem a ha with hold | rfl
      · exact hlast a hold
      · exact .inl rfl
    obtain ⟨groups'', opened'', hrest, hflat', hlast''⟩ := ih hpush hlast'
    refine ⟨groups'', opened'', hrest, ?_, hlast''⟩
    rw [hflat', hflat]
    simp

/-- The open batch is numbered below where the grouping stands. -/
def Below (b : Batcher) (place : Nat) (opened : List Contribution) : Prop :=
  ∀ a ∈ opened, a.1.place < place ∧ a.1.compiled.nextParameter ≤ b.nextParameter

/-- Taking in a command keeps the open batch numbered below where the grouping stands. -/
theorem add {p : Part} (h : Grouped b groups opened) (hbelow : Below b p.place opened)
    (hnumber : p.number = b.nextParameter) (hp : p.Compiles c) :
    ∃ groups' opened', Grouped (b.add p.compiled) groups' opened' ∧
      groups'.flatten ++ opened' = groups.flatten ++ opened ++ p.contributions ∧
      Below (b.add p.compiled) (p.place + 1) opened' := by
  have hlast : ∀ a ∈ opened, a.1 = p ∨ a.1.Before p := by
    intro a ha
    obtain ⟨hplace, hnext⟩ := hbelow a ha
    exact .inr ⟨hplace, hnumber ▸ hnext⟩
  obtain ⟨groups', opened', hpushed, hflat, hmem⟩ :=
    h.pushAll p.compiled.statements hlast
  refine ⟨groups', opened', ⟨hpushed.closed, hpushed.current, hpushed.together⟩, hflat, ?_⟩
  intro a ha
  have hsome : (p.compiled.statements.foldl Batcher.push b).current.isSome = true := by
    rw [hpushed.current_some (List.ne_nil_of_mem ha)]
    rfl
  have hnext : (b.add p.compiled).nextParameter = p.compiled.nextParameter := by
    simp only [Batcher.add, hsome, if_true]
  rw [hnext]
  rcases hmem a ha with rfl | ⟨hplace, hend⟩
  · exact ⟨Nat.lt_succ_self _, Nat.le_refl _⟩
  · exact ⟨Nat.lt_succ_of_lt hplace, hend.trans hp.number_le⟩

end Grouped

/-- The compilations of a list of commands from a place on. -/
structure PartsOf (c : Compiler) (place : Nat) (commands : List Command) (parts : List Part) :
    Prop where
  commands : parts.map (fun p => (p.command, p.place)) = commands.zipIdx place
  compiles : ∀ p ∈ parts, p.Compiles c

theorem PartsOf.cons {place : Nat} {commands : List Command} {parts : List Part} {p : Part}
    (hp : p.Compiles c) (hplace : p.place = place) (h : PartsOf c (place + 1) commands parts) :
    PartsOf c place (p.command :: commands) (p :: parts) := by
  constructor
  · rw [List.map_cons, h.commands, List.zipIdx_cons, hplace]
  · intro q hq
    rcases List.mem_cons.mp hq with rfl | hq
    · exact hp
    · exact h.compiles q hq

/-- A grouping after some parts. -/
def Batcher.after (b : Batcher) (parts : List Part) : Batcher :=
  parts.foldl (fun b p => b.add p.compiled) b

/-- The parts stand one after the other, and each starts at the number where the grouping stands
before it. -/
def Threaded (c : Compiler) (b : Batcher) (place : Nat) : List Part → Prop
  | [] => True
  | p :: rest => p.place = place ∧ p.number = b.nextParameter ∧ p.Compiles c ∧
      Threaded c (b.add p.compiled) (place + 1) rest

namespace Threaded

variable {b : Batcher} {place : Nat} {front back parts : List Part}

theorem append : Threaded c b place (front ++ back) ↔
    Threaded c b place front ∧ Threaded c (b.after front) (place + front.length) back := by
  induction front generalizing b place with
  | nil => simp [Threaded, Batcher.after]
  | cons p front ih =>
    have hlength : place + (p :: front).length = place + 1 + front.length := by
      rw [List.length_cons]
      omega
    rw [List.cons_append, Threaded, ih, Threaded, hlength]
    simp only [Batcher.after, List.foldl_cons, and_assoc]

/-- Taking in parts keeps every statement, in order, and the open batch numbered below where the
grouping stands. -/
theorem grouped {groups : List (List Contribution)} {opened : List Contribution}
    (hparts : Threaded c b place parts) (h : Grouped b groups opened)
    (hbelow : Grouped.Below b place opened) :
    ∃ groups' opened', Grouped (b.after parts) groups' opened' ∧
      groups'.flatten ++ opened' = groups.flatten ++ opened ++ parts.flatMap Part.contributions ∧
      Grouped.Below (b.after parts) (place + parts.length) opened' := by
  induction parts generalizing b place groups opened with
  | nil => exact ⟨groups, opened, h, by simp, hbelow⟩
  | cons p rest ih =>
    obtain ⟨rfl, hnumber, hp, hrest⟩ := hparts
    obtain ⟨groups', opened', hadd, hflat, hbelow'⟩ := h.add hbelow hnumber hp
    obtain ⟨groups'', opened'', hgrouped, hflat', hbelow''⟩ := ih hrest hadd hbelow'
    refine ⟨groups'', opened'', hgrouped, ?_, ?_⟩
    · rw [hflat', hflat, List.flatMap_cons, List.append_assoc _ _ (List.flatMap _ _)]
    · rw [List.length_cons, Nat.add_comm rest.length, ← Nat.add_assoc]
      exact hbelow''

end Threaded

/-- Commands are taken in one after the other, each compiled at the number where the grouping
stands. -/
theorem addCommands_threaded {commands : List Command} {b b' : Batcher} {count count' : Nat}
    (place : Nat) (hrun : c.addCommands b count commands = .ok (b', count')) :
    ∃ parts, PartsOf c place commands parts ∧ Threaded c b place parts ∧ b' = b.after parts ∧
      count' = count + (parts.flatMap Part.contributions).length := by
  induction commands generalizing b count place with
  | nil =>
    cases hrun
    exact ⟨[], ⟨rfl, by simp⟩, trivial, rfl, rfl⟩
  | cons command rest ih =>
    simp only [Compiler.addCommands, except_bind_eq_ok] at hrun
    obtain ⟨compiled, hcompiled, hrest⟩ := hrun
    let p : Part := ⟨place, command, b.nextParameter, compiled⟩
    obtain ⟨parts, hparts, hthreaded, hafter, hcount⟩ := ih (place + 1) hrest
    refine ⟨p :: parts, .cons (p := p) hcompiled rfl hparts, ⟨rfl, rfl, hcompiled, hthreaded⟩,
      hafter, ?_⟩
    rw [hcount, List.flatMap_cons, List.length_append, Nat.add_assoc, Part.contributions,
      List.length_map]

theorem batches_eq_ok {limits : BatchLimits} {commands : List Command}
    {batches : List Statement} {count : Nat}
    (h : c.batches limits commands = .ok (batches, count)) :
    ∃ parts, PartsOf c 0 commands parts ∧ Threaded c (Batcher.ofLimits limits) 0 parts ∧
      batches = ((Batcher.ofLimits limits).after parts).finish ∧
      count = (parts.flatMap Part.contributions).length := by
  simp only [Compiler.batches, except_bind_eq_ok] at h
  obtain ⟨⟨b, count'⟩, hrun, h⟩ := h
  cases h
  obtain ⟨parts, hparts, hthreaded, rfl, hcount⟩ := addCommands_threaded 0 hrun
  exact ⟨parts, hparts, hthreaded, rfl, by simpa using hcount⟩

/-- What is open and what is closed after some of the first parts. -/
theorem Threaded.grouped_ofLimits {limits : BatchLimits} {parts : List Part}
    (h : Threaded c (Batcher.ofLimits limits) 0 parts) :
    ∃ groups opened, Grouped ((Batcher.ofLimits limits).after parts) groups opened ∧
      groups.flatten ++ opened = parts.flatMap Part.contributions ∧
      Grouped.Below ((Batcher.ofLimits limits).after parts) parts.length opened := by
  obtain ⟨groups, opened, hgrouped, hflat, hbelow⟩ :=
    h.grouped (Grouped.ofLimits limits) (fun a ha => absurd ha List.not_mem_nil)
  exact ⟨groups, opened, hgrouped, hflat, by simpa using hbelow⟩

/-- The batches of commands hold the statements of every command, in order, and are numbered so
that different commands in one batch do not overlap. -/
theorem batches_grouped {limits : BatchLimits} {commands : List Command}
    {batches : List Statement} {count : Nat}
    (h : c.batches limits commands = .ok (batches, count)) :
    ∃ parts groups, PartsOf c 0 commands parts ∧ List.Forall₂ BatchOf batches groups ∧
      groups.flatten = parts.flatMap Part.contributions ∧
      count = (parts.flatMap Part.contributions).length := by
  obtain ⟨parts, hparts, hthreaded, rfl, hcount⟩ := batches_eq_ok h
  obtain ⟨groups, opened, hgrouped, hflat, -⟩ := hthreaded.grouped_ofLimits
  obtain ⟨groups', hflush, hflat'⟩ := hgrouped.flush
  exact ⟨parts, groups', hparts, hflush.closed, hflat'.trans hflat, hcount⟩

end QueryLoom
