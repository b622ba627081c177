import Mathlib.Order.Interval.Finset.Nat
import QueryLoom.Proofs.Batching

/-!
# Numbers of batched commands

A command is numbered from where the grouping stands: from zero where no batch is open, and
otherwise from behind every command with a statement in the open batch. Different commands in one
batch therefore use different numbers, also where the statements of one of them lie on both sides
of a full batch.
-/

namespace QueryLoom

variable {c : Compiler}

/-- The numbers of the parameters of a part. -/
def Part.numbers (p : Part) : Finset Nat := Finset.Ico p.number p.compiled.nextParameter

theorem Part.Before.disjoint {p q : Part} (h : p.Before q) : Disjoint p.numbers q.numbers := by
  rw [Finset.disjoint_left]
  intro n hp hq
  have hend := (Finset.mem_Ico.mp hp).2
  have hstart := (Finset.mem_Ico.mp hq).1
  have hbefore := h.2
  omega

/-- Statements that come from different places of a list of commands use different numbers. -/
def Apart (a b : Contribution) : Prop := a.1.place ≠ b.1.place → Disjoint a.1.numbers b.1.numbers

theorem apart_self (a : Contribution) : Apart a a := fun hplace => absurd rfl hplace

instance : Std.Symm Apart where
  symm _ _ h hplace := (h hplace.symm).symm

theorem Together.apart {entries : List Contribution} (h : Together entries) :
    ∀ a ∈ entries, ∀ b ∈ entries, Apart a b := by
  have hpairs : entries.Pairwise Apart := by
    refine h.ordered.imp ?_
    rintro a b (hsame | hbefore) hplace
    · exact absurd (congrArg Part.place hsame) hplace
    · exact hbefore.disjoint
  intro a ha b hb
  exact hpairs.forall_of_forall (fun a _ => apart_self a) ha hb

theorem BatchOf.apart {batch : Statement} {entries : List Contribution}
    (h : BatchOf batch entries) : ∀ a ∈ entries, ∀ b ∈ entries, Apart a b := by
  cases h with
  | alone e halone =>
    intro a ha b hb
    rw [List.mem_singleton.mp ha, List.mem_singleton.mp hb]
    exact apart_self e
  | together entries htogether => exact htogether.apart

namespace Batcher

/-- Without an open batch, parameters are numbered from zero. -/
def IdleAtZero (b : Batcher) : Prop := b.current = none → b.nextParameter = 0

theorem idleAtZero_add (b : Batcher) (compiled : Compiled) : (b.add compiled).IdleAtZero := by
  intro hnone
  have hpushed : (compiled.statements.foldl push b).current = none := hnone
  simp only [add, hpushed, Option.isSome_none, Bool.false_eq_true, if_false]

theorem IdleAtZero.after {b : Batcher} (h : b.IdleAtZero) (parts : List Part) :
    (b.after parts).IdleAtZero := by
  induction parts generalizing b with
  | nil => exact h
  | cons p rest ih => exact ih (b.idleAtZero_add p.compiled)

end Batcher

/-- Each command is compiled at the number where the grouping stands before it: at zero where no
batch is open, and otherwise not below the end of any command with a statement in the open batch.
The numbers of different commands in one batch are disjoint. -/
theorem batches_numbered {c : Compiler} {limits : BatchLimits} {commands : List Command}
    {batches : List Statement} {count : Nat}
    (h : c.batches limits commands = .ok (batches, count)) :
    ∃ parts groups, PartsOf c 0 commands parts ∧
      batches = ((Batcher.ofLimits limits).after parts).finish ∧
      (∀ front p back, parts = front ++ p :: back →
        let b := (Batcher.ofLimits limits).after front
        p.number = b.nextParameter ∧ (b.current = none → p.number = 0) ∧
          ∃ closed opened, Grouped b closed opened ∧
            closed.flatten ++ opened = front.flatMap Part.contributions ∧
            ∀ a ∈ opened, a.1.compiled.nextParameter ≤ p.number) ∧
      groups.flatten = parts.flatMap Part.contributions ∧
      List.Forall₂ (fun batch group => BatchOf batch group ∧
        ∀ a ∈ group, ∀ b ∈ group, Apart a b) batches groups := by
  obtain ⟨parts, hparts, hthreaded, rfl, -⟩ := batches_eq_ok h
  obtain ⟨closed, opened, hgrouped, hflat, -⟩ := hthreaded.grouped_ofLimits
  obtain ⟨groups, hflush, hflat'⟩ := hgrouped.flush
  refine ⟨parts, groups, hparts, rfl, ?_, hflat'.trans hflat, ?_⟩
  · rintro front p back rfl b
    obtain ⟨hfront, -, hnumber, -, -⟩ := Threaded.append.mp hthreaded
    obtain ⟨closed, opened, hgrouped, hflat, hbelow⟩ := hfront.grouped_ofLimits
    have hidle : (Batcher.ofLimits limits).IdleAtZero := fun _ => rfl
    refine ⟨hnumber, ?_, closed, opened, hgrouped, hflat, ?_⟩
    · intro hnone
      rw [hnumber]
      exact hidle.after front hnone
    · intro a ha
      rw [hnumber]
      exact (hbelow a ha).2
  · exact hflush.closed.imp fun _ _ hbatch => ⟨hbatch, hbatch.apart⟩

/-- A schema of readings, with a physical table for each station. -/
def readingCompiler : Compiler where
  schema := ⟨[{ name := "Reading", table := "READING", fields := [
    { property := "Id", column := "Id" },
    { property := "Station", column := "Station", role := { split := true } }] }]⟩

/-- The deletion of some readings from the tables of some stations. -/
def readingDeletion (id : Int64) (stations : List Int64) : Command :=
  .delete { entity := "Reading", splitValues := stations.map .int, query := some {
    conditions := [⟨.and, .criterion ⟨"Id", .equal, .int id, none⟩⟩] } }

/-- Three statements and two more in batches of two: the second batch holds the end of the first
command and the start of the second one, which are numbered 0 and 1. -/
theorem straddlingDeletions_numbered :
    let limits : BatchLimits := { statements := 2 }
    let commands := [readingDeletion 7 [1, 2, 3], readingDeletion 8 [1, 2]]
    ∃ batches, readingCompiler.batches limits commands = .ok (batches, 5) ∧
      batches.map (·.parameters.names) = [["Id0"], ["Id0", "Id1"], ["Id1"]] ∧
      ∃ parts groups, PartsOf readingCompiler 0 commands parts ∧
        parts.map (·.number) = [0, 1] ∧ groups.flatten = parts.flatMap Part.contributions ∧
        List.Forall₂ (fun batch group => BatchOf batch group ∧
          ∀ a ∈ group, ∀ b ∈ group, Apart a b) batches groups := by
  intro limits commands
  obtain ⟨⟨batches, count⟩, h⟩ := exists_ok_of_isSome
    (x := readingCompiler.batches limits commands) (by decide +kernel)
  have hread : (readingCompiler.batches limits commands).toOption.map (fun (batches, count) =>
      (batches.map (·.parameters.names), count)) =
        some ([["Id0"], ["Id0", "Id1"], ["Id1"]], 5) := by
    decide +kernel
  rw [h] at hread
  obtain ⟨hnames, rfl⟩ := Prod.mk.inj (Option.some.inj hread)
  obtain ⟨parts, groups, hparts, -, hnumbers, hflat, hbatches⟩ := batches_numbered h
  refine ⟨batches, h, hnames, parts, groups, hparts, ?_, hflat, hbatches⟩
  have hplaces : parts.map (fun p => (p.command, p.place)) =
      [(readingDeletion 7 [1, 2, 3], 0), (readingDeletion 8 [1, 2], 1)] := hparts.commands
  obtain ⟨first, rest, rfl, hfirst, hrest⟩ := List.map_eq_cons_iff.mp hplaces
  obtain ⟨second, none, rfl, -, hnone⟩ := List.map_eq_cons_iff.mp hrest
  obtain rfl := List.map_eq_nil_iff.mp hnone
  have hzero : first.number = 0 := (hnumbers [] first [second] rfl).1
  have hcompiles : first.Compiles readingCompiler := hparts.compiles first List.mem_cons_self
  rw [Part.Compiles, (Prod.mk.inj hfirst).1, hzero] at hcompiles
  have hnext : (readingCompiler.command (readingDeletion 7 [1, 2, 3]) 0).toOption.map
      (fun compiled => ((Batcher.ofLimits limits).add compiled).nextParameter) = some 1 := by
    decide +kernel
  rw [hcompiles] at hnext
  have hone : second.number = 1 :=
    (hnumbers [first] second [] rfl).1.trans (Option.some.inj hnext)
  rw [List.map_cons, List.map_singleton, hzero, hone]

end QueryLoom
