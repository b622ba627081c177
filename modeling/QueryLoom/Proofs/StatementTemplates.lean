import QueryLoom.Proofs.ShiftedCommands
import QueryLoom.Proofs.StatementBindings

/-!
# Templates of statements

The statements of a command as templates: text with holes for the numbers of its placeholders. A
command has its templates, or its error, once and for all; the number at which its parameters start
only fills the holes.

## Implementation notes

The templates are read off the statements at number zero, and `command_shift` carries them to every
other number. A hole is one of the bindings of the command, so its index is below their number.
-/

namespace QueryLoom

/-- A piece of a template: text as it is written, or a hole for the number of a placeholder. -/
inductive TemplatePiece where
  | literal (text : String)
  | hole (name : String) (index : Nat)
deriving Repr, DecidableEq

/-- A piece with its hole, if it is one, filled from a number on. -/
def TemplatePiece.render (number : Nat) : TemplatePiece → String
  | .literal text => text
  | .hole name index => ":" ++ name ++ toString (index + number)

/-- A statement without the numbers of its placeholders. -/
structure Template where
  pieces : List TemplatePiece
  kind : ScriptKind
  mustAffect : Bool
  hasTraversal : Bool
  alone : Bool
deriving Repr, DecidableEq

/-- The holes of pieces, in order. -/
def holesOf (pieces : List TemplatePiece) : List (String × Nat) :=
  pieces.filterMap fun
    | .hole name index => some (name, index)
    | .literal _ => none

/-- Pieces with their holes filled from a number on. -/
def renderPieces (number : Nat) : List TemplatePiece → String
  | [] => ""
  | piece :: rest => piece.render number ++ renderPieces number rest

/-- A statement is a template with its holes filled from a number on. -/
structure Template.FilledFrom (number : Nat) (template : Template) (statement : Statement) :
    Prop where
  script : statement.script.render = renderPieces number template.pieces
  kind : statement.kind = template.kind
  mustAffect : statement.mustAffect = template.mustAffect
  hasTraversal : statement.hasTraversal = template.hasTraversal
  alone : statement.alone = template.alone

/-! ## The template of a statement -/

/-- A token as a piece of a template. -/
def Token.piece : Token → TemplatePiece
  | .verbatim text => .literal text
  | .column tableAlias name => .literal (tableAlias ++ "." ++ name)
  | .placeholder name number => .hole name number

/-- A statement with its placeholders as holes. -/
def Statement.template (statement : Statement) : Template where
  pieces := statement.script.map Token.piece
  kind := statement.kind
  mustAffect := statement.mustAffect
  hasTraversal := statement.hasTraversal
  alone := statement.alone

/-- A token numbered further on is its piece filled from there. -/
theorem Token.render_shift (number : Nat) (token : Token) :
    (token.shift number).render = token.piece.render number := by
  cases token with
  | verbatim text => rfl
  | column tableAlias name => rfl
  | placeholder name index =>
    calc
      ":" ++ parameterName name (index + number)
      _ = ":" ++ (name ++ toString (index + number)) := rfl
      _ = ":" ++ name ++ toString (index + number) := (String.append_assoc).symm

theorem Sql.render_shift (number : Nat) (sql : Sql) :
    (sql.shift number).render = renderPieces number (sql.map Token.piece) := by
  induction sql with
  | nil => rfl
  | cons token rest ih =>
    change (token.shift number).render ++ (Sql.shift number rest).render = _
    rw [token.render_shift, ih]
    rfl

/-- The holes of a statement are its placeholders. -/
theorem Statement.holes_template (statement : Statement) :
    holesOf statement.template.pieces = statement.script.placeholders := by
  change (statement.script.map Token.piece).filterMap _ = statement.script.filterMap _
  rw [List.filterMap_map]
  apply List.filterMap_congr
  intro token _
  cases token <;> rfl

theorem Statement.ShiftOf.filled {number : Nat} {a b : Statement}
    (h : Statement.ShiftOf number a b) : a.template.FilledFrom number b := by
  constructor
  · rw [h.script]
    exact Sql.render_shift number a.script
  · exact h.kind
  · exact h.mustAffect
  · exact h.hasTraversal
  · exact h.alone

/-! ## Commands -/

variable {c : Compiler}

/-- The placeholders of a command that starts at zero are numbered below the number of its
bindings. -/
theorem placeholder_lt {command : Command} {compiled : Compiled}
    (h : c.command command 0 = .ok compiled) {statement : Statement}
    (hstatement : statement ∈ compiled.statements) {p : String × Nat}
    (hp : p ∈ statement.script.placeholders) : p.2 < compiled.nextParameter := by
  obtain ⟨hnext, hplaced⟩ := command_placed h
  by_cases htext : ∃ text, command = .text text
  · obtain ⟨text, rfl⟩ := htext
    cases h
    rw [List.mem_singleton.mp hstatement, Sql.placeholders_text] at hp
    exact absurd hp List.not_mem_nil
  · have hscript := (hplaced statement hstatement fun text heq => htext ⟨text, heq⟩).script
    have hissued : p ∈ issueBag 0 (c.bindings command) := by
      rw [← hscript]
      exact Multiset.mem_add.mpr (.inl (Sql.mem_bag.mpr hp))
    obtain ⟨i, hi, -, rfl⟩ := mem_writtenBag.mp hissued
    have hlt : i.2 < 0 + (c.bindings command).length := (number_of_mem_numbered hi).2
    rw [hnext]
    exact hlt

/-- Whether a command compiles does not depend on the number at which its parameters start: it fails
at every number with the same error, or it has one list of templates and one number of parameters,
and from every number on it yields these templates with their holes filled from there, carries the
same bindings under names that are numbered from there, and continues so many numbers further on. -/
theorem command_fills_templates (c : Compiler) (command : Command) :
    (∃ e, ∀ number, c.command command number = .error e) ∨
    ∃ (templates : List Template) (size : Nat),
      (∀ template ∈ templates, ∀ hole ∈ holesOf template.pieces, hole.2 < size) ∧
      ∀ number, ∃ compiled, c.command command number = .ok compiled ∧
        List.Forall₂ (Template.FilledFrom number) templates compiled.statements ∧
        compiled.nextParameter = number + size ∧
        ∀ statement ∈ compiled.statements, (∀ text, command ≠ .text text) →
          statement.parameters = parametersOf c number (c.bindings command) := by
  have hshift (number : Nat) :
      Agree (Compiled.ShiftOf number) (c.command command 0) (c.command command number) := by
    simpa using command_shift (c := c) (k := number) command 0
  cases hzero : c.command command 0 with
  | error e =>
    left
    refine ⟨e, fun number => ?_⟩
    have hnumber := hshift number
    rw [hzero] at hnumber
    cases hcommand : c.command command number with
    | error e' =>
      rw [hcommand] at hnumber
      cases hnumber
      rfl
    | ok compiled =>
      rw [hcommand] at hnumber
      cases hnumber
  | ok first =>
    right
    refine ⟨first.statements.map Statement.template, first.nextParameter, ?_, fun number => ?_⟩
    · intro template htemplate hole hhole
      obtain ⟨statement, hstatement, rfl⟩ := List.mem_map.mp htemplate
      rw [statement.holes_template] at hhole
      exact placeholder_lt hzero hstatement hhole
    · have hnumber := hshift number
      rw [hzero] at hnumber
      cases hcommand : c.command command number with
      | error e =>
        rw [hcommand] at hnumber
        cases hnumber
      | ok compiled =>
        rw [hcommand] at hnumber
        cases hnumber with
        | ok hfilled =>
          refine ⟨compiled, rfl, ?_, ?_, ?_⟩
          · apply List.forall₂_map_left_iff.mpr
            exact hfilled.statements.imp fun _ _ h => h.filled
          · rw [hfilled.nextParameter, Nat.add_comm]
          · intro statement hstatement htext
            exact ((command_placed hcommand).2 statement hstatement htext).parameters

end QueryLoom
