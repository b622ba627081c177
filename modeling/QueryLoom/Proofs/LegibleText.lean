import Mathlib.Data.List.Chain
import QueryLoom.Clauses
import QueryLoom.Conventions

/-!
# Legible text

SQL text whose placeholders can be read off its characters. A reader of the script takes every colon
for the start of a placeholder, and the name goes on as long as there are letters and digits. It
finds the placeholders that were written if no other text holds a colon and if every name is
followed by a character of no name.

## Implementation notes

Whether text is legible can be told token by token, with a look at the next one behind a
placeholder. All text that the compiler puts behind a placeholder starts with a blank, a comma or a
parenthesis; such text is called a separator.
-/

namespace QueryLoom

/-! ## Reading names -/

/-- The characters of a name: letters, digits and the underscore. What is not ASCII counts as a
letter. -/
def isNameChar (c : Char) : Bool := c.isAlphanum || c == '_' || 128 ≤ c.toNat

/-- A text of characters of a name. -/
def IsName (text : String) : Prop := ∀ c ∈ text.toList, isNameChar c = true

instance (text : String) : Decidable (IsName text) :=
  List.decidableBAll _ text.toList

/-- The names that stand behind colons, where a part of a name has been read or not. -/
def readNames : Option (List Char) → List Char → List String
  | none, [] => []
  | none, c :: rest => readNames (if c == ':' then some [] else none) rest
  | some read, [] => [String.ofList read.reverse]
  | some read, c :: rest =>
    if isNameChar c then readNames (some (c :: read)) rest
    else String.ofList read.reverse :: readNames (if c == ':' then some [] else none) rest

/-- The names that stand behind colons in a text, in order. -/
def namesIn (text : String) : List String := readNames none text.toList

/-- A text without a colon. -/
def Colonless (text : String) : Prop := ':' ∉ text.toList

instance (text : String) : Decidable (Colonless text) := inferInstanceAs (Decidable (':' ∉ _))

@[simp] theorem colonless_append {a b : String} :
    Colonless (a ++ b) ↔ Colonless a ∧ Colonless b := by
  simp [Colonless, not_or]

theorem readNames_colonless {chars : List Char} (h : ':' ∉ chars) (rest : List Char) :
    readNames none (chars ++ rest) = readNames none rest := by
  induction chars with
  | nil => rfl
  | cons c chars ih =>
    obtain ⟨hc, hchars⟩ := List.ne_and_not_mem_of_not_mem_cons h
    have hother : (c == ':') = false := beq_false_of_ne (Ne.symm hc)
    rw [List.cons_append, readNames, hother, if_neg Bool.false_ne_true]
    exact ih hchars

theorem readNames_name {name : List Char} (h : ∀ c ∈ name, isNameChar c = true)
    (read rest : List Char) :
    readNames (some read) (name ++ rest) = readNames (some (name.reverse ++ read)) rest := by
  induction name generalizing read with
  | nil => rfl
  | cons c name ih =>
    rw [List.cons_append, readNames, if_pos (h c List.mem_cons_self),
      ih fun d hd => h d (List.mem_cons_of_mem _ hd)]
    simp

/-- A name ends where no character of a name follows. -/
theorem readNames_end {rest : List Char} (h : ∀ c ∈ rest.head?, isNameChar c = false)
    (read : List Char) :
    readNames (some read) rest = String.ofList read.reverse :: readNames none rest := by
  cases rest with
  | nil => rfl
  | cons c rest =>
    have hc : isNameChar c = false := h c rfl
    simp only [readNames, hc, Bool.false_eq_true, if_false]

theorem isName_toString (number : Nat) : IsName (toString number) := by
  intro c hc
  rw [Nat.toString_eq_repr, Nat.toList_repr] at hc
  have hdigit := Nat.isDigit_of_mem_toDigits (by omega) (by omega) hc
  simp [isNameChar, Char.isAlphanum, hdigit]

theorem IsName.append {a b : String} (ha : IsName a) (hb : IsName b) : IsName (a ++ b) := by
  intro c hc
  rw [String.toList_append] at hc
  rcases List.mem_append.mp hc with h | h
  · exact ha c h
  · exact hb c h

/-- A name has no colon. -/
theorem IsName.colonless {text : String} (h : IsName text) : Colonless text :=
  fun hmem => absurd (h ':' hmem) (by decide)

theorem colonless_toString (number : Nat) : Colonless (toString number) :=
  (isName_toString number).colonless

/-! ## Legible tokens -/

/-- A separator starts with a character of no name and has no colon. -/
structure Separator (text : String) : Prop where
  breaks : text.toList.head?.any (!isNameChar ·) = true
  colonless : Colonless text

instance (text : String) : Decidable (Separator text) :=
  decidable_of_iff (_ ∧ _) ⟨fun h => ⟨h.1, h.2⟩, fun h => ⟨h.1, h.2⟩⟩

theorem separator_blank {text : String} (h : Colonless text) : Separator (" " ++ text) := by
  refine ⟨?_, colonless_append.mpr ⟨by decide, h⟩⟩
  rw [String.toList_append]
  rfl

namespace Token

/-- A placeholder has a name of letters and digits, and all other text has no colon. -/
def Legible : Token → Prop
  | verbatim text => Colonless text
  | column tableAlias name => Colonless tableAlias ∧ Colonless name
  | placeholder name _ => IsName name

/-- Whether a token is a placeholder. -/
def isPlaceholder : Token → Bool
  | placeholder _ _ => true
  | _ => false

/-- Whether a token is text that starts with a character of no name. -/
def breaks : Token → Bool
  | verbatim text => text.toList.head?.any (!isNameChar ·)
  | _ => false

end Token

namespace Sql

/-- SQL text whose tokens are legible, with a character of no name behind each placeholder. -/
structure Legible (sql : Sql) : Prop where
  tokens : ∀ token ∈ sql, token.Legible
  ended : sql.IsChain fun token next => token.isPlaceholder = true → next.breaks = true

/-- SQL text that starts with a character of no name, or is empty. -/
def Breaks (sql : Sql) : Prop := ∀ first ∈ sql.head?, first.breaks = true

/-- SQL text that is legible and has no placeholders. -/
def Plain (sql : Sql) : Prop := ∀ token ∈ sql, token.Legible ∧ token.isPlaceholder = false

/-- The character behind a placeholder is of no name. -/
theorem Breaks.head?_render {sql : Sql} (h : sql.Breaks) :
    ∀ c ∈ sql.render.toList.head?, isNameChar c = false := by
  cases sql with
  | nil => simp
  | cons first rest =>
    have hfirst := h first rfl
    cases first with
    | verbatim text =>
      intro c hc
      rw [Token.breaks] at hfirst
      cases htext : text.toList with
      | nil =>
        rw [htext] at hfirst
        cases hfirst
      | cons d chars =>
        rw [htext] at hfirst
        simp only [render, Token.render, String.toList_append, htext, List.cons_append,
          List.head?_cons, Option.mem_some_iff] at hc
        subst hc
        simpa using hfirst
    | column tableAlias name => cases hfirst
    | placeholder name number => cases hfirst

/-- What is read off legible text are the names of its placeholders. -/
theorem Legible.namesIn_render {sql : Sql} (h : sql.Legible) :
    namesIn sql.render = sql.placeholders.map fun p => parameterName p.1 p.2 := by
  unfold namesIn
  induction sql with
  | nil => rfl
  | cons token rest ih =>
    have htoken := h.tokens token List.mem_cons_self
    have hrest := ih ⟨fun t ht => h.tokens t (List.mem_cons_of_mem _ ht), h.ended.tail⟩
    rw [render, String.toList_append]
    cases token with
    | verbatim text => rw [Token.render, readNames_colonless htoken, hrest]; rfl
    | column tableAlias name =>
      have hplain : Colonless (tableAlias ++ "." ++ name) := by
        simpa using ⟨⟨htoken.1, by decide⟩, htoken.2⟩
      rw [Token.render, readNames_colonless hplain, hrest]
      rfl
    | placeholder name number =>
      have hname : IsName (parameterName name number) :=
        IsName.append htoken (isName_toString number)
      have hbreaks : Breaks rest := by
        intro first hfirst
        exact (List.isChain_cons.mp h.ended).1 first hfirst rfl
      have hread :
          readNames none ((":" ++ parameterName name number).toList ++ (render rest).toList) =
            readNames (some []) ((parameterName name number).toList ++ (render rest).toList) := by
        rw [String.toList_append]
        rfl
      rw [Token.render, hread, readNames_name hname, readNames_end hbreaks.head?_render, hrest]
      simp [placeholders]

example :
    namesIn (render (text "A IN (" ++ placeholder "Id" 0 ++ text ", " ++ placeholder "Id" 1 ++
      text ") OR B = " ++ placeholder "Owner" 2)) = ["Id0", "Id1", "Owner2"] := by
  decide

/-! ### Putting legible text together -/

variable {a b : Sql} {s : String}

theorem legible_nil : Legible [] := ⟨List.forall_mem_nil _, .nil⟩

theorem legible_placeholder {name : String} (h : IsName name) (number : Nat) :
    (placeholder name number).Legible := by
  refine ⟨?_, .singleton _⟩
  intro token htoken
  rw [List.mem_singleton.mp htoken]
  exact h

theorem plain_text (h : Colonless s) : (text s).Plain := by
  unfold text
  split
  · exact List.forall_mem_nil _
  · exact List.forall_mem_singleton.mpr ⟨h, rfl⟩

theorem plain_column {tableAlias name : String} (halias : Colonless tableAlias)
    (hname : Colonless name) : (column tableAlias name).Plain :=
  List.forall_mem_singleton.mpr ⟨⟨halias, hname⟩, rfl⟩

theorem Plain.append (ha : a.Plain) (hb : b.Plain) : (a ++ b).Plain := by
  intro token htoken
  rcases List.mem_append.mp htoken with h | h
  · exact ha token h
  · exact hb token h

/-- Legible text may be followed by legible text that does not go on with a name. -/
theorem Legible.append (ha : a.Legible) (hb : b.Legible) (hbreaks : b.Breaks) :
    (a ++ b).Legible := by
  constructor
  · intro token htoken
    rcases List.mem_append.mp htoken with h | h
    · exact ha.tokens token h
    · exact hb.tokens token h
  · exact ha.ended.append hb.ended fun _ _ first hfirst _ => hbreaks first hfirst

theorem Plain.append_legible (ha : a.Plain) (hb : b.Legible) : (a ++ b).Legible := by
  induction a with
  | nil => exact hb
  | cons token rest ih =>
    obtain ⟨htoken, hother⟩ := ha token List.mem_cons_self
    have hrest := ih fun t ht => ha t (List.mem_cons_of_mem _ ht)
    refine ⟨List.forall_mem_cons.mpr ⟨htoken, hrest.tokens⟩, ?_⟩
    refine List.isChain_cons.mpr ⟨fun next _ hplaceholder => ?_, hrest.ended⟩
    rw [hother] at hplaceholder
    cases hplaceholder

theorem Plain.legible (h : a.Plain) : a.Legible := by
  have := h.append_legible legible_nil
  rwa [List.append_nil] at this

theorem legible_text (h : Colonless s) : (text s).Legible := (plain_text h).legible

theorem breaks_text (h : Separator s) (b : Sql) : (text s ++ b).Breaks := by
  have hne : s.isEmpty = false := by
    rw [Bool.eq_false_iff]
    intro hempty
    have := h.breaks
    rw [String.isEmpty_iff.mp hempty] at this
    cases this
  rw [text, hne]
  intro first hfirst
  cases hfirst
  exact h.breaks

/-- Text behind a separator. -/
theorem Legible.join (ha : a.Legible) (hs : Separator s) (hb : b.Legible) :
    (a ++ text s ++ b).Legible := by
  rw [List.append_assoc]
  exact ha.append ((plain_text hs.colonless).append_legible hb) (breaks_text hs b)

theorem Legible.append_text (ha : a.Legible) (hs : Separator s) : (a ++ text s).Legible := by
  have := ha.join hs legible_nil
  rwa [List.append_nil] at this

theorem Legible.parens (h : a.Legible) : a.parens.Legible := by
  refine Legible.append_text ?_ (by decide)
  exact (plain_text (by decide)).append_legible h

theorem Legible.append_clause (ha : a.Legible) {lead : String} (hlead : Separator lead)
    (hb : b.Legible) : (a ++ clause lead b).Legible := by
  unfold clause
  split
  · rwa [List.append_nil]
  · rw [← List.append_assoc]
    exact ha.join hlead hb

theorem Legible.separated {separator : String} (hseparator : Separator separator)
    {pieces : List Sql} (h : ∀ piece ∈ pieces, piece.Legible) :
    (Sql.separated separator pieces).Legible := by
  induction pieces with
  | nil => exact legible_nil
  | cons first rest ih =>
    have hfirst := h first List.mem_cons_self
    have hrest := ih fun piece hpiece => h piece (List.mem_cons_of_mem _ hpiece)
    cases rest with
    | nil => exact hfirst
    | cons second rest =>
      rw [Sql.separated]
      · exact hfirst.join hseparator hrest
      · exact List.cons_ne_nil _ _

end Sql

end QueryLoom
