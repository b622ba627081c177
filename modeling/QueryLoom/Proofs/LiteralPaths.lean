import QueryLoom.Clauses.Conversion
import QueryLoom.Proofs.Runs

/-!
# Paths inside their literals

The path of a conversion is the one text of a criterion that is written into the SQL text. A reader
of literals takes the whole literal of a path, stops in front of the closing parenthesis, and finds
the path. So a path ends no literal early, and two paths are never written alike.

## Implementation notes

The reader looks one character beyond a quote. What stands behind a literal therefore counts: it must
not start with a quote, and a parenthesis does not.
-/

namespace QueryLoom

namespace Literal

/-- Reads on behind the opening quote of a literal: its text, and what stands behind it. Two quotes
stand for one, and the first quote without another behind it closes the literal. -/
def readBody? : List Char → Option (List Char × List Char)
  | [] => none
  | '\'' :: '\'' :: rest => (readBody? rest).map fun (text, behind) => ('\'' :: text, behind)
  | '\'' :: rest => some ([], rest)
  | c :: rest => (readBody? rest).map fun (text, behind) => (c :: text, behind)

/-- Reads a literal: its text, and what stands behind it. -/
def read? : List Char → Option (List Char × List Char)
  | '\'' :: rest => readBody? rest
  | _ => none

theorem readBody?_close {behind : List Char} (h : behind.head? ≠ some '\'') :
    readBody? ('\'' :: behind) = some ([], behind) := by
  cases behind with
  | nil => rfl
  | cons next rest =>
    rw [readBody?]
    rintro rest' heq
    rw [(List.cons.inj heq).1] at h
    exact h rfl

/-- The body of a text is read as the text, up to the quote that closes it. -/
theorem readBody?_body (text : List Char) {behind : List Char} (h : behind.head? ≠ some '\'') :
    readBody? (body text ++ '\'' :: behind) = some (text, behind) := by
  induction text with
  | nil => exact readBody?_close h
  | cons c rest ih =>
    unfold body
    split
    · rename_i hquote
      rw [List.cons_append, List.cons_append, readBody?, ih, hquote]
      rfl
    · rename_i hquote
      rw [List.cons_append, readBody?, ih]
      · rfl
      · exact fun _ heq => absurd heq hquote
      · exact hquote

/-- A literal is read as its text, and the reader stops right behind it. -/
theorem read?_write (text : String) {behind : List Char} (h : behind.head? ≠ some '\'') :
    read? ((write text).toList ++ behind) = some (text.toList, behind) := by
  have hchars : (write text).toList ++ behind = '\'' :: (body text.toList ++ '\'' :: behind) := by
    simp [write]
  rw [hchars, read?, readBody?_body text.toList h]

/-- In front of a closing parenthesis two texts are written alike only if they are one. -/
theorem write_closed_inj {a b : String} (h : write a ++ ")" = write b ++ ")") : a = b := by
  have hread (text : String) :
      read? (write text ++ ")").toList = some (text.toList, [')']) := by
    rw [String.toList_append]
    exact read?_write text (by decide)
  have hboth := (hread a).symm.trans (h ▸ hread b)
  rw [← String.toList_inj]
  exact (Prod.mk.inj (Option.some.inj hboth)).1

end Literal

/-! ## Conversions -/

variable {c : Compiler} {column sql : Sql} {property : String} {function : PathFunction}
  {path : String} {s t : Scope}

/-- What a conversion with a path writes. It binds nothing. -/
theorem convert_path_yields :
    Yields (c.convert column property (some (.path function path))) s sql t ↔
      sql = Sql.text (function.keyword ++ "(") ++ column ++ Sql.text ", " ++
        Sql.text (Literal.write path) ++ Sql.text ")" ∧ t = s := by
  unfold Compiler.convert
  rw [yields_pure]
  exact and_congr eq_comm eq_comm

theorem render_convertedPath :
    (Sql.text (function.keyword ++ "(") ++ column ++ Sql.text ", " ++
        Sql.text (Literal.write path) ++ Sql.text ")").render =
      function.keyword ++ ("(" ++ column.render ++ ", " ++ (Literal.write path ++ ")")) := by
  simp only [Sql.render_append, Sql.render_text, String.append_assoc]

/-- The keywords of path functions are of one length, so none begins another one. -/
theorem PathFunction.keyword_append_inj {f g : PathFunction} {a b : String}
    (h : f.keyword ++ a = g.keyword ++ b) : f = g ∧ a = b := by
  have hchars := congrArg String.toList h
  rw [String.toList_append, String.toList_append] at hchars
  have hlength : f.keyword.toList.length = g.keyword.toList.length := by
    cases f <;> cases g <;> decide +kernel
  have hdiffer : PathFunction.jsonValue.keyword.toList ≠ PathFunction.jsonQuery.keyword.toList := by
    decide +kernel
  obtain ⟨hkeyword, hrest⟩ := List.append_inj hchars hlength
  refine ⟨?_, String.toList_inj.mp hrest⟩
  cases f <;> cases g
  · rfl
  · exact absurd hkeyword hdiffer
  · exact absurd hkeyword.symm hdiffer
  · rfl

/-- A conversion with a path is always written: its function, the column, and the literal of the path
in front of the closing parenthesis. Whatever stands behind the text, a reader of literals that
begins at the literal stops exactly in front of the parenthesis and finds the path. Another function
or another path on the same column gives another text. -/
theorem path_stays_inside (c : Compiler) (column : Sql) (property : String)
    (function : PathFunction) (path : String) (s : Scope) :
    ∃ sql, Yields (c.convert column property (some (.path function path))) s sql s ∧
      sql.render = function.keyword ++ ("(" ++ column.render ++ ", " ++
        (Literal.write path ++ ")")) ∧
      (∀ behind, Literal.read? ((Literal.write path).toList ++ ')' :: behind) =
        some (path.toList, ')' :: behind)) ∧
      ∀ property' function' path' s' sql' t',
        Yields (c.convert column property' (some (.path function' path'))) s' sql' t' →
        sql'.render = sql.render → function' = function ∧ path' = path := by
  refine ⟨_, convert_path_yields.mpr ⟨rfl, rfl⟩, render_convertedPath, ?_, ?_⟩
  · intro behind
    exact Literal.read?_write path (by simp)
  · intro property' function' path' s' sql' t' h hrender
    obtain ⟨rfl, -⟩ := convert_path_yields.mp h
    rw [render_convertedPath, render_convertedPath] at hrender
    obtain ⟨hfunction, hrest⟩ := PathFunction.keyword_append_inj hrender
    exact ⟨hfunction, Literal.write_closed_inj ((String.append_right_inj _).mp hrest)⟩

/-- A path that ends in a quote, in front of more SQL, is read back; one with the quote doubled is
another path and is written otherwise. -/
theorem quotedPath_stays_inside :
    let column := Sql.column rootAlias "DATA"
    let convert (path : String) :=
      Compiler.convert ⟨{}, {}⟩ column "Data" (some (.path .jsonValue path))
    ∃ sql other, Yields (convert "$.it's'") {} sql {} ∧ Yields (convert "$.it''s''") {} other {} ∧
      sql.render = "JSON_VALUE(TB.DATA, '$.it''s''')" ∧
      Literal.read? "'$.it''s''') = 1".toList = some ("$.it's'".toList, ") = 1".toList) ∧
      other.render ≠ sql.render := by
  intro column convert
  obtain ⟨sql, h, hrender, hread, hinj⟩ :=
    path_stays_inside ⟨{}, {}⟩ column "Data" .jsonValue "$.it's'" {}
  obtain ⟨other, hother, -⟩ :=
    path_stays_inside ⟨{}, {}⟩ column "Data" .jsonValue "$.it''s''" {}
  refine ⟨sql, other, h, hother, ?_, hread " = 1".toList, ?_⟩
  · rw [hrender]
    decide
  · intro heq
    exact absurd (hinj _ _ _ _ _ _ hother heq).2 (by decide)

end QueryLoom
