import Mathlib.Data.List.Nodup
import QueryLoom.Parameters

/-!
# Collections of parameters as maps

What the operations on a collection of parameters do to its names and to look-ups: the last entry
put in under a name is the one that is found.
-/

namespace QueryLoom

namespace Parameters

/-- Either no item satisfies the test, or the first one that does is replaced in its place. -/
theorem replaceFirst_cases {α : Type} (test : α → Bool) (change : α → α) (items : List α) :
    ((∀ a ∈ items, test a = false) ∧ replaceFirst test change items = none) ∨
      ∃ front old back, items = front ++ old :: back ∧ test old = true ∧
        (∀ a ∈ front, test a = false) ∧
        replaceFirst test change items = some (front ++ change old :: back) := by
  induction items with
  | nil => exact .inl ⟨by simp, rfl⟩
  | cons first rest ih =>
    unfold replaceFirst
    cases hfirst : test first with
    | true => exact .inr ⟨[], first, rest, rfl, hfirst, by simp, by simp⟩
    | false =>
      rcases ih with ⟨hnone, heq⟩ | ⟨front, old, back, rfl, hold, hfront, heq⟩
      · exact .inl ⟨by simpa [hfirst] using hnone, by simp [heq]⟩
      · exact .inr ⟨first :: front, old, back, rfl, hold, by simpa [hfirst] using hfront,
          by simp [heq]⟩

/-- The first item is replaced behind a map as before it, where the tests and the changes agree. -/
theorem replaceFirst_map {α β : Type} {f : α → β} {test : α → Bool} {change : α → α}
    {test' : β → Bool} {change' : β → β} {items : List α}
    (htest : ∀ a ∈ items, test' (f a) = test a) (hchange : ∀ a, change' (f a) = f (change a)) :
    replaceFirst test' change' (items.map f) =
      (replaceFirst test change items).map (List.map f) := by
  induction items with
  | nil => rfl
  | cons first rest ih =>
    have hfirst := htest first List.mem_cons_self
    have hrest := ih fun a ha => htest a (List.mem_cons_of_mem _ ha)
    rw [List.map_cons, replaceFirst, replaceFirst, hfirst, hchange, hrest]
    cases test first with
    | true => rfl
    | false => cases replaceFirst test change rest <;> rfl

/-- An insertion appends, or replaces the first entry of the name. -/
theorem items_insert (ps : Parameters) (parameter : Parameter) :
    ((∀ p ∈ ps.items, p.name ≠ parameter.name) ∧
        (ps.insert parameter).items = ps.items ++ [parameter]) ∨
      ∃ front old back, ps.items = front ++ old :: back ∧ old.name = parameter.name ∧
        (∀ p ∈ front, p.name ≠ parameter.name) ∧
        (ps.insert parameter).items = front ++ parameter :: back := by
  rcases replaceFirst_cases (·.name == parameter.name) (fun _ => parameter) ps.items with
    ⟨hnone, heq⟩ | ⟨front, old, back, hitems, hold, hfront, heq⟩
  · exact .inl ⟨by simpa using hnone, by simp [insert, heq]⟩
  · exact .inr ⟨front, old, back, hitems, by simpa using hold, by simpa using hfront,
      by simp [insert, heq]⟩

/-- Where no name is there twice, an insertion leaves its entry and those of other names. -/
theorem mem_items_insert {ps : Parameters} (h : ps.names.Nodup) {parameter p : Parameter} :
    p ∈ (ps.insert parameter).items ↔ p = parameter ∨ p ∈ ps.items ∧ p.name ≠ parameter.name := by
  rcases items_insert ps parameter with ⟨hnone, heq⟩ | ⟨front, old, back, hitems, hold, hfront, heq⟩
  · rw [heq, List.mem_append, List.mem_singleton, or_comm]
    exact or_congr_right ⟨fun hp => ⟨hp, hnone p hp⟩, And.left⟩
  · rw [names, hitems, List.map_append, List.map_cons, List.nodup_append, List.nodup_cons] at h
    have hback : ∀ q ∈ back, q.name ≠ parameter.name := by
      intro q hq hname
      exact h.2.1.1 (List.mem_map.mpr ⟨q, hq, hname.trans hold.symm⟩)
    rw [heq, hitems]
    simp only [List.mem_append, List.mem_cons]
    constructor
    · rintro (hp | rfl | hp)
      · exact .inr ⟨.inl hp, hfront p hp⟩
      · exact .inl rfl
      · exact .inr ⟨.inr (.inr hp), hback p hp⟩
    · rintro (rfl | ⟨hp | rfl | hp, hname⟩)
      · exact .inr (.inl rfl)
      · exact .inl hp
      · exact absurd hold hname
      · exact .inr (.inr hp)

/-- A name that no entry has is not found. -/
theorem find?_name_eq_none {items : List Parameter} {name : String}
    (h : ∀ p ∈ items, p.name ≠ name) : items.find? (·.name == name) = none := by
  rw [List.find?_eq_none]
  intro p hp heq
  exact h p hp (by simpa using heq)

/-- After an insertion its entry is found under its name, and all others as before. -/
theorem get?_insert (ps : Parameters) (parameter : Parameter) (name : String) :
    (ps.insert parameter).get? name =
      if parameter.name = name then some parameter else ps.get? name := by
  unfold get?
  rcases items_insert ps parameter with ⟨hnone, heq⟩ | ⟨front, old, back, hitems, hold, hfront, heq⟩
  · rw [heq, List.find?_append]
    by_cases hname : parameter.name = name
    · subst hname
      simp [find?_name_eq_none hnone]
    · simp [hname]
  · rw [heq, hitems, List.find?_append, List.find?_append]
    by_cases hname : parameter.name = name
    · subst hname
      simp [find?_name_eq_none hfront]
    · simp [hname, hold]

/-- A name is there after an insertion if it is the new one or was there before. -/
theorem mem_names_insert {ps : Parameters} {parameter : Parameter} {name : String} :
    name ∈ (ps.insert parameter).names ↔ name ∈ ps.names ∨ name = parameter.name := by
  unfold names
  rcases items_insert ps parameter with ⟨-, heq⟩ | ⟨front, old, back, hitems, hold, -, heq⟩
  · rw [heq]
    simp
  · rw [heq, hitems]
    simp only [List.map_append, List.map_cons, List.mem_append, List.mem_cons, hold]
    tauto

/-- An insertion puts no name there twice. -/
theorem nodup_names_insert {ps : Parameters} (h : ps.names.Nodup) (parameter : Parameter) :
    (ps.insert parameter).names.Nodup := by
  unfold names at h ⊢
  rcases items_insert ps parameter with ⟨hnone, heq⟩ | ⟨front, old, back, hitems, hold, -, heq⟩
  · rw [heq, List.map_append, List.map_singleton]
    refine h.append (List.nodup_singleton _) ?_
    rw [List.disjoint_singleton]
    rintro hmem
    obtain ⟨p, hp, hname⟩ := List.mem_map.mp hmem
    exact hnone p hp hname
  · rw [hitems] at h
    simpa [heq, hold] using h

/-- The names after the insertion of some entries. -/
theorem mem_names_foldl_insert {entries : List Parameter} {ps : Parameters} {name : String} :
    name ∈ (entries.foldl insert ps).names ↔
      name ∈ ps.names ∨ ∃ p ∈ entries, p.name = name := by
  induction entries generalizing ps with
  | nil => simp
  | cons first rest ih =>
    rw [List.foldl_cons, ih, mem_names_insert]
    simp only [List.mem_cons, exists_eq_or_imp, or_assoc, @eq_comm _ name]

/-- Of some entries put in one after the other, the last one of a name is found. -/
theorem get?_foldl_insert (entries : List Parameter) (ps : Parameters) (name : String) :
    (entries.foldl insert ps).get? name =
      (entries.reverse.find? (·.name == name)).or (ps.get? name) := by
  induction entries generalizing ps with
  | nil => simp
  | cons first rest ih =>
    rw [List.foldl_cons, ih, get?_insert, List.reverse_cons, List.find?_append, Option.or_assoc]
    by_cases hfirst : first.name = name
    · simp [hfirst]
    · simp [hfirst]

/-- An entry that agrees with all others of its name is found, whatever was put in when. -/
theorem get?_foldl_insert_of_unique {entries : List Parameter} {ps : Parameters}
    {parameter : Parameter} (hmem : parameter ∈ entries)
    (hunique : ∀ p ∈ entries, p.name = parameter.name → p = parameter) :
    (entries.foldl insert ps).get? parameter.name = some parameter := by
  rw [get?_foldl_insert]
  cases hfind : entries.reverse.find? (·.name == parameter.name) with
  | none =>
    have := List.find?_eq_none.mp hfind parameter (List.mem_reverse.mpr hmem)
    simp at this
  | some p =>
    have hname : p.name = parameter.name := by simpa using List.find?_some hfind
    rw [hunique p (List.mem_reverse.mp (List.mem_of_find?_eq_some hfind)) hname, Option.some_or]

/-- Entries of new and distinct names are put in at the end, as they are. -/
theorem items_foldl_insert {entries : List Parameter} {ps : Parameters}
    (h : (ps.names ++ entries.map (·.name)).Nodup) :
    (entries.foldl insert ps).items = ps.items ++ entries := by
  induction entries generalizing ps with
  | nil => simp
  | cons first rest ih =>
    have hfirst : first.name ∉ ps.names := by
      intro hmem
      exact List.disjoint_of_nodup_append h hmem (by simp)
    have hitems : (ps.insert first).items = ps.items ++ [first] := by
      rcases items_insert ps first with ⟨-, heq⟩ | ⟨front, old, back, hsplit, hold, -, -⟩
      · exact heq
      · refine absurd ?_ hfirst
        rw [names, hsplit, ← hold]
        simp
    have hnames : (ps.insert first).names = ps.names ++ [first.name] := by
      simp [names, hitems]
    rw [List.foldl_cons, ih, hitems, List.append_assoc, List.singleton_append]
    rw [hnames, List.append_assoc, List.singleton_append]
    exact h

end Parameters

end QueryLoom
