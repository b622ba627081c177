import QueryLoom.Proofs.ParameterCollections

/-!
# Collections of parameters as ordered maps

A collection that is built from the empty one has one entry for each of its names, and every
operation acts on it as on a map whose keys keep their order: a new name goes to the end, a known
one stays in its place, and an entry that is renamed takes its place along.

## Implementation notes

`Parameters.rename?` and `Parameters.modifyValue?` answer nothing where there is no entry, so the
caller keeps the collection it had. A renamed entry is described by the entries in front of it and
behind it, since it may push out an entry of the new name on either side.
-/

namespace QueryLoom

namespace Parameters

/-! ## Replacing an entry -/

/-- What stands in front of the first entry of a name stays there. -/
theorem replaceFirst_name {front back : List Parameter} {p : Parameter}
    (hfront : ∀ q ∈ front, q.name ≠ p.name) (change : Parameter → Parameter) :
    replaceFirst (·.name == p.name) change (front ++ p :: back) =
      some (front ++ change p :: back) := by
  induction front with
  | nil => simp [replaceFirst]
  | cons first rest ih =>
    obtain ⟨hfirst, hrest⟩ := List.forall_mem_cons.mp hfront
    rw [List.cons_append, replaceFirst, if_neg (by simpa using hfirst), ih hrest, Option.map_some,
      List.cons_append]

/-- Nothing is replaced exactly if no entry has the name. -/
theorem replaceFirst_name_eq_none {items : List Parameter} {name : String}
    {change : Parameter → Parameter} :
    replaceFirst (·.name == name) change items = none ↔ name ∉ items.map (·.name) := by
  rcases replaceFirst_cases (·.name == name) change items with
    ⟨hnone, heq⟩ | ⟨front, old, back, rfl, hold, -, heq⟩
  · refine iff_of_true heq ?_
    simpa using hnone
  · have hname : old.name = name := by simpa using hold
    simp [heq, hname]

theorem mem_names {ps : Parameters} {name : String} :
    name ∈ ps.names ↔ ∃ p ∈ ps.items, p.name = name := List.mem_map

/-- A name that is there has an entry somewhere. -/
theorem exists_split {ps : Parameters} {name : String} (h : name ∈ ps.names) :
    ∃ front p back, ps.items = front ++ p :: back ∧ p.name = name := by
  obtain ⟨p, hp, hname⟩ := mem_names.mp h
  obtain ⟨front, back, hsplit⟩ := List.append_of_mem hp
  exact ⟨front, p, back, hsplit, hname⟩

theorem contains_iff {ps : Parameters} {name : String} :
    ps.contains name = true ↔ name ∈ ps.names := by
  rw [contains, get?, List.find?_isSome, mem_names]
  simp only [beq_iff_eq]

/-! ## Looking up -/

/-- Among entries of distinct names the one of a name is found, wherever it stands. -/
theorem find?_name_eq_some_iff {items : List Parameter} (h : (items.map (·.name)).Nodup)
    {name : String} {p : Parameter} :
    items.find? (·.name == name) = some p ↔ p ∈ items ∧ p.name = name := by
  constructor
  · intro hfind
    exact ⟨List.mem_of_find?_eq_some hfind, by simpa using List.find?_some hfind⟩
  · rintro ⟨hmem, hname⟩
    cases hfind : items.find? (·.name == name) with
    | none => exact absurd (List.find?_eq_none.mp hfind p hmem) (by simp [hname])
    | some q =>
      have hq : q.name = name := by simpa using List.find?_some hfind
      have hsame := List.inj_on_of_nodup_map h (List.mem_of_find?_eq_some hfind) hmem
        (hq.trans hname.symm)
      rw [hsame]

/-- Entries of distinct names are found alike from either end. -/
theorem find?_name_reverse {items : List Parameter} (h : (items.map (·.name)).Nodup)
    (name : String) :
    items.reverse.find? (·.name == name) = items.find? (·.name == name) := by
  have hreverse : (items.reverse.map (·.name)).Nodup := by
    rw [List.map_reverse]
    exact List.nodup_reverse.mpr h
  apply Option.ext
  intro p
  rw [find?_name_eq_some_iff hreverse, find?_name_eq_some_iff h, List.mem_reverse]

/-! ## Adding -/

/-- A name keeps its place, and a new one goes to the end. -/
theorem names_insert (ps : Parameters) (parameter : Parameter) :
    (ps.insert parameter).names =
      if parameter.name ∈ ps.names then ps.names else ps.names ++ [parameter.name] := by
  rcases items_insert ps parameter with ⟨hnone, heq⟩ | ⟨front, old, back, hitems, hold, -, heq⟩
  · have hnew : parameter.name ∉ ps.names := by
      rw [mem_names]
      rintro ⟨p, hp, hname⟩
      exact hnone p hp hname
    rw [if_neg hnew, names, heq, List.map_append, List.map_singleton, names]
  · have hknown : parameter.name ∈ ps.names := mem_names.mpr ⟨old, by simp [hitems], hold⟩
    rw [if_pos hknown, names, heq, names, hitems]
    simp [hold]

/-- Entries of distinct names leave the order as it is, and put the new names behind it in
theirs. -/
theorem names_foldl_insert {entries : List Parameter} (ps : Parameters)
    (h : (entries.map (·.name)).Nodup) :
    (entries.foldl insert ps).names =
      ps.names ++ (entries.map (·.name)).filter (· ∉ ps.names) := by
  induction entries generalizing ps with
  | nil => simp
  | cons first rest ih =>
    obtain ⟨hfirst, hrest⟩ := List.nodup_cons.mp h
    rw [List.foldl_cons, ih _ hrest, names_insert]
    by_cases hknown : first.name ∈ ps.names
    · simp [hknown]
    · have hothers : (rest.map (·.name)).filter (· ∉ ps.names ++ [first.name]) =
          (rest.map (·.name)).filter (· ∉ ps.names) := by
        apply List.filter_congr
        intro name hname
        have hne : name ≠ first.name := by
          rintro rfl
          exact hfirst hname
        simp [hne]
      rw [if_neg hknown, hothers, List.append_assoc, List.map_cons, List.filter_cons_of_pos]
      · rfl
      · simpa using hknown

/-- The other collection decides where it has an entry. -/
theorem get?_union {other : Parameters} (h : other.names.Nodup) (ps : Parameters) (name : String) :
    (ps.union other).get? name = (other.get? name).or (ps.get? name) := by
  rw [union, get?_foldl_insert, find?_name_reverse h]
  rfl

/-! ## Renaming and changing -/

/-- There is something to rename exactly if there is an entry of the name. -/
theorem rename?_eq_none_iff (ps : Parameters) (name newName : String) :
    ps.rename? name newName = none ↔ name ∉ ps.names := by
  unfold rename?
  dsimp only
  split
  · rename_i hcontains
    have hknown := contains_iff.mp hcontains
    rw [Option.map_eq_none_iff, replaceFirst_name_eq_none]
    refine iff_of_false (fun hgone => hgone ?_) (fun hnew => hnew hknown)
    split
    · exact hknown
    · rename_i hne
      obtain ⟨p, hp, rfl⟩ := mem_names.mp hknown
      exact List.mem_map.mpr ⟨p, List.mem_filter.mpr ⟨hp, by simpa using hne⟩, rfl⟩
  · rename_i hcontains
    exact iff_of_true rfl fun hknown => hcontains (contains_iff.mpr hknown)

section Split

variable {ps : Parameters} {front back : List Parameter} {p : Parameter}

/-- Around an entry of a collection with distinct names no other one has its name. -/
theorem others_of_split (h : ps.names.Nodup) (hsplit : ps.items = front ++ p :: back) :
    (∀ q ∈ front, q.name ≠ p.name) ∧ ∀ q ∈ back, q.name ≠ p.name := by
  rw [names, hsplit, List.map_append, List.map_cons, List.nodup_append, List.nodup_cons] at h
  obtain ⟨-, ⟨hback, -⟩, hfront⟩ := h
  refine ⟨fun q hq => hfront _ (List.mem_map_of_mem hq) _ List.mem_cons_self, ?_⟩
  intro q hq hname
  exact hback (List.mem_map.mpr ⟨q, hq, hname⟩)

/-- A renamed entry keeps its place, and other entries of the new name go. -/
theorem rename?_of_split (h : ps.names.Nodup) (hsplit : ps.items = front ++ p :: back)
    (newName : String) :
    ps.rename? p.name newName = some ⟨front.filter (·.name != newName) ++
      { p with name := newName } :: back.filter (·.name != newName)⟩ := by
  obtain ⟨hfront, hback⟩ := others_of_split h hsplit
  have hknown : ps.contains p.name = true :=
    contains_iff.mpr (mem_names.mpr ⟨p, by simp [hsplit], rfl⟩)
  have hkept : (if p.name == newName then ps.items
        else ps.items.filter (·.name != newName)) =
      front.filter (·.name != newName) ++ p :: back.filter (·.name != newName) := by
    rw [hsplit]
    split
    · -- the entry keeps its name, and no other one has it
      rename_i hsame
      rw [← beq_iff_eq.mp hsame, List.filter_eq_self.mpr (by simpa using hfront),
        List.filter_eq_self.mpr (by simpa using hback)]
    · rename_i hne
      rw [List.filter_append, List.filter_cons_of_pos]
      simpa using hne
  unfold rename?
  rw [hkept, if_pos hknown, replaceFirst_name, Option.map_some]
  exact fun q hq => hfront q (List.mem_of_mem_filter hq)

theorem modifyValue?_eq_none_iff (ps : Parameters) (name : String) (value : Value) :
    ps.modifyValue? name value = none ↔ name ∉ ps.names := by
  rw [modifyValue?, Option.map_eq_none_iff, replaceFirst_name_eq_none, names]

/-- A changed entry keeps its place and its direction. -/
theorem modifyValue?_of_split (h : ps.names.Nodup) (hsplit : ps.items = front ++ p :: back)
    (value : Value) :
    ps.modifyValue? p.name value = some ⟨front ++ { p with value } :: back⟩ := by
  rw [modifyValue?, hsplit, replaceFirst_name (others_of_split h hsplit).1, Option.map_some]

end Split

/-! ## Collections that are built -/

/-- Collections that are put together from the empty one. -/
inductive Built : Parameters → Prop where
  | empty : Built empty
  | add {ps : Parameters} (h : Built ps) (name : String) (value : Value) : Built (ps.add name value)
  | addOutput {ps : Parameters} (h : Built ps) (name : String) : Built (ps.addOutput name)
  | rename {ps qs : Parameters} {name newName : String} (h : Built ps)
      (hrename : ps.rename? name newName = some qs) : Built qs
  | modifyValue {ps qs : Parameters} {name : String} {value : Value} (h : Built ps)
      (hmodify : ps.modifyValue? name value = some qs) : Built qs
  | union {ps other : Parameters} (h : Built ps) (hother : Built other) : Built (ps.union other)

theorem nodup_names_union {ps other : Parameters} (h : ps.names.Nodup)
    (hother : other.names.Nodup) : (ps.union other).names.Nodup := by
  rw [union, names_foldl_insert ps hother, List.nodup_append]
  refine ⟨h, hother.filter _, ?_⟩
  rintro name hname _ hfresh rfl
  simpa [hname] using List.of_mem_filter hfresh

theorem nodup_names_rename {ps qs : Parameters} {name newName : String} (h : ps.names.Nodup)
    (hrename : ps.rename? name newName = some qs) : qs.names.Nodup := by
  have hknown : name ∈ ps.names := by
    by_contra hnew
    rw [(rename?_eq_none_iff ps name newName).mpr hnew] at hrename
    cases hrename
  obtain ⟨front, p, back, hsplit, rfl⟩ := exists_split hknown
  rw [rename?_of_split h hsplit] at hrename
  cases hrename
  -- the others are part of what was there, and the new name is not among them any more
  have hothers : ((front ++ back).map (·.name)).Nodup := by
    rw [names, hsplit, List.map_append, List.map_cons, List.nodup_middle, List.nodup_cons] at h
    rw [List.map_append]
    exact h.2
  rw [names, List.map_append, List.map_cons, List.nodup_middle, List.nodup_cons, ← List.map_append,
    ← List.filter_append]
  refine ⟨?_, hothers.sublist (List.filter_sublist.map _)⟩
  rw [List.mem_map]
  rintro ⟨q, hq, hname⟩
  simpa [hname] using List.of_mem_filter hq

theorem names_modifyValue {ps qs : Parameters} {name : String} {value : Value}
    (h : ps.names.Nodup) (hmodify : ps.modifyValue? name value = some qs) :
    qs.names = ps.names := by
  have hknown : name ∈ ps.names := by
    by_contra hnew
    rw [(modifyValue?_eq_none_iff ps name value).mpr hnew] at hmodify
    cases hmodify
  obtain ⟨front, p, back, hsplit, rfl⟩ := exists_split hknown
  rw [modifyValue?_of_split h hsplit] at hmodify
  cases hmodify
  simp [names, hsplit]

/-- Every step keeps names apart, and so do all of them. -/
theorem Built.nodup_names {ps : Parameters} (h : Built ps) : ps.names.Nodup := by
  induction h with
  | empty => exact List.nodup_nil
  | add _ name value ih => exact nodup_names_insert ih _
  | addOutput _ name ih => exact nodup_names_insert ih _
  | rename _ hrename ih => exact nodup_names_rename ih hrename
  | modifyValue _ hmodify ih => exact names_modifyValue ih hmodify ▸ ih
  | union _ _ ih ihother => exact nodup_names_union ih ihother

/-- A collection as a map of names to entries, in an order, with the laws of its operations. -/
structure IsOrderedMap (ps : Parameters) : Prop where
  distinct : ps.names.Nodup
  get? : ∀ name p, ps.get? name = some p ↔ p ∈ ps.items ∧ p.name = name
  names_add : ∀ name value,
    (ps.add name value).names = if name ∈ ps.names then ps.names else ps.names ++ [name]
  get?_add : ∀ name value other, (ps.add name value).get? other =
    if name = other then some ⟨name, value, .input⟩ else ps.get? other
  names_addOutput : ∀ name,
    (ps.addOutput name).names = if name ∈ ps.names then ps.names else ps.names ++ [name]
  get?_addOutput : ∀ name other, (ps.addOutput name).get? other =
    if name = other then some ⟨name, .null, .output⟩ else ps.get? other
  names_union : ∀ other, Built other →
    (ps.union other).names = ps.names ++ other.names.filter (· ∉ ps.names)
  get?_union : ∀ other, Built other → ∀ name,
    (ps.union other).get? name = (other.get? name).or (ps.get? name)
  /-- The renamed entry takes its place along, other entries of the new name go, and what is left
  keeps its order. -/
  rename : ∀ front p back newName, ps.items = front ++ p :: back →
    ps.rename? p.name newName = some ⟨front.filter (·.name != newName) ++
      { p with name := newName } :: back.filter (·.name != newName)⟩
  rename_unknown : ∀ name newName, ps.rename? name newName = none ↔ name ∉ ps.names
  modifyValue : ∀ front p back value, ps.items = front ++ p :: back →
    ps.modifyValue? p.name value = some ⟨front ++ { p with value } :: back⟩
  modifyValue_unknown : ∀ name value, ps.modifyValue? name value = none ↔ name ∉ ps.names

/-- A collection is an ordered map after every sequence of operations. -/
theorem built_isOrderedMap {ps : Parameters} (h : Built ps) : ps.IsOrderedMap where
  distinct := h.nodup_names
  get? _ _ := find?_name_eq_some_iff h.nodup_names
  names_add _ _ := names_insert ps _
  get?_add _ _ other := get?_insert ps _ other
  names_addOutput _ := names_insert ps _
  get?_addOutput _ other := get?_insert ps _ other
  names_union _ hother := names_foldl_insert ps hother.nodup_names
  get?_union _ hother name := Parameters.get?_union hother.nodup_names ps name
  rename _ _ _ newName hsplit := rename?_of_split h.nodup_names hsplit newName
  rename_unknown := rename?_eq_none_iff ps
  modifyValue _ _ _ value hsplit := modifyValue?_of_split h.nodup_names hsplit value
  modifyValue_unknown := modifyValue?_eq_none_iff ps

/-- Three inputs and an output, put together from two collections that share a name. -/
def sharedNames : Parameters :=
  (((empty.add "A0" (.int 1)).add "B1" (.int 2)).add "C2" (.int 3)).union
    ((empty.add "B1" (.int 4)).addOutput "Id3")

theorem sharedNames_built : Built sharedNames :=
  .union (.add (.add (.add .empty _ _) _ _) _ _) (.addOutput (.add .empty _ _) _)

/-- An entry that is renamed to a name before or behind it pushes that one out and stays where it
is. -/
theorem sharedNames_renamed :
    Built sharedNames ∧ sharedNames.names = ["A0", "B1", "C2", "Id3"] ∧
      sharedNames.rename? "C2" "A0" =
        some ⟨[⟨"B1", .int 4, .input⟩, ⟨"A0", .int 3, .input⟩, ⟨"Id3", .null, .output⟩]⟩ ∧
      sharedNames.rename? "B1" "Id3" =
        some ⟨[⟨"A0", .int 1, .input⟩, ⟨"Id3", .int 4, .input⟩, ⟨"C2", .int 3, .input⟩]⟩ ∧
      sharedNames.rename? "B1" "B1" = some sharedNames ∧
      sharedNames.rename? "Missing" "A0" = none := by
  have hmap := built_isOrderedMap sharedNames_built
  refine ⟨sharedNames_built, by decide +kernel, ?_, ?_, ?_, ?_⟩
  · exact hmap.rename [⟨"A0", .int 1, .input⟩, ⟨"B1", .int 4, .input⟩] ⟨"C2", .int 3, .input⟩
      [⟨"Id3", .null, .output⟩] "A0" rfl
  · exact hmap.rename [⟨"A0", .int 1, .input⟩] ⟨"B1", .int 4, .input⟩
      [⟨"C2", .int 3, .input⟩, ⟨"Id3", .null, .output⟩] "Id3" rfl
  · exact hmap.rename [⟨"A0", .int 1, .input⟩] ⟨"B1", .int 4, .input⟩
      [⟨"C2", .int 3, .input⟩, ⟨"Id3", .null, .output⟩] "B1" rfl
  · exact (hmap.rename_unknown _ _).mpr (by decide +kernel)

end Parameters

end QueryLoom
