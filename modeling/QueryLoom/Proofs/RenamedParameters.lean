import QueryLoom.Proofs.ParameterCollections
import QueryLoom.Proofs.FaithfulBinding

/-!
# Renamed parameters

The same bindings numbered from two numbers on. The one collection of parameters is the other one
with its entries renamed exactly if the same pairs of bindings share a name at both numbers.
-/

namespace QueryLoom

/-- The entry under another name. -/
def Parameter.renamed (f : String → String) (p : Parameter) : Parameter :=
  { p with name := f p.name }

namespace Parameters

/-- The collection with every entry under another name. -/
def renamed (f : String → String) (ps : Parameters) : Parameters :=
  ⟨ps.items.map (Parameter.renamed f)⟩

theorem renamed_id (ps : Parameters) : ps.renamed id = ps := by
  have hid : Parameter.renamed id = id := by
    funext p
    cases p
    rfl
  cases ps
  rw [renamed, hid, List.map_id]

theorem names_renamed (f : String → String) (ps : Parameters) :
    (ps.renamed f).names = ps.names.map f := by
  simp [renamed, names, Function.comp_def, Parameter.renamed]

/-- No name is there twice, however many entries are put in. -/
theorem nodup_names_foldl_insert {entries : List Parameter} {ps : Parameters}
    (h : ps.names.Nodup) : (entries.foldl insert ps).names.Nodup := by
  induction entries generalizing ps with
  | nil => exact h
  | cons first rest ih => exact ih (nodup_names_insert h first)

/-- An entry goes to the same place under its other name, where no entry of another name comes to
share it. -/
theorem renamed_insert {f : String → String} {ps : Parameters} {parameter : Parameter}
    (h : ∀ name ∈ ps.names, f name = f parameter.name → name = parameter.name) :
    (ps.insert parameter).renamed f = (ps.renamed f).insert (parameter.renamed f) := by
  have htest : ∀ p ∈ ps.items,
      ((p.renamed f).name == (parameter.renamed f).name) = (p.name == parameter.name) := by
    intro p hp
    rw [Bool.eq_iff_iff, beq_iff_eq, beq_iff_eq]
    exact ⟨h p.name (List.mem_map_of_mem hp), fun hname => congrArg f hname⟩
  have hreplaced : replaceFirst (·.name == (parameter.renamed f).name)
      (fun _ => parameter.renamed f) (ps.items.map (Parameter.renamed f)) =
        (replaceFirst (·.name == parameter.name) (fun _ => parameter) ps.items).map
          (List.map (Parameter.renamed f)) :=
    replaceFirst_map htest fun _ => rfl
  unfold insert renamed
  rw [hreplaced]
  cases replaceFirst (·.name == parameter.name) (fun _ => parameter) ps.items with
  | none => simp
  | some items => rfl

theorem renamed_foldl_insert {f : String → String} {entries : List Parameter} {ps : Parameters}
    (h : ∀ a ∈ ps.names ++ entries.map (·.name), ∀ b ∈ ps.names ++ entries.map (·.name),
      f a = f b → a = b) :
    (entries.foldl insert ps).renamed f =
      (entries.map (Parameter.renamed f)).foldl insert (ps.renamed f) := by
  induction entries generalizing ps with
  | nil => rfl
  | cons first rest ih =>
    have hnames : ∀ name, name ∈ (ps.insert first).names ++ rest.map (·.name) →
        name ∈ ps.names ++ (first :: rest).map (·.name) := by
      intro name hname
      rcases List.mem_append.mp hname with hname | hname
      · rcases mem_names_insert.mp hname with hname | rfl
        · exact List.mem_append_left _ hname
        · exact List.mem_append_right _ List.mem_cons_self
      · exact List.mem_append_right _ (List.mem_cons_of_mem _ hname)
    have hfirst : first.name ∈ ps.names ++ (first :: rest).map (·.name) :=
      List.mem_append_right _ List.mem_cons_self
    rw [List.foldl_cons, ih fun a ha b hb => h a (hnames a ha) b (hnames b hb), renamed_insert]
    · rfl
    · exact fun name hname => h name (List.mem_append_left _ hname) first.name hfirst

end Parameters

/-- The name of a binding that is counted from zero, where parameters start at a number. -/
def Issue.nameFrom (number : Nat) (x : Issue) : String :=
  parameterName x.1.property (number + x.2)

/-- A collection is another one with its entries renamed, each binding from its name at one number
to its name at another. -/
def RenamedFrom (bindings : List Binding) (m n : Nat) (ps qs : Parameters) : Prop :=
  ∃ f : String → String,
    (∀ x ∈ numbered 0 bindings, f (x.nameFrom m) = x.nameFrom n) ∧ qs = ps.renamed f

/-- The same pairs of bindings share a name at two numbers. -/
def ShareAlike (bindings : List Binding) (m n : Nat) : Prop :=
  ∀ x ∈ numbered 0 bindings, ∀ y ∈ numbered 0 bindings,
    x.nameFrom m = y.nameFrom m ↔ x.nameFrom n = y.nameFrom n

theorem numbered_eq_map (number : Nat) (bindings : List Binding) :
    numbered number bindings = (numbered 0 bindings).map fun x => (x.1, number + x.2) := by
  rw [numbered, List.zipIdx_eq_map_add]
  rfl

variable {c : Compiler} {bindings : List Binding} {m n : Nat}

theorem parametersOf_eq (number : Nat) :
    parametersOf c number bindings =
      ((numbered 0 bindings).map fun x => x.1.parameter c.conventions (number + x.2)).foldl
        Parameters.insert Parameters.empty := by
  rw [parametersOf, numbered_eq_map, List.map_map]
  rfl

theorem nodup_names_parametersOf : (parametersOf c n bindings).names.Nodup :=
  Parameters.nodup_names_foldl_insert List.nodup_nil

theorem mem_names_parametersOf_from {x : Issue} (hx : x ∈ numbered 0 bindings) :
    x.nameFrom m ∈ (parametersOf c m bindings).names := by
  rw [mem_names_parametersOf, numbered_eq_map]
  exact ⟨_, List.mem_map_of_mem hx, rfl⟩

theorem Binding.renamed_parameter {f : String → String} {x : Issue}
    (h : f (x.nameFrom m) = x.nameFrom n) (conventions : Conventions) :
    (x.1.parameter conventions (m + x.2)).renamed f = x.1.parameter conventions (n + x.2) := by
  unfold Binding.parameter Parameter.renamed
  cases x.1.value with
  | none => exact congrArg (⟨·, _, _⟩ : String → Parameter) h
  | some value => exact congrArg (⟨·, _, _⟩ : String → Parameter) h

/-- Names go over from one number to another with the first binding that has them. -/
def nameFromTo (bindings : List Binding) (m n : Nat) (name : String) : String :=
  ((numbered 0 bindings).find? (·.nameFrom m == name)).elim name (·.nameFrom n)

theorem ShareAlike.nameFromTo_nameFrom (h : ShareAlike bindings m n) :
    ∀ x ∈ numbered 0 bindings, nameFromTo bindings m n (x.nameFrom m) = x.nameFrom n := by
  intro x hx
  cases hfind : (numbered 0 bindings).find? (·.nameFrom m == x.nameFrom m) with
  | none =>
    have hnot := List.find?_eq_none.mp hfind x hx
    simp at hnot
  | some y =>
    have hname : y.nameFrom m = x.nameFrom m := by simpa using List.find?_some hfind
    have hy : y ∈ numbered 0 bindings := List.mem_of_find?_eq_some hfind
    rw [nameFromTo, hfind, Option.elim_some]
    exact (h y hy x hx).mp hname

theorem ShareAlike.renamedFrom (h : ShareAlike bindings m n) :
    RenamedFrom bindings m n (parametersOf c m bindings) (parametersOf c n bindings) := by
  have hrenaming := h.nameFromTo_nameFrom
  refine ⟨nameFromTo bindings m n, hrenaming, ?_⟩
  rw [parametersOf_eq, parametersOf_eq, Parameters.renamed_foldl_insert]
  · rw [List.map_map]
    congr 1
    apply List.map_congr_left
    intro x hx
    exact (Binding.renamed_parameter (hrenaming x hx) c.conventions).symm
  · simp only [Parameters.names, Parameters.empty, List.map_nil, List.nil_append, List.map_map,
      List.forall_mem_map, Function.comp_apply, Binding.name_parameter]
    intro x hx y hy hname
    refine (h x hx y hy).mpr ?_
    rw [← hrenaming x hx, ← hrenaming y hy]
    exact hname

theorem RenamedFrom.shareAlike
    (h : RenamedFrom bindings m n (parametersOf c m bindings) (parametersOf c n bindings)) :
    ShareAlike bindings m n := by
  obtain ⟨f, hf, hrenamed⟩ := h
  -- the names at the second number are all different, so none of them comes from two
  have hnames : ((parametersOf c m bindings).names.map f).Nodup := by
    have hnodup : (parametersOf c n bindings).names.Nodup := nodup_names_parametersOf
    rw [hrenamed, Parameters.names_renamed] at hnodup
    exact hnodup
  intro x hx y hy
  constructor
  · intro hname
    rw [← hf x hx, ← hf y hy, hname]
  · intro hname
    refine List.inj_on_of_nodup_map hnames (mem_names_parametersOf_from hx)
      (mem_names_parametersOf_from hy) ?_
    rw [hf x hx, hf y hy, hname]

/-- The parameters at one number are those at another one renamed exactly if the same pairs of
bindings share a name at both. -/
theorem renamedFrom_iff :
    RenamedFrom bindings m n (parametersOf c m bindings) (parametersOf c n bindings) ↔
      ShareAlike bindings m n :=
  ⟨RenamedFrom.shareAlike, ShareAlike.renamedFrom⟩

theorem eq_of_nameFrom_eq {number : Nat} (h : NoClash (numbered number bindings)) :
    ∀ x ∈ numbered 0 bindings, ∀ y ∈ numbered 0 bindings,
      x.nameFrom number = y.nameFrom number → x = y := by
  intro x hx y hy hname
  have hdistinct := (distinct_iff_noClash fun _ hi _ hj => numbered_inj hi hj).mpr h
  rw [numbered_eq_map] at hdistinct
  have heq := hdistinct _ (List.mem_map_of_mem hx) _ (List.mem_map_of_mem hy) hname
  have hnumber := congrArg Prod.snd heq
  exact numbered_inj hx hy (Nat.add_left_cancel hnumber)

/-- Where no names clash at two numbers, no pair of bindings shares a name at either. -/
theorem shareAlike_of_noClash (hm : NoClash (numbered m bindings))
    (hn : NoClash (numbered n bindings)) : ShareAlike bindings m n := by
  intro x hx y hy
  constructor
  · intro hname
    rw [eq_of_nameFrom_eq hm x hx y hy hname]
  · intro hname
    rw [eq_of_nameFrom_eq hn x hx y hy hname]

end QueryLoom
