import QueryLoom.Error

/-!
# Runs

What a computation with state and failure answers from a given state, and how the answer of a
sequence is put together from the answers of its parts.

## Implementation notes

A failure keeps the state reached by then. `Yields` only speaks of success; nested computations
are taken apart with `yields_bind`, so that no proof has to unfold the monad.
-/

namespace QueryLoom

/-- A computation answers `a` from the state `s` and leaves the state `t`. -/
def Yields {σ α : Type} (m : ExceptT Error (StateM σ) α) (s : σ) (a : α) (t : σ) : Prop :=
  m.run.run s = (.ok a, t)

variable {σ α β : Type} {s t : σ} {a : α} {e : Error}

theorem run_bind (m : ExceptT Error (StateM σ) α) (f : α → ExceptT Error (StateM σ) β) (s : σ) :
    (m >>= f).run.run s =
      match m.run.run s with
      | (.ok a, r) => (f a).run.run r
      | (.error e, r) => (.error e, r) := by
  simp only [ExceptT.run_bind, StateT.run_bind]
  show (match m.run.run s with | (x, r) => _) = _
  rcases m.run.run s with ⟨e | a, r⟩ <;> rfl

theorem run_tryCatch (m : ExceptT Error (StateM σ) α)
    (handler : Error → ExceptT Error (StateM σ) α) (s : σ) :
    (tryCatch m handler).run.run s =
      match m.run.run s with
      | (.ok a, r) => (.ok a, r)
      | (.error e, r) => (handler e).run.run r := by
  simp only [tryCatch, tryCatchThe, MonadExceptOf.tryCatch, ExceptT.tryCatch, ExceptT.run_mk,
    StateT.run_bind]
  rcases hm : m.run.run s with ⟨e | a, r⟩
  · have hm' : StateT.run m s = (.error e, r) := hm
    rw [hm']
    rfl
  · have hm' : StateT.run m s = (.ok a, r) := hm
    rw [hm']
    rfl

/-- A sequence answers exactly if its first part does, and the rest does from there. -/
theorem yields_bind {m : ExceptT Error (StateM σ) α} {f : α → ExceptT Error (StateM σ) β}
    {b : β} :
    Yields (m >>= f) s b t ↔ ∃ a r, Yields m s a r ∧ Yields (f a) r b t := by
  unfold Yields
  rw [run_bind]
  rcases m.run.run s with ⟨e | a, r⟩
  · constructor
    · intro h
      cases h
    · rintro ⟨a, q, h, -⟩
      cases h
  · constructor
    · intro h
      exact ⟨a, r, rfl, h⟩
    · rintro ⟨a, q, h, hf⟩
      cases h
      exact hf

@[simp] theorem yields_pure {b : α} :
    Yields (pure a : ExceptT Error (StateM σ) α) s b t ↔ a = b ∧ s = t := by
  constructor
  · intro h
    cases h
    exact ⟨rfl, rfl⟩
  · rintro ⟨rfl, rfl⟩
    rfl

@[simp] theorem not_yields_throw :
    ¬ Yields (throw e : ExceptT Error (StateM σ) α) s a t := by
  intro h
  cases h

/-- A pure computation that may fail answers without touching the state. -/
@[simp] theorem yields_liftM {m : Except Error α} :
    Yields (liftM m : ExceptT Error (StateM σ) α) s a t ↔ m = .ok a ∧ s = t := by
  cases m with
  | error e =>
    constructor
    · intro h
      cases h
    · rintro ⟨⟨⟩, -⟩
  | ok b =>
    constructor
    · intro h
      cases h
      exact ⟨rfl, rfl⟩
    · rintro ⟨⟨⟩, rfl⟩
      rfl

@[simp] theorem yields_get {r : σ} :
    Yields (get : ExceptT Error (StateM σ) σ) s r t ↔ r = s ∧ t = s := by
  constructor
  · intro h
    cases h
    exact ⟨rfl, rfl⟩
  · rintro ⟨rfl, rfl⟩
    rfl

@[simp] theorem yields_set {r : σ} {u : PUnit} :
    Yields (set r : ExceptT Error (StateM σ) PUnit) s u t ↔ t = r := by
  constructor
  · intro h
    cases h
    rfl
  · rintro rfl
    rfl

@[simp] theorem yields_mapM_nil {f : α → ExceptT Error (StateM σ) β} {bs : List β} :
    Yields (([] : List α).mapM f) s bs t ↔ bs = [] ∧ s = t := by
  rw [List.mapM_nil, yields_pure]
  exact and_congr_left fun _ => eq_comm

theorem yields_mapM_cons {f : α → ExceptT Error (StateM σ) β} {rest : List α} {bs : List β} :
    Yields ((a :: rest).mapM f) s bs t ↔
      ∃ b r bs', Yields (f a) s b r ∧ Yields (rest.mapM f) r bs' t ∧ bs = b :: bs' := by
  simp only [List.mapM_cons, yields_bind, yields_pure]
  constructor
  · rintro ⟨b, r, hb, bs', _, hbs, rfl, rfl⟩
    exact ⟨b, r, bs', hb, hbs, rfl⟩
  · rintro ⟨b, r, bs', hb, hbs, rfl⟩
    exact ⟨b, r, hb, bs', t, hbs, rfl, rfl⟩

/-- A sequence of pure computations that may fail answers exactly if both parts do. -/
theorem except_bind_eq_ok {m : Except Error α} {f : α → Except Error β} {b : β} :
    (m >>= f) = .ok b ↔ ∃ a, m = .ok a ∧ f a = .ok b := by
  cases m with
  | error e =>
    constructor
    · intro h
      cases h
    · rintro ⟨a, ⟨⟩, -⟩
  | ok a =>
    constructor
    · intro h
      exact ⟨a, rfl, h⟩
    · rintro ⟨a, ⟨⟩, h⟩
      exact h

/-- A sequence of pure computations fails over its first part, or over the rest behind it. -/
theorem except_bind_eq_error {m : Except Error α} {f : α → Except Error β} :
    (m >>= f) = .error e ↔ m = .error e ∨ ∃ a, m = .ok a ∧ f a = .error e := by
  cases m with
  | error e' =>
    constructor
    · intro h
      cases h
      exact .inl rfl
    · rintro (h | ⟨a, ⟨⟩, -⟩)
      cases h
      rfl
  | ok a =>
    constructor
    · intro h
      exact .inr ⟨a, rfl, h⟩
    · rintro (⟨⟨⟩⟩ | ⟨a, ⟨⟩, h⟩)
      exact h

theorem except_forM_eq_ok {f : α → Except Error Unit} {xs : List α} {u : Unit} :
    xs.forM f = .ok u ↔ ∀ x ∈ xs, f x = .ok () := by
  induction xs with
  | nil => exact iff_of_true rfl (List.forall_mem_nil _)
  | cons first rest ih =>
    rw [List.forM, except_bind_eq_ok, List.forall_mem_cons]
    constructor
    · rintro ⟨_, hfirst, hrest⟩
      exact ⟨hfirst, ih.mp hrest⟩
    · rintro ⟨hfirst, hrest⟩
      exact ⟨_, hfirst, ih.mpr hrest⟩

/-- A check of some values fails over one of them. -/
theorem except_forM_eq_error {f : α → Except Error Unit} {xs : List α}
    (h : xs.forM f = .error e) : ∃ x ∈ xs, f x = .error e := by
  induction xs with
  | nil => cases h
  | cons first rest ih =>
    rw [List.forM, except_bind_eq_error] at h
    rcases h with hfirst | ⟨_, -, hrest⟩
    · exact ⟨first, List.mem_cons_self, hfirst⟩
    · obtain ⟨x, hx, hfails⟩ := ih hrest
      exact ⟨x, List.mem_cons_of_mem _ hx, hfails⟩

/-- What answers an option has an answer. -/
theorem exists_ok_of_isSome {ε α : Type} {x : Except ε α} (h : x.toOption.isSome = true) :
    ∃ a, x = .ok a := by
  cases x with
  | error e => cases h
  | ok a => exact ⟨a, rfl⟩

/-- What answers something with a list of length one has an answer and its one member. -/
theorem exists_singleton_of_length {ε α β : Type} {x : Except ε α} {f : α → List β}
    (h : x.toOption.map (fun a => (f a).length) = some 1) : ∃ a b, x = .ok a ∧ f a = [b] := by
  cases x with
  | error e => cases h
  | ok a =>
    obtain ⟨b, hb⟩ := List.length_eq_one_iff.mp (Option.some.inj h)
    exact ⟨a, b, rfl, hb⟩

/-- What can be computed of an answer. -/
theorem Yields.eq_of_map {m : ExceptT Error (StateM σ) α} {f : α → β} {b : β}
    (h : Yields m s a t) (hf : (m.run.run s).1.toOption.map f = some b) : f a = b := by
  have hrun : m.run.run s = (.ok a, t) := h
  rw [hrun] at hf
  exact Option.some.inj hf

theorem exists_yields_of_isSome {m : ExceptT Error (StateM σ) α}
    (h : (m.run.run s).1.toOption.isSome = true) : ∃ a t, Yields m s a t := by
  obtain ⟨a, ha⟩ := exists_ok_of_isSome h
  exact ⟨a, (m.run.run s).2, Prod.ext ha rfl⟩

end QueryLoom
