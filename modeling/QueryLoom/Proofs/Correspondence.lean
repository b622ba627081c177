import Mathlib.Data.List.Forall2
import QueryLoom.Proofs.Runs
import QueryLoom.Statement

/-!
# Corresponding runs

Two computations that fail alike or answer related values, from related states to related states.
They are taken apart side by side: what is put together from corresponding parts corresponds.

## Implementation notes

The relation of the states is kept by each part. The relation of the answers may change from part
to part, and the rest of a sequence may use it.
-/

namespace QueryLoom

variable {α β γ δ : Type} {R : α → β → Prop} {Q : γ → δ → Prop}

/-- Of related members of two lists, what holds of the members of either may be used. -/
theorem forall₂_imp_of_mem {R' : α → β → Prop} {xs : List α} {ys : List β}
    (h : List.Forall₂ R xs ys) (hR : ∀ x ∈ xs, ∀ y ∈ ys, R x y → R' x y) :
    List.Forall₂ R' xs ys := by
  induction h with
  | nil => exact .nil
  | cons hfirst _ ih =>
    refine .cons (hR _ List.mem_cons_self _ List.mem_cons_self hfirst) (ih ?_)
    intro x hx y hy
    exact hR x (List.mem_cons_of_mem _ hx) y (List.mem_cons_of_mem _ hy)

/-- Two answers fail with the same error, or are both there and related. -/
inductive Agree (R : α → β → Prop) : Except Error α → Except Error β → Prop where
  | error (e : Error) : Agree R (.error e) (.error e)
  | ok {a : α} {b : β} (h : R a b) : Agree R (.ok a) (.ok b)

namespace Agree

theorem refl {R : α → α → Prop} (h : ∀ a, R a a) (x : Except Error α) : Agree R x x := by
  cases x with
  | error e => exact .error e
  | ok a => exact .ok (h a)

theorem map_right (f : α → β) (x : Except Error α) : Agree (fun a b => b = f a) x (x.map f) := by
  cases x with
  | error e => exact .error e
  | ok a => exact .ok rfl

theorem mono {x : Except Error α} {y : Except Error β} {R' : α → β → Prop} (h : Agree R x y)
    (hR : ∀ a b, R a b → R' a b) : Agree R' x y := by
  cases h with
  | error e => exact .error e
  | ok h => exact .ok (hR _ _ h)

theorem bind {x : Except Error α} {y : Except Error β} {f : α → Except Error γ}
    {g : β → Except Error δ} (h : Agree R x y) (hf : ∀ a b, R a b → Agree Q (f a) (g b)) :
    Agree Q (x >>= f) (y >>= g) := by
  cases h with
  | error e => exact .error e
  | ok h => exact hf _ _ h

theorem eq_error {y : Except Error β} {e : Error} (h : Agree R (.error e) y) : y = .error e := by
  cases h
  rfl

/-- What agrees with an answer is an answer, on either side. -/
theorem exists_ok_left {x : Except Error α} {b : β} (h : Agree R x (.ok b)) :
    ∃ a, x = .ok a ∧ R a b := by
  cases h with
  | ok h => exact ⟨_, rfl, h⟩

theorem exists_ok_right {y : Except Error β} {a : α} (h : Agree R (.ok a) y) :
    ∃ b, y = .ok b ∧ R a b := by
  cases h with
  | ok h => exact ⟨_, rfl, h⟩

/-- What is answered may be changed on the left side. -/
theorem pure_bind {x : Except Error α} {y : Except Error β} {Q : γ → β → Prop} {f : α → γ}
    (h : Agree R x y) (hf : ∀ a b, R a b → Q (f a) b) :
    Agree Q (x >>= fun a => pure (f a)) y := by
  cases h with
  | error e => exact .error e
  | ok h => exact .ok (hf _ _ h)

/-- What is answered may be changed on the right side. -/
theorem bind_pure {x : Except Error α} {y : Except Error β} {Q : α → δ → Prop} {g : β → δ}
    (h : Agree R x y) (hg : ∀ a b, R a b → Q a (g b)) :
    Agree Q x (y >>= fun b => pure (g b)) := by
  cases h with
  | error e => exact .error e
  | ok h => exact .ok (hg _ _ h)

/-- What follows the same first part has to agree, on what that part answers. -/
theorem bind_answer {x : Except Error α} {f : α → Except Error γ} {g : α → Except Error δ}
    (hf : ∀ a, x = .ok a → Agree Q (f a) (g a)) : Agree Q (x >>= f) (x >>= g) := by
  cases x with
  | error e => exact .error e
  | ok a => exact hf a rfl

/-- What follows the same first part has to agree. -/
theorem bind_same {x : Except Error α} {f : α → Except Error γ} {g : α → Except Error δ}
    (hf : ∀ a, Agree Q (f a) (g a)) : Agree Q (x >>= f) (x >>= g) :=
  bind_answer fun a _ => hf a

/-- What two answers agree on is the same on both sides. -/
theorem map_eq {f : α → γ} {g : β → γ} {x : Except Error α} {y : Except Error β}
    (h : Agree (fun a b => f a = g b) x y) : x.map f = y.map g := by
  cases h with
  | error e => rfl
  | ok h => exact congrArg Except.ok h

theorem of_map_eq {f : α → γ} {g : β → γ} {x : Except Error α} {y : Except Error β}
    (h : x.map f = y.map g) : Agree (fun a b => f a = g b) x y := by
  cases x with
  | error e =>
    cases y with
    | error e' => exact Except.error.inj h ▸ .error e
    | ok b => cases h
  | ok a =>
    cases y with
    | error e => cases h
    | ok b => exact .ok (Except.ok.inj h)

end Agree

section

variable {σ τ : Type} {S : σ → τ → Prop}

/-- From related states two computations fail with the same error, or both answer, and the answers
and the states that they leave are related. -/
def Corresponds (S : σ → τ → Prop) (R : α → β → Prop) (m : ExceptT Error (StateM σ) α)
    (n : ExceptT Error (StateM τ) β) : Prop :=
  ∀ s t, S s t → Agree (fun a b => R a b ∧ S (m.run.run s).2 (n.run.run t).2)
    (m.run.run s).1 (n.run.run t).1

theorem corresponds_pure {a : α} {b : β} (h : R a b) :
    Corresponds S R (pure a : ExceptT Error (StateM σ) α)
      (pure b : ExceptT Error (StateM τ) β) :=
  fun _ _ hstate => .ok ⟨h, hstate⟩

theorem corresponds_throw (e : Error) :
    Corresponds S R (throw e : ExceptT Error (StateM σ) α)
      (throw e : ExceptT Error (StateM τ) β) :=
  fun _ _ _ => .error e

/-- Pure computations that may fail correspond if they agree. -/
theorem corresponds_liftM {x : Except Error α} {y : Except Error β} (h : Agree R x y) :
    Corresponds S R (liftM x : ExceptT Error (StateM σ) α)
      (liftM y : ExceptT Error (StateM τ) β) := by
  intro s t hstate
  cases h with
  | error e => exact .error e
  | ok h => exact .ok ⟨h, hstate⟩

theorem Corresponds.bind {m : ExceptT Error (StateM σ) α} {n : ExceptT Error (StateM τ) β}
    {f : α → ExceptT Error (StateM σ) γ} {g : β → ExceptT Error (StateM τ) δ}
    (h : Corresponds S R m n) (hf : ∀ a b, R a b → Corresponds S Q (f a) (g b)) :
    Corresponds S Q (m >>= f) (n >>= g) := by
  intro s t hstate
  have hfirst := h s t hstate
  rw [run_bind, run_bind]
  rcases hm : m.run.run s with ⟨x, s'⟩
  rcases hn : n.run.run t with ⟨y, t'⟩
  rw [hm, hn] at hfirst
  dsimp only at hfirst
  cases hfirst with
  | error e => exact .error e
  | ok hboth => exact hf _ _ hboth.1 s' t' hboth.2

theorem Corresponds.mono {m : ExceptT Error (StateM σ) α} {n : ExceptT Error (StateM τ) β}
    {R' : α → β → Prop} (h : Corresponds S R m n) (hR : ∀ a b, R a b → R' a b) :
    Corresponds S R' m n :=
  fun s t hstate => (h s t hstate).mono fun a b hboth => ⟨hR a b hboth.1, hboth.2⟩

/-- A computation corresponds to itself. -/
theorem Corresponds.refl (m : ExceptT Error (StateM σ) α) : Corresponds Eq Eq m m := by
  rintro s t rfl
  exact Agree.refl (fun a => ⟨rfl, rfl⟩) _

/-- Lists are worked through side by side. -/
theorem Corresponds.mapM {P : α → γ → Prop} {Q : β → δ → Prop}
    {f : α → ExceptT Error (StateM σ) β} {g : γ → ExceptT Error (StateM τ) δ}
    {xs : List α} {ys : List γ} (hxs : List.Forall₂ P xs ys)
    (h : ∀ x y, P x y → Corresponds S Q (f x) (g y)) :
    Corresponds S (List.Forall₂ Q) (xs.mapM f) (ys.mapM g) := by
  induction hxs with
  | nil =>
    rw [List.mapM_nil, List.mapM_nil]
    exact corresponds_pure .nil
  | cons hfirst _ ih =>
    rw [List.mapM_cons, List.mapM_cons]
    refine (h _ _ hfirst).bind fun b d hbd => ?_
    refine ih.bind fun bs ds hbs => ?_
    exact corresponds_pure (.cons hbd hbs)

end

/-- Corresponding compilations, run from numbers whose scopes are related. -/
theorem Corresponds.runFrom {S : Scope → Scope → Prop} {m : Compile α} {n : Compile β}
    (h : Corresponds S R m n) {number number' : Nat}
    (hstart : S { nextNumber := number } { nextNumber := number' }) :
    Agree (fun a b => R a.1 b.1 ∧ S a.2 b.2) (m.runFrom number) (n.runFrom number') := by
  have hrun := h _ _ hstart
  unfold Compile.runFrom
  rcases hm : m.run.run { nextNumber := number } with ⟨x, s⟩
  rcases hn : n.run.run { nextNumber := number' } with ⟨y, t⟩
  rw [hm, hn] at hrun
  dsimp only at hrun
  cases hrun with
  | error e => exact .error e
  | ok hboth => exact .ok hboth

end QueryLoom
