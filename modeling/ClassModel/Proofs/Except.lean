import Mathlib.Data.List.Forall2

/-!
# Computations that succeed

A computation that may fail succeeds exactly when its steps do, in the order in which they are
taken, and fails as the first step that does. Two computations agree when they fail alike or succeed
with related results; made of steps that agree, they agree.
-/

namespace ClassModel

variable {ε α β : Type}

theorem bind_eq_ok {x : Except ε α} {f : α → Except ε β} {b : β} :
    (x >>= f) = .ok b ↔ ∃ a, x = .ok a ∧ f a = .ok b := by
  cases x <;> simp [bind, Except.bind]

theorem pure_eq_ok {a b : α} : (pure a : Except ε α) = .ok b ↔ a = b := by
  simp [pure, Except.pure]

theorem mapError_eq_ok {ε' : Type} {x : Except ε α} {f : ε → ε'} {a : α} :
    x.mapError f = .ok a ↔ x = .ok a := by
  cases x <;> simp [Except.mapError]

theorem map_eq_ok {f : α → β} {x : Except ε α} {b : β} :
    f <$> x = .ok b ↔ ∃ a, x = .ok a ∧ f a = b := by
  cases x <;> simp [Functor.map, Except.map]

theorem mapM_eq_ok {f : α → Except ε β} {xs : List α} {ys : List β} :
    xs.mapM f = .ok ys ↔ List.Forall₂ (fun x y => f x = .ok y) xs ys := by
  induction xs generalizing ys with
  | nil => rw [List.mapM_nil, pure_eq_ok, List.forall₂_nil_left_iff, eq_comm]
  | cons x rest ih =>
    simp only [List.mapM_cons, bind_eq_ok, pure_eq_ok, List.forall₂_cons_left_iff]
    constructor
    · rintro ⟨y, hy, rest', hrest, rfl⟩
      exact ⟨y, rest', hy, ih.1 hrest, rfl⟩
    · rintro ⟨y, rest', hy, hrest, rfl⟩
      exact ⟨y, hy, rest', ih.2 hrest, rfl⟩

/-- A list of computations succeeds when each of them does. -/
theorem exists_mapM_eq_ok_iff {f : α → Except ε β} {xs : List α} :
    (∃ ys, xs.mapM f = .ok ys) ↔ ∀ x ∈ xs, ∃ y, f x = .ok y := by
  simp only [mapM_eq_ok]
  induction xs with
  | nil => simp
  | cons x rest ih =>
    simp only [List.forall₂_cons_left_iff, List.forall_mem_cons, ← ih]
    constructor
    · rintro ⟨_, y, ys, hy, hys, -⟩
      exact ⟨⟨y, hy⟩, ys, hys⟩
    · rintro ⟨⟨y, hy⟩, ys, hys⟩
      exact ⟨y :: ys, y, ys, hy, hys, rfl⟩

/-- Lists related one by one are related at each position. -/
theorem rel_of_getElem? {R : α → β → Prop} {xs : List α} {ys : List β}
    (h : List.Forall₂ R xs ys) {i : Nat} {x : α} {y : β} (hx : xs[i]? = some x)
    (hy : ys[i]? = some y) : R x y := by
  have hmem : (x, y) ∈ xs.zip ys :=
    List.mem_iff_getElem?.mpr ⟨i, List.getElem?_zip_eq_some.mpr ⟨hx, hy⟩⟩
  exact List.forall₂_zip h hmem

theorem exists_right_of_forall₂ {R : α → β → Prop} {xs : List α} {ys : List β}
    (h : List.Forall₂ R xs ys) {x : α} (hx : x ∈ xs) : ∃ y ∈ ys, R x y := by
  induction h with
  | nil => simp at hx
  | cons hhead _ ih =>
    rcases List.mem_cons.mp hx with rfl | hrest
    · exact ⟨_, List.mem_cons_self, hhead⟩
    · rcases ih hrest with ⟨y, hy, hrel⟩
      exact ⟨y, List.mem_cons_of_mem _ hy, hrel⟩

theorem exists_left_of_forall₂ {R : α → β → Prop} {xs : List α} {ys : List β}
    (h : List.Forall₂ R xs ys) {y : β} (hy : y ∈ ys) : ∃ x ∈ xs, R x y :=
  exists_right_of_forall₂ (List.Forall₂.flip (R := fun y x => R x y) h) hy

theorem forM_eq_ok {f : α → Except ε Unit} {xs : List α} :
    xs.forM f = .ok () ↔ ∀ x ∈ xs, f x = .ok () := by
  induction xs with
  | nil => simp [List.forM, pure, Except.pure]
  | cons x rest ih =>
    rw [List.forall_mem_cons, ← ih]
    -- the loop is a bind, though it is not written as one
    show (f x >>= fun _ => rest.forM f) = .ok () ↔ _
    rw [bind_eq_ok]
    constructor
    · rintro ⟨⟨⟩, hx, hrest⟩
      exact ⟨hx, hrest⟩
    · rintro ⟨hx, hrest⟩
      exact ⟨(), hx, hrest⟩

/-! ## The first step that fails -/

theorem bind_eq_error {x : Except ε α} {f : α → Except ε β} {e : ε} :
    (x >>= f) = .error e ↔ x = .error e ∨ ∃ a, x = .ok a ∧ f a = .error e := by
  cases x <;> simp [bind, Except.bind]

theorem map_eq_error {f : α → β} {x : Except ε α} {e : ε} :
    f <$> x = .error e ↔ x = .error e := by
  cases x <;> simp [Functor.map, Except.map]

/-- An element of a list is the first with a property. -/
def IsFirst (p : α → Prop) (xs : List α) (x : α) : Prop :=
  ∃ before after, xs = before ++ x :: after ∧ (∀ y ∈ before, ¬ p y) ∧ p x

theorem not_isFirst_nil {p : α → Prop} {x : α} : ¬ IsFirst p [] x := by
  rintro ⟨before, after, hnil, -, -⟩
  simp at hnil

theorem isFirst_cons {p : α → Prop} {x y : α} {rest : List α} :
    IsFirst p (y :: rest) x ↔ p y ∧ x = y ∨ ¬ p y ∧ IsFirst p rest x := by
  constructor
  · rintro ⟨before, after, hlist, hbefore, hx⟩
    cases before with
    | nil =>
      rcases List.cons.inj hlist with ⟨rfl, -⟩
      exact Or.inl ⟨hx, rfl⟩
    | cons first before =>
      rcases List.cons.inj hlist with ⟨rfl, rfl⟩
      rw [List.forall_mem_cons] at hbefore
      exact Or.inr ⟨hbefore.1, before, after, rfl, hbefore.2, hx⟩
  · rintro (⟨hy, rfl⟩ | ⟨hy, before, after, rfl, hbefore, hx⟩)
    · exact ⟨[], rest, rfl, by simp, hy⟩
    · exact ⟨y :: before, after, rfl, List.forall_mem_cons.mpr ⟨hy, hbefore⟩, hx⟩

namespace IsFirst

variable {p q : α → Prop} {xs ys : List α} {x : α}

theorem mem (h : IsFirst p xs x) : x ∈ xs := by
  rcases h with ⟨before, after, rfl, -, -⟩
  simp

theorem holds (h : IsFirst p xs x) : p x := by
  rcases h with ⟨-, -, -, -, hx⟩
  exact hx

theorem congr (h : IsFirst p xs x) (hpq : ∀ y ∈ xs, p y ↔ q y) : IsFirst q xs x := by
  rcases h with ⟨before, after, rfl, hbefore, hx⟩
  refine ⟨before, after, rfl, fun y hy => ?_, (hpq x (by simp)).mp hx⟩
  rw [← hpq y (by simp [hy])]
  exact hbefore y hy

/-- Elements at the end that do not have the property do not matter. -/
theorem of_append (h : IsFirst p (xs ++ ys) x) (hys : ∀ y ∈ ys, ¬ p y) : IsFirst p xs x := by
  induction xs with
  | nil => exact absurd h.holds (hys x h.mem)
  | cons y rest ih =>
    rw [List.cons_append, isFirst_cons] at h
    rw [isFirst_cons]
    rcases h with hfirst | ⟨hy, hrest⟩
    · exact Or.inl hfirst
    · exact Or.inr ⟨hy, ih hrest⟩

end IsFirst

/-- What fails first in a list is what fails at its head, or else what fails first behind it. -/
theorem exists_isFirst_cons {f : α → Except ε β} {x : α} {rest : List α} {e : ε} :
    (∃ z, IsFirst (fun x => ∀ y, f x ≠ .ok y) (x :: rest) z ∧ f z = .error e) ↔
      f x = .error e ∨
        ∃ y, f x = .ok y ∧ ∃ z, IsFirst (fun x => ∀ y, f x ≠ .ok y) rest z ∧ f z = .error e := by
  simp only [isFirst_cons]
  cases hx : f x with
  | error e' =>
    constructor
    · rintro ⟨_, ⟨-, rfl⟩ | ⟨hfine, -⟩, h⟩
      · exact Or.inl (hx.symm.trans h)
      · simp at hfine
    · rintro (h | ⟨_, h, -⟩)
      · exact ⟨x, Or.inl ⟨by simp, rfl⟩, hx.trans h⟩
      · simp at h
  | ok y =>
    constructor
    · rintro ⟨z, ⟨hbad, -⟩ | ⟨-, hz⟩, he⟩
      · simp at hbad
      · exact Or.inr ⟨y, rfl, z, hz, he⟩
    · rintro (h | ⟨_, -, z, hz, he⟩)
      · simp at h
      · exact ⟨z, Or.inr ⟨by simp, hz⟩, he⟩

/-- A list of computations fails as the first of them that does. -/
theorem mapM_eq_error {f : α → Except ε β} {xs : List α} {e : ε} :
    xs.mapM f = .error e ↔ ∃ x, IsFirst (fun x => ∀ y, f x ≠ .ok y) xs x ∧ f x = .error e := by
  induction xs with
  | nil => simp [pure, Except.pure, not_isFirst_nil]
  | cons x rest ih =>
    rw [exists_isFirst_cons, ← ih, List.mapM_cons]
    simp only [bind_eq_error, pure, Except.pure, reduceCtorEq, and_false, exists_const, or_false]

theorem forM_eq_error {f : α → Except ε Unit} {xs : List α} {e : ε} :
    xs.forM f = .error e ↔ ∃ x, IsFirst (fun x => ∀ y, f x ≠ .ok y) xs x ∧ f x = .error e := by
  induction xs with
  | nil => simp [List.forM, pure, Except.pure, not_isFirst_nil]
  | cons x rest ih =>
    rw [exists_isFirst_cons, ← ih]
    show (f x >>= fun _ => rest.forM f) = .error e ↔ _
    rw [bind_eq_error]

/-! ## Computations that agree -/

/-- Both computations fail with one error, or both succeed with related results. -/
inductive Agree (R : α → β → Prop) : Except ε α → Except ε β → Prop
  | ok {a : α} {b : β} (h : R a b) : Agree R (.ok a) (.ok b)
  | error (e : ε) : Agree R (.error e) (.error e)

namespace Agree

variable {γ : Type} {R : α → β → Prop}

theorem bind {α' β' : Type} {R' : α' → β' → Prop} {x : Except ε α} {y : Except ε β}
    {f : α → Except ε α'} {g : β → Except ε β'} (h : Agree R x y)
    (hstep : ∀ a b, R a b → Agree R' (f a) (g b)) : Agree R' (x >>= f) (y >>= g) := by
  cases h with
  | ok hab => exact hstep _ _ hab
  | error e => exact .error e

/-- Computations that go through one list agree when each step does. -/
theorem foldlM {f : α → γ → Except ε α} {g : β → γ → Except ε β}
    (hstep : ∀ a b c, R a b → Agree R (f a c) (g b c)) {a : α} {b : β} (hab : R a b)
    (cs : List γ) : Agree R (cs.foldlM f a) (cs.foldlM g b) := by
  induction cs generalizing a b with
  | nil => exact .ok hab
  | cons c rest ih =>
    rw [List.foldlM_cons, List.foldlM_cons]
    exact (hstep a b c hab).bind fun _ _ => ih

/-- Computations that agree, and go on alike, have the same outcome. -/
theorem bind_eq {x : Except ε α} {y : Except ε β} {f : α → Except ε γ} {g : β → Except ε γ}
    (h : Agree R x y) (hstep : ∀ a b, R a b → f a = g b) : (x >>= f) = (y >>= g) := by
  cases h with
  | ok hab => exact hstep _ _ hab
  | error e => rfl

/-- What holds of the results of each computation may be added to the relation. -/
theorem and_of_ok {x : Except ε α} {y : Except ε β} {P : α → Prop} {Q : β → Prop}
    (h : Agree R x y) (hx : ∀ a, x = .ok a → P a) (hy : ∀ b, y = .ok b → Q b) :
    Agree (fun a b => R a b ∧ P a ∧ Q b) x y := by
  cases h with
  | ok hab => exact .ok ⟨hab, hx _ rfl, hy _ rfl⟩
  | error e => exact .error e

theorem mapError {ε' : Type} {x : Except ε α} {y : Except ε β} (h : Agree R x y) (f : ε → ε') :
    Agree R (x.mapError f) (y.mapError f) := by
  cases h with
  | ok hab => exact .ok hab
  | error e => exact .error (f e)

theorem imp {S : α → β → Prop} {x : Except ε α} {y : Except ε β} (h : Agree R x y)
    (hRS : ∀ a b, R a b → S a b) : Agree S x y := by
  cases h with
  | ok hab => exact .ok (hRS _ _ hab)
  | error e => exact .error e

end Agree

/-! ## Lists related one by one -/

theorem map_eq_map_iff_forall₂ {γ : Type} {f : α → γ} {g : β → γ} {xs : List α} {ys : List β} :
    xs.map f = ys.map g ↔ List.Forall₂ (fun x y => f x = g y) xs ys := by
  rw [← List.forall₂_eq_eq_eq, List.forall₂_map_left_iff, List.forall₂_map_right_iff]

/-- Searches in related lists find related elements, if they look for the same. -/
theorem rel_find? {R : α → β → Prop} {p : α → Bool} {q : β → Bool}
    (hpq : ∀ x y, R x y → p x = q y) {xs : List α} {ys : List β} (h : List.Forall₂ R xs ys) :
    Option.Rel R (xs.find? p) (ys.find? q) := by
  induction h with
  | nil => exact .none
  | cons hxy _ ih =>
    rw [List.find?_cons, List.find?_cons, hpq _ _ hxy]
    split
    · exact .some hxy
    · exact ih

end ClassModel
