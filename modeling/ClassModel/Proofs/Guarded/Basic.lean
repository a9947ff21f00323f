import ClassModel.Proofs.Except

/-!
# Guarded computations

A computation over positions may go wrong in ways that are no refusals: it may look up a position
that a list does not have, nest its calls too deep, or find that something it relies on does not
hold. A guarded computation says so where it happens. The same computation written without guards
uses default values there, or leaves the case out; it is right to do so where the guarded one never
goes wrong, which is to say where both have the same outcome.

* `Stop` — why a guarded computation stops;
* `Guarded.nth`, `Guarded.expect` — the guards;
* `guarded` — a computation as a guarded one that does not go wrong;
* `guarded_bind`, `guarded_mapM`, `guarded_foldlM` — made of steps that do not go wrong, a
  computation does not.
-/

namespace ClassModel

/-- Why a guarded computation stops. -/
inductive Stop (ε : Type) where
  /-- It looks up a position that is not there. -/
  | outOfRange (index : Nat)
  /-- Its calls are nested deeper than they may be. -/
  | tooDeep
  /-- It relies on something that does not hold. -/
  | unexpected
  /-- It refuses, as it may. -/
  | refused (error : ε)
deriving DecidableEq, Repr

/-- The same stop, with another error where it is a refusal. -/
def Stop.map {ε ε' : Type} (f : ε → ε') : Stop ε → Stop ε'
  | .outOfRange index => .outOfRange index
  | .tooDeep => .tooDeep
  | .unexpected => .unexpected
  | .refused error => .refused (f error)

/-- A computation that says where it goes wrong. -/
abbrev Guarded (ε α : Type) := Except (Stop ε) α

variable {ε α β : Type}

namespace Guarded

/-- The element at a position. -/
def nth (xs : List α) (index : Nat) : Guarded ε α :=
  match xs[index]? with
  | some x => .ok x
  | none => .error (.outOfRange index)

/-- Goes on where something holds. -/
def expect (p : Prop) [Decidable p] : Guarded ε Unit := if p then .ok () else .error .unexpected

end Guarded

/-- A computation as a guarded one that does not go wrong. -/
def guarded (x : Except ε α) : Guarded ε α := x.mapError .refused

namespace Guarded

theorem nth_eq_ok {xs : List α} {index : Nat} {x : α} :
    (nth xs index : Guarded ε α) = .ok x ↔ xs[index]? = some x := by
  unfold nth
  cases xs[index]? <;> simp

theorem expect_of {p : Prop} [Decidable p] (h : p) : (expect p : Guarded ε Unit) = .ok () :=
  if_pos h

/-- Positions that are all there lead to what is found at them. -/
theorem mapM_nth {xs : List α} {indices : List Nat} (h : ∀ index ∈ indices, index < xs.length) :
    indices.mapM (nth xs : Nat → Guarded ε α) =
      .ok (indices.filterMap fun index => xs[index]?) := by
  induction indices with
  | nil => rfl
  | cons index rest ih =>
    rw [List.forall_mem_cons] at h
    have hthere := List.getElem?_eq_getElem h.1
    rw [List.mapM_cons, nth_eq_ok.mpr hthere, ih h.2, List.filterMap_cons_some hthere]
    rfl

end Guarded

/-! ## Computations that do not go wrong -/

@[simp] theorem guarded_ok (a : α) : guarded (.ok a : Except ε α) = .ok a := rfl

@[simp] theorem guarded_error (e : ε) : guarded (.error e : Except ε α) = .error (.refused e) := rfl

theorem bind_ok (a : α) (f : α → Except ε β) : (Except.ok a >>= f) = f a := rfl

theorem guarded_bind (x : Except ε α) (f : α → Except ε β) :
    guarded (x >>= f) = guarded x >>= fun a => guarded (f a) := by
  cases x <;> rfl

/-- What goes on behind a computation need be compared for its results only. -/
theorem guarded_bind_congr {y : Guarded ε α} {x : Except ε α} (hxy : y = guarded x)
    {f : α → Guarded ε β} {g : α → Except ε β} (h : ∀ a, x = .ok a → f a = guarded (g a)) :
    (y >>= f) = guarded (x >>= g) := by
  subst hxy
  cases x with
  | ok a => exact h a rfl
  | error e => rfl

theorem guarded_mapM (f : α → Except ε β) (xs : List α) :
    guarded (xs.mapM f) = xs.mapM fun x => guarded (f x) := by
  induction xs with
  | nil => rfl
  | cons x rest ih =>
    rw [List.mapM_cons, List.mapM_cons, guarded_bind, ← ih]
    congr 1
    funext y
    rw [guarded_bind]
    rfl

theorem guarded_forM (f : α → Except ε Unit) (xs : List α) :
    guarded (xs.forM f) = xs.forM fun x => guarded (f x) := by
  induction xs with
  | nil => rfl
  | cons x rest ih =>
    show guarded (f x >>= fun _ => rest.forM f) = guarded (f x) >>= fun _ => rest.forM _
    rw [guarded_bind, ih]

theorem guarded_mapError {ε' : Type} (f : ε → ε') (x : Except ε α) :
    (guarded x).mapError (Stop.map f) = guarded (x.mapError f) := by
  cases x <;> rfl

theorem guarded_eq_ok {x : Except ε α} {a : α} : guarded x = .ok a ↔ x = .ok a := mapError_eq_ok

/-- The result that is compared may be taken to be that of the computation without guards. -/
theorem Agree.and_eq_ok {R : α → β → Prop} {x : Guarded ε α} {y : Except ε β}
    (h : Agree R x (guarded y)) : Agree (fun a b => R a b ∧ y = .ok b) x (guarded y) := by
  have hresult : ∀ b, guarded y = .ok b → y = .ok b := fun _ => guarded_eq_ok.mp
  exact (h.and_of_ok (fun _ _ => trivial) hresult).imp fun _ _ hboth => ⟨hboth.1, hboth.2.2⟩

end ClassModel
