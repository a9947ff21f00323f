import Mathlib.Data.List.Nodup

/-!
# What comes first in a list

Of all elements of a list that share a key only the first is kept, where it stands. A list that is
extended by another keeps what it has, and of the other it takes, in order, each element that it
does not have yet.

* `firstsBy` and `firstsBy_append` — the first elements of their keys, also of a list in two parts;
* `extendWith` and `extendWith_append` — a list extended by another, or by two in turn;
* `extendWith_eq_firsts` — one element extended by others.
-/

namespace ClassModel

variable {α κ : Type} [DecidableEq α] [DecidableEq κ]

/-- The elements of a list whose key no element before them has. -/
def firstsBy (key : α → κ) : List α → List α
  | [] => []
  | x :: rest => x :: (firstsBy key rest).filter fun y => key y ≠ key x

/-- The distinct elements of a list, in the order in which they come first. -/
abbrev firsts (xs : List α) : List α := firstsBy id xs

/-- A list, and behind it each element of another one that is not in it yet. -/
def extendWith (xs ys : List α) : List α := xs ++ firsts (ys.filter (· ∉ xs))

section Keys

omit [DecidableEq α]

variable {key : α → κ} {xs ys : List α}

@[simp] theorem firstsBy_nil (key : α → κ) : firstsBy key [] = [] := rfl

/-- No key is lost. -/
theorem mem_map_firstsBy (key : α → κ) (xs : List α) {k : κ} :
    k ∈ (firstsBy key xs).map key ↔ k ∈ xs.map key := by
  induction xs with
  | nil => rfl
  | cons first rest ih =>
    rw [firstsBy, List.map_cons, List.map_cons, List.mem_cons, List.mem_cons, ← ih]
    by_cases hk : k = key first
    · simp [hk]
    · -- another key is not dropped with that of the first element
      simp only [hk, false_or, List.mem_map, List.mem_filter, decide_eq_true_eq]
      constructor
      · rintro ⟨x, ⟨hx, -⟩, rfl⟩
        exact ⟨x, hx, rfl⟩
      · rintro ⟨x, hx, rfl⟩
        exact ⟨x, ⟨hx, hk⟩, rfl⟩

/-- No key comes twice. -/
theorem nodup_firstsBy (key : α → κ) (xs : List α) : ((firstsBy key xs).map key).Nodup := by
  induction xs with
  | nil => exact List.nodup_nil
  | cons first rest ih =>
    rw [firstsBy, List.map_cons, List.nodup_cons]
    constructor
    · intro hagain
      rcases List.mem_map.mp hagain with ⟨x, hx, hkey⟩
      have hother := (List.mem_filter.mp hx).2
      simp [hkey] at hother
    · exact ih.sublist (List.filter_sublist.map key)

/-- A choice by the key may be made before or after. -/
theorem firstsBy_filter (key : α → κ) (p : κ → Bool) (xs : List α) :
    firstsBy key (xs.filter fun x => p (key x)) = (firstsBy key xs).filter fun x => p (key x) := by
  induction xs with
  | nil => rfl
  | cons first rest ih =>
    simp only [firstsBy, List.filter_cons]
    by_cases hp : p (key first)
    · simp only [hp, if_true, firstsBy, ih, List.filter_filter, Bool.and_comm]
    · -- what goes with the first element would not have been chosen
      simp only [hp, Bool.false_eq_true, if_false, ih, List.filter_filter]
      apply List.filter_congr
      intro x _
      by_cases hkey : key x = key first
      · simp [hkey, hp]
      · simp [hkey]

theorem firstsBy_append (key : α → κ) (xs ys : List α) :
    firstsBy key (xs ++ ys) =
      firstsBy key xs ++ (firstsBy key ys).filter fun y => key y ∉ xs.map key := by
  induction xs with
  | nil => simp
  | cons first rest ih =>
    rw [List.cons_append, firstsBy, firstsBy, ih, List.filter_append, List.filter_filter,
      List.cons_append]
    congr 2
    apply List.filter_congr
    intro y _
    simp [not_or]

/-- An element at the end is kept if its key is new. -/
theorem firstsBy_concat (key : α → κ) (xs : List α) (y : α) :
    firstsBy key (xs ++ [y]) =
      if key y ∈ xs.map key then firstsBy key xs else firstsBy key xs ++ [y] := by
  rw [firstsBy_append, firstsBy, firstsBy, List.filter_nil, List.filter_cons, List.filter_nil]
  by_cases hold : key y ∈ xs.map key
  · simp only [hold, not_true_eq_false, decide_false, Bool.false_eq_true, if_false, if_true,
      List.append_nil]
  · simp only [hold, not_false_eq_true, decide_true, if_true, if_false]

end Keys

theorem firsts_of_nodup {xs : List α} (h : xs.Nodup) : firsts xs = xs := by
  induction xs with
  | nil => rfl
  | cons first rest ih =>
    rw [List.nodup_cons] at h
    have hothers : ∀ x ∈ rest, (decide (id x ≠ id first)) = true := by
      intro x hx
      have hne : x ≠ first := fun heq => h.1 (heq ▸ hx)
      simpa using hne
    have hrest : firstsBy id rest = rest := ih h.2
    rw [firsts, firstsBy, hrest, List.filter_eq_self.mpr hothers]

/-! ## Lists extended by others -/

theorem mem_extendWith {xs ys : List α} {x : α} : x ∈ extendWith xs ys ↔ x ∈ xs ∨ x ∈ ys := by
  have hfirsts : x ∈ firsts (ys.filter (· ∉ xs)) ↔ x ∈ ys.filter (· ∉ xs) := by
    simpa using mem_map_firstsBy id (ys.filter (· ∉ xs)) (k := x)
  rw [extendWith, List.mem_append, hfirsts, List.mem_filter]
  by_cases hx : x ∈ xs
  · simp [hx]
  · simp [hx]

@[simp] theorem extendWith_nil (xs : List α) : extendWith xs [] = xs := by simp [extendWith]

/-- One element is added unless the list has it. -/
theorem extendWith_singleton (xs : List α) (y : α) :
    extendWith xs [y] = if y ∈ xs then xs else xs ++ [y] := by
  unfold extendWith
  split
  · next hold => simp [hold]
  · next hnew => simp [hnew, firstsBy]

/-- One element extended by others is what comes first of them all. -/
theorem extendWith_eq_firsts (x : α) (ys : List α) : extendWith [x] ys = firsts (x :: ys) := by
  have hchosen : ys.filter (· ∉ [x]) = ys.filter fun y => decide (id y ≠ id x) := by
    apply List.filter_congr
    intro y _
    simp
  rw [extendWith, hchosen, firsts, firstsBy_filter id fun y => decide (y ≠ id x)]
  rfl

/-- A list extended by two others in turn is extended by both together. -/
theorem extendWith_append (xs ys zs : List α) :
    extendWith xs (ys ++ zs) = extendWith (extendWith xs ys) zs := by
  have hchosen : ∀ p : α → Bool, firsts (zs.filter p) = (firsts zs).filter p := by
    intro p
    exact firstsBy_filter id p zs
  have hmem : ∀ z, z ∈ extendWith xs ys ↔ z ∈ xs ∨ z ∈ ys := fun z => mem_extendWith
  calc extendWith xs (ys ++ zs)
      = xs ++ (firsts (ys.filter (· ∉ xs)) ++
          ((firsts zs).filter (· ∉ xs)).filter (· ∉ ys.filter (· ∉ xs))) := by
        rw [← hchosen, extendWith, List.filter_append, firsts, firstsBy_append]
        simp only [id_eq, List.map_id_fun]
    _ = extendWith xs ys ++ (firsts zs).filter (· ∉ extendWith xs ys) := by
        rw [List.filter_filter, ← List.append_assoc]
        congr 1
        apply List.filter_congr
        intro z _
        by_cases hz : z ∈ xs
        · simp [hmem, hz]
        · simp [hmem, hz]
    _ = extendWith (extendWith xs ys) zs := by
        rw [← hchosen]
        rfl

end ClassModel
