/-!
# Entries ordered by name

A finite map from names to values, kept as a list of pairs with the names rising. Names compare
code point by code point, which is also the order of their UTF-8 bytes.

`Entries.get?_put` says what `put` does to look-ups, `Entries.rising_put` that the order is kept.
-/

namespace ClassModel

/-- Pairs of a name and a value. -/
abbrev Entries (α : Type u) := List (String × α)

namespace Entries

variable {α : Type u}

/-- The names rise strictly, so no name occurs twice. -/
def Rising (entries : Entries α) : Prop := entries.Pairwise (·.1 < ·.1)

/-- The value under a name. -/
def get? (name : String) : Entries α → Option α
  | [] => none
  | (key, value) :: rest => if key = name then some value else get? name rest

/-- Puts a value under a name, in place of the value it had. -/
def put (name : String) (value : α) : Entries α → Entries α
  | [] => [(name, value)]
  | (key, old) :: rest =>
    if name = key then (name, value) :: rest
    else if name < key then (name, value) :: (key, old) :: rest
    else (key, old) :: put name value rest

/-- Puts a value under a name that has none. -/
def putNew (name : String) (value : α) (entries : Entries α) : Entries α :=
  if (entries.get? name).isSome then entries else entries.put name value

/-- The map that a list of pairs describes: the last value given for a name counts. -/
def ofPairs (pairs : List (String × α)) : Entries α :=
  pairs.foldl (fun entries pair => entries.put pair.1 pair.2) []

/-- The names, in order. -/
def names (entries : Entries α) : List String := entries.map (·.1)

/-! ## What the operations do to look-ups -/

theorem get?_put (name : String) (value : α) (entries : Entries α) (other : String) :
    (entries.put name value).get? other =
      if name = other then some value else entries.get? other := by
  induction entries with
  | nil => simp [put, get?]
  | cons entry rest ih =>
    obtain ⟨key, old⟩ := entry
    simp only [put]
    split
    · next h =>
      subst h
      simp only [get?]
      split <;> rfl
    · split
      · simp [get?]
      · simp only [get?, ih]
        split <;> split <;> simp_all

theorem get?_putNew (name : String) (value : α) (entries : Entries α) (other : String) :
    (entries.putNew name value).get? other =
      (entries.get? other).or (if name = other then some value else none) := by
  unfold putNew
  by_cases heq : name = other
  · subst heq
    cases h : entries.get? name with
    | none => simp [get?_put]
    | some old => simp [h]
  · cases h : entries.get? name with
    | none => simp [heq, get?_put]
    | some old => simp [heq]

theorem mem_names_put {name : String} {value : α} {entries : Entries α} {other : String} :
    other ∈ (entries.put name value).names ↔ other = name ∨ other ∈ entries.names := by
  induction entries with
  | nil => simp [put, names]
  | cons entry rest ih =>
    obtain ⟨key, old⟩ := entry
    simp only [names] at ih
    simp only [put, names]
    split
    · next h => simp [h]
    · split
      · simp
      · simp only [List.map_cons, List.mem_cons, ih]
        grind

theorem isSome_get? {name : String} {entries : Entries α} :
    (entries.get? name).isSome ↔ name ∈ entries.names := by
  induction entries with
  | nil => simp [get?, names]
  | cons entry rest ih =>
    obtain ⟨key, value⟩ := entry
    simp only [get?, names, List.map_cons, List.mem_cons]
    split
    · next h => simp [h]
    · next h =>
      rw [ih]
      simp [names, Ne.symm h]

theorem mem_of_get? {name : String} {value : α} {entries : Entries α}
    (h : entries.get? name = some value) : (name, value) ∈ entries := by
  induction entries with
  | nil => simp [get?] at h
  | cons entry rest ih =>
    obtain ⟨key, first⟩ := entry
    rw [get?] at h
    split at h
    · next hkey => simp_all
    · exact List.mem_cons_of_mem _ (ih h)

/-- A value is found under its name when no other has the name. -/
theorem get?_of_mem {entries : Entries α} (h : entries.names.Nodup) {name : String} {value : α}
    (hmem : (name, value) ∈ entries) : entries.get? name = some value := by
  induction entries with
  | nil => simp at hmem
  | cons entry rest ih =>
    obtain ⟨key, first⟩ := entry
    simp only [names, List.map_cons, List.nodup_cons] at h
    rw [get?]
    rcases List.mem_cons.1 hmem with hfirst | hrest
    · rcases Prod.mk.inj hfirst with ⟨rfl, rfl⟩
      exact if_pos rfl
    · have hother : key ≠ name := by
        rintro rfl
        exact h.1 (List.mem_map.2 ⟨_, hrest, rfl⟩)
      rw [if_neg hother]
      exact ih h.2 hrest

/-! ## Order -/

/-- The order is one of the names alone. -/
theorem rising_iff {entries : Entries α} : entries.Rising ↔ entries.names.Pairwise (· < ·) :=
  List.pairwise_map.symm

theorem nodup_of_rising {entries : Entries α} (h : entries.Rising) : entries.names.Nodup := by
  refine (rising_iff.1 h).imp ?_
  intro first second hlt heq
  rw [heq] at hlt
  exact String.lt_irrefl _ hlt

theorem rising_put {name : String} {value : α} {entries : Entries α} (h : entries.Rising) :
    (entries.put name value).Rising := by
  induction entries with
  | nil => simp [put, Rising]
  | cons entry rest ih =>
    obtain ⟨key, old⟩ := entry
    have hrest : Rising rest := (List.pairwise_cons.1 h).2
    have hkey : ∀ other ∈ names rest, key < other := by
      intro other hother
      obtain ⟨pair, hpair, rfl⟩ := List.mem_map.1 hother
      exact (List.pairwise_cons.1 h).1 pair hpair
    simp only [put]
    split
    · next heq =>
      subst heq
      exact List.pairwise_cons.2 ⟨(List.pairwise_cons.1 h).1, hrest⟩
    · next hne =>
      split
      · next hlt =>
        refine List.pairwise_cons.2 ⟨?_, h⟩
        intro pair hpair
        rcases List.mem_cons.1 hpair with rfl | hmem
        · exact hlt
        · exact String.lt_trans hlt (hkey _ (List.mem_map.2 ⟨pair, hmem, rfl⟩))
      · next hnlt =>
        have hlt : key < name := by
          rcases String.le_total name key with hle | hle
          · exact absurd (String.le_antisymm hle (String.not_lt.1 hnlt)) hne
          · exact Classical.byContradiction fun hn =>
              hne (String.le_antisymm (String.not_lt.1 hn) hle)
        refine List.pairwise_cons.2 ⟨?_, ih hrest⟩
        intro pair hpair
        have hname : pair.1 ∈ names (put name value rest) := List.mem_map.2 ⟨pair, hpair, rfl⟩
        rcases mem_names_put.1 hname with heq | hmem
        · exact heq ▸ hlt
        · exact hkey _ hmem

theorem rising_putNew {name : String} {value : α} {entries : Entries α} (h : entries.Rising) :
    (entries.putNew name value).Rising := by
  unfold putNew
  split
  · exact h
  · exact rising_put h

end Entries

end ClassModel
