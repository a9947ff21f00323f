import ClassModel.Schema.Field

/-!
# Ancestor chains

The chain of a class is the class itself, then the chains of its parents in declared order, with
every class listed once, where it comes first. Chains are computed depth first and kept, so each is
computed once.

Classes may extend each other in a circle. The walk knows the path it is on, and meeting a class on
that path is the one way it can fail. It ends because the path only grows by classes that are not on
it.
-/

namespace ClassModel

/-- The parents of each class, by position. -/
abbrev Parents := List (List ClassId)

namespace Ancestry

/-- The number of classes that are not on a path. -/
def unvisited (parents : Parents) (path : List ClassId) : Nat :=
  ((List.range parents.length).filter (· ∉ path)).length

theorem unvisited_append_lt {parents : Parents} {path : List ClassId} {id : ClassId}
    (hid : id < parents.length) (hpath : id ∉ path) :
    unvisited parents (path ++ [id]) < unvisited parents path := by
  have hsub : (List.range parents.length).filter (fun i => decide (i ∉ path ++ [id])) =
      ((List.range parents.length).filter (fun i => decide (i ∉ path))).filter
        (fun i => i ≠ id) := by
    rw [List.filter_filter]
    congr 1
    funext i
    simp [and_comm]
  unfold unvisited
  rw [hsub]
  apply List.length_filter_lt_length_iff_exists.2
  exact ⟨id, by simp [hid, hpath], by simp⟩

/-- The chains known so far. -/
abbrev Known := List (ClassId × List ClassId)

/-- Adds to a chain what another one has besides. -/
def join (chain other : List ClassId) : List ClassId := chain ++ other.filter (· ∉ chain)

/-- The circle closed by meeting a class on the path: from that class on, and the class again. -/
def circle (path : List ClassId) (id : ClassId) : List ClassId := path.dropWhile (· ≠ id) ++ [id]

mutual

/-- The chain of a class and the chains then known, or the circle that the class is part of or leads
to. -/
def chain (parents : Parents) (path : List ClassId) (known : Known) (id : ClassId) :
    Except (List ClassId) (List ClassId × Known) :=
  match known.lookup id with
  | some found => .ok (found, known)
  | none =>
    if _ : id ∈ path then .error (circle path id)
    else
      match _ : parents[id]? with
      | none => .ok ([id], (id, [id]) :: known)
      | some ids =>
        match joined parents (path ++ [id]) known [id] ids with
        | .ok (found, known) => .ok (found, (id, found) :: known)
        | .error ids => .error ids
termination_by (unvisited parents path, 0)
decreasing_by
  exact Prod.Lex.left _ _
    (unvisited_append_lt (List.getElem?_eq_some_iff.1 ‹parents[id]? = some ids›).1 ‹id ∉ path›)

/-- A chain with the chains of further classes joined to it. -/
def joined (parents : Parents) (path : List ClassId) (known : Known) (found : List ClassId) :
    List ClassId → Except (List ClassId) (List ClassId × Known)
  | [] => .ok (found, known)
  | id :: rest =>
    match chain parents path known id with
    | .ok (other, known) => joined parents path known (join found other) rest
    | .error ids => .error ids
termination_by ids => (unvisited parents path, ids.length + 1)
decreasing_by
  · exact Prod.Lex.right _ (by simp)
  · exact Prod.Lex.right _ (by simp)

end

/-- The chains of classes in order, from the chains known. -/
def chains (parents : Parents) (known : Known) :
    List ClassId → Except (List ClassId) (List (List ClassId))
  | [] => .ok []
  | id :: rest =>
    match chain parents [] known id with
    | .ok (found, known) => (found :: ·) <$> chains parents known rest
    | .error ids => .error ids

/-- The chain of every class, by position, or a circle. -/
def allChains (parents : Parents) : Except (List ClassId) (List (List ClassId)) :=
  chains parents [] (List.range parents.length)

end Ancestry

end ClassModel
