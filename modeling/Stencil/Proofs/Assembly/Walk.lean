import Mathlib.Algebra.GroupWithZero.Nat
import Stencil.Proofs.Assembly.Scope

/-!
The walk through a tree of scopes. If the children of every scope are in the order in which they
were created, the walk is in pre-order, with each scope before what is below it and older children
before younger ones. The number of classes is the sum over the walk.
-/

namespace Stencil.Scope

/-! ## Orders of chains -/

/-- There was a time at which the first chain led to a scope and the second did not. -/
def CreatedBefore (created : List (List String)) (first second : List String) : Prop :=
  ∃ front, front <+: created ∧ first ∈ front ∧ second ∉ front

/-- The order of chains of names in which a scope comes before what is below it, and of two scopes
side by side the one that was created first comes first with all that is below it. -/
inductive Precedes (created : List (List String)) : List String → List String → Prop where
  | below (chain : List String) (name : String) (rest : List String) :
      Precedes created chain (chain ++ name :: rest)
  | beside {chain : List String} {first second : String} (rest others : List String)
      (earlier : CreatedBefore created (chain ++ [first]) (chain ++ [second])) :
      Precedes created (chain ++ first :: rest) (chain ++ second :: others)

variable {created : List (List String)}

theorem CreatedBefore.ne {first second : List String}
    (earlier : CreatedBefore created first second) : first ≠ second := by
  rintro rfl
  rcases earlier with ⟨front, -, inside, outside⟩
  exact outside inside

theorem CreatedBefore.append {first second : List String}
    (earlier : CreatedBefore created first second) (later : List (List String)) :
    CreatedBefore (created ++ later) first second := by
  rcases earlier with ⟨front, isPrefix, inside, outside⟩
  exact ⟨front, isPrefix.trans (List.prefix_append created later), inside, outside⟩

theorem Precedes.ne {left right : List String} (precedes : Precedes created left right) :
    left ≠ right := by
  cases precedes with
  | below name rest => simp
  | beside rest others earlier =>
      intro same
      rw [(List.cons.inj (List.append_cancel_left same)).1] at earlier
      exact earlier.ne rfl

/-! ## The order of a walk -/

/-- Every scope of the tree at `above` has its children in the order of their creation. -/
def IsOrdered (created : List (List String)) (above : List String) (scope : Scope) : Prop :=
  ∀ chain inner, scope.at? chain = some inner → inner.childNames.Pairwise fun first second =>
    CreatedBefore created (above ++ chain ++ [first]) (above ++ chain ++ [second])

theorem IsOrdered.nodup {above : List String} {scope : Scope}
    (ordered : scope.IsOrdered created above) : scope.childNames.Nodup := by
  apply (ordered [] scope rfl).imp
  rintro first second earlier rfl
  exact earlier.ne rfl

theorem IsOrdered.child {above : List String} {scope child : Scope} {name : String}
    (ordered : scope.IsOrdered created above) (found : scope.child? name = some child) :
    child.IsOrdered created (above ++ [name]) := by
  intro chain inner reached
  have further : scope.at? (name :: chain) = some inner := by rw [at?, found]; exact reached
  simpa using ordered (name :: chain) inner further

theorem walkChildren_eq (children : List (String × Scope)) :
    walkChildren children = children.flatMap fun (name, child) =>
      child.walk.map fun (path, scope) => (name :: path, scope) := by
  induction children with
  | nil => rw [walkChildren, List.flatMap_nil]
  | cons head tail induction =>
      rcases head with ⟨name, child⟩
      rw [walkChildren, induction, List.flatMap_cons]

theorem walk_ordered (scope : Scope) {above : List String}
    (ordered : scope.IsOrdered created above) :
    scope.walk.Pairwise fun left right =>
      Precedes created (above ++ left.1) (above ++ right.1) := by
  induction scope using Scope.induction generalizing above with
  | scope name types children induction =>
      rw [walk, walkChildren_eq, List.pairwise_cons]
      constructor
      · intro pair member
        rcases List.mem_flatMap.mp member with ⟨⟨first, child⟩, _, inside⟩
        rcases List.mem_map.mp inside with ⟨⟨rest, inner⟩, _, rfl⟩
        rw [List.append_nil]
        exact .below above first rest
      rw [List.pairwise_flatMap]
      constructor
      · intro pair listed
        rcases pair with ⟨first, child⟩
        have found := child?_of_mem ordered.nodup listed
        have below := induction first child listed (ordered.child found)
        rw [List.pairwise_map]
        simpa using below
      · have siblings := ordered [] _ rfl
        rw [childNames, List.pairwise_map] at siblings
        apply siblings.imp
        intro first second earlier left inFirst right inSecond
        rcases List.mem_map.mp inFirst with ⟨⟨rest, inner⟩, _, rfl⟩
        rcases List.mem_map.mp inSecond with ⟨⟨others, innerToo⟩, _, rfl⟩
        rw [List.append_nil] at earlier
        exact .beside rest others earlier

/-! ## Sums over a walk -/

mutual

theorem typeCount_eq_sum : (scope : Scope) →
    scope.typeCount = (scope.walk.map fun (_, inner) => inner.types.length).sum
  | ⟨name, types, children⟩ => by
      rw [typeCount, walk, List.map_cons, List.sum_cons, typeCountChildren_eq_sum children]

theorem typeCountChildren_eq_sum : (children : List (String × Scope)) →
    typeCountChildren children =
      ((walkChildren children).map fun (_, inner) => inner.types.length).sum
  | [] => rfl
  | (name, child) :: later => by
      rw [typeCountChildren, walkChildren, List.map_append, List.sum_append,
        typeCount_eq_sum child, typeCountChildren_eq_sum later, List.map_map]
      rfl

end

end Stencil.Scope
