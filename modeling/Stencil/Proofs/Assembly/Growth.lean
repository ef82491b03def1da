import Mathlib.Data.List.Induction
import Stencil.Proofs.Assembly.Walk

/-!
The growth of a tree of scopes. Each step enters a child of a scope or adds a class to it, and
brings just that to that scope. So after a run of steps from an empty scope the tree accounts for
all of them: its scopes are the ones that were ever created, its classes the ones that were added,
each where it was added, and nothing else is there.
-/

namespace Stencil.Scope

/-! ## Steps -/

/-- What an item does to the scope that it comes to. -/
def Item.change (item : Item) (scope : Scope) : Scope :=
  match item with
  | .template value => scope.add value
  | .child name => scope.withChild name

/-- The tree after an item came to one of its scopes. -/
def receive (root : Scope) (arrival : Arrival) : Scope :=
  root.updateAt arrival.item.change arrival.chain

def receiveAll (root : Scope) (arrivals : List Arrival) : Scope := arrivals.foldl receive root

/-- Each arrival comes to a scope that is there by then. -/
def Admits : Scope → List Arrival → Prop
  | _, [] => True
  | root, arrival :: later => (root.at? arrival.chain).isSome ∧ (root.receive arrival).Admits later

theorem setChild_self {scope child : Scope} {name : String} (distinct : scope.childNames.Nodup)
    (found : scope.child? name = some child) : scope.setChild name child = scope := by
  have same : (scope.setChild name child).children = scope.children := by
    conv_rhs => rw [← List.map_id scope.children]
    apply List.map_congr_left
    intro pair listed
    rcases pair with ⟨other, old⟩
    by_cases equal : other = name
    · subst equal
      have only := child?_of_mem distinct listed
      rw [found, Option.some_inj] at only
      simp [only]
    · simp [equal]
  rcases scope with ⟨own, types, children⟩
  exact congrArg (mk own types) same

theorem enter_of_child? {scope child : Scope} {name : String}
    (found : scope.child? name = some child) (new : Scope) :
    scope.enter name new = scope.setChild name new := by
  rw [enter, withChild, found, Option.isSome_some, if_pos rfl]

theorem enter_childOrNew {scope : Scope} (distinct : scope.childNames.Nodup) (name : String) :
    scope.enter name (scope.childOrNew name) = scope.withChild name := by
  apply setChild_self
  · rw [childNames_withChild]
    exact insertNames_nodup distinct [name]
  · rw [child?_withChild, if_pos rfl]

theorem isDistinct_child {scope child : Scope} {name : String} (distinct : scope.IsDistinct)
    (found : scope.child? name = some child) : child.IsDistinct := by
  have below := isDistinct_childOrNew distinct name
  rwa [childOrNew, found, Option.getD_some] at below

/-- To enter a child that is there brings nothing. -/
theorem Extends.forget {before after : Scope} {chain : List String} {name : String}
    {arrivals : List Arrival}
    (extended : Extends before after (⟨chain, .child name⟩ :: arrivals))
    (present : name ∈ before.childNamesAt chain) : Extends before after arrivals where
  name := extended.name
  typesAt other := by
    rw [extended.typesAt, itemsAt_cons]
    split <;> rfl
  childNamesAt other := by
    rw [extended.childNamesAt, itemsAt_cons]
    split
    · rename_i equal
      simp only at equal
      subst equal
      rw [List.filterMap_cons, Item.child?_child, insertNames_cons, insertName, if_pos present]
    · rfl
  named := extended.named
  typeCount distinct := by
    rw [extended.typeCount distinct, List.countP_cons_of_neg Bool.false_ne_true]

/-- One step brings its item to its scope and changes nothing else. -/
theorem extends_receive {root : Scope} {arrival : Arrival} (distinct : root.IsDistinct)
    (there : (root.at? arrival.chain).isSome) : Extends root (root.receive arrival) [arrival] := by
  rcases arrival with ⟨chain, item⟩
  induction chain generalizing root with
  | nil =>
      cases item with
      | template value => exact Extends.add root value
      | child name =>
          show Extends root (root.withChild name) _
          rw [← enter_childOrNew (distinct [])]
          exact Extends.enter (Extends.refl _)
  | cons name rest induction =>
      rcases Option.isSome_iff_exists.mp there with ⟨inner, reached⟩
      rcases Option.bind_eq_some_iff.mp reached with ⟨child, found, further⟩
      have below := induction (isDistinct_child distinct found)
        (Option.isSome_iff_exists.mpr ⟨inner, further⟩)
      have same : root.childOrNew name = child := by rw [childOrNew, found, Option.getD_some]
      have present : name ∈ root.childNamesAt [] :=
        child?_isSome_iff.mp (Option.isSome_iff_exists.mpr ⟨child, found⟩)
      have step : root.receive ⟨name :: rest, item⟩ =
          root.enter name (child.receive ⟨rest, item⟩) := by
        rw [enter_of_child? found, receive, updateAt, found]
        rfl
      rw [step]
      rw [← same] at below ⊢
      exact (Extends.enter below).forget present

/-- A run brings all items, each to its scope. -/
theorem extends_receiveAll {root : Scope} {arrivals : List Arrival} (distinct : root.IsDistinct)
    (admitted : root.Admits arrivals) : Extends root (root.receiveAll arrivals) arrivals := by
  induction arrivals generalizing root with
  | nil => exact Extends.refl root
  | cons arrival later induction =>
      rcases admitted with ⟨there, admitted⟩
      have first := extends_receive distinct there
      exact first.trans (induction (first.isDistinct distinct) admitted)

theorem updateAt_of_same {change : Scope → Scope} {root inner : Scope} {chain : List String}
    (distinct : root.IsDistinct) (reached : root.at? chain = some inner)
    (same : change inner = inner) : root.updateAt change chain = root := by
  induction chain generalizing root with
  | nil =>
      cases reached
      exact same
  | cons name rest induction =>
      rcases Option.bind_eq_some_iff.mp reached with ⟨child, found, further⟩
      rw [updateAt, found]
      simp only
      rw [induction (isDistinct_child distinct found) further, setChild_self (distinct []) found]

/-! ## Creation -/

/-- The chains of names of the children that were entered, in order. -/
def entered (arrivals : List Arrival) : List (List String) :=
  arrivals.filterMap fun arrival => arrival.item.child?.map fun name => arrival.chain ++ [name]

theorem mem_entered_iff {arrivals : List Arrival} {chain : List String} {name : String} :
    chain ++ [name] ∈ entered arrivals ↔
      name ∈ (itemsAt chain arrivals).filterMap Item.child? := by
  simp only [entered, itemsAt, List.mem_filterMap, List.mem_map, List.mem_filter,
    Option.map_eq_some_iff, decide_eq_true_eq]
  constructor
  · rintro ⟨arrival, listed, other, named, equal⟩
    rcases List.append_inj' equal rfl with ⟨here, last⟩
    have same : other = name := (List.cons.inj last).1
    exact ⟨arrival.item, ⟨arrival, ⟨listed, here⟩, rfl⟩, by rw [named, same]⟩
  · rintro ⟨item, ⟨arrival, ⟨listed, here⟩, rfl⟩, named⟩
    exact ⟨arrival, listed, name, named, by rw [here]⟩

theorem filterMap_itemsAt_single (chain : List String) (arrival : Arrival) :
    (itemsAt chain [arrival]).filterMap Item.child? = [] ∨
      ∃ name, arrival = ⟨chain, .child name⟩ := by
  rcases arrival with ⟨place, item⟩
  rw [itemsAt_cons]
  split
  · rename_i here
    cases item with
    | template value => exact .inl rfl
    | child name => exact .inr ⟨name, by rw [← here]⟩
  · exact .inl rfl

/-- The children of a scope are in the order of their first entries. -/
theorem children_ordered (arrivals : List Arrival) (chain : List String) :
    (insertNames [] ((itemsAt chain arrivals).filterMap Item.child?)).Pairwise fun first second =>
      CreatedBefore (entered arrivals) (chain ++ [first]) (chain ++ [second]) := by
  induction arrivals using List.reverseRecOn with
  | nil => exact List.Pairwise.nil
  | append_singleton front last induction =>
      have grown : entered (front ++ [last]) = entered front ++ entered [last] := by
        simp [entered]
      have mem_front (name : String) :
          name ∈ insertNames [] ((itemsAt chain front).filterMap Item.child?) ↔
            chain ++ [name] ∈ entered front := by
        rw [insertNames_nil, List.mem_eraseDups, mem_entered_iff]
      have old := induction.imp fun earlier => earlier.append (entered [last])
      rw [itemsAt_append, List.filterMap_append, insertNames_append, grown]
      rcases filterMap_itemsAt_single chain last with none | ⟨name, rfl⟩
      · rw [none]
        exact old
      rw [itemsAt_cons, if_pos rfl]
      show (insertName _ name).Pairwise _
      rw [insertName]
      split
      · exact old
      · rename_i absent
        refine List.pairwise_append.mpr ⟨old, List.pairwise_singleton _ _, ?_⟩
        intro first inFirst second isNew
        rw [List.mem_singleton.mp isNew]
        rw [mem_front] at inFirst absent
        exact ⟨entered front, List.prefix_append _ _, inFirst, absent⟩

/-! ## The account of a run -/

/-- A tree of scopes that holds what came to it and nothing else. Its walk has the outermost scope
and every scope that was ever created, each once and in pre-order, with the chain of names that
leads to it. -/
structure AccountsFor (root : Scope) (arrivals : List Arrival) : Prop where
  nodup : (root.walk.map Prod.fst).Nodup
  mem_iff : ∀ chain, chain ∈ root.walk.map Prod.fst ↔ chain = [] ∨ chain ∈ entered arrivals
  ordered : (root.walk.map Prod.fst).Pairwise (Precedes (entered arrivals))
  reached : ∀ chain scope, (chain, scope) ∈ root.walk →
    root.at? chain = some scope ∧ scope.name = chain.getLast?
  again : ∀ chain name, chain ++ [name] ∈ entered arrivals →
    root.receive ⟨chain, .child name⟩ = root
  types : ∀ chain scope, (chain, scope) ∈ root.walk →
    scope.types = (itemsAt chain arrivals).filterMap Item.template?
  typeCount : root.typeCount = arrivals.countP (·.isTemplate)
  sum : root.typeCount = (root.walk.map fun (_, scope) => scope.types.length).sum

theorem at?_isSome_iff_entered {root : Scope} {arrivals : List Arrival}
    (grown : Extends {} root arrivals) (chain : List String) :
    (root.at? chain).isSome ↔ chain = [] ∨ chain ∈ entered arrivals := by
  rcases List.eq_nil_or_concat chain with rfl | ⟨above, name, rfl⟩
  · simp [at?]
  · rw [List.concat_eq_append, at?_isSome_iff, grown.childNamesAt, childNamesAt_new,
      insertNames_nil, List.mem_eraseDups, mem_entered_iff]
    simp

/-- Steps that each come to a scope that is there make a tree that accounts for all of them. -/
theorem receiveAll_accountsFor (arrivals : List Arrival) (admitted : Scope.empty.Admits arrivals) :
    (Scope.empty.receiveAll arrivals).AccountsFor arrivals := by
  have distinct : IsDistinct Scope.empty := isDistinct_new none
  have grown : Extends {} (Scope.empty.receiveAll arrivals) arrivals :=
    extends_receiveAll distinct admitted
  generalize Scope.empty.receiveAll arrivals = root at grown
  have reaches (chain : List String) (scope : Scope) (walked : (chain, scope) ∈ root.walk) :
      root.at? chain = some scope :=
    at?_of_mem_walk (fun _ _ => Extends.nodup_of_at? grown) walked
  have ordered : root.IsOrdered (entered arrivals) [] := by
    intro chain inner reached
    rw [Extends.childNames_of_at? grown reached, ← insertNames_nil]
    exact children_ordered arrivals chain
  have precedes : (root.walk.map Prod.fst).Pairwise (Precedes (entered arrivals)) := by
    rw [List.pairwise_map]
    exact walk_ordered root ordered
  constructor
  case nodup => exact precedes.imp Precedes.ne
  case mem_iff =>
    intro chain
    rw [← at?_isSome_iff_entered grown, Option.isSome_iff_exists, List.mem_map]
    constructor
    · rintro ⟨⟨_, scope⟩, walked, rfl⟩
      exact ⟨scope, reaches _ scope walked⟩
    · rintro ⟨scope, reached⟩
      exact ⟨(chain, scope), mem_walk_of_at? reached, rfl⟩
  case ordered => exact precedes
  case reached =>
    intro chain scope walked
    have reached := reaches chain scope walked
    exact ⟨reached, Extends.name_of_at? grown reached⟩
  case again =>
    intro chain name created
    have there := (at?_isSome_iff_entered grown (chain ++ [name])).mpr (.inr created)
    rw [at?_append] at there
    rcases Option.isSome_iff_exists.mp there with ⟨child, found⟩
    rcases Option.bind_eq_some_iff.mp found with ⟨inner, reached, present⟩
    apply updateAt_of_same (grown.isDistinct distinct) reached
    show inner.withChild name = inner
    rw [withChild, present, Option.isSome_some, if_pos rfl]
  case types =>
    intro chain scope walked
    exact Extends.types_of_at? grown (reaches chain scope walked)
  case typeCount =>
    rw [grown.typeCount distinct]
    exact Nat.zero_add _
  case sum => exact typeCount_eq_sum root

/-- Steps that make three scopes in two levels, enter one of them twice and add a class to two. -/
def docsSteps : List Arrival := [
  ⟨[], .child "docs"⟩, ⟨["docs"], .child "api"⟩, ⟨[], .child "blog"⟩, ⟨[], .child "docs"⟩,
  ⟨["docs", "api"], .template ⟨"Index", [], "x"⟩⟩, ⟨[], .template ⟨"About", [], "y"⟩⟩,
  ⟨["docs", "api"], .template ⟨"Search", [], "z"⟩⟩]

theorem receiveAll_accountsFor_docs :
    Scope.empty.Admits docsSteps ∧ (Scope.empty.receiveAll docsSteps).AccountsFor docsSteps ∧
      (Scope.empty.receiveAll docsSteps).walk.map Prod.fst =
        [[], ["docs"], ["docs", "api"], ["blog"]] ∧
      (Scope.empty.receiveAll docsSteps).typeCount = 3 := by
  have admitted : Scope.empty.Admits docsSteps := ⟨rfl, rfl, rfl, rfl, rfl, rfl, rfl, trivial⟩
  have account := receiveAll_accountsFor docsSteps admitted
  exact ⟨admitted, account, by decide +kernel, account.typeCount⟩

end Stencil.Scope
