import Stencil.Scope

/-!
Trees of scopes by what they hold at each chain of names: their classes, and the names of their
children. Adding a class and entering a child change nothing but what they are about.
-/

namespace Stencil

/-! ## Values by name -/

/-- Where names are distinct, each leads to its value. -/
theorem find?_of_mem {α : Type} {pairs : List (String × α)} {name : String} {value : α}
    (distinct : (pairs.map (·.1)).Nodup) (member : (name, value) ∈ pairs) :
    (pairs.find? (·.1 == name)).map (·.2) = some value := by
  induction pairs with
  | nil => cases member
  | cons head tail induction =>
      rw [List.map_cons, List.nodup_cons] at distinct
      rcases List.mem_cons.mp member with equal | later
      · simp [← equal]
      · have different : head.1 ≠ name := fun same =>
          distinct.1 (same ▸ List.mem_map_of_mem later)
        simpa [List.find?_cons, different] using induction distinct.2 later

/-! ## Names in order of their first appearance -/

/-- Appends a name unless it is there. -/
def insertName (names : List String) (name : String) : List String :=
  if name ∈ names then names else names ++ [name]

/-- Appends the names that are not there yet, each of them once. -/
def insertNames (names new : List String) : List String := new.foldl insertName names

theorem insertNames_append (names first second : List String) :
    insertNames names (first ++ second) = insertNames (insertNames names first) second := by
  simp [insertNames]

theorem insertNames_cons (names : List String) (head : String) (tail : List String) :
    insertNames names (head :: tail) = insertNames (insertName names head) tail := rfl

theorem insertNames_nodup {names : List String} (distinct : names.Nodup) (new : List String) :
    (insertNames names new).Nodup := by
  induction new generalizing names with
  | nil => exact distinct
  | cons head tail induction =>
      rw [insertNames_cons, insertName]
      apply induction
      split
      · exact distinct
      · rename_i absent
        apply List.nodup_append.mpr
        refine ⟨distinct, by simp, ?_⟩
        intro old member other same equal
        simp only [List.mem_singleton] at same
        exact absent (same ▸ equal ▸ member)

theorem insertNames_eq (names new : List String) :
    insertNames names new = names ++ (new.filter (· ∉ names)).eraseDups := by
  induction new generalizing names with
  | nil => simp [insertNames]
  | cons head tail induction =>
      rw [insertNames_cons, induction, insertName]
      by_cases member : head ∈ names
      · simp [member]
      · simp only [member, if_false, not_false_eq_true, decide_true, List.filter_cons, if_true,
          List.eraseDups_cons, List.filter_filter, List.append_assoc, List.singleton_append]
        congr 4
        funext name
        by_cases equal : name = head <;> simp [equal]

theorem insertNames_nil (new : List String) : insertNames [] new = new.eraseDups := by
  simp [insertNames_eq, List.filter_eq_self.mpr]

namespace Scope

/-! ## Trees -/

/-- A tree has the property if it passes from the children of a scope to the scope. -/
theorem induction {motive : Scope → Prop}
    (scope : ∀ name types children, (∀ childName child, (childName, child) ∈ children →
      motive child) → motive ⟨name, types, children⟩) (root : Scope) : motive root := by
  rcases root with ⟨name, types, children⟩
  apply scope
  intro childName child member
  exact induction scope child
termination_by sizeOf root
decreasing_by
  have smaller := List.sizeOf_lt_of_mem member
  simp only [Prod.mk.sizeOf_spec] at smaller
  simp only [Scope.mk.sizeOf_spec]
  omega

theorem mem_walk {scope inner : Scope} {path : List String} :
    (path, inner) ∈ scope.walk ↔ (path = [] ∧ inner = scope) ∨
      ∃ name child rest, (name, child) ∈ scope.children ∧ (rest, inner) ∈ child.walk ∧
        path = name :: rest := by
  have below (children : List (String × Scope)) : (path, inner) ∈ walkChildren children ↔
      ∃ name child rest, (name, child) ∈ children ∧ (rest, inner) ∈ child.walk ∧
        path = name :: rest := by
    induction children with
    | nil => simp [walkChildren]
    | cons head tail induction =>
        rcases head with ⟨name, child⟩
        rw [walkChildren, List.mem_append, List.mem_map, induction]
        constructor
        · intro holds
          rcases holds with ⟨⟨rest, found⟩, member, equal⟩ | ⟨other, found, rest, listed, later⟩
          · cases equal
            exact ⟨name, child, rest, List.mem_cons_self, member, rfl⟩
          · exact ⟨other, found, rest, List.mem_cons_of_mem _ listed, later⟩
        · intro holds
          rcases holds with ⟨other, found, rest, listed, member, equal⟩
          rcases List.mem_cons.mp listed with same | listed
          · cases same
            exact .inl ⟨(rest, inner), member, by rw [equal]⟩
          · exact .inr ⟨other, found, rest, listed, member, equal⟩
  rcases scope with ⟨name, types, children⟩
  rw [walk, List.mem_cons, below, Prod.mk.injEq]

/-! ## Children -/

def childNames (scope : Scope) : List String := scope.children.map (·.1)

theorem child?_isSome_iff {scope : Scope} {name : String} :
    (scope.child? name).isSome ↔ name ∈ scope.childNames := by
  simp [child?, childNames, List.find?_isSome]

theorem mem_of_child? {scope child : Scope} {name : String}
    (found : scope.child? name = some child) : (name, child) ∈ scope.children := by
  rcases Option.map_eq_some_iff.mp found with ⟨pair, first, rfl⟩
  have named : pair.1 = name := by simpa using List.find?_some first
  exact named ▸ List.mem_of_find?_eq_some first

theorem child?_of_mem {scope child : Scope} {name : String} (distinct : scope.childNames.Nodup)
    (member : (name, child) ∈ scope.children) : scope.child? name = some child :=
  find?_of_mem distinct member

/-- The child of this name; a new one if there is none. -/
def childOrNew (scope : Scope) (name : String) : Scope :=
  (scope.child? name).getD { name := some name }

/-- The scope with `child` as the child of this name, in the place of the one that is there. -/
def enter (scope : Scope) (name : String) (child : Scope) : Scope :=
  (scope.withChild name).setChild name child

theorem child?_withChild (scope : Scope) (name other : String) :
    (scope.withChild name).child? other =
      if other = name then some (scope.childOrNew name) else scope.child? other := by
  rw [withChild, childOrNew]
  split
  · rename_i present
    rcases Option.isSome_iff_exists.mp present with ⟨child, found⟩
    split
    · rename_i equal
      simp [equal, found]
    · rfl
  · rename_i absent
    have missing : scope.child? name = none := by simpa using absent
    by_cases equal : other = name
    · subst other
      simp only [child?, Option.map_eq_none_iff] at missing
      simp [child?, List.find?_append, missing]
    · have different : ¬ name = other := fun same => equal same.symm
      simp [child?, List.find?_append, equal, different]

theorem child?_setChild (scope : Scope) (name : String) (child : Scope) (other : String) :
    (scope.setChild name child).child? other =
      if other = name then (scope.child? name).map fun _ => child else scope.child? other := by
  have same : ((fun pair : String × Scope => pair.1 == other) ∘
      fun pair : String × Scope => if pair.1 == name then (pair.1, child) else (pair.1, pair.2)) =
        fun pair => pair.1 == other := by
    funext pair
    simp only [Function.comp]
    split <;> rfl
  simp only [setChild, child?, List.find?_map, same]
  split
  · rename_i equal
    subst other
    cases found : scope.children.find? (fun pair => pair.1 == name) with
    | none => rfl
    | some pair =>
        have named : pair.1 = name := by simpa using List.find?_some found
        simp [named]
  · rename_i different
    cases found : scope.children.find? (fun pair => pair.1 == other) with
    | none => rfl
    | some pair =>
        have named : pair.1 = other := by simpa using List.find?_some found
        simp [named, different]

theorem child?_enter (scope : Scope) (name : String) (child : Scope) (other : String) :
    (scope.enter name child).child? other =
      if other = name then some child else scope.child? other := by
  rw [enter, child?_setChild, child?_withChild, child?_withChild]
  split <;> simp

theorem types_enter (scope : Scope) (name : String) (child : Scope) :
    (scope.enter name child).types = scope.types := by
  rw [enter, setChild, withChild]
  split <;> rfl

theorem name_enter (scope : Scope) (name : String) (child : Scope) :
    (scope.enter name child).name = scope.name := by
  rw [enter, setChild, withChild]
  split <;> rfl

theorem childNames_withChild (scope : Scope) (name : String) :
    (scope.withChild name).childNames = insertName scope.childNames name := by
  rw [withChild, insertName]
  split
  · rename_i present
    rw [if_pos (child?_isSome_iff.mp present)]
  · rename_i absent
    rw [if_neg (fun member => absent (child?_isSome_iff.mpr member))]
    simp [childNames]

theorem childNames_setChild (scope : Scope) (name : String) (child : Scope) :
    (scope.setChild name child).childNames = scope.childNames := by
  simp only [setChild, childNames, List.map_map]
  apply List.map_congr_left
  intro pair _
  simp only [Function.comp]
  split <;> rfl

theorem childNames_enter (scope : Scope) (name : String) (child : Scope) :
    (scope.enter name child).childNames = insertName scope.childNames name := by
  rw [enter, childNames_setChild, childNames_withChild]

/-! ## Chains of names -/

/-- The classes at a chain of names; none where it leads to no scope. -/
def typesAt (scope : Scope) (chain : List String) : List TemplateClass :=
  ((scope.at? chain).map (·.types)).getD []

/-- The names of the children at a chain of names; none where it leads to no scope. -/
def childNamesAt (scope : Scope) (chain : List String) : List String :=
  ((scope.at? chain).map childNames).getD []

theorem at?_append (scope : Scope) (chain : List String) (name : String) :
    scope.at? (chain ++ [name]) = (scope.at? chain).bind (·.child? name) := by
  induction chain generalizing scope with
  | nil => simp [at?]
  | cons head tail induction =>
      simp only [List.cons_append, at?, Option.bind_assoc]
      congr 1
      funext child
      exact induction child

theorem at?_isSome_iff {scope : Scope} {chain : List String} {name : String} :
    (scope.at? (chain ++ [name])).isSome ↔ name ∈ scope.childNamesAt chain := by
  rw [at?_append, childNamesAt]
  cases scope.at? chain with
  | none => simp
  | some inner => exact child?_isSome_iff

theorem mem_walk_of_at? {scope inner : Scope} {chain : List String}
    (reached : scope.at? chain = some inner) : (chain, inner) ∈ scope.walk := by
  induction chain generalizing scope with
  | nil =>
      cases reached
      exact mem_walk.mpr (.inl ⟨rfl, rfl⟩)
  | cons name later induction =>
      rcases Option.bind_eq_some_iff.mp reached with ⟨child, found, further⟩
      exact mem_walk.mpr
        (.inr ⟨name, child, later, mem_of_child? found, induction further, rfl⟩)

theorem at?_of_mem_walk {scope inner : Scope} {chain : List String}
    (distinct : ∀ chain inner, scope.at? chain = some inner → inner.childNames.Nodup)
    (member : (chain, inner) ∈ scope.walk) : scope.at? chain = some inner := by
  induction chain generalizing scope with
  | nil =>
      rcases mem_walk.mp member with ⟨_, same⟩ | ⟨_, _, _, _, _, absurd⟩
      · rw [same, at?]
      · cases absurd
  | cons name later induction =>
      rcases mem_walk.mp member with ⟨absurd, _⟩ | ⟨name, child, rest, listed, below, equal⟩
      · cases absurd
      · cases equal
        have found := child?_of_mem (distinct [] scope rfl) listed
        rw [at?, found]
        apply induction _ below
        intro chain other reached
        apply distinct (name :: chain)
        rw [at?, found]
        exact reached

theorem at?_enter (scope : Scope) (name : String) (child : Scope) (first : String)
    (rest : List String) :
    (scope.enter name child).at? (first :: rest) =
      if first = name then child.at? rest else scope.at? (first :: rest) := by
  simp only [at?, child?_enter]
  split <;> rfl

theorem typesAt_enter (scope : Scope) (name : String) (child : Scope) (first : String)
    (rest : List String) :
    (scope.enter name child).typesAt (first :: rest) =
      if first = name then child.typesAt rest else scope.typesAt (first :: rest) := by
  simp only [typesAt, at?_enter]
  split <;> rfl

theorem childNamesAt_enter (scope : Scope) (name : String) (child : Scope) (first : String)
    (rest : List String) :
    (scope.enter name child).childNamesAt (first :: rest) =
      if first = name then child.childNamesAt rest else scope.childNamesAt (first :: rest) := by
  simp only [childNamesAt, at?_enter]
  split <;> rfl

theorem typesAt_new (name : Option String) (chain : List String) :
    typesAt { name } chain = [] := by
  cases chain <;> rfl

theorem childNamesAt_new (name : Option String) (chain : List String) :
    childNamesAt { name } chain = [] := by
  cases chain <;> rfl

theorem typesAt_cons (scope : Scope) (name : String) (rest : List String) :
    scope.typesAt (name :: rest) = (scope.childOrNew name).typesAt rest := by
  rw [childOrNew]
  cases found : scope.child? name with
  | none =>
      rw [Option.getD_none, typesAt_new]
      simp [typesAt, at?, found]
  | some child => simp [typesAt, at?, found]

theorem childNamesAt_cons (scope : Scope) (name : String) (rest : List String) :
    scope.childNamesAt (name :: rest) = (scope.childOrNew name).childNamesAt rest := by
  rw [childOrNew]
  cases found : scope.child? name with
  | none =>
      rw [Option.getD_none, childNamesAt_new]
      simp [childNamesAt, at?, found]
  | some child => simp [childNamesAt, at?, found]

/-! ## The number of classes -/

theorem typeCount_eq (scope : Scope) :
    scope.typeCount = scope.types.length + typeCountChildren scope.children := by
  cases scope
  simp [typeCount]

theorem typeCountChildren_append (first second : List (String × Scope)) :
    typeCountChildren (first ++ second) =
      typeCountChildren first + typeCountChildren second := by
  induction first with
  | nil => simp [typeCountChildren]
  | cons head tail induction => simp [typeCountChildren, induction, Nat.add_assoc]

theorem typeCount_add (scope : Scope) (template : TemplateClass) :
    (scope.add template).typeCount = scope.typeCount + 1 := by
  simp only [typeCount_eq, add, List.length_append, List.length_singleton]
  omega

/-- Where the names of the children are distinct, setting one of them counts only for that one. -/
theorem typeCountChildren_set {children : List (String × Scope)} {name : String} {old : Scope}
    (distinct : (children.map (·.1)).Nodup)
    (found : (children.find? (·.1 == name)).map (·.2) = some old) (child : Scope) :
    typeCountChildren (children.map fun (other, inner) =>
        if other == name then (other, child) else (other, inner)) + old.typeCount =
      typeCountChildren children + child.typeCount := by
  induction children with
  | nil => simp at found
  | cons head tail induction =>
      rw [List.map_cons, List.nodup_cons] at distinct
      by_cases equal : head.1 = name
      · have untouched : (tail.map fun pair : String × Scope =>
            if pair.1 == name then (pair.1, child) else (pair.1, pair.2)) = tail := by
          rw [List.map_congr_left, List.map_id]
          intro pair member
          have different : pair.1 ≠ name := fun same =>
            distinct.1 (List.mem_map.mpr ⟨pair, member, same.trans equal.symm⟩)
          simp [different]
        have same : head.2 = old := by simpa [equal] using found
        simp only [List.map_cons, untouched, equal, BEq.rfl, if_true, typeCountChildren, ← same]
        omega
      · have later : (tail.find? (·.1 == name)).map (·.2) = some old := by
          simpa [List.find?_cons, equal] using found
        have counted := induction distinct.2 later
        simp only [List.map_cons, beq_iff_eq, equal, if_false, typeCountChildren] at counted ⊢
        omega

theorem typeCount_withChild (scope : Scope) (name : String) :
    (scope.withChild name).typeCount = scope.typeCount := by
  rw [withChild]
  split
  · rfl
  · simp [typeCount_eq, typeCountChildren_append, typeCountChildren]

theorem typeCount_enter {scope : Scope} (distinct : scope.childNames.Nodup) (name : String)
    (child : Scope) :
    (scope.enter name child).typeCount + (scope.childOrNew name).typeCount =
      scope.typeCount + child.typeCount := by
  have widened : (scope.withChild name).childNames.Nodup := by
    rw [childNames_withChild]
    exact insertNames_nodup distinct [name]
  have found : (scope.withChild name).child? name = some (scope.childOrNew name) := by
    rw [child?_withChild, if_pos rfl]
  have types : (scope.enter name child).types.length = (scope.withChild name).types.length := rfl
  have counted : typeCountChildren (scope.enter name child).children +
      (scope.childOrNew name).typeCount =
        typeCountChildren (scope.withChild name).children + child.typeCount :=
    typeCountChildren_set widened found child
  rw [← typeCount_withChild scope name, typeCount_eq (scope.enter name child),
    typeCount_eq (scope.withChild name)]
  omega

/-! ## Arrivals -/

/-- What comes to a scope: a class, or a child that is entered, by its name. -/
inductive Item where
  | template (value : TemplateClass)
  | child (name : String)

namespace Item

def template? : Item → Option TemplateClass
  | .template value => some value
  | .child _ => none

def child? : Item → Option String
  | .template _ => none
  | .child name => some name

@[simp] theorem template?_template (value : TemplateClass) :
    (template value).template? = some value := rfl

@[simp] theorem template?_child (name : String) : (child name).template? = none := rfl

@[simp] theorem child?_template (value : TemplateClass) : (template value).child? = none := rfl

@[simp] theorem child?_child (name : String) : (child name).child? = some name := rfl

end Item

/-- An item that comes to the scope at a chain of names. -/
structure Arrival where
  chain : List String
  item : Item

namespace Arrival

/-- The same arrival seen from the scope that has this one as the child of that name. -/
def under (name : String) (arrival : Arrival) : Arrival :=
  { arrival with chain := name :: arrival.chain }

def isTemplate (arrival : Arrival) : Bool := arrival.item.template?.isSome

end Arrival

/-- The items that come to the scope at `chain`. -/
def itemsAt (chain : List String) (arrivals : List Arrival) : List Item :=
  (arrivals.filter (·.chain = chain)).map (·.item)

theorem itemsAt_append (chain : List String) (first second : List Arrival) :
    itemsAt chain (first ++ second) = itemsAt chain first ++ itemsAt chain second := by
  simp [itemsAt]

theorem itemsAt_cons (chain : List String) (arrival : Arrival) (later : List Arrival) :
    itemsAt chain (arrival :: later) =
      if arrival.chain = chain then arrival.item :: itemsAt chain later
      else itemsAt chain later := by
  by_cases equal : arrival.chain = chain <;> simp [itemsAt, equal]

theorem itemsAt_under_nil (name : String) (arrivals : List Arrival) :
    itemsAt [] (arrivals.map (Arrival.under name)) = [] := by
  simp [itemsAt, Arrival.under]

theorem itemsAt_under (name first : String) (rest : List String) (arrivals : List Arrival) :
    itemsAt (first :: rest) (arrivals.map (Arrival.under name)) =
      if name = first then itemsAt rest arrivals else [] := by
  simp only [itemsAt, List.filter_map, List.map_map]
  split
  · rename_i equal
    subst first
    simp [Arrival.under, Function.comp_def]
  · rename_i different
    simp [Arrival.under, Function.comp_def, different]

/-- Every scope below this one has the name that leads to it. -/
def IsNamed (scope : Scope) : Prop :=
  ∀ chain name inner, scope.at? (chain ++ [name]) = some inner → inner.name = some name

/-- The names of the children are distinct at every chain of names. -/
def IsDistinct (scope : Scope) : Prop := ∀ chain, (scope.childNamesAt chain).Nodup

theorem isDistinct_new (name : Option String) : IsDistinct { name } := by
  intro chain
  rw [childNamesAt_new]
  exact List.nodup_nil

theorem isNamed_new (name : Option String) : IsNamed { name } := by
  intro chain last inner found
  cases chain <;> cases found

theorem isNamed_childOrNew {scope : Scope} (named : scope.IsNamed) (name : String) :
    (scope.childOrNew name).IsNamed := by
  intro chain last inner found
  rw [childOrNew] at found
  cases present : scope.child? name with
  | none =>
      rw [present] at found
      cases chain <;> cases found
  | some child =>
      rw [present] at found
      apply named (name :: chain)
      rw [List.cons_append, at?, present]
      exact found

theorem name_childOrNew {scope : Scope} (named : scope.IsNamed) (name : String) :
    (scope.childOrNew name).name = some name := by
  rw [childOrNew]
  cases present : scope.child? name with
  | none => rfl
  | some child =>
      apply named []
      simp [at?, present]

theorem isNamed_enter {scope child : Scope} (named : scope.IsNamed) (below : child.IsNamed)
    {name : String} (own : child.name = some name) : (scope.enter name child).IsNamed := by
  intro chain last inner found
  cases chain with
  | nil =>
      rw [List.nil_append, at?_enter] at found
      split at found
      · rename_i equal
        cases found
        rw [own, equal]
      · exact named [] last inner found
  | cons first rest =>
      rw [List.cons_append, at?_enter] at found
      split at found
      · exact below rest last inner found
      · exact named (first :: rest) last inner found

theorem isDistinct_childOrNew {scope : Scope} (distinct : scope.IsDistinct) (name : String) :
    (scope.childOrNew name).IsDistinct := by
  intro chain
  rw [← childNamesAt_cons]
  exact distinct (name :: chain)

/-- One tree of scopes is another with what came to it, in order. -/
structure Extends (before after : Scope) (arrivals : List Arrival) : Prop where
  name : after.name = before.name
  typesAt : ∀ chain, after.typesAt chain =
    before.typesAt chain ++ (itemsAt chain arrivals).filterMap Item.template?
  childNamesAt : ∀ chain, after.childNamesAt chain =
    insertNames (before.childNamesAt chain) ((itemsAt chain arrivals).filterMap Item.child?)
  named : before.IsNamed → after.IsNamed
  typeCount : before.IsDistinct →
    after.typeCount = before.typeCount + arrivals.countP (·.isTemplate)

namespace Extends

variable {before middle after : Scope} {first second arrivals : List Arrival}

theorem refl (scope : Scope) : Extends scope scope [] where
  name := rfl
  typesAt _ := (List.append_nil _).symm
  childNamesAt _ := rfl
  named := id
  typeCount _ := rfl

theorem isDistinct (extended : Extends before after arrivals) (distinct : before.IsDistinct) :
    after.IsDistinct := by
  intro chain
  rw [extended.childNamesAt chain]
  exact insertNames_nodup (distinct chain) _

theorem trans (extended : Extends before middle first) (further : Extends middle after second) :
    Extends before after (first ++ second) where
  name := further.name.trans extended.name
  typesAt chain := by
    rw [further.typesAt, extended.typesAt, itemsAt_append, List.filterMap_append,
      List.append_assoc]
  childNamesAt chain := by
    rw [further.childNamesAt, extended.childNamesAt, itemsAt_append, List.filterMap_append,
      insertNames_append]
  named := further.named ∘ extended.named
  typeCount distinct := by
    rw [further.typeCount (extended.isDistinct distinct), extended.typeCount distinct,
      List.countP_append, Nat.add_assoc]

theorem add (scope : Scope) (template : TemplateClass) :
    Extends scope (scope.add template) [⟨[], .template template⟩] where
  name := rfl
  typesAt chain := by
    rw [itemsAt_cons]
    cases chain with
    | nil => rfl
    | cons head tail => exact (List.append_nil _).symm
  childNamesAt chain := by
    rw [itemsAt_cons]
    cases chain with
    | nil => rfl
    | cons head tail => rfl
  named named chain name inner found := by
    cases chain with
    | nil => exact named [] name inner found
    | cons head tail => exact named (head :: tail) name inner found
  typeCount _ := by
    rw [typeCount_add]
    rfl

/-- Entering a child brings its name to this scope, and to the child what it is extended with. -/
theorem enter {scope : Scope} {name : String} {child : Scope}
    (extended : Extends (scope.childOrNew name) child arrivals) :
    Extends scope (scope.enter name child)
      (⟨[], .child name⟩ :: arrivals.map (Arrival.under name)) where
  name := name_enter scope name child
  typesAt chain := by
    rw [itemsAt_cons]
    cases chain with
    | nil =>
        rw [if_pos rfl, itemsAt_under_nil]
        exact (types_enter scope name child).trans (List.append_nil _).symm
    | cons first rest =>
        rw [if_neg (List.cons_ne_nil first rest).symm, itemsAt_under, typesAt_enter]
        by_cases equal : first = name
        · subst equal
          rw [if_pos rfl, if_pos rfl, typesAt_cons, extended.typesAt]
        · rw [if_neg equal, if_neg fun same => equal same.symm]
          exact (List.append_nil _).symm
  childNamesAt chain := by
    rw [itemsAt_cons]
    cases chain with
    | nil =>
        rw [if_pos rfl, itemsAt_under_nil]
        exact childNames_enter scope name child
    | cons first rest =>
        rw [if_neg (List.cons_ne_nil first rest).symm, itemsAt_under, childNamesAt_enter]
        by_cases equal : first = name
        · subst equal
          rw [if_pos rfl, if_pos rfl, childNamesAt_cons, extended.childNamesAt]
        · rw [if_neg equal, if_neg fun same => equal same.symm]
          rfl
  named named := by
    apply isNamed_enter named (extended.named (isNamed_childOrNew named name))
    rw [extended.name, name_childOrNew named]
  typeCount distinct := by
    have counted := typeCount_enter (distinct []) name child
    have below := extended.typeCount (isDistinct_childOrNew distinct name)
    have arrived : (arrivals.map (Arrival.under name)).countP (·.isTemplate) =
        arrivals.countP (·.isTemplate) := by
      rw [List.countP_map]
      rfl
    rw [List.countP_cons_of_neg Bool.false_ne_true, arrived]
    omega

/-! ## Trees that have grown from nothing -/

section Grown

variable {root inner : Scope} {chain : List String} (grown : Extends {} root arrivals)
  (reached : root.at? chain = some inner)

include grown reached

/-- The last name of a chain is that of the scope that it leads to. -/
theorem name_of_at? : inner.name = chain.getLast? := by
  rcases List.eq_nil_or_concat chain with rfl | ⟨above, name, rfl⟩
  · cases reached
    exact grown.name
  · rw [List.concat_eq_append] at reached ⊢
    rw [grown.named (isNamed_new none) above name inner reached, List.getLast?_concat]

theorem types_of_at? : inner.types = (itemsAt chain arrivals).filterMap Item.template? := by
  have same : root.typesAt chain = inner.types := by simp [Scope.typesAt, reached]
  rw [← same, grown.typesAt, typesAt_new, List.nil_append]

theorem childNames_of_at? :
    inner.childNames = ((itemsAt chain arrivals).filterMap Item.child?).eraseDups := by
  have same : root.childNamesAt chain = inner.childNames := by simp [Scope.childNamesAt, reached]
  rw [← same, grown.childNamesAt, childNamesAt_new, insertNames_nil]

theorem nodup_of_at? : inner.childNames.Nodup := by
  have same : root.childNamesAt chain = inner.childNames := by simp [Scope.childNamesAt, reached]
  rw [← same]
  exact grown.isDistinct (isDistinct_new none) chain

end Grown

end Extends

end Scope

end Stencil
