import Stencil.Proofs.Assembly.Mirror
import Stencil.Proofs.Files.Content

/-!
The entries that a traversal meets, in the order in which it does: those that it takes up and those
that it leaves out on the way. Only the ignore file of the root is passed over without a word.
-/

namespace Stencil.Assembly

mutual

/-- The entries that a traversal of the entries of the directory at `place` meets. It does not go
below what it leaves out. -/
def meetingsIn (plan : Plan) (place : List String) : List (String × Entry) → List Visit
  | [] => []
  | (name, entry) :: later =>
      if isIgnoreFile (place ++ [name]) then meetingsIn plan place later
      else if plan.excludes (place ++ [name]) entry then
        ⟨[], name, entry⟩ :: meetingsIn plan place later
      else
        ⟨[], name, entry⟩ :: (meetingsBelow plan (place ++ [name]) entry).map (Visit.under name) ++
          meetingsIn plan place later

/-- The entries that a traversal of what is below the entry at `place` meets. -/
def meetingsBelow (plan : Plan) (place : List String) : Entry → List Visit
  | .file _ => []
  | .directory entries => meetingsIn plan place entries

end

theorem meetingsBelow_eq (plan : Plan) (place : List String) (entry : Entry) :
    meetingsBelow plan place entry = meetingsIn plan place entry.entries := by
  cases entry with
  | file bytes => rw [meetingsBelow, Entry.entries, meetingsIn]
  | directory entries => rw [meetingsBelow, Entry.entries]

/-- A traversal of `root` meets the entry at `place`: it goes to the directory that holds it. -/
def Plan.Meets (plan : Plan) (root : Entry) (place : List String) (entry : Entry) : Prop :=
  place ≠ [] ∧ root.descend? place = some entry ∧ isIgnoreFile place = false ∧
    plan.IsOpen [] root place.dropLast

/-- What is visited is met and not left out. -/
theorem visits_iff {plan : Plan} {root entry : Entry} {place : List String} :
    plan.Visits root place entry ↔
      plan.Meets root place entry ∧ plan.excludes place entry = false := by
  have admitted : plan.admits place entry = true ↔
      isIgnoreFile place = false ∧ plan.excludes place entry = false := by
    simp [Plan.admits]
  constructor
  · intro visited
    rcases visited with ⟨nonempty, reached, isOpen⟩
    have last := admitted.mp (isOpen place entry nonempty (List.prefix_refl place) reached)
    refine ⟨⟨nonempty, reached, last.1, ?_⟩, last.2⟩
    intro above other notRoot before
    exact isOpen above other notRoot (before.trans (List.dropLast_prefix place))
  · intro met
    rcases met with ⟨⟨nonempty, reached, notIgnored, isOpen⟩, kept⟩
    refine ⟨nonempty, reached, ?_⟩
    intro above other notRoot before found
    by_cases same : above = place
    · rw [same, reached] at found
      cases found
      rw [same]
      exact admitted.mpr ⟨notIgnored, kept⟩
    · exact isOpen above other notRoot (FileTree.prefix_dropLast before same) found

/-! ## Which entries are met -/

/-- A visit is the entry with its name, or one below that entry if it is taken up. -/
def IsMeeting (plan : Plan) (place : List String) (name : String) (entry : Entry) (visit : Visit) :
    Prop :=
  isIgnoreFile (place ++ [name]) = false ∧
    (visit = ⟨[], name, entry⟩ ∨ plan.admits (place ++ [name]) entry ∧
      ∃ inner ∈ meetingsBelow plan (place ++ [name]) entry, inner.under name = visit)

theorem mem_meetingsIn_cons {plan : Plan} {place : List String} {name : String} {entry : Entry}
    {later : List (String × Entry)} {visit : Visit} :
    visit ∈ meetingsIn plan place ((name, entry) :: later) ↔
      IsMeeting plan place name entry visit ∨ visit ∈ meetingsIn plan place later := by
  rw [meetingsIn, IsMeeting, Plan.admits]
  cases isIgnoreFile (place ++ [name]) <;> cases plan.excludes (place ++ [name]) entry <;>
    simp [or_assoc]

theorem mem_meetingsIn {plan : Plan} {place : List String} {entries : List (String × Entry)}
    {visit : Visit} :
    visit ∈ meetingsIn plan place entries ↔
      ∃ name entry, (name, entry) ∈ entries ∧ IsMeeting plan place name entry visit := by
  induction entries with
  | nil => simp [meetingsIn]
  | cons head tail induction =>
      rcases head with ⟨name, entry⟩
      rw [mem_meetingsIn_cons, induction]
      constructor
      · intro met
        rcases met with here | ⟨other, inner, member, later⟩
        · exact ⟨name, entry, List.mem_cons_self, here⟩
        · exact ⟨other, inner, List.mem_cons_of_mem _ member, later⟩
      · intro met
        rcases met with ⟨other, inner, member, meeting⟩
        rcases List.mem_cons.mp member with same | later
        · cases same
          exact .inl meeting
        · exact .inr ⟨other, inner, later, meeting⟩

theorem mem_meetingsBelow_step {plan : Plan} {start : List String} {root : Entry}
    (tree : root.IsTree) {visit : Visit} :
    visit ∈ meetingsBelow plan start root.sorted ↔
      ∃ name child, root.child? name = some child ∧
        IsMeeting plan start name child.sorted visit := by
  rw [meetingsBelow_eq, mem_meetingsIn]
  constructor
  · intro met
    rcases met with ⟨name, entry, member, meeting⟩
    rcases Entry.mem_sorted.mp member with ⟨child, original, rfl⟩
    exact ⟨name, child, (Entry.child?_eq_some_iff tree).mpr original, meeting⟩
  · intro met
    rcases met with ⟨name, child, found, meeting⟩
    have listed := (Entry.child?_eq_some_iff tree).mp found
    exact ⟨name, child.sorted, Entry.mem_sorted.mpr ⟨child, listed, rfl⟩, meeting⟩

/-- A traversal of a sorted tree meets the entries of the directories that are open to it. -/
theorem mem_meetingsBelow {plan : Plan} {start : List String} {root : Entry} (tree : root.IsTree)
    {visit : Visit} :
    visit ∈ meetingsBelow plan start root.sorted ↔
      (∃ entry, root.descend? visit.place = some entry ∧ visit.entry = entry.sorted) ∧
        isIgnoreFile (start ++ visit.place) = false ∧ plan.IsOpen start root visit.parents := by
  rcases visit with ⟨parents, name, met⟩
  induction parents generalizing root start with
  | nil =>
      rw [mem_meetingsBelow_step tree]
      constructor
      · intro step
        rcases step with ⟨other, child, found, notIgnored, here | ⟨_, inner, _, below⟩⟩
        · cases here
          exact ⟨⟨child, Entry.descend?_cons.mpr ⟨child, found, rfl⟩, rfl⟩, notIgnored,
            Plan.isOpen_nil _ _ _⟩
        · cases below
      · intro step
        rcases step with ⟨⟨entry, reached, rfl⟩, notIgnored, _⟩
        rcases Entry.descend?_cons.mp reached with ⟨child, found, same⟩
        cases same
        exact ⟨name, entry, found, notIgnored, .inl rfl⟩
  | cons first rest induction =>
      rw [mem_meetingsBelow_step tree]
      have deeper : start ++ [first] ++ Visit.place ⟨rest, name, met⟩ =
          start ++ Visit.place ⟨first :: rest, name, met⟩ := by
        simp [Visit.place]
      constructor
      · intro step
        rcases step with ⟨other, child, found, _, here | ⟨admitted, inner, below, same⟩⟩
        · cases here
        · rcases inner with ⟨parents, last, entered⟩
          cases same
          rw [Plan.admits_sorted] at admitted
          rcases (induction (tree.child found)).mp below with
            ⟨⟨entry, reached, same⟩, notIgnored, isOpen⟩
          rw [deeper] at notIgnored
          exact ⟨⟨entry, Entry.descend?_cons.mpr ⟨child, found, reached⟩, same⟩, notIgnored,
            (Plan.isOpen_cons found _).mpr ⟨admitted, isOpen⟩⟩
      · intro step
        rcases step with ⟨⟨entry, reached, same⟩, notIgnored, isOpen⟩
        rcases Entry.descend?_cons.mp reached with ⟨child, found, further⟩
        rcases (Plan.isOpen_cons found _).mp isOpen with ⟨admitted, openBelow⟩
        have notIgnoredAbove : isIgnoreFile (start ++ [first]) = false := by
          rw [Plan.admits, Bool.and_eq_true, Bool.not_eq_true'] at admitted
          exact admitted.1
        rw [← deeper] at notIgnored
        refine ⟨first, child, found, notIgnoredAbove, .inr ⟨?_, ⟨rest, name, met⟩, ?_, rfl⟩⟩
        · rwa [Plan.admits_sorted]
        · exact (induction (tree.child found)).mpr
            ⟨⟨entry, further, same⟩, notIgnored, openBelow⟩

/-! ## Order -/

/-- The plan that leaves nothing out. -/
def Plan.unrestricted (plan : Plan) : Plan := { plan with patterns := none }

theorem Plan.admits_unrestricted (plan : Plan) (place : List String) (entry : Entry) :
    plan.unrestricted.admits place entry = !isIgnoreFile place := by
  simp [admits, excludes, unrestricted]

mutual

/-- What is met is visited too where nothing is left out. -/
theorem meetingsIn_sublist (plan : Plan) (place : List String) :
    (entries : List (String × Entry)) →
      (meetingsIn plan place entries).Sublist (visitsIn plan.unrestricted place entries)
  | [] => by rw [meetingsIn, visitsIn]
  | (name, entry) :: later => by
      have below := (meetingsBelow_sublist plan (place ++ [name]) entry).map (Visit.under name)
      have after := meetingsIn_sublist plan place later
      rw [meetingsIn, visitsIn, Plan.admits_unrestricted]
      cases isIgnoreFile (place ++ [name]) with
      | true => exact after
      | false =>
          cases plan.excludes (place ++ [name]) entry with
          | true => exact (after.trans (List.sublist_append_right _ _)).cons_cons _
          | false => exact (below.append after).cons_cons _

theorem meetingsBelow_sublist (plan : Plan) (place : List String) :
    (entry : Entry) →
      (meetingsBelow plan place entry).Sublist (visitsBelow plan.unrestricted place entry)
  | .file _ => by rw [meetingsBelow, visitsBelow]
  | .directory entries => by
      rw [meetingsBelow, visitsBelow]
      exact meetingsIn_sublist plan place entries

end

/-! ## A traversal of a whole tree -/

/-- The places of what a traversal meets. -/
def Plan.metPlaces (plan : Plan) (root : Entry) : List (List String) :=
  (meetingsBelow plan [] root.sorted).map Visit.place

theorem metPlaces_increasing {root : Entry} (tree : root.IsTree) (plan : Plan) :
    (plan.metPlaces root).Pairwise (· < ·) :=
  (visitsBelow_increasing tree plan.unrestricted []).sublist
    ((meetingsBelow_sublist plan [] root.sorted).map Visit.place)

theorem meets_of_mem {plan : Plan} {root : Entry} (tree : root.IsTree) {visit : Visit}
    (met : visit ∈ meetingsBelow plan [] root.sorted) :
    ∃ entry, plan.Meets root visit.place entry ∧ visit.entry = entry.sorted := by
  rcases (mem_meetingsBelow tree).mp met with ⟨⟨entry, reached, same⟩, notIgnored, isOpen⟩
  refine ⟨entry, ⟨by simp [Visit.place], reached, notIgnored, ?_⟩, same⟩
  rwa [Visit.place, List.dropLast_concat]

theorem mem_metPlaces {plan : Plan} {root : Entry} (tree : root.IsTree) {place : List String} :
    place ∈ plan.metPlaces root ↔ ∃ entry, plan.Meets root place entry := by
  rw [Plan.metPlaces, List.mem_map]
  constructor
  · intro listed
    rcases listed with ⟨visit, met, rfl⟩
    rcases meets_of_mem tree met with ⟨entry, meets, _⟩
    exact ⟨entry, meets⟩
  · intro meets
    rcases meets with ⟨entry, nonempty, reached, notIgnored, isOpen⟩
    have split := List.dropLast_append_getLast nonempty
    refine ⟨⟨place.dropLast, place.getLast nonempty, entry.sorted⟩, ?_, split⟩
    apply (mem_meetingsBelow tree).mpr
    rw [Visit.place, split]
    exact ⟨⟨entry, reached, rfl⟩, notIgnored, isOpen⟩

end Stencil.Assembly
