import Stencil.Files
import Stencil.Proofs.Assembly.Visit

/-!
What stands at the places of a tree. A change at one place shows there and below, and nowhere else
as long as the directory of the place is there.
-/

namespace Stencil

/-- What an entry is, without what is in a directory. -/
inductive Content where
  | directory
  | file (bytes : Utf8.Bytes)
deriving DecidableEq, Repr

def Content.isDirectory : Content → Bool
  | directory => true
  | file _ => false

namespace Entry

def content : Entry → Content
  | file bytes => .file bytes
  | directory _ => .directory

@[simp] theorem isDirectory_content (entry : Entry) :
    entry.content.isDirectory = entry.isDirectory := by
  cases entry <;> rfl

/-- What stands at a place of a tree. -/
def contentAt? (root : Entry) (place : List String) : Option Content :=
  (root.descend? place).map content

/-- The bytes of the file at a place, if one stands there. -/
def fileAt? (root : Entry) (place : List String) : Option Utf8.Bytes :=
  match root.contentAt? place with
  | some (.file bytes) => some bytes
  | _ => none

section ContentAt

variable {root : Entry} {place other : List String} {bytes : Utf8.Bytes}

theorem contentAt?_nil (root : Entry) : root.contentAt? [] = some root.content := rfl

theorem contentAt?_cons (root : Entry) (name : String) (later : List String) :
    root.contentAt? (name :: later) = (root.child? name).bind (·.contentAt? later) := by
  rw [contentAt?, descend?, Option.map_bind]
  rfl

theorem contentAt?_append (root : Entry) (above later : List String) :
    root.contentAt? (above ++ later) = (root.descend? above).bind (·.contentAt? later) := by
  rw [contentAt?, descend?_append, Option.map_bind]
  rfl

theorem contentAt?_eq_directory_iff : root.contentAt? place = some .directory ↔
    ∃ entries, root.descend? place = some (.directory entries) := by
  rw [contentAt?, Option.map_eq_some_iff]
  constructor
  · rintro ⟨entry, found, isDirectory⟩
    cases entry with
    | file bytes => cases isDirectory
    | directory entries => exact ⟨entries, found⟩
  · rintro ⟨entries, found⟩
    exact ⟨_, found, rfl⟩

theorem contentAt?_eq_file_iff :
    root.contentAt? place = some (.file bytes) ↔ root.descend? place = some (.file bytes) := by
  rw [contentAt?, Option.map_eq_some_iff]
  constructor
  · rintro ⟨entry, found, isFile⟩
    cases entry with
    | file other =>
        cases isFile
        exact found
    | directory entries => cases isFile
  · intro found
    exact ⟨_, found, rfl⟩

theorem contentAt?_eq_none_iff : root.contentAt? place = none ↔ root.descend? place = none := by
  rw [contentAt?, Option.map_eq_none_iff]

/-- Nothing stands below a file. -/
theorem contentAt?_of_file (found : root.contentAt? place = some (.file bytes))
    (below : place <+: other) (proper : other ≠ place) : root.contentAt? other = none := by
  rcases below with ⟨later, rfl⟩
  rw [contentAt?_append, contentAt?_eq_file_iff.mp found]
  cases later with
  | nil => exact absurd (List.append_nil place) proper
  | cons name later => rfl

theorem contentAt?_of_none (missing : root.contentAt? place = none) (below : place <+: other) :
    root.contentAt? other = none := by
  rcases below with ⟨later, rfl⟩
  rw [contentAt?_append, contentAt?_eq_none_iff.mp missing]
  rfl

/-- Whatever stands above something is a directory. -/
theorem contentAt?_of_above {content : Content} (found : root.contentAt? other = some content)
    (above : place <+: other) (proper : other ≠ place) :
    root.contentAt? place = some .directory := by
  cases here : root.contentAt? place with
  | none => rw [contentAt?_of_none here above] at found; cases found
  | some content =>
      cases content with
      | directory => rfl
      | file bytes => rw [contentAt?_of_file here above proper] at found; cases found

theorem fileAt?_eq_of_contentAt? {after : Entry}
    (same : after.contentAt? place = root.contentAt? place) :
    after.fileAt? place = root.fileAt? place := by
  rw [fileAt?, fileAt?, same]

end ContentAt

end Entry

/-! ## Changes at a place -/

namespace FileTree

open Entry

variable {root entry : Entry} {place other : List String}

theorem child?_setEntry (entries : List (String × Entry)) (name : String) (entry : Entry)
    (other : String) :
    (directory (setEntry entries name entry)).child? other =
      if other = name then some entry else (directory entries).child? other := by
  rw [child?, child?, Entry.entries, Entry.entries, setEntry]
  split
  · rename_i present
    have sameKeys {change : String × Entry → String × Entry}
        (keeps : ∀ member, (change member).1 = member.1) :
        (fun member : String × Entry => member.1 == other) ∘ change =
          fun member => member.1 == other := by
      funext member
      rw [Function.comp, keeps]
    rw [List.find?_map, sameKeys]
    swap
    · intro member
      dsimp only
      split <;> rfl
    by_cases equal : other = name
    · rcases Option.isSome_iff_exists.mp present with ⟨found, located⟩
      have named := List.find?_some located
      rw [if_pos equal, equal, located]
      simp [eq_of_beq named]
    · rw [if_neg equal, Option.map_map]
      cases located : entries.find? (·.1 == other) with
      | none => rfl
      | some found =>
          have named := List.find?_some located
          simp [eq_of_beq named, equal]
  · rename_i absent
    rw [List.find?_append]
    by_cases equal : other = name
    · have missing := Option.not_isSome_iff_eq_none.mp absent
      rw [if_pos equal, equal, missing]
      simp
    · rw [if_neg equal]
      have passed : [(name, entry)].find? (·.1 == other) = none := by
        simp [Ne.symm equal]
      rw [passed, Option.or_none]

theorem child?_filter (entries : List (String × Entry)) (name other : String) :
    (directory (entries.filter (·.1 != name))).child? other =
      if other = name then none else (directory entries).child? other := by
  rw [child?, child?, Entry.entries, Entry.entries, List.find?_filter]
  by_cases equal : other = name
  · rw [if_pos equal, Option.map_eq_none_iff, List.find?_eq_none]
    intro member _ both
    simp [equal] at both
  · rw [if_neg equal]
    congr 2
    funext member
    by_cases same : member.1 = other <;> simp [same, equal]

theorem contentAt?_setAt_below (root entry : Entry) (place later : List String) :
    (setAt root place entry).contentAt? (place ++ later) = entry.contentAt? later := by
  induction place generalizing root with
  | nil => rfl
  | cons name place induction =>
      rw [setAt, List.cons_append, contentAt?_cons, child?_setEntry, if_pos rfl]
      exact induction _

theorem contentAt?_setAt_self (root entry : Entry) (place : List String) :
    (setAt root place entry).contentAt? place = some entry.content := by
  have below := contentAt?_setAt_below root entry place []
  rwa [List.append_nil] at below

theorem contentAt?_setAt_of_apart (notBelow : ¬ place <+: other) (notAbove : ¬ other <+: place) :
    (setAt root place entry).contentAt? other = root.contentAt? other := by
  induction place generalizing root other with
  | nil => exact absurd List.nil_prefix notBelow
  | cons name place induction =>
      cases other with
      | nil => exact absurd List.nil_prefix notAbove
      | cons first later =>
          rw [setAt, contentAt?_cons, contentAt?_cons, child?_setEntry]
          have same : (directory root.entries).child? first = root.child? first := by
            cases root <;> rfl
          by_cases equal : first = name
          · rw [List.cons_prefix_cons, not_and] at notBelow notAbove
            have apart := @induction ((root.child? name).getD (.directory [])) _
              (notBelow equal.symm) (notAbove equal)
            rw [if_pos equal, equal, Option.bind_some, apart]
            cases root.child? name with
            | some child => rfl
            | none =>
                cases later with
                | nil => exact absurd List.nil_prefix (notAbove equal)
                | cons next later => rfl
          · rw [if_neg equal, same]

theorem contentAt?_setAt_above (above : other <+: place) (proper : other ≠ place) :
    (setAt root place entry).contentAt? other = some .directory := by
  induction place generalizing root other with
  | nil => exact absurd (List.prefix_nil.mp above) proper
  | cons name place induction =>
      cases other with
      | nil => rfl
      | cons first later =>
          rcases List.cons_prefix_cons.mp above with ⟨rfl, later_prefix⟩
          rw [setAt, contentAt?_cons, child?_setEntry, if_pos rfl]
          exact induction later_prefix fun equal => proper (congrArg _ equal)

theorem not_prefix_dropLast {α : Type} {place : List α} (nonempty : place ≠ []) :
    ¬ place <+: place.dropLast := by
  intro below
  have length := below.length_le
  rw [List.length_dropLast] at length
  have positive := List.length_pos_iff.mpr nonempty
  omega

theorem ne_dropLast {α : Type} {place : List α} (nonempty : place ≠ []) :
    place ≠ place.dropLast := by
  intro same
  exact not_prefix_dropLast nonempty ⟨[], (List.append_nil place).trans same⟩

theorem prefix_dropLast {α : Type} {above place : List α} (isAbove : above <+: place)
    (proper : above ≠ place) : above <+: place.dropLast := by
  rcases isAbove with ⟨later, rfl⟩
  have nonempty : later ≠ [] := by
    rintro rfl
    exact proper (List.append_nil above).symm
  rw [List.dropLast_append_of_ne_nil nonempty]
  exact List.prefix_append above _

/-- With the directory of the place there, all places stay as they are that are not below. -/
theorem contentAt?_setAt (standing : root.contentAt? place.dropLast = some .directory)
    (notBelow : ¬ place <+: other) :
    (setAt root place entry).contentAt? other = root.contentAt? other := by
  by_cases above : other <+: place
  · have proper : other ≠ place := by
      rintro rfl
      exact notBelow (List.prefix_refl other)
    rw [contentAt?_setAt_above above proper]
    by_cases equal : place.dropLast = other
    · rw [← equal, standing]
    · exact (contentAt?_of_above standing (prefix_dropLast above proper) equal).symm
  · exact contentAt?_setAt_of_apart notBelow above

/-- Of what is removed, all places stay as they are that are not below. -/
theorem contentAt?_removeAt (there : (root.descend? place).isSome = true)
    (notBelow : ¬ place <+: other) :
    (removeAt root place).contentAt? other = root.contentAt? other := by
  induction place generalizing root other with
  | nil => exact absurd List.nil_prefix notBelow
  | cons name place induction =>
      rcases Option.isSome_iff_exists.mp there with ⟨entry, found⟩
      rcases descend?_cons.mp found with ⟨child, isChild, further⟩
      cases root with
      | file bytes => cases isChild
      | directory entries =>
          cases other with
          | nil => cases place <;> simp [removeAt, isChild, contentAt?_nil, content]
          | cons first later =>
              cases place with
              | nil =>
                  have different : first ≠ name := by
                    rintro rfl
                    exact notBelow (List.cons_prefix_cons.mpr ⟨rfl, List.nil_prefix⟩)
                  rw [removeAt, contentAt?_cons, contentAt?_cons, Entry.entries, child?_filter,
                    if_neg different]
              | cons next place =>
                  rw [removeAt, isChild]
                  · simp only [contentAt?_cons, Entry.entries, child?_setEntry]
                    by_cases equal : first = name
                    · rw [List.cons_prefix_cons, not_and] at notBelow
                      have below := @induction child _ (by simp [further]) (notBelow equal.symm)
                      rw [if_pos equal, equal, isChild, Option.bind_some, Option.bind_some, below]
                    · rw [if_neg equal]
                  · intro absurdity
                    cases absurdity

/-- Nothing is left at a place whose entry is removed. -/
theorem contentAt?_removeAt_self (nonempty : place ≠ []) :
    (removeAt root place).contentAt? place = none := by
  induction place generalizing root with
  | nil => exact absurd rfl nonempty
  | cons name place induction =>
      cases place with
      | nil => rw [removeAt, contentAt?_cons, child?_filter, if_pos rfl, Option.bind_none]
      | cons next place =>
          rw [removeAt]
          · cases found : root.child? name with
            | none => rw [contentAt?_cons, found, Option.bind_none]
            | some child =>
                rw [contentAt?_cons, child?_setEntry, if_pos rfl, Option.bind_some]
                exact induction (List.cons_ne_nil next place)
          · intro absurdity
            cases absurdity

/-- A move shows at its source and its target and below. -/
theorem contentAt?_rename {tree : FileTree} {source target : List String}
    (standing : tree.root.contentAt? target.dropLast = some .directory)
    (apart : ¬ source <+: target.dropLast) (notSource : ¬ source <+: other)
    (notTarget : ¬ target <+: other) :
    (tree.rename source target).root.contentAt? other = tree.root.contentAt? other := by
  rw [rename]
  cases found : tree.root.descend? source with
  | none => rfl
  | some entry =>
      have there : (tree.root.descend? source).isSome = true := by rw [found]; rfl
      simp only
      rw [contentAt?_setAt _ notTarget, contentAt?_removeAt there notSource]
      rw [contentAt?_removeAt there apart, standing]

/-! ## More directories -/

/-- All that stands in one tree stands in the other, which has directories besides. -/
def AddsDirectories (before after : Entry) : Prop :=
  ∀ place, after.contentAt? place = before.contentAt? place ∨
    before.contentAt? place = none ∧ after.contentAt? place = some .directory

namespace AddsDirectories

variable {before middle after : Entry}

theorem refl (root : Entry) : AddsDirectories root root := fun _ => .inl rfl

theorem trans (first : AddsDirectories before middle) (second : AddsDirectories middle after) :
    AddsDirectories before after := by
  intro place
  rcases first place with same | ⟨missing, made⟩
  · rw [← same]
    exact second place
  · rcases second place with same | ⟨absurdity, _⟩
    · exact .inr ⟨missing, same.trans made⟩
    · rw [made] at absurdity
      cases absurdity

theorem keeps (adds : AddsDirectories before after) {content : Content}
    (found : before.contentAt? place = some content) : after.contentAt? place = some content := by
  rcases adds place with same | ⟨missing, _⟩
  · rw [same, found]
  · rw [found] at missing
    cases missing

theorem fileAt? (adds : AddsDirectories before after) :
    after.fileAt? place = before.fileAt? place := by
  rcases adds place with same | ⟨missing, made⟩
  · exact fileAt?_eq_of_contentAt? same
  · rw [Entry.fileAt?, Entry.fileAt?, missing, made]

/-- An empty directory where nothing was adds nothing else. -/
theorem setAt (missing : root.contentAt? place = none)
    (standing : root.contentAt? place.dropLast = some .directory) :
    AddsDirectories root (setAt root place (.directory [])) := by
  intro other
  by_cases below : place <+: other
  · rcases below with ⟨later, rfl⟩
    rw [contentAt?_setAt_below, contentAt?_of_none missing (List.prefix_append place later)]
    cases later with
    | nil => exact .inr ⟨rfl, rfl⟩
    | cons name later => exact .inl rfl
  · exact .inl (contentAt?_setAt standing below)

end AddsDirectories

end FileTree

end Stencil
