import Mathlib.Data.List.Forall2
import Stencil.ClassSource.Load
import Stencil.Proofs.Assembly.Scope
import Stencil.Proofs.ClassSource.Reading

/-!
Scopes within scopes. The rows of a scope are those of its members set further in, and since no row
holds a line end of its own, they are read back as the scope that they were written from. The source
of a tree of scopes therefore tells all of the tree but what quoting does to its names.
-/

namespace Stencil

namespace Scope

mutual

/-- The tree with all names quoted and the given name for the outermost scope. A child goes by the
name under which it is listed. -/
def quotedAs (name : Option String) : Scope → Scope
  | ⟨_, types, children⟩ => ⟨name, types.map Source.quoted, quotedChildren children⟩

def quotedChildren : List (String × Scope) → List (String × Scope)
  | [] => []
  | (name, child) :: later =>
      (toIdentifier name, child.quotedAs (some (toIdentifier name))) :: quotedChildren later

end

/-- The tree with all names quoted; the outermost scope needs none. -/
def quoted (scope : Scope) : Scope := scope.quotedAs none

theorem quotedAs_eq (name : Option String) (scope : Scope) :
    scope.quotedAs name =
      ⟨name, scope.types.map Source.quoted, quotedChildren scope.children⟩ := by
  rcases scope with ⟨_, types, children⟩
  rw [quotedAs]

theorem quotedChildren_eq (children : List (String × Scope)) :
    quotedChildren children = children.map fun (name, child) =>
      (toIdentifier name, child.quotedAs (some (toIdentifier name))) := by
  induction children with
  | nil => rw [quotedChildren, List.map_nil]
  | cons head tail induction =>
      rcases head with ⟨name, child⟩
      rw [quotedChildren, induction, List.map_cons]

theorem walkChildren_flatMap {α : Type} (held : Scope → List α) (children : List (String × Scope)) :
    (walkChildren children).flatMap (fun (_, inner) => held inner) =
      children.flatMap fun (_, child) => child.walk.flatMap fun (_, inner) => held inner := by
  induction children with
  | nil => rw [walkChildren, List.flatMap_nil, List.flatMap_nil]
  | cons head tail induction =>
      rcases head with ⟨name, child⟩
      rw [walkChildren, List.flatMap_append, List.flatMap_map, induction, List.flatMap_cons]

/-- What the scopes of a tree hold: first the outermost one, then the trees of its children. -/
theorem walk_flatMap {α : Type} (held : Scope → List α) (scope : Scope) :
    scope.walk.flatMap (fun (_, inner) => held inner) =
      held scope ++ scope.children.flatMap fun (_, child) =>
        child.walk.flatMap fun (_, inner) => held inner := by
  rcases scope with ⟨name, types, children⟩
  rw [walk, List.flatMap_cons, walkChildren_flatMap]

theorem walk_flatMap_quotedAs {α : Type} (held other : Scope → List α)
    (same : ∀ scope name, held (quotedAs name scope) = other scope) (scope : Scope)
    (name : Option String) :
    (scope.quotedAs name).walk.flatMap (fun (_, inner) => held inner) =
      scope.walk.flatMap fun (_, inner) => other inner := by
  induction scope using Scope.induction generalizing name with
  | scope own types children induction =>
      rw [walk_flatMap, same, walk_flatMap other, quotedAs_eq, quotedChildren_eq, List.flatMap_map]
      congr 1
      apply List.flatMap_congr
      intro pair member
      exact induction pair.1 pair.2 member _

end Scope

theorem templatesOf_eq (scope : Scope) :
    templatesOf scope = scope.types ++ scope.children.flatMap fun (_, child) =>
      templatesOf child :=
  scope.walk_flatMap Scope.types

theorem templatesOf_ofTemplate (template : TemplateClass) :
    templatesOf (.ofTemplate template) = [template] := by
  simp [templatesOf, Scope.ofTemplate, Scope.empty, Scope.add, Scope.walk, Scope.walkChildren]

namespace Source

theorem hasWordTypes_ofTemplate {template : TemplateClass} (types : HasWordTypes template) :
    ∀ other ∈ templatesOf (.ofTemplate template), HasWordTypes other := by
  rw [templatesOf_ofTemplate]
  exact List.forall_mem_singleton.mpr types

/-! ## Rows further in -/

theorem exists_not_isBlank {text : List Char} {statement : Statement}
    (read : statement? text = some statement) : ∃ c ∈ text, Character.isBlank c = false := by
  rw [statement?] at read
  split at read
  · rename_i note
    exact ⟨'"', by rw [note]; decide, by decide⟩
  · rcases Option.bind_eq_some_iff.mp read with ⟨⟨word, rest⟩, begins, _⟩
    simp only [word?, Option.ite_none_left_eq_some, Option.some_inj, Prod.mk.injEq] at begins
    cases text with
    | nil => simp at begins
    | cons c text =>
        refine ⟨c, List.mem_cons_self, Character.isBlank_of_isWord ?_⟩
        by_contra noWord
        simp [noWord] at begins

/-- A line one level further in. -/
def further {α : Type} (line : Nat × α) : Nat × α := (line.1 + 4, line.2)

mutual

theorem Block.lines_further {α : Type} (column : Nat) : (block : Block α) →
    (block.lines column).map further = block.lines (column + 4)
  | .node head body => by
      rw [Block.lines, Block.lines, List.map_cons, linesOf_further (column + 4) body]
      rfl

theorem linesOf_further {α : Type} (column : Nat) : (blocks : List (Block α)) →
    (linesOf column blocks).map further = linesOf (column + 4) blocks
  | [] => by rw [linesOf, linesOf, List.map_nil]
  | block :: later => by
      rw [linesOf, linesOf, List.map_append, block.lines_further column,
        linesOf_further column later]

end

namespace Spells

variable {rows : List Row} {lines : List (Nat × Statement)}

/-- A row that reads as a statement is set further in with all of its text. -/
theorem toList_indent {row : Row} {column : Nat} {text : List Char} {statement : Statement}
    (written : row.text.toList = List.replicate column ' ' ++ text) (single : IsOneLine text)
    (read : statement? text = some statement) :
    row.indent.text.toList = List.replicate 4 ' ' ++ row.text.toList := by
  have whole : IsOneLine row.text.toList := by
    rw [written]
    apply IsOneLine.append _ single
    intro c member
    rw [List.eq_of_mem_replicate member]
    decide
  rcases exists_not_isBlank read with ⟨c, member, notBlank⟩
  have visible : ¬row.text.toList.all Character.isBlank = true := by
    intro blank
    have blankToo := List.all_eq_true.mp blank c (by simp [written, member])
    rw [notBlank] at blankToo
    cases blankToo
  rw [Row.indent, toList_indentLines whole, indentLine, if_neg visible]
  rfl

theorem indent (spelled : Spells rows lines) :
    Spells (rows.map Row.indent) (lines.map further) := by
  induction spelled with
  | nil => exact .nil
  | empty written _ induction =>
      apply Spells.empty _ induction
      rw [Row.indent, written]
      rfl
  | line written begins single read _ induction =>
      apply Spells.line _ begins single read induction
      rw [toList_indent written single read, written, ← List.append_assoc,
        List.replicate_append_replicate, Nat.add_comm 4]

end Spells

/-! ## The statements of a scope -/

/-- The body of a class that holds these blocks, which may be none. -/
def orPass (blocks : List (Block Statement)) : List (Block Statement) :=
  if blocks.isEmpty then [.node .pass []] else blocks

mutual

/-- One block of statements for each member of a scope. -/
def scopeStatements : Scope → List (Block Statement)
  | ⟨_, types, children⟩ => types.map classBlock ++ childStatements children

def childStatements : List (String × Scope) → List (Block Statement)
  | [] => []
  | (name, child) :: later =>
      .node (.classOf (toIdentifier name).toList) (orPass (scopeStatements child)) ::
        childStatements later

end

/-- Rows block by block that read as these blocks. -/
def SpellBlocks : List (List Row) → List (Block Statement) → Prop :=
  List.Forall₂ fun rows block => Spells rows (block.lines 0)

namespace SpellBlocks

variable {blocks : List (List Row)} {statements : List (Block Statement)}

theorem flatMap (spelled : SpellBlocks blocks statements) :
    Spells (blocks.flatMap fun rows => .blank :: .blank :: rows) (linesOf 0 statements) := by
  induction spelled with
  | nil => exact .nil
  | cons first _ induction => exact first.blank.blank.append induction

theorem spaced (spelled : SpellBlocks blocks statements) :
    Spells (Row.spaced blocks) (linesOf 0 statements) := by
  induction spelled with
  | nil => exact .nil
  | @cons rows block blocks statements first later induction =>
      cases later with
      | nil =>
          rw [Row.spaced, linesOf, linesOf, List.append_nil]
          exact first
      | cons second later => exact first.append induction.blank

theorem namespaceRows (spelled : SpellBlocks blocks statements) {name : String}
    (fit : Identifier.IsFit name.toList) :
    Spells (namespaceRows name blocks)
      ((Block.node (.classOf name.toList) (orPass statements)).lines 0) := by
  have body : Spells (if blocks.isEmpty then [.line 0 "pass"] else Row.spaced blocks)
      (linesOf 0 (orPass statements)) := by
    cases spelled with
    | nil => exact spells_fixed _ (by decide) (by decide) statement?_pass
    | cons first later => exact SpellBlocks.spaced (.cons first later)
  have inner := body.indent
  rw [linesOf_further] at inner
  exact (spells_class _ fit).append inner

end SpellBlocks

theorem spellBlocks_childBlocks {children : List (String × Scope)}
    (below : ∀ childName child, (childName, child) ∈ children →
      SpellBlocks (scopeBlocks child) (scopeStatements child)) :
    SpellBlocks (childBlocks children) (childStatements children) := by
  induction children with
  | nil => exact .nil
  | cons head tail induction =>
      rcases head with ⟨name, child⟩
      have first := below name child List.mem_cons_self
      have later := induction fun childName other member =>
        below childName other (List.mem_cons_of_mem _ member)
      exact .cons (first.namespaceRows (isFit_toIdentifier name)) later

/-- Each member of a scope is written as its block. -/
theorem spellBlocks_scopeBlocks {scope : Scope}
    (words : ∀ template ∈ templatesOf scope, HasWordTypes template) :
    SpellBlocks (scopeBlocks scope) (scopeStatements scope) := by
  induction scope using Scope.induction with
  | scope name types children induction =>
      rw [templatesOf_eq] at words
      rcases List.forall_mem_append.mp words with ⟨own, below⟩
      have children := spellBlocks_childBlocks fun childName child member =>
        induction childName child member fun template listed =>
          below template (List.mem_flatMap.mpr ⟨(childName, child), member, listed⟩)
      rw [scopeBlocks, scopeStatements]
      apply List.rel_append _ children
      apply List.forall₂_map_left_iff.mpr
      apply List.forall₂_map_right_iff.mpr
      exact List.forall₂_same.mpr fun template member => spells_classRows (own template member)

/-! ## Scopes read back -/

theorem template?_orPass (name : List Char) (scope : Scope) :
    template? name (orPass (scopeStatements scope)) = none := by
  rcases scope with ⟨_, types, children⟩
  rw [scopeStatements]
  cases types with
  | cons first later => rfl
  | nil =>
      cases children with
      | nil => rfl
      | cons head tail => rfl

theorem members?_orPass (blocks : List (Block Statement)) :
    members? (orPass blocks) = members? blocks := by
  cases blocks with
  | nil => rfl
  | cons first later => rfl

theorem members?_childStatements {children : List (String × Scope)}
    (below : ∀ childName child, (childName, child) ∈ children →
      members? (scopeStatements child) =
        some (child.types.map quoted, Scope.quotedChildren child.children)) :
    members? (childStatements children) = some ([], Scope.quotedChildren children) := by
  induction children with
  | nil => rfl
  | cons head tail induction =>
      rcases head with ⟨name, child⟩
      have first := below name child List.mem_cons_self
      have later := induction fun childName other member =>
        below childName other (List.mem_cons_of_mem _ member)
      rw [childStatements, members?, member?, template?_orPass, members?_orPass, first, later]
      · simp [Scope.quotedChildren, Scope.quotedAs_eq]
      · simp

theorem members?_types (types : List TemplateClass) {blocks : List (Block Statement)}
    {children : List (String × Scope)} (later : members? blocks = some ([], children)) :
    members? (types.map classBlock ++ blocks) = some (types.map quoted, children) := by
  induction types with
  | nil => exact later
  | cons template types induction =>
      have member := member?_classBlock template
      rw [List.map_cons, List.cons_append, classBlock] at *
      rw [members?, member, induction]
      · rfl
      · simp

theorem members?_scopeStatements (scope : Scope) :
    members? (scopeStatements scope) =
      some (scope.types.map quoted, Scope.quotedChildren scope.children) := by
  induction scope using Scope.induction with
  | scope name types children induction =>
      rw [scopeStatements]
      exact members?_types types (members?_childStatements induction)

/-- The source of a tree of scopes is read back as the tree with its names quoted. -/
theorem module?_moduleSource {scope : Scope}
    (words : ∀ template ∈ templatesOf scope, HasWordTypes template) :
    module? (moduleSource scope) = some scope.quoted := by
  have spelled : Spells (moduleRows scope)
      (linesOf 0 (.node .note [] :: .node .futureImport [] :: scopeStatements scope)) :=
    spells_preamble.append (spellBlocks_scopeBlocks words).flatMap
  have statements : statements? (moduleSource scope) =
      some (linesOf 0 (.node .note [] :: .node .futureImport [] :: scopeStatements scope)) :=
    spelled.statements?_source
  rw [module?, statements, Option.bind_some, blocks?_linesOf]
  simp only [members?_scopeStatements, Option.map_some]
  rw [Scope.quoted, Scope.quotedAs_eq]

/-! ## Quoting -/

theorem classRows_quoted (template : TemplateClass) :
    classRows (quoted template) = classRows template := by
  have fields : (quoted template).fields.map EmittedField.ofField =
      template.fields.map EmittedField.ofField := by
    simp [quoted, EmittedField.ofField, toIdentifier_toIdentifier, Function.comp_def]
  rw [classRows, fields, classRows]
  simp only [quoted, toIdentifier_toIdentifier]

theorem childBlocks_quotedChildren {children : List (String × Scope)}
    (below : ∀ childName child, (childName, child) ∈ children →
      ∀ name, scopeBlocks (child.quotedAs name) = scopeBlocks child) :
    childBlocks (Scope.quotedChildren children) = childBlocks children := by
  induction children with
  | nil => rfl
  | cons head tail induction =>
      rcases head with ⟨name, child⟩
      have later := induction fun childName other member =>
        below childName other (List.mem_cons_of_mem _ member)
      rw [Scope.quotedChildren, childBlocks, later, below name child List.mem_cons_self,
        toIdentifier_toIdentifier, childBlocks]

theorem scopeBlocks_quotedAs (scope : Scope) (name : Option String) :
    scopeBlocks (scope.quotedAs name) = scopeBlocks scope := by
  induction scope using Scope.induction generalizing name with
  | scope own types children induction =>
      have classes : (types.map quoted).map classRows = types.map classRows := by
        simp [classRows_quoted]
      rw [Scope.quotedAs, scopeBlocks, classes, childBlocks_quotedChildren induction, scopeBlocks]

/-- Quoting the names of a tree changes nothing in its source. -/
theorem moduleRows_quoted (scope : Scope) : moduleRows scope.quoted = moduleRows scope := by
  rw [moduleRows, Scope.quoted, scopeBlocks_quotedAs, moduleRows]

end Source

theorem emitModule_false (scope : Scope) : emitModule scope false = .ok (moduleSource scope) := rfl

/-- Two trees of scopes have the same source only if quoting leaves no difference between them. -/
theorem emitModule_eq_iff {first second : Scope}
    (firstWords : ∀ template ∈ templatesOf first, Source.HasWordTypes template)
    (secondWords : ∀ template ∈ templatesOf second, Source.HasWordTypes template) :
    emitModule first false = emitModule second false ↔ first.quoted = second.quoted := by
  rw [emitModule_false, emitModule_false, Except.ok.injEq]
  constructor
  · intro equal
    have read := Source.module?_moduleSource firstWords
    rw [equal, Source.module?_moduleSource secondWords] at read
    exact (Option.some.inj read).symm
  · intro equal
    rw [moduleSource, ← Source.moduleRows_quoted, equal, Source.moduleRows_quoted, moduleSource]

/-- A page whose body is like the source of a scope beside it. -/
def mimickingPage : Scope where
  types := [⟨"Page", [⟨"title", "str"⟩], "x\n\n\nclass a:\n    pass\n"⟩]

/-- A page with a scope beside it. -/
def pageAndScope : Scope where
  types := [⟨"Page", [⟨"title", "str"⟩], "x"⟩]
  children := [("a", { name := some "a" })]

theorem emitModule_mimickingPage :
    (∀ template ∈ templatesOf mimickingPage, Source.HasWordTypes template) ∧
      (∀ template ∈ templatesOf pageAndScope, Source.HasWordTypes template) ∧
      emitModule mimickingPage false ≠ emitModule pageAndScope false := by
  have word : Source.IsWord "str".toList := Source.isWord_of_all (by decide)
  have mimickingWords : ∀ template ∈ templatesOf mimickingPage, Source.HasWordTypes template := by
    have templates : templatesOf mimickingPage = mimickingPage.types := rfl
    rw [templates]
    simpa [mimickingPage, Source.HasWordTypes] using word
  have words : ∀ template ∈ templatesOf pageAndScope, Source.HasWordTypes template := by
    have templates : templatesOf pageAndScope = pageAndScope.types := rfl
    rw [templates]
    simpa [pageAndScope, Source.HasWordTypes] using word
  refine ⟨mimickingWords, words, ?_⟩
  intro equal
  have same := (emitModule_eq_iff mimickingWords words).mp equal
  have counts := congrArg (·.children.length) same
  exact absurd counts (by decide +kernel)

end Stencil
