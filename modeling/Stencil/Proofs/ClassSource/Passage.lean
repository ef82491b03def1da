import Mathlib.Data.List.DropRight
import Mathlib.Data.List.SplitBy
import Stencil.Proofs.Assembly.Scope
import Stencil.Proofs.ClassSource.Nesting

/-!
Passages of a source. A statement goes from one line that begins at its column to the next, so a
path of positions, one for each level, leads to the lines of a statement in any source. In the
source of a tree of scopes the path of a template leads to the lines that the template has on its
own, set further in by its depth.
-/

namespace Stencil

namespace Source

/-! ## Reading by columns -/

/-- The column where a line begins. An empty one begins nowhere. -/
def columnOf? (line : List Char) : Option Nat :=
  if line.isEmpty then none else some (lineOf line).1

/-- Lines cut before each one that begins at `column`. -/
def statementsAt (column : Nat) (lines : List (List Char)) : List (List (List Char)) :=
  lines.splitBy fun _ next => columnOf? next != some column

/-- The lines of the statement at `index` inside the one that positions lead to, without empty ones
at the end. The body of a statement is all of it but its first line. -/
def passageIn? (column index : Nat) (statements : List (List (List Char))) :
    List Nat → Option (List (List Char))
  | [] => (statements[index]?).map (·.rdropWhile List.isEmpty)
  | position :: later => (statements[position]?).bind fun statement =>
      passageIn? (column + 4) index (statementsAt (column + 4) statement.tail) later

/-- The passage of a source at `index` inside the statement that positions lead to. The first two
statements of a module, a note and an import, do not count. -/
def passage? (source : String) (positions : List Nat) (index : Nat) :
    Option (List (List Char)) :=
  passageIn? 0 index ((statementsAt 0 (splitAt '\n' source.toList)).drop 2) positions

/-- A line set further in. An empty one stays as it is. -/
def setIn (width : Nat) (line : List Char) : List Char :=
  if line.isEmpty then line else List.replicate width ' ' ++ line

theorem setIn_zero (line : List Char) : setIn 0 line = line := by
  rw [setIn]
  split <;> rfl

theorem setIn_cons (width : Nat) (c : Char) (rest : List Char) :
    setIn width (c :: rest) = List.replicate width ' ' ++ c :: rest := rfl

theorem isEmpty_setIn (width : Nat) (line : List Char) :
    (setIn width line).isEmpty = line.isEmpty := by
  cases line with
  | nil => rfl
  | cons c rest => simp [setIn_cons]

theorem setIn_setIn (outer inner : Nat) (line : List Char) :
    setIn outer (setIn inner line) = setIn (outer + inner) line := by
  cases line with
  | nil => rfl
  | cons c rest =>
      have nonempty : (List.replicate inner ' ' ++ c :: rest).isEmpty = false := by simp
      rw [setIn_cons, setIn_cons, setIn, nonempty, ← List.replicate_append_replicate,
        List.append_assoc]
      rfl

theorem columnOf?_setIn (width : Nat) (line : List Char) :
    columnOf? (setIn width line) = (columnOf? line).map (width + ·) := by
  cases line with
  | nil => rfl
  | cons c rest =>
      have margin : ∀ c ∈ List.replicate width ' ', (c == ' ') = true := by simp
      have column : (lineOf (List.replicate width ' ' ++ c :: rest)).1 =
          width + (lineOf (c :: rest)).1 := by
        simp [lineOf, List.takeWhile_append_of_pos margin]
      rw [columnOf?, isEmpty_setIn, setIn_cons, column]
      rfl

theorem columnOf?_replicate {column : Nat} {text : List Char} (begins : text.head? ≠ some ' ')
    (nonempty : text ≠ []) : columnOf? (List.replicate column ' ' ++ text) = some column := by
  rw [columnOf?, lineOf_replicate begins]
  simp [nonempty]

/-! ## Statements -/

/-- Lines of which the first begins at `column` and no other does. -/
inductive IsStatement (column : Nat) : List (List Char) → Prop where
  | mk {head : List Char} {tail : List (List Char)} (begins : columnOf? head = some column)
      (inside : ∀ line ∈ tail, columnOf? line ≠ some column) : IsStatement column (head :: tail)

/-- Lines with empty ones behind them. -/
def IsPadded (statement block : List (List Char)) : Prop :=
  ∃ gap, (∀ line ∈ gap, line = []) ∧ statement = block ++ gap

theorem IsStatement.setIn {column : Nat} {lines : List (List Char)}
    (statement : IsStatement column lines) (width : Nat) :
    IsStatement (width + column) (lines.map (setIn width)) := by
  rcases statement with ⟨begins, inside⟩
  constructor
  · rw [columnOf?_setIn, begins, Option.map_some]
  · intro line member
    rcases List.mem_map.mp member with ⟨original, listed, rfl⟩
    rw [columnOf?_setIn]
    intro equal
    rcases Option.map_eq_some_iff.mp equal with ⟨place, found, sum⟩
    rw [Nat.add_left_cancel sum] at found
    exact inside original listed found

theorem IsStatement.padded {column : Nat} {statement block : List (List Char)}
    (isStatement : IsStatement column block) (padded : IsPadded statement block) :
    IsStatement column statement := by
  rcases padded with ⟨gap, empty, rfl⟩
  rcases isStatement with ⟨begins, inside⟩
  rw [List.cons_append]
  constructor
  · exact begins
  · intro line member
    rcases List.mem_append.mp member with within | behind
    · exact inside line within
    · rw [empty line behind]
      intro equal
      cases equal

/-- Lines are cut into the statements that they consist of. -/
theorem statementsAt_flatten {column : Nat} {statements : List (List (List Char))}
    (each : ∀ statement ∈ statements, IsStatement column statement) :
    statementsAt column statements.flatten = statements := by
  apply List.splitBy_flatten
  · intro member
    cases each [] member
  · intro statement member
    rcases each statement member with ⟨_, inside⟩
    apply List.Pairwise.isChain
    apply List.pairwise_cons.mpr
    refine ⟨fun line listed => bne_iff_ne.mpr (inside line listed), ?_⟩
    exact List.pairwise_of_forall_mem_list fun _ _ line listed =>
      bne_iff_ne.mpr (inside line listed)
  · apply List.Pairwise.isChain
    apply List.pairwise_of_forall_mem_list
    intro first firstMember second secondMember
    rcases each second secondMember with ⟨begins, _⟩
    rcases each first firstMember with ⟨_, _⟩
    exact ⟨List.cons_ne_nil _ _, List.cons_ne_nil _ _, by simp [begins]⟩

theorem exists_padded {separator gap : List (List Char)} (empty : ∀ line ∈ separator, line = [])
    (emptyToo : ∀ line ∈ gap, line = []) (first : List (List Char))
    (later : List (List (List Char))) :
    ∃ statements, List.Forall₂ IsPadded statements (first :: later) ∧
      statements.flatten = first ++ later.flatMap (separator ++ ·) ++ gap := by
  induction later generalizing first with
  | nil => exact ⟨[first ++ gap], .cons ⟨gap, emptyToo, rfl⟩ .nil, by simp⟩
  | cons next later induction =>
      rcases induction next with ⟨statements, padded, joined⟩
      refine ⟨(first ++ separator) :: statements, .cons ⟨separator, empty, rfl⟩ padded, ?_⟩
      rw [List.flatten_cons, joined]
      simp

theorem isStatement_of_padded {column : Nat} {statements blocks : List (List (List Char))}
    (padded : List.Forall₂ IsPadded statements blocks)
    (each : ∀ block ∈ blocks, IsStatement column block) :
    ∀ statement ∈ statements, IsStatement column statement := by
  induction padded with
  | nil => exact List.forall_mem_nil _
  | cons first _ induction =>
      rcases List.forall_mem_cons.mp each with ⟨head, tail⟩
      exact List.forall_mem_cons.mpr ⟨head.padded first, induction tail⟩

/-- Statements with empty lines between them are cut apart. -/
theorem statementsAt_separated {column : Nat} {separator gap : List (List Char)}
    (empty : ∀ line ∈ separator, line = []) (emptyToo : ∀ line ∈ gap, line = [])
    {first : List (List Char)} {later : List (List (List Char))}
    (each : ∀ block ∈ first :: later, IsStatement column block) :
    List.Forall₂ IsPadded
      (statementsAt column (first ++ later.flatMap (separator ++ ·) ++ gap)) (first :: later) := by
  rcases exists_padded empty emptyToo first later with ⟨statements, padded, joined⟩
  rw [← joined, statementsAt_flatten (isStatement_of_padded padded each)]
  exact padded

/-! ## The lines of a scope -/

namespace Spells

variable {rows : List Row} {lines : List (Nat × Statement)}

theorem columns (spelled : Spells rows lines) :
    ∀ text ∈ rowTexts rows, text = [] ∨ ∃ line ∈ lines, columnOf? text = some line.1 := by
  induction spelled with
  | nil => exact List.forall_mem_nil _
  | empty written _ induction =>
      rw [rowTexts_cons, written]
      exact List.forall_mem_cons.mpr ⟨.inl rfl, induction⟩
  | @line row rows lines column text statement written begins _ read _ induction =>
      have nonempty : text ≠ [] := by
        intro equal
        rw [equal] at read
        cases read
      rw [rowTexts_cons, written]
      refine List.forall_mem_cons.mpr ⟨.inr ⟨_, List.mem_cons_self, ?_⟩, ?_⟩
      · exact columnOf?_replicate begins nonempty
      · intro other member
        rcases induction other member with blank | ⟨line, listed, equal⟩
        · exact .inl blank
        · exact .inr ⟨line, List.mem_cons_of_mem _ listed, equal⟩

/-- The rows of a block are a statement if the first of them is not empty. -/
theorem isStatement {row : Row} {block : Block Statement} (visible : row.text ≠ "")
    (spelled : Spells (row :: rows) (block.lines 0)) :
    IsStatement 0 (rowTexts (row :: rows)) := by
  rcases block with ⟨head, body⟩
  rw [Block.lines] at spelled
  cases spelled with
  | empty written _ => exact absurd written visible
  | @line _ _ _ _ text _ written begins _ read later =>
      have nonempty : text ≠ [] := by
        intro equal
        rw [equal] at read
        cases read
      rw [rowTexts_cons, written]
      constructor
      · exact columnOf?_replicate begins nonempty
      · intro other member
        rcases later.columns other member with blank | ⟨line, listed, equal⟩
        · rw [blank]
          intro equal
          cases equal
        · have further := column_le_of_mem_linesOf body listed
          rw [equal]
          intro same
          rw [Option.some_inj.mp same] at further
          cases further

theorem rowTexts_indent (spelled : Spells rows lines) :
    rowTexts (rows.map Row.indent) = (rowTexts rows).map (setIn 4) := by
  induction spelled with
  | nil => rfl
  | @empty row rows lines written _ induction =>
      have same : row.indent.text.toList = setIn 4 row.text.toList := by
        rw [Row.indent, written]
        rfl
      rw [List.map_cons, rowTexts_cons, rowTexts_cons, List.map_cons, same, induction]
  | @line row rows lines column text statement written _ single read _ induction =>
      have visible : row.text.toList.isEmpty = false := by
        cases text with
        | nil => cases read
        | cons c rest => simp [written]
      have same : row.indent.text.toList = setIn 4 row.text.toList := by
        rw [toList_indent written single read, setIn, visible]
        rfl
      rw [List.map_cons, rowTexts_cons, rowTexts_cons, List.map_cons, same, induction]

end Spells

theorem rowTexts_spaced (first : List Row) (later : List (List Row)) :
    rowTexts (Row.spaced (first :: later)) =
      rowTexts first ++ (later.map rowTexts).flatMap ([[]] ++ ·) := by
  induction later generalizing first with
  | nil => simp [Row.spaced, rowTexts]
  | cons next later induction =>
      rw [Row.spaced, rowTexts, List.map_append, List.map_cons, ← rowTexts, ← rowTexts,
        induction next]
      · rfl
      · exact List.cons_ne_nil next later

/-- The lines of each member of a scope, set further in. -/
def memberLines (width : Nat) (scope : Scope) : List (List (List Char)) :=
  (scopeBlocks scope).map fun rows => (rowTexts rows).map (setIn width)

theorem scopeBlocks_eq (scope : Scope) :
    scopeBlocks scope = scope.types.map classRows ++ scope.children.map fun (name, child) =>
      namespaceRows (toIdentifier name) (scopeBlocks child) := by
  have eq (children : List (String × Scope)) :
      childBlocks children = children.map fun (name, child) =>
        namespaceRows (toIdentifier name) (scopeBlocks child) := by
    induction children with
    | nil => rfl
    | cons head tail induction => rw [childBlocks, induction, List.map_cons]
  rcases scope with ⟨name, types, children⟩
  rw [scopeBlocks, eq]

/-- Each member of a scope begins with the row of its class. -/
theorem exists_head_of_mem_scopeBlocks {scope : Scope} {rows : List Row}
    (member : rows ∈ scopeBlocks scope) :
    ∃ name rest, rows = .line 0 s!"class {name}:" [.name name] :: rest := by
  rw [scopeBlocks_eq] at member
  rcases List.mem_append.mp member with inTypes | inChildren
  · rcases List.mem_map.mp inTypes with ⟨template, _, rfl⟩
    exact ⟨toIdentifier template.name, _, rfl⟩
  · rcases List.mem_map.mp inChildren with ⟨pair, _, rfl⟩
    exact ⟨toIdentifier pair.1, _, rfl⟩

section Words

variable {scope : Scope} (words : ∀ template ∈ templatesOf scope, HasWordTypes template)

include words

theorem isStatement_memberLines (width : Nat) :
    ∀ lines ∈ memberLines width scope, IsStatement width lines := by
  intro lines member
  rcases List.mem_map.mp member with ⟨rows, listed, rfl⟩
  rcases List.getElem_of_mem listed with ⟨index, inside, rfl⟩
  have spelled := spellBlocks_scopeBlocks words
  have insideToo : index < (scopeStatements scope).length := spelled.length_eq ▸ inside
  have each := spelled.get inside insideToo
  rw [List.get_eq_getElem] at each
  rcases exists_head_of_mem_scopeBlocks listed with ⟨name, rest, equal⟩
  have visible : (Row.line 0 s!"class {name}:" [.name name]).text ≠ "" := by
    intro empty
    have letters := congrArg String.toList empty
    rw [Spells.toList_line] at letters
    simp [toString] at letters
  rw [equal] at each ⊢
  exact (each.isStatement visible).setIn width

theorem rowTexts_namespaceRows (name : String) (nonempty : scopeBlocks scope ≠ []) :
    ∃ head, rowTexts (namespaceRows name (scopeBlocks scope)) =
      head :: (rowTexts (Row.spaced (scopeBlocks scope))).map (setIn 4) := by
  have spelled := (spellBlocks_scopeBlocks words).spaced
  refine ⟨(Row.line 0 s!"class {name}:" [.name name]).text.toList, ?_⟩
  rw [namespaceRows, if_neg (by simpa using nonempty), rowTexts_cons, spelled.rowTexts_indent]

/-- The statements in the body of the class that a scope became are its members, set further in. -/
theorem statementsAt_tail {width : Nat} {name : String} {statement : List (List Char)}
    (nonempty : scopeBlocks scope ≠ [])
    (padded : IsPadded statement
      ((rowTexts (namespaceRows name (scopeBlocks scope))).map (setIn width))) :
    List.Forall₂ IsPadded (statementsAt (width + 4) statement.tail)
      (memberLines (width + 4) scope) := by
  rcases padded with ⟨gap, empty, rfl⟩
  rcases rowTexts_namespaceRows words name nonempty with ⟨head, texts⟩
  have each := isStatement_memberLines words (width + 4)
  rw [texts, List.map_cons, List.cons_append, List.tail_cons, List.map_map]
  rw [memberLines] at each ⊢
  cases blocks : scopeBlocks scope with
  | nil => exact absurd blocks nonempty
  | cons first later =>
      have blank : ∀ line ∈ [([] : List Char)], line = [] := by simp
      have further : setIn width ∘ setIn 4 = setIn (width + 4) := funext (setIn_setIn width 4)
      have body : (rowTexts (Row.spaced (first :: later))).map (setIn (width + 4)) =
          (rowTexts first).map (setIn (width + 4)) ++
            (later.map fun rows => (rowTexts rows).map (setIn (width + 4))).flatMap
              ([[]] ++ ·) := by
        rw [rowTexts_spaced, List.map_append, List.map_flatMap, List.flatMap_map,
          List.flatMap_map]
        rfl
      rw [blocks, List.map_cons] at each
      rw [further, body, List.map_cons]
      exact statementsAt_separated blank empty each

end Words

theorem getElem?_types {scope : Scope} {index : Nat} {template : TemplateClass}
    (listed : scope.types[index]? = some template) (width : Nat) :
    (memberLines width scope)[index]? =
      some ((rowTexts (classRows template)).map (setIn width)) := by
  have inside : index < (scope.types.map classRows).length := by
    rw [List.length_map]
    exact (List.getElem?_eq_some_iff.mp listed).1
  rw [memberLines, List.getElem?_map, scopeBlocks_eq, List.getElem?_append_left inside,
    List.getElem?_map, listed]
  rfl

theorem getElem?_child {scope child : Scope} {name : String}
    (found : scope.child? name = some child) (width : Nat) :
    (memberLines width scope)[scope.types.length + scope.childNames.idxOf name]? =
      some ((rowTexts (namespaceRows (toIdentifier name) (scopeBlocks child))).map
        (setIn width)) := by
  rcases Option.map_eq_some_iff.mp found with ⟨pair, first, rfl⟩
  have located : scope.children[scope.childNames.idxOf name]? = some pair := by
    rw [Scope.childNames, List.idxOf, List.findIdx_map, ← List.find?_eq_getElem?_findIdx]
    exact first
  have named : pair.1 = name := by simpa using List.find?_some first
  have behind : (scope.types.map classRows).length ≤
      scope.types.length + scope.childNames.idxOf name := by simp
  rw [memberLines, List.getElem?_map, scopeBlocks_eq, List.getElem?_append_right behind,
    List.length_map, Nat.add_sub_cancel_left, List.getElem?_map, located, ← named]
  rfl

theorem scopeBlocks_ne_nil {width index : Nat} {scope : Scope} {lines : List (List Char)}
    (listed : (memberLines width scope)[index]? = some lines) : scopeBlocks scope ≠ [] := by
  intro empty
  rw [memberLines, empty] at listed
  cases listed

theorem exists_getElem?_of_padded {statements blocks : List (List (List Char))}
    (padded : List.Forall₂ IsPadded statements blocks) {index : Nat} {block : List (List Char)}
    (listed : blocks[index]? = some block) :
    ∃ statement, statements[index]? = some statement ∧ IsPadded statement block := by
  rcases List.getElem?_eq_some_iff.mp listed with ⟨inside, rfl⟩
  have insideToo : index < statements.length := padded.length_eq ▸ inside
  exact ⟨statements[index], List.getElem?_eq_getElem insideToo, padded.get insideToo inside⟩

theorem rdropWhile_of_padded {statement block : List (List Char)}
    (padded : IsPadded statement block) :
    statement.rdropWhile List.isEmpty = block.rdropWhile List.isEmpty := by
  rcases padded with ⟨gap, empty, rfl⟩
  have behind : ∀ line ∈ gap.reverse, line.isEmpty = true := by
    intro line member
    rw [empty line (List.mem_reverse.mp member)]
    rfl
  rw [List.rdropWhile, List.reverse_append, List.dropWhile_append_of_pos behind, List.rdropWhile]

theorem rdropWhile_setIn (width : Nat) (lines : List (List Char)) :
    (lines.map (setIn width)).rdropWhile List.isEmpty =
      (lines.rdropWhile List.isEmpty).map (setIn width) := by
  have same : List.isEmpty ∘ setIn width = List.isEmpty := funext (isEmpty_setIn width)
  rw [List.rdropWhile, ← List.map_reverse, List.dropWhile_map, same, ← List.map_reverse,
    List.rdropWhile]

/-! ## The passage of a template -/

/-- The lines of the class of a template on its own. -/
def classLines (template : TemplateClass) : List (List Char) :=
  (rowTexts (classRows template)).rdropWhile List.isEmpty

end Source

namespace Scope

/-- The positions of the scopes at a chain of names, each among the members of the one around it,
where the children come behind the classes. -/
def positions (scope : Scope) : List String → List Nat
  | [] => []
  | name :: later => (scope.types.length + scope.childNames.idxOf name) ::
      (scope.childOrNew name).positions later

end Scope

namespace Source

variable {scope inner : Scope} {chain : List String} {index : Nat} {template : TemplateClass}

theorem hasWordTypes_child {child : Scope} {name : String}
    (words : ∀ template ∈ templatesOf scope, HasWordTypes template)
    (found : scope.child? name = some child) :
    ∀ template ∈ templatesOf child, HasWordTypes template := by
  intro template member
  apply words
  rw [templatesOf_eq]
  apply List.mem_append_right
  exact List.mem_flatMap.mpr ⟨(name, child), Scope.mem_of_child? found, member⟩

/-- A scope in which a chain leads to a class has members. -/
theorem scopeBlocks_ne_nil_of_at? (reached : scope.at? chain = some inner)
    (listed : inner.types[index]? = some template) : scopeBlocks scope ≠ [] := by
  cases chain with
  | nil =>
      cases reached
      exact scopeBlocks_ne_nil (getElem?_types listed 0)
  | cons name later =>
      rcases Option.bind_eq_some_iff.mp reached with ⟨child, found, _⟩
      exact scopeBlocks_ne_nil (getElem?_child found 0)

/-- From the members of a scope, the positions of a chain and then the index of a class lead to
the lines of the class, set further in by each name of the chain. -/
theorem passageIn?_members (words : ∀ template ∈ templatesOf scope, HasWordTypes template)
    (reached : scope.at? chain = some inner) (listed : inner.types[index]? = some template)
    {width : Nat} {statements : List (List (List Char))}
    (padded : List.Forall₂ IsPadded statements (memberLines width scope)) :
    passageIn? width index statements (scope.positions chain) =
      some ((classLines template).map (setIn (width + 4 * chain.length))) := by
  induction chain generalizing scope width statements with
  | nil =>
      cases reached
      rcases exists_getElem?_of_padded padded (getElem?_types listed width) with
        ⟨statement, located, behind⟩
      rw [Scope.positions, passageIn?, located, Option.map_some, rdropWhile_of_padded behind,
        rdropWhile_setIn]
      rfl
  | cons name later induction =>
      rcases Option.bind_eq_some_iff.mp reached with ⟨child, found, further⟩
      have wordsToo := hasWordTypes_child words found
      have nonempty := scopeBlocks_ne_nil_of_at? further listed
      rcases exists_getElem?_of_padded padded (getElem?_child found width) with
        ⟨statement, located, behind⟩
      have body := statementsAt_tail wordsToo nonempty behind
      have result := induction wordsToo further body
      have same : scope.childOrNew name = child := by rw [Scope.childOrNew, found, Option.getD_some]
      rw [Scope.positions, passageIn?, located, Option.bind_some, same, result, List.length_cons,
        Nat.mul_succ, Nat.add_assoc, Nat.add_comm 4]

theorem statementsAt_moduleSource (words : ∀ template ∈ templatesOf scope, HasWordTypes template) :
    List.Forall₂ IsPadded
      ((statementsAt 0 (splitAt '\n' (moduleSource scope).toList)).drop 2)
      (memberLines 0 scope) := by
  have spelled : Spells (moduleRows scope)
      (linesOf 0 (.node .note [] :: .node .futureImport [] :: scopeStatements scope)) :=
    spells_preamble.append (spellBlocks_scopeBlocks words).flatMap
  have lines : splitAt '\n' (moduleSource scope).toList = rowTexts (moduleRows scope) ++ [[]] :=
    splitAt_source spelled.notMem
  have blank : ∀ line ∈ [([] : List Char), []], line = [] := by simp
  have last : ∀ line ∈ [([] : List Char)], line = [] := by simp
  rcases exists_padded blank last ["from __future__ import annotations".toList]
    (memberLines 0 scope) with ⟨statements, padded, joined⟩
  have note : IsStatement 0 ["\"\"\"Generated by typedhtml. Do not edit.\"\"\"".toList, []] :=
    ⟨by decide, by decide⟩
  have futureImport : IsStatement 0 ["from __future__ import annotations".toList] :=
    ⟨by decide, by decide⟩
  have each : ∀ block ∈ ["from __future__ import annotations".toList] :: memberLines 0 scope,
      IsStatement 0 block :=
    List.forall_mem_cons.mpr ⟨futureImport, isStatement_memberLines words 0⟩
  have members : memberLines 0 scope = (scopeBlocks scope).map rowTexts := by
    have unchanged : setIn 0 = id := funext setIn_zero
    simp [memberLines, unchanged]
  have texts : rowTexts (moduleRows scope) ++ [[]] =
      (["\"\"\"Generated by typedhtml. Do not edit.\"\"\"".toList, []] :: statements).flatten := by
    rw [List.flatten_cons, joined, members]
    simp [moduleRows, rowTexts, List.map_flatMap, List.flatMap_map, preamble, Row.line, Row.blank]
  rw [lines, texts, statementsAt_flatten
    (List.forall_mem_cons.mpr ⟨note, isStatement_of_padded padded each⟩)]
  cases padded with
  | cons _ later => exact later

/-- In the source of a tree of scopes, each class is where its scope and its index say, and its
lines are those that it has on its own, set further in by four columns for each name above. -/
theorem passage?_moduleSource (words : ∀ template ∈ templatesOf scope, HasWordTypes template)
    (reached : scope.at? chain = some inner) (listed : inner.types[index]? = some template) :
    passage? (moduleSource scope) (scope.positions chain) index =
      some ((classLines template).map (setIn (4 * chain.length))) := by
  have result := passageIn?_members words reached listed (statementsAt_moduleSource words)
  rw [Nat.zero_add] at result
  exact result

/-- The source of a template has its class as the only passage. -/
theorem passage?_ofTemplate (types : HasWordTypes template) :
    passage? (moduleSource (.ofTemplate template)) [] 0 = some (classLines template) := by
  have reached : (Scope.ofTemplate template).at? [] = some (.ofTemplate template) := rfl
  have listed : (Scope.ofTemplate template).types[0]? = some template := rfl
  have result := passage?_moduleSource (hasWordTypes_ofTemplate types) reached listed
  have unchanged : setIn (4 * ([] : List String).length) = id := funext setIn_zero
  rw [unchanged, List.map_id] at result
  exact result

end Source

end Stencil
