import Stencil.Conversion
import Stencil.Proofs.ClassSource.Literal
import Stencil.Proofs.ClassSource.Statement

/-!
Generated source read back. A class counts only if its slots, its annotations, the parameters of
its constructor, what that stores and what its rendering fetches all are about the same fields in
the same order. The source of a template is read back as the template with its names quoted.
-/

namespace Stencil

namespace Source

/-! ## Lines -/

/-- The column where a line begins, and the line from there. -/
def lineOf (text : List Char) : Nat × List Char :=
  ((text.takeWhile (· == ' ')).length, text.dropWhile (· == ' '))

/-- The lines of a source that are not blank. -/
def textLines (lines : List (List Char)) : List (Nat × List Char) :=
  (lines.map lineOf).filter (!·.2.isEmpty)

def statements? (source : String) : Option (List (Nat × Statement)) :=
  (textLines (splitAt '\n' source.toList)).mapM fun (column, text) =>
    (statement? text).map (column, ·)

/-! ## Classes -/

def isDeclaration : Block Statement → Bool
  | .node (.declaration _) _ => true
  | _ => false

def declared? : Block Statement → Option Declaration
  | .node (.declaration declaration) [] => some declaration
  | _ => none

def stored? : Block Statement → Option (List Char × List Char)
  | .node (.store slot value) [] => some (slot, value)
  | _ => none

def fetched? : Block Statement → Option (List Char × List Char)
  | .node (.fetch value slot) [] => some (value, slot)
  | _ => none

/-- What a constructor stores. -/
def constructor? : List (Block Statement) → Option (List (List Char × List Char))
  | [] => none
  | [.node .pass []] => some []
  | body => body.mapM stored?

/-- What rendering fetches, and the text of its literal. -/
def renderer? (body : List (Block Statement)) :
    Option (List (List Char × List Char) × List Char) :=
  match body.getLast? with
  | some (.node (.result ('f' :: quoted)) []) =>
      match body.dropLast.mapM fetched?, Quoted.decode? quoted with
      | some fetched, some text => some (fetched, text)
      | _, _ => none
  | _ => none

/-- The class of a template with this body. -/
def template? (name : List Char) (body : List (Block Statement)) : Option TemplateClass :=
  match body with
  | .node (.slots slots) [] :: rest =>
      match rest.dropWhile isDeclaration with
      | [.node (.constructor parameters) inner, .node .renderer bound] =>
          match (rest.takeWhile isDeclaration).mapM declared?, constructor? inner,
              renderer? bound with
          | some declared, some stored, some (fetched, text) =>
              let names := parameters.map (·.name)
              let pairs := names.map fun name => (name, name)
              if slots = names ∧ declared = parameters ∧ stored = pairs ∧ fetched = pairs then
                some {
                  name := .ofList name
                  fields := parameters.map fun parameter =>
                    ⟨.ofList parameter.name, .ofList parameter.type⟩
                  body := .ofList text }
              else none
          | _, _, _ => none
      | _ => none
  | _ => none

mutual

/-- The class of a block: that of a template, or a scope with its name. -/
def member? : Block Statement → Option (TemplateClass ⊕ (String × Scope))
  | .node (.classOf name) body =>
      match template? name body with
      | some template => some (.inl template)
      | none =>
          (members? body).map fun (types, children) =>
            .inr (.ofList name, ⟨some (.ofList name), types, children⟩)
  | _ => none

/-- The classes of blocks, those of templates before the scopes. A class with nothing in it holds
a statement that does nothing. -/
def members? : List (Block Statement) → Option (List TemplateClass × List (String × Scope))
  | [] => some ([], [])
  | .node .pass [] :: later => if later.isEmpty then some ([], []) else none
  | block :: later =>
      match member? block, members? later with
      | some (.inl template), some (types, children) => some (template :: types, children)
      | some (.inr child), some ([], children) => some ([], child :: children)
      | _, _ => none

end

/-- The tree of scopes that a source holds. -/
def module? (source : String) : Option Scope :=
  match (statements? source).bind (blocks? 0) with
  | some (.node .note [] :: .node .futureImport [] :: blocks) =>
      (members? blocks).map fun (types, children) => ⟨none, types, children⟩
  | _ => none

/-! ## Rows as they are written -/

/-- Rows that read as these statements at these columns; empty rows say nothing. -/
inductive Spells : List Row → List (Nat × Statement) → Prop where
  | nil : Spells [] []
  | empty {row : Row} {rows : List Row} {lines : List (Nat × Statement)} (written : row.text = "")
      (later : Spells rows lines) : Spells (row :: rows) lines
  | line {row : Row} {rows : List Row} {lines : List (Nat × Statement)} {column : Nat}
      {text : List Char} {statement : Statement}
      (written : row.text.toList = List.replicate column ' ' ++ text)
      (begins : text.head? ≠ some ' ') (single : IsOneLine text)
      (read : statement? text = some statement) (later : Spells rows lines) :
      Spells (row :: rows) ((column, statement) :: lines)

def rowTexts (rows : List Row) : List (List Char) := rows.map (·.text.toList)

@[simp] theorem rowTexts_cons (row : Row) (rows : List Row) :
    rowTexts (row :: rows) = row.text.toList :: rowTexts rows := rfl

theorem lineOf_replicate {column : Nat} {text : List Char} (begins : text.head? ≠ some ' ') :
    lineOf (List.replicate column ' ' ++ text) = (column, text) := by
  have margin : ∀ c ∈ List.replicate column ' ', (c == ' ') = true := by simp
  rw [lineOf, List.takeWhile_append_of_pos margin, List.dropWhile_append_of_pos margin]
  cases text with
  | nil => simp
  | cons c rest =>
      have different : (c == ' ') = false := by simpa using begins
      simp [different]

/-- The lines of a source are the texts of its rows, and an empty one after the last line feed. -/
theorem splitAt_source {row : Row} {rows : List Row}
    (clean : ∀ text ∈ rowTexts (row :: rows), '\n' ∉ text) :
    splitAt '\n' (Row.source (row :: rows) ++ "\n").toList = rowTexts (row :: rows) ++ [[]] := by
  have cleanToo : ∀ text ∈ row.text.toList :: (rowTexts rows ++ [[]]), '\n' ∉ text := by
    intro text member
    rcases List.mem_append.mp (List.cons_append ▸ member) with written | last
    · exact clean text written
    · rw [List.mem_singleton.mp last]
      exact List.not_mem_nil
  have joined : (Row.source (row :: rows) ++ "\n").toList =
      row.text.toList ++ (rowTexts rows ++ [[]]).flatMap ('\n' :: ·) := by
    simp [Row.source, toList_joinTexts, rowTexts, List.flatMap_map]
  rw [joined, splitAt_flatMap _ _ cleanToo]
  rfl

namespace Spells

variable {rows others : List Row} {lines further : List (Nat × Statement)}

theorem blank (later : Spells rows lines) : Spells (Row.blank :: rows) lines := .empty rfl later

theorem append (first : Spells rows lines) (second : Spells others further) :
    Spells (rows ++ others) (lines ++ further) := by
  induction first with
  | nil => exact second
  | empty written _ induction => exact .empty written induction
  | line written begins single read _ induction =>
      exact .line written begins single read induction

theorem notMem (spelled : Spells rows lines) : ∀ text ∈ rowTexts rows, '\n' ∉ text := by
  induction spelled with
  | nil => simp [rowTexts]
  | empty written _ induction =>
      rw [rowTexts_cons, written]
      exact List.forall_mem_cons.mpr ⟨List.not_mem_nil, induction⟩
  | line written _ single _ _ induction =>
      rw [rowTexts_cons]
      refine List.forall_mem_cons.mpr ⟨?_, induction⟩
      rw [written]
      simp [single.feed_notMem]

theorem mapM_textLines (spelled : Spells rows lines) :
    (textLines (rowTexts rows ++ [[]])).mapM
        (fun (column, text) => (statement? text).map (column, ·)) = some lines := by
  induction spelled with
  | nil => rfl
  | empty written _ induction =>
      rw [rowTexts_cons, written]
      exact induction
  | @line row rows lines column text statement written begins _ read _ induction =>
      have nonempty : text ≠ [] := by
        rintro rfl
        cases read
      have first : textLines (rowTexts (row :: rows) ++ [[]]) =
          (column, text) :: textLines (rowTexts rows ++ [[]]) := by
        simp [textLines, written, lineOf_replicate begins, nonempty]
      rw [first, List.mapM_cons, induction]
      simp [read]

/-- The source of rows reads as what they spell. -/
theorem statements?_source {row : Row} (spelled : Spells (row :: rows) lines) :
    statements? (Row.source (row :: rows) ++ "\n") = some lines := by
  rw [statements?, splitAt_source spelled.notMem]
  exact spelled.mapM_textLines

end Spells

/-! ## The class of a template -/

def declarationOf (field : Field) : Declaration :=
  ⟨(toIdentifier field.name).toList, field.type.toList⟩

@[simp] theorem declarationOf_name (field : Field) :
    (declarationOf field).name = (toIdentifier field.name).toList := by
  rw [declarationOf]

@[simp] theorem declarationOf_type (field : Field) :
    (declarationOf field).type = field.type.toList := by
  rw [declarationOf]

/-- A template whose types are words, as those of a header are. -/
def HasWordTypes (template : TemplateClass) : Prop :=
  ∀ field ∈ template.fields, IsWord field.type.toList

theorem isFit_toIdentifier (name : String) : Identifier.IsFit (toIdentifier name).toList := by
  rw [toIdentifier, String.toList_ofList]
  exact Identifier.quote_isFit name.toList

theorem isValid_of_isWord {fields : List Field}
    (types : ∀ field ∈ fields, IsWord field.type.toList) :
    ∀ declaration ∈ fields.map declarationOf, declaration.IsValid := by
  intro declaration member
  rcases List.mem_map.mp member with ⟨field, listed, rfl⟩
  constructor
  · rw [declarationOf_name]
    exact isFit_toIdentifier field.name
  · rw [declarationOf_type]
    exact types field listed

def constructorBody (declared : List Declaration) : List (Block Statement) :=
  if declared.isEmpty then [.node .pass []]
  else declared.map fun declaration => .node (.store declaration.name declaration.name) []

def rendererBody (declared : List Declaration) (literal : List Char) : List (Block Statement) :=
  (declared.map fun declaration => .node (.fetch declaration.name declaration.name) []) ++
    [.node (.result literal) []]

/-- The statements that the class of a template consists of. -/
def classBody (declared : List Declaration) (literal : List Char) : List (Block Statement) :=
  .node (.slots (declared.map (·.name))) [] ::
    (declared.map fun declaration => .node (.declaration declaration) []) ++
    [.node (.constructor declared) (constructorBody declared),
      .node .renderer (rendererBody declared literal)]

def classBlock (template : TemplateClass) : Block Statement :=
  .node (.classOf (toIdentifier template.name).toList)
    (classBody (template.fields.map declarationOf) (bodyLiteral template.body).toList)

/-- A template with its names quoted. -/
def quoted (template : TemplateClass) : TemplateClass where
  name := toIdentifier template.name
  fields := template.fields.map fun field => ⟨toIdentifier field.name, field.type⟩
  body := template.body

theorem constructor?_constructorBody (declared : List Declaration) :
    constructor? (constructorBody declared) =
      some (declared.map fun declaration => (declaration.name, declaration.name)) := by
  cases declared with
  | nil => rfl
  | cons first later =>
      have back : (constructorBody (first :: later)).mapM stored? =
          some ((first :: later).map fun declaration => (declaration.name, declaration.name)) :=
        mapM_map_eq_some fun _ _ => rfl
      exact back

theorem renderer?_rendererBody (declared : List Declaration) (body : String) :
    renderer? (rendererBody declared (bodyLiteral body).toList) =
      some (declared.map fun declaration => (declaration.name, declaration.name),
        body.toList) := by
  have literal : (bodyLiteral body).toList = 'f' :: Quoted.encode body.toList := by
    simp [bodyLiteral, Quoted.literal]
  have back : (declared.map fun declaration : Declaration =>
      Block.node (Statement.fetch declaration.name declaration.name) []).mapM fetched? =
        some (declared.map fun declaration => (declaration.name, declaration.name)) :=
    mapM_map_eq_some fun _ _ => rfl
  rw [renderer?, rendererBody, List.getLast?_concat, List.dropLast_concat, literal]
  simp only [back, Quoted.decode?_encode]

theorem template?_classBody (name : List Char) (declared : List Declaration) (body : String) :
    template? name (classBody declared (bodyLiteral body).toList) =
      some {
        name := .ofList name
        fields := declared.map fun declaration =>
          ⟨.ofList declaration.name, .ofList declaration.type⟩
        body } := by
  have declarations : ∀ block ∈ declared.map fun declaration =>
      Block.node (Statement.declaration declaration) [], isDeclaration block = true := by
    simp [isDeclaration]
  have back : (declared.map fun declaration =>
      Block.node (Statement.declaration declaration) []).mapM declared? = some declared :=
    mapM_map_eq_self fun _ _ => rfl
  rw [classBody, List.cons_append, template?, List.takeWhile_append_of_pos declarations,
    List.dropWhile_append_of_pos declarations]
  simp [isDeclaration, back, constructor?_constructorBody, renderer?_rendererBody]

/-- The block of a template is read as the template with its names quoted. -/
theorem member?_classBlock (template : TemplateClass) :
    member? (classBlock template) = some (.inl (quoted template)) := by
  rw [classBlock, member?, template?_classBody]
  simp [quoted, declarationOf]

/-! ## The rows of a class -/

namespace Spells

theorem toList_line (depth : Nat) (text : String) (words : List SourceWord) :
    (Row.line depth text words).text.toList = List.replicate (4 * depth) ' ' ++ text.toList := by
  have margins : (String.join (List.replicate depth Row.margin)).toList =
      List.replicate (4 * depth) ' ' := by
    induction depth with
    | zero => rfl
    | succ depth induction =>
        rw [List.replicate_succ, String.join_cons, String.toList_append, induction,
          Nat.mul_succ, Nat.add_comm, List.replicate_add]
        rfl
  rw [Row.line, String.toList_append, margins]

/-- One row that reads as a statement. -/
theorem row {depth : Nat} {text : String} {words : List SourceWord} {statement : Statement}
    {written : List Char} (same : text.toList = written) (begins : written.head? ≠ some ' ')
    (single : IsOneLine written) (read : statement? written = some statement) :
    Spells [Row.line depth text words] [(4 * depth, statement)] :=
  .line (by rw [toList_line, same]) begins single read .nil

theorem rows_map {α : Type} {items : List α} {write : α → Row} {line : α → Nat × Statement}
    (each : ∀ item ∈ items, Spells [write item] [line item]) :
    Spells (items.map write) (items.map line) := by
  induction items with
  | nil => exact .nil
  | cons item items induction =>
      exact (each item List.mem_cons_self).append
        (induction fun other member => each other (List.mem_cons_of_mem _ member))

end Spells

theorem head?_ne_blank {word : List Char} (isWord : IsWord word) (rest : List Char) :
    (word ++ rest).head? ≠ some ' ' := by
  rcases List.exists_cons_of_ne_nil isWord.nonempty with ⟨c, others, rfl⟩
  have word := isWord.words c List.mem_cons_self
  rintro equal
  cases equal
  exact absurd word (by decide)

section Rows

variable (words : List SourceWord)

theorem spells_class {name : String} (fit : Identifier.IsFit name.toList) :
    Spells [.line 0 s!"class {name}:" words] [(0, .classOf name.toList)] := by
  have isWord := isWord_of_isFit fit
  refine Spells.row ?_ ?_ ?_ (statement?_class isWord)
  · simp [toString]
  · simp
  · exact (IsOneLine.append (by decide) isWord.isOneLine).append (by decide)

theorem spells_slots {names : List String} (fit : ∀ name ∈ names, IsWord name.toList) :
    Spells [.line 1 ("__slots__ = " ++ slotsLiteral names) words]
      [(4, .slots (names.map String.toList))] := by
  have isWords : ∀ name ∈ names.map String.toList, IsWord name := by
    simpa using fit
  refine Spells.row ?_ ?_ ?_ (statement?_slots isWords)
  · rw [String.toList_append, toList_slotsLiteral]
    simp
  · simp
  · exact IsOneLine.append (by decide) ((isOneLine_tupleText isWords).append (by decide))

theorem spells_declaration {field : Field} (isType : IsWord field.type.toList) :
    Spells [.line 1 (EmittedField.ofField field).declaration words]
      [(4, .declaration (declarationOf field))] := by
  have isWord := isWord_of_isFit (isFit_toIdentifier field.name)
  refine Spells.row ?_ ?_ ?_ (statement?_declaration (isFit_toIdentifier field.name) isType)
  · simp [EmittedField.declaration, EmittedField.ofField]
  · rw [List.append_assoc]
    exact head?_ne_blank isWord _
  · exact (isWord.isOneLine.append (by decide)).append isType.isOneLine

theorem spells_store (field : Field) :
    Spells [.line 2 s!"self.{toIdentifier field.name} = {toIdentifier field.name}" words]
      [(8, .store (toIdentifier field.name).toList (toIdentifier field.name).toList)] := by
  have isWord := isWord_of_isFit (isFit_toIdentifier field.name)
  refine Spells.row ?_ ?_ ?_ (statement?_store isWord isWord)
  · simp [toString]
  · simp
  · exact ((IsOneLine.append (by decide) isWord.isOneLine).append (by decide)).append
      isWord.isOneLine

theorem spells_fetch (field : Field) :
    Spells [.line 2 s!"{toIdentifier field.name} = self.{toIdentifier field.name}" words]
      [(8, .fetch (toIdentifier field.name).toList (toIdentifier field.name).toList)] := by
  have fit := isFit_toIdentifier field.name
  have isWord := isWord_of_isFit fit
  refine Spells.row ?_ ?_ ?_ (statement?_fetch fit isWord)
  · simp [toString]
  · rw [List.append_assoc]
    exact head?_ne_blank isWord _
  · exact (isWord.isOneLine.append (by decide)).append isWord.isOneLine

theorem spells_result (body : String) :
    Spells [.line 2 ("return " ++ bodyLiteral body) words]
      [(8, .result (bodyLiteral body).toList)] := by
  have written : (bodyLiteral body).toList = ['f'] ++ Quoted.encode body.toList := by
    simp [bodyLiteral, Quoted.literal]
  have literal : IsOneLine (bodyLiteral body).toList := by
    rw [written]
    exact IsOneLine.append (by decide) (Quoted.isOneLine_encode body.toList)
  refine Spells.row ?_ ?_ ?_ (statement?_result (bodyLiteral body).toList)
  · simp
  · simp
  · exact IsOneLine.append (by decide) literal

theorem spells_fixed {depth : Nat} {text : String} {statement : Statement}
    (begins : text.toList.head? ≠ some ' ') (single : IsOneLine text.toList)
    (read : statement? text.toList = some statement) :
    Spells [.line depth text words] [(4 * depth, statement)] :=
  Spells.row rfl begins single read

end Rows

section Template

variable {fields : List Field}

theorem spells_attributes (types : ∀ field ∈ fields, IsWord field.type.toList) :
    Spells (attributeRows (fields.map EmittedField.ofField))
      (linesOf 4 ((fields.map declarationOf).map fun declaration =>
        .node (.declaration declaration) [])) := by
  rw [linesOf_leaves, List.map_map, attributeRows, List.map_map]
  cases fields with
  | nil => exact .nil
  | cons first later =>
      exact .blank (Spells.rows_map fun field member => spells_declaration _ (types field member))

theorem spells_constructor (types : ∀ field ∈ fields, IsWord field.type.toList) :
    Spells (constructorRows (fields.map EmittedField.ofField))
      ((Block.node (.constructor (fields.map declarationOf))
        (constructorBody (fields.map declarationOf))).lines 4) := by
  have valid := isValid_of_isWord types
  have head : Spells
      [.line 1 ("def __init__(self" ++ String.join ((fields.map EmittedField.ofField).map
        fun field => ", " ++ field.declaration) ++ ") -> None:")
        ((fields.map EmittedField.ofField).flatMap EmittedField.words)]
      [(4, .constructor (fields.map declarationOf))] := by
    have parameters : IsOneLine ((fields.map declarationOf).flatMap fun parameter =>
        ", ".toList ++ parameter.text) :=
      .flatMap fun parameter member =>
        IsOneLine.append (by decide) (valid parameter member).isOneLine
    refine Spells.row ?_ ?_ ?_ (statement?_constructor valid)
    · simp [String.toList_join, List.flatMap_map, EmittedField.declaration,
        EmittedField.ofField, Declaration.text, declarationOf]
    · simp
    · exact IsOneLine.append (by decide) (parameters.append (by decide))
  rw [Block.lines, constructorRows]
  apply head.append
  cases fields with
  | nil => exact spells_fixed _ (by decide) (by decide) statement?_pass
  | cons first later =>
      have stores : Spells ((first :: later).map fun field =>
          .line 2 s!"self.{toIdentifier field.name} = {toIdentifier field.name}"
            [.name (toIdentifier field.name)])
          ((first :: later).map fun field =>
            (8, .store (toIdentifier field.name).toList (toIdentifier field.name).toList)) :=
        Spells.rows_map fun field _ => spells_store _ field
      have body : linesOf 8 (constructorBody ((first :: later).map declarationOf)) =
          (first :: later).map fun field =>
            (8, .store (toIdentifier field.name).toList (toIdentifier field.name).toList) := by
        rw [constructorBody, if_neg (by simp), linesOf_leaves, List.map_map]
        simp only [Function.comp_def, declarationOf_name]
      rw [body, List.map_map]
      exact stores

theorem spells_renderer (fields : List Field) (body : String) :
    Spells (renderRows (fields.map EmittedField.ofField) body)
      ((Block.node .renderer
        (rendererBody (fields.map declarationOf) (bodyLiteral body).toList)).lines 4) := by
  have head : Spells [.line 1 "def render(self) -> str:"] [(4, .renderer)] :=
    spells_fixed _ (by decide) (by decide) statement?_renderer
  have fetches : Spells (fields.map fun field =>
      .line 2 s!"{toIdentifier field.name} = self.{toIdentifier field.name}"
        [.name (toIdentifier field.name)])
      (fields.map fun field =>
        (8, .fetch (toIdentifier field.name).toList (toIdentifier field.name).toList)) :=
    Spells.rows_map fun field _ => spells_fetch _ field
  rw [Block.lines, renderRows, rendererBody, linesOf_append, linesOf_leaves, List.map_map,
    List.map_map]
  simp only [Function.comp_def, declarationOf_name]
  exact (head.append fetches).append (spells_result _ body)

/-- The rows of a class spell its statements. -/
theorem spells_classRows {template : TemplateClass} (types : HasWordTypes template) :
    Spells (classRows template) ((classBlock template).lines 0) := by
  have head := spells_class [.name (toIdentifier template.name)]
    (isFit_toIdentifier template.name)
  have named : ∀ name ∈ template.fields.map fun field => toIdentifier field.name,
      IsWord name.toList := by
    intro name member
    rcases List.mem_map.mp member with ⟨field, _, rfl⟩
    exact isWord_of_isFit (isFit_toIdentifier field.name)
  have rows := ((head.append (spells_slots [] named)).append (spells_attributes types)).append
    ((Spells.nil.blank.append (spells_constructor types)).append
      (Spells.nil.blank.append (spells_renderer template.fields template.body)))
  have lines : (classBlock template).lines 0 =
      (0, .classOf (toIdentifier template.name).toList) ::
        (4, .slots ((template.fields.map declarationOf).map (·.name))) ::
        linesOf 4 ((template.fields.map declarationOf).map fun declaration =>
          .node (.declaration declaration) []) ++
        (Block.node (.constructor (template.fields.map declarationOf))
          (constructorBody (template.fields.map declarationOf))).lines 4 ++
        (Block.node .renderer (rendererBody (template.fields.map declarationOf)
          (bodyLiteral template.body).toList)).lines 4 := by
    simp [classBlock, classBody, Block.lines, linesOf, linesOf_append]
  rw [lines]
  simpa [classRows, declarationOf, EmittedField.ofField, Function.comp_def] using rows

end Template

/-! ## Modules -/

theorem spells_preamble :
    Spells preamble (linesOf 0 [.node .note [], .node .futureImport []]) := by
  have note : Spells [.line 0 "\"\"\"Generated by typedhtml. Do not edit.\"\"\""] [(0, .note)] :=
    spells_fixed _ (by decide) (by decide) (by decide +kernel)
  have futureImport : Spells [.line 0 "from __future__ import annotations"]
      [(0, .futureImport)] := spells_fixed _ (by decide) (by decide) (by decide +kernel)
  exact (note.append Spells.nil.blank).append futureImport

end Source

end Stencil
