import Stencil.ClassSource.Row

/-!
Lines and the blocks that they make by the columns where they begin. A line belongs to the block
of the nearest line before it that begins further left. Blocks that are laid out with any margin
are read back as they were.
-/

namespace Stencil

/-! ## Cutting -/

theorem splitAt_of_notMem {separator : Char} {text : List Char} (clean : separator ∉ text) :
    splitAt separator text = [text] := by
  induction text with
  | nil => rfl
  | cons c rest induction =>
      have different : (c == separator) = false := by
        simpa using fun equal : c = separator => clean (equal ▸ List.mem_cons_self)
      have later := induction fun member => clean (List.mem_cons_of_mem _ member)
      simp [splitAt, different, later, extendFirst]

theorem splitAt_append {separator : Char} {piece : List Char} (clean : separator ∉ piece)
    (rest : List Char) :
    splitAt separator (piece ++ separator :: rest) = piece :: splitAt separator rest := by
  induction piece with
  | nil => simp [splitAt]
  | cons c piece induction =>
      have different : (c == separator) = false := by
        simpa using fun equal : c = separator => clean (equal ▸ List.mem_cons_self)
      have later := induction fun member => clean (List.mem_cons_of_mem _ member)
      simp [splitAt, different, later, extendFirst]

theorem splitAt_flatMap {separator : Char} (first : List Char) (pieces : List (List Char))
    (clean : ∀ piece ∈ first :: pieces, separator ∉ piece) :
    splitAt separator (first ++ pieces.flatMap (separator :: ·)) = first :: pieces := by
  induction pieces generalizing first with
  | nil => simpa using splitAt_of_notMem (clean first List.mem_cons_self)
  | cons piece pieces induction =>
      rw [List.flatMap_cons, List.cons_append, splitAt_append (clean first List.mem_cons_self),
        induction piece fun other member => clean other (List.mem_cons_of_mem _ member)]

theorem toList_joinTexts (separator first : String) (later : List String) :
    (joinTexts separator (first :: later)).toList =
      first.toList ++ later.flatMap fun text => separator.toList ++ text.toList := by
  induction later generalizing first with
  | nil => simp [joinTexts, String.intercalate_singleton]
  | cons second later induction =>
      have step : joinTexts separator (first :: second :: later) =
          first ++ separator ++ joinTexts separator (second :: later) :=
        String.intercalate_cons_of_ne_nil (List.cons_ne_nil second later)
      simp [step, induction]

/-! ## Blocks -/

namespace Source

/-- A line with the lines that belong to it. -/
inductive Block (α : Type) where
  | node (head : α) (body : List (Block α))

mutual

/-- The lines of a block whose first one begins at `column`. -/
def Block.lines {α : Type} (column : Nat) : Block α → List (Nat × α)
  | .node head body => (column, head) :: linesOf (column + 4) body

/-- The lines of blocks one after the other. -/
def linesOf {α : Type} (column : Nat) : List (Block α) → List (Nat × α)
  | [] => []
  | block :: later => block.lines column ++ linesOf column later

end

/-- Reads lines as blocks that all begin at `column`. -/
def blocks? {α : Type} (column : Nat) : List (Nat × α) → Option (List (Block α))
  | [] => some []
  | (place, head) :: rest =>
      if place ≠ column then none
      else
        let inner := rest.takeWhile (column < ·.1)
        let later := rest.dropWhile (column < ·.1)
        match blocks? ((inner.head?.map (·.1)).getD 0) inner, blocks? column later with
        | some body, some blocks => some (.node head body :: blocks)
        | _, _ => none
termination_by lines => lines.length
decreasing_by
  · exact Nat.lt_succ_of_le (List.takeWhile_sublist _).length_le
  · exact Nat.lt_succ_of_le (List.dropWhile_sublist _).length_le

variable {α : Type}

theorem linesOf_append (column : Nat) (first second : List (Block α)) :
    linesOf column (first ++ second) = linesOf column first ++ linesOf column second := by
  induction first with
  | nil => simp [linesOf]
  | cons block first induction => simp [linesOf, induction]

theorem linesOf_leaves {β : Type} (column : Nat) (items : List β) (head : β → α) :
    linesOf column (items.map fun item => .node (head item) []) =
      items.map fun item => (column, head item) := by
  induction items with
  | nil => rw [List.map_nil, linesOf, List.map_nil]
  | cons item items induction => simp [linesOf, Block.lines, induction]

mutual

theorem Block.column_le {column : Nat} {line : Nat × α} : (block : Block α) →
    line ∈ block.lines column → column ≤ line.1
  | .node head body, member => by
      rw [Block.lines] at member
      rcases List.mem_cons.mp member with equal | member
      · exact equal ▸ Nat.le_refl column
      · have further := column_le_of_mem_linesOf body member
        omega

theorem column_le_of_mem_linesOf {column : Nat} {line : Nat × α} : (blocks : List (Block α)) →
    line ∈ linesOf column blocks → column ≤ line.1
  | [], member => by simp [linesOf] at member
  | block :: later, member => by
      rw [linesOf] at member
      rcases List.mem_append.mp member with first | others
      · exact block.column_le first
      · exact column_le_of_mem_linesOf later others

end

theorem head?_linesOf (column : Nat) (block : Block α) (later : List (Block α)) :
    ∃ head, (linesOf column (block :: later)).head? = some (column, head) := by
  cases block with
  | node head body => exact ⟨head, by simp [linesOf, Block.lines]⟩

/-- The lines of a body end where a line begins that is not further right. -/
theorem span_linesOf (column : Nat) (body later : List (Block α)) :
    (linesOf (column + 4) body ++ linesOf column later).takeWhile (column < ·.1) =
        linesOf (column + 4) body ∧
      (linesOf (column + 4) body ++ linesOf column later).dropWhile (column < ·.1) =
        linesOf column later := by
  have inside : ∀ line ∈ linesOf (column + 4) body, decide (column < line.1) = true := by
    intro line member
    have further := column_le_of_mem_linesOf body member
    exact decide_eq_true (by omega)
  rw [List.takeWhile_append_of_pos inside, List.dropWhile_append_of_pos inside]
  cases later with
  | nil => simp [linesOf]
  | cons block later =>
      rcases head?_linesOf column block later with ⟨head, begins⟩
      rcases List.head?_eq_some_iff.mp begins with ⟨rest, equal⟩
      simp [equal]

theorem blocks?_linesOf (column : Nat) : (blocks : List (Block α)) →
    blocks? column (linesOf column blocks) = some blocks
  | [] => by simp [linesOf, blocks?]
  | .node head body :: later => by
      have span := span_linesOf column body later
      have inner : blocks? (((linesOf (column + 4) body).head?.map (·.1)).getD 0)
          (linesOf (column + 4) body) = some body := by
        cases body with
        | nil => simp [linesOf, blocks?]
        | cons block others =>
            rcases head?_linesOf (column + 4) block others with ⟨first, begins⟩
            rw [begins]
            exact blocks?_linesOf (column + 4) (block :: others)
      rw [linesOf, Block.lines, List.cons_append, blocks?]
      simp [span, inner, blocks?_linesOf column later]

end Source

end Stencil
