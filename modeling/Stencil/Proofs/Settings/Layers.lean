import Mathlib.Data.List.Forall2
import Mathlib.Data.List.Induction
import Stencil.Proofs.Settings.Merging
import Stencil.Settings.Config

/-!
Settings merged layer by layer, the lowest in rank first. What is held at a chain of names at the
end is what the highest layer that touches the chain holds there. The configuration of all sources
is merged in this way.
-/

namespace Stencil.Settings

/-! ## Layers -/

/-- The layers merged over each other, the highest in rank last. -/
def mergeAll (layers : List Table) : Table := layers.foldl merge []

theorem mergeAll_concat (layers : List Table) (last : Table) :
    mergeAll (layers ++ [last]) = merge (mergeAll layers) last :=
  List.foldl_concat merge [] last layers

/-- Of the layers that touch the chain, the highest holds the value there. -/
def Decides (layers : List Table) (path : List String) (value : Value) : Prop :=
  ∃ lower layer higher, layers = lower ++ layer :: higher ∧
    valueAt? (.table layer) path = some value ∧ ∀ other ∈ higher, ¬ Touches other path

section Decides

variable {layers : List Table} {last : Table} {path : List String} {value : Value}

theorem decides_concat_of_touches (touches : Touches last path) :
    Decides (layers ++ [last]) path value ↔ valueAt? (.table last) path = some value := by
  constructor
  · intro ⟨lower, layer, higher, split, held, free⟩
    rcases List.eq_nil_or_concat higher with rfl | ⟨between, top, rfl⟩
    · cases (List.append_inj' split rfl).2
      exact held
    · rw [List.concat_eq_append, ← List.cons_append, ← List.append_assoc] at split
      cases (List.append_inj' split rfl).2
      exact absurd touches (free last (by simp))
  · intro held
    exact ⟨layers, last, [], rfl, held, fun _ member => nomatch member⟩

theorem decides_concat_of_not_touches (free : ¬ Touches last path) :
    Decides (layers ++ [last]) path value ↔ Decides layers path value := by
  constructor
  · intro ⟨lower, layer, higher, split, held, others⟩
    rcases List.eq_nil_or_concat higher with rfl | ⟨between, top, rfl⟩
    · cases (List.append_inj' split rfl).2
      exact absurd (touches_of_valueAt? held) free
    · rw [List.concat_eq_append] at split others
      rw [← List.cons_append, ← List.append_assoc] at split
      refine ⟨lower, layer, between, (List.append_inj' split rfl).1, held, ?_⟩
      exact fun other member => others other (List.mem_append_left _ member)
  · intro ⟨lower, layer, higher, split, held, others⟩
    refine ⟨lower, layer, higher ++ [last], by simp [split], held, ?_⟩
    intro other member
    rcases List.mem_append.mp member with below | top
    · exact others other below
    · cases List.mem_singleton.mp top
      exact free

theorem valueAt?_mergeAll_iff (keyed : ∀ layer ∈ layers, IsKeyed layer)
    (leaf : value.isTable = false) :
    valueAt? (.table (mergeAll layers)) path = some value ↔ Decides layers path value := by
  induction layers using List.reverseRecOn with
  | nil =>
      constructor
      · intro held
        cases path with
        | nil =>
            cases held
            cases leaf
        | cons name later => cases held
      · intro ⟨lower, layer, higher, split, _⟩
        cases lower <;> cases split
  | append_singleton layers last induction =>
      have lastKeyed := keyed last (by simp)
      have below := induction fun layer member => keyed layer (List.mem_append_left _ member)
      rw [mergeAll_concat]
      by_cases touches : Touches last path
      · rw [valueAt?_merge_of_touches lastKeyed touches leaf, decides_concat_of_touches touches]
      · rw [valueAt?_merge_of_not_touches lastKeyed touches, below,
          decides_concat_of_not_touches touches]

end Decides

/-! ## The configuration of all sources -/

theorem bind_eq_ok {ε α β : Type} {first : Except ε α} {next : α → Except ε β} {value : β} :
    (first >>= next) = .ok value ↔ ∃ given, first = .ok given ∧ next given = .ok value := by
  cases first with
  | error error =>
      constructor
      · intro absurdity
        cases absurdity
      · intro ⟨_, absurdity, _⟩
        cases absurdity
  | ok given =>
      constructor
      · intro ended
        exact ⟨given, rfl, ended⟩
      · intro ⟨_, same, ended⟩
        cases same
        exact ended

theorem bind_eq_error {ε α β : Type} {first : Except ε α} {next : α → Except ε β} {error : ε} :
    (first >>= next) = .error error ↔
      first = .error error ∨ ∃ given, first = .ok given ∧ next given = .error error := by
  cases first <;> simp [bind, Except.bind]

theorem mapError_eq_error {ε δ α : Type} {result : Except ε α} {widen : ε → δ} {error : δ} :
    result.mapError widen = .error error ↔ ∃ other, result = .error other ∧ widen other = error := by
  cases result <;> simp [Except.mapError]

theorem mapError_eq_ok {ε δ α : Type} {result : Except ε α} {widen : ε → δ} {value : α} :
    result.mapError widen = .ok value ↔ result = .ok value := by
  cases result <;> simp [Except.mapError]

theorem map_eq_error {ε α β : Type} {result : Except ε α} {change : α → β} {error : ε} :
    result.map change = .error error ↔ result = .error error := by
  cases result <;> simp [Except.map]

theorem map_eq_ok {ε α β : Type} {result : Except ε α} {change : α → β} {value : β} :
    result.map change = .ok value ↔ ∃ given, result = .ok given ∧ change given = value := by
  cases result <;> simp [Except.map]

namespace Config

variable {surroundings : Surroundings} {config : Config}

theorem ofMerged_eq_ok {data : Table} {sources : List Source}
    (made : ofMerged data sources = .ok config) :
    config.data = data ∧ config.sources = sources ∧
      TypedSettings.read config.data = .ok config.typed := by
  rw [ofMerged] at made
  split at made
  · rename_i typed read
    cases made
    exact ⟨rfl, rfl, read⟩
  · cases made

/-- Filling the sources merges what they are filled with. -/
theorem fillAll_eq_ok {merged data : Table} {sources filled : List Source}
    (ended : fillAll surroundings merged sources = .ok (filled, data)) :
    List.Forall₂ (fun source given => fill surroundings source = .ok given) sources filled ∧
      data = (filled.map Source.values).foldl merge merged := by
  induction sources generalizing merged filled with
  | nil =>
      cases ended
      exact ⟨.nil, rfl⟩
  | cons source higher induction =>
      rcases bind_eq_ok.mp ended with ⟨given, first, ended⟩
      rcases bind_eq_ok.mp ended with ⟨⟨later, result⟩, others, same⟩
      cases same
      rcases induction others with ⟨each, merges⟩
      exact ⟨.cons first each, merges⟩

/-- The sources of a configuration, the highest in rank first, and their settings as layers. -/
theorem load_eq_ok {request : Request} (loaded : load surroundings request = .ok config) :
    List.Forall₂ (fun source given => fill surroundings source = .ok given)
        (discover surroundings request) config.sources ∧
      config.data = mergeAll (config.sources.reverse.map Source.values) ∧
      TypedSettings.read config.data = .ok config.typed := by
  rcases bind_eq_ok.mp loaded with ⟨⟨filled, data⟩, ended, loaded⟩
  rcases bind_eq_ok.mp loaded with ⟨_, _, made⟩
  rcases fillAll_eq_ok ended with ⟨each, merges⟩
  rcases ofMerged_eq_ok made with ⟨same, sources, read⟩
  rw [← List.reverse_reverse filled, List.forall₂_reverse_iff] at each
  rw [sources, List.reverse_reverse, same]
  exact ⟨each, merges, same ▸ read⟩

end Config

/-- The highest layer that touches a chain of names decides what is held there, lists being values
as a whole; a table merged with nothing or with itself stays as it is; and the configuration of all
sources is that of their values as layers. -/
theorem mergeAll_layers (layers : List Table) (keyed : ∀ layer ∈ layers, IsKeyed layer) :
    (∀ path value, value.isTable = false →
      (valueAt? (.table (mergeAll layers)) path = some value ↔ Decides layers path value)) ∧
    (∀ layer ∈ layers, merge layer [] = layer ∧ merge [] layer = layer ∧
      merge layer layer = layer) ∧
    ∀ surroundings request config, Config.load surroundings request = .ok config →
      config.data = mergeAll (config.sources.reverse.map Source.values) := by
  refine ⟨?_, ?_, ?_⟩
  · intro path value leaf
    exact valueAt?_mergeAll_iff keyed leaf
  · intro layer member
    have layerKeyed := keyed layer member
    exact ⟨merge_nil layer, nil_merge (isKeyed_iff.mp layerKeyed).1, merge_self layer layerKeyed⟩
  · intro surroundings request config loaded
    exact (Config.load_eq_ok loaded).2.1

/-- A text in the middle hides the section below it, and a section above replaces the text. -/
def shadowedLayers : List Table := [
  [("compile", .table [("minify", .bool true), ("exclude", .list [.text "*.md", .text "*.txt"])])],
  [("compile", .text "off")],
  [("compile", .table [("exclude", .list [.text "*.bak"])])]]

theorem shadowedLayers_isKeyed : ∀ layer ∈ shadowedLayers, IsKeyed layer := by
  intro layer member
  have leaf {value : Value} (leaf : value.isTable = false) (inner : Table)
      (equal : value = .table inner) : IsKeyed inner := by
    subst equal
    cases leaf
  simp only [shadowedLayers, List.mem_cons, List.not_mem_nil, or_false] at member
  rcases member with rfl | rfl | rfl
  · apply isKeyed_nil.set "compile"
    intro inner equal
    cases equal
    exact (isKeyed_nil.set "minify" (leaf rfl)).set "exclude" (leaf rfl)
  · exact isKeyed_nil.set "compile" (leaf rfl)
  · apply isKeyed_nil.set "compile"
    intro inner equal
    cases equal
    exact isKeyed_nil.set "exclude" (leaf rfl)

theorem mergeAll_shadowedLayers :
    (∀ layer ∈ shadowedLayers, IsKeyed layer) ∧
      valueAt? (.table (mergeAll shadowedLayers)) ["compile", "exclude"] =
        some (.list [.text "*.bak"]) ∧
      ¬ Decides shadowedLayers ["compile", "minify"] (.bool true) ∧
      merge [("compile", .text "off")] [("compile", .text "off")] = [("compile", .text "off")] ∧
      ∃ config, Config.load ⟨⟨.directory [], []⟩, []⟩ {} = .ok config ∧
        config.data = mergeAll (config.sources.reverse.map Source.values) := by
  rcases mergeAll_layers shadowedLayers shadowedLayers_isKeyed with ⟨decides, same, loads⟩
  refine ⟨shadowedLayers_isKeyed, ?_, ?_, ?_, ?_⟩
  · apply (decides ["compile", "exclude"] _ rfl).mpr
    exact ⟨shadowedLayers.take 2, [("compile", .table [("exclude", .list [.text "*.bak"])])], [],
      rfl, rfl, fun _ member => nomatch member⟩
  · intro holds
    cases (decides ["compile", "minify"] (.bool true) rfl).mpr holds
  · exact (same [("compile", .text "off")] (by simp [shadowedLayers])).2.2
  · have succeeds : (Config.load ⟨⟨.directory [], []⟩, []⟩ {}).toOption.isSome = true := rfl
    cases loaded : Config.load ⟨⟨.directory [], []⟩, []⟩ {} with
    | error error =>
        rw [loaded] at succeeds
        cases succeeds
    | ok config => exact ⟨config, rfl, loads _ _ _ loaded⟩

end Stencil.Settings
