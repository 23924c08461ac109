import Scaffold.Template.Basic

/-!
# Templates whose variables are there

A template is rendered without a fault if all variables that any of its choices may look at have a
value, and those that it writes as imports have items.
-/

set_option autoImplicit false

namespace Scaffold

/-- The variables that a condition may look at. -/
def Condition.variableNames : Condition → List String
  | .holds name => [name]
  | .is name _ => [name]
  | .either first second => first.variableNames ++ second.variableNames
  | .both first second => first.variableNames ++ second.variableNames

namespace Template

mutual

/-- The variables that a piece may look at, whichever way its choices go. -/
def pieceVariableNames : Piece → List String
  | .rows _ => []
  | .text _ => []
  | .value name => [name]
  | .imports name => [name]
  | .choice condition holding otherwise =>
    condition.variableNames ++ (variableNames holding ++ variableNames otherwise)

def variableNames : List Piece → List String
  | [] => []
  | piece :: pieces => pieceVariableNames piece ++ variableNames pieces

end

mutual

/-- The variables that a piece may write as imports. -/
def pieceImported : Piece → List String
  | .rows _ => []
  | .text _ => []
  | .value _ => []
  | .imports name => [name]
  | .choice _ holding otherwise => imported holding ++ imported otherwise

def imported : List Piece → List String
  | [] => []
  | piece :: pieces => pieceImported piece ++ imported pieces

end

/-- Whether a context gives a value to each of some variables, and one with items to each of some
others. -/
structure Binds (context : Fields) (names imports : List String) : Prop where
  bound : ∀ name ∈ names, (context.get? name).isSome
  listed : ∀ name ∈ imports, ∃ value items, context.get? name = some value ∧
    value.items? = some items

variable {context : Fields}

namespace Binds

variable {names fewer imports fewerImports : List String}

theorem of_subset (binds : Binds context names imports) (among : fewer ⊆ names)
    (importsAmong : fewerImports ⊆ imports) : Binds context fewer fewerImports :=
  ⟨fun name member => binds.bound name (among member),
    fun name member => binds.listed name (importsAmong member)⟩

theorem exists_variableOf (binds : Binds context names imports) {name : String}
    (member : name ∈ names) : ∃ value, variableOf context name = .ok value := by
  obtain ⟨value, found⟩ := Option.isSome_iff_exists.1 (binds.bound name member)
  exact ⟨value, by rw [variableOf, found]⟩

theorem exists_isMet {condition : Condition} (binds : Binds context condition.variableNames imports) :
    ∃ holds, isMet context condition = .ok holds := by
  induction condition with
  | holds name =>
    obtain ⟨value, found⟩ := binds.exists_variableOf (List.mem_singleton_self name)
    exact ⟨value.holds, by rw [isMet, found]; rfl⟩
  | is name text =>
    obtain ⟨value, found⟩ := binds.exists_variableOf (List.mem_singleton_self name)
    exact ⟨value.isText text, by rw [isMet, found]; rfl⟩
  | either first second ihFirst ihSecond =>
    obtain ⟨holdsFirst, metFirst⟩ :=
      ihFirst (binds.of_subset (List.subset_append_left _ _) (List.Subset.refl _))
    obtain ⟨holdsSecond, metSecond⟩ :=
      ihSecond (binds.of_subset (List.subset_append_right _ _) (List.Subset.refl _))
    refine ⟨holdsFirst || holdsSecond, ?_⟩
    rw [isMet, metFirst, metSecond]
    cases holdsFirst <;> rfl
  | both first second ihFirst ihSecond =>
    obtain ⟨holdsFirst, metFirst⟩ :=
      ihFirst (binds.of_subset (List.subset_append_left _ _) (List.Subset.refl _))
    obtain ⟨holdsSecond, metSecond⟩ :=
      ihSecond (binds.of_subset (List.subset_append_right _ _) (List.Subset.refl _))
    refine ⟨holdsFirst && holdsSecond, ?_⟩
    rw [isMet, metFirst, metSecond]
    cases holdsFirst <;> rfl

end Binds

/-! ## The text of single values -/

theorem renderPiece_value_of_get? {name : String} {value : Value}
    (found : context.get? name = some value) :
    renderPiece context (.value name) = .ok value.display := by
  rw [renderPiece, variableOf, found]
  rfl

/-- A list of names is written as the import lines of the names, one under the other. -/
theorem importLines_list (names : List String) :
    importLines (.list (names.map .text)) = .ok ("\n".intercalate (names.map importLine)) := by
  simp only [importLines, Value.items?, List.map_map]
  rfl

theorem renderPiece_imports_of_get? {name : String} {names : List String}
    (found : context.get? name = some (.list (names.map .text))) :
    renderPiece context (.imports name) = .ok ("\n".intercalate (names.map importLine)) := by
  rw [renderPiece, variableOf, found]
  exact importLines_list names

/-! ## The text of several pieces -/

theorem exists_of_renderPieces_cons {piece : Piece} {back : List Piece} {text : String}
    (rendered : renderPieces context (piece :: back) = .ok text) :
    ∃ first rest, renderPiece context piece = .ok first ∧ renderPieces context back = .ok rest ∧
      text = first ++ rest := by
  rw [renderPieces] at rendered
  cases first : renderPiece context piece with
  | error fault =>
    rw [first] at rendered
    cases rendered
  | ok front =>
    cases rest : renderPieces context back with
    | error fault =>
      rw [first, rest] at rendered
      cases rendered
    | ok below =>
      rw [first, rest] at rendered
      cases rendered
      exact ⟨front, below, rfl, rfl, rfl⟩

theorem exists_of_renderPieces_append {front back : List Piece} {text : String}
    (rendered : renderPieces context (front ++ back) = .ok text) :
    ∃ first rest, renderPieces context front = .ok first ∧ renderPieces context back = .ok rest ∧
      text = first ++ rest := by
  induction front generalizing text with
  | nil => exact ⟨"", text, rfl, rendered, (String.empty_append).symm⟩
  | cons piece front ih =>
    obtain ⟨first, others, renderedFirst, renderedOthers, rfl⟩ :=
      exists_of_renderPieces_cons rendered
    obtain ⟨middle, rest, renderedMiddle, renderedRest, rfl⟩ := ih renderedOthers
    refine ⟨first ++ middle, rest, ?_, renderedRest, String.append_assoc.symm⟩
    rw [renderPieces, renderedFirst, renderedMiddle]
    rfl

/-! ## Templates that are rendered -/

mutual

theorem exists_renderPiece : ∀ piece : Piece,
    Binds context (pieceVariableNames piece) (pieceImported piece) →
      ∃ text, renderPiece context piece = .ok text
  | .rows rows, _ => ⟨_, rfl⟩
  | .text content, _ => ⟨_, rfl⟩
  | .value name, binds => by
    obtain ⟨value, found⟩ := binds.exists_variableOf (List.mem_singleton_self name)
    exact ⟨value.display, by rw [renderPiece, found]; rfl⟩
  | .imports name, binds => by
    obtain ⟨value, items, found, listed⟩ := binds.listed name (List.mem_singleton_self name)
    rw [renderPiece, variableOf, found]
    exact ⟨_, by simp only [bind, Except.bind, importLines, listed]; rfl⟩
  | .choice condition holding otherwise, binds => by
    have conditionBinds : Binds context condition.variableNames _ :=
      binds.of_subset (List.subset_append_left _ _) (List.Subset.refl _)
    obtain ⟨holds, met⟩ := conditionBinds.exists_isMet
    rw [renderPiece, met]
    -- Only one branch is rendered, but the variables of both are there.
    cases holds with
    | true =>
      exact exists_renderPieces holding <| binds.of_subset
        (List.subset_append_of_subset_right _ (List.subset_append_left _ _))
        (List.subset_append_left _ _)
    | false =>
      exact exists_renderPieces otherwise <| binds.of_subset
        (List.subset_append_of_subset_right _ (List.subset_append_right _ _))
        (List.subset_append_right _ _)

theorem exists_renderPieces : ∀ pieces : List Piece,
    Binds context (variableNames pieces) (imported pieces) →
      ∃ text, renderPieces context pieces = .ok text
  | [], _ => ⟨"", rfl⟩
  | piece :: pieces, binds => by
    obtain ⟨first, renderedFirst⟩ := exists_renderPiece piece <|
      binds.of_subset (List.subset_append_left _ _) (List.subset_append_left _ _)
    obtain ⟨rest, renderedRest⟩ := exists_renderPieces pieces <|
      binds.of_subset (List.subset_append_right _ _) (List.subset_append_right _ _)
    exact ⟨first ++ rest, by rw [renderPieces, renderedFirst, renderedRest]; rfl⟩

end

/-- A template whose variables are all there is rendered. -/
theorem exists_render {template : Template}
    (binds : Binds context (variableNames template) (imported template)) :
    ∃ text, template.render context = .ok text :=
  exists_renderPieces template binds

end Template

end Scaffold
