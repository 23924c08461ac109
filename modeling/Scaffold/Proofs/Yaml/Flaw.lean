import Mathlib.Data.List.MinMax
import Scaffold.Yaml.Content

/-!
# The flaw that counts

All flaws of a document are listed in its order. Reading it fails if there are any, and then with
the first of those that are least deep.
-/

set_option autoImplicit false

namespace Scaffold.Yaml

/-- The flaw that counts among some, which is the first of the least deep. -/
def counted? (flaws : List Flaw) : Option Flaw :=
  flaws.argmin Flaw.depth

/-- Whether a result is the outcome of some flaws: the flaw that counts, or a value if there is
none. -/
def Gathers {α : Type} (flaws : List Flaw) : Except Flaw α → Prop
  | .ok _ => counted? flaws = none
  | .error flaw => counted? flaws = some flaw

section Gathers

variable {α β : Type} {flaws others : List Flaw} {flaw : Flaw}

theorem counted?_nil : counted? [] = none :=
  List.argmin_nil _

theorem counted?_singleton (flaw : Flaw) : counted? [flaw] = some flaw :=
  List.argmin_singleton

theorem counted?_cons (flaw : Flaw) (flaws : List Flaw) :
    counted? (flaw :: flaws) =
      match counted? flaws with
      | none => some flaw
      | some other => if other.depth < flaw.depth then some other else some flaw := by
  rw [counted?, List.argmin_cons]
  unfold counted?
  cases List.argmin Flaw.depth flaws <;> rfl

theorem counted?_append (flaws others : List Flaw) :
    counted? (flaws ++ others) =
      match counted? flaws, counted? others with
      | none, second => second
      | some first, none => some first
      | some first, some second =>
        if second.depth < first.depth then some second else some first := by
  induction flaws with
  | nil => rfl
  | cons flaw flaws ih =>
    rw [List.cons_append, counted?_cons, ih, counted?_cons]
    cases counted? flaws with
    | none => cases counted? others <;> rfl
    | some first =>
      cases counted? others with
      | none =>
        dsimp only
        split <;> rfl
      | some second =>
        by_cases below : second.depth < first.depth
        · by_cases belowAll : second.depth < flaw.depth
          · by_cases between : first.depth < flaw.depth <;> simp [below, belowAll, between]
          · have between : ¬first.depth < flaw.depth := by omega
            simp [below, belowAll, between]
        · by_cases between : first.depth < flaw.depth
          · simp [below, between]
          · have belowNone : ¬second.depth < flaw.depth := by omega
            simp [below, between, belowNone]

theorem gathers_both {first : Except Flaw α} {second : Except Flaw β} (left : Gathers flaws first)
    (right : Gathers others second) : Gathers (flaws ++ others) (both first second) := by
  cases first with
  | ok value =>
    have none_left : counted? flaws = none := left
    cases second with
    | ok other =>
      have none_right : counted? others = none := right
      show counted? (flaws ++ others) = none
      rw [counted?_append, none_left, none_right]
    | error flaw =>
      have some_right : counted? others = some flaw := right
      show counted? (flaws ++ others) = some flaw
      rw [counted?_append, none_left, some_right]
  | error flaw =>
    have some_left : counted? flaws = some flaw := left
    cases second with
    | ok other =>
      have none_right : counted? others = none := right
      show counted? (flaws ++ others) = some flaw
      rw [counted?_append, some_left, none_right]
    | error other =>
      have some_right : counted? others = some other := right
      show counted? (flaws ++ others) = some (if other.depth < flaw.depth then other else flaw)
      rw [counted?_append, some_left, some_right]
      dsimp only
      split <;> rfl

theorem Gathers.map {result : Except Flaw α} (convert : α → β) (gathers : Gathers flaws result) :
    Gathers flaws (result.map convert) := by
  cases result <;> exact gathers

theorem gathers_pure (value : α) : Gathers [] (.ok value) :=
  counted?_nil

theorem gathers_error (flaw : Flaw) : Gathers [flaw] (.error flaw : Except Flaw α) :=
  counted?_singleton flaw

end Gathers

/-! ## The flaws of a node -/

/-- The flaw of a collection as the key of a mapping. -/
def keyFlaws (depth : Nat) (key : Node) : List Flaw :=
  if key.isKey then [] else [⟨depth, .malformed⟩]

/-- The flaws of a collection under a tag, when its items have some. -/
def collectionFlaws (depth : Nat) (tag usual : Tag) (flaws : List Flaw) : List Flaw :=
  if tag = usual then flaws
  else if tag = .list || tag = .mapping || tag = .members then [⟨depth + 1, .malformed⟩]
  else [⟨depth, .malformed⟩]

mutual

/-- All flaws of a node in a collection that is `depth` deep. -/
def flawsOf (depth : Nat) : Node → List Flaw
  | .scalar tag content =>
    match tag with
    | .list | .mapping | .members => [⟨depth + 1, .malformed⟩]
    | tag =>
      match scalarValue tag content with
      | .ok _ => []
      | .error fault => [⟨depth, fault⟩]
  | .sequence tag items => collectionFlaws depth tag .list (flawsOfItems (depth + 1) items)
  | .mapping .members entries => flawsOfEntries (depth + 1) entries
  | .mapping tag entries =>
    collectionFlaws depth tag .mapping (flawsOfEntries (depth + 1) entries)
  | .unmergeable => [⟨depth + 1, .malformed⟩]

def flawsOfItems (depth : Nat) : List Node → List Flaw
  | [] => []
  | item :: items => flawsOf depth item ++ flawsOfItems depth items

def flawsOfEntries (depth : Nat) : List (Node × Node) → List Flaw
  | [] => []
  | (key, value) :: entries =>
    flawsOf depth key ++ keyFlaws depth key ++ flawsOf depth value ++ flawsOfEntries depth entries

end

theorem gathers_keyable (depth : Nat) (key : Node) :
    Gathers (keyFlaws depth key) (keyable depth key) := by
  unfold keyFlaws keyable
  split
  · exact gathers_pure ()
  · exact gathers_error _

theorem gathers_collection (depth : Nat) (tag usual : Tag) {flaws : List Flaw}
    {value : Except Flaw Value} (gathers : Gathers flaws value) :
    Gathers (collectionFlaws depth tag usual flaws) (collection depth tag usual value) := by
  unfold collectionFlaws collection
  split
  · exact gathers
  · split
    · exact gathers_error _
    · exact gathers_error _

theorem gathers_scalar (depth : Nat) (tag : Tag) (content : List Char) :
    Gathers (flawsOf depth (.scalar tag content)) (valueOf depth (.scalar tag content)) := by
  have read : Gathers
      (match scalarValue tag content with
        | .ok _ => []
        | .error fault => [⟨depth, fault⟩])
      ((scalarValue tag content).mapError fun fault => ⟨depth, fault⟩) := by
    cases scalarValue tag content with
    | ok value => exact gathers_pure value
    | error fault => exact gathers_error _
  cases tag with
  | list | mapping | members => exact gathers_error _
  | _ => exact read

mutual

/-- What a node denotes is the outcome of all its flaws. -/
theorem gathers_valueOf (depth : Nat) (node : Node) :
    Gathers (flawsOf depth node) (valueOf depth node) := by
  cases node with
  | scalar tag content => exact gathers_scalar depth tag content
  | sequence tag items =>
    exact gathers_collection depth tag .list ((gathers_valuesOf (depth + 1) items).map _)
  | mapping tag entries =>
    have gathers := gathers_entriesOf (depth + 1) entries
    cases tag with
    | members => exact gathers.map _
    | _ => exact gathers_collection depth _ .mapping (gathers.map _)
  | unmergeable => exact gathers_error _

theorem gathers_valuesOf (depth : Nat) (items : List Node) :
    Gathers (flawsOfItems depth items) (valuesOf depth items) := by
  cases items with
  | nil => exact gathers_pure []
  | cons item items =>
    exact (gathers_both (gathers_valueOf depth item) (gathers_valuesOf depth items)).map _

theorem gathers_entriesOf (depth : Nat) (entries : List (Node × Node)) :
    Gathers (flawsOfEntries depth entries) (entriesOf depth entries) := by
  cases entries with
  | nil => exact gathers_pure []
  | cons entry entries =>
    obtain ⟨key, value⟩ := entry
    have checked := gathers_both
      (gathers_both (gathers_valueOf depth key) (gathers_keyable depth key))
      (gathers_valueOf depth value)
    exact (gathers_both checked (gathers_entriesOf depth entries)).map _

end

theorem valueOf_eq_error_iff {depth : Nat} {node : Node} {flaw : Flaw} :
    valueOf depth node = .error flaw ↔ counted? (flawsOf depth node) = some flaw := by
  have gathers := gathers_valueOf depth node
  cases result : valueOf depth node with
  | ok value =>
    rw [result] at gathers
    rw [show counted? (flawsOf depth node) = none from gathers]
    simp
  | error other =>
    rw [result] at gathers
    rw [show counted? (flawsOf depth node) = some other from gathers, Except.error.injEq,
      Option.some.injEq]

/-! ## Scalars without a value -/

/-- Whether reading a text fails for a scalar that denotes no value: an escape for no character or a
version with too many digits where the text is cut into tokens, or the flaw of its document that
counts. -/
inductive Spoilt (text : String) (fault : ScalarFault) : Prop where
  | token : Node.ofText? text.toList = .error (.scalar fault) → Spoilt text fault
  | value {root : Node} {depth : Nat} : Node.ofText? text.toList = .ok (some root) →
      counted? (flawsOf 0 root) = some ⟨depth, .scalar fault⟩ → Spoilt text fault

theorem spoilt_iff {text : String} {fault : ScalarFault} :
    Spoilt text fault ↔ read text = .error (.scalar fault) := by
  have read_eq : read text =
      match Node.ofText? text.toList with
      | .error fault => .error fault
      | .ok none => .ok .null
      | .ok (some root) => (valueOf 0 root).mapError (·.fault) := by
    unfold read
    cases Node.ofText? text.toList with
    | error fault => rfl
    | ok root? => cases root? <;> rfl
  constructor
  · intro spoilt
    cases spoilt with
    | token refused => rw [read_eq, refused]
    | value parsed counts =>
      rw [read_eq, parsed]
      dsimp only
      rw [valueOf_eq_error_iff.2 counts]
      rfl
  · intro failed
    rw [read_eq] at failed
    cases parsed : Node.ofText? text.toList with
    | error other =>
      rw [parsed] at failed
      cases failed
      exact .token parsed
    | ok root? =>
      rw [parsed] at failed
      cases root? with
      | none => cases failed
      | some root =>
        cases result : valueOf 0 root with
        | ok value =>
          simp only [result] at failed
          cases failed
        | error flaw =>
          simp only [result] at failed
          obtain ⟨depth, other⟩ := flaw
          cases failed
          exact .value parsed (valueOf_eq_error_iff.1 result)

end Scaffold.Yaml
