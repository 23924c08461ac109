import Scaffold.Proofs.Composition.Importing
import Scaffold.Proofs.Composition.Region

/-!
# Layouts

A composition file has its last import line above its list of declarations or below it. `Clear` says
that a text falls apart in this way with no import line in its list; a class put into both places
leaves it so.
-/

set_option autoImplicit false

namespace Scaffold.Composition

open Text

/-- A text in four parts. The last import line ends in `upper` or in the `gap` below the list, and the
brackets of the list stand around its body. -/
inductive Layout where
  | importsFirst (upper gap body lower : List Char)
  | listFirst (upper body gap lower : List Char)
  deriving DecidableEq, Repr

namespace Layout

/-- The text up to the bracket that opens the list. -/
def front : Layout → List Char
  | importsFirst upper gap _ _ => upper ++ gap
  | listFirst upper _ _ _ => upper

def body : Layout → List Char
  | importsFirst _ _ body _ => body
  | listFirst _ body _ _ => body

def back : Layout → List Char
  | importsFirst _ _ _ lower => lower
  | listFirst _ _ gap lower => gap ++ lower

def text (layout : Layout) : List Char :=
  layout.front ++ (layout.body ++ layout.back)

/-- The text up to the end of the last import line. -/
def imported : Layout → List Char
  | importsFirst upper _ _ _ => upper
  | listFirst upper body gap _ => upper ++ (body ++ gap)

def document (layout : Layout) : Document :=
  ⟨layout.text, layout.imported.length,
    layout.front.length, (layout.front ++ layout.body).length⟩

/-- The layout with a text put after the last import line and another one between the brackets. -/
def extend (insertion newBody : List Char) : Layout → Layout
  | importsFirst upper gap _ lower => importsFirst (upper ++ insertion) gap newBody lower
  | listFirst upper _ gap lower => listFirst upper newBody (gap ++ insertion) lower

@[simp] theorem extend_body (insertion newBody : List Char) (layout : Layout) :
    (layout.extend insertion newBody).body = newBody := by
  cases layout <;> rfl

theorem extend_extend (first second body newBody : List Char) (layout : Layout) :
    (layout.extend first body).extend second newBody = layout.extend (first ++ second) newBody := by
  cases layout <;> simp [extend]

theorem extend_self (layout : Layout) : layout.extend [] layout.body = layout := by
  cases layout <;> simp [extend, body]

/-- The text below the last import line. -/
def below : Layout → List Char
  | importsFirst _ gap body lower => gap ++ (body ++ lower)
  | listFirst _ _ _ lower => lower

@[simp] theorem extend_imported (insertion : List Char) (layout : Layout) :
    (layout.extend insertion layout.body).imported = layout.imported ++ insertion := by
  cases layout <;> simp [imported, extend, body]

theorem imported_append_below (layout : Layout) : layout.imported ++ layout.below = layout.text := by
  cases layout <;> simp [imported, below, text, front, body, back]

theorem extend_text (insertion : List Char) (layout : Layout) :
    (layout.extend insertion layout.body).text = layout.imported ++ (insertion ++ layout.below) := by
  cases layout <;> simp [imported, below, text, front, body, back, extend]

@[simp] theorem document_body (layout : Layout) : layout.document.body = layout.body := by
  rw [Document.body, document, text, ← List.append_assoc, List.take_left, List.drop_left]

/-- Whether the parts of a text are what they are called: the list opens in its first opening and
closes in the first bracket after that, the last import line ends where it should, and no import line
overlaps the list. -/
structure Clear (layout : Layout) (opening : Nat) : Prop where
  opens : OpensList layout.front opening
  closes : layout.back.head? = some ']'
  inner : ']' ∉ layout.body
  importsEnd : importsEnd? layout.text = some layout.imported.length
  apart : ∀ placed ∈ placedImports layout.text,
    placed.finish ≤ opening ∨ (layout.front ++ layout.body).length < placed.start

variable {layout : Layout} {opening : Nat}

theorem Clear.exists_back (clear : layout.Clear opening) : ∃ rest, layout.back = ']' :: rest := by
  obtain ⟨rest, back_eq⟩ := List.head?_eq_some_iff.1 clear.closes
  exact ⟨rest, back_eq⟩

theorem Clear.le_opening {upper gap body lower : List Char}
    (clear : (importsFirst upper gap body lower).Clear opening) : upper.length ≤ opening := by
  have importsEnd := clear.importsEnd
  rw [importsEnd?_eq] at importsEnd
  obtain ⟨last, member, finish⟩ := exists_mem_of_lastFinish? importsEnd
  have apart := clear.apart last member
  simp only [imported, front, Placed.finish, List.length_append] at finish apart ⊢
  omega

theorem Clear.head?_gap {upper inner gap lower : List Char}
    (clear : (listFirst upper inner gap lower).Clear opening) : gap.head? = some ']' := by
  have importsEnd := clear.importsEnd
  rw [importsEnd?_eq] at importsEnd
  obtain ⟨last, member, finish⟩ := exists_mem_of_lastFinish? importsEnd
  have apart := clear.apart last member
  have early := clear.opens.opening_lt
  have closes := clear.closes
  simp only [imported, front, body, Placed.finish, List.length_append] at finish apart early
  cases gap with
  | nil =>
    simp only [List.length_nil] at finish
    omega
  | cons first gap => simpa [back] using closes

/-! ## A class listed -/

@[simp] theorem extend_nil_front (newBody : List Char) (layout : Layout) :
    (layout.extend [] newBody).front = layout.front := by
  cases layout <;> simp [extend, front]

@[simp] theorem extend_nil_back (newBody : List Char) (layout : Layout) :
    (layout.extend [] newBody).back = layout.back := by
  cases layout <;> simp [extend, back]

section Listed

variable {above below : List Placed}

/-- The import lines below the list begin after the bracket that closes it. -/
theorem Clear.start_pos (clear : layout.Clear opening)
    (placed_eq : placedImports layout.text =
      above ++ below.map (Placed.later (layout.front ++ layout.body).length))
    {placed : Placed} (member : placed ∈ below) : 0 < placed.start := by
  have apart := clear.apart (placed.later (layout.front ++ layout.body).length) (by
    rw [placed_eq]
    exact List.mem_append_right _ (List.mem_map_of_mem member))
  have early := clear.opens.opening_lt
  simp only [Placed.later_finish, Placed.later_start, List.length_append] at apart
  omega

/-- The last import line moves with the end of the list if it stands below it, and stays otherwise. -/
theorem Clear.lastFinish?_extend (clear : layout.Clear opening) (newBody : List Char)
    (finishes : ∀ placed ∈ above, placed.finish ≤ opening)
    (placed_eq : placedImports layout.text =
      above ++ below.map (Placed.later (layout.front ++ layout.body).length)) :
    lastFinish? (above ++ below.map (Placed.later (layout.front ++ newBody).length)) =
      some (layout.extend [] newBody).imported.length := by
  have importsEnd := clear.importsEnd
  have early := clear.opens.opening_lt
  rw [importsEnd?_eq, placed_eq] at importsEnd
  rcases lastFinish?_append_later importsEnd with
    ⟨placed, member, finish, same⟩ | ⟨inner, finish, moved⟩
  · rw [same]
    have bound := finishes placed member
    cases layout with
    | importsFirst => simp [imported, extend]
    | listFirst =>
      simp only [imported, front, List.length_append] at finish early
      omega
  · rw [moved, Option.some.injEq]
    cases layout with
    | importsFirst =>
      have late := clear.le_opening
      simp only [imported, front, body, List.length_append] at finish early
      omega
    | listFirst =>
      simp only [imported, front, body, extend, List.length_append, List.length_nil] at finish ⊢
      omega

/-- A listed class leaves the list where it is, and no import line changes. -/
theorem Clear.extend_list {name newBody : List Char} (clear : layout.Clear opening) (named : IsName name)
    (appended : Appended (reference name) layout.body newBody) :
    (layout.extend [] newBody).Clear opening ∧
      imports (layout.extend [] newBody).text = imports layout.text := by
  obtain ⟨rest, back_eq⟩ := clear.exists_back
  obtain ⟨upper, front_eq⟩ := clear.opens.exists_bracket
  have bracketed : layout.front.getLast? = some '[' := by
    rw [front_eq, List.getLast?_concat]
  have text_eq : layout.text = layout.front ++ (layout.body ++ ']' :: rest) := by
    rw [text, back_eq]
  have newText_eq :
      (layout.extend [] newBody).text = layout.front ++ (newBody ++ ']' :: rest) := by
    rw [text, extend_nil_front, extend_body, extend_nil_back, back_eq]
  have apart := clear.apart
  rw [text_eq] at apart
  obtain ⟨above, finishes, placed_eq, newPlaced_eq⟩ :=
    appended.exists_placedImports named bracketed clear.opens.opening_lt apart
  rw [← text_eq] at placed_eq
  rw [← newText_eq] at newPlaced_eq
  refine ⟨⟨?_, ?_, ?_, ?_, ?_⟩, ?_⟩
  · rw [extend_nil_front]
    exact clear.opens
  · rw [extend_nil_back]
    exact clear.closes
  · rw [extend_body]
    exact appended.closing_not_mem named clear.inner
  · rw [importsEnd?_eq, newPlaced_eq]
    exact clear.lastFinish?_extend newBody finishes placed_eq
  · intro placed member
    rw [newPlaced_eq, List.mem_append] at member
    rw [extend_nil_front, extend_body]
    rcases member with inAbove | inBelow
    · exact .inl (finishes placed inAbove)
    · obtain ⟨found, member, rfl⟩ := List.mem_map.1 inBelow
      have starts := clear.start_pos placed_eq member
      rw [Placed.later_start]
      omega
  · rw [imports_eq, imports_eq, newPlaced_eq, placed_eq]
    simp

end Listed

/-! ## A class imported -/

/-- An imported class leaves the list as it is, and its line is one import line more. -/
theorem Clear.extend_imports {className : List Char} (clear : layout.Clear opening)
    (named : IsClassName className) :
    ∃ opening above below,
      (layout.extend (importing layout.imported className) layout.body).Clear opening ∧
      imports layout.text = above ++ below ∧
      imports (layout.extend (importing layout.imported className) layout.body).text =
        above ++ importLine className :: below := by
  have found : importsEnd? (layout.imported ++ layout.below) = some layout.imported.length := by
    rw [imported_append_below]
    exact clear.importsEnd
  have importsEnd := importsEnd?_importing found named
  have placed_new (placed : Placed) := @exists_of_mem_placedImports_importing
    layout.imported layout.below className found named placed
  obtain ⟨above, below, imports_old, imports_new⟩ := exists_imports_importing found named
  rw [← extend_text] at importsEnd imports_new placed_new
  rw [imported_append_below] at imports_old placed_new
  rw [← extend_imported] at importsEnd
  have apart := clear.apart
  have early := clear.opens.opening_lt
  cases layout with
  | importsFirst upper gap inner lower =>
    -- The list moves down by what is put above it, and with it what stands below the imports.
    have late := clear.le_opening
    refine ⟨(importing upper className).length + opening, above, below,
      ⟨?_, clear.closes, clear.inner, importsEnd, ?_⟩, imports_old, imports_new⟩
    · exact clear.opens.insert late (endsStatement_of_importsEnd? found)
        (endsStatement_importing named upper)
        (opening?_eq_none_of_colon_not_mem (colon_not_mem_importing named upper))
    · intro placed member
      obtain ⟨old, inOld, kinds⟩ := placed_new placed member
      have apartOld := apart old inOld
      simp only [imported, front, Layout.body, extend, List.length_append] at *
      rcases kinds with ⟨rfl, bound⟩ | ⟨-, -, bound⟩ | ⟨-, rfl⟩
      · omega
      · omega
      · rw [Placed.later_finish, Placed.later_start]
        omega
  | listFirst upper inner gap lower =>
    -- The last import line begins below the list, so all that is put after it does.
    refine ⟨opening, above, below, ⟨clear.opens, ?_, clear.inner, importsEnd, ?_⟩,
      imports_old, imports_new⟩
    · rw [extend, back, List.append_assoc, List.head?_append, clear.head?_gap, Option.some_or]
    · intro placed member
      obtain ⟨old, inOld, kinds⟩ := placed_new placed member
      have apartOld := apart old inOld
      simp only [imported, front, Layout.body, extend, List.length_append] at *
      rcases kinds with ⟨rfl, -⟩ | ⟨finish, later, -⟩ | ⟨late, rfl⟩
      · exact apartOld
      · omega
      · rw [Placed.later_finish, Placed.later_start]
        omega

/-! ## A class imported and listed -/

/-- The text that a registration puts after the last import line: the line that imports the class,
if there is none yet. -/
def insertion (layout : Layout) (className : List Char) : List Char :=
  if importLine className ∈ imports layout.text then []
  else importing layout.imported className

theorem importFeed_extend (apart : layout.imported.length ≠ (layout.front ++ layout.body).length)
    (insertion newBody : List Char) :
    importFeed (layout.extend insertion newBody).imported =
      importFeed (layout.imported ++ insertion) := by
  cases layout with
  | importsFirst upper gap inner lower => rw [extend, imported, imported]
  | listFirst upper inner gap lower =>
    cases gap with
    | nil => simp [imported, front, Layout.body] at apart
    | cons first gap =>
      have last_eq (front : List Char) :
          (front ++ (first :: gap ++ insertion)).getLast? = (first :: gap ++ insertion).getLast? := by
        rw [List.getLast?_append, List.cons_append, List.getLast?_cons, Option.some_or]
      have old_eq : upper ++ (inner ++ first :: gap) ++ insertion =
          upper ++ inner ++ (first :: gap ++ insertion) := by
        simp
      rw [extend, imported, imported, importFeed, importFeed, old_eq, ← List.append_assoc, last_eq,
        last_eq]

theorem Clear.imported_ne (clear : layout.Clear opening) :
    layout.imported.length ≠ layout.front.length ∧
      layout.imported.length ≠ (layout.front ++ layout.body).length := by
  have early := clear.opens.opening_lt
  cases layout with
  | importsFirst upper gap inner lower =>
    have late := clear.le_opening
    simp only [imported, front, List.length_append] at early ⊢
    omega
  | listFirst upper inner gap lower =>
    obtain ⟨rest, rfl⟩ := List.head?_eq_some_iff.1 clear.head?_gap
    simp only [imported, front, Layout.body, List.length_append, List.length_cons]
    omega

/-- One step of a run of registrations: the text keeps its layout with a class put into both
places, and its import line is the only one that there is more. -/
theorem Clear.extend_both {className name newBody : List Char} (clear : layout.Clear opening)
    (classNamed : IsClassName className) (named : IsName name)
    (appended : Appended (reference name) layout.body newBody) :
    ∃ opening above below,
      (layout.extend (layout.insertion className) newBody).Clear opening ∧
      imports layout.text = above ++ below ∧
      imports (layout.extend (layout.insertion className) newBody).text =
        above ++ (if importLine className ∈ imports layout.text then []
          else [importLine className]) ++ below := by
  obtain ⟨listed, imports_eq⟩ := clear.extend_list named appended
  by_cases found : importLine className ∈ imports layout.text
  · refine ⟨opening, imports layout.text, [], ?_, by simp, ?_⟩
    · rwa [insertion, if_pos found]
    · rw [insertion, if_pos found, if_pos found, imports_eq]
      simp
  · obtain ⟨newOpening, above, below, imported, before_eq, after_eq⟩ :=
      listed.extend_imports classNamed
    rw [extend_body, extend_extend, List.nil_append, importing,
      importFeed_extend clear.imported_ne.2, List.append_nil] at imported after_eq
    refine ⟨newOpening, above, below, ?_, imports_eq ▸ before_eq, ?_⟩
    · rwa [insertion, if_neg found]
    · rw [insertion, if_neg found, if_neg found, importing, after_eq]
      simp

end Layout

end Scaffold.Composition
