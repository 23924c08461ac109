import Scaffold.Disk.Path

/-!
# Paths as they are written

What a path comes to without a disk: double dots take away the name above them, at the root they say
nothing, and at the start of a relative path they stay. A path is below another one if it goes on from
it by names.
-/

set_option autoImplicit false

namespace Scaffold.Path

/-! ## Components of a text -/

/-- What holds of texts without a slash, and of two texts with a slash between them if it holds of
both, holds of every text. -/
theorem slashInduction {motive : List Char → Prop} (single : ∀ text, '/' ∉ text → motive text)
    (several : ∀ before after, motive before → motive after → motive (before ++ '/' :: after))
    (text : List Char) : motive text := by
  induction shorter : text.length using Nat.strongRecOn generalizing text with
  | ind size ih =>
    by_cases slashed : '/' ∈ text
    · obtain ⟨before, after, rfl⟩ := List.append_of_mem slashed
      rw [List.length_append, List.length_cons] at shorter
      exact several before after (ih before.length (by omega) before rfl)
        (ih after.length (by omega) after rfl)
    · exact single text slashed

theorem partsOf_append_cons_slash (before after : List Char) :
    partsOf (before ++ '/' :: after) = partsOf before ++ partsOf after := by
  rw [partsOf, List.splitOn_append_cons_self, List.map_append, List.filter_append]
  rfl

theorem partsOf_of_single {text : List Char} (single : '/' ∉ text) :
    partsOf text = [String.ofList text].filter fun part => part ≠ "" && part ≠ "." := by
  rw [partsOf, List.splitOn_eq_singleton single, List.map_singleton]

/-- Whether a text is a component as paths have them. -/
structure IsPart (part : String) : Prop where
  filled : part ≠ ""
  moves : part ≠ "."
  single : '/' ∉ part.toList

theorem isPart_of_mem_partsOf {text : List Char} : ∀ part ∈ partsOf text, IsPart part := by
  induction text using slashInduction with
  | single text unslashed =>
    intro part member
    rw [partsOf_of_single unslashed, List.mem_filter, List.mem_singleton] at member
    obtain ⟨rfl, kept⟩ := member
    simp only [decide_not, Bool.and_eq_true, Bool.not_eq_eq_eq_not, Bool.not_true,
      decide_eq_false_iff_not] at kept
    exact ⟨kept.1, kept.2, by rwa [String.toList_ofList]⟩
  | several before after ihBefore ihAfter =>
    rw [partsOf_append_cons_slash]
    exact List.forall_mem_append.2 ⟨ihBefore, ihAfter⟩

theorem mem_of_mem_partsOf {text : List Char} :
    ∀ part ∈ partsOf text, ∀ character ∈ part.toList, character ∈ text := by
  induction text using slashInduction with
  | single text unslashed =>
    intro part member character inside
    rw [partsOf_of_single unslashed, List.mem_filter, List.mem_singleton] at member
    rwa [member.1, String.toList_ofList] at inside
  | several before after ihBefore ihAfter =>
    rw [partsOf_append_cons_slash]
    refine List.forall_mem_append.2 ⟨?_, ?_⟩
    · intro part member character inside
      exact List.mem_append_left _ (ihBefore part member character inside)
    · intro part member character inside
      exact List.mem_append_right _ (List.mem_cons_of_mem _ (ihAfter part member character inside))

theorem up_mem_partsOf_iff {text : List Char} :
    ".." ∈ partsOf text ↔ ['.', '.'] ∈ text.splitOn '/' := by
  rw [partsOf, List.mem_filter, List.mem_map]
  constructor
  · rintro ⟨⟨piece, member, piece_eq⟩, -⟩
    obtain rfl : piece = ['.', '.'] := String.ofList_injective piece_eq
    exact member
  · intro member
    exact ⟨⟨_, member, rfl⟩, by decide⟩

theorem partsOf_of_isPart {part : String} (isPart : IsPart part) : partsOf part.toList = [part] := by
  rw [partsOf_of_single isPart.single, String.ofList_toList, List.filter_cons_of_pos]
  · rfl
  · simp [isPart.filled, isPart.moves]

/-- A text without a slash names a component that goes up only if it is two dots. -/
theorem eq_of_up_mem_partsOf {text : List Char} (single : '/' ∉ text) (up : ".." ∈ partsOf text) :
    text = ['.', '.'] := by
  rw [partsOf_of_single single, List.mem_filter, List.mem_singleton] at up
  exact String.ofList_injective up.1.symm

/-- Two dots between slashes go up in a text that ends in a few other characters only if they do so
before them. -/
theorem up_mem_partsOf_of_append {ending : List Char} (single : '/' ∉ ending)
    (several : 2 < ending.length) {text : List Char} (up : ".." ∈ partsOf (text ++ ending)) :
    ".." ∈ partsOf text := by
  induction text using slashInduction with
  | single text unslashed =>
    have length_eq := congrArg List.length (eq_of_up_mem_partsOf (by simp [unslashed, single]) up)
    rw [List.length_append] at length_eq
    change text.length + ending.length = 2 at length_eq
    omega
  | several before after _ ih =>
    rw [List.append_assoc, List.cons_append, partsOf_append_cons_slash, List.mem_append] at up
    rw [partsOf_append_cons_slash, List.mem_append]
    exact up.imp_right ih

theorem anchorOf_eq_relative_iff {text : List Char} :
    anchorOf text = .relative ↔ text.head? ≠ some '/' := by
  cases text with
  | nil => simp [anchorOf]
  | cons first rest =>
    by_cases slash : first = '/'
    · subst slash
      unfold anchorOf
      split <;> simp_all
    · have relative : anchorOf (first :: rest) = .relative := by
        unfold anchorOf
        split <;> simp_all
      simp [relative, slash]

/-! ## Components and texts -/

theorem ofString_of_isPart {part : String} (isPart : IsPart part) :
    ofString part = ⟨.relative, [part]⟩ := by
  have relative : anchorOf part.toList = .relative :=
    anchorOf_eq_relative_iff.2 fun slash => isPart.single (List.mem_of_mem_head? slash)
  rw [ofString, relative, partsOf_of_isPart isPart]

theorem child_of_isPart (path : Path) {part : String} (isPart : IsPart part) :
    path.child part = ⟨path.anchor, path.parts ++ [part]⟩ := by
  rw [child, ofString_of_isPart isPart]
  rfl

theorem descend_of_isPart (path : Path) {parts : List String}
    (isParts : ∀ part ∈ parts, IsPart part) :
    path.descend parts = ⟨path.anchor, path.parts ++ parts⟩ := by
  induction parts generalizing path with
  | nil => rw [List.append_nil]; rfl
  | cons part parts ih =>
    obtain ⟨isPart, isPartRest⟩ := List.forall_mem_cons.1 isParts
    have below := ih (path.child part) isPartRest
    rw [child_of_isPart path isPart, List.append_assoc] at below
    rw [descend, List.foldl_cons, child_of_isPart path isPart]
    exact below

theorem toString_relative {parts : List String} (filled : parts ≠ []) :
    toString ⟨.relative, parts⟩ = "/".intercalate parts := by
  obtain ⟨part, others, rfl⟩ := List.exists_cons_of_ne_nil filled
  rw [toString, if_neg (by simp)]
  exact String.empty_append

theorem ofString_append_slash {part : String} (isPart : IsPart part) (rest : String) :
    ofString (part ++ "/" ++ rest) = ⟨.relative, part :: (ofString rest).parts⟩ := by
  have split : (part ++ "/" ++ rest).toList = part.toList ++ '/' :: rest.toList := by
    rw [String.toList_append, String.toList_append, List.append_assoc]
    rfl
  have relative : anchorOf (part.toList ++ '/' :: rest.toList) = .relative := by
    obtain ⟨first, others, chars⟩ := List.exists_cons_of_ne_nil fun empty =>
      isPart.filled (String.toList_eq_nil_iff.1 empty)
    rw [anchorOf_eq_relative_iff, chars]
    intro slash
    obtain rfl : first = '/' := Option.some.inj slash
    exact isPart.single (chars ▸ List.mem_cons_self)
  rw [ofString, split, relative, partsOf_append_cons_slash, partsOf_of_isPart isPart]
  rfl

theorem ofString_intercalate {first : String} {others : List String}
    (isParts : ∀ part ∈ first :: others, IsPart part) :
    ofString ("/".intercalate (first :: others)) = ⟨.relative, first :: others⟩ := by
  induction others generalizing first with
  | nil =>
    rw [String.intercalate_singleton]
    exact ofString_of_isPart (List.forall_mem_singleton.1 isParts)
  | cons next others ih =>
    obtain ⟨isPart, isPartRest⟩ := List.forall_mem_cons.1 isParts
    rw [String.intercalate_cons_cons, ofString_append_slash isPart, ih isPartRest]

/-- A relative path is read back from its text. -/
theorem ofString_toString {parts : List String} (isParts : ∀ part ∈ parts, IsPart part) :
    ofString (toString ⟨.relative, parts⟩) = ⟨.relative, parts⟩ := by
  cases parts with
  | nil => decide
  | cons first others =>
    rw [toString_relative (List.cons_ne_nil _ _)]
    exact ofString_intercalate isParts

/-! ## Normal forms -/

/-- Goes on by one name. -/
def goOn (anchor : Anchor) (names : List String) (name : String) : List String :=
  if name = ".." then
    match names.getLast? with
    | none => if anchor = .relative then [".."] else []
    | some last => if last = ".." then names ++ [".."] else names.dropLast
  else names ++ [name]

/-- The path that is left when double dots take away the names above them. -/
def normal (path : Path) : Path :=
  ⟨path.anchor, path.parts.foldl (goOn path.anchor) []⟩

/-- Whether a path, as it is written, goes on by at least one name from another one and never up. -/
def IsBelow (path root : Path) : Prop :=
  ∃ names, names ≠ [] ∧ ".." ∉ names ∧
    path.normal = ⟨root.normal.anchor, root.normal.parts ++ names⟩

theorem foldl_goOn_of_plain (anchor : Anchor) (start : List String) {names : List String}
    (plain : ".." ∉ names) : names.foldl (goOn anchor) start = start ++ names := by
  induction names generalizing start with
  | nil => exact (List.append_nil start).symm
  | cons name names ih =>
    rw [List.mem_cons, not_or] at plain
    rw [List.foldl_cons, goOn, if_neg (Ne.symm plain.1), ih _ plain.2, List.append_assoc,
      List.singleton_append]

theorem normal_append_of_plain (anchor : Anchor) (parts : List String) {names : List String}
    (plain : ".." ∉ names) :
    normal ⟨anchor, parts ++ names⟩ = ⟨anchor, (normal ⟨anchor, parts⟩).parts ++ names⟩ := by
  rw [normal, List.foldl_append, foldl_goOn_of_plain anchor _ plain]
  rfl

/-- Names that do not go up lead below a path. -/
theorem isBelow_of_plain (root : Path) {names : List String} (filled : names ≠ [])
    (plain : ".." ∉ names) : IsBelow ⟨root.anchor, root.parts ++ names⟩ root :=
  ⟨names, filled, plain, normal_append_of_plain root.anchor root.parts plain⟩

end Scaffold.Path
