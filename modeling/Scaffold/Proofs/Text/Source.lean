import Mathlib.Data.Bool.AllAny
import Mathlib.Data.List.DropRight
import Scaffold.Proofs.Text.Joined
import Scaffold.Proofs.Text.Marks
import Scaffold.Proofs.Text.Search
import Scaffold.Text.Letters

/-!
# Reading source text

What the text of a class says of the classes and the variables that it works with: which classes it
imports and names, which variables it declares, assigns and uses, and which classes it makes instances
of.
-/

set_option autoImplicit false

namespace Scaffold.Source

open Text

/-! ## Variables -/

/-- What is said at a place of a source text: a line ends, a method begins, or a variable is declared
with its class, assigned or used. -/
inductive Sign where
  | feed
  | begins
  | declares (name : String)
  | assigns (name : String)
  | uses (name : String)
  deriving DecidableEq

/-- The variables that are declared, as properties or as parameters, with their classes. -/
def declaredVariables : List (String × String) :=
  [("LoggerInterface", "logger"), ("TracerInterface", "tracer")]

/-- The variables that live in a method. -/
def localVariables : List String :=
  ["span", "scope"]

/-- A variable that is declared is used by its name, and as a property of an object. One of a method is
assigned where a blank, an equality sign and a blank follow it. -/
def signTable : MarkTable Sign :=
  [("\n".toList, .feed), ("public function ".toList, .begins)] ++
    (declaredVariables.flatMap fun (type, name) =>
      [((type ++ " $" ++ name).toList, .declares name), (("$" ++ name).toList, .uses name),
        (("->" ++ name).toList, .uses name)]) ++
    localVariables.flatMap fun name =>
      [(("$" ++ name ++ " = ").toList, .assigns name), (("$" ++ name).toList, .uses name)]

/-- What a source text says of its variables, in order. -/
def signs (text : List Char) : List Sign :=
  marks signTable text

/-- Whether a variable is declared at most once, and if it is used. -/
def IsDeclared (said : List Sign) (name : String) : Prop :=
  said.count (.declares name) ≤ 1 ∧ (.uses name ∈ said → .declares name ∈ said)

/-- Whether a variable is assigned in an earlier line of the method that follows. -/
def IsAssigned (said : List Sign) (name : String) : Prop :=
  ∃ front between, said = front ++ .assigns name :: between ∧ .feed ∈ between ∧ .begins ∉ between

/-- Whether a variable is used only where it is assigned. -/
def IsUsedWhereAssigned (said : List Sign) (name : String) : Prop :=
  ∀ before after, said = before ++ .uses name :: after → IsAssigned before name

/-! ## Classes -/

/-- The class that a line imports, without its namespace. -/
def importedClass? (line : List Char) : Option (List Char) :=
  match after? "use ".toList line with
  | some path =>
    if path.getLast? = some ';' then some (path.dropLast.rtakeWhile (· ≠ '\\')) else none
  | none => none

/-- The classes that a source text imports. -/
def importedClasses (text : List Char) : List (List Char) :=
  (text.splitOn '\n').filterMap importedClass?

/-- Whether a class is named in a line that does not import it. -/
def IsNamed (text name : List Char) : Prop :=
  ∃ line ∈ text.splitOn '\n', importedClass? line ≠ some name ∧ name <:+: line

/-- The class that an instance is made of here. -/
def madeClass? (text : List Char) : Option (List Char) :=
  match after? "new ".toList text with
  | some rest =>
    let name := rest.takeWhile isWord
    if name ≠ [] ∧ (rest.dropWhile isWord).head? = some '(' then some name else none
  | none => none

/-- The classes that a line makes instances of. -/
def madeClasses : List Char → List (List Char)
  | [] => []
  | character :: line => (madeClass? (character :: line)).toList ++ madeClasses line

/-! ## Agreement -/

/-- The classes that are imported only where they are needed. -/
def optionalClasses : List String :=
  ["LoggerInterface", "TracerInterface", "StatusCode", "Authorize", "AuthenticationService"]

/-- Whether the imports, the declarations and the uses of a source text agree. -/
structure Agrees (text : List Char) : Prop where
  imported_iff_named : ∀ name ∈ optionalClasses,
    (name.toList ∈ importedClasses text ↔ IsNamed text name.toList)
  isDeclared : ∀ declared ∈ declaredVariables, IsDeclared (signs text) declared.2
  isUsedWhereAssigned : ∀ name ∈ localVariables, IsUsedWhereAssigned (signs text) name

/-- Whether a source text imports each class once that it makes an instance of. -/
def ImportsWhatItMakes (text : List Char) : Prop :=
  ∀ line ∈ text.splitOn '\n', ∀ name ∈ madeClasses line, (importedClasses text).count name = 1

/-! ## Other names -/

/-- What names the optional classes and uses the variables. -/
def identifiers : List String :=
  optionalClasses ++ declaredVariables.flatMap (fun declared => ["$" ++ declared.2, "->" ++ declared.2]) ++
    localVariables.map ("$" ++ ·)

/-- Whether a text has none of the identifiers in it. -/
def IsForeign (text : List Char) : Prop :=
  ∀ identifier ∈ identifiers, ¬identifier.toList <:+: text

/-- Whether a text is a word, or nothing, and has none of the optional classes in it. -/
structure IsForeignWord (text : List Char) : Prop where
  words : ∀ character ∈ text, isWord character = true
  classless : ∀ name ∈ optionalClasses, ¬name.toList <:+: text

instance (text : List Char) : Decidable (IsForeignWord text) :=
  decidable_of_iff
    (text.all isWord = true ∧ ∀ name ∈ optionalClasses, ¬name.toList <:+: text)
    ⟨fun ⟨words, classless⟩ => ⟨List.all_eq_true.1 words, classless⟩,
      fun foreign => ⟨List.all_eq_true.2 foreign.words, foreign.classless⟩⟩

theorem IsForeignWord.of_isInfix {text fuller : List Char} (foreign : IsForeignWord fuller)
    (within : text <:+: fuller) : IsForeignWord text where
  words character member := foreign.words character (within.subset member)
  classless name optional stands := foreign.classless name optional (stands.trans within)

theorem isForeign_nil : IsForeign [] := by
  have filled : ∀ identifier ∈ identifiers, identifier.toList ≠ [] := by decide +kernel
  intro identifier listed stands
  exact filled identifier listed (List.infix_nil.1 stands)

theorem isForeignWord_nil : IsForeignWord [] where
  words := nofun
  classless name optional :=
    isForeign_nil name (List.mem_append_left _ (List.mem_append_left _ optional))

/-! ## Following a variable -/

/-- How far a variable is assigned in a method: not yet, in this line, or in an earlier one. -/
inductive Stage where
  | unassigned
  | assigning
  | assigned
  deriving DecidableEq

namespace Stage

/-- The stage of a variable after a sign, if the sign may be there. -/
def after (name : String) (stage : Stage) : Sign → Option Stage
  | .feed => some (if stage = .assigning then .assigned else stage)
  | .begins => some .unassigned
  | .declares _ => some stage
  | .assigns other => some (if other = name ∧ stage = .unassigned then .assigning else stage)
  | .uses other => if other = name ∧ stage ≠ .assigned then none else some stage

/-- Whether a variable is at a stage after some signs. -/
def Holds (stage : Stage) (name : String) (said : List Sign) : Prop :=
  match stage with
  | .unassigned => True
  | .assigning => ∃ front between, said = front ++ .assigns name :: between ∧ .begins ∉ between
  | .assigned => IsAssigned said name

variable {stage next : Stage} {name : String} {sign : Sign} {said : List Sign}

theorem holds_append (holds : stage.Holds name said) (kept : sign ≠ .begins) :
    stage.Holds name (said ++ [sign]) := by
  have unbegun {between : List Sign} (unbegun : .begins ∉ between) : .begins ∉ between ++ [sign] := by
    rw [List.mem_append, List.mem_singleton]
    exact not_or.2 ⟨unbegun, kept.symm⟩
  cases stage with
  | unassigned => trivial
  | assigning =>
    obtain ⟨front, between, rfl, apart⟩ := holds
    refine ⟨front, between ++ [sign], ?_, unbegun apart⟩
    rw [List.append_assoc, List.cons_append]
  | assigned =>
    obtain ⟨front, between, rfl, fed, apart⟩ := holds
    refine ⟨front, between ++ [sign], ?_, List.mem_append_left _ fed, unbegun apart⟩
    rw [List.append_assoc, List.cons_append]

theorem holds_after (holds : stage.Holds name said) (moved : stage.after name sign = some next) :
    next.Holds name (said ++ [sign]) := by
  cases sign with
  | feed =>
    cases moved
    split
    · next assigning =>
      subst assigning
      obtain ⟨front, between, rfl, apart⟩ := holds
      refine ⟨front, between ++ [.feed], ?_, ?_, ?_⟩
      · rw [List.append_assoc, List.cons_append]
      · exact List.mem_append_right _ (List.mem_singleton_self _)
      · rw [List.mem_append, List.mem_singleton]
        exact not_or.2 ⟨apart, nofun⟩
    · exact holds_append holds nofun
  | begins =>
    cases moved
    trivial
  | declares other =>
    cases moved
    exact holds_append holds nofun
  | assigns other =>
    cases moved
    split
    · next here =>
      obtain ⟨rfl, -⟩ := here
      exact ⟨said, [], rfl, List.not_mem_nil⟩
    · exact holds_append holds nofun
  | uses other =>
    simp only [after] at moved
    split at moved
    · cases moved
    · cases moved
      exact holds_append holds nofun

/-- A variable whose stages are followed to the end is used only where it is assigned. -/
theorem isAssigned_of_foldlM {later : List Sign} (holds : stage.Holds name said)
    (followed : (later.foldlM (after name) stage).isSome) {before rest : List Sign}
    (split : later = before ++ .uses name :: rest) : IsAssigned (said ++ before) name := by
  induction later generalizing stage said before with
  | nil => exact absurd split (by simp)
  | cons sign later ih =>
    rw [List.foldlM_cons] at followed
    cases moved : stage.after name sign with
    | none =>
      rw [moved] at followed
      cases followed
    | some next =>
      rw [moved] at followed
      cases before with
      | nil =>
        obtain ⟨rfl, -⟩ := List.cons_eq_cons.1 split
        rw [List.append_nil]
        simp only [after] at moved
        split at moved
        · cases moved
        · next allowed =>
          have assigned : stage = .assigned := by
            by_contra other
            exact allowed ⟨trivial, other⟩
          subst assigned
          exact holds
      | cons first before =>
        obtain ⟨rfl, below⟩ := List.cons_eq_cons.1 split
        rw [List.append_cons]
        exact ih (holds_after holds moved) followed below

end Stage

theorem isUsedWhereAssigned_of_foldlM {said : List Sign} {name : String}
    (followed : (said.foldlM (Stage.after name) .unassigned).isSome) :
    IsUsedWhereAssigned said name := by
  intro before rest split
  have nothingHolds : Stage.unassigned.Holds name [] := trivial
  exact Stage.isAssigned_of_foldlM nothingHolds followed split

/-! ## Imports and names -/

variable {text line name : List Char}

theorem isInfix_of_mem_splitOn (among : line ∈ text.splitOn '\n') : line <:+: text := by
  have joined : ['\n'].intercalate (text.splitOn '\n') = text := List.intercalate_splitOn '\n'
  rw [← joined]
  exact isInfix_intercalate ['\n'] among

theorem isInfix_of_importedClass? (imported : importedClass? line = some name) : name <:+: line := by
  unfold importedClass? at imported
  split at imported
  · next path read =>
    split at imported
    · cases imported
      have split := after?_eq_some_iff.1 read
      rw [split]
      exact ((List.rtakeWhile_suffix _ _).isInfix.trans (List.dropLast_prefix path).isInfix).trans
        (List.suffix_append _ _).isInfix
    · cases imported
  · cases imported

theorem imported_iff_named_of_absent (absent : ¬name <:+: text) :
    name ∈ importedClasses text ↔ IsNamed text name := by
  constructor
  · intro imported
    obtain ⟨line, among, read⟩ := List.mem_filterMap.1 imported
    exact absurd ((isInfix_of_importedClass? read).trans (isInfix_of_mem_splitOn among)) absent
  · rintro ⟨line, among, -, stands⟩
    exact absurd (stands.trans (isInfix_of_mem_splitOn among)) absent

theorem imported_iff_named_of_both (imported : name ∈ importedClasses text)
    (named : IsNamed text name) : name ∈ importedClasses text ↔ IsNamed text name :=
  ⟨fun _ => named, fun _ => imported⟩

theorem importedClass?_eq_none (unbegun : ¬"use ".toList <+: line) : importedClass? line = none := by
  unfold importedClass?
  split
  · next path read => exact absurd ⟨path, (after?_eq_some_iff.1 read).symm⟩ unbegun
  · rfl

/-! ## Instances -/

theorem rtakeWhile_append_cons {holds : Char → Bool} {front back : List Char} {last : Char}
    (stops : holds last = false) (all : ∀ character ∈ back, holds character = true) :
    (front ++ last :: back).rtakeWhile holds = back := by
  have backward : (front ++ last :: back).reverse = back.reverse ++ last :: front.reverse := by
    rw [List.reverse_append, List.reverse_cons, List.append_assoc, List.singleton_append]
  have allBackward : ∀ character ∈ back.reverse, holds character = true :=
    fun character member => all character (List.mem_reverse.1 member)
  rw [List.rtakeWhile, backward, List.takeWhile_append_of_pos allBackward,
    List.takeWhile_cons_of_neg (by rw [stops]; exact Bool.false_ne_true), List.append_nil,
    List.reverse_reverse]

theorem eq_append_of_madeClass? {made : List Char} (read : madeClass? text = some made) :
    ∃ back, text = "new ".toList ++ (made ++ '(' :: back) ∧
      ∀ character ∈ made, isWord character = true := by
  unfold madeClass? at read
  split at read
  · next rest follows =>
    simp only [Option.ite_none_right_eq_some, Option.some.injEq] at read
    obtain ⟨⟨-, opened⟩, rfl⟩ := read
    obtain ⟨back, dropped⟩ := List.head?_eq_some_iff.1 opened
    refine ⟨back, ?_, fun character member => List.mem_takeWhile_imp member⟩
    rw [after?_eq_some_iff.1 follows, ← dropped, List.takeWhile_append_dropWhile]
  · cases read

/-- What a line makes an instance of is named there, behind a keyword and before a bracket. -/
theorem eq_append_of_mem_madeClasses {made : List Char} (member : made ∈ madeClasses line) :
    ∃ front back, line = front ++ ("new ".toList ++ (made ++ '(' :: back)) ∧
      ∀ character ∈ made, isWord character = true := by
  induction line with
  | nil => cases member
  | cons character line ih =>
    rcases List.mem_append.1 member with here | below
    · obtain ⟨back, split, words⟩ := eq_append_of_madeClass? (Option.mem_toList.1 here)
      exact ⟨[], back, split, words⟩
    · obtain ⟨front, back, split, words⟩ := ih below
      exact ⟨character :: front, back, congrArg (character :: ·) split, words⟩

theorem madeClasses_eq_nil_of_unopened (unopened : '(' ∉ line) : madeClasses line = [] := by
  refine List.eq_nil_iff_forall_not_mem.2 fun made member => ?_
  obtain ⟨front, back, rfl, -⟩ := eq_append_of_mem_madeClasses member
  exact unopened (by simp)

theorem madeClasses_eq_nil_of_unmade (unmade : ¬"new ".toList <:+: line) : madeClasses line = [] := by
  refine List.eq_nil_iff_forall_not_mem.2 fun made member => ?_
  obtain ⟨front, back, rfl, -⟩ := eq_append_of_mem_madeClasses member
  exact unmade ⟨front, _, List.append_assoc _ _ _⟩

/-- A line in which one bracket opens makes an instance of the word before the bracket, if of any. -/
theorem eq_of_mem_madeClasses {front word back made : List Char} (noneBefore : '(' ∉ front)
    (words : ∀ character ∈ word, isWord character = true) (noneAfter : '(' ∉ back)
    (member : made ∈ madeClasses (front ++ ' ' :: (word ++ '(' :: back))) : made = word := by
  obtain ⟨ahead, rest, split, madeWords⟩ := eq_append_of_mem_madeClasses member
  have unopened : '(' ∉ front ++ ' ' :: word := by
    intro among
    rcases List.mem_append.1 among with before | inWord
    · exact noneBefore before
    · rcases List.mem_cons.1 inWord with same | inside
      · exact absurd same (by decide)
      · exact absurd (words '(' inside) (by decide)
  have lineUp : (front ++ ' ' :: word) ++ '(' :: back =
      ((ahead ++ "new".toList) ++ ' ' :: made) ++ '(' :: rest := by
    simpa using split
  obtain ⟨same, -, -⟩ := (List.append_cons_inj_of_notMem unopened noneAfter).1 lineUp
  have stops : isWord ' ' = false := by decide
  have lastWord : ((ahead ++ "new".toList) ++ ' ' :: made).rtakeWhile isWord = made :=
    rtakeWhile_append_cons stops madeWords
  rw [← lastWord, ← same, rtakeWhile_append_cons stops words]

end Scaffold.Source
