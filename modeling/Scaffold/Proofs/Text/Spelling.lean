import Scaffold.Proofs.Text.Joined
import Scaffold.Proofs.Text.Snake

/-!
# Spellings of words in snake case

Words with an initial capital each may be run together, or lowered and then separated: in snake case
there is one underscore between them. If they are separated as they are there are two, one before the
capital and one for the separator.
-/

set_option autoImplicit false

namespace Scaffold.Text

/-! ## Words and how they are joined -/

/-- A word of a capital and small letters, of which there is at least one. -/
structure TitledWord where
  initial : Char
  others : List Char
  isCapital_initial : isCapital initial = true
  others_ne_nil : others ≠ []
  isSmall_others : ∀ character ∈ others, isSmall character = true

def TitledWord.text (word : TitledWord) : List Char :=
  word.initial :: word.others

/-- The lower case of a word. -/
def TitledWord.small (word : TitledWord) : List Char :=
  lower word.text

def TitledWord.name (word : TitledWord) : String :=
  String.ofList word.text

/-- Words with something between them. -/
def spelled (separator : String) (words : List TitledWord) : String :=
  separator.intercalate (words.map TitledWord.name)

/-- The lower case of words with something between them. -/
def spelledSmall (separator : String) (words : List TitledWord) : String :=
  separator.intercalate (words.map fun word => lowerCase word.name)

theorem toList_spelled (separator : String) (words : List TitledWord) :
    (spelled separator words).toList = separator.toList.intercalate (words.map TitledWord.text) := by
  rw [spelled, String.toList_intercalate, List.map_map]
  exact congrArg _ (List.map_congr_left fun word _ => String.toList_ofList)

theorem toList_spelledSmall (separator : String) (words : List TitledWord) :
    (spelledSmall separator words).toList =
      separator.toList.intercalate (words.map TitledWord.small) := by
  rw [spelledSmall, String.toList_intercalate, List.map_map]
  refine congrArg _ (List.map_congr_left fun word _ => ?_)
  simp only [Function.comp_apply, lowerCase, TitledWord.name, TitledWord.small,
    String.toList_ofList]

/-! ## Letters of words -/

/-- Whether a text is not empty and has no hyphens and blanks. -/
structure IsSolid (piece : List Char) : Prop where
  filled : piece ≠ []
  joined : ∀ character ∈ piece, isGap character = false

namespace TitledWord

variable {word : TitledWord}

/-- What all letters have, those of words have. -/
theorem forall_mem_text {property : Char → Prop}
    (letters : ∀ code ∈ List.range' 65 26 ++ List.range' 97 26, property (Char.ofNat code)) :
    ∀ character ∈ word.text, property character := by
  intro character member
  have listed : character.toNat ∈ List.range' 65 26 ++ List.range' 97 26 := by
    rcases List.mem_cons.1 member with rfl | later
    · exact List.mem_append_left _ (isCapital_iff.1 word.isCapital_initial)
    · exact List.mem_append_right _ (isSmall_iff.1 (word.isSmall_others character later))
  exact of_toNat_mem listed letters

theorem not_isGap : ∀ character ∈ word.text, isGap character = false :=
  forall_mem_text (by decide +kernel)

theorem ne_sigma : ∀ character ∈ word.text, character ≠ 'Σ' :=
  forall_mem_text (by decide +kernel)

theorem small_eq (word : TitledWord) : word.small = word.text.flatMap lowerOf :=
  lower_eq_flatMap fun member => word.ne_sigma 'Σ' member rfl

theorem isSolid_text (word : TitledWord) : IsSolid word.text :=
  ⟨List.cons_ne_nil _ _, word.not_isGap⟩

theorem isSolid_small (word : TitledWord) : IsSolid word.small where
  filled := by
    have lowered : ∀ character ∈ word.text, lowerOf character ≠ [] :=
      forall_mem_text (by decide +kernel)
    rw [small_eq, text, List.flatMap_cons]
    exact List.append_ne_nil_of_left_ne_nil (lowered word.initial List.mem_cons_self) _
  joined := not_isGap_of_mem_lower word.not_isGap

theorem underscore_not_mem_small : '_' ∉ word.small := by
  intro member
  have lowered : ∀ character ∈ word.text, '_' ∉ lowerOf character :=
    forall_mem_text (by decide +kernel)
  rw [small_eq, List.mem_flatMap] at member
  obtain ⟨character, among, underscore⟩ := member
  exact lowered character among underscore

end TitledWord

/-! ## Breaks between words -/

theorem exists_humpsAfter_append {piece : List Char}
    (small : ∀ character ∈ piece, isCapital character = false) (previous : Char)
    (rest : List Char) :
    ∃ last, humpsAfter previous (piece ++ rest) = piece ++ humpsAfter last rest := by
  induction piece generalizing previous with
  | nil => exact ⟨previous, rfl⟩
  | cons first piece ih =>
    obtain ⟨smallFirst, smallPiece⟩ := List.forall_mem_cons.1 small
    obtain ⟨last, humps_eq⟩ := ih smallPiece first
    refine ⟨last, ?_⟩
    simp [humpsAfter, startsWord_cons, smallFirst, humps_eq]

namespace TitledWord

theorem startsWord_text (word : TitledWord) (rest : List Char) :
    startsWord (word.text ++ rest) = true := by
  obtain ⟨second, others, others_eq⟩ := List.exists_cons_of_ne_nil word.others_ne_nil
  have small : isSmall second = true :=
    word.isSmall_others second (others_eq ▸ List.mem_cons_self)
  simp [text, others_eq, startsWord, word.isCapital_initial, small]

/-- A word is broken off from whatever is before it. -/
theorem exists_humpsAfter_text (word : TitledWord) (previous : Char) (rest : List Char) :
    ∃ last, humpsAfter previous (word.text ++ rest) =
      '_' :: (word.text ++ humpsAfter last rest) := by
  have small : ∀ character ∈ word.others, isCapital character = false := fun character member =>
    not_isCapital_of_isSmall (word.isSmall_others character member)
  obtain ⟨last, humps_eq⟩ := exists_humpsAfter_append small word.initial rest
  have starts := word.startsWord_text rest
  rw [text, List.cons_append] at starts ⊢
  refine ⟨last, ?_⟩
  rw [humpsAfter, starts, Bool.true_or, if_pos rfl, humps_eq]
  rfl

end TitledWord

theorem humpsAfter_intercalate {gap : List Char}
    (small : ∀ character ∈ gap, isCapital character = false) (word : TitledWord)
    (words : List TitledWord) (previous : Char) :
    humpsAfter previous (gap.intercalate ((word :: words).map TitledWord.text)) =
      '_' :: (gap ++ ['_']).intercalate ((word :: words).map TitledWord.text) := by
  induction words generalizing word previous with
  | nil =>
    obtain ⟨last, humps_eq⟩ := word.exists_humpsAfter_text previous []
    rw [List.append_nil, humpsAfter, List.append_nil] at humps_eq
    simpa only [List.map_singleton, List.intercalate_singleton] using humps_eq
  | cons next words ih =>
    simp only [List.map_cons, List.intercalate_cons_cons, List.append_assoc] at ih ⊢
    obtain ⟨last, word_eq⟩ := word.exists_humpsAfter_text previous
      (gap ++ gap.intercalate (next.text :: words.map TitledWord.text))
    obtain ⟨inGap, gap_eq⟩ := exists_humpsAfter_append small last
      (gap.intercalate (next.text :: words.map TitledWord.text))
    rw [word_eq, gap_eq, ih]
    rfl

/-- Words are broken apart after what is between them. -/
theorem breakAtHumps_intercalate {gap : List Char}
    (small : ∀ character ∈ gap, isCapital character = false) (word : TitledWord)
    (words : List TitledWord) :
    breakAtHumps (gap.intercalate ((word :: words).map TitledWord.text)) =
      (gap ++ ['_']).intercalate ((word :: words).map TitledWord.text) := by
  have starts : startsWord (gap.intercalate ((word :: words).map TitledWord.text)) = true := by
    cases words with
    | nil =>
      rw [List.map_singleton, List.intercalate_singleton, ← List.append_nil word.text]
      exact word.startsWord_text []
    | cons next words =>
      rw [List.map_cons, List.map_cons, List.intercalate_cons_cons, List.append_assoc]
      exact word.startsWord_text _
  have humps_eq := humpsAfter_intercalate small word words ' '
  rw [humpsAfter_of_startsWord starts] at humps_eq
  exact List.tail_eq_of_cons_eq humps_eq

/-! ## Underscores for gaps -/

theorem not_isCapital_of_isGap {character : Char} (gap : isGap character = true) :
    isCapital character = false := by
  have others : ∀ code ∈ gapCodes, isCapital (Char.ofNat code) = false := by decide
  exact of_toNat_mem (isGap_iff.1 gap) others

theorem IsSolid.underscoreGaps_append {piece : List Char} (solid : IsSolid piece) (inGap : Bool)
    (rest : List Char) :
    underscoreGaps inGap (piece ++ rest) = piece ++ underscoreGaps false rest := by
  obtain ⟨filled, joined⟩ := solid
  induction piece generalizing inGap with
  | nil => exact absurd rfl filled
  | cons first piece ih =>
    obtain ⟨joinedFirst, joinedPiece⟩ := List.forall_mem_cons.1 joined
    rw [List.cons_append, underscoreGaps, joinedFirst, if_neg Bool.false_ne_true]
    cases piece with
    | nil => rfl
    | cons second piece => exact congrArg (first :: ·) (ih false (List.cons_ne_nil _ _) joinedPiece)

theorem underscoreGaps_append_of_isGap {gap : List Char} (filled : gap ≠ [])
    (gaps : ∀ character ∈ gap, isGap character = true) (rest : List Char) :
    underscoreGaps false (gap ++ rest) = '_' :: underscoreGaps true rest := by
  have within : ∀ gap : List Char, (∀ character ∈ gap, isGap character = true) →
      underscoreGaps true (gap ++ rest) = underscoreGaps true rest := by
    intro gap
    induction gap with
    | nil => exact fun _ => rfl
    | cons first gap ih =>
      intro gaps
      obtain ⟨isGapFirst, isGapRest⟩ := List.forall_mem_cons.1 gaps
      rw [List.cons_append, underscoreGaps, isGapFirst, if_pos rfl, if_pos rfl, ih isGapRest]
  obtain ⟨first, others, rfl⟩ := List.exists_cons_of_ne_nil filled
  obtain ⟨isGapFirst, isGapRest⟩ := List.forall_mem_cons.1 gaps
  rw [List.cons_append, underscoreGaps, isGapFirst, if_pos rfl, if_neg Bool.false_ne_true,
    within others isGapRest]

/-- A mark after a gap stays and is read with the next piece, since it may be empty; so there may be
something before the first piece too. -/
theorem underscoreGaps_append_intercalate {gap mark : List Char} (filled : gap ≠ [])
    (gaps : ∀ character ∈ gap, isGap character = true)
    (joined : ∀ character ∈ mark, isGap character = false) {lead piece : List Char}
    {pieces : List (List Char)} (solidLed : IsSolid (lead ++ piece))
    (solid : ∀ piece ∈ pieces, IsSolid piece) (inGap : Bool) :
    underscoreGaps inGap (lead ++ (gap ++ mark).intercalate (piece :: pieces)) =
      lead ++ ('_' :: mark).intercalate (piece :: pieces) := by
  induction pieces generalizing lead piece inGap with
  | nil =>
    have read := solidLed.underscoreGaps_append inGap []
    rw [List.append_nil, underscoreGaps, List.append_nil] at read
    simpa only [List.intercalate_singleton] using read
  | cons next pieces ih =>
    obtain ⟨solidNext, solidRest⟩ := List.forall_mem_cons.1 solid
    have solidMarked : IsSolid (mark ++ next) :=
      ⟨List.append_ne_nil_of_right_ne_nil mark solidNext.filled,
        List.forall_mem_append.2 ⟨joined, solidNext.joined⟩⟩
    have later := ih solidMarked solidRest true
    simp only [List.intercalate_cons_cons, List.append_assoc] at later ⊢
    rw [← List.append_assoc lead, solidLed.underscoreGaps_append,
      underscoreGaps_append_of_isGap filled gaps, later]
    simp

/-- A gap between pieces becomes one underscore. -/
theorem underscoreGaps_intercalate {gap mark : List Char} (filled : gap ≠ [])
    (gaps : ∀ character ∈ gap, isGap character = true)
    (joined : ∀ character ∈ mark, isGap character = false) {pieces : List (List Char)}
    (solid : ∀ piece ∈ pieces, IsSolid piece) :
    underscoreGaps false ((gap ++ mark).intercalate pieces) = ('_' :: mark).intercalate pieces := by
  cases pieces with
  | nil => rfl
  | cons piece pieces =>
    obtain ⟨solidPiece, solidRest⟩ := List.forall_mem_cons.1 solid
    have solidLed : IsSolid ([] ++ piece) := solidPiece
    exact underscoreGaps_append_intercalate filled gaps joined solidLed solidRest false

/-! ## Spellings of the same words -/

section Spellings

variable {gap : List Char} (words : List TitledWord)

theorem forall_mem_joined {property : Char → Prop} {separator : List Char}
    (between : ∀ character ∈ separator, property character)
    (letters : ∀ word : TitledWord, ∀ character ∈ word.text, property character) :
    ∀ character ∈ separator.intercalate (words.map TitledWord.text), property character :=
  forall_mem_intercalate between (List.forall_mem_map.2 fun word _ => letters word)

theorem lower_joined {separator : List Char} (marks : ∀ mark ∈ separator, mark = '_') :
    lower (separator.intercalate (words.map TitledWord.text)) =
      separator.intercalate (words.map TitledWord.small) := by
  have noSigma : ∀ character ∈ separator.intercalate (words.map TitledWord.text),
      character ≠ 'Σ' :=
    forall_mem_joined words (fun mark member => marks mark member ▸ by decide)
      fun word => word.ne_sigma
  have settled : separator.flatMap lowerOf = separator := by
    have settledMarks : ∀ mark ∈ separator, lowerOf mark = [mark] := fun mark member =>
      marks mark member ▸ by decide +kernel
    rw [List.flatMap_congr settledMarks, List.flatMap_singleton']
  rw [lower_eq_flatMap fun member => noSigma 'Σ' member rfl, flatMap_intercalate, settled,
    List.map_map]
  exact congrArg _ (List.map_congr_left fun word _ => word.small_eq.symm)

/-- Words that are run together are broken apart. -/
theorem snake_joined (filled : words ≠ []) :
    snake ([].intercalate (words.map TitledWord.text)) =
      ['_'].intercalate (words.map TitledWord.small) := by
  obtain ⟨word, others, rfl⟩ := List.exists_cons_of_ne_nil filled
  rw [snake_eq (forall_mem_joined _ (List.forall_mem_nil _) fun word => word.not_isGap),
    breakAtHumps_intercalate (List.forall_mem_nil _)]
  exact lower_joined _ (List.forall_mem_singleton.2 rfl)

variable (filledGap : gap ≠ []) (gaps : ∀ character ∈ gap, isGap character = true)
  (line : '\n' ∉ gap)

include filledGap gaps line

/-- Words that are separated as they are are broken apart at the gap and once more at the capital. -/
theorem snake_separated (filled : words ≠ []) :
    snake (gap.intercalate (words.map TitledWord.text)) =
      ['_', '_'].intercalate (words.map TitledWord.small) := by
  obtain ⟨word, others, rfl⟩ := List.exists_cons_of_ne_nil filled
  have noFeed : ∀ character ∈ gap.intercalate ((word :: others).map TitledWord.text),
      character ≠ '\n' :=
    forall_mem_joined _ (fun character member feed => line (feed ▸ member)) fun word =>
      word.forall_mem_text (by decide)
  rw [snake_of_line fun member => noFeed '\n' member rfl,
    breakAtHumps_intercalate fun character member => not_isCapital_of_isGap (gaps character member),
    underscoreGaps_intercalate filledGap gaps (List.forall_mem_singleton.2 (by decide))
      (List.forall_mem_map.2 fun word _ => word.isSolid_text)]
  exact lower_joined _ (by simp)

/-- Words that are lowered first are broken apart at the gap only. -/
theorem snake_separated_lower :
    snake (gap.intercalate (words.map TitledWord.small)) =
      ['_'].intercalate (words.map TitledWord.small) := by
  have noFeed : ∀ character ∈ gap.intercalate (words.map TitledWord.small),
      character ≠ '\n' := by
    refine forall_mem_intercalate (fun character member feed => line (feed ▸ member))
      (List.forall_mem_map.2 fun word _ character member feed => ?_)
    exact absurd (word.isSolid_small.joined character member) (by rw [feed]; decide)
  have small : ∀ character ∈ gap.intercalate (words.map TitledWord.small),
      isCapital character = false :=
    forall_mem_intercalate
      (fun character member => not_isCapital_of_isGap (gaps character member))
      (List.forall_mem_map.2 fun word _ character member =>
        not_isCapital_of_lowerOf (lowerOf_of_mem_lower character member))
  have marked : underscoreGaps false ((gap ++ []).intercalate (words.map TitledWord.small)) =
      ['_'].intercalate (words.map TitledWord.small) :=
    underscoreGaps_intercalate filledGap gaps (List.forall_mem_nil _)
      (List.forall_mem_map.2 fun word _ => word.isSolid_small)
  rw [List.append_nil] at marked
  have settled : ∀ character ∈ ['_'].intercalate (words.map TitledWord.small),
      lowerOf character = [character] :=
    forall_mem_intercalate (List.forall_mem_singleton.2 (by decide +kernel))
      (List.forall_mem_map.2 fun word _ => lowerOf_of_mem_lower)
  rw [snake_of_line fun member => noFeed '\n' member rfl, breakAtHumps_eq_self small, marked,
    lower_eq_self settled]

end Spellings

theorem spelledSmall_eq_iff {words : List TitledWord} (filled : words ≠ []) :
    spelledSmall "__" words = spelledSmall "_" words ↔ words.length = 1 := by
  have count_eq (separator : String) : (spelledSmall separator words).toList.count '_' =
      (words.length - 1) * separator.toList.count '_' := by
    rw [toList_spelledSmall, count_intercalate _ (List.forall_mem_map.2 fun word _ =>
      word.underscore_not_mem_small), List.length_map]
  constructor
  · intro same
    have twice : (words.length - 1) * 2 = (words.length - 1) * 1 :=
      (count_eq "__").symm.trans ((congrArg (·.toList.count '_') same).trans (count_eq "_"))
    have positive := List.length_pos_iff.2 filled
    omega
  · intro one
    obtain ⟨word, rfl⟩ := List.length_eq_one_iff.1 one
    simp [spelledSmall]

/-- In snake case there is one underscore between words that are run together, and between words that are
lowered and then separated by hyphens and blanks in a line. There are two if they are separated as they
are, which makes a difference as soon as there are two words. -/
theorem snakeCase_spelled {words : List TitledWord} (filled : words ≠ []) {gap : String}
    (filledGap : gap ≠ "") (gaps : ∀ character ∈ gap.toList, isGap character = true)
    (line : '\n' ∉ gap.toList) :
    snakeCase (spelled "" words) = spelledSmall "_" words ∧
      snakeCase (spelledSmall gap words) = spelledSmall "_" words ∧
      snakeCase (spelled gap words) = spelledSmall "__" words ∧
      (snakeCase (spelled gap words) = snakeCase (spelled "" words) ↔ words.length = 1) := by
  have filledList : gap.toList ≠ [] := String.toList_eq_nil_iff.not.2 filledGap
  have joined : snakeCase (spelled "" words) = spelledSmall "_" words := by
    rw [← String.toList_inj, snakeCase, String.toList_ofList, toList_spelled, toList_spelledSmall]
    exact snake_joined words filled
  have lowered : snakeCase (spelledSmall gap words) = spelledSmall "_" words := by
    rw [← String.toList_inj, snakeCase, String.toList_ofList, toList_spelledSmall,
      toList_spelledSmall]
    exact snake_separated_lower words filledList gaps line
  have separated : snakeCase (spelled gap words) = spelledSmall "__" words := by
    rw [← String.toList_inj, snakeCase, String.toList_ofList, toList_spelled, toList_spelledSmall]
    exact snake_separated words filledList gaps line filled
  refine ⟨joined, lowered, separated, ?_⟩
  rw [separated, joined]
  exact spelledSmall_eq_iff filled

def fooWord : TitledWord :=
  ⟨'F', ['o', 'o'], by decide, by decide, List.all_eq_true.1 (by decide)⟩

def barWord : TitledWord :=
  ⟨'B', ['a', 'r'], by decide, by decide, List.all_eq_true.1 (by decide)⟩

theorem snakeCase_spelled_foo_bar :
    [fooWord, barWord] ≠ [] ∧ "-" ≠ "" ∧ (∀ character ∈ "-".toList, isGap character = true) ∧
      '\n' ∉ "-".toList ∧ snakeCase "FooBar" = "foo_bar" ∧ snakeCase "foo-bar" = "foo_bar" ∧
      snakeCase "Foo-Bar" = "foo__bar" := by
  have filled : [fooWord, barWord] ≠ [] := List.cons_ne_nil _ _
  have gaps : ∀ character ∈ "-".toList, isGap character = true := List.all_eq_true.1 (by decide)
  have line : '\n' ∉ "-".toList := by decide
  obtain ⟨joined, lowered, separated, -⟩ := snakeCase_spelled filled (by decide) gaps line
  have joined_eq : spelled "" [fooWord, barWord] = "FooBar" := by decide +kernel
  have lowered_eq : spelledSmall "-" [fooWord, barWord] = "foo-bar" := by decide +kernel
  have separated_eq : spelled "-" [fooWord, barWord] = "Foo-Bar" := by decide +kernel
  rw [joined_eq] at joined
  rw [lowered_eq] at lowered
  rw [separated_eq] at separated
  exact ⟨filled, by decide, gaps, line, joined.trans (by decide +kernel),
    lowered.trans (by decide +kernel), separated.trans (by decide +kernel)⟩

/-- Words are not in one snake case however they are separated. -/
theorem snakeCase_spelled_apart :
    ¬∀ words : List TitledWord, words ≠ [] → ∀ gap ∈ ["", "-", " "],
      snakeCase (spelled gap words) = spelledSmall "_" words := by
  intro same
  have apart : snakeCase (spelled "-" [fooWord, barWord]) ≠ spelledSmall "_" [fooWord, barWord] := by
    decide +kernel
  exact apart (same _ (List.cons_ne_nil _ _) "-" (by decide))

end Scaffold.Text
