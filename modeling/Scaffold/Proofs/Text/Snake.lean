import Scaffold.Proofs.Text.Pascal

/-!
# Snake case by the neighbours of characters

Two scans break a text, the second what the first gave. Within a line they break it just before the
capitals that some neighbour sets off, and what is in snake case has none left.
-/

set_option autoImplicit false

namespace Scaffold.Text

/-! ## Breaks by position -/

/-- Whether a capital is at some place of a text but the first, with a small letter after it or a small
letter or digit before it. -/
def isHump (text : List Char) (place : Nat) : Bool :=
  0 < place && text[place]?.any isCapital &&
    (text[place + 1]?.any isSmall || text[place - 1]?.any isSmallOrDigit)

/-- A text with an underscore before each capital that is set off. -/
def breakAtHumps (text : List Char) : List Char :=
  text.zipIdx.flatMap fun (character, place) =>
    if isHump text place then ['_', character] else [character]

/-- What is left of a text after a character, with the underscores. -/
def humpsAfter (previous : Char) : List Char → List Char
  | [] => []
  | character :: rest =>
    if startsWord (character :: rest) || isSmallOrDigit previous && isCapital character then
      '_' :: character :: humpsAfter character rest
    else character :: humpsAfter character rest

theorem startsWord_cons (character : Char) (rest : List Char) :
    startsWord (character :: rest) = (isCapital character && rest.head?.any isSmall) := by
  cases rest with
  | nil => simp [startsWord]
  | cons next rest => rfl

theorem isHump_append (front : List Char) (previous character : Char) (rest : List Char) :
    isHump (front ++ previous :: character :: rest) (front.length + 1) =
      (startsWord (character :: rest) || isSmallOrDigit previous && isCapital character) := by
  have at_front (more : Nat) : (front ++ previous :: character :: rest)[front.length + more]? =
      (previous :: character :: rest)[more]? := by
    rw [List.getElem?_append_right (Nat.le_add_right _ _), Nat.add_sub_cancel_left]
  have after : (front ++ previous :: character :: rest)[front.length + 1 + 1]? = rest.head? := by
    rw [Nat.add_assoc, at_front, List.head?_eq_getElem?]
    rfl
  have before : (front ++ previous :: character :: rest)[front.length + 1 - 1]? = some previous :=
    at_front 0
  have here : (front ++ previous :: character :: rest)[front.length + 1]? = some character :=
    at_front 1
  rw [startsWord_cons, isHump, here, after, before]
  cases capital : isCapital character <;> simp [capital]

theorem breakAtHumps_cons (first : Char) (rest : List Char) :
    breakAtHumps (first :: rest) = first :: humpsAfter first rest := by
  -- What is left is taken together with what was before it, where the places are counted from.
  have general : ∀ (rest front : List Char) (previous : Char),
      ((rest.zipIdx (front.length + 1)).flatMap fun (character, place) =>
        if isHump (front ++ previous :: rest) place then ['_', character] else [character]) =
        humpsAfter previous rest := by
    intro rest
    induction rest with
    | nil => exact fun _ _ => rfl
    | cons character rest ih =>
      intro front previous
      have later := ih (front ++ [previous]) character
      rw [List.length_append, List.append_assoc] at later
      simp only [List.zipIdx_cons, List.flatMap_cons, isHump_append]
      rw [humpsAfter]
      split
      · exact congrArg (['_', character] ++ ·) later
      · exact congrArg ([character] ++ ·) later
  have firstKept : isHump (first :: rest) 0 = false := by simp [isHump]
  rw [breakAtHumps, List.zipIdx_cons, List.flatMap_cons]
  simp only [firstKept]
  exact congrArg (first :: ·) (general rest [] first)

theorem humpsAfter_of_startsWord {text : List Char} (starts : startsWord text = true)
    (previous : Char) : humpsAfter previous text = '_' :: breakAtHumps text := by
  cases text with
  | nil => cases starts
  | cons first rest =>
    rw [humpsAfter, starts, breakAtHumps_cons]
    rfl

/-! ## The two scans -/

theorem isCapital_iff {character : Char} :
    isCapital character = true ↔ character.toNat ∈ List.range' 65 26 := by
  simp only [isCapital, Bool.and_eq_true, decide_eq_true_eq, Char.le_def, UInt32.le_iff_toNat_le,
    List.mem_range'_1]
  exact and_congr_right fun _ => Nat.lt_succ_iff.symm

theorem isSmall_iff {character : Char} :
    isSmall character = true ↔ character.toNat ∈ List.range' 97 26 := by
  simp only [isSmall, Bool.and_eq_true, decide_eq_true_eq, Char.le_def, UInt32.le_iff_toNat_le,
    List.mem_range'_1]
  exact and_congr_right fun _ => Nat.lt_succ_iff.symm

theorem breakHumps_cons (character : Char) (text : List Char) :
    breakHumps (character :: text) =
      if isSmallOrDigit character && text.head?.any isCapital then
        character :: '_' :: breakHumps text
      else character :: breakHumps text := by
  cases text with
  | nil => simp [breakHumps]
  | cons next rest => rfl

theorem head?_breakWords (place : WordPlace) (text : List Char) :
    (breakWords place text).head? = text.head? := by
  cases text with
  | nil => rfl
  | cons character rest =>
    unfold breakWords
    split
    · rfl
    · split <;> rfl

theorem not_isCapital_of_isSmall {character : Char} (small : isSmall character = true) :
    isCapital character = false := by
  have others : ∀ code ∈ List.range' 97 26, isCapital (Char.ofNat code) = false := by decide
  exact of_toNat_mem (isSmall_iff.1 small) others

/-- Within a line the two scans break a text just before the capitals that are set off. -/
theorem breakHumps_breakWords_cons {place : WordPlace} {first : Char} {rest : List Char}
    (line : '\n' ∉ first :: rest)
    (begun : place = .capital → startsWord (first :: rest) = true) :
    breakHumps (breakWords place (first :: rest)) = first :: humpsAfter first rest := by
  induction rest generalizing place first with
  | nil =>
    have alone : breakWords place [first] = [first] := by
      simp [breakWords, startsWord]
    rw [alone]
    rfl
  | cons next rest ih =>
    have lineRest : '\n' ∉ next :: rest := fun member => line (List.mem_cons_of_mem _ member)
    -- Where the first scan does not break, a word that starts is left to the second.
    have unbroken (after : WordPlace) (begunAfter : after = .capital → startsWord (next :: rest) = true)
        (left : startsWord (next :: rest) = true →
          (isSmallOrDigit first && isCapital next) = true) :
        breakHumps (first :: breakWords after (next :: rest)) =
          first :: humpsAfter first (next :: rest) := by
      rw [breakHumps_cons, head?_breakWords, ih lineRest begunAfter, humpsAfter,
        List.head?_cons, Option.any_some]
      cases hump : isSmallOrDigit first && isCapital next with
      | true => simp
      | false =>
        have notStarted : startsWord (next :: rest) = false :=
          Bool.eq_false_iff.2 fun starts => by rw [left starts] at hump; cases hump
        simp [notStarted]
    rw [breakWords]
    split
    · next inWord =>
      refine unbroken .small nofun fun starts => ?_
      rw [startsWord_cons, Bool.and_eq_true] at starts
      simp only [Bool.or_eq_true, Bool.and_eq_true, decide_eq_true_eq] at inWord
      rcases inWord with capital | ⟨-, small⟩
      · have begunHere := begun capital
        simp only [startsWord, Bool.and_eq_true] at begunHere
        rw [not_isCapital_of_isSmall begunHere.2] at starts
        cases starts.1
      · simp [isSmallOrDigit, small, starts.1]
    · split
      · next breaks =>
        rw [Bool.and_eq_true] at breaks
        have capital : isCapital '_' = false := by decide
        have small : isSmallOrDigit '_' = false := by decide
        rw [breakHumps_cons, List.head?_cons, Option.any_some, capital, Bool.and_false,
          breakHumps_cons, small, Bool.false_and, ih lineRest fun _ => breaks.2, humpsAfter, breaks.2]
        rfl
      · next unbreaking =>
        refine unbroken .outside nofun fun starts => ?_
        have feed : first ≠ '\n' := fun feed => line (feed ▸ List.mem_cons_self)
        exact absurd (by simp [feed, starts]) unbreaking

theorem breakHumps_breakWords {text : List Char} (line : '\n' ∉ text) :
    breakHumps (breakWords .outside text) = breakAtHumps text := by
  cases text with
  | nil => rfl
  | cons first rest =>
    rw [breakAtHumps_cons]
    exact breakHumps_breakWords_cons line nofun

theorem snake_of_line {text : List Char} (line : '\n' ∉ text) :
    snake text = lower (underscoreGaps false (breakAtHumps text)) := by
  rw [snake, breakHumps_breakWords line]

/-! ## Texts without hyphens and blanks -/

theorem mem_breakAtHumps {text : List Char} {character : Char}
    (member : character ∈ breakAtHumps text) : character = '_' ∨ character ∈ text := by
  obtain ⟨⟨source, place⟩, among, put⟩ := List.mem_flatMap.1 member
  have inText := List.fst_mem_of_mem_zipIdx among
  dsimp only at put
  split at put
  · rcases List.mem_cons.1 put with underscore | same
    · exact .inl underscore
    · exact .inr (List.mem_singleton.1 same ▸ inText)
  · exact .inr (List.mem_singleton.1 put ▸ inText)

theorem underscoreGaps_eq_self {text : List Char}
    (joined : ∀ character ∈ text, isGap character = false) : underscoreGaps false text = text := by
  induction text with
  | nil => rfl
  | cons first rest ih =>
    obtain ⟨joinedFirst, joinedRest⟩ := List.forall_mem_cons.1 joined
    simp [underscoreGaps, joinedFirst, ih joinedRest]

/-- A text without hyphens and blanks is only broken and then lowered. -/
theorem snake_eq {text : List Char} (joined : ∀ character ∈ text, isGap character = false) :
    snake text = lower (breakAtHumps text) := by
  have line : '\n' ∉ text := fun member => absurd (joined '\n' member) (by decide)
  have joinedBroken : ∀ character ∈ breakAtHumps text, isGap character = false := by
    intro character member
    rcases mem_breakAtHumps member with rfl | among
    · decide
    · exact joined character among
  rw [snake_of_line line, underscoreGaps_eq_self joinedBroken]

/-! ## Snake case once more -/

theorem not_isCapital_of_lowerOf {character : Char} (settled : lowerOf character = [character]) :
    isCapital character = false := by
  have lowered : ∀ code ∈ List.range' 65 26, lowerOf (Char.ofNat code) ≠ [Char.ofNat code] := by
    decide +kernel
  refine Bool.eq_false_iff.2 fun capital => ?_
  have changes : lowerOf character ≠ [character] := of_toNat_mem (isCapital_iff.1 capital) lowered
  exact changes settled

theorem breakAtHumps_eq_self {text : List Char}
    (small : ∀ character ∈ text, isCapital character = false) : breakAtHumps text = text := by
  have unbroken : ∀ (rest : List Char) (previous : Char),
      (∀ character ∈ rest, isCapital character = false) → humpsAfter previous rest = rest := by
    intro rest
    induction rest with
    | nil => exact fun _ _ => rfl
    | cons character rest ih =>
      intro previous small
      obtain ⟨smallFirst, smallRest⟩ := List.forall_mem_cons.1 small
      simp [humpsAfter, startsWord_cons, smallFirst, ih character smallRest]
  cases text with
  | nil => rfl
  | cons first rest =>
    rw [breakAtHumps_cons, unbroken rest first (List.forall_mem_cons.1 small).2]

theorem snake_snake (text : List Char) : snake (snake text) = snake text := by
  have settled : ∀ character ∈ snake text, lowerOf character = [character] := lowerOf_of_mem_lower
  rw [snake_eq not_isGap_of_mem_snake,
    breakAtHumps_eq_self fun character member => not_isCapital_of_lowerOf (settled character member),
    lower_eq_self settled]

/-- A text without hyphens and blanks has for its snake case the lower case of itself with an underscore
before each capital that is set off, and for its kebab case the same with hyphens. Every text in Pascal
case is such a text. What is in snake case stays as it is. -/
theorem snakeCase_breaks_at_humps :
    (∀ word : String, (∀ character ∈ word.toList, isGap character = false) →
        snakeCase word = lowerCase (String.ofList (breakAtHumps word.toList)) ∧
          kebabCase word =
            (lowerCase (String.ofList (breakAtHumps word.toList))).map hyphenate) ∧
      (∀ text character, character ∈ (pascalCase text).toList → isGap character = false) ∧
      ∀ text, snakeCase (snakeCase text) = snakeCase text := by
  refine ⟨?_, ?_, ?_⟩
  · intro word joined
    have snake_eq := snake_eq joined
    constructor
    · rw [snakeCase, snake_eq, lowerCase, String.toList_ofList]
    · rw [← String.toList_inj, kebabCase, kebab, snake_eq, lowerCase, String.toList_map]
      simp only [String.toList_ofList]
  · intro text character member
    have joined := (isPascal_pascalCase text).joined character member
    simp only [isSeparator, Bool.or_eq_false_iff] at joined
    exact Bool.or_eq_false_iff.2 ⟨joined.1.1, joined.2⟩
  · intro text
    rw [snakeCase, snakeCase, String.toList_ofList, snake_snake]

/-- Capitals in a row are broken before the last of them, where a word of small letters begins. -/
theorem snakeCase_breaks_at_humps_service :
    (∀ character ∈ "HTTPServer2Go".toList, isGap character = false) ∧
      breakAtHumps "HTTPServer2Go".toList = "HTTP_Server2_Go".toList ∧
      snakeCase "HTTPServer2Go" = "http_server2_go" ∧
      kebabCase "HTTPServer2Go" = "http-server2-go" ∧
      snakeCase "http_server2_go" = "http_server2_go" := by
  obtain ⟨breaks, -, settled⟩ := snakeCase_breaks_at_humps
  have noGap : "HTTPServer2Go".toList.any isGap = false := by decide +kernel
  have joined : ∀ character ∈ "HTTPServer2Go".toList, isGap character = false :=
    fun character member => Bool.eq_false_iff.2 (List.any_eq_false.1 noGap character member)
  have broken : breakAtHumps "HTTPServer2Go".toList = "HTTP_Server2_Go".toList := by decide +kernel
  obtain ⟨snake_eq, kebab_eq⟩ := breaks "HTTPServer2Go" joined
  rw [broken, String.ofList_toList] at snake_eq kebab_eq
  have lowered : lowerCase "HTTP_Server2_Go" = "http_server2_go" := by decide +kernel
  have again := settled "HTTPServer2Go"
  rw [snake_eq, lowered] at again
  refine ⟨joined, broken, snake_eq.trans lowered, ?_, again⟩
  rw [kebab_eq, lowered]
  decide +kernel

end Scaffold.Text
