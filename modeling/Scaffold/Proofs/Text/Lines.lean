import Mathlib.Data.Bool.AllAny
import Scaffold.Proofs.Text.Blank

/-!
# The lines of a text

A text falls into lines in one way only: `AreLines` says which lists of lines those are. What is
put into a text changes the line that it is put into and no other one.
-/

set_option autoImplicit false

namespace Scaffold.Text

/-! ## Lists of lines -/

def joinLines (lines : List Line) : List Char :=
  lines.flatMap Line.toList

@[simp] theorem joinLines_nil : joinLines [] = [] := rfl

@[simp] theorem joinLines_cons (line : Line) (lines : List Line) :
    joinLines (line :: lines) = line.toList ++ joinLines lines := rfl

@[simp] theorem joinLines_append (above below : List Line) :
    joinLines (above ++ below) = joinLines above ++ joinLines below := by
  simp [joinLines]

/-- Whether characters end a line before what follows them. -/
inductive EndsLine : List Char → List Char → Prop where
  | returnFeed {below : List Char} : EndsLine ['\r', '\n'] below
  | single {character : Char} {below : List Char} :
      isLineEnd character = true → (character = '\r' → below.head? ≠ some '\n') →
      EndsLine [character] below

/-- Whether lines are what their text falls into: only the last one may lack an end, and then it
is not empty. -/
inductive AreLines : List Line → Prop where
  | nil : AreLines []
  | last {body : List Char} : body ≠ [] → (∀ character ∈ body, isLineEnd character = false) →
      AreLines [⟨body, []⟩]
  | cons {body ending : List Char} {lines : List Line} :
      (∀ character ∈ body, isLineEnd character = false) → EndsLine ending (joinLines lines) →
      AreLines lines → AreLines (⟨body, ending⟩ :: lines)

theorem joinLines_linesAfter (body text : List Char) :
    joinLines (linesAfter body text) = body.reverse ++ text := by
  fun_induction linesAfter body text with
  | case1 body empty => simp_all
  | case2 body filled => simp [Line.toList]
  | case3 body rest ih => simp [Line.toList, ih]
  | case4 body character rest _ ends ih => simp [Line.toList, ih]
  | case5 body character rest _ ends ih => simp [ih]

theorem joinLines_lines (text : List Char) : joinLines (lines text) = text :=
  joinLines_linesAfter [] text

theorem areLines_linesAfter {body : List Char}
    (unended : ∀ character ∈ body, isLineEnd character = false) (text : List Char) :
    AreLines (linesAfter body text) := by
  fun_induction linesAfter body text with
  | case1 body empty => exact .nil
  | case2 body filled =>
    refine .last (by simpa using filled) fun character member => ?_
    exact unended character (List.mem_reverse.1 member)
  | case3 body rest ih =>
    exact .cons (fun character member => unended character (List.mem_reverse.1 member))
      .returnFeed (ih (by simp))
  | case4 body character rest whole ends ih =>
    refine .cons (fun character member => unended character (List.mem_reverse.1 member))
      (.single ends fun isReturn => ?_) (ih (by simp))
    subst isReturn
    rw [joinLines_linesAfter, List.reverse_nil, List.nil_append]
    intro feed
    obtain ⟨below, rfl⟩ := List.head?_eq_some_iff.1 feed
    exact whole below rfl rfl
  | case5 body character rest _ goesOn ih =>
    refine ih fun other member => ?_
    rcases List.mem_cons.1 member with rfl | member
    · exact Bool.eq_false_iff.2 goesOn
    · exact unended other member

theorem areLines_lines (text : List Char) : AreLines (lines text) :=
  areLines_linesAfter (by simp) text

private theorem linesAfter_unended {front : List Char}
    (unended : ∀ character ∈ front, isLineEnd character = false) (body back : List Char) :
    linesAfter body (front ++ back) = linesAfter (front.reverse ++ body) back := by
  induction front generalizing body with
  | nil => rfl
  | cons first front ih =>
    have goesOn := unended first List.mem_cons_self
    have notReturn : first ≠ '\r' := by rintro rfl; exact absurd goesOn (by decide)
    have step : linesAfter body (first :: (front ++ back)) =
        linesAfter (first :: body) (front ++ back) := by
      rw [linesAfter.eq_3 _ _ _ fun _ isReturn => absurd isReturn notReturn, if_neg (by simp [goesOn])]
    rw [List.cons_append, step, ih fun character member => unended character
      (List.mem_cons_of_mem _ member)]
    simp

theorem lines_append_ending {body ending below : List Char}
    (unended : ∀ character ∈ body, isLineEnd character = false) (ends : EndsLine ending below) :
    lines (body ++ ending ++ below) = ⟨body, ending⟩ :: lines below := by
  rw [lines, List.append_assoc, linesAfter_unended unended, List.append_nil]
  cases ends with
  | returnFeed => simp [linesAfter, lines]
  | @single character below isEnd alone =>
    have whole : ∀ rest, character = '\r' → below = '\n' :: rest → False := by
      rintro rest isReturn rfl
      exact alone isReturn rfl
    rw [List.singleton_append, linesAfter.eq_3 _ _ _ whole, if_pos isEnd]
    simp [lines]

theorem lines_joinLines {pieces : List Line} (areLines : AreLines pieces) :
    lines (joinLines pieces) = pieces := by
  induction areLines with
  | nil => rfl
  | @last body filled unended =>
    have reached := linesAfter_unended unended [] []
    have notEmpty : body.reverse.isEmpty = false := by simpa using filled
    simp only [List.append_nil] at reached
    simp [lines, Line.toList, reached, linesAfter, notEmpty]
  | cons unended ends _ ih =>
    rw [joinLines_cons, Line.toList, lines_append_ending unended ends, ih]

/-- A text falls into lines in one way only. -/
theorem lines_eq_iff {text : List Char} {pieces : List Line} :
    lines text = pieces ↔ AreLines pieces ∧ joinLines pieces = text := by
  constructor
  · rintro rfl
    exact ⟨areLines_lines text, joinLines_lines text⟩
  · rintro ⟨areLines, rfl⟩
    exact lines_joinLines areLines

/-! ## Texts one after the other -/

/-- Lines with a text that ends none of them put before the first. -/
def prependLine (front : List Char) : List Line → List Line
  | [] => if front.isEmpty then [] else [⟨front, []⟩]
  | line :: lines => ⟨front ++ line.body, line.ending⟩ :: lines

@[simp] theorem prependLine_nil (pieces : List Line) : prependLine [] pieces = pieces := by
  cases pieces <;> rfl

theorem joinLines_prependLine (front : List Char) (pieces : List Line) :
    joinLines (prependLine front pieces) = front ++ joinLines pieces := by
  cases pieces with
  | nil => cases front <;> simp [prependLine, Line.toList]
  | cons line lines => simp [prependLine, Line.toList]

theorem AreLines.prependLine {front : List Char} {pieces : List Line}
    (unended : ∀ character ∈ front, isLineEnd character = false) (areLines : AreLines pieces) :
    AreLines (prependLine front pieces) := by
  have joined {body : List Char} (below : ∀ character ∈ body, isLineEnd character = false) :
      ∀ character ∈ front ++ body, isLineEnd character = false := fun character member =>
    (List.mem_append.1 member).elim (unended character) (below character)
  cases areLines with
  | nil =>
    cases front with
    | nil => exact .nil
    | cons first front => exact .last (List.cons_ne_nil first front) unended
  | last filled below => exact .last (List.append_ne_nil_of_right_ne_nil _ filled) (joined below)
  | cons below ends rest => exact .cons (joined below) ends rest

theorem lines_append_of_unended {front : List Char}
    (unended : ∀ character ∈ front, isLineEnd character = false) (text : List Char) :
    lines (front ++ text) = Text.prependLine front (lines text) :=
  lines_eq_iff.2 ⟨(areLines_lines text).prependLine unended, by
    rw [joinLines_prependLine, joinLines_lines]⟩

/-- A text as the lines that are ended in it and the beginning of the line that goes on after it,
unless a return at its end and a feed after it end a line together. -/
structure BreaksInto (text : List Char) (closed : List Line) (rest : List Char) : Prop where
  text_eq : text = joinLines closed ++ rest
  ended : ∀ last, (joinLines closed).getLast? = some last → isLineEnd last = true
  unended : ∀ character ∈ rest, isLineEnd character = false
  lines_append : ∀ below, (text.getLast? = some '\r' → below.head? ≠ some '\n') →
    lines (text ++ below) = closed ++ prependLine rest (lines below)

private theorem isLineEnd_getLast? {ending below : List Char} (ends : EndsLine ending below) :
    ∃ last, ending.getLast? = some last ∧ isLineEnd last = true := by
  cases ends with
  | returnFeed => exact ⟨'\n', rfl, by decide⟩
  | single isEnd => exact ⟨_, rfl, isEnd⟩

private theorem endsLine_append {ending above below : List Char} (ends : EndsLine ending above)
    (parted : above = [] → ending = ['\r'] → below.head? ≠ some '\n') :
    EndsLine ending (above ++ below) := by
  cases ends with
  | returnFeed => exact .returnFeed
  | single isEnd alone =>
    refine .single isEnd fun isReturn => ?_
    cases above with
    | nil => exact parted rfl (isReturn ▸ rfl)
    | cons first above => exact alone isReturn

private theorem AreLines.exists_breaksInto {pieces : List Line} (areLines : AreLines pieces) :
    ∃ closed rest, BreaksInto (joinLines pieces) closed rest := by
  induction areLines with
  | nil => exact ⟨[], [], rfl, by simp, by simp, fun below _ => by simp⟩
  | @last body filled unended =>
    refine ⟨[], body, by simp [Line.toList], by simp, unended, fun below _ => ?_⟩
    simpa [Line.toList] using lines_append_of_unended unended below
  | @cons body ending lines unended ends _ ih =>
    obtain ⟨closed, rest, broken⟩ := ih
    refine ⟨⟨body, ending⟩ :: closed, rest, ?_, fun last found => ?_, broken.unended,
      fun below parted => ?_⟩
    · rw [joinLines_cons, joinLines_cons, List.append_assoc, ← broken.text_eq]
    · obtain ⟨character, lastEnding, isEnd⟩ := isLineEnd_getLast? ends
      rw [joinLines_cons, Line.toList, List.getLast?_append, List.getLast?_append,
        lastEnding] at found
      cases lastClosed : (joinLines closed).getLast? with
      | none =>
        obtain rfl : character = last := by simpa [lastClosed] using found
        exact isEnd
      | some other =>
        obtain rfl : other = last := by simpa [lastClosed] using found
        exact broken.ended other lastClosed
    · have endsThere : EndsLine ending (joinLines lines ++ below) := by
        refine endsLine_append ends fun empty isReturn => parted ?_
        simp [Line.toList, empty, isReturn]
      have partedBelow : (joinLines lines).getLast? = some '\r' → below.head? ≠ some '\n' := by
        intro isReturn
        refine parted ?_
        rw [joinLines_cons, List.getLast?_append, isReturn, Option.some_or]
      rw [joinLines_cons, Line.toList, List.append_assoc, lines_append_ending unended endsThere,
        broken.lines_append below partedBelow, List.cons_append]

theorem exists_breaksInto (text : List Char) :
    ∃ closed rest, BreaksInto text closed rest := by
  have found := (areLines_lines text).exists_breaksInto
  rwa [joinLines_lines] at found

/-- A character at the end of a text that ends no line is at the end of the line that goes on. -/
theorem BreaksInto.getLast?_rest {text rest : List Char} {closed : List Line}
    (broken : BreaksInto text closed rest) {last : Char} (found : text.getLast? = some last)
    (goesOn : isLineEnd last = false) : rest.getLast? = some last := by
  rw [broken.text_eq, List.getLast?_append] at found
  cases lastRest : rest.getLast? with
  | some character => simpa [lastRest] using found
  | none =>
    have isEnd := broken.ended last (by simpa [lastRest] using found)
    rw [goesOn] at isEnd
    cases isEnd

/-- After a character that is not blank a line goes on with whatever follows it. -/
theorem exists_lines_append {front : List Char} {last : Char}
    (ends : front.getLast? = some last) (inked : isBlank last = false) :
    ∃ closed rest, front = joinLines closed ++ rest ∧ rest.getLast? = some last ∧
      (∀ character ∈ rest, isLineEnd character = false) ∧
      ∀ below, lines (front ++ below) = closed ++ prependLine rest (lines below) := by
  obtain ⟨closed, rest, broken⟩ := exists_breaksInto front
  have goesOn := not_isLineEnd_of_not_isBlank inked
  refine ⟨closed, rest, broken.text_eq, broken.getLast?_rest ends goesOn, broken.unended,
    fun below => ?_⟩
  refine broken.lines_append below fun isReturn => ?_
  rw [ends, Option.some.injEq] at isReturn
  exact absurd inked (isReturn ▸ by decide)

theorem prependLine_prependLine (front middle : List Char) (pieces : List Line) :
    prependLine front (prependLine middle pieces) = prependLine (front ++ middle) pieces := by
  cases pieces with
  | nil => cases front <;> cases middle <;> simp [prependLine]
  | cons line lines => simp [prependLine]

theorem prependLine_append (front : List Char) {above : List Line} (filled : above ≠ [])
    (below : List Line) : prependLine front (above ++ below) = prependLine front above ++ below := by
  cases above with
  | nil => exact absurd rfl filled
  | cons line above => rfl

theorem AreLines.of_append {above below : List Line} (areLines : AreLines (above ++ below)) :
    AreLines below := by
  induction above with
  | nil => exact areLines
  | cons line above ih =>
    refine ih ?_
    rw [List.cons_append] at areLines
    generalize above ++ below = rest at areLines ⊢
    cases areLines with
    | last => exact .nil
    | cons _ _ areRest => exact areRest

theorem AreLines.ending_ne_nil {above below : List Line} {line : Line}
    (areLines : AreLines (above ++ line :: below)) (filled : below ≠ []) : line.ending ≠ [] := by
  have areFrom : AreLines (line :: below) := areLines.of_append
  cases areFrom with
  | last => exact absurd rfl filled
  | cons _ ends _ => cases ends <;> exact List.cons_ne_nil _ _

theorem exists_lines_of_ne_nil {text : List Char} (filled : text ≠ []) :
    ∃ line below, lines text = line :: below ∧ line.toList ≠ [] := by
  have areLines := areLines_lines text
  cases lines_eq : lines text with
  | nil =>
    have text_eq := joinLines_lines text
    rw [lines_eq] at text_eq
    exact absurd text_eq.symm filled
  | cons line below =>
    rw [lines_eq] at areLines
    refine ⟨line, below, rfl, ?_⟩
    cases areLines with
    | last bodyFilled _ => exact List.append_ne_nil_of_left_ne_nil bodyFilled _
    | cons _ ends _ =>
      refine List.append_ne_nil_of_right_ne_nil _ ?_
      cases ends <;> exact List.cons_ne_nil _ _

private theorem head?_append_congr {above below other : List Char} {character : Char}
    (kept : other.head? = some character → below.head? = some character)
    (found : (above ++ other).head? = some character) :
    (above ++ below).head? = some character := by
  cases above with
  | nil => exact kept found
  | cons first above => exact found

/-- Lines keep their ends when other lines follow them, if those do not begin with a feed. -/
theorem AreLines.replace {above below other : List Line} (areLines : AreLines (above ++ below))
    (filled : below ≠ []) (areOther : AreLines other)
    (kept : (joinLines other).head? = some '\n' → (joinLines below).head? = some '\n') :
    AreLines (above ++ other) := by
  induction above with
  | nil => exact areOther
  | cons line above ih =>
    rw [List.cons_append] at areLines
    generalize reached : above ++ below = rest at areLines
    cases areLines with
    | last => exact absurd (List.append_eq_nil_iff.1 reached).2 filled
    | cons unended ends rest =>
      subst reached
      rw [List.cons_append]
      refine .cons unended ?_ (ih rest)
      cases ends with
      | returnFeed => exact .returnFeed
      | single isEnd alone =>
        refine .single isEnd fun isReturn feed => alone isReturn ?_
        rw [joinLines_append] at feed ⊢
        exact head?_append_congr kept feed

/-! ## Line ends read as feeds

A text that is read loses its returns. Its lines keep their bodies and plain ends stay plain, so what
is found by lines is found in the text as it was read and in the text that the file holds alike. -/

theorem feedLines_cons {character : Char} {text : List Char}
    (alone : ∀ below, character = '\r' → text = '\n' :: below → False) :
    feedLines (character :: text) =
      (if character = '\r' then '\n' else character) :: feedLines text :=
  feedLines.eq_3 _ _ alone

theorem feedLines_eq_self {text : List Char} (noReturn : '\r' ∉ text) : feedLines text = text := by
  fun_induction feedLines text with
  | case1 => rfl
  | case2 rest => simp at noReturn
  | case3 character rest _ ih =>
    rw [List.mem_cons, not_or] at noReturn
    rw [if_neg (Ne.symm noReturn.1), ih noReturn.2]

theorem return_not_mem_feedLines (text : List Char) : '\r' ∉ feedLines text := by
  fun_induction feedLines text with
  | case1 => exact List.not_mem_nil
  | case2 rest ih => simp [ih]
  | case3 character rest _ ih =>
    rw [List.mem_cons, not_or]
    refine ⟨fun isReturn => ?_, ih⟩
    by_cases same : character = '\r'
    · rw [if_pos same] at isReturn
      exact absurd isReturn (by decide)
    · rw [if_neg same] at isReturn
      exact same isReturn.symm

/-- A return and a feed become one feed only where the second of two texts begins with the feed. -/
theorem feedLines_append {front back : List Char}
    (apart : front.getLast? = some '\r' → back.head? ≠ some '\n') :
    feedLines (front ++ back) = feedLines front ++ feedLines back := by
  fun_induction feedLines front with
  | case1 => rfl
  | case2 rest ih =>
    have apartRest : rest.getLast? = some '\r' → back.head? ≠ some '\n' := fun isReturn =>
      apart (by rw [List.getLast?_cons, List.getLast?_cons, isReturn]; rfl)
    rw [List.cons_append, List.cons_append, feedLines, ih apartRest, List.cons_append]
  | case3 character rest alone ih =>
    have apartRest : rest.getLast? = some '\r' → back.head? ≠ some '\n' := fun isReturn =>
      apart (by rw [List.getLast?_cons, isReturn]; rfl)
    have aloneThere : ∀ below, character = '\r' → rest ++ back = '\n' :: below → False := by
      intro below isReturn split
      cases rest with
      | nil =>
        rw [List.nil_append] at split
        exact apart (isReturn ▸ rfl) (split ▸ rfl)
      | cons first others =>
        obtain ⟨rfl, -⟩ := List.cons_eq_cons.1 split
        exact alone others isReturn rfl
    rw [List.cons_append, feedLines_cons aloneThere, ih apartRest, List.cons_append]

theorem isAllBlank_feedLines {text : List Char} (blank : isAllBlank text = true) :
    isAllBlank (feedLines text) = true := by
  have feed : isBlank '\n' = true := by decide
  fun_induction feedLines text with
  | case1 => rfl
  | case2 rest ih =>
    simp only [isAllBlank_cons, Bool.and_eq_true] at blank ⊢
    exact ⟨feed, ih blank.2.2⟩
  | case3 character rest _ ih =>
    simp only [isAllBlank_cons, Bool.and_eq_true] at blank ⊢
    refine ⟨?_, ih blank.2⟩
    split
    · exact feed
    · exact blank.1

def Line.read (line : Line) : Line :=
  if line.ending = ['\r', '\n'] ∨ line.ending = ['\r'] then ⟨line.body, ['\n']⟩ else line

@[simp] theorem Line.read_body (line : Line) : line.read.body = line.body := by
  unfold read
  split <;> rfl

private theorem linesAfter_cons {character : Char} (other : character ≠ '\r')
    (body text : List Char) :
    linesAfter body (character :: text) =
      if isLineEnd character then ⟨body.reverse, [character]⟩ :: linesAfter [] text
      else linesAfter (character :: body) text :=
  linesAfter.eq_3 _ _ _ fun _ isReturn _ => other isReturn

theorem linesAfter_feedLines (body text : List Char) :
    linesAfter body (feedLines text) = (linesAfter body text).map Line.read := by
  fun_induction linesAfter body text with
  | case1 body empty => simp [feedLines, linesAfter, empty]
  | case2 body filled => simp [feedLines, linesAfter, filled, Line.read]
  | case3 body rest ih =>
    have feed : isLineEnd '\n' = true := by decide
    simp [feedLines, linesAfter, feed, ih, Line.read]
  | case4 body character rest alone isEnd ih =>
    rw [feedLines_cons alone]
    by_cases isReturn : character = '\r'
    · have feed : isLineEnd '\n' = true := by decide
      have other : '\n' ≠ '\r' := by decide
      rw [if_pos isReturn, linesAfter_cons other, if_pos feed, ih, List.map_cons, Line.read,
        if_pos (.inr (by rw [isReturn]))]
    · rw [if_neg isReturn, linesAfter_cons isReturn, if_pos isEnd, ih, List.map_cons, Line.read,
        if_neg (by simp [isReturn])]
  | case5 body character rest alone goesOn ih =>
    have isReturn : character ≠ '\r' := by
      rintro rfl
      exact goesOn (by decide)
    rw [feedLines_cons alone, if_neg isReturn, linesAfter_cons isReturn, if_neg goesOn, ih]

theorem lines_feedLines (text : List Char) :
    lines (feedLines text) = (lines text).map Line.read :=
  linesAfter_feedLines [] text

theorem AreLines.joinLines_read {pieces : List Line} (areLines : AreLines pieces) :
    joinLines (pieces.map Line.read) = feedLines (joinLines pieces) := by
  rw [← joinLines_lines (feedLines (joinLines pieces)), lines_feedLines, lines_joinLines areLines]

end Scaffold.Text
