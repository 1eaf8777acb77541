import ClientGen.Text.Class.Word
import ClientGen.Text.Class.Digit
import ClientGen.Text.Split

/-!
# Filling paragraphs

A paragraph is broken into lines of at most a given width.  First it is cut into chunks (a run of
spaces, a word, or a part of a hyphenated word), then the chunks are packed greedily into lines.

Two habits are supported.  `Habit.wholeWords` never breaks inside a word, so a word wider than the
line stands on a line of its own.  `Habit.hyphenated` may break after a hyphen and around a dash of
two or more hyphens, and cuts a word that is wider than the line.

Main definition: `wrap`.  Packing ends because every line takes something from the chunks:
`weight_nextLine_lt`.
-/

namespace ClientGen.Text

namespace Wrap

/-- Where a line may end. -/
inductive Habit where
  | wholeWords
  | hyphenated
deriving DecidableEq, Repr

/-- A piece that stays together when lines are packed. -/
abbrev Chunk := List Char

/-! ## Spaces -/

/-- The characters that separate the words of a paragraph. -/
def isSpacer (c : Char) : Bool :=
  c == ' ' || (9 ≤ c.toNat && c.toNat ≤ 13)

/-- Tabs become spaces up to the next column that is a multiple of eight; columns are counted from
the last line feed or carriage return. -/
def expandTabs (column : Nat) : List Char → List Char
  | [] => []
  | c :: rest =>
    if c = '\t' then
      let gap := 8 - column % 8
      List.replicate gap ' ' ++ expandTabs (column + gap) rest
    else if c = '\n' || c = '\r' then c :: expandTabs 0 rest
    else c :: expandTabs (column + 1) rest

/-- A paragraph in which only the space separates words. -/
def spaced (cs : List Char) : List Char :=
  (expandTabs 0 cs).map fun c => if isSpacer c then ' ' else c

/-! ## Chunks -/

/-- A character next to which a dash separates: part of a word, or punctuation that clings to
one. -/
def clings (c : Char) : Bool :=
  isWord c || ['!', '"', '\x27', '&', '.', ',', '?'].contains c

/-- A word character that is not a digit. -/
def isLetter (c : Char) : Bool :=
  isWord c && !isDecimalDigit c

/-- The number of hyphens of a dash that stands between two words; zero if there is none here.
What precedes is given nearest character first. -/
def dashLength (before rest : List Char) : Nat :=
  let dash := (rest.takeWhile (· == '-')).length
  if before.head?.any clings && 2 ≤ dash && (rest.drop dash).head?.any isWord then dash else 0

/-- Whether two letters come next, perhaps with a hyphen between them. -/
def twoLetters : List Char → Bool
  | a :: '-' :: b :: _ => isLetter a && isLetter b
  | a :: b :: _ => isLetter a && isLetter b
  | _ => false

/-- Whether a hyphen stands here after which a word may break: on both of its sides there are two
letters. -/
def hyphenHere (before : List Char) : List Char → Bool
  | '-' :: rest => twoLetters before && twoLetters rest
  | _ => false

/-- The length of the part of a word that starts here: up to and with the first hyphen after which
it may break, or up to its end, or up to a dash. -/
def partLength (before : List Char) : List Char → Nat
  | [] => 0
  | c :: rest =>
    let before := c :: before
    -- The hyphen that follows stays with the part that it ends.
    if hyphenHere before rest then 2
    else if rest.head?.all (· == ' ') || dashLength before rest != 0 then 1
    else 1 + partLength before rest

/-- The length of the chunk that starts here. -/
def chunkLength (habit : Habit) (before cs : List Char) : Nat :=
  if cs.head? == some ' ' then (cs.takeWhile (· == ' ')).length
  else match habit with
    | .wholeWords => (cs.takeWhile (· != ' ')).length
    | .hyphenated =>
      let dash := dashLength before cs
      if dash != 0 then dash else partLength before cs

/-- The chunks of the rest of a paragraph, given what stands before it, nearest character first. -/
def chunksAfter (habit : Habit) (before : List Char) : List Char → List Chunk
  | [] => []
  | c :: rest =>
    let more := chunkLength habit before (c :: rest) - 1
    (c :: rest.take more) ::
      chunksAfter habit ((rest.take more).reverse ++ c :: before) (rest.drop more)
termination_by cs => cs.length
decreasing_by
  simp only [List.length_drop, List.length_cons]
  omega

/-! ## Lines -/

/-- The number of characters of some chunks. -/
def width (chunks : List Chunk) : Nat :=
  chunks.flatten.length

/-- The chunks that fit on a line of which `used` columns are taken, and those that do not. -/
def takeFitting (limit used : Nat) : List Chunk → List Chunk × List Chunk
  | [] => ([], [])
  | c :: rest =>
    if used + c.length ≤ limit then
      let fitting := takeFitting limit (used + c.length) rest
      (c :: fitting.1, fitting.2)
    else ([], c :: rest)

/-- Where a word too wide for the line is cut, if `space` columns are left: after its last hyphen
in that space, unless only hyphens precede that one, and else at the end of the space. -/
def cutPoint (space : Nat) (word : Chunk) : Nat :=
  if space < word.length then
    match cutLast? '-' (word.take space) with
    | some (before, _) =>
      if before.any (· != '-') then before.length + 1 else space
    | none => space
  else space

/-- A line is completed by a first part of the next word if that is too wide for any line. -/
def fitLong (habit : Habit) (limit : Nat) (line rest : List Chunk) : List Chunk × List Chunk :=
  match rest with
  | [] => (line, [])
  | word :: others =>
    if word.length ≤ limit then (line, rest)
    else match habit with
      | .hyphenated =>
        -- A line without any room still takes one character, or packing would not end.
        let space := if limit < 1 then 1 else limit - width line
        let n := cutPoint space word
        (line ++ [word.take n], word.drop n :: others)
      | .wholeWords => if line.isEmpty then ([word], others) else (line, rest)

/-- A line without a blank chunk at its end. -/
def dropBlankEnd (line : List Chunk) : List Chunk :=
  if line.getLast?.any isBlankText then line.dropLast else line

/-- A blank chunk is not carried to the start of a line, save the first one. -/
def dropBlankStart (started : Bool) : List Chunk → List Chunk
  | [] => []
  | c :: rest => if started && isBlankText c then rest else c :: rest

/-- The next line and the chunks that remain. -/
def nextLine (habit : Habit) (limit : Nat) (started : Bool) (chunks : List Chunk) :
    List Chunk × List Chunk :=
  let fitting := takeFitting limit 0 (dropBlankStart started chunks)
  let filled := fitLong habit limit fitting.1 fitting.2
  (dropBlankEnd filled.1, filled.2)

/-- A measure of what remains to be packed. -/
def weight : List Chunk → Nat
  | [] => 0
  | c :: rest => c.length + 1 + weight rest

theorem weight_cons (c : Chunk) (chunks : List Chunk) :
    weight (c :: chunks) = c.length + 1 + weight chunks := rfl

theorem weight_append (first second : List Chunk) :
    weight (first ++ second) = weight first + weight second := by
  induction first with
  | nil => simp only [List.nil_append, weight, Nat.zero_add]
  | cons c rest ih => simp only [List.cons_append, weight, ih, Nat.add_assoc]

theorem takeFitting_append (limit used : Nat) (chunks : List Chunk) :
    (takeFitting limit used chunks).1 ++ (takeFitting limit used chunks).2 = chunks := by
  induction chunks generalizing used with
  | nil => simp [takeFitting]
  | cons c rest ih =>
    simp only [takeFitting]
    split
    · simpa using ih (used + c.length)
    · simp

theorem weight_takeFitting (limit used : Nat) (chunks : List Chunk) :
    weight (takeFitting limit used chunks).1 + weight (takeFitting limit used chunks).2
      = weight chunks := by
  rw [← weight_append, takeFitting_append]

theorem cutPoint_pos {space : Nat} (h : 0 < space) (word : Chunk) : 0 < cutPoint space word := by
  unfold cutPoint
  split
  · split
    · split <;> omega
    · exact h
  · exact h

theorem weight_fitLong_le (habit : Habit) (limit : Nat) (line rest : List Chunk) :
    weight (fitLong habit limit line rest).2 ≤ weight rest := by
  unfold fitLong
  split
  · exact Nat.le_refl _
  · split
    · exact Nat.le_refl _
    · cases habit with
      | hyphenated => simp only [weight_cons, List.length_drop]; omega
      | wholeWords =>
        simp only
        split
        · simp only [weight_cons]; omega
        · exact Nat.le_refl _

theorem weight_fitLong_lt (habit : Habit) (limit : Nat) (word : Chunk) (others : List Chunk)
    (h : limit < word.length) :
    weight (fitLong habit limit [] (word :: others)).2 < weight (word :: others) := by
  unfold fitLong
  simp only [Nat.not_le.2 h, if_false]
  cases habit with
  | wholeWords => simp only [List.isEmpty_nil, if_true, weight_cons]; omega
  | hyphenated =>
    have hpos : 0 < cutPoint (if limit < 1 then 1 else limit - width []) word := by
      apply cutPoint_pos
      simp only [width, List.flatten_nil, List.length_nil]
      split <;> omega
    simp only [weight_cons, List.length_drop]
    omega

/-- A line that starts with a chunk takes something from it or from those after it. -/
theorem weight_fitLong_takeFitting_lt (habit : Habit) (limit : Nat) (c : Chunk)
    (rest : List Chunk) :
    weight (fitLong habit limit (takeFitting limit 0 (c :: rest)).1
      (takeFitting limit 0 (c :: rest)).2).2 < weight (c :: rest) := by
  -- Either the first chunk fits and is taken, or it is too long and is cut.
  by_cases hfit : c.length ≤ limit
  · have hle := weight_fitLong_le habit limit (takeFitting limit 0 (c :: rest)).1
      (takeFitting limit 0 (c :: rest)).2
    have hsum := weight_takeFitting limit 0 (c :: rest)
    have hpos : 0 < weight (takeFitting limit 0 (c :: rest)).1 := by
      simp only [takeFitting, Nat.zero_add, hfit, if_true, weight_cons]
      omega
    omega
  · have hnone : takeFitting limit 0 (c :: rest) = ([], c :: rest) := by
      simp [takeFitting, hfit]
    rw [hnone]
    exact weight_fitLong_lt habit limit c rest (by omega)

/-- Every line takes something from the chunks. -/
theorem weight_nextLine_lt (habit : Habit) (limit : Nat) (started : Bool) (c : Chunk)
    (rest : List Chunk) :
    weight (nextLine habit limit started (c :: rest)).2 < weight (c :: rest) := by
  simp only [nextLine, dropBlankStart]
  split
  · have hle := weight_fitLong_le habit limit (takeFitting limit 0 rest).1
      (takeFitting limit 0 rest).2
    have hsum := weight_takeFitting limit 0 rest
    rw [weight_cons]
    omega
  · exact weight_fitLong_takeFitting_lt habit limit c rest

/-- The lines that the chunks are packed into; `started` says that a line precedes them. -/
def pack (habit : Habit) (limit : Nat) (started : Bool) : List Chunk → List (List Char)
  | [] => []
  | c :: rest =>
    let next := nextLine habit limit started (c :: rest)
    -- A line of blanks only is dropped, and does not count as the first line.
    if next.1.isEmpty then pack habit limit started next.2
    else next.1.flatten :: pack habit limit true next.2
termination_by chunks => weight chunks
decreasing_by
  all_goals exact weight_nextLine_lt habit limit started c rest

end Wrap

/-- The lines of a paragraph, each of at most `limit` columns where the habit allows. -/
def wrap (habit : Wrap.Habit) (limit : Nat) (paragraph : String) : List String :=
  (Wrap.pack habit limit false (Wrap.chunksAfter habit [] (Wrap.spaced paragraph.toList))).map
    String.ofList

end ClientGen.Text
