import ClientGen.Failure
import ClientGen.Text.Casing
import ClientGen.Text.Class.Width
import ClientGen.Text.Wrap

/-!
# Marked-up text

Text for a console may hold tags between brackets, such as `[red]` and `[/red]`, that set the style
of what stands between them.  A console without styles shows the text without the tags.  A bracket
that opens no tag stands for itself, and so does a tag behind a backslash.  Main definition:
`plain`, which fails if a tag closes a style that is not open.
-/

namespace ClientGen.Console

/-- A piece of a text with markup. -/
inductive Piece where
  | char (c : Char)
  /-- A tag, without its brackets. -/
  | tag (name : List Char)
deriving DecidableEq, Repr

/-- Whether a tag may start with a character. -/
def opensTag (c : Char) : Bool :=
  c.isLower || ['#', '/', '@'].contains c

/-- The tag at the start of a text, and what follows it. -/
def tag? : List Char → Option (List Char × List Char)
  | '[' :: c :: rest =>
    let name := rest.takeWhile fun d => d != '[' && d != ']'
    match rest.drop name.length with
    | ']' :: rest => if opensTag c then some (c :: name, rest) else none
    | _ => none
  | _ => none

theorem length_lt_of_tag? {cs name rest : List Char} (h : tag? cs = some (name, rest)) :
    rest.length < cs.length := by
  unfold tag? at h
  split at h
  · rename_i c tail
    dsimp only at h
    split at h
    · rename_i after heq
      split at h
      · simp only [Option.some.injEq, Prod.mk.injEq] at h
        obtain ⟨-, rfl⟩ := h
        have hlen := congrArg List.length heq
        simp only [List.length_drop, List.length_cons] at hlen
        simp only [List.length_cons]
        omega
      · simp at h
    · simp at h
  · simp at h

/-- The pieces that backslashes and the tag behind them stand for.  Two backslashes stand for one,
and one that is left over makes the tag a plain text. -/
def behind (slashes : Nat) (name : List Char) : List Piece :=
  List.replicate (slashes / 2) (.char '\\')
    ++ if slashes % 2 = 1 then ('[' :: name ++ [']']).map .char else [.tag name]

/-- The tag behind the backslashes at the start of a text, with what follows it and the number of
backslashes. -/
def escapedTag? (cs : List Char) : Option (Nat × List Char × List Char) :=
  let slashes := cs.takeWhile (· == '\\')
  (tag? (cs.drop slashes.length)).map fun found => (slashes.length, found)

theorem length_lt_of_escapedTag? {cs name rest : List Char} {slashes : Nat}
    (h : escapedTag? cs = some (slashes, name, rest)) : rest.length < cs.length := by
  simp only [escapedTag?, Option.map_eq_some_iff, Prod.mk.injEq] at h
  obtain ⟨found, hfound, -, rfl⟩ := h
  have hlt := length_lt_of_tag? hfound
  simp only [List.length_drop] at hlt
  omega

/-- The pieces of a text with markup. -/
def pieces : List Char → List Piece
  | [] => []
  | c :: rest =>
    match h : escapedTag? (c :: rest) with
    | some (slashes, name, after) =>
      have := length_lt_of_escapedTag? h
      behind slashes name ++ pieces after
    | none =>
      if c = '\\' && rest.head? == some '[' then pieces rest
      else .char c :: pieces rest
termination_by cs => cs.length
decreasing_by
  · exact this
  all_goals exact Nat.lt_succ_self _

/-- The name of a style: what stands before an equals sign, in lower case. -/
def styleName (tag : List Char) : String :=
  String.ofList (Text.toLower (Text.trim Text.isBlank (tag.takeWhile (· != '='))))

/-- The open styles, last one first, after a tag.  A tag that starts with a slash closes the style
that it names, or else the last one. -/
def follow (opened : List String) (tag : List Char) : Except Failure (List String) :=
  match tag with
  | '/' :: name =>
    let style := styleName name
    if style.isEmpty then
      if opened.isEmpty then .error (.markup (String.ofList tag)) else .ok opened.tail
    else if opened.contains style then .ok (opened.erase style)
    else .error (.markup (String.ofList tag))
  | name => .ok (styleName name :: opened)

/-- A control character that is never shown. -/
def isSilent (c : Char) : Bool :=
  [7, 8, 11, 12, 13].contains c.toNat

/-- The characters of pieces, given the styles that are open. -/
def shown (opened : List String) : List Piece → Except Failure (List Char)
  | [] => .ok []
  | .char c :: rest => do
    let rest ← shown opened rest
    return if isSilent c then rest else c :: rest
  | .tag name :: rest => do shown (← follow opened name) rest

/-- A text without its markup. -/
def plain (markup : String) : Except Failure (List Char) :=
  shown [] (pieces markup.toList)

/-- A line as a console shows it: with spaces for tabs, and without white space at its end. -/
def lineOf (cs : List Char) : String :=
  String.ofList (Text.trimEnd Text.isBlank (Text.Wrap.expandTabs 0 cs))

/-- The lines of a text with markup. -/
def lines (markup : String) : Except Failure (List String) := do
  return (Text.pieces '\n' (← plain markup)).map lineOf

end ClientGen.Console
