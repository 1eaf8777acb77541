import ClientGen.Name.Case
import ClientGen.Template.Value
import ClientGen.Text.Class.Word

/-!
# Templates

A template is text with print statements between double braces.  A statement names an argument and
may ask for parts of it and send it through filters, as in `fields['city'] | ptr`.  Main
definitions: `Template.parse` and `Template.render`.

One line feed at the end of a template does not count, and every kind of line end in it counts as a
line feed.  A filter that does not exist is reported before anything is rendered.
-/

namespace ClientGen

/-- What a print statement does with a value before it is written. -/
inductive Filter where
  | snake
  | camel
  | pascal
  | quote
  | pointer
  | name
deriving DecidableEq, Repr

/-- The filter of a name. -/
def Filter.ofName? : String → Option Filter
  | "snake_case" => some .snake
  | "camel_case" => some .camel
  | "pascal_case" => some .pascal
  | "quote" => some .quote
  | "ptr" => some .pointer
  | "name" => some .name
  | _ => none

/-- How a print statement asks for a part of a value. -/
inductive Access where
  | part (name : String)
  | element (index : Nat)
deriving DecidableEq, Repr

/-- The part that an access asks for. -/
def Access.of (value : Value) : Access → Except TemplateFault Value
  | .part name => value.part? name
  | .element index => value.element? index

/-- A print statement. -/
structure Print where
  name : String
  accesses : List Access := []
  filters : List Filter := []
deriving DecidableEq, Repr

/-- A piece of a template. -/
inductive Piece where
  | text (literal : String)
  | print (statement : Print)
deriving DecidableEq, Repr

/-- A template in pieces. -/
abbrev Template := List Piece

namespace Template

/-! ## Reading -/

/-- A text without the line feed at its end. -/
def dropLastLineEnd (cs : List Char) : List Char :=
  if cs.getLast? == some '\n' then cs.dropLast else cs

/-- The inside of a print statement and what comes after it; `quote` is the quote that is open. -/
def statement (quote : Option Char) : List Char → Option (List Char × List Char)
  | [] => none
  | c :: rest =>
    -- Braces inside a quoted text do not end the statement.
    if quote.isNone && c == '\x7d' && rest.head? == some '\x7d' then some ([], rest.tail)
    else
      let inside := match quote with
        | some mark => if c == mark then none else quote
        | none => if c == '\x27' || c == '"' then some c else none
      (statement inside rest).map fun parts => (c :: parts.1, parts.2)

theorem length_lt_of_statement {quote : Option Char} {cs inside after : List Char}
    (h : statement quote cs = some (inside, after)) : after.length < cs.length := by
  -- On the characters: the statement ends here, or behind what follows.
  induction cs generalizing quote inside with
  | nil => simp [statement] at h
  | cons c rest ih =>
    simp only [statement] at h
    split at h
    · simp only [Option.some.injEq, Prod.mk.injEq] at h
      rw [← h.2]
      simp only [List.length_tail, List.length_cons]
      omega
    · simp only [Option.map_eq_some_iff] at h
      obtain ⟨⟨before, rest'⟩, hrest, heq⟩ := h
      simp only [Prod.mk.injEq] at heq
      obtain ⟨_, rfl⟩ := heq
      have := ih hrest
      simp only [List.length_cons]
      omega

/-- A text without blanks at its ends. -/
def trimmed (cs : List Char) : List Char :=
  Text.trim Text.isBlank cs

/-- What stands between brackets: a quoted name, or a place. -/
def bracketed? (cs : List Char) : Option Access :=
  match trimmed cs with
  | [] => none
  | c :: rest =>
    if c == '\x27' || c == '"' then
      if rest.getLast? == some c then some (.part (String.ofList rest.dropLast)) else none
    else (String.ofList (c :: rest)).toNat?.map .element

/-- The accesses after a name; the bound is a length that the text does not exceed. -/
def accesses? : Nat → List Char → Option (List Access)
  | _, [] => some []
  | 0, _ => none
  | bound + 1, '.' :: rest =>
    let name := rest.takeWhile Text.isWord
    (accesses? bound (rest.drop name.length)).map (.part (String.ofList name) :: ·)
  | bound + 1, '[' :: rest => do
    let (inside, after) ← Text.cut? ']' rest
    return (← bracketed? inside) :: (← accesses? bound after)
  | _, _ => none

/-- A print statement with the names of its filters. -/
def print? (inside : List Char) : Option (Print × List String) :=
  match Text.pieces '|' inside with
  | [] => none
  | subject :: filters => do
    let subject := trimmed subject
    let name := subject.takeWhile Text.isWord
    if name.isEmpty then none
    let accesses ← accesses? subject.length (subject.drop name.length)
    return ({ name := String.ofList name, accesses },
      filters.map fun filter => String.ofList (trimmed filter))

/-- A piece of a template whose filters are names still. -/
inductive RawPiece where
  | text (literal : List Char)
  | print (statement : Print) (filters : List String)

/-- A character in front of the pieces that follow it. -/
def RawPiece.push (c : Char) : List RawPiece → List RawPiece
  | .text literal :: rest => .text (c :: literal) :: rest
  | pieces => .text [c] :: pieces

/-- The pieces of a text. -/
def rawPieces : List Char → Except TemplateFault (List RawPiece)
  | [] => .ok []
  | c :: rest =>
    if c == '\x7b' && rest.head? == some '\x7b' then
      match h : statement none rest.tail with
      | none =>
        .error (.unreadable "unexpected end of template, expected 'end of print statement'.")
      | some (inside, after) =>
        match print? inside with
        | none => .error (.unreadable "Expected an expression, got 'end of print statement'")
        | some (found, filters) => do
          have := length_lt_of_statement h
          return .print found filters :: (← rawPieces after)
    else do
      return RawPiece.push c (← rawPieces rest)
termination_by cs => cs.length
decreasing_by
  all_goals simp_all only [List.length_tail, List.length_cons]
  all_goals omega

/-- The filters of some names; of several unknown ones the last is reported. -/
def filters (names : List String) : Except TemplateFault (List Filter) :=
  match names.reverse.find? fun name => (Filter.ofName? name).isNone with
  | some unknown => .error (.noFilter unknown)
  | none => .ok (names.filterMap Filter.ofName?)

/-- A piece with its filters. -/
def RawPiece.resolve : RawPiece → Except TemplateFault Piece
  | .text literal => .ok (.text (String.ofList literal))
  | .print found names => do return .print { found with filters := ← Template.filters names }

/-- The template that a text holds. -/
def parse (source : String) : Except TemplateFault Template := do
  let pieces ← rawPieces (dropLastLineEnd (Text.unifyLineEnds source.toList))
  pieces.mapM RawPiece.resolve

/-! ## Rendering -/

/-- Why rendering stops. -/
inductive Stop where
  | fault (fault : TemplateFault)
  | malformed (value : Malformed)

/-- The stop as a failure of the template. -/
def Stop.failure (name : TemplateName) : Stop → Failure
  | .fault cause => .template name cause
  | .malformed value => .malformed value

/-- The part of a value that accesses lead to; a fault comes with the accesses that are left. -/
def follow (value : Value) : List Access → Except (TemplateFault × List Access) Value
  | [] => .ok value
  | access :: rest =>
    match access.of value with
    | .ok part => follow part rest
    | .error fault => .error (fault, rest)

/-- The value that a print statement names, before its filters. -/
def subject (print : Print) (args : Arguments) : Except (TemplateFault × List Access) Value :=
  match args.lookup print.name with
  | none => .error (.undefined print.name, print.accesses)
  | some value => follow value print.accesses

/-- The value that comes out of a filter. -/
def applyFilter (value : Value) : Filter → Except Malformed Value
  | .quote => .ok (.ofText (Text.quote value.text))
  | .pointer => .ok (.ofText value.pointerText)
  | .name => .ok (.ofText value.nameText)
  | .snake =>
    match value with
    | .data (.str text) => .ok (.ofText (Name.snake text))
    | _ => .error .part
  | .camel =>
    match value with
    | .data (.str text) => .ok (.ofText (Name.camel text))
    | _ => .error .kind
  | .pascal =>
    match value with
    | .data (.str text) => .ok (.ofText (Name.pascal text))
    | _ => .error .kind

/-- What stops a print statement whose value is missing: the filters for camel and Pascal case take
texts only, all others need the value. -/
def stopMissing (fault : TemplateFault) : List Filter → Stop
  | .camel :: _ => .malformed .kind
  | .pascal :: _ => .malformed .kind
  | _ => .fault fault

/-- The text of a print statement. -/
def renderPrint (print : Print) (args : Arguments) : Except Stop String :=
  match subject print args with
  -- The filters only see what is missing if nothing more was asked of it.
  | .error (fault, []) => .error (stopMissing fault print.filters)
  | .error (fault, _ :: _) => .error (.fault fault)
  | .ok value =>
    match print.filters.foldlM applyFilter value with
    | .error value => .error (.malformed value)
    | .ok value => .ok value.text

/-- The text of a piece. -/
def renderPiece (args : Arguments) : Piece → Except Stop String
  | .text literal => .ok literal
  | .print found => renderPrint found args

/-- The text of a template. -/
def render (template : Template) (args : Arguments) : Except Stop String := do
  return String.join (← template.mapM (renderPiece args))

/-- The text of a template given as text; an argument cannot be called `self`. -/
def renderText (source : String) (args : Arguments) : Except Failure String := do
  let name := TemplateName.text source
  let template ← (parse source).mapError (.template name)
  if Entries.has "self" args then throw (.malformed .kind)
  (render template args).mapError (Stop.failure name)

end Template

end ClientGen
