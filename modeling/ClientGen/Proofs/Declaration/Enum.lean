import ClientGen.Declaration.Enum
import ClientGen.Proofs.Shape.Label
import ClientGen.Proofs.Text.Literal
import ClientGen.Proofs.Writer.Lines

/-!
# What an enum is declared as

If two values have one label, or a value has that of the type, nothing is written.  If not, the unit
gets the type, one constant for every value and a method that lists the values, in the order of the
model.  The constants are behind the labels, and the literals are those of the values, so the values
can be read off the constants and off the list.

## Main definitions

* `constantLine` — the constant for a value.
* `enumLines` — the lines that an enum adds to a unit.

## Main results

* `adds_enumSteps` — the steps of an enum add its lines.
* `labels_clash_or_ofEnum_prints` — when labels clash and which one does, and what is written if none
  does.
-/

namespace ClientGen

namespace Declaration

open EnumValue

/-- The constant for a value. -/
def constantLine (typeName : String) (value : EnumValue) : String :=
  value.constantName typeName ++ " " ++ typeName ++ " = " ++ Text.quote value.value

/-- What the comment on the method says. -/
def valuesNote (typeName : String) : String :=
  "Values returns all known values for " ++ typeName
    ++ ". Note that this can be expanded in the future, and so it is only as up to date as the "
    ++ "client."

/-- The lines of the method that lists the values. -/
def methodLines (context : Context) (writer : Writer) (name : String) (values : List EnumValue) :
    List String :=
  let inner := writer.indent
  context.commented writer (.str (valuesNote name))
    ++ (writer.printed ("func (" ++ name ++ ") Values() []" ++ name ++ " \x7b")
        ++ (inner.printed ("return []" ++ name ++ "\x7b")
            ++ (values.flatMap fun value => inner.indent.printed (Text.quote value.value ++ ","))
            ++ inner.printed "\x7d")
        ++ writer.printed "\x7d"
      ++ [""])

/-- The lines that an enum adds to a unit: the type, the constants, and the method. -/
def enumLines (context : Context) (writer : Writer) (symbol : Symbol) (values : List EnumValue) :
    List String :=
  let name := symbol.name
  let inner := writer.indent
  context.commented writer symbol.documentation
    ++ (writer.printed ("type " ++ name ++ " string") ++ [""]
      ++ writer.printed ("// Enum values for " ++ name)
      ++ (writer.printed "const ("
        ++ (values.flatMap fun value => context.commented inner value.documentation
          ++ inner.printed (constantLine name value))
        ++ writer.printed ")")
      ++ [""])
    ++ methodLines context writer name values

variable {context : Context} {base : Writer} {symbol : Symbol} {values : List EnumValue}

theorem adds_enumConstant (context : Context) (base : Writer) (symbol : Symbol)
    (value : EnumValue) :
    Step.Adds base (enumConstant context symbol (value.constantName symbol.name) value)
      (context.commented base value.documentation
        ++ base.printed (constantLine symbol.name value)) := by
  refine (context.adds_docs base _).append (Step.adds_line ?_)
  simp [constantLine, String.append_assoc]

theorem adds_listed (base : Writer) (values : List EnumValue) :
    Step.Adds base (values.map fun value => Step.line [.quoted value.value, ","])
      (values.flatMap fun value => base.printed (Text.quote value.value ++ ",")) := by
  rw [List.map_eq_flatMap]
  exact Step.adds_flatMap values fun value _ => Step.adds_line (by simp)

theorem adds_enumMethod (hlevel : 0 ≤ base.level) (context : Context) (symbol : Symbol)
    (values : List EnumValue) :
    Step.Adds base (enumMethod context symbol values)
      (methodLines context base symbol.name values) := by
  have hinner : 0 ≤ base.indent.level := by
    show 0 ≤ base.level + 1
    omega
  have hreturn : Step.Adds base.indent
      [.block (.parts ["return []", .name symbol, "\x7b"]) "\x7d"
        (values.map fun value => Step.line [.quoted value.value, ","])]
      (base.indent.printed ("return []" ++ symbol.name ++ "\x7b")
        ++ (values.flatMap fun value => base.indent.indent.printed (Text.quote value.value ++ ","))
        ++ base.indent.printed "\x7d") :=
    Step.Adds.block hinner (by simp [String.append_assoc]) (adds_listed _ values) (by simp)
  exact (context.adds_docs base _).append ((Step.Adds.block hlevel
    (by simp [String.append_assoc]) hreturn (by simp)).append (Step.adds_blank base))

/-- **The steps of an enum add its lines.** -/
theorem adds_enumSteps (hlevel : 0 ≤ base.level) (context : Context) (symbol : Symbol)
    (values : List EnumValue) :
    Step.Adds base (enumSteps context symbol
        (values.map fun value => (value.constantName symbol.name, value)))
      (enumLines context base symbol values) := by
  have hvalues : (Prod.snd ∘ fun value : EnumValue => (value.constantName symbol.name, value))
      = id := rfl
  rw [enumSteps, List.flatMap_map, List.map_map, hvalues, List.map_id]
  refine ((context.adds_docs base symbol.documentation).append ?_).append
    (adds_enumMethod hlevel context symbol values)
  have hhead : Step.Adds base
      [.line ["type ", .name symbol, " string"], .blank, .line ["// Enum values for ", .name symbol]]
      (base.printed ("type " ++ symbol.name ++ " string") ++ [""]
        ++ base.printed ("// Enum values for " ++ symbol.name)) :=
    ((Step.adds_line (by simp [String.append_assoc])).append (Step.adds_blank base)).append
      (Step.adds_line (by simp))
  have hconstants : Step.Adds base
      [.block "const (" ")" (values.flatMap fun value =>
        enumConstant context symbol (value.constantName symbol.name) value)]
      (base.printed "const ("
        ++ (values.flatMap fun value => context.commented base.indent value.documentation
          ++ base.indent.printed (constantLine symbol.name value))
        ++ base.printed ")") :=
    Step.Adds.block hlevel (by simp)
      (Step.adds_flatMap values fun value _ => adds_enumConstant context base.indent symbol value)
      (by simp)
  exact (hhead.append hconstants).append (Step.adds_blank base)

/-! ## Clashes and constants -/

/-- Behind the name of the type a label goes on, if it is another name. -/
theorem exists_of_constantName_ne {typeName : String} {value : EnumValue}
    (h : value.constantName typeName ≠ typeName) :
    ∃ c cs, value.constantName typeName = typeName ++ String.ofList (c :: cs) := by
  unfold constantName at h ⊢
  cases hwords : capitalizedWords value.sourceText with
  | nil => simp [hwords] at h
  | cons c cs => exact ⟨c, cs, rfl⟩

/-- An enum is its steps, or a failure if it has no labels. -/
theorem steps_ofEnum {shape : Shape} {table table' : SymbolTable}
    (hsymbol : context.resolve table shape = .ok (symbol, table'))
    (hvalues : shape.enumValues = .ok values) :
    (ofEnum context shape table).1 =
      match EnumValue.labels symbol.name values with
      | .ok labelled => enumSteps context symbol labelled
      | .error failure => [.fail failure] := by
  have hbind : shape.enumValues.bind (EnumValue.labels symbol.name)
      = EnumValue.labels symbol.name values := by
    rw [hvalues]
    rfl
  rw [ofEnum, withSymbol, hsymbol]
  dsimp only
  rw [hbind]
  cases EnumValue.labels symbol.name values <;> rfl

/-- A literal in the list is printed as one line, and so is a constant if the name of its type is
one. -/
theorem printed_literal_and_constantLine (typeName : String) (value : EnumValue)
    (writer : Writer) :
    writer.printed (Text.quote value.value ++ ",")
        = [writer.margin ++ (Text.quote value.value ++ ",")] ∧
      ('\n' ∉ typeName.toList → writer.printed (constantLine typeName value)
        = [writer.margin ++ constantLine typeName value]) := by
  have hliteral := Text.newline_not_mem_quote value.value
  have hquote : '"' ∈ (Text.quote value.value).toList := by
    rw [Text.toList_quote]
    exact List.mem_cons_self
  constructor
  · apply Writer.printed_of_not_mem
    · simp [hliteral]
    · exact Text.isBlankText_of_mem (c := '"') (by simp [hquote]) (by decide)
  · intro htype
    have hlabel := newline_not_mem_constantName value htype
    apply Writer.printed_of_not_mem
    · simp [constantLine, hlabel, htype, hliteral]
    · exact Text.isBlankText_of_mem (c := '"') (by simp [constantLine, hquote]) (by decide)

/-- **When labels clash, and what is written of an enum.**  Labels clash if two of them are the same
or one is the name of the type; the clash is that of the first value whose label is taken, with what
took it, and nothing is written.  If they do not clash, they are different from one another and go
on behind the name of the type, and what was written is the type, a constant for every value behind
its label, and the list of the literals, both in the order of the values.  A literal is one line and
is read as its value; so is a constant one line, if the name of the type is. -/
theorem labels_clash_or_ofEnum_prints (typeName : String)
    (hnames : ∀ value ∈ values, value.HasTextName) :
    let labels := values.map (constantName typeName)
    ((∃ clash, EnumValue.labels typeName values = .error (.collision clash)) ↔
      ¬ labels.Nodup ∨ typeName ∈ labels) ∧
    (∀ failure, EnumValue.labels typeName values = .error failure →
      ∃ before value after first, values = before ++ value :: after ∧
        (typeName :: before.map (constantName typeName)).Nodup ∧
        (value.constantName typeName = typeName ∧ first = "type " ++ typeName ∨
          ∃ earlier ∈ before, earlier.constantName typeName = value.constantName typeName ∧
            first = earlier.owner) ∧
        failure = .collision {
          identifier := value.constantName typeName
          first
          second := value.owner
          scope := typeName }) ∧
    (∀ labelled, EnumValue.labels typeName values = .ok labelled →
      labelled = values.map (fun value => (value.constantName typeName, value)) ∧ labels.Nodup ∧
        ∀ label ∈ labels, ∃ c cs, label = typeName ++ String.ofList (c :: cs)) ∧
    (∀ (context : Context) (shape : Shape) (table table' : SymbolTable) (symbol : Symbol),
      context.resolve table shape = .ok (symbol, table') → symbol.name = typeName →
      shape.enumValues = .ok values → ∀ writer : Writer,
        (∀ failure, EnumValue.labels typeName values = .error failure →
          writer.run (ofEnum context shape table).1 = (writer, some failure)) ∧
        ∀ labelled, EnumValue.labels typeName values = .ok labelled → 0 ≤ writer.level →
          ∃ after, writer.run (ofEnum context shape table).1 = (after, none) ∧
            after.level = writer.level ∧
            after.lines = writer.lines ++ enumLines context writer symbol values) ∧
    ∀ value ∈ values, Text.unquote? (Text.quote value.value) = some value.value ∧
      ∀ writer : Writer,
        writer.printed (Text.quote value.value ++ ",")
          = [writer.margin ++ (Text.quote value.value ++ ",")] ∧
        ('\n' ∉ typeName.toList → writer.printed (constantLine typeName value)
          = [writer.margin ++ constantLine typeName value]) := by
  intro labels
  refine ⟨labels_clash_iff hnames, fun _ => exists_of_labels_eq_error hnames, ?_, ?_, ?_⟩
  · intro labelled hlabels
    have hlabelled := eq_of_labelsFrom hnames hlabels
    have hnodup := nodup_labels hlabels
    rw [hlabelled, List.map_map] at hnodup
    obtain ⟨hfresh, hnodup⟩ := List.nodup_cons.1 hnodup
    refine ⟨hlabelled, hnodup, ?_⟩
    intro label hlabel
    obtain ⟨value, hvalue, rfl⟩ := List.mem_map.1 hlabel
    apply exists_of_constantName_ne
    intro heq
    rw [heq] at hlabel
    exact hfresh hlabel
  · rintro context shape table table' symbol hsymbol rfl hvalues writer
    constructor
    · intro failure hlabels
      rw [steps_ofEnum hsymbol hvalues, hlabels]
      rfl
    · intro labelled hlabels hlevel
      have hadds := adds_enumSteps hlevel context symbol values
      obtain ⟨after, hrun, hafter, hlines⟩ := hadds writer ⟨rfl, rfl, (Int.add_zero _).symm⟩
      refine ⟨after, ?_, by simp [hafter.level], hlines⟩
      rw [steps_ofEnum hsymbol hvalues, hlabels, eq_of_labelsFrom hnames hlabels]
      exact hrun
  · intro value _
    exact ⟨Text.unquote?_quote value.value, printed_literal_and_constantLine typeName value⟩

end Declaration

namespace Sample

/-- An enum of two values, one of which has a name of its own. -/
def answer : Shape where
  id := { ns := "z", name := "Answer" }
  type := .string
  traits := [(Trait.enum, .arr [
    .obj [("value", .str "yes")],
    .obj [("value", .str "-"), ("name", .str "not at-all")]])]

def answers : List EnumValue :=
  [{ value := "yes" }, { value := "-", name := .str "not at-all" }]

/-- The context of a run in which the enum is the only shape, without comments. -/
def answering : Context where
  model := .ofShapes [answer]
  settings := { moduleName := .str "m", addComments := .bool false }
  service := answer

def answerSymbol : Symbol :=
  answer.declaredType answering.settings.modulePath enumsUnit false

/-- What is remembered once the symbol of the enum was asked for. -/
def answerTable : SymbolTable where
  symbols := [(answer.id, answerSymbol)]
  claims := [((answerSymbol.scope, "Answer"), answer.id.text)]

end Sample

namespace Declaration

/-- The enum as it is written, and two values that clash. -/
theorem labels_clash_or_ofEnum_prints_answers :
    (∀ value ∈ Sample.answers, value.HasTextName) ∧
    (∃ after, (Writer.start "types/enums.go" "types").run
        (ofEnum Sample.answering Sample.answer {}).1 = (after, none) ∧
      after.lines = ["type Answer string", "", "// Enum values for Answer", "const (",
        "\tAnswerYes Answer = \"yes\"", "\tAnswerNotAtAll Answer = \"-\"", ")", "",
        "func (Answer) Values() []Answer \x7b", "\treturn []Answer\x7b", "\t\t\"yes\",",
        "\t\t\"-\",", "\t\x7d", "\x7d", ""]) ∧
    ∃ clash, EnumValue.labels "Answer" [{ value := "a-b" }, { value := "a b" }]
      = .error (.collision clash) := by
  have hnames : ∀ value ∈ Sample.answers, value.HasTextName := by
    intro value hvalue htruthy
    rcases List.mem_cons.1 hvalue with rfl | hvalue
    · exact absurd htruthy (by decide)
    · obtain rfl := List.mem_singleton.1 hvalue
      exact ⟨_, rfl⟩
  refine ⟨hnames, ?_, ?_⟩
  · have hsymbol : Sample.answering.resolve {} Sample.answer
        = .ok (Sample.answerSymbol, Sample.answerTable) := rfl
    have hwritten := (labels_clash_or_ofEnum_prints "Answer" hnames).2.2.2.1 Sample.answering
      Sample.answer {} Sample.answerTable Sample.answerSymbol hsymbol rfl rfl
    obtain ⟨after, hrun, -, hlines⟩ :=
      (hwritten (Writer.start "types/enums.go" "types")).2 _ rfl (Int.le_refl 0)
    refine ⟨after, hrun, hlines.trans ?_⟩
    decide +kernel
  · have hnames : ∀ value ∈ ([{ value := "a-b" }, { value := "a b" }] : List EnumValue),
        value.HasTextName := by
      intro value hvalue htruthy
      rcases List.mem_cons.1 hvalue with rfl | hvalue
      · exact absurd htruthy (by decide)
      · obtain rfl := List.mem_singleton.1 hvalue
        exact absurd htruthy (by decide)
    exact (labels_clash_or_ofEnum_prints "Answer" hnames).1.2 (.inl (by decide +kernel))

end Declaration

end ClientGen
