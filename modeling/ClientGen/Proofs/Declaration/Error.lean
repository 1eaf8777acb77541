import ClientGen.Proofs.Declaration.Structure
import ClientGen.Proofs.Generation.Declared
import ClientGen.Proofs.Symbol.Type
import ClientGen.Proofs.Text.Literal

/-!
# What an error is declared as

Behind the struct of an error come its methods, which agree with its fields.  No field has the name
of a method.  The message is that of a field that the struct declares as a reference to a text: the
field for the first member that is called a message, in any case of letters, and is a text and no
enum; without such a member there is no message.  The code is the name of the shape as it is in the
model, for the literal is read as that name.

## Main definitions

* `Model.IsMessage` — a member gives the message of an error.
* `messageLines`, `errorLines` — the lines of the methods.

## Main results

* `messageField_eq_none`, `exists_of_messageField_eq_some` — which member gives the message.
* `adds_errorSteps` — the steps of the methods add their lines.
* `ofStruct_prints_error` — what is written of an error, and how methods and fields agree.
-/

namespace ClientGen

/-! ## The message -/

/-- The member is called a message, in any case of letters, and is a text and no enum. -/
def Model.IsMessage (model : Model) (member : Member) : Prop :=
  Text.toLower member.name.toList = "message".toList ∧
    ∃ target, model.shape? member.target = some target ∧ target.type = .string ∧
      target.isEnum = false

namespace Declaration

variable {model : Model} {members : List Member}

/-- How the search for the message goes on. -/
theorem messageField_cons {member : Member} {rest : List Member} {message : Option String}
    (h : messageField model (member :: rest) = .ok message) :
    model.IsMessage member ∧ message = some member.fieldName ∨
      ¬ model.IsMessage member ∧ messageField model rest = .ok message := by
  rw [messageField] at h
  split at h
  · rename_i hname
    obtain ⟨target, htarget, h⟩ := bind_eq_ok.1 h
    have htarget := Model.expect_eq_ok.1 htarget
    split at h
    · rename_i htext
      simp only [Bool.and_eq_true, beq_iff_eq, Bool.not_eq_true'] at htext
      exact .inl ⟨⟨beq_iff_eq.1 hname, target, htarget, htext⟩, (pure_eq_ok.1 h).symm⟩
    · rename_i htext
      refine .inr ⟨?_, h⟩
      rintro ⟨-, other, hother, htype, henum⟩
      obtain rfl := Option.some.inj (htarget.symm.trans hother)
      simp [htype, henum] at htext
  · rename_i hname
    exact .inr ⟨fun hmessage => hname (beq_iff_eq.2 hmessage.1), h⟩

/-- **Without a message** no member gives one. -/
theorem messageField_eq_none (h : messageField model members = .ok none) :
    ∀ member ∈ members, ¬ model.IsMessage member := by
  induction members with
  | nil => simp
  | cons member rest ih =>
    rcases messageField_cons h with ⟨-, hsome⟩ | ⟨hnot, hrest⟩
    · simp at hsome
    · exact List.forall_mem_cons.2 ⟨hnot, ih hrest⟩

/-- **The message** is that of the field for the first member that gives one. -/
theorem exists_of_messageField_eq_some {name : String}
    (h : messageField model members = .ok (some name)) :
    ∃ before member after, members = before ++ member :: after ∧
      (∀ earlier ∈ before, ¬ model.IsMessage earlier) ∧ model.IsMessage member ∧
      name = member.fieldName := by
  induction members with
  | nil => simp [messageField] at h
  | cons member rest ih =>
    rcases messageField_cons h with ⟨hmessage, hname⟩ | ⟨hnot, hrest⟩
    · exact ⟨[], member, rest, rfl, by simp, hmessage, Option.some.inj hname⟩
    · obtain ⟨before, found, after, rfl, hbefore, hfound⟩ := ih hrest
      exact ⟨member :: before, found, after, rfl, List.forall_mem_cons.2 ⟨hnot, hbefore⟩, hfound⟩

theorem exists_mem_of_messageField {name : String}
    (h : messageField model members = .ok (some name)) :
    ∃ member ∈ members, model.IsMessage member ∧ name = member.fieldName := by
  obtain ⟨before, member, after, rfl, -, hmessage, hname⟩ := exists_of_messageField_eq_some h
  exact ⟨member, List.mem_append_right _ List.mem_cons_self, hmessage, hname⟩

/-- There is a message exactly if some member gives one. -/
theorem isSome_iff_of_messageField {message : Option String}
    (h : messageField model members = .ok message) :
    message.isSome ↔ ∃ member ∈ members, model.IsMessage member := by
  cases message with
  | none =>
    have hnone := messageField_eq_none h
    simpa using hnone
  | some name =>
    obtain ⟨member, hmem, hmessage, -⟩ := exists_mem_of_messageField h
    simpa using ⟨member, hmem, hmessage⟩

theorem newline_not_mem_of_messageField {message : Option String}
    (h : messageField model members = .ok message) :
    ∀ name ∈ message, '\n' ∉ name.toList := by
  rintro name rfl
  obtain ⟨member, -, -, rfl⟩ := exists_mem_of_messageField h
  exact Name.newline_not_mem_sanitize _

/-- The field for a member that gives the message is a reference to a text. -/
theorem fieldText_of_isMessage {context : Context} {member : Member} {field : Field}
    (hfield : context.IsField member field) (hmessage : context.model.IsMessage member)
    (path : Option String) : fieldText path field = member.fieldName ++ " *string" := by
  obtain ⟨-, target, htarget, htype, henum⟩ := hmessage
  obtain ⟨other, hother, hsymbol⟩ := hfield.type
  obtain rfl := Option.some.inj (htarget.symm.trans hother)
  have hown : target.ownSymbol? context.settings.modulePath = some (.ok (.reference "string")) :=
    Shape.ownSymbol?_of_builtinType? (by rw [htype]; rfl) henum
  have hreference : field.type = .reference "string" :=
    Except.ok.inj (hsymbol.symm.trans (Model.symbolWithin_of_ownSymbol? hown))
  rw [fieldText, hfield.name, hreference, String.append_assoc]
  rfl

/-! ## Methods -/

/-- A line that opens a method of an error. -/
def methodText (receiver rest : String) : String :=
  "func (e " ++ receiver ++ ") " ++ rest

/-- The lines of the method that gives the message: that of a field, or none. -/
def messageLines (writer : Writer) (receiver : String) : Option String → List String
  | none => [writer.margin ++ methodText receiver "ErrorMessage() string \x7b return \"\" \x7d"]
  | some field =>
    [writer.margin ++ methodText receiver "ErrorMessage() string \x7b",
      writer.indent.margin ++ ("if e." ++ field ++ " == nil \x7b"),
      writer.indent.indent.margin ++ "return \"\"",
      writer.indent.margin ++ "\x7d",
      writer.indent.margin ++ ("return *e." ++ field),
      writer.margin ++ "\x7d"]

/-- The lines of the methods of an error. -/
def errorLines (writer : Writer) (shape : Shape) (symbol fault : Symbol)
    (message : Option String) : List String :=
  let path := writer.imports.ownPath
  let receiver := symbol.heldIn path
  writer.printed (methodText receiver ("Error() string \x7b\n\treturn "
      ++ (Symbol.sprintf.relativeTo path).fullName
      ++ "(\"%s: %s\", e.ErrorCode(), e.ErrorMessage())\n\x7d"))
    ++ ([""] ++ (messageLines writer receiver message
    ++ ([""] ++ ([writer.margin ++ methodText receiver ("ErrorCode() string \x7b return "
      ++ Text.quote shape.name ++ " \x7d")]
    ++ ([""] ++ ([writer.margin ++ methodText receiver ("ErrorFault() "
      ++ (Symbol.errorFaultType.relativeTo path).fullName ++ " \x7b return "
      ++ (fault.relativeTo path).fullName ++ " \x7d")]
    ++ [""]))))))

variable {base : Writer} {symbol fault : Symbol} {message : Option String}

/-- The opening of a method is a line if its parts are. -/
theorem printed_methodText (writer : Writer) {receiver rest : String}
    (hreceiver : '\n' ∉ receiver.toList) (hrest : '\n' ∉ rest.toList) :
    writer.printed (methodText receiver rest) = [writer.margin ++ methodText receiver rest] := by
  apply Writer.printed_of_not_mem
  · simp [methodText, hreceiver, hrest]
  · exact Text.isBlankText_of_mem (c := 'f') (by simp [methodText]) (by decide)

/-- Without a value in the field there is no message. -/
theorem adds_messageGuard (hlevel : 0 ≤ base.level) {field : String}
    (hfield : '\n' ∉ field.toList) :
    Step.Adds base
      [.block (.parts ["if e.", field, " == nil \x7b"]) "\x7d" [.line ["return \"\""]]]
      [base.margin ++ ("if e." ++ field ++ " == nil \x7b"), base.indent.margin ++ "return \"\"",
        base.margin ++ "\x7d"] := by
  have hopening : base.printed ("if e." ++ field ++ " == nil \x7b")
      = [base.margin ++ ("if e." ++ field ++ " == nil \x7b")] :=
    Writer.printed_of_not_mem (by simp [hfield])
      (Text.isBlankText_of_mem (c := 'i') (by simp) (by decide))
  have hbody : Step.Adds base.indent [.line ["return \"\""]]
      [base.indent.margin ++ "return \"\""] :=
    Step.adds_line_of_not_mem (by simp) (by decide) (by decide)
  have hguard := Step.Adds.block hlevel
    (show Part.texts base.imports.ownPath ["if e.", field, " == nil \x7b"]
      = "if e." ++ field ++ " == nil \x7b" by simp [String.append_assoc]) hbody
    (show Part.texts base.imports.ownPath ["\x7d"] = "\x7d" by simp)
  rw [hopening, Writer.printed_brace] at hguard
  exact hguard

/-- **The method that gives the message**: that of the field, if there is one. -/
theorem adds_messageMethod (hlevel : 0 ≤ base.level) (hsymbol : symbol.IsLine)
    (hmessage : ∀ field ∈ message, '\n' ∉ field.toList) :
    Step.Adds base [messageMethod symbol message]
      (messageLines base (symbol.heldIn base.imports.ownPath) message) := by
  have hreceiver := hsymbol.newline_not_mem_heldIn base.imports.ownPath
  cases message with
  | none =>
    rw [messageLines, ← printed_methodText base hreceiver (by simp)]
    refine Step.adds_line ?_
    simp [Part.texts, Part.render, methodText, Symbol.pointer_eq_heldIn, String.append_assoc]
  | some field =>
    have hfield : '\n' ∉ field.toList := hmessage field rfl
    have hinner : 0 ≤ base.indent.level := by
      show 0 ≤ base.level + 1
      omega
    have hreturn : Step.Adds base.indent [.line ["return *e.", field]]
        [base.indent.margin ++ ("return *e." ++ field)] :=
      Step.adds_line_of_not_mem (by simp) (by simp [hfield])
        (Text.isBlankText_of_mem (c := 'r') (by simp) (by decide))
    have hopening : Part.texts base.imports.ownPath
        ["func (e ", .pointer symbol, ") ErrorMessage() string \x7b"]
          = methodText (symbol.heldIn base.imports.ownPath) "ErrorMessage() string \x7b" := by
      simp [Part.texts, Part.render, methodText, Symbol.pointer_eq_heldIn, String.append_assoc]
    have hmethod := Step.Adds.block hlevel hopening
      ((adds_messageGuard hinner hfield).append hreturn)
      (show Part.texts base.imports.ownPath ["\x7d"] = "\x7d" by simp)
    rw [printed_methodText base hreceiver (by simp), Writer.printed_brace] at hmethod
    exact hmethod

theorem isLine_of_faultSymbol {shape : Shape} (h : faultSymbol shape = .ok fault) :
    fault.IsLine := by
  have hvalues : ∀ fault ∈ [Symbol.faultClient, .faultServer, .faultUnknown],
      fault.IsLine := by decide
  apply hvalues
  unfold faultSymbol at h
  split at h
  · simp [Except.ok.inj h]
  · simp [Except.ok.inj h]
  · split at h
    · simp [Except.ok.inj h]
    · simp at h

/-- **The steps of the methods add their lines.** -/
theorem adds_errorSteps (shape : Shape) (hlevel : 0 ≤ base.level) (hsymbol : symbol.IsLine)
    (hfault : fault.IsLine) (hmessage : ∀ field ∈ message, '\n' ∉ field.toList) :
    Step.Adds base (errorSteps shape symbol fault message)
      (errorLines base shape symbol fault message) := by
  have hreceiver := hsymbol.newline_not_mem_heldIn base.imports.ownPath
  have htype : Symbol.errorFaultType.IsLine := by decide +kernel
  have hcode : '\n' ∉ ("ErrorCode() string \x7b return " ++ Text.quote shape.name
      ++ " \x7d").toList := by
    simp [Text.newline_not_mem_quote]
  have hparty : '\n' ∉ ("ErrorFault() " ++ (Symbol.errorFaultType.relativeTo
      base.imports.ownPath).fullName ++ " \x7b return "
      ++ (fault.relativeTo base.imports.ownPath).fullName ++ " \x7d").toList := by
    simp [htype.newline_not_mem_fullName, hfault.newline_not_mem_fullName]
  rw [errorLines]
  rw [← printed_methodText base hreceiver hcode, ← printed_methodText base hreceiver hparty]
  have hblank := Step.adds_blank base
  refine (Step.adds_line ?_).append (hblank.append
    ((adds_messageMethod hlevel hsymbol hmessage).append (hblank.append
      ((Step.adds_line ?_).append (hblank.append ((Step.adds_line ?_).append hblank))))))
  all_goals
    rw [← String.toList_inj]
    simp [Part.texts, Part.render, methodText, Symbol.pointer_eq_heldIn]

/-! ## Errors -/

variable {context : Context} {shape : Shape} {table : SymbolTable} {writer after : Writer}

/-- **What is written of an error.**  A declaration that is performed adds a struct and the methods
of an error.  The names of its fields are different from one another and from those of the methods.
The message is read from a field exactly if some member is called a message, in any case of letters,
and is a text and no enum; the field is one that the struct declares, as a reference to a text.  The
literal of the code is one line, and it is read as the name of the shape, whatever this is. -/
theorem ofStruct_prints_error (hknows : context.Knows table)
    (hshape : context.model.shape? shape.id = some shape) (herror : shape.isError = true)
    (hrun : writer.run (ofStruct context shape table).1 = (after, none)) :
    ∃ fields fault message, List.Forall₂ context.IsField shape.members fields ∧
      (fields.map Field.name ++ Shape.errorMethods).Nodup ∧
      faultSymbol shape = .ok fault ∧
      after.lines = writer.lines ++ (structLines context writer shape fields
        ++ errorLines writer shape (shape.typeSymbol context.settings.modulePath) fault message) ∧
      (message.isSome ↔ ∃ member ∈ shape.members, context.model.IsMessage member) ∧
      (∀ name, message = some name → ∃ member ∈ shape.members, context.model.IsMessage member ∧
        ∃ field ∈ fields, context.IsField member field ∧ field.name = name ∧
          ∀ path, fieldText path field = name ++ " *string") ∧
      Text.unquote? (Text.quote shape.name) = some shape.name ∧
      '\n' ∉ (Text.quote shape.name).toList := by
  obtain ⟨hnodup, hlevel, fields, between, hfields, hbelow, hlines, hmethods⟩ :=
    run_ofStruct_spec hknows hshape (Shape.isAggregate_of_isError herror) hrun
  rw [if_pos herror] at hmethods
  rcases errorMethods_cases context shape (shape.typeSymbol context.settings.modulePath) with
    ⟨fault, message, hfault, hmessage, heq⟩ | ⟨failure, heq⟩
  · rw [heq] at hmethods
    obtain ⟨last, hlast, -, hadded⟩ := adds_errorSteps shape hlevel
      (Shape.isLine_declaredType _ _ _ shape) (isLine_of_faultSymbol hfault)
      (newline_not_mem_of_messageField hmessage) between hbelow
    obtain rfl : last = after := (Prod.mk.inj (hlast.symm.trans hmethods)).1
    refine ⟨fields, fault, message, hfields, ?_, hfault, ?_, ?_, ?_,
      Text.unquote?_quote _, Text.newline_not_mem_quote _⟩
    · rw [Context.map_name_fields hfields, List.nodup_append_comm]
      rwa [Shape.methodNames, if_pos herror] at hnodup
    · rw [hadded, hlines, List.append_assoc]
      rfl
    · exact isSome_iff_of_messageField hmessage
    · rintro name rfl
      obtain ⟨member, hin, hmember, rfl⟩ := exists_mem_of_messageField hmessage
      obtain ⟨field, hfield, hof⟩ := exists_of_forall₂ hfields hin
      exact ⟨member, hin, hmember, field, hfield, hof, hof.name, fieldText_of_isMessage hof hmember⟩
  · simp [heq, Writer.run, Writer.perform, Writer.Outcome.andThen] at hmethods

end Declaration

/-! ## An error with a quote in its name -/

namespace Refusal

/-- An error that gives its message, and a number besides. -/
def refusal : Shape :=
  let id : ShapeId := { ns := "a", name := "not \"found\"" }
  { id
    type := .struct
    traits := [(Trait.error, .str "client")]
    members := [
      { name := "retry-after", container := id,
        target := { ns := Trait.prelude, name := "Integer" } },
      { name := "MESSAGE", container := id, target := { ns := Trait.prelude, name := "String" } }] }

def context : Context where
  model := .ofShapes [refusal]
  settings := { moduleName := .str "m", addComments := .bool false }
  service := refusal

/-- The unit of errors before anything is written. -/
def writer : Writer :=
  .start errorsUnit "types" (some (typesPath context.settings.modulePath))

end Refusal

namespace Declaration

/-- The error as it is written, with its message in a field. -/
theorem ofStruct_prints_error_refusal :
    ∃ after fields fault message, Refusal.writer.run (ofStruct Refusal.context Refusal.refusal {}).1
        = (after, none) ∧
      after.lines = structLines Refusal.context Refusal.writer Refusal.refusal fields
        ++ errorLines Refusal.writer Refusal.refusal (Refusal.refusal.typeSymbol "m") fault message ∧
      message.isSome ∧
      after.lines = ["type NotFound struct \x7b", "\tRetryAfter *int32", "\tMESSAGE *string", "\x7d",
        "", "func (e *NotFound) Error() string \x7b",
        "\treturn fmt.Sprintf(\"%s: %s\", e.ErrorCode(), e.ErrorMessage())", "\x7d", "",
        "func (e *NotFound) ErrorMessage() string \x7b", "\tif e.MESSAGE == nil \x7b",
        "\t\treturn \"\"", "\t\x7d", "\treturn *e.MESSAGE", "\x7d", "",
        "func (e *NotFound) ErrorCode() string \x7b return \"not \\\"found\\\"\" \x7d", "",
        "func (e *NotFound) ErrorFault() smithy.ErrorFault \x7b return smithy.FaultClient \x7d",
        ""] := by
  have hrun : (Refusal.writer.run (ofStruct Refusal.context Refusal.refusal {}).1).2 = none :=
    Option.isNone_iff_eq_none.1 (by decide +kernel)
  obtain ⟨fields, fault, message, -, -, -, hlines, hmessage, -⟩ :=
    ofStruct_prints_error SymbolTable.Sound.empty rfl rfl (Prod.ext rfl hrun)
  have hgives : Refusal.context.model.IsMessage
      { name := "MESSAGE", container := Refusal.refusal.id,
        target := { ns := Trait.prelude, name := "String" } } :=
    ⟨by decide +kernel, _, rfl, rfl, rfl⟩
  exact ⟨_, fields, fault, message, Prod.ext rfl hrun, hlines,
    hmessage.2 ⟨_, .tail _ (.head _), hgives⟩, by decide +kernel⟩

end Declaration

end ClientGen
