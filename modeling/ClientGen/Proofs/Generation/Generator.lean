import ClientGen.Generation.Generator
import ClientGen.Proofs.Model.Closure
import ClientGen.Proofs.Symbol.Table
import ClientGen.Proofs.Writer.Step

/-!
# What generators write, without the table

A declaration looks symbols up in a table and passes the table on.  As long as the table is sound,
what it looks up is what the provider gives, so a declaration that is performed to the end consists
of steps that can be told from the model alone.

## Main definitions

* `Context.Knows` — a table is sound for the model and the settings of a run.
* `Generator.steps` — the steps for a shape, every symbol taken from the provider.

## Main results

* `Generator.declare_spec` — a declaration that is performed consists of these steps and leaves a
  sound table.
-/

namespace ClientGen

namespace Context

variable {context : Context} {table table' : SymbolTable}

/-- The symbol of a shape, as the provider gives it. -/
def symbolOf (context : Context) (shape : Shape) : Except Failure Symbol :=
  context.model.symbolOf context.settings.modulePath shape

/-- A table of symbols of the model. -/
def Knows (context : Context) (table : SymbolTable) : Prop :=
  table.Sound context.model.shape? context.symbolOf

theorem Knows.resolve {shape : Shape} {symbol : Symbol} (h : context.Knows table)
    (hshape : context.model.shape? shape.id = some shape)
    (hresolve : context.resolve table shape = .ok (symbol, table')) :
    context.symbolOf shape = .ok symbol ∧ context.Knows table' :=
  let spec := SymbolTable.resolve_spec h hshape hresolve
  ⟨spec.1, spec.2.1⟩

/-- The symbol of the type of a member. -/
def memberType (context : Context) (member : Member) : Except Failure Symbol := do
  context.symbolOf (← context.model.expect member.target)

theorem Knows.memberType {member : Member} {symbol : Symbol} (h : context.Knows table)
    (hmember : Declaration.memberSymbol context table member = .ok (symbol, table')) :
    context.memberType member = .ok symbol ∧ context.Knows table' := by
  obtain ⟨target, htarget, hresolve⟩ := bind_eq_ok.1 hmember
  have hshape := Model.expect_eq_ok.1 htarget
  have hknows := h.resolve (by rwa [Model.id_eq_of_shape? hshape]) hresolve
  exact ⟨bind_eq_ok.2 ⟨target, htarget, hknows.1⟩, hknows.2⟩

/-- The field for a member under a name. -/
def fieldOf (context : Context) (named : String × Member) : Except Failure Declaration.Field := do
  return {
    name := named.1
    type := ← context.memberType named.2
    documentation := named.2.documentation }

end Context

open Context

variable {context : Context} {table table' : SymbolTable} {shape : Shape}

namespace Declaration

/-- **Fields get their types from the provider.** -/
theorem typed_spec {named : List (String × Member)} {fields : Fields} (hknows : context.Knows table)
    (h : typed context table named = (fields, table')) (hstop : fields.stop = none) :
    named.mapM context.fieldOf = .ok fields.found ∧ context.Knows table' := by
  induction named generalizing table fields with
  | nil =>
    obtain ⟨rfl, rfl⟩ := Prod.mk.inj h
    exact ⟨rfl, hknows⟩
  | cons head rest ih =>
    obtain ⟨name, member⟩ := head
    rw [typed] at h
    cases hmember : memberSymbol context table member with
    | error failure =>
      simp only [hmember, Prod.mk.injEq] at h
      obtain ⟨rfl, -⟩ := h
      simp at hstop
    | ok found =>
      obtain ⟨symbol, next⟩ := found
      obtain ⟨htype, hnext⟩ := hknows.memberType hmember
      rcases hothers : typed context next rest with ⟨others, last⟩
      simp only [hmember, hothers, Prod.mk.injEq] at h
      obtain ⟨rfl, rfl⟩ := h
      obtain ⟨hfound, hlast⟩ := ih hnext hothers hstop
      refine ⟨?_, hlast⟩
      rw [mapM_eq_ok] at hfound ⊢
      refine List.Forall₂.cons ?_ hfound
      simp only [fieldOf, htype]
      rfl

theorem withSymbol_spec {rest : Symbol → Declaration} {steps : List Step}
    (hknows : context.Knows table) (hshape : context.model.shape? shape.id = some shape)
    (h : withSymbol context shape rest table = (steps, table')) (hrun : Step.Run steps) :
    ∃ symbol next, context.symbolOf shape = .ok symbol ∧ context.Knows next ∧
      rest symbol next = (steps, table') := by
  unfold withSymbol at h
  cases hresolve : context.resolve table shape with
  | error failure =>
    simp only [hresolve, ofFailure, ofSteps, Prod.mk.injEq] at h
    obtain ⟨rfl, -⟩ := h
    exact absurd List.mem_cons_self (hrun.not_fail failure)
  | ok found =>
    obtain ⟨symbol, next⟩ := found
    obtain ⟨hsymbol, hnext⟩ := hknows.resolve hshape hresolve
    simp only [hresolve] at h
    exact ⟨symbol, next, hsymbol, hnext, h⟩

theorem withValue_spec {α : Type} {value : Except Failure α} {rest : α → Declaration}
    {steps : List Step} (h : withValue value rest table = (steps, table'))
    (hrun : Step.Run steps) : ∃ a, value = .ok a ∧ rest a table = (steps, table') := by
  cases value with
  | error failure =>
    simp only [withValue, ofFailure, ofSteps, Prod.mk.injEq] at h
    obtain ⟨rfl, -⟩ := h
    exact absurd List.mem_cons_self (hrun.not_fail failure)
  | ok a => exact ⟨a, rfl, h⟩

end Declaration

namespace Generator

open Declaration

/-- The steps for a shape, every symbol taken from the provider. -/
def steps (context : Context) (shape : Shape) : Generator → Except Failure (List Step)
  | service => do
    let transport ← httpTransport context shape
    return clientSteps context shape transport (← context.symbolOf shape)
  | enum => do
    let symbol ← context.symbolOf shape
    return enumSteps context symbol (← shape.enumValues.bind (EnumValue.labels symbol.name))
  | struct => do
    let symbol ← context.symbolOf shape
    let fields ← (← shape.fields.mapError .collision).mapM context.fieldOf
    return structSteps context shape symbol (fieldsSteps context { found := fields })
  | remark _ => do
    return context.docs shape.documentation
      ++ [.line ["// stub ", .name (← context.symbolOf shape)], .blank]

theorem structSteps_body_run {symbol : Symbol} {body : List Step}
    (h : Step.Run (structSteps context shape symbol body)) : Step.Run body := by
  have hblock : .block (.parts ["type ", .name symbol, " struct \x7b"]) "\x7d" body
      ∈ structSteps context shape symbol body := by
    simp [structSteps]
  exact h.of_block hblock

theorem ofStruct_spec {found : List Step} (hknows : context.Knows table)
    (hshape : context.model.shape? shape.id = some shape)
    (h : ofStruct context shape table = (found, table')) (hrun : Step.Run found) :
    struct.steps context shape = .ok found ∧ context.Knows table' := by
  obtain ⟨symbol, next, hsymbol, hnext, h⟩ := withSymbol_spec hknows hshape h hrun
  cases hfields : shape.fields with
  | error clash =>
    simp only [hfields, Prod.mk.injEq] at h
    obtain ⟨rfl, -⟩ := h
    exact absurd List.mem_cons_self ((structSteps_body_run hrun).not_fail _)
  | ok named =>
    rcases htyped : typed context next named with ⟨fields, last⟩
    simp only [hfields, htyped, Prod.mk.injEq] at h
    obtain ⟨rfl, rfl⟩ := h
    have hstop : fields.stop = none := by
      cases hfailure : fields.stop with
      | none => rfl
      | some failure =>
        refine absurd ?_ ((structSteps_body_run hrun).not_fail failure)
        simp [fieldsSteps, hfailure]
    obtain ⟨hfound, hlast⟩ := typed_spec hnext htyped hstop
    refine ⟨?_, hlast⟩
    obtain ⟨found, stop⟩ := fields
    obtain rfl : stop = none := hstop
    simp only [steps, hsymbol, hfields, Except.mapError]
    exact bind_eq_ok.2 ⟨symbol, rfl, bind_eq_ok.2 ⟨named, rfl, bind_eq_ok.2 ⟨found, hfound, rfl⟩⟩⟩

/-- **A declaration that is performed consists of the provider's steps.** -/
theorem declare_spec {generator : Generator} {found : List Step} (hknows : context.Knows table)
    (hshape : context.model.shape? shape.id = some shape)
    (h : generator.declare context shape table = (found, table')) (hrun : Step.Run found) :
    generator.steps context shape = .ok found ∧ context.Knows table' := by
  cases generator with
  | service =>
    obtain ⟨transport, htransport, h⟩ := withValue_spec h hrun
    obtain ⟨symbol, next, hsymbol, hnext, h⟩ := withSymbol_spec hknows hshape h hrun
    obtain ⟨rfl, rfl⟩ := Prod.mk.inj h
    exact ⟨bind_eq_ok.2 ⟨transport, htransport, bind_eq_ok.2 ⟨symbol, hsymbol, rfl⟩⟩, hnext⟩
  | enum =>
    obtain ⟨symbol, next, hsymbol, hnext, h⟩ := withSymbol_spec hknows hshape h hrun
    obtain ⟨labels, hlabels, h⟩ := withValue_spec h hrun
    obtain ⟨rfl, rfl⟩ := Prod.mk.inj h
    exact ⟨bind_eq_ok.2 ⟨symbol, hsymbol, bind_eq_ok.2 ⟨labels, hlabels, rfl⟩⟩, hnext⟩
  | struct => exact ofStruct_spec hknows hshape h hrun
  | remark type =>
    rcases hwith : withSymbol context shape (fun symbol =>
      .ofSteps [.line ["// stub ", .name symbol], .blank]) table with ⟨more, last⟩
    simp only [declare, remarkOn, hwith, Prod.mk.injEq] at h
    obtain ⟨rfl, rfl⟩ := h
    obtain ⟨symbol, next, hsymbol, hnext, h⟩ :=
      withSymbol_spec hknows hshape hwith hrun.of_append.2
    obtain ⟨rfl, rfl⟩ := Prod.mk.inj h
    exact ⟨bind_eq_ok.2 ⟨symbol, hsymbol, rfl⟩, hnext⟩

end Generator

end ClientGen
