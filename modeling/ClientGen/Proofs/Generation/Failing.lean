import ClientGen.Proofs.Writer.Ending

/-!
# How a run fails while it writes

Reserving decides more than names: afterwards the table remembers the symbol of every shape of the
run, the values of an enum have their labels, and the members of a structure have their fields.
Writing makes these checks again, but they cannot fail a second time.  Nor does it look for a shape
that the model lacks, as the shapes of the run are closed under references.  What is left are the
shapes that no run reserves, which are those of the prelude's namespace, and what reserving does not
look at: the fields of integrations, the faults of errors, and the bodies of handlers.

So a run fails while it writes only with failures of these kinds (`Context.Permits`).

## Main definitions

* `Context.Decided`, `Shape.Checked` — what reserving has decided.
* `Context.Permits` — the failures with which a run may stop while it writes.

## Main results

* `Run.decided_of_reserve` — reserving decides about all shapes of the run.
* `Run.start_eq_error`, `Run.reserveShape_eq_error` — why a run stops before it writes.
* `Run.permitted_of_start` — a run that stops while it writes has a permitted failure.
* `Run.permitted_or_repeated` — why a run fails once it has started to write.
-/

namespace ClientGen

open Writer (Levels)

/-! ## What reserving decides -/

/-- The names inside the declaration of the shape are free of clashes. -/
structure Shape.Checked (shape : Shape) : Prop where
  labels : shape.isEnum = true →
    ∃ labels, shape.enumValues.bind (EnumValue.labels shape.typeName) = .ok labels
  fields : shape.isAggregate = true → ∃ named, shape.fields = .ok named

namespace Context

variable {context : Context} {shapes : List Shape} {table table' : SymbolTable} {shape : Shape}

/-- A sound table that remembers the symbols of all shapes. -/
structure Decided (context : Context) (shapes : List Shape) (table : SymbolTable) : Prop where
  knows : context.Knows table
  remembered : ∀ shape ∈ shapes, ∃ symbol, table.symbols.lookup shape.id = some symbol

/-- A table may have no symbol for the shape, because of the failure. -/
def Refuses (context : Context) (shape : Shape) (failure : Failure) : Prop :=
  context.symbolOf shape = .error failure ∨ ∃ symbol clash, context.symbolOf shape = .ok symbol ∧
    failure = .collision clash ∧ symbol.Contested shape.id clash

/-- Looking up a shape of the run finds what is remembered and changes nothing. -/
theorem Decided.exists_resolve (h : context.Decided shapes table) (hmem : shape ∈ shapes)
    (hshape : context.model.shape? shape.id = some shape) :
    ∃ symbol, context.resolve table shape = .ok (symbol, table) ∧
      context.symbolOf shape = .ok symbol := by
  obtain ⟨symbol, hlookup⟩ := h.remembered shape hmem
  have hresolve : context.resolve table shape = .ok (symbol, table) :=
    SymbolTable.resolve_of_lookup hlookup
  exact ⟨symbol, hresolve, (h.knows.resolve hshape hresolve).1⟩

/-- Looking up any shape of the model keeps what is decided. -/
theorem Decided.resolve {symbol : Symbol} (h : context.Decided shapes table)
    (hshape : context.model.shape? shape.id = some shape)
    (hresolve : context.resolve table shape = .ok (symbol, table')) :
    context.Decided shapes table' where
  knows := (h.knows.resolve hshape hresolve).2
  remembered := by
    intro other hother
    obtain ⟨found, hfound⟩ := h.remembered other hother
    exact ⟨found, (SymbolTable.resolve_remembers hresolve).2 _ _ hfound⟩

end Context

namespace Run

variable {context : Context} {shapes : List Shape} {table table' : SymbolTable} {shape : Shape}

/-- Reserving a shape remembers its symbol, keeps what is remembered, and checks its names. -/
theorem remembers_of_reserveShape (hknows : context.Knows table)
    (hshape : context.model.shape? shape.id = some shape)
    (h : reserveShape context table shape = .ok table') :
    (∃ symbol, table'.symbols.lookup shape.id = some symbol) ∧
      (∀ id other, table.symbols.lookup id = some other →
        table'.symbols.lookup id = some other) ∧ shape.Checked := by
  obtain ⟨⟨symbol, next⟩, hresolve, h⟩ := bind_eq_ok.1 h
  obtain ⟨hsymbol, -⟩ := hknows.resolve hshape hresolve
  obtain ⟨hlookup, hkept⟩ := SymbolTable.resolve_remembers hresolve
  dsimp only at h
  split at h
  · rename_i henum
    have htype : shape.isType = true := by simp [Shape.isType, henum]
    obtain rfl := Except.ok.inj ((Model.symbolOf_of_isType htype).symm.trans hsymbol)
    obtain ⟨values, hvalues, h⟩ := bind_eq_ok.1 h
    obtain ⟨labels, hlabels, h⟩ := bind_eq_ok.1 h
    obtain ⟨-, hsymbols, -⟩ := claimLabels_spec (mapError_eq_ok.1 h)
    rw [Shape.name_typeSymbol] at hlabels
    refine ⟨⟨_, hsymbols ▸ hlookup⟩, fun id other hother => hsymbols ▸ hkept id other hother, ?_⟩
    have hnot : shape.isAggregate = false := by
      cases shape.kind <;> simp_all
    exact ⟨fun _ => ⟨labels, bind_eq_ok.2 ⟨values, hvalues, hlabels⟩⟩, by simp [hnot]⟩
  · rename_i hnot
    split at h
    · obtain ⟨named, hnamed, h⟩ := bind_eq_ok.1 h
      obtain rfl := pure_eq_ok.1 h
      exact ⟨⟨_, hlookup⟩, hkept, by simp [hnot], fun _ => ⟨named, mapError_eq_ok.1 hnamed⟩⟩
    · rename_i haggregate
      obtain rfl := pure_eq_ok.1 h
      exact ⟨⟨_, hlookup⟩, hkept, by simp [hnot], by simp [haggregate]⟩

/-- **Reserving decides about all shapes of the run.** -/
theorem decided_of_reserve
    (hshapes : ∀ shape ∈ shapes, context.model.shape? shape.id = some shape)
    (h : reserve context shapes = .ok table) :
    context.Decided shapes table ∧ ∀ shape ∈ shapes, shape.Checked := by
  obtain ⟨hknows, hdecided, -⟩ := foldlM_spec (I := context.Knows)
    (Q := fun table shape => (∃ symbol, table.symbols.lookup shape.id = some symbol) ∧
      shape.Checked)
    (fun table hknows shape hmem table' hstep => by
      have hshape := hshapes shape hmem
      obtain ⟨hknows', -, -⟩ := reserveShape_spec hknows hshape hstep
      obtain ⟨hlookup, hkept, hchecked⟩ := remembers_of_reserveShape hknows hshape hstep
      refine ⟨hknows', ⟨hlookup, hchecked⟩, ?_⟩
      rintro other ⟨⟨symbol, hsymbol⟩, hother⟩
      exact ⟨⟨symbol, hkept _ _ hsymbol⟩, hother⟩)
    SymbolTable.Sound.empty h
  exact ⟨⟨hknows, fun shape hmem => (hdecided shape hmem).1⟩, fun shape hmem =>
    (hdecided shape hmem).2⟩

/-- **Why a shape cannot be reserved**: it is refused a symbol, or the names inside its declaration
cannot be made or clash. -/
theorem reserveShape_eq_error {failure : Failure}
    (h : reserveShape context table shape = .error failure) :
    context.Refuses shape failure ∨
      (shape.isEnum = true ∧ ∃ typeName,
        (do EnumValue.labels typeName (← shape.enumValues)) = .error failure) ∨
      ∃ clash, failure = .collision clash := by
  rcases bind_eq_error.1 h with h | ⟨⟨symbol, next⟩, -, h⟩
  · exact .inl (SymbolTable.resolve_eq_error h)
  · refine .inr ?_
    dsimp only at h
    split at h
    · rename_i henum
      rcases bind_eq_error.1 h with h | ⟨values, hvalues, h⟩
      · exact .inl ⟨henum, symbol.name, bind_eq_error.2 (.inl h)⟩
      · rcases bind_eq_error.1 h with h | ⟨labels, -, h⟩
        · exact .inl ⟨henum, symbol.name, bind_eq_error.2 (.inr ⟨values, hvalues, h⟩)⟩
        · obtain ⟨clash, -, rfl⟩ := mapError_eq_error.1 h
          exact .inr ⟨clash, rfl⟩
    · split at h
      · rcases bind_eq_error.1 h with h | ⟨named, -, h⟩
        · obtain ⟨clash, -, rfl⟩ := mapError_eq_error.1 h
          exact .inr ⟨clash, rfl⟩
        · exact absurd h pure_ne_error
      · exact absurd h pure_ne_error

/-- **Why a run stops before it writes**: its service has no closure, one of its shapes cannot be
reserved, or there is no text for a level of indentation. -/
theorem start_eq_error {failure : Failure} (h : start context = .error failure) :
    context.model.closure context.service.id = .error failure ∨
      (∃ shapes, Run.shapes context = .ok shapes ∧ ∃ table, ∃ shape ∈ shapes,
        reserveShape context table shape = .error failure) ∨
      context.settings.indent = .error failure := by
  rcases bind_eq_error.1 h with h | ⟨shapes, hshapes, h⟩
  · rcases bind_eq_error.1 h with h | ⟨closure, -, h⟩
    · exact .inl h
    · exact absurd h pure_ne_error
  · rcases bind_eq_error.1 h with h | ⟨table, -, h⟩
    · exact .inr (.inl ⟨shapes, hshapes, exists_of_foldlM_eq_error h⟩)
    · rcases bind_eq_error.1 h with h | ⟨indent, -, h⟩
      · exact .inr (.inr h)
      · exact absurd h pure_ne_error

/-- The target of a member is held by the model; it is a shape of the run, or built in. -/
theorem exists_target (h : Run.shapes context = .ok shapes) (hmem : shape ∈ shapes)
    {member : Member} (hmember : member ∈ shape.members) :
    ∃ target, context.model.expect member.target = .ok target ∧
      (target ∈ shapes ∨ target.isBuiltin = true) := by
  obtain ⟨closure, hclosure, h⟩ := bind_eq_ok.1 h
  obtain rfl := pure_eq_ok.1 h
  obtain ⟨target, hinside, htarget⟩ := Model.exists_target_mem_closure hclosure
    (List.mem_filter.1 hmem).1 (Model.target_mem_targets hmember)
  refine ⟨target, Model.expect_eq_ok.2 htarget, ?_⟩
  cases hbuiltin : target.isBuiltin with
  | false => exact .inl (List.mem_filter.2 ⟨hinside, by simp [hbuiltin]⟩)
  | true => exact .inr rfl

end Run

/-! ## What declarations fail with -/

/-- Whatever may stop a run while it writes is permitted. -/
structure Context.Permits (context : Context) (shapes : List Shape) (P : Nat → Int → Prop)
    (R : Failure → Prop) : Prop where
  levels : Levels P R
  start : P 0 0
  transport : ∀ protocol shape, R (.model (.protocolNotHttp protocol shape))
  undeclared : ∀ symbol, R (.undeclared symbol)
  incomplete : ∀ generator missing, R (.incomplete generator missing)
  /-- Two fields of integrations that count for a service of the run. -/
  options : ∀ shape ∈ shapes, shape.type = .service → ∀ clash,
    Integration.collectFields context.integrations shape = .error clash → R (.collision clash)
  /-- A built-in shape that a field of the run has as its type. -/
  targets : ∀ shape ∈ shapes, shape.isAggregate = true → ∀ member ∈ shape.members, ∀ target,
    context.model.expect member.target = .ok target → target.isBuiltin = true →
      ∀ failure, context.Refuses target failure → R failure
  faults : ∀ shape ∈ shapes, shape.isError = true → ∀ failure,
    Declaration.faultSymbol shape = .error failure → R failure
  bodies : ∀ integration ∈ context.integrations, ∀ bodies ∈ integration.bodies,
    ∀ operation ∈ shapes, operation.type = .operation → ∀ middleware,
      Step.EndWell P R (bodies.serialize.steps operation middleware) ∧
        Step.EndWell P R (bodies.deserialize.steps operation middleware)

section Declarations

open Declaration Step

variable {context : Context} {shapes : List Shape} {P : Nat → Int → Prop} {R : Failure → Prop}
  {table table' : SymbolTable} {shape : Shape}

/-- All parts are of the kind that says nothing. -/
theorem Part.hasTexts_any : Part.HasTexts fun _ => True where
  text _ := trivial
  quoted _ := trivial

/-- The search for the message of an error ends if the model holds the types of all members. -/
theorem Declaration.exists_messageField {model : Model} {members : List Member}
    (h : ∀ member ∈ members, ∃ target, model.expect member.target = .ok target) :
    ∃ field, messageField model members = .ok field := by
  induction members with
  | nil => exact ⟨none, rfl⟩
  | cons member rest ih =>
    obtain ⟨⟨target, htarget⟩, hrest⟩ := List.forall_mem_cons.1 h
    obtain ⟨field, hfield⟩ := ih hrest
    rw [messageField, htarget, hfield]
    split
    · by_cases htext : (target.type == .string && !target.isEnum) = true
      · exact ⟨some member.fieldName, bind_eq_ok.2 ⟨target, rfl, by rw [if_pos htext]; rfl⟩⟩
      · exact ⟨field, bind_eq_ok.2 ⟨target, rfl, by rw [if_neg htext]⟩⟩
    · exact ⟨field, rfl⟩

/-- The transport of a run fails to be one only because it is not HTTP. -/
theorem Declaration.exists_protocol_of_httpTransport {failure : Failure}
    (h : httpTransport context shape = .error failure) :
    ∃ protocol, failure = .model (.protocolNotHttp protocol shape.id) := by
  unfold httpTransport at h
  split at h
  · exact ⟨_, (Except.error.inj h).symm⟩
  · split at h
    · simp at h
    · exact ⟨_, (Except.error.inj h).symm⟩

/-- The fault of an error is missing only if its trait has a value that nothing can be looked up
by. -/
theorem Declaration.faultSymbol_eq_error {failure : Failure}
    (h : faultSymbol shape = .error failure) :
    ((shape.trait? Trait.error).getD .null).isKey = false ∧ failure = .malformed .kind := by
  unfold faultSymbol at h
  split at h
  · simp at h
  · simp at h
  · split at h
    · simp at h
    · rename_i hkey
      exact ⟨by simpa using hkey, (Except.error.inj h).symm⟩

variable (hpermits : context.Permits shapes P R) (hshapes : Run.shapes context = .ok shapes)
include hpermits hshapes

/-- The type of a field has no symbol only if it is a built-in shape. -/
theorem Declaration.permitted_of_memberSymbol (hmem : shape ∈ shapes)
    (haggregate : shape.isAggregate = true) {member : Member} (hmember : member ∈ shape.members)
    (hdecided : context.Decided shapes table) {failure : Failure}
    (h : memberSymbol context table member = .error failure) : R failure := by
  obtain ⟨target, htarget, hplace⟩ := Run.exists_target hshapes hmem hmember
  rw [memberSymbol, htarget] at h
  have hresolve : context.resolve table target = .error failure := h
  rcases hplace with hinside | hbuiltin
  · obtain ⟨symbol, hremembered, -⟩ :=
      hdecided.exists_resolve hinside (Run.shape?_of_mem_shapes hshapes hinside)
    rw [hremembered] at hresolve
    simp at hresolve
  · exact hpermits.targets shape hmem haggregate member hmember target htarget hbuiltin _
      (SymbolTable.resolve_eq_error hresolve)

/-- Finding the types of fields keeps what is decided, and stops only with a permitted failure. -/
theorem Declaration.decided_typed (hmem : shape ∈ shapes) (haggregate : shape.isAggregate = true)
    {named : List (String × Member)} (hnamed : ∀ entry ∈ named, entry.2 ∈ shape.members)
    (hdecided : context.Decided shapes table) {fields : Fields}
    (h : typed context table named = (fields, table')) :
    context.Decided shapes table' ∧ ∀ failure ∈ fields.stop, R failure := by
  -- On the members: the table that one of them leaves serves those behind it.
  induction named generalizing table fields with
  | nil =>
    obtain ⟨rfl, rfl⟩ := Prod.mk.inj h
    exact ⟨hdecided, by simp⟩
  | cons head rest ih =>
    obtain ⟨name, member⟩ := head
    obtain ⟨hmember, hrest⟩ := List.forall_mem_cons.1 hnamed
    rw [typed] at h
    cases hfound : memberSymbol context table member with
    | error failure =>
      simp only [hfound, Prod.mk.injEq] at h
      obtain ⟨rfl, rfl⟩ := h
      refine ⟨hdecided, fun _ hfailure => ?_⟩
      obtain rfl := Option.some.inj hfailure
      exact permitted_of_memberSymbol hpermits hshapes hmem haggregate hmember hdecided hfound
    | ok found =>
      obtain ⟨symbol, next⟩ := found
      rcases hothers : typed context next rest with ⟨others, last⟩
      simp only [hfound, hothers, Prod.mk.injEq] at h
      obtain ⟨rfl, rfl⟩ := h
      obtain ⟨target, htarget, hresolve⟩ := bind_eq_ok.1 hfound
      have htarget' := Model.expect_eq_ok.1 htarget
      have hnext := hdecided.resolve (by rwa [Model.id_eq_of_shape? htarget']) hresolve
      obtain ⟨hlast, hstop⟩ := ih hrest hnext hothers
      exact ⟨hlast, hstop⟩

/-- A client fails for want of a transport, or as two of its options clash. -/
theorem Generator.madeOf_declare_service (hmem : shape ∈ shapes) (htype : shape.type = .service)
    (hdecided : context.Decided shapes table) {steps : List Step}
    (h : service.declare context shape table = (steps, table')) :
    AllMadeOf (fun _ => True) R steps ∧ context.Decided shapes table' := by
  obtain ⟨symbol, hresolve, -⟩ :=
    hdecided.exists_resolve hmem (Run.shape?_of_mem_shapes hshapes hmem)
  cases htransport : httpTransport context shape with
  | error failure =>
    simp only [declare, ofService, htransport, Declaration.withValue, ofFailure, ofSteps,
      Prod.mk.injEq] at h
    obtain ⟨rfl, rfl⟩ := h
    obtain ⟨protocol, rfl⟩ := exists_protocol_of_httpTransport htransport
    exact ⟨⟨hpermits.transport protocol shape.id, trivial⟩, hdecided⟩
  | ok transport =>
    simp only [declare, ofService, htransport, Declaration.withValue, Declaration.withSymbol,
      hresolve, ofSteps, Prod.mk.injEq] at h
    obtain ⟨rfl, rfl⟩ := h
    refine ⟨madeOf_clientSteps Part.hasTexts_any trivial trivial trivial trivial trivial trivial
      trivial (by simp) (by simp) ?_, hdecided⟩
    exact hpermits.options shape hmem htype

/-- A structure fails for want of the type of a field, or of the fault of an error. -/
theorem Generator.madeOf_declare_struct (hmem : shape ∈ shapes) (hchecked : shape.Checked)
    (haggregate : shape.isAggregate = true) (hdecided : context.Decided shapes table)
    {steps : List Step} (h : struct.declare context shape table = (steps, table')) :
    AllMadeOf (fun _ => True) R steps ∧ context.Decided shapes table' := by
  obtain ⟨symbol, hresolve, -⟩ :=
    hdecided.exists_resolve hmem (Run.shape?_of_mem_shapes hshapes hmem)
  obtain ⟨named, hnamed⟩ := hchecked.fields haggregate
  rcases htyped : typed context table named with ⟨fields, last⟩
  simp only [declare, ofStruct, Declaration.withSymbol, hresolve, hnamed, htyped,
    Prod.mk.injEq] at h
  obtain ⟨rfl, rfl⟩ := h
  have hmembers : ∀ entry ∈ named, entry.2 ∈ shape.members := by
    rw [Shape.fields_eq hnamed]
    rintro _ hentry
    obtain ⟨member, hmember, rfl⟩ := List.mem_map.1 hentry
    exact hmember
  obtain ⟨hlast, hstop⟩ :=
    decided_typed hpermits hshapes hmem haggregate hmembers hdecided htyped
  refine ⟨madeOf_structSteps Part.hasTexts_any trivial
    (madeOf_fieldsSteps Part.hasTexts_any (by simp) hstop) fun herror => ?_, hlast⟩
  refine madeOf_errorMethods Part.hasTexts_any trivial trivial trivial (by simp)
    (hpermits.faults shape hmem herror) fun failure hfailure => ?_
  have hheld : ∀ member ∈ shape.members,
      ∃ target, context.model.expect member.target = .ok target := fun member hmember =>
    (Run.exists_target hshapes hmem hmember).imp fun _ h => h.1
  obtain ⟨field, hfield⟩ := exists_messageField hheld
  rw [hfield] at hfailure
  cases hfailure

/-- **What a generator writes for a shape of the run** is made of permitted failures, and what is
decided stays. -/
theorem Generator.madeOf_declare {generator : Generator} (hmem : shape ∈ shapes)
    (hchecked : shape.Checked) (htakes : generator.takes shape = true)
    (hdecided : context.Decided shapes table) {steps : List Step}
    (h : generator.declare context shape table = (steps, table')) :
    AllMadeOf (fun _ => True) R steps ∧ context.Decided shapes table' := by
  obtain ⟨symbol, hresolve, hsymbol⟩ :=
    hdecided.exists_resolve hmem (Run.shape?_of_mem_shapes hshapes hmem)
  cases generator with
  | service =>
    have htype : shape.type = .service := by simpa [takes] using htakes
    exact madeOf_declare_service hpermits hshapes hmem htype hdecided h
  | enum =>
    obtain ⟨labels, hlabels⟩ := hchecked.labels htakes
    have htype : shape.isType = true := by
      have henum : shape.isEnum = true := htakes
      simp [Shape.isType, henum]
    obtain rfl := Except.ok.inj ((Model.symbolOf_of_isType htype).symm.trans hsymbol)
    simp only [declare, ofEnum, Declaration.withSymbol, hresolve, Shape.name_typeSymbol, hlabels,
      Declaration.withValue, ofSteps, Prod.mk.injEq] at h
    obtain ⟨rfl, rfl⟩ := h
    exact ⟨madeOf_enumSteps Part.hasTexts_any trivial, hdecided⟩
  | struct => exact madeOf_declare_struct hpermits hshapes hmem hchecked htakes hdecided h
  | remark type =>
    simp only [declare, remarkOn, Declaration.withSymbol, hresolve, ofSteps, Prod.mk.injEq] at h
    obtain ⟨rfl, rfl⟩ := h
    exact ⟨by simp [Step.line], hdecided⟩

end Declarations

/-! ## What stages fail with -/

namespace Emission

variable {context : Context} {shapes : List Shape} {P : Nat → Int → Prop} {R : Failure → Prop}

/-- The table knows what was decided, and every unit stands outside of all blocks. -/
structure Fine (context : Context) (shapes : List Shape) (P : Nat → Int → Prop)
    (emission : Emission) : Prop where
  decided : context.Decided shapes emission.table
  level : ∀ path, P 0 (emission.units.writer path).level

/-- The emission is fine, or it has failed in a permitted way. -/
structure Ends (context : Context) (shapes : List Shape) (P : Nat → Int → Prop)
    (R : Failure → Prop) (emission : Emission) : Prop where
  fine : emission.failure = none → Fine context shapes P emission
  failure : ∀ failure, emission.failure = some failure → R failure

/-- A stage that goes on from a fine emission ends. -/
def EndsWell (context : Context) (shapes : List Shape) (P : Nat → Int → Prop)
    (R : Failure → Prop) (stage : Emission → Emission) : Prop :=
  ∀ emission, emission.failure = none → Fine context shapes P emission →
    (stage emission).Ends context shapes P R

theorem Ends.of_fine {emission : Emission} (hnone : emission.failure = none)
    (h : Fine context shapes P emission) : emission.Ends context shapes P R where
  fine _ := h
  failure := by simp [hnone]

theorem Ends.of_failure {emission : Emission} {failure : Failure} (h : R failure) :
    ({ emission with failure := some failure } : Emission).Ends context shapes P R where
  fine := by simp
  failure := by
    intro other hother
    exact Option.some.inj hother ▸ h

theorem Ends.andThen {emission : Emission} {stage : Emission → Emission}
    (h : emission.Ends context shapes P R) (hstage : EndsWell context shapes P R stage) :
    (emission.andThen stage).Ends context shapes P R := by
  unfold Emission.andThen
  split
  · rename_i hnone
    exact hstage emission hnone (h.fine hnone)
  · exact h

theorem endsWell_nothing : EndsWell context shapes P R fun emission => emission :=
  fun _ hnone h => .of_fine hnone h

theorem EndsWell.andThen {first second : Emission → Emission}
    (hfirst : EndsWell context shapes P R first) (hsecond : EndsWell context shapes P R second) :
    EndsWell context shapes P R fun emission => (first emission).andThen second :=
  fun emission hnone h => (hfirst emission hnone h).andThen hsecond

/-- A loop ends well if each of its rounds does. -/
theorem endsWell_forEach {α : Type} {values : List α} {next : α → Emission → Emission}
    (h : ∀ value ∈ values, EndsWell context shapes P R (next value)) :
    EndsWell context shapes P R fun emission => emission.forEach values next := by
  have hloop : ∀ (values : List α) (emission : Emission), emission.Ends context shapes P R →
      (∀ value ∈ values, EndsWell context shapes P R (next value)) →
      (emission.forEach values next).Ends context shapes P R := by
    intro values
    -- On the values: a round that fails leaves the emission to the rounds behind it as it is.
    induction values with
    | nil => exact fun _ hends _ => hends
    | cons value rest ih =>
      intro emission hends h
      obtain ⟨hvalue, hrest⟩ := List.forall_mem_cons.1 h
      exact ih _ (hends.andThen hvalue) hrest
  exact fun emission hnone hfine => hloop values emission (.of_fine hnone hfine) h

theorem endsWell_withValue {α : Type} {value : Except Failure α}
    {next : α → Emission → Emission} (hfailure : ∀ failure, value = .error failure → R failure)
    (h : ∀ a, value = .ok a → EndsWell context shapes P R (next a)) :
    EndsWell context shapes P R fun emission => emission.withValue value next := by
  intro emission hnone hfine
  cases value with
  | ok a => exact h a rfl emission hnone hfine
  | error failure => exact .of_failure (hfailure failure rfl)

theorem endsWell_perform {path : String} {steps : List Step} (h : Step.EndWell P R steps) :
    EndsWell context shapes P R (perform path steps) := by
  intro emission hnone hfine
  have hends := h 0 (emission.units.writer path) (hfine.level path)
  refine ⟨fun hok => ⟨hfine.decided, fun other => ?_⟩, hends.failure⟩
  show P 0 ((emission.units.perform path steps).1.writer other).level
  rw [Units.writer_perform]
  split
  · exact hends.level hok
  · exact hfine.level other

section Stages

variable {shape : Shape} (hpermits : context.Permits shapes P R)
  (hshapes : Run.shapes context = .ok shapes)
include hshapes

theorem endsWell_withSymbol (hmem : shape ∈ shapes) {next : Symbol → Emission → Emission}
    (h : ∀ symbol, EndsWell context shapes P R (next symbol)) :
    EndsWell context shapes P R (withSymbol context shape next) := by
  intro emission hnone hfine
  obtain ⟨symbol, hresolve, -⟩ :=
    hfine.decided.exists_resolve hmem (Run.shape?_of_mem_shapes hshapes hmem)
  rw [withSymbol, hresolve]
  exact h symbol emission hnone hfine

include hpermits

/-- **Declaring a shape of the run ends well.** -/
theorem endsWell_declare {generator : Generator} (hmem : shape ∈ shapes)
    (hchecked : shape.Checked) (htakes : generator.takes shape = true) :
    EndsWell context shapes P R (declare context generator shape) := by
  refine endsWell_withSymbol hshapes hmem fun symbol => endsWell_withValue ?_ fun path _ => ?_
  · intro failure hfailure
    unfold Units.pathOf at hfailure
    split at hfailure
    · split at hfailure
      · exact Except.error.inj hfailure ▸ hpermits.undeclared _
      · simp at hfailure
    · exact Except.error.inj hfailure ▸ hpermits.undeclared _
  · intro emission hnone hfine
    rcases hdeclare : generator.declare context shape emission.table with ⟨steps, table⟩
    obtain ⟨hmade, hdecided⟩ :=
      generator.madeOf_declare hpermits hshapes hmem hchecked htakes hfine.decided hdeclare
    simp only [hdeclare]
    exact endsWell_perform (Step.endWell_of_madeOf hpermits.levels hmade) _ hnone
      ⟨hdecided, hfine.level⟩

theorem endsWell_declareAll (generators : GeneratorRegistry)
    (hchecked : ∀ shape ∈ shapes, shape.Checked) :
    EndsWell context shapes P R (declareAll context generators shapes) := by
  refine endsWell_forEach fun shape hmem => ?_
  cases hfor : generators.forShape? shape with
  | none => exact endsWell_nothing
  | some generator =>
    have htakes : generator.takes shape = true := by
      obtain ⟨entry, hfind, rfl⟩ := Option.map_eq_some_iff.1 hfor
      simpa using List.find?_some hfind
    exact endsWell_declare hpermits hshapes hmem (hchecked shape hmem) htakes

omit hshapes in
theorem endsWell_writeMiddleware {path : String} {stage : Stage} {identifier : String}
    {operation : Shape} {body : HandlerBody}
    (h : ∀ middleware, Step.EndWell P R (body.steps operation middleware)) :
    EndsWell context shapes P R
      (writeMiddleware path (Middleware.ofStage stage (some identifier)) operation body) := by
  refine endsWell_withValue ?_ fun middleware _ =>
    endsWell_perform (middleware.endWell_steps hpermits.levels (h middleware))
  intro failure hfailure
  simp only [Middleware.ofStage, Middleware.Draft.complete] at hfailure
  split at hfailure
  · simp at hfailure
  · exact Except.error.inj hfailure ▸ hpermits.incomplete _ _

theorem endsWell_writeProtocol (protocol : Option String) :
    EndsWell context shapes P R (writeProtocol context protocol shapes) := by
  unfold writeProtocol
  cases hbodies : protocol.bind (bodies? context) with
  | none => exact endsWell_nothing
  | some bodies =>
    obtain ⟨integration, hintegration, hmem⟩ := exists_integration_of_bodies? hbodies
    refine endsWell_forEach fun operation hoperation => ?_
    obtain ⟨hshape, htype⟩ := List.mem_filter.1 hoperation
    have hends := hpermits.bodies integration hintegration bodies hmem operation hshape
      (by simpa using htype)
    refine endsWell_withSymbol hshapes hshape fun symbol => ?_
    exact (endsWell_writeMiddleware hpermits fun middleware => (hends middleware).1).andThen
      (endsWell_writeMiddleware hpermits fun middleware => (hends middleware).2)

/-- **A run that stops while it writes has a permitted failure.** -/
theorem endsWell_of (generators : GeneratorRegistry) (protocol : Option String)
    (hchecked : ∀ shape ∈ shapes, shape.Checked) :
    EndsWell context shapes P R (Emission.of context generators protocol shapes) := by
  have hdeclare := endsWell_declareAll hpermits hshapes generators hchecked
  have hprotocol := endsWell_writeProtocol hpermits hshapes protocol
  exact (hdeclare.andThen hprotocol).andThen
    (endsWell_perform (Step.endWell_packageDocs _))

end Stages

end Emission

namespace Run

/-- **What a run stops with once it has started to write** is permitted. -/
theorem permitted_of_start {context : Context} {shapes : List Shape} {start : Emission}
    {P : Nat → Int → Prop} {R : Failure → Prop} (hstart : Run.start context = .ok (shapes, start))
    (hpermits : context.Permits shapes P R) (generators : GeneratorRegistry)
    (protocol : Option String) {failure : Failure}
    (hfailure : (Emission.of context generators protocol shapes start).failure = some failure) :
    R failure := by
  obtain ⟨hshapes, htable, hnone, indentText, -, hunits⟩ := start_spec hstart
  obtain ⟨hdecided, hchecked⟩ := decided_of_reserve
    (fun shape hmem => shape?_of_mem_shapes hshapes hmem) htable
  have hfresh : ∀ path, P 0 (start.units.writer path).level := by
    intro path
    have hlevel : (start.units.writer path).level = 0 := by
      rw [hunits, Units.writer, noUnits, List.lookup_nil, Option.getD_none, Units.fresh]
      split <;> rfl
    rw [hlevel]
    exact hpermits.start
  exact (Emission.endsWell_of hpermits hshapes generators protocol hchecked start hnone
    ⟨hdecided, hfresh⟩).failure failure hfailure

/-- Laying out files fails only if two of them have one path. -/
theorem exists_path_of_finish {settings : Settings} {units : Units} {failure : Failure}
    (h : finish settings units = .error failure) : ∃ path, failure = .unitRepeated path := by
  have hadd : ∀ (manifest : Manifest) (path content : String),
      manifest.add path content = .error failure → ∃ path, failure = .unitRepeated path := by
    intro manifest path content h
    unfold Manifest.add at h
    split at h
    · exact ⟨path, (Except.error.inj h).symm⟩
    · simp at h
  rcases bind_eq_error.1 h with h | ⟨manifest, -, h⟩
  · obtain ⟨manifest, file, -, h⟩ := exists_of_foldlM_eq_error h
    exact hadd _ _ _ h
  · exact hadd _ _ _ h

/-- **Why a run fails once it has started to write**: it stops with a permitted failure, or two of
its files have one path. -/
theorem permitted_or_repeated {context : Context} {settings : Settings}
    {generators : GeneratorRegistry} {protocol : Option String} {shapes : List Shape}
    {start : Emission} {P : Nat → Int → Prop} {R : Failure → Prop}
    (hstart : Run.start context = .ok (shapes, start)) (hpermits : context.Permits shapes P R)
    {result : Except Failure Manifest}
    (hfailed : ∀ failure,
      (Emission.of context generators protocol shapes start).failure = some failure →
        result = .error failure)
    (hfinished : (Emission.of context generators protocol shapes start).failure = none →
      result = finish settings (Emission.of context generators protocol shapes start).units)
    {failure : Failure} (h : result = .error failure) :
    R failure ∨ ∃ path, failure = .unitRepeated path := by
  cases hstopped : (Emission.of context generators protocol shapes start).failure with
  | some other =>
    obtain rfl := Except.error.inj ((hfailed other hstopped).symm.trans h)
    exact .inl (permitted_of_start hstart hpermits generators protocol hstopped)
  | none => exact .inr (exists_path_of_finish ((hfinished hstopped).symm.trans h))

end Run

end ClientGen
