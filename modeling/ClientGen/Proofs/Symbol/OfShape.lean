import ClientGen.Proofs.Model.Closure
import ClientGen.Symbol.OfShape

/-!
# What the type of a shape comes down to

The symbol of a shape is a chain of slices and maps around one named symbol, its core.  The chain
follows the elements of lists, sets and maps through the model, and the core is the symbol of the
shape at its end.

## Main definitions

* `Symbol.core`, `Symbol.wrapping` — the named symbol inside a symbol, and the signs around it.
* `Symbol.heldIn` — the pointer form of a symbol in a package.
* `Shape.isType`, `Shape.typeSymbol` — the shapes that the package of types declares, and their
  symbols.
* `Shape.Kind` — the kinds of shapes that a run tells apart.
* `Model.EndsIn` — a shape is reached through any nesting of lists, sets and map values.

## Main results

* `Model.core_of_endsIn` — the core of a symbol is the type at the end of the elements.
* `Symbol.pointer_eq` — the text of a symbol is that of its core behind the signs.
* `Model.endsIn_mem_closure` — the elements of shapes of a closure stay in the closure.
-/

namespace ClientGen

/-! ## Cores -/

namespace Symbol

/-- The named symbol inside a symbol. -/
def core : Symbol → NamedSymbol
  | named identity => identity
  | composite _ element _ => element.core

theorem dependencies_eq_core (symbol : Symbol) :
    symbol.dependencies = symbol.core.dependency.toList := by
  induction symbol with
  | named identity => rfl
  | composite container element isPointer ih => exact ih

/-- The signs in front of the core: a star for every pointer, and the containers. -/
def wrapping : Symbol → String
  | named identity => if identity.isPointer then "*" else ""
  | composite container element isPointer =>
    (if isPointer then "*" else "") ++ (container.text ++ element.wrapping)

theorem pointer_eq_append_fullName (symbol : Symbol) :
    symbol.pointer = (if symbol.isPointer then "*" else "") ++ symbol.fullName := by
  unfold pointer
  split
  · rfl
  · rw [String.empty_append]

/-- The text of a symbol is that of its core behind the signs. -/
theorem pointer_eq (symbol : Symbol) :
    symbol.pointer = symbol.wrapping ++ qualified symbol.core := by
  induction symbol with
  | named identity => exact pointer_eq_append_fullName _
  | composite container element isPointer ih =>
    rw [pointer_eq_append_fullName, fullName_composite, ih, wrapping, core, String.append_assoc,
      String.append_assoc]
    rfl

theorem fullName_eq_append_qualified (symbol : Symbol) :
    ∃ signs, symbol.fullName = signs ++ qualified symbol.core := by
  cases symbol with
  | named identity => exact ⟨"", (String.empty_append).symm⟩
  | composite container element isPointer =>
    exact ⟨container.text ++ element.wrapping,
      by rw [fullName_composite, pointer_eq, String.append_assoc]; rfl⟩

theorem core_relativeTo (path : Option String) (symbol : Symbol) :
    .named (symbol.relativeTo path).core = (named symbol.core).relativeTo path := by
  induction symbol with
  | named identity =>
    simp only [core, relativeTo]
    split
    · split <;> rfl
    · rfl
  | composite container element isPointer ih => exact ih

theorem name_relativeTo (path : Option String) (symbol : Symbol) :
    (symbol.relativeTo path).name = symbol.name := by
  induction symbol with
  | named identity =>
    simp only [relativeTo]
    split
    · split <;> rfl
    · rfl
  | composite container element isPointer ih => simp [relativeTo, name, ih]

theorem wrapping_relativeTo (path : Option String) (symbol : Symbol) :
    (symbol.relativeTo path).wrapping = symbol.wrapping := by
  induction symbol with
  | named identity =>
    simp only [relativeTo]
    split
    · split <;> rfl
    · rfl
  | composite container element isPointer ih => rw [relativeTo, wrapping, wrapping, ih]

/-- Whether the core of a symbol belongs to the package of a path. -/
def isAt (path : Option String) (symbol : Symbol) : Bool :=
  symbol.core.dependency.any fun dependency => some dependency.path == path

/-- The pointer form of a symbol in the package of a path: a name of that package stands alone behind
the signs. -/
def heldIn (path : Option String) (symbol : Symbol) : String :=
  symbol.wrapping ++ if symbol.isAt path then symbol.core.name else qualified symbol.core

/-- Other packages write the pointer form as it is. -/
theorem heldIn_eq_pointer {path : Option String} {symbol : Symbol}
    (h : symbol.isAt path = false) : symbol.heldIn path = symbol.pointer := by
  rw [heldIn, h, pointer_eq]
  rfl

theorem qualified_core_eq_ite (path : Option String) (symbol : Symbol) :
    qualified (symbol.relativeTo path).core
      = if symbol.isAt path then symbol.core.name else qualified symbol.core := by
  have hcore := core_relativeTo path symbol
  unfold isAt
  generalize (symbol.relativeTo path).core = inside at hcore ⊢
  cases hdependency : symbol.core.dependency with
  | none =>
    simp only [relativeTo, hdependency] at hcore
    rw [named.inj hcore]
    rfl
  | some dependency =>
    cases path with
    | none =>
      simp only [relativeTo, hdependency] at hcore
      rw [named.inj hcore]
      rfl
    | some path =>
      simp only [relativeTo, hdependency, beq_iff_eq] at hcore
      by_cases heq : dependency.path = path
      · rw [if_pos heq] at hcore
        simp [named.inj hcore, qualified, heq]
      · rw [if_neg heq] at hcore
        simp [named.inj hcore, heq]

/-- **The pointer form of a symbol as it is seen from a package.** -/
theorem pointer_eq_heldIn (path : Option String) (symbol : Symbol) :
    (symbol.relativeTo path).pointer = symbol.heldIn path := by
  rw [pointer_eq, wrapping_relativeTo, qualified_core_eq_ite, heldIn]

end Symbol

/-! ## Symbols of shapes -/

/-- The package of types goes by one name in every module. -/
theorem Dependency.name_own_typesPath (modulePath : String) :
    (own (typesPath modulePath)).name = "types" := by
  have htrim : Text.trimEnd (· == '/') (typesPath modulePath).toList
      = (typesPath modulePath).toList := by
    simp [Text.trimEnd, typesPath]
  have hcut : Text.cutLast? '/' (typesPath modulePath).toList
      = some (modulePath.toList, "types".toList) := by
    have hlast : (typesPath modulePath).toList.reverse
        = "sepyt".toList ++ '/' :: modulePath.toList.reverse := by
      simp [typesPath]
    rw [Text.cutLast?, hlast, Text.cut?_append_cons (by decide)]
    simp
  simp only [own, of, lastElement, htrim, hcut]
  simp

namespace Shape

variable {modulePath : String} {shape : Shape}

/-- Whether the package of types declares the shape. -/
def isType (shape : Shape) : Bool :=
  shape.isAggregate || shape.isEnum

/-- The unit that declares a shape of the package of types. -/
def typeUnit (shape : Shape) : String :=
  if shape.isEnum then enumsUnit else if shape.isError then errorsUnit else typesUnit

/-- The symbol of a shape that the package of types declares. -/
def typeSymbol (modulePath : String) (shape : Shape) : Symbol :=
  shape.declaredType modulePath shape.typeUnit (!shape.isEnum)

-- These are no proofs by `rfl`: that would evaluate the last element of the module's path.
@[simp]
theorem name_typeSymbol (modulePath : String) :
    (shape.typeSymbol modulePath).name = shape.typeName := by
  simp only [typeSymbol, declaredType, Symbol.name]

@[simp]
theorem scope_typeSymbol (modulePath : String) :
    (shape.typeSymbol modulePath).scope = typesPath modulePath := by
  simp only [typeSymbol, declaredType, Symbol.scope, Symbol.dependency?, Dependency.own,
    Dependency.of]

@[simp]
theorem unit?_typeSymbol (modulePath : String) :
    (shape.typeSymbol modulePath).unit? = some shape.typeUnit := by
  simp only [typeSymbol, declaredType, Symbol.unit?]

@[simp]
theorem isDeclared_typeSymbol (modulePath : String) :
    (shape.typeSymbol modulePath).isDeclared = true := by
  rw [Symbol.isDeclared, unit?_typeSymbol, Option.isSome_some]

/-- The symbol of a service. -/
def clientSymbol (shape : Shape) : Symbol :=
  .named {
    name := "Client"
    isPointer := true
    documentation := shape.documentation
    unit := clientUnit }

theorem type_eq_string_of_isEnum (h : shape.isEnum = true) : shape.type = .string := by
  simp only [isEnum, Bool.and_eq_true, beq_iff_eq] at h
  exact h.1

theorem isAggregate_eq_true_iff :
    shape.isAggregate = true ↔ shape.type = .struct ∨ shape.type = .union := by
  simp [isAggregate]

theorem isAggregate_of_isError (h : shape.isError = true) : shape.isAggregate = true := by
  simp only [isError, Bool.and_eq_true, beq_iff_eq] at h
  exact isAggregate_eq_true_iff.2 (.inl h.1)

/-- The kinds of shapes that a run tells apart, each with what it excludes. -/
inductive Kind (shape : Shape) : Prop where
  | service (type : shape.type = .service) (enum : shape.isEnum = false)
      (aggregate : shape.isAggregate = false) (error : shape.isError = false)
  | enum (type : shape.type ≠ .service) (enum : shape.isEnum = true)
      (aggregate : shape.isAggregate = false) (error : shape.isError = false)
  | error (type : shape.type ≠ .service) (enum : shape.isEnum = false)
      (aggregate : shape.isAggregate = true) (error : shape.isError = true)
  | plain (type : shape.type ≠ .service) (enum : shape.isEnum = false)
      (aggregate : shape.isAggregate = true) (error : shape.isError = false)
  | other (type : shape.type ≠ .service) (enum : shape.isEnum = false)
      (aggregate : shape.isAggregate = false) (error : shape.isError = false)

theorem kind (shape : Shape) : shape.Kind := by
  by_cases hservice : shape.type = .service
  · exact .service hservice (by simp [isEnum, hservice]) (by simp [isAggregate, hservice])
      (by simp [isError, hservice])
  · cases henum : shape.isEnum with
    | true =>
      have htype := type_eq_string_of_isEnum henum
      exact .enum hservice henum (by simp [isAggregate, htype]) (by simp [isError, htype])
    | false =>
      cases herror : shape.isError with
      | true => exact .error hservice henum (isAggregate_of_isError herror) herror
      | false =>
        cases haggregate : shape.isAggregate with
        | true => exact .plain hservice henum haggregate herror
        | false => exact .other hservice henum haggregate herror

theorem not_isEnum_of_isAggregate (h : shape.isAggregate = true) : shape.isEnum = false := by
  cases shape.kind <;> simp_all

theorem type_ne_service_of_isType (h : shape.isType = true) : shape.type ≠ .service := by
  cases shape.kind <;> simp_all [isType]

theorem ownSymbol?_of_isType (h : shape.isType = true) :
    shape.ownSymbol? modulePath = some (.ok (shape.typeSymbol modulePath)) := by
  rcases Bool.or_eq_true_iff.1 h with haggregate | henum
  · have hnot := not_isEnum_of_isAggregate haggregate
    rcases isAggregate_eq_true_iff.1 haggregate with htype | htype <;>
      simp [ownSymbol?, htype, typeSymbol, typeUnit, hnot]
  · simp [ownSymbol?, type_eq_string_of_isEnum henum, henum, typeSymbol, typeUnit]

theorem ownSymbol?_of_service (h : shape.type = .service) :
    shape.ownSymbol? modulePath = some (.ok shape.clientSymbol) := by
  simp [ownSymbol?, h, clientSymbol]

theorem ownSymbol?_of_operation (h : shape.type = .operation) :
    shape.ownSymbol? modulePath = some (shape.operationSymbol modulePath) := by
  simp [ownSymbol?, h]

/-- The symbols that shapes have of their own, by the kind of the shape. -/
inductive Owned (modulePath : String) (shape : Shape) : Symbol → Prop
  | client (type : shape.type = .service) : Owned modulePath shape shape.clientSymbol
  | operation (type : shape.type = .operation) (free : shape.typeName ∉ Name.clientNames) :
      Owned modulePath shape (.named {
        name := shape.typeName
        documentation := shape.documentation
        unit := "api_op_" ++ shape.typeName ++ ".go" })
  | resource (type : shape.type = .resource) :
      Owned modulePath shape (.named {
        name := shape.typeName
        documentation := shape.documentation })
  | declared (type : shape.isType = true) : Owned modulePath shape (shape.typeSymbol modulePath)
  | builtin {symbol : Symbol} (found : builtinType? shape.type = some symbol) :
      Owned modulePath shape symbol

/-- **How a shape has a symbol of its own.** -/
theorem owned_of_ownSymbol? {symbol : Symbol}
    (h : shape.ownSymbol? modulePath = some (.ok symbol)) : shape.Owned modulePath symbol := by
  by_cases hdeclared : shape.isType = true
  · rw [ownSymbol?_of_isType hdeclared] at h
    obtain rfl := Except.ok.inj (Option.some.inj h)
    exact .declared hdeclared
  · obtain ⟨haggregate, henum⟩ : shape.isAggregate = false ∧ shape.isEnum = false := by
      simpa [isType] using hdeclared
    unfold ownSymbol? at h
    split at h
    · rename_i htype
      obtain rfl := Except.ok.inj (Option.some.inj h)
      exact .client htype
    · rename_i htype
      have h := Option.some.inj h
      unfold operationSymbol at h
      dsimp only at h
      split at h
      · simp at h
      · rename_i hfree
        obtain rfl := Except.ok.inj h
        exact .operation htype (by simpa using hfree)
    · rename_i htype
      obtain rfl := Except.ok.inj (Option.some.inj h)
      exact .resource htype
    · rename_i htype
      simp [isAggregate, htype] at haggregate
    · rename_i htype
      simp [isAggregate, htype] at haggregate
    · rw [if_neg (by simp [henum])] at h
      obtain ⟨found, hfound, heq⟩ := Option.map_eq_some_iff.1 h
      obtain rfl := Except.ok.inj heq
      exact .builtin hfound

/-- A symbol of its own has no package, or it is that of a declared or of a built-in type. -/
theorem ownSymbol?_cases {symbol : Symbol} (h : shape.ownSymbol? modulePath = some (.ok symbol)) :
    symbol.core.dependency = none ∨
      (∃ unit isPointer, symbol = shape.declaredType modulePath unit isPointer) ∨
        builtinType? shape.type = some symbol := by
  cases owned_of_ownSymbol? h with
  | client => exact .inl rfl
  | operation => exact .inl rfl
  | resource => exact .inl rfl
  | declared => exact .inr (.inl ⟨_, _, rfl⟩)
  | builtin hfound => exact .inr (.inr hfound)

end Shape

namespace Model

variable {model : Model} {modulePath : String} {shape : Shape}

theorem symbolWithin_of_ownSymbol? {depth : Nat} {symbol : Except Failure Symbol}
    (h : shape.ownSymbol? modulePath = some symbol) :
    model.symbolWithin modulePath (depth + 1) shape = symbol := by
  simp [symbolWithin, h]

/-- The core of a symbol is that of a symbol that some shape has of its own. -/
theorem exists_ownSymbol?_of_symbolWithin {depth : Nat} {symbol : Symbol}
    (h : model.symbolWithin modulePath depth shape = .ok symbol) :
    ∃ (last : Shape) (own : Symbol), last.ownSymbol? modulePath = some (.ok own) ∧
      symbol.core = own.core := by
  induction depth generalizing shape symbol with
  | zero => simp [symbolWithin] at h
  | succ depth ih =>
    rw [symbolWithin] at h
    split at h
    · rename_i own hown
      subst h
      exact ⟨shape, symbol, hown, rfl⟩
    · obtain ⟨element, -, h⟩ := bind_eq_ok.1 h
      obtain ⟨inner, hinner, h⟩ := bind_eq_ok.1 h
      obtain rfl := pure_eq_ok.1 h
      obtain ⟨last, own, hown, hcore⟩ := ih hinner
      refine ⟨last, own, hown, ?_⟩
      split <;> exact hcore

theorem symbolOf_of_isType (h : shape.isType = true) :
    model.symbolOf modulePath shape = .ok (shape.typeSymbol modulePath) :=
  symbolWithin_of_ownSymbol? (Shape.ownSymbol?_of_isType h)

theorem symbolOf_of_service (h : shape.type = .service) :
    model.symbolOf modulePath shape = .ok shape.clientSymbol :=
  symbolWithin_of_ownSymbol? (Shape.ownSymbol?_of_service h)

theorem symbolOf_of_operation (h : shape.type = .operation) :
    model.symbolOf modulePath shape = shape.operationSymbol modulePath :=
  symbolWithin_of_ownSymbol? (Shape.ownSymbol?_of_operation h)

/-! ## Elements -/

/-- The second shape is the first, or follows from it by elements of lists and sets and values of
maps. -/
inductive EndsIn (model : Model) : Shape → Shape → Prop where
  | here (shape : Shape) : EndsIn model shape shape
  | element {shape element last : Shape} (type : shape.type = .list ∨ shape.type = .set ∨
      shape.type = .map) (found : shape.element model = .ok element)
      (rest : EndsIn model element last) : EndsIn model shape last

theorem ownSymbol?_eq_none_of_container
    (h : shape.type = .list ∨ shape.type = .set ∨ shape.type = .map) :
    shape.ownSymbol? modulePath = none := by
  rcases h with h | h | h <;> simp [Shape.ownSymbol?, Shape.isEnum, Shape.builtinType?, h]

/-- **The core of a symbol** is the type at the end of the elements. -/
theorem core_of_endsIn {last : Shape} {symbol : Symbol} (hends : model.EndsIn shape last)
    (htype : last.isType = true) {depth : Nat}
    (h : model.symbolWithin modulePath depth shape = .ok symbol) :
    .named symbol.core = last.typeSymbol modulePath := by
  -- Along the elements, for every depth that is left to the symbol of the shape.
  induction hends generalizing depth symbol with
  | here shape =>
    cases depth with
    | zero => simp [symbolWithin] at h
    | succ depth =>
      rw [symbolWithin_of_ownSymbol? (Shape.ownSymbol?_of_isType htype)] at h
      obtain rfl := Except.ok.inj h
      rfl
  | @element shape element last container found _ ih =>
    cases depth with
    | zero => simp [symbolWithin] at h
    | succ depth =>
      simp only [symbolWithin, ownSymbol?_eq_none_of_container container, found] at h
      obtain ⟨_, hfound, h⟩ := bind_eq_ok.1 h
      obtain rfl := Except.ok.inj hfound
      obtain ⟨inner, hinner, h⟩ := bind_eq_ok.1 h
      have hcore := ih htype hinner
      obtain rfl := pure_eq_ok.1 h
      split <;> exact hcore

theorem target_mem_targets {member : Member} (h : member ∈ shape.members) :
    member.target ∈ shape.targets := by
  simp only [Shape.targets, List.append_assoc]
  exact List.mem_append_left _ (List.mem_map.2 ⟨member, h, rfl⟩)

theorem mem_targets_of_element {element : Shape} (h : shape.element model = .ok element) :
    ∃ id ∈ shape.targets, model.shape? id = some element := by
  unfold Shape.element at h
  split at h
  · rename_i member hmember
    exact ⟨member.target, target_mem_targets (List.mem_of_find?_eq_some hmember),
      expect_eq_ok.1 h⟩
  · simp at h

/-- **Elements stay inside the closure.** -/
theorem endsIn_mem_closure {root : ShapeId} {shapes : List Shape}
    (h : model.closure root = .ok shapes) {last : Shape} (hends : model.EndsIn shape last)
    (hmem : shape ∈ shapes) : last ∈ shapes := by
  induction hends with
  | here => exact hmem
  | element _ found _ ih =>
    obtain ⟨id, htarget, hshape⟩ := mem_targets_of_element found
    exact ih (target_mem_closure h hmem htarget hshape)

end Model

end ClientGen
