import ClientGen.Proofs.Symbol.Elements
import ClientGen.Proofs.Symbol.History

/-!
# The type expression of a shape

What the symbol of a shape reads as, said without symbols: a list or a set is a slice of the pointer
form of its member's type, a map a map from texts to that of its value's type, and every other shape
is a built-in type, a name of the client package or one that is qualified with its package.  Every
shape has one type expression unless its elements come back to themselves, and its symbol reads as
it, says whether it is held by reference and needs the packages that it names.

## Main definitions

* `TypeExpr` — type expressions, with their text and the packages that they name.
* `Shape.held` — the pointer form of the type of a shape.
* `Model.HasType` — the type of a shape.
* `Symbol.Reads` — a symbol reads as a type expression.

## Main results

* `Model.HasType.unique` — a shape has one type.
* `Model.reads_of_endsAfter` — the symbol of a shape reads as its type.
* `Model.symbolOf_hasType` — for a model that was read, when a shape has a symbol, and what it is.
-/

namespace ClientGen

open Relation (ReflTransGen TransGen)

/-- A type expression. -/
inductive TypeExpr where
  /-- A built-in type, or one of the client package. -/
  | plain (name : String)
  | qualified (package : Dependency) (name : String)
  | pointer (type : TypeExpr)
  | slice (element : TypeExpr)
  | map (value : TypeExpr)

namespace TypeExpr

/-- The text of a type expression. -/
def text : TypeExpr → String
  | plain name => name
  | qualified package name => package.name ++ "." ++ name
  | pointer type => "*" ++ type.text
  | slice element => "[]" ++ element.text
  | map value => "map[string]" ++ value.text

/-- The packages that a type expression names. -/
def packages : TypeExpr → List Dependency
  | plain _ => []
  | qualified package _ => [package]
  | pointer type => type.packages
  | slice element => element.packages
  | map value => value.packages

end TypeExpr

/-! ## Types of single shapes -/

namespace Shape

variable {modulePath : String} {shape : Shape}

/-- Whether values of a shape are held by reference: scalars other than enums, timestamps, big
numbers, structures, unions and services. -/
def isReference (shape : Shape) : Bool :=
  match shape.type with
  | .string => !shape.isEnum
  | .boolean | .byte | .short | .integer | .long | .float | .double => true
  | .timestamp | .bigInteger | .bigDecimal => true
  | .struct | .union | .service => true
  | .blob | .document | .list | .set | .map | .resource | .operation => false

/-- The pointer form of the type of a shape. -/
def held (shape : Shape) (type : TypeExpr) : TypeExpr :=
  if shape.isReference then .pointer type else type

/-- The type of a shape other than a list, a set or a map. -/
def ownType? (modulePath : String) (shape : Shape) : Option TypeExpr :=
  let declared := TypeExpr.qualified (.own (typesPath modulePath)) shape.typeName
  match shape.type with
  | .blob => some (.plain "[]byte")
  | .boolean => some (.plain "bool")
  | .string => some (if shape.isEnum then declared else .plain "string")
  | .byte => some (.plain "int8")
  | .short => some (.plain "int16")
  | .integer => some (.plain "int32")
  | .long => some (.plain "int64")
  | .float => some (.plain "float32")
  | .double => some (.plain "float64")
  | .bigInteger => some (.qualified .mathBig "Int")
  | .bigDecimal => some (.qualified .mathBig "Float")
  | .timestamp => some (.qualified .time "Time")
  | .document => some (.plain "interface\x7b\x7d")
  | .list | .set | .map => none
  | .struct | .union => some declared
  | .service => some (.plain "Client")
  | .resource | .operation => some (.plain shape.typeName)

/-- The shape is an operation that goes by a name of the client's own. -/
def HasClientName (shape : Shape) : Prop :=
  shape.type = .operation ∧ shape.typeName ∈ Name.clientNames

/-- The collision of such an operation with the client. -/
def clientCollision (modulePath : String) (shape : Shape) : Collision where
  identifier := shape.typeName
  first := "service client"
  second := shape.id.text
  scope := modulePath

theorem exists_ownType? (modulePath : String) (h : shape.type ∉ [.list, .set, .map]) :
    ∃ type, shape.ownType? modulePath = some type := by
  unfold ownType?
  cases htype : shape.type <;> first | exact ⟨_, rfl⟩ | simp [htype] at h

theorem type_notMem_of_ownType? {type : TypeExpr} (h : shape.ownType? modulePath = some type) :
    shape.type ∉ [.list, .set, .map] := by
  intro hkind
  simp only [List.mem_cons, List.not_mem_nil, or_false] at hkind
  rcases hkind with htype | htype | htype <;> simp [ownType?, htype] at h

end Shape

/-! ## Symbols that read as types -/

/-- The symbol reads as the type, is held by reference or not, and needs the packages that the type
names. -/
structure Symbol.Reads (symbol : Symbol) (type : TypeExpr) (isReference : Bool) : Prop where
  fullName : symbol.fullName = type.text
  isPointer : symbol.isPointer = isReference
  dependencies : symbol.dependencies = type.packages

namespace Symbol

variable {symbol : Symbol} {type : TypeExpr} {shape : Shape} {modulePath : String}

theorem Reads.pointer (h : symbol.Reads type shape.isReference) :
    symbol.pointer = (shape.held type).text := by
  rw [Symbol.pointer, h.isPointer, h.fullName, Shape.held]
  split <;> rfl

theorem packages_held : (shape.held type).packages = type.packages := by
  unfold Shape.held
  split <;> rfl

theorem Reads.slice (h : symbol.Reads type shape.isReference) :
    symbol.slice.Reads (.slice (shape.held type)) false where
  fullName := by
    rw [Symbol.slice, fullName_composite, h.pointer]
    rfl
  isPointer := rfl
  dependencies := by
    rw [TypeExpr.packages, packages_held, ← h.dependencies]
    rfl

theorem Reads.map (h : symbol.Reads type shape.isReference) :
    symbol.map.Reads (.map (shape.held type)) false where
  fullName := by
    rw [Symbol.map, fullName_composite, h.pointer]
    rfl
  isPointer := rfl
  dependencies := by
    rw [TypeExpr.packages, packages_held, ← h.dependencies]
    rfl

theorem reads_plain (identity : NamedSymbol) (hqualifier : identity.qualifier = "")
    (hdependency : identity.dependency = none) :
    (Symbol.named identity).Reads (.plain identity.name) identity.isPointer where
  fullName := by simp [Symbol.fullName, qualified, hqualifier, TypeExpr.text]
  isPointer := rfl
  dependencies := by simp [Symbol.dependencies, hdependency, TypeExpr.packages]

theorem reads_qualified (identity : NamedSymbol) {package : Dependency}
    (hqualifier : identity.qualifier = package.name) (hdependency : identity.dependency = package)
    (hname : package.name ≠ "") :
    (Symbol.named identity).Reads (.qualified package identity.name) identity.isPointer where
  fullName := by simp [Symbol.fullName, qualified, hqualifier, hname, TypeExpr.text]
  isPointer := rfl
  dependencies := by simp [Symbol.dependencies, hdependency, TypeExpr.packages]

theorem reads_value (name : String) : (Symbol.value name).Reads (.plain name) false :=
  reads_plain _ rfl rfl

theorem reads_reference (name : String) : (Symbol.reference name).Reads (.plain name) true :=
  reads_plain _ rfl rfl

theorem reads_reference_of (name : String) {package : Dependency} (h : package.name ≠ "") :
    (Symbol.reference name package).Reads (.qualified package name) true :=
  reads_qualified _ rfl rfl h

theorem reads_declaredType (unit : String) (isPointer : Bool) :
    (shape.declaredType modulePath unit isPointer).Reads
      (.qualified (.own (typesPath modulePath)) shape.typeName) isPointer := by
  have hname := Dependency.name_own_typesPath modulePath
  simp only [Shape.declaredType]
  -- Nothing below may evaluate the two names.
  generalize Dependency.own (typesPath modulePath) = package at hname ⊢
  generalize shape.typeName = name
  refine reads_qualified _ rfl rfl ?_
  rw [hname]
  decide

end Symbol

namespace Shape

variable {modulePath : String} {shape : Shape}

theorem ownSymbol?_of_hasClientName (h : shape.HasClientName) :
    shape.ownSymbol? modulePath = some (.error (.collision (shape.clientCollision modulePath))) := by
  rw [ownSymbol?_of_operation h.1, operationSymbol]
  exact congrArg some (if_pos (List.contains_iff_mem.2 h.2))

theorem ownSymbol?_of_builtinType? {symbol : Symbol} (h : builtinType? shape.type = some symbol)
    (henum : shape.isEnum = false) : shape.ownSymbol? modulePath = some (.ok symbol) := by
  cases htype : shape.type <;> simp_all [ownSymbol?, builtinType?]

/-- A shape of the package of types reads by its name there. -/
theorem reads_typeSymbol {type : TypeExpr} (h : shape.isType = true)
    (htype : shape.ownType? modulePath = some type) :
    (shape.typeSymbol modulePath).Reads type shape.isReference := by
  have hparts : type = .qualified (.own (typesPath modulePath)) shape.typeName ∧
      shape.isReference = !shape.isEnum := by
    rcases Bool.or_eq_true_iff.1 h with haggregate | henum
    · have hnot := not_isEnum_of_isAggregate haggregate
      rcases isAggregate_eq_true_iff.1 haggregate with hkind | hkind <;>
        simp_all [ownType?, isReference]
    · have hkind := type_eq_string_of_isEnum henum
      simp_all [ownType?, isReference]
  rw [hparts.1, hparts.2]
  exact Symbol.reads_declaredType _ _

theorem reads_builtinType? {type : TypeExpr} {symbol : Symbol}
    (h : builtinType? shape.type = some symbol) (henum : shape.isEnum = false)
    (htype : shape.ownType? modulePath = some type) : symbol.Reads type shape.isReference := by
  unfold ownType? at htype
  unfold isReference
  cases hkind : shape.type <;> rw [hkind] at h htype <;> cases h
  case string =>
    simp only [henum, Bool.false_eq_true, if_false, Option.some.injEq] at htype
    subst htype
    rw [henum]
    exact Symbol.reads_reference _
  case blob | document =>
    obtain rfl := Option.some.inj htype
    exact Symbol.reads_value _
  case timestamp | bigInteger | bigDecimal =>
    obtain rfl := Option.some.inj htype
    exact Symbol.reads_reference_of _ (by decide)
  all_goals
    obtain rfl := Option.some.inj htype
    exact Symbol.reads_reference _

theorem operationSymbol_of_notMem (h : shape.typeName ∉ Name.clientNames) :
    shape.operationSymbol modulePath = .ok (.named {
      name := shape.typeName
      documentation := shape.documentation
      unit := "api_op_" ++ shape.typeName ++ ".go" }) := by
  have hname : Name.clientNames.contains shape.typeName = false := by
    rw [← Bool.not_eq_true, List.contains_iff_mem]
    exact h
  simp only [operationSymbol, hname, Bool.false_eq_true, if_false]

/-- A name of the client package stands there alone. -/
theorem reads_clientName (unit : Option String) : (Symbol.named {
      name := shape.typeName, documentation := shape.documentation, unit }).Reads
    (.plain shape.typeName) false := by
  generalize shape.typeName = name
  exact Symbol.reads_plain _ rfl rfl

/-- **The symbol of a single shape reads as its type**, if it has one. -/
theorem exists_ownSymbol?_reads {type : TypeExpr} (h : ¬ shape.HasClientName)
    (htype : shape.ownType? modulePath = some type) : ∃ symbol,
      shape.ownSymbol? modulePath = some (.ok symbol) ∧ symbol.Reads type shape.isReference := by
  by_cases hdeclared : shape.isType = true
  · exact ⟨_, ownSymbol?_of_isType hdeclared, reads_typeSymbol hdeclared htype⟩
  · rw [isType, Bool.or_eq_true, not_or, Bool.not_eq_true, Bool.not_eq_true] at hdeclared
    obtain ⟨haggregate, henum⟩ := hdeclared
    cases hbuiltin : builtinType? shape.type with
    | some symbol =>
      exact ⟨symbol, ownSymbol?_of_builtinType? hbuiltin henum,
        reads_builtinType? hbuiltin henum htype⟩
    | none =>
      unfold ownType? at htype
      unfold isReference
      cases hkind : shape.type <;> rw [hkind] at htype hbuiltin <;>
        simp only [builtinType?, reduceCtorEq] at hbuiltin
      case list | set | map => cases htype
      case struct | union => simp [isAggregate, hkind] at haggregate
      case service =>
        obtain rfl := Option.some.inj htype
        exact ⟨_, ownSymbol?_of_service hkind, Symbol.reads_plain _ rfl rfl⟩
      case resource =>
        obtain rfl := Option.some.inj htype
        exact ⟨_, by rw [ownSymbol?, hkind], reads_clientName none⟩
      case operation =>
        obtain rfl := Option.some.inj htype
        have hname : shape.typeName ∉ Name.clientNames := fun hmem => h ⟨hkind, hmem⟩
        exact ⟨_, by rw [ownSymbol?_of_operation hkind, operationSymbol_of_notMem hname],
          reads_clientName _⟩

end Shape

/-! ## Types of shapes -/

namespace Model

variable {model : Model} {modulePath : String} {shape element : Shape} {type : TypeExpr}

/-- The type of a shape: lists and sets are slices, maps are maps from texts, of the pointer form of
their elements' type. -/
inductive HasType (model : Model) (modulePath : String) : Shape → TypeExpr → Prop
  | own {shape : Shape} {type : TypeExpr} (h : shape.ownType? modulePath = some type) :
      HasType model modulePath shape type
  | slice {shape element : Shape} {type : TypeExpr} (kind : shape.type = .list ∨ shape.type = .set)
      (step : model.ElementOf shape element) (rest : HasType model modulePath element type) :
      HasType model modulePath shape (.slice (element.held type))
  | map {shape element : Shape} {type : TypeExpr} (kind : shape.type = .map)
      (step : model.ElementOf shape element) (rest : HasType model modulePath element type) :
      HasType model modulePath shape (.map (element.held type))

/-- **A shape has one type.** -/
theorem HasType.unique {other : TypeExpr} (h : model.HasType modulePath shape type)
    (h' : model.HasType modulePath shape other) : type = other := by
  -- Rules that differ exclude each other by the type of the shape.
  induction h generalizing other with
  | own h =>
    cases h' with
    | own h' => exact Option.some.inj (h.symm.trans h')
    | slice _ step' => exact absurd step'.1 (Shape.type_notMem_of_ownType? h)
    | map _ step' => exact absurd step'.1 (Shape.type_notMem_of_ownType? h)
  | slice kind step _ ih =>
    cases h' with
    | own h' => exact absurd step.1 (Shape.type_notMem_of_ownType? h')
    | slice _ step' rest' =>
      obtain rfl := step.unique step'
      rw [ih rest']
    | map kind' =>
      rw [kind'] at kind
      exact absurd kind (by decide)
  | map kind step _ ih =>
    cases h' with
    | own h' => exact absurd step.1 (Shape.type_notMem_of_ownType? h')
    | slice kind' =>
      rw [kind] at kind'
      exact absurd kind' (by decide)
    | map _ step' rest' =>
      obtain rfl := step.unique step'
      rw [ih rest']

theorem MissesTarget.of_elementOf (hstep : model.ElementOf shape element)
    (h : model.MissesTarget element) : model.MissesTarget shape := by
  obtain ⟨last, hsteps, hlast⟩ := h
  exact ⟨last, hsteps.head hstep, hlast⟩

/-- A search that has come to its end, with no elements missing, is at a single shape. -/
theorem type_notMem_of_endsAfter_zero (h : model.EndsAfter modulePath 0 shape)
    (helement : shape.HasElement) (hmissing : ¬ model.MissesTarget shape) :
    shape.type ∉ [.list, .set, .map] := by
  intro hkind
  obtain ⟨member, hmember⟩ := Option.isSome_iff_exists.1 (helement hkind)
  cases htarget : model.shape? member.target with
  | none => exact hmissing ⟨shape, .refl, hkind, member, hmember, htarget⟩
  | some element =>
    have hstep : model.ElementOf shape element := ⟨hkind, member, hmember, htarget⟩
    exact absurd ((next?_eq_some_iff.2 hstep).symm.trans h) (by simp)

/-- The symbol of a list or a map reads as a slice or a map of what that of its elements reads as. -/
theorem exists_reads_of_elementOf (hstep : model.ElementOf shape element) {nested : Symbol}
    (hnested : model.symbolOf modulePath element = .ok nested)
    (htype : model.HasType modulePath element type)
    (hreads : nested.Reads type element.isReference) :
    ∃ symbol type, model.symbolOf modulePath shape = .ok symbol ∧
      model.HasType modulePath shape type ∧ symbol.Reads type shape.isReference := by
  have hsymbol : model.symbolOf modulePath shape = do
      let symbol ← model.symbolOf modulePath element
      return if shape.type == .map then .map symbol else .slice symbol := symbolOf_of_elementOf hstep
  rw [hnested] at hsymbol
  have hkind := hstep.1
  simp only [List.mem_cons, List.not_mem_nil, or_false] at hkind
  have hreference : shape.isReference = false := by
    rcases hkind with h | h | h <;> simp only [Shape.isReference, h]
  rw [hreference]
  rcases or_assoc.2 hkind with hslice | hmap
  · have hne : (shape.type == .map) = false := by rcases hslice with h | h <;> rw [h] <;> rfl
    exact ⟨nested.slice, _, hsymbol.trans (by rw [hne]; rfl), .slice hslice hstep htype,
      hreads.slice⟩
  · exact ⟨nested.map, _, hsymbol.trans (by rw [hmap]; rfl), .map hmap hstep htype, hreads.map⟩

/-- **A search that ends gives the type of the shape**, unless it ends at an operation that goes by
a name of the client's own. -/
theorem reads_of_endsAfter (hmodel : model.HasElements) {count : Nat}
    (hends : model.EndsAfter modulePath count shape) (helement : shape.HasElement)
    (hmissing : ¬ model.MissesTarget shape) :
    ∃ last, ReflTransGen model.ElementOf shape last ∧ last.type ∉ [.list, .set, .map] ∧
      (last.HasClientName → model.symbolOf modulePath shape
        = .error (.collision (last.clientCollision modulePath))) ∧
      (¬ last.HasClientName → ∃ symbol type, model.symbolOf modulePath shape = .ok symbol ∧
        model.HasType modulePath shape type ∧ symbol.Reads type shape.isReference) := by
  induction count generalizing shape with
  | zero =>
    have hsingle := type_notMem_of_endsAfter_zero hends helement hmissing
    obtain ⟨type, htype⟩ := shape.exists_ownType? modulePath hsingle
    refine ⟨shape, .refl, hsingle, ?_, ?_⟩
    · exact fun h => symbolOf_of_ownSymbol? (Shape.ownSymbol?_of_hasClientName h)
    · intro h
      obtain ⟨symbol, hsymbol, hreads⟩ := Shape.exists_ownSymbol?_reads h htype
      exact ⟨symbol, type, symbolOf_of_ownSymbol? hsymbol, .own htype, hreads⟩
  | succ count ih =>
    obtain ⟨element, hnext, hends⟩ := hends
    have hstep := next?_eq_some_iff.1 hnext
    obtain ⟨last, hsteps, hsingle, hclash, hreads⟩ :=
      ih hends (hmodel _ _ hstep.shape?_eq) fun h => hmissing (h.of_elementOf hstep)
    refine ⟨last, hsteps.head hstep, hsingle, ?_, ?_⟩
    · intro h
      rw [symbolOf_of_elementOf hstep, hclash h]
      rfl
    · intro h
      obtain ⟨nested, type, hnested, htype, hnestedReads⟩ := hreads h
      exact exists_reads_of_elementOf hstep hnested htype hnestedReads

/-- The symbol inside that of a list or a map is the one that any table gives for the elements. -/
theorem references_eq_of_elementOf (hstep : model.ElementOf shape element) {symbol : Symbol}
    (h : model.symbolOf modulePath shape = .ok symbol) : ∃ nested,
      symbol.references = [nested] ∧ model.symbolOf modulePath element = .ok nested := by
  rw [symbolOf_of_elementOf hstep] at h
  obtain ⟨nested, hnested, h⟩ := bind_eq_ok.1 h
  obtain rfl := pure_eq_ok.1 h
  refine ⟨nested, ?_, hnested⟩
  split <;> rfl

end Model

/-- At any time, a table gives a shape the symbol of the provider, if it gives it one. -/
theorem SymbolTable.symbolOf_of_resolve_after {model : Model}
    {symbolOf : Shape → Except Failure Symbol} {calls : List Call}
    (hcalls : ∀ found, .resolve found ∈ calls → model.shape? found.id = some found)
    {shape : Shape} (hshape : model.shape? shape.id = some shape) {symbol : Symbol}
    {table : SymbolTable}
    (h : (after symbolOf {} calls).resolve symbolOf shape = .ok (symbol, table)) :
    symbolOf shape = .ok symbol :=
  (resolve_spec (sound_after Sound.empty hcalls) hshape h).1

namespace Model

variable {model : Model} {shape : Shape}

/-- **When a shape has a symbol, and what it is.**  In a model that was read from a document, the
search for the symbol of a shape has no end exactly if elements come back to themselves; keys of
maps and members of structures do not matter.  If they do not come back and none is missing, the
search either ends at an operation that goes by a name of the client's own, which is a collision, or
it gives a symbol.  This reads as the type of the shape, in both forms, and needs the packages that
the type names.  The symbol inside it is the one that a symbol table gives for the elements, at any
time, if it gives one. -/
theorem symbolOf_hasType (modulePath : String) {document : Json}
    (hmodel : ofDocument document = .ok model) (hshape : model.shape? shape.id = some shape)
    (hmissing : ¬ model.MissesTarget shape) :
    (model.Endless modulePath shape ↔ model.Cyclic shape) ∧
    model.pruned.symbolOf modulePath shape.pruned = model.symbolOf modulePath shape ∧
    (¬ model.Cyclic shape → ∃ last, ReflTransGen model.ElementOf shape last ∧
      last.type ∉ [.list, .set, .map] ∧
      (last.HasClientName → model.symbolOf modulePath shape
        = .error (.collision (last.clientCollision modulePath))) ∧
      (¬ last.HasClientName → ∃ symbol type, model.symbolOf modulePath shape = .ok symbol ∧
        (∀ other, model.HasType modulePath shape other ↔ other = type) ∧
        symbol.fullName = type.text ∧ symbol.pointer = (shape.held type).text ∧
        symbol.dependencies = type.packages ∧
        ∀ element, model.ElementOf shape element → ∃ nested, symbol.references = [nested] ∧
          ∀ calls : List SymbolTable.Call,
            (∀ found, .resolve found ∈ calls → model.shape? found.id = some found) →
            ∀ answer table, (SymbolTable.after (model.symbolOf modulePath) {} calls).resolve
              (model.symbolOf modulePath) element = .ok (answer, table) → nested = answer)) := by
  have helements := hasElements_of_ofDocument hmodel
  have helement := helements _ _ hshape
  refine ⟨endless_iff_cyclic helements helement, symbolOf_pruned modulePath shape, fun hcyclic => ?_⟩
  obtain ⟨count, hends⟩ := exists_endsAfter_of_not_cyclic modulePath hcyclic
  obtain ⟨last, hsteps, hsingle, hclash, hreads⟩ :=
    reads_of_endsAfter helements hends helement hmissing
  refine ⟨last, hsteps, hsingle, hclash, fun hname => ?_⟩
  obtain ⟨symbol, type, hsymbol, htype, hreads⟩ := hreads hname
  refine ⟨symbol, type, hsymbol, fun other => ⟨fun h => h.unique htype, fun h => h ▸ htype⟩,
    hreads.fullName, hreads.pointer, hreads.dependencies, fun element hstep => ?_⟩
  obtain ⟨nested, hreferences, hnested⟩ := references_eq_of_elementOf hstep hsymbol
  refine ⟨nested, hreferences, fun calls hcalls answer table h => ?_⟩
  have hanswer := SymbolTable.symbolOf_of_resolve_after hcalls hstep.shape?_eq h
  exact Except.ok.inj (hnested.symm.trans hanswer)

end Model

/-! ## An index that contains itself -/

namespace Index

/-- The entries of an index, by the index itself. -/
def index : Shape :=
  let id : ShapeId := { ns := "a", name := "Index" }
  { id
    type := .map
    members := [
      { name := "key", container := id, target := id },
      { name := "value", container := id, target := { ns := "a", name := "Entries" } }] }

def entries : Shape :=
  let id : ShapeId := { ns := "a", name := "Entries" }
  { id
    type := .list
    members := [{ name := "member", container := id, target := { ns := "a", name := "Entry" } }] }

def entry : Shape :=
  let id : ShapeId := { ns := "a", name := "Entry" }
  { id
    type := .struct
    members := [{ name := "see", container := id, target := index.id }] }

def model : Model :=
  .ofShapes [index, entries, entry]

/-- The document that the model is read from. -/
def document : Json :=
  .obj [("shapes", .obj [
    ("a#Index", .obj [("type", .str "map"), ("key", .obj [("target", .str "a#Index")]),
      ("value", .obj [("target", .str "a#Entries")])]),
    ("a#Entries", .obj [("type", .str "list"), ("member", .obj [("target", .str "a#Entry")])]),
    ("a#Entry", .obj [("type", .str "structure"),
      ("members", .obj [("see", .obj [("target", .str "a#Index")])])])])]

theorem ofDocument_document : Model.ofDocument document = .ok model :=
  rfl

theorem elementOf_index : model.ElementOf index entries :=
  ⟨by decide, _, rfl, rfl⟩

theorem elementOf_entries : model.ElementOf entries entry :=
  ⟨by decide, _, rfl, rfl⟩

/-- Elements lead from the index to its entries and to an entry, and no further. -/
theorem mem_of_steps {last : Shape} (h : ReflTransGen model.ElementOf index last) :
    last = index ∨ last = entries ∨ last = entry := by
  induction h with
  | refl => exact .inl rfl
  | tail _ hstep ih =>
    rcases ih with rfl | rfl | rfl
    · exact .inr (.inl (hstep.unique elementOf_index))
    · exact .inr (.inr (hstep.unique elementOf_entries))
    · exact absurd hstep.1 (by decide)

theorem not_missesTarget : ¬ model.MissesTarget index := by
  rintro ⟨last, hsteps, hkind, member, hmember, htarget⟩
  have hnone : ∀ {element : Shape}, ¬ model.ElementOf last element := by
    rintro element ⟨-, other, hother, hfound⟩
    obtain rfl := Option.some.inj (hmember.symm.trans hother)
    exact absurd (htarget.symm.trans hfound) (by simp)
  rcases mem_of_steps hsteps with rfl | rfl | rfl
  · exact hnone elementOf_index
  · exact hnone elementOf_entries
  · exact absurd hkind (by decide)

/-- The type of the index. -/
def type : TypeExpr :=
  .map (.slice (.pointer (.qualified (.own (typesPath "m")) "Entry")))

theorem hasType : model.HasType "m" index type := by
  have hname : entry.typeName = "Entry" := by decide
  have hentry : model.HasType "m" entry (.qualified (.own (typesPath "m")) "Entry") :=
    .own (by rw [← hname]; rfl)
  exact .map rfl elementOf_index (.slice (.inl rfl) elementOf_entries hentry)

/-- The search has an end, so nothing comes back to itself by elements. -/
theorem not_cyclic : ¬ model.Cyclic index := by
  have hends : model.EndsAfter "m" 2 index :=
    ⟨entries, Model.next?_eq_some_iff.2 elementOf_index, entry,
      Model.next?_eq_some_iff.2 elementOf_entries, rfl⟩
  exact hends.not_cyclic

end Index

/-- The index is its own key and is contained in its entries, and still it has a type. -/
theorem Model.symbolOf_hasType_index :
    ofDocument Index.document = .ok Index.model ∧
      Index.model.shape? Index.index.id = some Index.index ∧
      ¬ Index.model.MissesTarget Index.index ∧ ¬ Index.model.Endless "m" Index.index ∧
      ∃ symbol, Index.model.symbolOf "m" Index.index = .ok symbol ∧
        symbol.fullName = "map[string][]*types.Entry" ∧ symbol.pointer = symbol.fullName ∧
        symbol.dependencies = [Dependency.own "m/types"] := by
  have hshape : Index.model.shape? Index.index.id = some Index.index := rfl
  obtain ⟨hendless, -, hsymbol⟩ :=
    symbolOf_hasType "m" Index.ofDocument_document hshape Index.not_missesTarget
  obtain ⟨last, hsteps, -, -, hsymbol⟩ := hsymbol Index.not_cyclic
  have hlast : ¬ last.HasClientName := by
    rintro ⟨hkind, -⟩
    rcases Index.mem_of_steps hsteps with rfl | rfl | rfl <;> exact absurd hkind (by decide)
  obtain ⟨symbol, type, hsymbol, htype, hname, hpointer, hneeds, -⟩ := hsymbol hlast
  obtain rfl := (htype Index.type).1 Index.hasType
  refine ⟨Index.ofDocument_document, hshape, Index.not_missesTarget,
    fun h => Index.not_cyclic (hendless.1 h), symbol, hsymbol, ?_, hpointer.trans hname.symm, ?_⟩
  · rw [hname]
    decide +kernel
  · rw [hneeds]
    decide +kernel

end ClientGen
