import ClientGen.Generation.Run
import ClientGen.Proofs.Generation.Generator
import ClientGen.Proofs.Name.Sanitizer
import ClientGen.Proofs.Shape.EnumValue
import ClientGen.Proofs.Shape.Fields
import ClientGen.Proofs.Symbol.OfShape

/-!
# Reserved names

Before anything is written, a run resolves every shape and claims the names that its declaration
introduces: the name of the type in the package of types, together with the constants of an enum
there, and the names of the client and of operations in the client package.  After that the table
holds an owner for each of these names.

## Main definitions

* `Shape.constants` — the constants of an enum with their values.
* `Shape.typeClaims`, `Shape.clientClaims` — the names that a shape claims in either package, with
  the words for their owner.
* `Context.Reserved` — the names of a shape are claimed in a table.

## Main results

* `Run.reserve_spec` — after reserving, the table is sound and every shape is reserved.
-/

namespace ClientGen

/-! ## Claims -/

namespace Shape

variable {shape : Shape}

/-- The constants of an enum with their values; a shape that is no enum has none. -/
def constants (shape : Shape) : List (String × EnumValue) :=
  if shape.isEnum then
    match shape.enumValues.bind (EnumValue.labels shape.typeName) with
    | .ok labels => labels
    | .error _ => []
  else []

/-- The names that a shape claims in the package of types, with the words for their owner. -/
def typeClaims (shape : Shape) : List (String × String) :=
  if shape.isType then
    (shape.typeName, shape.id.text)
      :: shape.constants.map fun constant => (constant.1, shape.id.text ++ " " ++ constant.2.owner)
  else []

/-- The name that a shape claims in the client package, with the words for its owner. -/
def clientClaims (shape : Shape) : List (String × String) :=
  match shape.type with
  | .service => [("Client", shape.id.text)]
  | .operation => [(shape.typeName, shape.id.text)]
  | _ => []

theorem constants_of_labels (henum : shape.isEnum = true) {labels : List (String × EnumValue)}
    (h : shape.enumValues.bind (EnumValue.labels shape.typeName) = .ok labels) :
    shape.constants = labels := by
  rw [constants, if_pos henum, h]

theorem constants_of_isAggregate (h : shape.isAggregate = true) : shape.constants = [] := by
  rw [constants, not_isEnum_of_isAggregate h]
  rfl

theorem scope_clientSymbol : shape.clientSymbol.scope = "." := by
  have htop : Text.cutLast? '/' clientUnit.toList = none := by decide
  simp only [Symbol.scope, clientSymbol, Symbol.dependency?, Symbol.unit?, Option.getD_some, htop]

/-- The symbol of an operation, whose name is none of the client's own. -/
theorem operationSymbol_spec {modulePath : String} {symbol : Symbol}
    (h : shape.operationSymbol modulePath = .ok symbol) :
    shape.typeName ∉ Name.clientNames ∧ symbol.name = shape.typeName ∧ symbol.scope = "." ∧
      symbol.isDeclared = true := by
  unfold operationSymbol at h
  dsimp only at h
  split at h
  · simp at h
  · rename_i hfree
    obtain rfl := Except.ok.inj h
    refine ⟨by simpa using hfree, by simp only [Symbol.name], ?_,
      by simp [Symbol.isDeclared, Symbol.unit?]⟩
    have hslash : '/' ∉ (("api_op_" ++ shape.typeName ++ ".go").toList.reverse) := by
      have hname : '/' ∉ shape.typeName.toList := fun hmem =>
        absurd (Name.isAlphanum_of_mem_sanitize _ hmem) (by decide)
      simp [hname]
    simp only [Symbol.scope, Symbol.dependency?, Symbol.unit?, Option.getD_some, Text.cutLast?,
      Text.cut?_eq_none_iff.2 hslash, Option.map_none]

end Shape

/-! ## Reserving -/

namespace Run

variable {context : Context} {table table' : SymbolTable} {shape : Shape}

theorem claimLabels_spec {symbol : Symbol} {labels : List (String × EnumValue)}
    (h : claimLabels shape symbol table labels = .ok table') :
    table.Extends table' ∧ table'.symbols = table.symbols ∧
      ∀ labelled ∈ labels, table'.owner? symbol.scope labelled.1
        = some (shape.id.text ++ " " ++ labelled.2.owner) := by
  unfold claimLabels at h
  -- On the labels: the claims behind a label keep it.
  induction labels generalizing table with
  | nil =>
    obtain rfl := pure_eq_ok.1 h
    exact ⟨SymbolTable.Extends.refl _, rfl, by simp⟩
  | cons labelled rest ih =>
    obtain ⟨next, hnext, hrest⟩ := bind_eq_ok.1 h
    obtain ⟨howner, hextends, hsymbols⟩ := SymbolTable.claim_spec hnext
    obtain ⟨hextends', hsymbols', howners⟩ := ih hrest
    refine ⟨hextends.trans hextends', hsymbols'.trans hsymbols, ?_⟩
    intro other hother
    rcases List.mem_cons.1 hother with rfl | hother
    · exact hextends' _ _ _ howner
    · exact howners other hother

end Run

/-- The names of a shape are claimed in a table. -/
structure Context.Reserved (context : Context) (table : SymbolTable) (shape : Shape) : Prop where
  symbol : ∃ symbol, context.symbolOf shape = .ok symbol
  types : ∀ claim ∈ shape.typeClaims,
    table.owner? (typesPath context.settings.modulePath) claim.1 = some claim.2
  client : ∀ claim ∈ shape.clientClaims, table.owner? "." claim.1 = some claim.2

namespace Run

variable {context : Context} {table table' : SymbolTable} {shape : Shape}

theorem reserved_mono (hextends : table.Extends table') (h : context.Reserved table shape) :
    context.Reserved table' shape where
  symbol := h.symbol
  types claim hclaim := hextends _ _ _ (h.types claim hclaim)
  client claim hclaim := hextends _ _ _ (h.client claim hclaim)

theorem client_owner_of_resolve {symbol : Symbol} (hsymbol : context.symbolOf shape = .ok symbol)
    (howner : symbol.isDeclared = true →
      table.owner? symbol.scope symbol.name = some shape.id.text) :
    ∀ claim ∈ shape.clientClaims, table.owner? "." claim.1 = some claim.2 := by
  intro claim hclaim
  unfold Shape.clientClaims at hclaim
  split at hclaim
  · rename_i htype
    obtain rfl := List.mem_singleton.1 hclaim
    obtain rfl := Except.ok.inj ((Model.symbolOf_of_service htype).symm.trans hsymbol)
    have hscope : shape.clientSymbol.scope = "." := Shape.scope_clientSymbol
    rw [← hscope]
    exact howner rfl
  · rename_i htype
    obtain rfl := List.mem_singleton.1 hclaim
    obtain ⟨-, hname, hscope, hdeclared⟩ :=
      Shape.operationSymbol_spec ((Model.symbolOf_of_operation htype).symm.trans hsymbol)
    rw [← hname, ← hscope]
    exact howner hdeclared
  · simp at hclaim

/-- The names that a type claims have their owners if the type and its constants have. -/
theorem types_owner_of_constants {modulePath : String} (htype : shape.isType = true)
    (howner : table.owner? (typesPath modulePath) shape.typeName = some shape.id.text)
    (hconstants : ∀ constant ∈ shape.constants, table.owner? (typesPath modulePath) constant.1
      = some (shape.id.text ++ " " ++ constant.2.owner)) :
    ∀ claim ∈ shape.typeClaims, table.owner? (typesPath modulePath) claim.1 = some claim.2 := by
  intro claim hclaim
  rw [Shape.typeClaims, if_pos htype] at hclaim
  rcases List.mem_cons.1 hclaim with rfl | hclaim
  · dsimp only
    exact howner
  · obtain ⟨constant, hconstant, rfl⟩ := List.mem_map.1 hclaim
    dsimp only
    exact hconstants constant hconstant

/-- **Reserving a shape** keeps the table sound and claims the names of the shape. -/
theorem reserveShape_spec (hknows : context.Knows table)
    (hshape : context.model.shape? shape.id = some shape)
    (h : reserveShape context table shape = .ok table') :
    context.Knows table' ∧ table.Extends table' ∧ context.Reserved table' shape := by
  obtain ⟨⟨symbol, next⟩, hresolve, h⟩ := bind_eq_ok.1 h
  obtain ⟨hsymbol, hnext, hextends, howner⟩ := SymbolTable.resolve_spec hknows hshape hresolve
  have hclient := client_owner_of_resolve hsymbol howner
  by_cases htype : shape.isType = true
  · obtain rfl := Except.ok.inj ((Model.symbolOf_of_isType htype).symm.trans hsymbol)
    replace howner := howner (Shape.isDeclared_typeSymbol _)
    rw [Shape.scope_typeSymbol, Shape.name_typeSymbol] at howner
    by_cases henum : shape.isEnum = true
    · simp only [henum, if_true, bind_eq_ok, mapError_eq_ok, Shape.name_typeSymbol] at h
      obtain ⟨values, hvalues, labels, hlabels, hclaims⟩ := h
      obtain ⟨hextends', hsymbols, howners⟩ := claimLabels_spec hclaims
      rw [Shape.scope_typeSymbol] at howners
      have hconstants : shape.constants = labels := by
        apply Shape.constants_of_labels henum
        rw [hvalues]
        exact hlabels
      rw [← hconstants] at howners
      refine ⟨SymbolTable.Sound.mono hnext hextends' hsymbols, hextends.trans hextends',
        ⟨_, hsymbol⟩, ?_, ?_⟩
      · exact types_owner_of_constants htype (hextends' _ _ _ howner) howners
      · intro claim hclaim
        exact hextends' _ _ _ (hclient claim hclaim)
    · have haggregate : shape.isAggregate = true := by
        simpa [Shape.isType, henum] using htype
      have htable : next = table' := by
        simp only [henum, haggregate, if_true, Bool.false_eq_true, if_false, bind_eq_ok,
          pure_eq_ok] at h
        obtain ⟨_, _, heq⟩ := h
        exact heq
      subst htable
      refine ⟨hnext, hextends, ⟨_, hsymbol⟩, types_owner_of_constants htype howner ?_, hclient⟩
      simp [Shape.constants_of_isAggregate haggregate]
  · obtain ⟨haggregate, henum⟩ := Bool.or_eq_false_iff.1 (Bool.not_eq_true _ ▸ htype)
    have htable : next = table' := by
      simpa [haggregate, henum, pure_eq_ok] using h
    subst htable
    refine ⟨hnext, hextends, ⟨_, hsymbol⟩, fun claim hclaim => ?_, hclient⟩
    rw [Shape.typeClaims, if_neg htype] at hclaim
    simp at hclaim

/-- **After reserving**, the table is sound and every shape is reserved in it. -/
theorem reserve_spec {shapes : List Shape}
    (hshapes : ∀ shape ∈ shapes, context.model.shape? shape.id = some shape)
    (h : reserve context shapes = .ok table) :
    context.Knows table ∧ ∀ shape ∈ shapes, context.Reserved table shape := by
  obtain ⟨hknows, hreserved, -⟩ := foldlM_spec (I := context.Knows) (Q := context.Reserved)
    (fun table hknows shape hmem table' hstep => by
      obtain ⟨hknows', hextends, hreserved⟩ := reserveShape_spec hknows (hshapes shape hmem) hstep
      exact ⟨hknows', hreserved, fun _ => reserved_mono hextends⟩)
    SymbolTable.Sound.empty h
  exact ⟨hknows, hreserved⟩

end Run

end ClientGen
