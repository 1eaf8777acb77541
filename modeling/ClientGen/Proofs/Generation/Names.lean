import ClientGen.Proofs.Generation.Inventory
import Mathlib.Data.List.Nodup
import Mathlib.Data.List.Pairwise

/-!
# Identifiers of a package

A package must not declare an identifier twice.  The guard against it is the table of claims, which
tells owners apart by the words for them, so it lets two claims pass that agree in the name and in
the words.  The identifiers of a run are distinct exactly if its claims are.  Among ids that are
read from texts only one thing can go wrong: the id of a type can read like the words for the owner
of an enum's constant.

## Main definitions

* `Outline.typeNames`, `Outline.clientNames` — the identifiers of a run in either package.
* `Shape.Mimics` — a type claims the name of an enum's constant in the same words.
* `Shape.Doubles` — two operations claim one name in the same words.

## Main results

* `Run.names_distinct_iff` — when the identifiers of a successful run are distinct.
-/

namespace ClientGen

/-! ## Claims -/

/-- Names are distinct exactly if the claims on them are, where every name has one owner. -/
theorem nodup_map_fst_iff {claims : List (String × String)} {owner? : String → Option String}
    (h : ∀ claim ∈ claims, owner? claim.1 = some claim.2) :
    (claims.map Prod.fst).Nodup ↔ claims.Nodup := by
  refine ⟨List.Nodup.of_map _, ?_⟩
  intro hnodup
  apply hnodup.map_on
  intro first hfirst second hsecond heq
  have howner : some first.2 = some second.2 := by
    rw [← h first hfirst, ← h second hsecond, heq]
  exact Prod.ext heq (Option.some.inj howner)

namespace Shape

variable {shape : Shape}

/-- The first shape claims the name of a constant of the second one in the words in which the second
one claims it. -/
def Mimics (shape enum : Shape) : Prop :=
  shape.isType = true ∧ ∃ constant ∈ enum.constants, shape.typeName = constant.1 ∧
    shape.id.text = enum.id.text ++ " " ++ constant.2.owner

/-- Two operations claim one name in the same words: their ids read alike. -/
def Doubles (operation other : Shape) : Prop :=
  operation.typeName = other.typeName ∧ operation.id.text = other.id.text

theorem constants_eq_nil_or (shape : Shape) :
    shape.constants = [] ∨ shape.isEnum = true ∧
      ∃ values, EnumValue.labels shape.typeName values = .ok shape.constants := by
  unfold constants
  split
  · rename_i henum
    split
    · rename_i labels hlabels
      obtain ⟨values, -, hlabels⟩ := bind_eq_ok.1 hlabels
      exact .inr ⟨henum, values, hlabels⟩
    · exact .inl rfl
  · exact .inl rfl

theorem mem_typeClaims {claim : String × String} :
    claim ∈ shape.typeClaims ↔ shape.isType = true ∧
      (claim = (shape.typeName, shape.id.text) ∨ ∃ constant ∈ shape.constants,
        claim = (constant.1, shape.id.text ++ " " ++ constant.2.owner)) := by
  unfold typeClaims
  split
  · rename_i htype
    simp [htype, eq_comm]
  · rename_i htype
    simp [htype]

theorem isType_of_mem_constants {constant : String × EnumValue} (h : constant ∈ shape.constants) :
    shape.isType = true := by
  rcases constants_eq_nil_or shape with hnil | ⟨henum, -⟩
  · simp [hnil] at h
  · simp [isType, henum]

/-- The names that one shape claims among types are distinct. -/
theorem nodup_names_typeClaims (shape : Shape) : (shape.typeClaims.map Prod.fst).Nodup := by
  unfold typeClaims
  split
  · rcases constants_eq_nil_or shape with hnil | ⟨-, values, hlabels⟩
    · simp [hnil]
    · simpa [Function.comp_def] using EnumValue.nodup_labels hlabels
  · simp

theorem owner_of_mem_clientClaims {claim : String × String} (h : claim ∈ shape.clientClaims) :
    claim.2 = shape.id.text := by
  unfold clientClaims at h
  split at h <;> simp_all

theorem nodup_clientClaims (shape : Shape) : shape.clientClaims.Nodup := by
  unfold clientClaims
  split <;> simp

/-- The identifiers that the declarations of a shape introduce in the package of a directory. -/
def namesIn (directory : String) (shape : Shape) : List String :=
  ((shape.declarations.filter fun entry => Units.directory entry.1 == directory).map
    Prod.snd).flatMap Declared.names

/-- The identifiers that a client introduces. -/
def fixedNames : List String :=
  (Declaration.ofClient "Client").flatMap Declared.names

theorem nodup_fixedNames : fixedNames.Nodup := by
  decide

theorem mem_clientNames_of_mem_fixedNames {name : String} (h : name ∈ fixedNames) :
    name ∈ Name.clientNames ∧ '_' ∉ name.toList := by
  revert name
  decide +kernel

/-- Only the client unit's declarations are in the client package. -/
theorem namesIn_top (shape : Shape) :
    shape.namesIn "" = if shape.type = .service then fixedNames else [] := by
  unfold namesIn declarations
  cases shape.kind <;>
    simp_all [fixedNames, Declaration.ofClient, Units.directory_units, directory_typeUnit]

/-- What a shape declares in the package of types are the names that it claims there. -/
theorem namesIn_types (shape : Shape) : shape.namesIn "types" = shape.typeClaims.map Prod.fst := by
  unfold namesIn declarations typeClaims
  cases shape.kind with
  | service type enum aggregate error =>
    simp [type, enum, aggregate, isType, Declaration.ofClient, Units.directory_units]
  | enum type enum aggregate error =>
    simp [type, enum, isType, Units.directory_units, Declared.names, Function.comp_def]
  | error type enum aggregate error | plain type enum aggregate error =>
    simp [type, enum, aggregate, isType, directory_typeUnit, Declared.names,
      constants_of_isAggregate aggregate]
  | other type enum aggregate error => simp [type, enum, aggregate, isType]

end Shape

/-! ## Identifiers -/

namespace Outline

/-- The declarations in the units of a directory. -/
def declaredIn (outline : Outline) (directory : String) : List Declared :=
  (outline.declarations.filter fun entry => Units.directory entry.1 == directory).map Prod.snd

/-- The identifiers of the package of types. -/
def typeNames (outline : Outline) : List String :=
  (outline.declaredIn "types").flatMap Declared.names

/-- The identifiers of the client package: those that its units declare, and the names of the
operations. -/
def clientNames (outline : Outline) : List String :=
  (outline.declaredIn "").flatMap Declared.names ++ outline.operations.map outline.context.nameOf

variable {model : Model} {settings : Settings} {integrations : IntegrationRegistry}
  {outline : Outline} {manifest : Manifest}

/-- The names of the types of middleware. -/
def middlewareNames (outline : Outline) : List String :=
  outline.bodies?.toList.flatMap fun bodies => outline.operations.flatMap fun operation =>
    [bodies.name ++ "_serializeOp" ++ operation.typeName,
      bodies.name ++ "_deserializeOp" ++ operation.typeName]

theorem flatMap_names_declaredIn (h : Outline.of model settings integrations = .ok outline)
    (hwritten : outline.Written manifest) (directory : String) :
    (outline.declaredIn directory).flatMap Declared.names
      = outline.shapes.flatMap (·.namesIn directory)
        ++ ((outline.middleware.filter fun entry => Units.directory entry.1 == directory).map
          Prod.snd).flatMap Declared.names := by
  rw [declaredIn, declarations_eq h hwritten, List.filter_append, List.map_append,
    List.flatMap_append, List.filter_flatMap, List.map_flatMap, List.flatMap_assoc]
  rfl

theorem typeNames_eq (h : Outline.of model settings integrations = .ok outline)
    (hwritten : outline.Written manifest) :
    outline.typeNames = (outline.shapes.flatMap Shape.typeClaims).map Prod.fst := by
  have hmiddleware : (outline.middleware.filter fun entry =>
      Units.directory entry.1 == "types") = [] := by
    simp [middleware, Shape.middlewareDeclarations, List.filter_flatMap, Units.directory_middleware]
  rw [typeNames, flatMap_names_declaredIn h hwritten, hmiddleware, List.map_flatMap]
  simp [Shape.namesIn_types]

/-- An operation has a symbol, whose name is none of the client's own. -/
theorem Started.symbolOf_operation (h : outline.Started model settings integrations)
    {operation : Shape} (hoperation : operation ∈ outline.operations) :
    ∃ symbol, outline.context.symbolOf operation = .ok symbol ∧
      operation.typeName ∉ Name.clientNames ∧ symbol.name = operation.typeName := by
  obtain ⟨table, hreserved⟩ := h.reserved
  obtain ⟨symbol, hsymbol⟩ := (hreserved operation (List.mem_filter.1 hoperation).1).symbol
  obtain ⟨hfree, hname, -⟩ := Shape.operationSymbol_spec
    ((Model.symbolOf_of_operation (type_of_mem_operations hoperation)).symm.trans hsymbol)
  exact ⟨symbol, hsymbol, hfree, hname⟩

theorem clientNames_eq (h : Outline.of model settings integrations = .ok outline)
    (hstarted : outline.Started model settings integrations) (hwritten : outline.Written manifest) :
    outline.clientNames
      = (outline.shapes.filter (·.type == .service)).flatMap (fun _ => Shape.fixedNames)
        ++ outline.middlewareNames ++ outline.operations.map Shape.typeName := by
  have hmiddleware : ((outline.middleware.filter fun entry =>
      Units.directory entry.1 == "").map Prod.snd).flatMap Declared.names
        = outline.middlewareNames := by
    simp [middleware, middlewareNames, Shape.middlewareDeclarations, List.filter_flatMap,
      List.map_flatMap, List.flatMap_assoc, Units.directory_middleware, Declared.names]
  have hoperations : outline.operations.map outline.context.nameOf
      = outline.operations.map Shape.typeName := by
    apply List.map_congr_left
    intro operation hoperation
    obtain ⟨symbol, hsymbol, -, hname⟩ := hstarted.symbolOf_operation hoperation
    rw [Context.nameOf, hsymbol]
    exact hname
  rw [clientNames, flatMap_names_declaredIn h hwritten, hmiddleware, hoperations,
    flatMap_of_ite (p := fun shape : Shape => shape.type == .service)]
  intro shape
  rw [Shape.namesIn_top]
  simp

/-! ### The client package -/

theorem serializeOp_ne (name first second : String) :
    name ++ "_serializeOp" ++ first ≠ name ++ "_deserializeOp" ++ second := by
  intro h
  have hlist := congrArg String.toList h
  simp only [String.toList_append, List.append_assoc] at hlist
  have htail := List.append_cancel_left hlist
  simp at htail

theorem nodup_middlewareNames (h : (outline.operations.map Shape.typeName).Nodup) :
    outline.middlewareNames.Nodup := by
  unfold middlewareNames
  cases outline.bodies? with
  | none => simp
  | some bodies =>
    rw [Option.toList_some, List.flatMap_singleton, List.nodup_flatMap]
    refine ⟨fun operation _ => by simp, (List.pairwise_map.1 h).imp ?_⟩
    intro first second hne name hfirst hsecond
    simp only [List.mem_cons, List.not_mem_nil, or_false] at hfirst hsecond
    rcases hfirst with rfl | rfl <;> rcases hsecond with heq | heq
    · exact hne ((String.append_right_inj _).1 heq)
    · exact serializeOp_ne _ _ _ heq
    · exact serializeOp_ne _ _ _ heq.symm
    · exact hne ((String.append_right_inj _).1 heq)

theorem underscore_of_mem_middlewareNames {name : String} (h : name ∈ outline.middlewareNames) :
    '_' ∈ name.toList := by
  obtain ⟨bodies, -, h⟩ := List.mem_flatMap.1 h
  obtain ⟨operation, -, h⟩ := List.mem_flatMap.1 h
  simp only [List.mem_cons, List.not_mem_nil, or_false] at h
  rcases h with rfl | rfl <;> simp

theorem underscore_not_mem_typeName (shape : Shape) : '_' ∉ shape.typeName.toList := fun hmem =>
  absurd (Name.isAlphanum_of_mem_sanitize _ hmem) (by decide)

/-- At most one client has the name that all of them have. -/
theorem nodup_clients {services : List Shape} (h : (services.map fun _ => "Client").Nodup) :
    (services.flatMap fun _ => Shape.fixedNames).Nodup := by
  rcases services with _ | ⟨_, _ | ⟨_, _⟩⟩
  · simp
  · simpa using Shape.nodup_fixedNames
  · simp at h

theorem clients_sublist (services : List Shape) :
    (services.map fun _ => "Client").Sublist (services.flatMap fun _ => Shape.fixedNames) := by
  induction services with
  | nil => exact List.Sublist.refl _
  | cons service rest ih =>
    have hclient : ["Client"].Sublist Shape.fixedNames := by decide
    exact hclient.append ih

theorem map_fst_clientClaims_perm (shapes : List Shape) :
    ((shapes.flatMap Shape.clientClaims).map Prod.fst).Perm
      ((shapes.filter (·.type == .service)).map (fun _ => "Client")
        ++ (shapes.filter (·.type == .operation)).map Shape.typeName) := by
  induction shapes with
  | nil => rfl
  | cons shape rest ih =>
    rw [List.flatMap_cons, List.map_append]
    by_cases hservice : shape.type = .service
    · simpa [Shape.clientClaims, hservice] using ih
    · by_cases hoperation : shape.type = .operation
      · have hmiddle := (ih.cons shape.typeName).trans List.perm_middle.symm
        simpa [Shape.clientClaims, hoperation] using hmiddle
      · simpa [Shape.clientClaims, hservice, hoperation] using ih

/-- **The identifiers of the client package are distinct** exactly if the claims there are. -/
theorem nodup_clientNames_iff (h : Outline.of model settings integrations = .ok outline)
    (hstarted : outline.Started model settings integrations) (hwritten : outline.Written manifest) :
    outline.clientNames.Nodup ↔ (outline.shapes.flatMap Shape.clientClaims).Nodup := by
  obtain ⟨table, hreserved⟩ := hstarted.reserved
  have howner : ∀ claim ∈ outline.shapes.flatMap Shape.clientClaims,
      table.owner? "." claim.1 = some claim.2 := by
    intro claim hclaim
    obtain ⟨shape, hshape, hclaim⟩ := List.mem_flatMap.1 hclaim
    exact (hreserved shape hshape).client claim hclaim
  rw [← nodup_map_fst_iff howner, (map_fst_clientClaims_perm _).nodup_iff,
    clientNames_eq h hstarted hwritten]
  constructor
  · intro hnodup
    exact hnodup.sublist (((clients_sublist _).trans (List.sublist_append_left _ _)).append
      (List.Sublist.refl _))
  · -- The names of the client have no underscore, unlike those of the middleware, and no operation
    -- has one of them; the names of operations have letters and digits only.
    intro hnodup
    obtain ⟨hservices, hoperations, -⟩ := List.nodup_append.1 hnodup
    have hclient : ∀ name ∈ (outline.shapes.filter (·.type == .service)).flatMap
        (fun _ => Shape.fixedNames), name ∈ Name.clientNames ∧ '_' ∉ name.toList := by
      intro name hname
      obtain ⟨_, -, hname⟩ := List.mem_flatMap.1 hname
      exact Shape.mem_clientNames_of_mem_fixedNames hname
    refine List.nodup_append.2 ⟨List.nodup_append.2
      ⟨nodup_clients hservices, nodup_middlewareNames hoperations, ?_⟩, hoperations, ?_⟩
    · rintro name hname _ hmiddleware rfl
      exact (hclient name hname).2 (underscore_of_mem_middlewareNames hmiddleware)
    · rintro name hname _ hoperation rfl
      obtain ⟨operation, hmem, rfl⟩ := List.mem_map.1 hoperation
      rcases List.mem_append.1 hname with hname | hname
      · obtain ⟨_, -, hfree, -⟩ := hstarted.symbolOf_operation hmem
        exact hfree (hclient _ hname).1
      · exact underscore_not_mem_typeName operation (underscore_of_mem_middlewareNames hname)

/-! ### Operations -/

/-- Two operations of a run with one name claim it in the same words. -/
theorem Started.doubles_of_typeName_eq (h : outline.Started model settings integrations)
    {operation other : Shape} (hoperation : operation ∈ outline.operations)
    (hother : other ∈ outline.operations) (hname : operation.typeName = other.typeName) :
    operation.Doubles other := by
  obtain ⟨table, hreserved⟩ := h.reserved
  have howner : ∀ shape ∈ outline.operations,
      table.owner? "." shape.typeName = some shape.id.text := by
    intro shape hshape
    have hclaim : (shape.typeName, shape.id.text) ∈ shape.clientClaims := by
      simp [Shape.clientClaims, type_of_mem_operations hshape]
    have hheld := (hreserved shape (List.mem_filter.1 hshape).1).client _ hclaim
    dsimp only at hheld
    exact hheld
  have hboth := howner other hother
  rw [← hname, howner operation hoperation] at hboth
  exact ⟨hname, Option.some.inj hboth⟩

/-- **Operations have distinct names** exactly if none doubles another. -/
theorem Started.nodup_typeName_iff (h : outline.Started model settings integrations) :
    (outline.operations.map Shape.typeName).Nodup ↔
      ∀ operation ∈ outline.operations, ∀ other ∈ outline.operations,
        operation.Doubles other → operation = other := by
  constructor
  · intro hnodup operation hoperation other hother hdouble
    exact List.inj_on_of_nodup_map hnodup hoperation hother hdouble.1
  · intro hapart
    have hascending := h.isClosure.ascending.filter fun shape => shape.type == .operation
    have hnodup : outline.operations.Nodup := hascending.imp fun hprecedes heq =>
      hprecedes.ne (congrArg Shape.id heq)
    refine hnodup.map_on fun operation hoperation other hother hname => ?_
    exact hapart _ hoperation _ hother (h.doubles_of_typeName_eq hoperation hother hname)

/-- Readable ids do not read alike. -/
theorem Started.eq_of_doubles (h : outline.Started model settings integrations)
    {operation other : Shape} (hoperation : operation ∈ outline.operations)
    (hother : other ∈ outline.operations) (hdouble : operation.Doubles other)
    (hreadable : operation.id.IsReadable) (hreadable' : other.id.IsReadable) :
    operation = other := by
  obtain ⟨closure, hclosure, hfilter⟩ := bind_eq_ok.1 h.shapes
  have hshapes := pure_eq_ok.1 hfilter
  have hinside : ∀ shape ∈ outline.operations, shape ∈ closure := by
    intro shape hshape
    exact (List.mem_filter.1 (hshapes ▸ (List.mem_filter.1 hshape).1)).1
  have hid : operation.id = other.id := ShapeId.text_injective hreadable hreadable'
    (Model.incomparable_of_mem_closure hclosure (hinside _ hoperation) (hinside _ hother)) hdouble.2
  have hheld := Model.shape?_of_mem_closure hclosure (hinside _ hoperation)
  rw [hid, Model.shape?_of_mem_closure hclosure (hinside _ hother)] at hheld
  exact (Option.some.inj hheld).symm

/-! ### The package of types -/

/-- **The identifiers of the package of types are distinct** exactly if the claims there are. -/
theorem nodup_typeNames_iff (h : Outline.of model settings integrations = .ok outline)
    (hstarted : outline.Started model settings integrations) (hwritten : outline.Written manifest) :
    outline.typeNames.Nodup ↔ (outline.shapes.flatMap Shape.typeClaims).Nodup := by
  obtain ⟨table, hreserved⟩ := hstarted.reserved
  have howner : ∀ claim ∈ outline.shapes.flatMap Shape.typeClaims,
      table.owner? (typesPath outline.context.settings.modulePath) claim.1 = some claim.2 := by
    intro claim hclaim
    obtain ⟨shape, hshape, hclaim⟩ := List.mem_flatMap.1 hclaim
    exact (hreserved shape hshape).types claim hclaim
  rw [typeNames_eq h hwritten, nodup_map_fst_iff howner]

/-! ### Readable ids -/

/-- The ids of a run are told apart by their texts if they are readable. -/
theorem Started.pairwise_text_ne (hstarted : outline.Started model settings integrations)
    (hreadable : ∀ shape ∈ outline.shapes, shape.id.IsReadable) :
    outline.shapes.Pairwise fun s t => s.id.text ≠ t.id.text := by
  obtain ⟨closure, hclosure, hfilter⟩ := bind_eq_ok.1 hstarted.shapes
  have hshapes := pure_eq_ok.1 hfilter
  have hordered := (Model.pairwise_precedes_closure hclosure).filter fun shape => !shape.isBuiltin
  rw [hshapes] at hordered
  apply hordered.imp_of_mem
  intro s t hs ht hprecedes htext
  apply hprecedes.ne
  refine ShapeId.text_injective (hreadable s hs) (hreadable t ht) ?_ htext
  rw [← hshapes] at hs ht
  exact Model.incomparable_of_mem_closure hclosure (List.mem_filter.1 hs).1 (List.mem_filter.1 ht).1

theorem nodup_clientClaims (hids : outline.shapes.Pairwise fun s t => s.id.text ≠ t.id.text) :
    (outline.shapes.flatMap Shape.clientClaims).Nodup := by
  refine List.nodup_flatMap.2 ⟨fun shape _ => shape.nodup_clientClaims, hids.imp ?_⟩
  intro s t hne claim hs ht
  exact hne ((Shape.owner_of_mem_clientClaims hs).symm.trans (Shape.owner_of_mem_clientClaims ht))

theorem nodup_typeClaims_iff (hids : outline.shapes.Pairwise fun s t => s.id.text ≠ t.id.text) :
    (outline.shapes.flatMap Shape.typeClaims).Nodup
      ↔ ∀ s ∈ outline.shapes, ∀ t ∈ outline.shapes, ¬ s.Mimics t := by
  rw [List.nodup_flatMap]
  constructor
  · rintro ⟨-, hdisjoint⟩ s hs t ht ⟨htype, constant, hconstant, hname, htext⟩
    have hclaim := Shape.mem_typeClaims.2 ⟨htype, .inl rfl⟩
    have hclaim' := Shape.mem_typeClaims.2
      ⟨Shape.isType_of_mem_constants hconstant, .inr ⟨constant, hconstant, rfl⟩⟩
    rw [← hname, ← htext] at hclaim'
    -- A type cannot mimic its own constant: the words for the owner are longer than its id.
    have hne : s ≠ t := by
      rintro rfl
      have hlength := congrArg String.length htext
      have hspace : " ".length = 1 := rfl
      simp only [String.length_append] at hlength
      omega
    have : Std.Symm fun s t : Shape => List.Disjoint s.typeClaims t.typeClaims :=
      ⟨fun _ _ hst _ ht hs => hst hs ht⟩
    exact hdisjoint.forall hs ht hne hclaim hclaim'
  · intro hapart
    refine ⟨fun shape _ => shape.nodup_names_typeClaims.of_map _, hids.imp_of_mem ?_⟩
    intro s t hs ht hne claim hclaim hclaim'
    -- Two types, a type and a constant either way round, or two constants claim the same name.
    obtain ⟨htype, hclaim⟩ := Shape.mem_typeClaims.1 hclaim
    obtain ⟨htype', hclaim'⟩ := Shape.mem_typeClaims.1 hclaim'
    rcases hclaim with rfl | ⟨constant, hconstant, rfl⟩ <;>
      rcases hclaim' with heq | ⟨constant', hconstant', heq⟩ <;>
      obtain ⟨hname, htext⟩ := Prod.mk.inj heq
    · exact hne htext
    · exact hapart s hs t ht ⟨htype, constant', hconstant', hname, htext⟩
    · exact hapart t ht s hs ⟨htype', constant, hconstant, hname.symm, htext.symm⟩
    · exact hne (EnumValue.owner_inj htext)

end Outline

/-! ## Distinctness -/

namespace Run

variable {model : Model} {settings : Settings} {integrations : IntegrationRegistry}
  {manifest : Manifest}

/-- **When identifiers are distinct.**  The identifiers of either package are distinct exactly if no
two claims there agree in the name and in the words for the owner.  Among readable ids that is so in
the client package, and in the package of types unless some type mimics the constant of an enum. -/
theorem names_distinct_iff (h : (Run.of model settings integrations).result = .ok manifest) :
    ∃ outline, Outline.of model settings integrations = .ok outline ∧ outline.Written manifest ∧
      (outline.typeNames.Nodup ↔ (outline.shapes.flatMap Shape.typeClaims).Nodup) ∧
      (outline.clientNames.Nodup ↔ (outline.shapes.flatMap Shape.clientClaims).Nodup) ∧
      ((∀ shape ∈ outline.shapes, shape.id.IsReadable) →
        outline.clientNames.Nodup ∧ (outline.typeNames.Nodup ↔
          ∀ s ∈ outline.shapes, ∀ t ∈ outline.shapes, ¬ s.Mimics t)) := by
  obtain ⟨outline, houtline, hstarted, hwritten⟩ := exists_outline h
  have htypes := Outline.nodup_typeNames_iff houtline hstarted hwritten
  have hclient := Outline.nodup_clientNames_iff houtline hstarted hwritten
  refine ⟨outline, houtline, hwritten, htypes, hclient, ?_⟩
  intro hreadable
  have hids := hstarted.pairwise_text_ne hreadable
  rw [htypes, hclient]
  exact ⟨Outline.nodup_clientClaims hids, Outline.nodup_typeClaims_iff hids⟩

end Run

/-! ## A run that declares one identifier twice -/

namespace Mimicry

/-- An enum whose only value has words for a name that end in the value. -/
def enum : Shape where
  id := { ns := "a", name := "Foo" }
  type := .string
  traits := [(Trait.enum,
    .arr [.obj [("value", .str "x"), ("name", .str "Enum value X")]])]

/-- A structure whose id reads like the owner of the enum's constant. -/
def struct : Shape where
  id := { ns := "a", name := "Foo enum value 'x'" }
  type := .struct

def input : Shape :=
  let id : ShapeId := { ns := "a", name := "In" }
  { id
    type := .struct
    members := [{ name := "x", container := id, target := enum.id },
      { name := "y", container := id, target := struct.id }] }

def operation : Shape where
  id := { ns := "a", name := "Op" }
  type := .operation
  input := input.id

def service : Shape where
  id := { ns := "a", name := "Svc" }
  type := .service
  operations := [operation.id]

def model : Model :=
  .ofShapes [enum, struct, input, operation, service]

def settings : Settings where
  moduleName := .str "m"
  service := .str "a#Svc"
  packageName := .str "m"
  addComments := .bool false

theorem exists_manifest :
    ∃ outline manifest, (Run.of model settings {}).result = .ok manifest ∧
      Outline.of model settings {} = .ok outline ∧ outline.Written manifest ∧
      outline.shapes = [enum, struct, input, operation, service] := by
  have hchosen : Run.choose model settings = .ok (service, none) :=
    Run.choose_of_traits_eq_nil rfl rfl rfl rfl
  have hsearch : model.search 8 service.id = some [enum, struct, input, operation, service] := rfl
  have hclosure := Model.closure_eq_ok_of_search hsearch (by decide +kernel) (by decide +kernel)
  obtain ⟨outline, manifest, h, houtline, hwritten, -, -, hshapes⟩ :=
    Run.exists_manifest {} hchosen rfl hclosure (by decide +kernel)
  exact ⟨outline, manifest, h, houtline, hwritten, hshapes⟩

end Mimicry

namespace Run

theorem names_distinct_iff_mimicry : ∃ manifest,
    (Run.of Mimicry.model Mimicry.settings {}).result = .ok manifest ∧
      ∃ outline, Outline.of Mimicry.model Mimicry.settings {} = .ok outline ∧
        outline.Written manifest ∧
        (outline.typeNames.Nodup ↔ (outline.shapes.flatMap Shape.typeClaims).Nodup) ∧
        (outline.clientNames.Nodup ↔ (outline.shapes.flatMap Shape.clientClaims).Nodup) ∧
        ((∀ shape ∈ outline.shapes, shape.id.IsReadable) →
          outline.clientNames.Nodup ∧ (outline.typeNames.Nodup ↔
            ∀ s ∈ outline.shapes, ∀ t ∈ outline.shapes, ¬ s.Mimics t)) := by
  obtain ⟨_, manifest, h, -⟩ := Mimicry.exists_manifest
  exact ⟨manifest, h, names_distinct_iff h⟩

/-- The enum and the structure share an identifier, although all ids are readable. -/
theorem names_not_distinct : ∃ outline manifest,
    (Run.of Mimicry.model Mimicry.settings {}).result = .ok manifest ∧
      Outline.of Mimicry.model Mimicry.settings {} = .ok outline ∧ outline.Written manifest ∧
      (∀ shape ∈ outline.shapes, shape.id.IsReadable) ∧ ¬ outline.typeNames.Nodup := by
  obtain ⟨outline, manifest, h, houtline, hwritten, hshapes⟩ := Mimicry.exists_manifest
  refine ⟨outline, manifest, h, houtline, hwritten, ?_, ?_⟩
  · rw [hshapes]
    decide
  · rw [Outline.typeNames_eq houtline hwritten, hshapes]
    decide +kernel

end Run

end ClientGen
