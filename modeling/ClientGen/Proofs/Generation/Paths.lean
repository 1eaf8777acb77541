import ClientGen.Proofs.Generation.Delivery
import ClientGen.Proofs.Generation.Lookups
import ClientGen.Proofs.Generation.Names
import ClientGen.Proofs.Generation.Reports

/-!
# The paths of generated files

The names of shapes are any texts, but the paths of generated files are not.  Most units have a path
of their own; only that of an operation is made of a name, from which the sanitizer leaves letters
and digits.  So no path leads out of the directory that the files are written to, whatever
generators a run has and whatever shapes they take.

Nor do two units ever have one path.  The units of a run are kept by path, and the manifest of the
module, which joins them at the end, has a path that no symbol is declared in.  So a run never fails
because two units have one path.  The body of a handler may still claim so: it is the only part of a
run whose failures are its own.

## Main definitions

* `fixedUnits`, `Shape.operationUnit` — the paths of units.
* `Failure.IsEarly` — the failures that come before writing.
* `Shape.OwnsUnit` — the unit of an operation, and which other operations share it.
* `Manifest.IsConfined` — the files of a run, and that nothing is written elsewhere.

## Main results

* `Outline.mem_paths_cases` — what units a run writes, with any generators.
* `Run.exists_finish_of_stages` — the units of a run can always be laid out.
* `Run.paths_confined` — which paths a run has, and that nothing is written elsewhere.
* `Run.unit_shared` — two operations share a unit if their ids read alike.
-/

namespace ClientGen

/-- The units whose paths do not depend on a model. -/
def fixedUnits : List String :=
  [clientUnit, docUnit, moduleUnit, serializersUnit, deserializersUnit, typesUnit, errorsUnit,
    enumsUnit]

/-- The unit of an operation. -/
def Shape.operationUnit (operation : Shape) : String :=
  "api_op_" ++ operation.typeName ++ ".go"

/-! ## Local paths -/

theorem isLocal_of_mem_fixedUnits {path : String} (h : path ∈ fixedUnits) : Path.IsLocal path := by
  have hall : ∀ path ∈ fixedUnits, (Path.ofText path).root = "" ∧ (Path.ofText path).names ≠ [] ∧
      ".." ∉ (Path.ofText path).names ∧ (Path.ofText path).text = path := by
    decide
  obtain ⟨hroot, hnames, hup, htext⟩ := hall path h
  exact ⟨hroot, hnames, hup, htext⟩

namespace Shape

variable {shape : Shape}

theorem toList_operationUnit (shape : Shape) :
    shape.operationUnit.toList = "api_op_".toList ++ shape.typeName.toList ++ ".go".toList := by
  simp [operationUnit]

/-- **The path of an operation is a single name.** -/
theorem isLocal_operationUnit (shape : Shape) : Path.IsLocal shape.operationUnit := by
  have hlong : ∀ text : String, text.toList.length < 7 → shape.operationUnit ≠ text := by
    rintro text hlength rfl
    rw [toList_operationUnit] at hlength
    simp at hlength
    omega
  refine Path.isLocal_of_not_mem ?_ (hlong "" (by decide)) (hlong "." (by decide))
    (hlong ".." (by decide))
  rw [toList_operationUnit]
  have hname : '/' ∉ shape.typeName.toList := fun hmem =>
    absurd (Name.isAlphanum_of_mem_sanitize _ hmem) (by decide)
  simp [hname]

/-- A path that begins with another character is that of no operation. -/
theorem operationUnit_ne {path : String} (h : path.toList.head? ≠ some 'a') (shape : Shape) :
    shape.operationUnit ≠ path := by
  rintro rfl
  exact h (by rw [toList_operationUnit]; rfl)

theorem operationUnit_ne_moduleUnit (shape : Shape) : shape.operationUnit ≠ moduleUnit :=
  operationUnit_ne (by decide) shape

theorem operationUnit_ne_docUnit (shape : Shape) : shape.operationUnit ≠ docUnit :=
  operationUnit_ne (by decide) shape

theorem typeName_eq_of_operationUnit_eq {other : Shape}
    (h : shape.operationUnit = other.operationUnit) : shape.typeName = other.typeName := by
  have hchars := congrArg String.toList h
  rw [toList_operationUnit, toList_operationUnit] at hchars
  exact String.toList_inj.1 (List.append_cancel_left (List.append_cancel_right hchars))

theorem unit?_of_builtinType? {type : ShapeType} {symbol : Symbol}
    (h : builtinType? type = some symbol) : symbol.unit? = none := by
  unfold builtinType? at h
  split at h <;> first | (obtain rfl := Option.some.inj h; rfl) | simp at h

/-- A symbol of its own has one of four units, unless it is that of an operation. -/
theorem unit_cases_of_ownSymbol? {modulePath path : String} {symbol : Symbol}
    (h : shape.ownSymbol? modulePath = some (.ok symbol)) (hunit : symbol.unit? = some path) :
    path ∈ [clientUnit, typesUnit, errorsUnit, enumsUnit] ∨
      (shape.type = .operation ∧ path = shape.operationUnit) := by
  cases owned_of_ownSymbol? h with
  | client =>
    obtain rfl := Option.some.inj hunit
    exact .inl (by simp)
  | operation htype => exact .inr ⟨htype, (Option.some.inj hunit).symm⟩
  | resource => simp [Symbol.unit?] at hunit
  | declared =>
    rw [unit?_typeSymbol] at hunit
    obtain rfl := Option.some.inj hunit
    refine .inl ?_
    unfold typeUnit
    split
    · simp
    · split <;> simp
  | builtin hfound => simp [unit?_of_builtinType? hfound] at hunit

/-- **The unit that declares a shape** is one of four, unless the shape is an operation. -/
theorem path_cases {model : Model} {modulePath path : String} {symbol : Symbol}
    (hsymbol : model.symbolOf modulePath shape = .ok symbol)
    (hpath : Units.pathOf symbol = .ok path) :
    path ∈ [clientUnit, typesUnit, errorsUnit, enumsUnit] ∨
      (shape.type = .operation ∧ path = shape.operationUnit) := by
  have hunit : symbol.unit? = some path := by
    unfold Units.pathOf at hpath
    split at hpath
    · rename_i unit hunit
      split at hpath
      · simp at hpath
      · rw [hunit, Except.ok.inj hpath]
    · simp at hpath
  cases hown : shape.ownSymbol? modulePath with
  | none =>
    rw [Model.symbolOf, Model.symbolWithin, hown] at hsymbol
    obtain ⟨element, -, hsymbol⟩ := bind_eq_ok.1 hsymbol
    obtain ⟨inner, -, hsymbol⟩ := bind_eq_ok.1 hsymbol
    obtain rfl := pure_eq_ok.1 hsymbol
    split at hunit <;> simp [Symbol.map, Symbol.slice, Symbol.unit?] at hunit
  | some own =>
    rw [Model.symbolOf, Model.symbolWithin_of_ownSymbol? hown] at hsymbol
    exact unit_cases_of_ownSymbol? (hown.trans (congrArg some hsymbol)) hunit

end Shape

/-! ## Units of a run -/

namespace Outline

variable {model : Model} {settings : Settings} {integrations : IntegrationRegistry}
  {generators : GeneratorRegistry} {outline : Outline}

/-- **What a run writes besides the documentation of the package**, whatever generators it has:
passages in fixed units, or in those of operations. -/
theorem exists_passages (h : Outline.of model settings integrations generators = .ok outline) :
    ∃ passages, outline.passages = passages ++ [Passage.ofPackage outline.context] ∧
      ∀ passage ∈ passages,
        passage.path ∈ [clientUnit, typesUnit, errorsUnit, enumsUnit, serializersUnit,
          deserializersUnit] ∨
        ∃ operation ∈ outline.operations, passage.path = operation.operationUnit := by
  obtain ⟨declared, middleware, hdeclared, hmiddleware, hpassages⟩ := passages_of_of h
  refine ⟨_, hpassages, fun passage hpassage => ?_⟩
  rw [List.mem_append, List.mem_flatten] at hpassage
  rcases hpassage with ⟨passages, hpassages, hin⟩ | hin
  · obtain ⟨shape, hshape, hfound⟩ := exists_of_mem_mapM hdeclared hpassages
    unfold Passage.ofShape at hfound
    split at hfound
    · obtain rfl := Except.ok.inj hfound
      simp at hin
    · obtain ⟨symbol, hsymbol, hfound⟩ := bind_eq_ok.1 hfound
      obtain ⟨path, hpath, hfound⟩ := bind_eq_ok.1 hfound
      obtain ⟨steps, -, hfound⟩ := bind_eq_ok.1 hfound
      obtain rfl := pure_eq_ok.1 hfound
      obtain rfl := List.mem_singleton.1 hin
      rcases Shape.path_cases hsymbol hpath with hown | ⟨htype, hown⟩
      · refine .inl ?_
        simp only [List.mem_cons] at hown ⊢
        tauto
      · exact .inr ⟨shape, List.mem_filter.2 ⟨hshape, by simp [htype]⟩, hown⟩
  · refine .inl ?_
    rcases Passage.ofProtocol_eq_ok hmiddleware with ⟨-, rfl⟩ | ⟨bodies, found, -, hfound, rfl⟩
    · simp at hin
    · obtain ⟨passages, hpassages, hin⟩ := List.mem_flatten.1 hin
      obtain ⟨operation, hoperation, hof⟩ := exists_of_mem_mapM hfound hpassages
      obtain ⟨first, second, -, -, rfl⟩ :=
        Passage.ofOperation_eq_ok (type_of_mem_operations hoperation) hof
      rcases List.mem_cons.1 hin with rfl | hin
      · simp
      · obtain rfl := List.mem_singleton.1 hin
        simp

/-- **The units of a run**, whatever generators it has: fixed ones, or those of operations. -/
theorem mem_paths_cases (h : Outline.of model settings integrations generators = .ok outline)
    {path : String} (hmem : path ∈ outline.paths) :
    (path ∈ fixedUnits ∧ path ≠ moduleUnit) ∨
      ∃ operation ∈ outline.operations, path = operation.operationUnit := by
  have hfixed : ∀ path ∈ [clientUnit, typesUnit, errorsUnit, enumsUnit, serializersUnit,
      deserializersUnit], path ∈ fixedUnits ∧ path ≠ moduleUnit := by
    decide
  obtain ⟨passages, hpassages, hcases⟩ := exists_passages h
  rw [paths, hpassages, List.map_append, List.mem_append] at hmem
  rcases hmem with hmem | hdoc
  · obtain ⟨passage, hpassage, rfl⟩ := List.mem_map.1 hmem
    exact (hcases passage hpassage).imp_left (hfixed _)
  · obtain rfl := List.mem_singleton.1 hdoc
    have hfixed : docUnit ∈ fixedUnits ∧ docUnit ≠ moduleUnit := by decide
    exact .inl hfixed

/-- **What documents the package stands in a unit of its own.** -/
theorem stepsAt_docUnit (h : Outline.of model settings integrations generators = .ok outline) :
    docUnit ∈ outline.paths ∧ outline.stepsAt docUnit
      = [.packageDocs (.str (Emission.packageText outline.context))] := by
  obtain ⟨passages, hpassages, hcases⟩ := exists_passages h
  have hnone : Passage.stepsAt passages docUnit = [] := by
    rw [Passage.stepsAt, List.filter_eq_nil_iff.2, List.flatMap_nil]
    intro passage hpassage
    rw [beq_iff_eq]
    rcases hcases passage hpassage with hfixed | ⟨operation, -, hoperation⟩
    · rintro hdoc
      exact absurd (hdoc ▸ hfixed) (by decide)
    · rw [hoperation]
      exact operation.operationUnit_ne_docUnit
  constructor
  · rw [paths, hpassages, List.map_append]
    exact List.mem_append_right _ (List.mem_singleton.2 rfl)
  · rw [Outline.stepsAt, hpassages, Passage.stepsAt_append, hnone]
    rfl

end Outline

/-! ## No path twice -/

/-- Two units have the same path. -/
def Failure.isRepeated : Failure → Bool
  | unitRepeated _ => true
  | _ => false

/-- The failures that come before writing. -/
inductive Failure.IsEarly : Failure → Prop where
  | model (fault : ModelFault) : IsEarly (.model fault)
  | collision (clash : Collision) : IsEarly (.collision clash)
  | malformed (value : Malformed) : IsEarly (.malformed value)

namespace Failure

variable {failure : Failure}

theorem IsEarly.not_isRepeated (h : failure.IsEarly) : failure.isRepeated = false := by
  cases h <;> rfl

theorem IsOwn.not_isRepeated (h : failure.IsOwn) : failure.isRepeated = false := by
  cases h <;> rfl

theorem IsOfEnum.isEarly (h : failure.IsOfEnum) : failure.IsEarly := by
  cases h with
  | untold trait id => exact .model _
  | missing node => exact .model _
  | malformed value => exact .malformed value
  | collision clash => exact .collision clash

end Failure

section Early

variable {model : Model} {context : Context} {shape : Shape} {failure : Failure}

/-- However deep elements are followed, it comes to an early failure or to none. -/
theorem Model.isEarly_of_symbolWithin {modulePath : String} {depth : Nat}
    (h : model.symbolWithin modulePath depth shape = .error failure) : failure.IsEarly := by
  induction depth generalizing shape with
  | zero =>
    rw [symbolWithin] at h
    exact Except.error.inj h ▸ .malformed _
  | succ depth ih =>
    rw [symbolWithin] at h
    split at h
    · rename_i own hown
      obtain ⟨clash, rfl⟩ := Shape.exists_clash_of_ownSymbol? (h ▸ hown)
      exact .collision clash
    · rcases bind_eq_error.1 h with h | ⟨element, -, h⟩
      · unfold Shape.element at h
        split at h
        · obtain ⟨fault, rfl⟩ := exists_fault_of_expect h
          exact .model fault
        · exact Except.error.inj h ▸ .malformed _
      · rcases bind_eq_error.1 h with h | ⟨inner, -, h⟩
        · exact ih h
        · exact absurd h pure_ne_error

theorem Context.Refuses.isEarly (h : context.Refuses shape failure) : failure.IsEarly := by
  rcases h with h | ⟨symbol, clash, -, rfl, -⟩
  · exact Model.isEarly_of_symbolWithin h
  · exact .collision clash

namespace Run

theorem isEarly_of_choose {settings : Settings} (h : choose model settings = .error failure) :
    failure.IsEarly := by
  rcases choose_eq_error h with ⟨fault, rfl⟩ | ⟨rfl, -⟩
  · exact .model fault
  · exact .malformed .kind

/-- **What comes before writing fails early.** -/
theorem isEarly_of_start (h : start context = .error failure) : failure.IsEarly := by
  -- Finding the shapes, reserving their names, and reading the indentation.
  rcases start_eq_error h with h | ⟨shapes, -, table, shape, -, h⟩ | h
  · rcases Model.closure_eq_error h with ⟨fault, rfl⟩ | ⟨rfl, -⟩
    · exact .model fault
    · exact .malformed .kind
  · rcases reserveShape_eq_error h with h | ⟨-, typeName, h⟩ | ⟨clash, rfl⟩
    · exact h.isEarly
    · exact (Shape.isOfEnum_of_labels h).isEarly
    · exact .collision clash
  · unfold Settings.indent at h
    split at h
    · simp at h
    · exact Except.error.inj h ▸ .malformed _

end Run

end Early

namespace Run

variable {model : Model} {settings : Settings} {integrations : IntegrationRegistry}
  {generators : GeneratorRegistry} {context : Context} {protocol : Option String}
  {shapes : List Shape} {emission : Emission}

/-- **Units that were written can be laid out**: they have distinct paths, and none of them that of
the module's manifest. -/
theorem exists_finish_of_stages
    (hchosen : choose model settings = .ok (context.service, protocol))
    (hcontext : context = {
      model, settings, service := context.service, integrations := integrations.integrations,
      transport := some .http })
    (hstart : start context = .ok (shapes, emission))
    (hok : (Emission.of context generators protocol shapes emission).failure = none) :
    ∃ manifest, finish settings (Emission.of context generators protocol shapes emission).units
      = .ok manifest := by
  obtain ⟨outline, houtline, -, -, hholds⟩ := outline_of_stages hchosen hcontext hstart hok
  refine ⟨_, finish_eq settings hholds.nodup fun hmem => ?_⟩
  rcases Outline.mem_paths_cases houtline ((hholds.mem_keys moduleUnit).1 hmem) with
    ⟨-, hne⟩ | ⟨operation, -, heq⟩
  · exact hne rfl
  · exact operation.operationUnit_ne_moduleUnit heq.symm

/-- The operations that a run generates code for. -/
def operations (model : Model) (settings : Settings) : Except Failure (List Shape) := do
  let (service, _) ← choose model settings
  let closure ← model.closure service.id
  return closure.filter fun shape => shape.type == .operation && !shape.isBuiltin

theorem operations_of_shapes (hchosen : choose model settings = .ok (context.service, protocol))
    (hmodel : context.model = model) (hshapes : Run.shapes context = .ok shapes) :
    operations model settings = .ok (shapes.filter (·.type == .operation)) := by
  obtain ⟨closure, hclosure, hfilter⟩ := bind_eq_ok.1 hshapes
  obtain rfl := pure_eq_ok.1 hfilter
  rw [operations, hchosen]
  refine bind_eq_ok.2 ⟨_, rfl, bind_eq_ok.2 ⟨closure, hmodel ▸ hclosure, ?_⟩⟩
  rw [List.filter_filter]
  rfl

/-- **Only the body of a handler can claim that a path is taken.** -/
theorem anyRaises_of_isRepeated {failure : Failure}
    (h : (Run.of model settings integrations generators).result = .error failure)
    (hrepeated : failure.isRepeated = true) :
    ∃ found, operations model settings = .ok found ∧
      Integration.AnyRaises integrations.integrations found failure := by
  have hstages := Run.stages model settings integrations generators
  generalize Run.of model settings integrations generators = run at h hstages
  cases hstages with
  | choosing chosen =>
    obtain rfl := Except.error.inj h
    simp [(isEarly_of_choose chosen).not_isRepeated] at hrepeated
  | starting chosen eq started =>
    obtain rfl := Except.error.inj h
    simp [(isEarly_of_start started).not_isRepeated] at hrepeated
  | @writing context protocol shapes emission _ chosen eq started failed finished =>
    have hmodel : context.model = model := by rw [eq]
    have hintegrations : context.integrations = integrations.integrations := by rw [eq]
    refine ⟨_, operations_of_shapes chosen hmodel (start_spec started).1, ?_⟩
    cases hfailure : (Emission.of context generators protocol shapes emission).failure with
    | some other =>
      obtain rfl := Except.error.inj ((failed other hfailure).symm.trans h)
      have hpermits : context.Permits shapes (fun _ _ => True) fun failure =>
          failure.isRepeated = true → Integration.AnyRaises context.integrations
            (shapes.filter (·.type == .operation)) failure := by
        apply permits_raised
        · exact fun _ hown => hown.not_isRepeated
        · exact fun _ _ _ _ _ _ _ hrefused => hrefused.isEarly.not_isRepeated
        · exact fun shape hmem htype => List.mem_filter.2 ⟨hmem, by simp [htype]⟩
      rw [← hintegrations]
      exact permitted_of_start started hpermits generators protocol hfailure hrepeated
    | none =>
      obtain ⟨manifest, hfinish⟩ := exists_finish_of_stages chosen eq started hfailure
      rw [finished hfailure, hfinish] at h
      simp at h

end Run

/-! ## Confinement -/

/-- The unit of one of some operations is named with letters and digits.  Another one has it too
exactly if it doubles this one, which cannot be if both ids can be read. -/
structure Shape.OwnsUnit (operations : List Shape) (operation : Shape) : Prop where
  mem : operation ∈ operations
  nonempty : operation.typeName ≠ ""
  alphanum : ∀ c ∈ operation.typeName.toList, c.isAlphanum = true
  shared : ∀ other ∈ operations,
    other.operationUnit = operation.operationUnit ↔ other.Doubles operation
  unique : ∀ other ∈ operations, other.operationUnit = operation.operationUnit →
    other.id.IsReadable → operation.id.IsReadable → other = operation

/-- The files of a manifest are fixed units and those of some operations, and writing them leaves
everything alone that is not below the directory, save for missing directories on the way there. -/
structure Manifest.IsConfined (operations : List Shape) (manifest : Manifest) : Prop where
  paths : ∀ path ∈ manifest.paths, path ∈ fixedUnits ∨
    ∃ operation : Shape, operation.OwnsUnit operations ∧ path = operation.operationUnit
  nodup : manifest.paths.Nodup
  outside : ∀ (tree : Tree) (directory : Path) (place : Place), ¬ directory.Encloses place →
    (manifest.write tree directory).1.node? place = tree.node? place ∨
      (directory.IsOnWay place ∧ tree.node? place = none ∧
        (manifest.write tree directory).1.node? place = some .directory)

namespace Outline

variable {model : Model} {settings : Settings} {integrations : IntegrationRegistry}
  {generators : GeneratorRegistry} {outline : Outline} {manifest : Manifest}

/-- **An operation has a unit of its own**, unless another one claims its name in the same words. -/
theorem Started.ownsUnit (h : outline.Started model settings integrations) {operation : Shape}
    (hmem : operation ∈ outline.operations) : operation.OwnsUnit outline.operations := by
  have hdouble : ∀ other ∈ outline.operations,
      other.operationUnit = operation.operationUnit → other.Doubles operation :=
    fun other hother hunit =>
      h.doubles_of_typeName_eq hother hmem (Shape.typeName_eq_of_operationUnit_eq hunit)
  have halphanum : ∀ c ∈ operation.typeName.toList, c.isAlphanum = true :=
    Name.isAlphanum_of_mem_sanitize
  refine ⟨hmem, Name.sanitize_ne_empty operation.name, halphanum, fun other hother =>
    ⟨hdouble other hother, fun hsame => ?_⟩, fun other hother hunit hreadable hreadable' => ?_⟩
  · rw [Shape.operationUnit, Shape.operationUnit, hsame.1]
  · exact h.eq_of_doubles hother hmem (hdouble other hother hunit) hreadable hreadable'

/-- **The files of a run** are its units and the module's manifest. -/
theorem Written.mem_paths_iff (h : outline.Written manifest) {path : String} :
    path ∈ manifest.paths ↔ path = moduleUnit ∨ path ∈ outline.paths := by
  have hisSome : path ∈ manifest.paths ↔ (manifest.get? path).isSome := by
    rw [Manifest.get?, Option.isSome_iff_exists]
    simp only [Manifest.paths, List.mem_map, Manifest.mem_files,
      Entries.lookup_eq_some_iff_mem h.nodup]
    constructor
    · rintro ⟨file, hfile, rfl⟩
      exact ⟨file.2, hfile⟩
    · rintro ⟨content, hfile⟩
      exact ⟨_, hfile, rfl⟩
  rw [hisSome]
  by_cases hmodule : path = moduleUnit
  · simp [hmodule, h.module]
  · rw [h.get? path hmodule]
    by_cases hmem : path ∈ outline.paths <;> simp [hmem, hmodule]

theorem Written.nodup_paths (h : outline.Written manifest) : manifest.paths.Nodup :=
  ((List.mergeSort_perm _ _).map Prod.fst).nodup_iff.2 h.nodup

theorem Written.path_cases (h : Outline.of model settings integrations generators = .ok outline)
    (hwritten : outline.Written manifest) {path : String} (hmem : path ∈ manifest.paths) :
    path ∈ fixedUnits ∨ ∃ operation ∈ outline.operations, path = operation.operationUnit := by
  rcases hwritten.mem_paths_iff.1 hmem with rfl | hmem
  · exact .inl (by decide)
  · exact (mem_paths_cases h hmem).imp_left And.left

/-- **The files of a run have local paths.** -/
theorem Written.isLocal (h : Outline.of model settings integrations generators = .ok outline)
    (hwritten : outline.Written manifest) : manifest.IsLocal where
  paths := by
    intro path hmem
    rcases hwritten.path_cases h hmem with hfixed | ⟨operation, -, rfl⟩
    · exact isLocal_of_mem_fixedUnits hfixed
    · exact operation.isLocal_operationUnit
  nodup := hwritten.nodup_paths

/-- **The files of a run stay where they are written to.** -/
theorem Written.isConfined (h : Outline.of model settings integrations generators = .ok outline)
    (hstarted : outline.Started model settings integrations) (hwritten : outline.Written manifest) :
    manifest.IsConfined outline.operations := by
  have hlocal := hwritten.isLocal h
  refine ⟨fun path hmem => ?_, hlocal.nodup, fun tree directory place hoff => ?_⟩
  · rcases hwritten.path_cases h hmem with hfixed | ⟨operation, hoperation, hunit⟩
    · exact .inl hfixed
    · exact .inr ⟨operation, hstarted.ownsUnit hoperation, hunit⟩
  · have hframe := hlocal.frame_of_write tree directory
    have hnot : ¬ Manifest.Writes directory manifest.files place := by
      rintro ⟨file, hfile, rfl⟩
      exact hoff (hlocal.of_mem_files hfile).encloses_below
    rcases hframe.node place hnot with hsame | ⟨hway | hinside, hnone, hmade⟩
    · exact .inl hsame
    · exact .inr ⟨hway, hnone, hmade⟩
    · exact absurd hinside hoff

end Outline

namespace Run

variable {model : Model} {settings : Settings} {integrations : IntegrationRegistry}
  {generators : GeneratorRegistry} {manifest : Manifest}

/-- The files of a run that succeeds have local paths. -/
theorem isLocal_of_result
    (h : (Run.of model settings integrations generators).result = .ok manifest) :
    manifest.IsLocal := by
  obtain ⟨outline, houtline, -, hwritten⟩ := exists_outline h
  exact hwritten.isLocal houtline

theorem exists_isConfined
    (h : (Run.of model settings integrations generators).result = .ok manifest) :
    ∃ found, operations model settings = .ok found ∧ manifest.IsConfined found := by
  obtain ⟨outline, houtline, hstarted, hwritten⟩ := exists_outline h
  have hmodel : outline.context.model = model := by rw [hstarted.context]
  exact ⟨outline.operations, operations_of_shapes hstarted.chosen hmodel hstarted.shapes,
    hwritten.isConfined houtline hstarted⟩

/-- **The paths of a run are confined**, whatever model, settings, integrations and generators it
has.  It fails over a path that is taken only if the body of a handler says so itself; and if it
succeeds, its files are fixed units and those of its operations, and nothing is written outside of
the directory that they are written to. -/
theorem paths_confined (model : Model) (settings : Settings) (integrations : IntegrationRegistry)
    (generators : GeneratorRegistry) :
    (∀ path, (Run.of model settings integrations generators).result = .error (.unitRepeated path) →
      ∃ found, operations model settings = .ok found ∧
        Integration.AnyRaises integrations.integrations found (.unitRepeated path)) ∧
    ∀ manifest, (Run.of model settings integrations generators).result = .ok manifest →
      ∃ found, operations model settings = .ok found ∧ manifest.IsConfined found :=
  ⟨fun _ h => anyRaises_of_isRepeated h rfl, fun _ h => exists_isConfined h⟩

/-- A run whose stages succeed has a file for each of its passages. -/
theorem exists_manifest_of_passages {context : Context} {protocol : Option String}
    {shapes : List Shape} {emission : Emission} {paths : List String}
    (hchosen : choose model settings = .ok (context.service, protocol))
    (hcontext : context = {
      model, settings, service := context.service, integrations := integrations.integrations,
      transport := some .http })
    (hstart : start context = .ok (shapes, emission))
    (hok : (Emission.of context generators protocol shapes emission).failure = none)
    (hpaths : (Passage.all context generators protocol shapes).map (·.map Passage.path)
      = .ok paths) :
    ∃ manifest, (Run.of model settings integrations generators).result = .ok manifest ∧
      ∀ path ∈ paths, path ∈ manifest.paths := by
  obtain ⟨manifest, hfinish⟩ := exists_finish_of_stages hchosen hcontext hstart hok
  have hresult := (result_of_stages hchosen hcontext hstart hok).trans hfinish
  obtain ⟨outline, houtline, -, hwritten⟩ := exists_outline hresult
  obtain ⟨other, hother, -, ⟨hctx, hprotocol, hshapes⟩, -⟩ :=
    outline_of_stages hchosen hcontext hstart hok
  obtain rfl := Except.ok.inj (hother.symm.trans houtline)
  have hall := Outline.all_eq_ok_of_of hother
  rw [hctx, hprotocol, hshapes] at hall
  rw [hall] at hpaths
  have hpaths' : other.paths = paths := Except.ok.inj hpaths
  exact ⟨manifest, hresult, fun path hmem =>
    hwritten.mem_paths_iff.2 (.inr (by rw [hpaths']; exact hmem))⟩

end Run

/-! ## A name that climbs -/

namespace Detour

/-- An operation whose name looks like a path out of its directory. -/
def operation : Shape where
  id := { ns := "a", name := "../../bin/greet.sh" }
  type := .operation

def service : Shape where
  id := { ns := "a", name := "Svc" }
  type := .service
  operations := [operation.id]

def model : Model :=
  .ofShapes [service, operation]

def settings : Settings where
  moduleName := .str "m"
  service := .str "a#Svc"
  packageName := .str "m"
  addComments := .bool false

def context : Context where
  model := model
  settings := settings
  service := service
  integrations := []
  transport := some .http

/-- The generator of services, and one that takes operations. -/
def generators : GeneratorRegistry where
  entries := [("service", .service), ("operations", .remark .operation)]

theorem operationUnit_eq : operation.operationUnit = "api_op_BinGreetSh.go" := by
  decide

/-- The stages of the run succeed. -/
theorem exists_stages : Run.choose model settings = .ok (service, none) ∧
    ∃ emission, Run.start context = .ok ([operation, service], emission) ∧
      (Emission.of context generators none [operation, service] emission).failure = none := by
  have hsearch : model.search 4 service.id = some [operation, service] := rfl
  have hclosure : context.model.closure context.service.id = .ok [operation, service] :=
    Model.closure_eq_ok_of_search hsearch (by decide) (by decide)
  have hwrites : context.writes none ([operation, service].filter fun shape => !shape.isBuiltin)
      generators = true := by
    decide
  exact ⟨Run.choose_of_traits_eq_nil rfl rfl rfl rfl, Run.exists_stages_of_writes hclosure hwrites⟩

/-- The passages of the run, by their paths. -/
theorem map_path_all : (Passage.all context generators none [operation, service]).map
    (·.map Passage.path) = .ok [operation.operationUnit, clientUnit, docUnit] :=
  rfl

theorem exists_manifest : ∃ manifest,
    (Run.of model settings {} generators).result = .ok manifest ∧
      operation.operationUnit ∈ manifest.paths := by
  obtain ⟨hchosen, emission, hstart, hok⟩ := exists_stages
  have hcontext : context = {
      model, settings, service := context.service,
      integrations := IntegrationRegistry.integrations {}, transport := some .http } := rfl
  obtain ⟨manifest, hresult, hpaths⟩ :=
    Run.exists_manifest_of_passages hchosen hcontext hstart hok map_path_all
  exact ⟨manifest, hresult, hpaths _ (by simp)⟩

end Detour

namespace Run

theorem paths_confined_detour : ∃ manifest,
    (Run.of Detour.model Detour.settings {} Detour.generators).result = .ok manifest ∧
      "api_op_BinGreetSh.go" ∈ manifest.paths ∧
      ∃ found, operations Detour.model Detour.settings = .ok found ∧
        manifest.IsConfined found := by
  obtain ⟨manifest, h, hmem⟩ := Detour.exists_manifest
  rw [Detour.operationUnit_eq] at hmem
  exact ⟨manifest, h, hmem,
    (paths_confined Detour.model Detour.settings {} Detour.generators).2 manifest h⟩

end Run

/-! ## Ids that read alike -/

namespace Lookalike

/-- The id of a member, and that of a shape whose name has the sign for members in it. -/
def memberId : ShapeId where
  ns := "a"
  name := "b"
  member := some "-"

def shapeId : ShapeId where
  ns := "a"
  name := "b$-"

def model : Model :=
  Sample.pairModel memberId shapeId

def context : Context :=
  { Sample.context with model, service := Sample.pairService memberId shapeId }

/-- What the run is about, the last one being the service. -/
def shapes : List Shape :=
  [Sample.bare memberId, Sample.bare shapeId, context.service]

theorem exists_stages : Run.choose model Sample.settings = .ok (context.service, none) ∧
    ∃ emission, Run.start context = .ok (shapes, emission) ∧
      (Emission.of context Detour.generators none shapes emission).failure = none := by
  have hsearch : model.search 5 context.service.id = some shapes := rfl
  have hclosure : context.model.closure context.service.id = .ok shapes :=
    Model.closure_eq_ok_of_search hsearch (by decide) (by decide)
  have hwrites : context.writes none (shapes.filter fun shape => !shape.isBuiltin)
      Detour.generators = true := by
    decide
  exact ⟨Run.choose_of_traits_eq_nil rfl rfl rfl rfl, Run.exists_stages_of_writes hclosure hwrites⟩

theorem map_path_all : (Passage.all context Detour.generators none shapes).map
    (·.map Passage.path) = .ok ["api_op_B.go", "api_op_B.go", clientUnit, docUnit] :=
  rfl

end Lookalike

namespace Run

/-- Two operations whose ids read alike share a unit. -/
theorem unit_shared : ∃ manifest,
    (Run.of Lookalike.model Sample.settings {} Detour.generators).result = .ok manifest ∧
      "api_op_B.go" ∈ manifest.paths ∧
      ∃ found, operations Lookalike.model Sample.settings = .ok found ∧
        ∃ first ∈ found, ∃ second ∈ found, first ≠ second ∧
          first.operationUnit = "api_op_B.go" ∧ second.operationUnit = "api_op_B.go" := by
  obtain ⟨hchosen, emission, hstart, hok⟩ := Lookalike.exists_stages
  have hcontext : Lookalike.context = {
      model := Lookalike.model, settings := Sample.settings, service := Lookalike.context.service,
      integrations := IntegrationRegistry.integrations {}, transport := some .http } := rfl
  obtain ⟨manifest, hresult, hpaths⟩ :=
    exists_manifest_of_passages hchosen hcontext hstart hok Lookalike.map_path_all
  have hfound := operations_of_shapes hchosen rfl (start_spec hstart).1
  have hne : Sample.bare Lookalike.memberId ≠ Sample.bare Lookalike.shapeId := fun heq =>
    absurd (congrArg Shape.id heq) (by decide)
  exact ⟨manifest, hresult, hpaths _ (by simp), _, hfound, _, List.mem_cons_self, _,
    List.mem_cons_of_mem _ List.mem_cons_self, hne, by decide, by decide⟩

end Run

end ClientGen
