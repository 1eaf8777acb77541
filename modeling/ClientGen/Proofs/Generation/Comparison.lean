import ClientGen.Proofs.Declaration.Comparison

/-!
# Runs that are compared

Two runs are compared stage by stage: reserving, writing and laying out.  If the two contexts look
alike and the closures of the two services list pairs of shapes, every stage keeps what it leaves
alike, so both runs fail in the same way or both produce files that look alike.

## Main definitions

* `Units.Alike`, `Emission.Alike`, `Manifest.Alike` — what the stages of two runs leave looks alike.

## Main results

* `Emission.of_alike` — two runs write alike.
* `Run.result_agree` — two runs in step have results that look alike.
-/

namespace ClientGen

variable {view : View} {P : Shape → Shape → Prop}

/-! ## Units -/

/-- Units of two runs look alike. -/
structure Units.Alike (view : View) (units units' : Units) : Prop where
  modulePath : units.modulePath = units'.modulePath
  packageName : units.packageName = units'.packageName
  indentText : units.indentText = units'.indentText
  /-- Indentation shows nothing. -/
  indents : view.Indents units.indentText
  writers : List.Forall₂ (fun unit unit' => unit.1 = unit'.1 ∧ unit.2.Alike view unit'.2)
    units.writers units'.writers

namespace Units.Alike

variable {units units' : Units} (h : units.Alike view units')
include h

theorem writer (path : String) : (units.writer path).Alike view (units'.writer path) := by
  have hfresh : (units.fresh path).Alike view (units'.fresh path) := by
    have heq : units.fresh path = units'.fresh path := by
      rw [fresh, fresh, h.packageName, h.modulePath, h.indentText]
    rw [← heq]
    refine .refl ?_
    unfold fresh
    dsimp only
    split <;> exact h.indents
  have hfound := rel_lookup h.writers path
  unfold Units.writer
  generalize units.writers.lookup path = found, units'.writers.lookup path = found' at hfound
  cases hfound with
  | none => exact hfresh
  | some hfound => exact hfound

theorem perform (path : String) {steps steps' : List Step}
    (hsteps : Step.seenAll view steps = Step.seenAll view steps') :
    (units.perform path steps).1.Alike view (units'.perform path steps').1 ∧
      Option.Rel (Failure.Alike view) (units.perform path steps).2
        (units'.perform path steps').2 := by
  have hrun := (h.writer path).run hsteps
  unfold Units.perform
  generalize (units.writer path).run steps = outcome, (units'.writer path).run steps' = outcome'
    at hrun
  cases hrun with
  | done hwriter =>
    exact ⟨{ h with writers := forall₂_put h.writers path hwriter }, .none⟩
  | stopped hwriter hfailure =>
    exact ⟨{ h with writers := forall₂_put h.writers path hwriter }, .some hfailure⟩

end Units.Alike

theorem Units.pathOf_agree {symbol symbol' : Symbol} (h : symbol.Alike view symbol') :
    pathOf symbol = pathOf symbol' := by
  rw [pathOf, pathOf, h.unit?, h.fullName]

/-! ## Writing -/

/-- The states of two runs look alike. -/
structure Emission.Alike (view : View) (emission emission' : Emission) : Prop where
  units : emission.units.Alike view emission'.units
  table : emission.table.Alike view emission'.table
  failure : Option.Rel (Failure.Alike view) emission.failure emission'.failure

namespace Emission

variable {context context' : Context} {emission emission' : Emission}

/-- Two stages keep states alike. -/
def AlikeNext (view : View) (next next' : Emission → Emission) : Prop :=
  ∀ emission emission' : Emission, emission.Alike view emission' →
    (next emission).Alike view (next' emission')

theorem Alike.fail (h : emission.Alike view emission') {failure failure' : Failure}
    (hfailure : failure.Alike view failure') :
    Alike view { emission with failure := some failure }
      { emission' with failure := some failure' } :=
  ⟨h.units, h.table, .some hfailure⟩

theorem Alike.andThen (h : emission.Alike view emission') {next next' : Emission → Emission}
    (hnext : AlikeNext view next next') :
    (emission.andThen next).Alike view (emission'.andThen next') := by
  obtain ⟨units, table, failure⟩ := emission
  obtain ⟨units', table', failure'⟩ := emission'
  cases h.failure with
  | none => exact hnext _ _ h
  | some hfailure => exact h

theorem Alike.withValue (h : emission.Alike view emission') {α β : Type} {R : α → β → Prop}
    {value : Except Failure α} {value' : Except Failure β} {next : α → Emission → Emission}
    {next' : β → Emission → Emission} (hvalue : Agree (Failure.Alike view) R value value')
    (hnext : ∀ a b, R a b → AlikeNext view (next a) (next' b)) :
    (emission.withValue value next).Alike view (emission'.withValue value' next') := by
  cases hvalue with
  | ok hvalue => exact hnext _ _ hvalue _ _ h
  | error hfailure => exact h.fail hfailure

theorem Alike.forEach {α β : Type} {R : α → β → Prop} {values : List α} {values' : List β}
    {next : α → Emission → Emission} {next' : β → Emission → Emission}
    (hvalues : List.Forall₂ R values values')
    (hnext : ∀ a b, R a b → AlikeNext view (next a) (next' b))
    (h : emission.Alike view emission') :
    (emission.forEach values next).Alike view (emission'.forEach values' next') := by
  unfold Emission.forEach
  induction hvalues generalizing emission emission' with
  | nil => exact h
  | cons hvalue _ ih => exact ih (h.andThen (hnext _ _ hvalue))

theorem perform_alike (path : String) {steps steps' : List Step}
    (hsteps : Step.seenAll view steps = Step.seenAll view steps') :
    AlikeNext view (perform path steps) (perform path steps') := by
  intro emission emission' h
  obtain ⟨hunits, hfailure⟩ := h.units.perform path hsteps
  exact ⟨hunits, h.table, hfailure⟩

theorem withSymbol_alike (hcontext : context.Alike view P context') {shape shape' : Shape}
    (hpair : P shape shape') {next next' : Symbol → Emission → Emission}
    (hnext : ∀ symbol symbol', symbol.Alike view symbol' →
      AlikeNext view (next symbol) (next' symbol')) :
    AlikeNext view (withSymbol context shape next) (withSymbol context' shape' next') := by
  intro emission emission' h
  have hfound := hcontext.resolve_agree h.table hpair
  unfold withSymbol
  generalize context.resolve emission.table shape = found,
    context'.resolve emission'.table shape' = found' at hfound
  cases hfound with
  | ok hfound => exact hnext _ _ hfound.1 _ _ { h with table := hfound.2 }
  | error hfailure => exact h.fail hfailure

theorem writeMiddleware_alike (path : String) (middleware : Except Failure Middleware)
    {operation operation' : Shape} (hpair : P operation operation')
    (htype : operation.type = .operation) {body body' : HandlerBody}
    (hbody : body.Alike view P body') :
    AlikeNext view (writeMiddleware path middleware operation body)
      (writeMiddleware path middleware operation' body') := by
  intro emission emission' h
  refine h.withValue (Failure.Alike.agree_self _) fun middleware _ heq => ?_
  subst heq
  refine perform_alike path ?_
  simp [Middleware.steps, hbody hpair htype middleware]

section

variable (hcontext : context.Alike view P context')
include hcontext

theorem declare_alike {generator : Generator} {shape shape' : Shape} (hpair : P shape shape')
    (htakes : generator.takes shape = true) :
    AlikeNext view (declare context generator shape) (declare context' generator shape') := by
  refine withSymbol_alike hcontext hpair fun symbol symbol' hsymbol emission emission' h => ?_
  rw [Units.pathOf_agree hsymbol]
  refine h.withValue (Failure.Alike.agree_self _) fun path _ hpath emission emission' h => ?_
  subst hpath
  obtain ⟨hsteps, htable⟩ := Generator.declare_alike hcontext hpair htakes _ _ h.table
  exact perform_alike path hsteps _ _ { h with table := htable }

theorem declareAll_alike (generators : GeneratorRegistry) {shapes shapes' : List Shape}
    (hshapes : List.Forall₂ P shapes shapes') :
    AlikeNext view (declareAll context generators shapes)
      (declareAll context' generators shapes') := by
  intro emission emission' h
  refine Alike.forEach hshapes (fun shape shape' hpair emission emission' h => ?_) h
  have hsame : generators.forShape? shape = generators.forShape? shape' := by
    simp only [GeneratorRegistry.forShape?, (hcontext.models.alike hpair).takes]
  rw [← hsame]
  split
  · rename_i generator hgenerator
    obtain ⟨entry, hentry, rfl⟩ := Option.map_eq_some_iff.1 hgenerator
    have htakes := List.find?_some hentry
    exact declare_alike hcontext hpair htakes _ _ h
  · exact h

theorem bodies?_rel (protocol : String) :
    Option.Rel (ProtocolBodies.Alike view P) (bodies? context protocol)
      (bodies? context' protocol) := by
  refine rel_find? (List.rel_filterMap (R := Integration.Alike view P) ?_ hcontext.matching) ?_
  · exact fun integration integration' hintegration => hintegration.bodies
  · exact fun bodies bodies' hbodies => by rw [hbodies.protocol]

theorem writeOperation_alike {bodies bodies' : ProtocolBodies}
    (hbodies : bodies.Alike view P bodies') {operation operation' : Shape}
    (hpair : P operation operation')
    (htype : operation.type = .operation) :
    AlikeNext view (writeOperation context bodies operation)
      (writeOperation context' bodies' operation') := by
  refine withSymbol_alike hcontext hpair fun symbol symbol' hsymbol emission emission' h => ?_
  have hname : bodies.name = bodies'.name := by
    rw [ProtocolBodies.name, ProtocolBodies.name, hbodies.protocol]
  dsimp only
  rw [hname, hsymbol.name]
  exact Alike.andThen
    (writeMiddleware_alike _ _ hpair htype hbodies.serialize _ _ h)
    (writeMiddleware_alike _ _ hpair htype hbodies.deserialize)

theorem writeProtocol_alike (protocol : Option String) {shapes shapes' : List Shape}
    (hshapes : List.Forall₂ P shapes shapes') :
    AlikeNext view (writeProtocol context protocol shapes)
      (writeProtocol context' protocol shapes') := by
  intro emission emission' h
  have hbodies : Option.Rel (ProtocolBodies.Alike view P) (protocol.bind (bodies? context))
      (protocol.bind (bodies? context')) := by
    cases protocol with
    | none => exact .none
    | some protocol => exact bodies?_rel hcontext protocol
  have hoperations : List.Forall₂ (fun operation operation' => P operation operation' ∧
      operation.type = .operation) (shapes.filter (·.type == .operation))
      (shapes'.filter (·.type == .operation)) := by
    have hfilter : List.Forall₂ P (shapes.filter (·.type == .operation))
        (shapes'.filter (·.type == .operation)) := by
      refine List.rel_filter ?_ hshapes
      intro shape shape' hpair
      dsimp only
      rw [(hcontext.models.alike hpair).type]
    exact forall₂_imp_of_mem hfilter fun operation hoperation _ _ hpair =>
      ⟨hpair, eq_of_beq (List.mem_filter.1 hoperation).2⟩
  unfold writeProtocol
  generalize protocol.bind (bodies? context) = found, protocol.bind (bodies? context') = found'
    at hbodies
  cases hbodies with
  | none => exact h
  | some hbodies =>
    exact Alike.forEach hoperations (fun operation operation' hpair =>
      writeOperation_alike hcontext hbodies hpair.1 hpair.2) h

theorem writePackageDocs_alike :
    AlikeNext view (writePackageDocs context) (writePackageDocs context') := by
  refine perform_alike docUnit ?_
  cases view with
  | code => rfl
  | files =>
    have hservice := hcontext.models.alike hcontext.service
    have hsettings : context.settings = context'.settings := hcontext.settings
    have hdocumentation : context.service.documentation = context'.service.documentation :=
      hservice.documentation
    rw [packageText, packageText, hsettings, hdocumentation,
      hservice.trait? Trait.title (by decide) (by decide)]

/-- **Two runs write alike.** -/
theorem of_alike (generators : GeneratorRegistry) (protocol : Option String)
    {shapes shapes' : List Shape} (hshapes : List.Forall₂ P shapes shapes') :
    AlikeNext view (Emission.of context generators protocol shapes)
      (Emission.of context' generators protocol shapes') :=
  fun _ _ h => ((declareAll_alike hcontext generators hshapes _ _ h).andThen
    (writeProtocol_alike hcontext protocol hshapes)).andThen (writePackageDocs_alike hcontext)

end

end Emission

/-! ## Finishing -/

/-- The files of two runs look alike: they have the same paths and contents that look alike, and the
manifest of the module is the same. -/
structure Manifest.Alike (view : View) (manifest manifest' : Manifest) : Prop where
  files : List.Forall₂ (fun file file' => file.1 = file'.1 ∧
    view.lines [file.2] = view.lines [file'.2]) manifest.entries manifest'.entries
  module : manifest.get? moduleUnit = manifest'.get? moduleUnit

namespace Manifest

variable {manifest manifest' : Manifest}

/-- Two lists of files look alike. -/
def AlikeFiles (view : View) (files files' : List (String × String)) : Prop :=
  List.Forall₂ (fun file file' => file.1 = file'.1 ∧ view.lines [file.2] = view.lines [file'.2])
    files files'

theorem add_agree (h : AlikeFiles view manifest.entries manifest'.entries) (path : String)
    {content content' : String} (hcontent : view.lines [content] = view.lines [content']) :
    Agree Eq (fun manifest manifest' => AlikeFiles view manifest.entries manifest'.entries)
      (manifest.add path content) (manifest'.add path content') := by
  have hhas := has_eq_of_forall₂ (R := fun content content' => view.lines [content]
    = view.lines [content']) h path
  rw [add, add, hhas]
  split
  · exact .error rfl
  · exact .ok (List.rel_append h (.cons ⟨rfl, hcontent⟩ .nil))

theorem ofFiles_agree {files files' : List (String × String)} (h : AlikeFiles view files files') :
    Agree Eq (fun manifest manifest' => AlikeFiles view manifest.entries manifest'.entries)
      (ofFiles files) (ofFiles files') :=
  Agree.foldlM h (fun _ _ hmanifest file file' hfile => by
    rw [hfile.1]
    exact add_agree hmanifest _ hfile.2) .nil

theorem get?_add {path content : String} {added : Manifest}
    (h : manifest.add path content = .ok added) : added.get? path = some content := by
  unfold add at h
  split at h
  · simp at h
  · rename_i hnew
    rw [has_eq_isSome_lookup, Bool.not_eq_true, Option.isSome_eq_false_iff,
      Option.isNone_iff_eq_none] at hnew
    rw [← Except.ok.inj h, get?, List.lookup_append, hnew, Option.none_or, List.lookup_cons_self]

end Manifest

namespace Run

theorem requirements_eq {written written' : List Writer}
    (h : List.Forall₂ (Writer.Alike view) written written') :
    requirements written = requirements written' := by
  have hlists : (written.flatMap fun writer => writer.imports.list)
      = written'.flatMap fun writer => writer.imports.list := by
    induction h with
    | nil => rfl
    | cons hwriter _ ih => rw [List.flatMap_cons, List.flatMap_cons, hwriter.imports, ih]
  rw [requirements, requirements, hlists]

/-- **Units that look alike are laid out alike.** -/
theorem finish_agree {settings settings' : Settings} (hsettings : settings.Alike view settings')
    {units units' : Units} (h : units.Alike view units') :
    Agree Eq (Manifest.Alike view) (finish settings units) (finish settings' units') := by
  have hsorted : List.Forall₂ (fun unit unit' => unit.1 = unit'.1 ∧ unit.2.Alike view unit'.2)
      units.sorted units'.sorted :=
    forall₂_mergeSort h.writers fun _ _ hunit _ _ hunit' => by rw [hunit.1, hunit'.1]
  have hfiles : Manifest.AlikeFiles view (units.sorted.map fun unit => (unit.1, unit.2.toText))
      (units'.sorted.map fun unit => (unit.1, unit.2.toText)) := by
    rw [Manifest.AlikeFiles, List.forall₂_map_left_iff, List.forall₂_map_right_iff]
    exact hsorted.imp fun _ _ hunit => ⟨hunit.1, hunit.2.toText⟩
  have hrequirements : requirements (units.sorted.map Prod.snd)
      = requirements (units'.sorted.map Prod.snd) := by
    have hwriters : List.Forall₂ (Writer.Alike view) (units.sorted.map Prod.snd)
        (units'.sorted.map Prod.snd) := by
      rw [List.forall₂_map_left_iff, List.forall₂_map_right_iff]
      exact hsorted.imp fun _ _ hunit => hunit.2
    exact requirements_eq hwriters
  have hversion : settings.goVersion = settings'.goVersion :=
    hsettings.congr Settings.goVersion fun _ => rfl
  unfold finish
  refine (Manifest.ofFiles_agree hfiles).bind fun manifest manifest' hmanifest => ?_
  rw [hrequirements, hversion, hsettings.modulePath]
  have hadd := Manifest.add_agree hmanifest moduleUnit (rfl : view.lines [Layout.moduleManifest
    settings'.modulePath settings'.goVersion.text (requirements (units'.sorted.map Prod.snd))] = _)
  generalize hadded : manifest.add _ _ = added at hadd ⊢
  generalize hadded' : manifest'.add _ _ = added' at hadd ⊢
  cases hadd with
  | error hfailure => exact .error hfailure
  | ok hfiles =>
    exact .ok ⟨hfiles, (Manifest.get?_add hadded).trans (Manifest.get?_add hadded').symm⟩

/-! ## Runs -/

section

variable {context context' : Context} (hcontext : context.Alike view P context')
include hcontext

theorem reserveShape_agree {table table' : SymbolTable} (htable : table.Alike view table')
    {shape shape' : Shape} (hpair : P shape shape') :
    Agree (Failure.Alike view) (SymbolTable.Alike view) (reserveShape context table shape)
      (reserveShape context' table' shape') := by
  have halike := hcontext.models.alike hpair
  unfold reserveShape
  refine (hcontext.resolve_agree htable hpair).bind fun found found' hfound => ?_
  obtain ⟨symbol, table⟩ := found
  obtain ⟨symbol', table'⟩ := found'
  obtain ⟨hsymbol, htable⟩ := hfound
  simp only [halike.isEnum, halike.isAggregate]
  split
  · refine halike.enumValues.bind fun values values' hvalues => ?_
    rw [hsymbol.name]
    refine (EnumValue.labels_agree hvalues).bind fun labels labels' hlabels => ?_
    refine (Agree.foldlM (F := Eq) hlabels
      (fun table table' htable labelled labelled' hlabelled => ?_) htable).mapError
        fun _ _ hclash => hclash ▸ rfl
    rw [hsymbol.scope, halike.id, hlabelled.1, hlabelled.2.owner]
    exact htable.claim_agree _ _ _
  · split
    · exact (halike.fields_agree.mapError (G := Failure.Alike view)
        fun _ _ hclash => hclash ▸ rfl).bind fun _ _ _ => .ok htable
    · exact .ok htable

/-- **Two runs start alike**, given closures that list pairs of shapes. -/
theorem start_agree
    (hclosure : Agree (Failure.Alike view) (List.Forall₂ P)
      (context.model.closure context.service.id) (context'.model.closure context'.service.id))
    (hindent : ∀ text, context.settings.indent = .ok text → view.Indents text) :
    Agree (Failure.Alike view) (fun started started' => List.Forall₂ P started.1 started'.1 ∧
      started.2.Alike view started'.2) (start context) (start context') := by
  have hsettings := hcontext.settings
  have hsame : context.settings.indent = context'.settings.indent :=
    hsettings.congr Settings.indent fun _ => rfl
  have hpackage : context.settings.packageName = context'.settings.packageName :=
    hsettings.congr Settings.packageName fun _ => rfl
  have hshapes : Agree (Failure.Alike view) (List.Forall₂ P) (shapes context)
      (shapes context') := by
    refine hclosure.bind fun closure closure' hclosure => .ok (List.rel_filter ?_ hclosure)
    intro shape shape' hpair
    dsimp only
    rw [(hcontext.models.alike hpair).isBuiltin]
  unfold start
  refine hshapes.bind fun shapes shapes' hshapes => ?_
  refine (Agree.foldlM (R := SymbolTable.Alike view) hshapes
    (fun _ _ htable _ _ hpair => reserveShape_agree hcontext htable hpair) ⟨.nil, rfl⟩).bind
      fun table table' htable => ?_
  rw [← hsame]
  cases hfound : context.settings.indent with
  | error failure => exact .error rfl
  | ok text =>
    refine .ok ⟨hshapes, ⟨hsettings.modulePath, ?_, rfl, hindent text hfound, .nil⟩, htable, .none⟩
    simp only [noUnits, hpackage]

end

/-- **Two runs in step have results that look alike.** -/
theorem result_agree {model model' : Model} {settings settings' : Settings}
    {integrations integrations' : IntegrationRegistry} {service service' : Shape}
    {protocol : Option String} (generators : GeneratorRegistry)
    (hchosen : choose model settings = .ok (service, protocol))
    (hchosen' : choose model' settings' = .ok (service', protocol))
    (hcontext : Context.Alike view P
      { model, settings, service, integrations := integrations.integrations,
        transport := some .http }
      { model := model', settings := settings', service := service',
        integrations := integrations'.integrations, transport := some .http })
    (hclosure : Agree (Failure.Alike view) (List.Forall₂ P) (model.closure service.id)
      (model'.closure service'.id))
    (hindent : ∀ text, settings.indent = .ok text → view.Indents text) :
    Agree (Failure.Alike view) (Manifest.Alike view)
      (Run.of model settings integrations generators).result
      (Run.of model' settings' integrations' generators).result := by
  have hstart := start_agree hcontext hclosure hindent
  simp only [Run.of, hchosen, hchosen', IntegrationRegistry.close]
  generalize start _ = started at hstart ⊢
  generalize start _ = started' at hstart ⊢
  cases hstart with
  | error hfailure => exact .error hfailure
  | @ok started started' hstarted =>
    obtain ⟨shapes, emission⟩ := started
    obtain ⟨shapes', emission'⟩ := started'
    have hwritten := Emission.of_alike hcontext generators protocol hstarted.1 _ _ hstarted.2
    dsimp only at hwritten ⊢
    generalize Emission.of _ generators protocol shapes emission = written at hwritten ⊢
    generalize Emission.of _ generators protocol shapes' emission' = written' at hwritten ⊢
    obtain ⟨units, table, failure⟩ := written
    obtain ⟨units', table', failure'⟩ := written'
    cases hwritten.failure with
    | none =>
      exact (finish_agree hcontext.settings hwritten.units).imp (fun _ _ heq => heq ▸ rfl)
        fun _ _ hmanifest => hmanifest
    | some hfailure => exact .error hfailure

end Run

end ClientGen
