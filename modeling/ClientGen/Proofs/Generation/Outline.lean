import ClientGen.Generation.Run
import ClientGen.Proofs.Generation.Generator

/-!
# The outline of a run

A run threads units, a symbol table and a failure through its stages.  Its outline says what it
writes without any of them: a list of passages, each the steps that are performed in the unit of a
path at one go, with every symbol taken from the provider.  A run that succeeds has performed just
its outline (`Performs`), so statements about generated files become statements about passages.

## Main definitions

* `Passage`, `Outline` — what is written where, and for which run.
* `Outline.of` — the outline of the run for a model, settings and integrations.
* `Outline.stepsAt`, `Outline.unit` — what one unit is written from, and the unit after that.

## Main results

* `Emission.performs_of` — writing all units performs the passages of the outline.
-/

namespace ClientGen

/-- Steps that are performed in the unit of a path at one go. -/
structure Passage where
  path : String
  steps : List Step

namespace Passage

/-- The steps of the passages for one path. -/
def stepsAt (passages : List Passage) (path : String) : List Step :=
  (passages.filter (·.path == path)).flatMap steps

theorem stepsAt_append (first second : List Passage) (path : String) :
    stepsAt (first ++ second) path = stepsAt first path ++ stepsAt second path := by
  simp [stepsAt]

/-- The declaration of a shape in the unit of its symbol; none if no generator takes the shape. -/
def ofShape (context : Context) (generators : GeneratorRegistry) (shape : Shape) :
    Except Failure (List Passage) :=
  match generators.forShape? shape with
  | none => .ok []
  | some generator => do
    let path ← Units.pathOf (← context.symbolOf shape)
    return [{ path, steps := ← generator.steps context shape }]

/-- The declaration of a middleware for an operation. -/
def ofMiddleware (path : String) (middleware : Except Failure Middleware) (operation : Shape)
    (body : HandlerBody) : Except Failure (List Passage) := do
  let middleware ← middleware
  return [{ path, steps := middleware.steps [] (body.steps operation middleware) }]

/-- The middleware that writes the requests of an operation. -/
def serializer (bodies : ProtocolBodies) (name : String) : Except Failure Middleware :=
  Middleware.ofStage .serialize (some (bodies.name ++ "_serializeOp" ++ name))

/-- The middleware that reads the responses of an operation. -/
def deserializer (bodies : ProtocolBodies) (name : String) : Except Failure Middleware :=
  Middleware.ofStage .deserialize (some (bodies.name ++ "_deserializeOp" ++ name))

/-- The declarations of the two middlewares of an operation. -/
def ofOperation (context : Context) (bodies : ProtocolBodies) (operation : Shape) :
    Except Failure (List Passage) := do
  let symbol ← context.symbolOf operation
  let first ← ofMiddleware serializersUnit (serializer bodies symbol.name) operation
    bodies.serialize
  let second ← ofMiddleware deserializersUnit (deserializer bodies symbol.name) operation
    bodies.deserialize
  return first ++ second

/-- The declarations of the middleware of a protocol. -/
def ofProtocol (context : Context) (protocol : Option String) (shapes : List Shape) :
    Except Failure (List Passage) :=
  match protocol.bind (Emission.bodies? context) with
  | none => .ok []
  | some bodies => do
    return (← (shapes.filter (·.type == .operation)).mapM (ofOperation context bodies)).flatten

/-- The documentation of the package. -/
def ofPackage (context : Context) : Passage where
  path := docUnit
  steps := [.packageDocs (.str (Emission.packageText context))]

/-- Everything that a run writes, in order. -/
def all (context : Context) (generators : GeneratorRegistry) (protocol : Option String)
    (shapes : List Shape) : Except Failure (List Passage) := do
  let declared ← shapes.mapM (ofShape context generators)
  let middleware ← ofProtocol context protocol shapes
  return declared.flatten ++ middleware ++ [ofPackage context]

end Passage

/-- A run, its shapes and its passages. -/
structure Outline where
  context : Context
  protocol : Option String
  /-- The shapes of the closure, built-in ones left out. -/
  shapes : List Shape
  indentText : String
  passages : List Passage

namespace Outline

/-- The outline of the run for the service of some settings. -/
def of (model : Model) (settings : Settings) (integrations : IntegrationRegistry)
    (generators : GeneratorRegistry := .standard) : Except Failure Outline := do
  let (service, protocol) ← Run.choose model settings
  let context : Context :=
    { model, settings, service, integrations := integrations.integrations, transport := some .http }
  let shapes ← Run.shapes context
  let indentText ← settings.indent
  return {
    context, protocol, shapes, indentText
    passages := ← Passage.all context generators protocol shapes }

variable (outline : Outline)

/-- The paths of the units. -/
def paths : List String :=
  outline.passages.map Passage.path

/-- What the unit of a path is written from. -/
def stepsAt (path : String) : List Step :=
  Passage.stepsAt outline.passages path

/-- The unit of a path before anything is written. -/
def blank (path : String) : Writer :=
  (Run.noUnits outline.context.settings outline.indentText).fresh path

/-- The finished unit of a path. -/
def unit (path : String) : Writer :=
  ((outline.blank path).run (outline.stepsAt path)).1

end Outline

/-! ## Units -/

/-- Units that passages were performed in, from units that nothing was written to. -/
structure Units.Holds (start : Units) (passages : List Passage) (units : Units) : Prop where
  fresh : ∀ path, units.fresh path = start.fresh path
  writer : ∀ path, units.writer path = ((start.fresh path).run (Passage.stepsAt passages path)).1
  runs : ∀ path, ((start.fresh path).run (Passage.stepsAt passages path)).2 = none
  mem_keys : ∀ path, path ∈ Entries.keys units.writers ↔ path ∈ passages.map Passage.path
  nodup : (Entries.keys units.writers).Nodup

namespace Units

variable {start units : Units} {passages : List Passage}

theorem holds_start (h : start.writers = []) : start.Holds [] start where
  fresh _ := rfl
  writer path := by simp [writer, h, Passage.stepsAt, Writer.run]
  runs path := by simp [Passage.stepsAt, Writer.run]
  mem_keys path := by simp [h, Entries.keys]
  nodup := by simp [h, Entries.keys]

/-- The units that are there are those of the passages. -/
theorem Holds.lookup (h : start.Holds passages units) (path : String) :
    units.writers.lookup path
      = if path ∈ passages.map Passage.path then
          some ((start.fresh path).run (Passage.stepsAt passages path)).1
        else none := by
  have hwriter := h.writer path
  have hmem := h.mem_keys path
  rw [Units.writer] at hwriter
  cases hlookup : units.writers.lookup path with
  | some found =>
    rw [hlookup, Option.getD_some] at hwriter
    rw [if_pos (hmem.1 (List.mem_map.2 ⟨_, Entries.lookup_eq_some_iff_mem h.nodup |>.1 hlookup,
      rfl⟩)), hwriter]
  | none =>
    rw [if_neg]
    intro hpath
    obtain ⟨entry, hentry, rfl⟩ := List.mem_map.1 (hmem.2 hpath)
    rw [(Entries.lookup_eq_some_iff_mem h.nodup).2 hentry] at hlookup
    simp at hlookup

theorem writer_perform (units : Units) (path other : String) (steps : List Step) :
    (units.perform path steps).1.writer other
      = if other = path then ((units.writer path).run steps).1 else units.writer other := by
  have hfresh : (units.perform path steps).1.fresh other = units.fresh other := rfl
  rw [writer, hfresh]
  simp only [perform]
  split
  · rename_i heq
    rw [heq, Entries.lookup_put_self]
    rfl
  · rename_i hne
    rw [Entries.lookup_put_of_ne hne]
    rfl

/-- **Steps that succeed in a unit add a passage.** -/
theorem Holds.perform {path : String} {steps : List Step} (h : start.Holds passages units)
    (hok : (units.perform path steps).2 = none) :
    start.Holds (passages ++ [⟨path, steps⟩]) (units.perform path steps).1 := by
  have hat : ∀ other, Passage.stepsAt (passages ++ [⟨path, steps⟩]) other
      = Passage.stepsAt passages other ++ if path == other then steps else [] := by
    intro other
    rw [Passage.stepsAt_append]
    congr 1
    by_cases heq : path = other <;> simp [Passage.stepsAt, heq]
  have hrun : ((start.fresh path).run (Passage.stepsAt passages path ++ steps)).2 = none := by
    rw [Writer.run_append, Writer.Outcome.andThen, h.runs path]
    simp only [Units.perform, h.writer path] at hok
    exact hok
  refine ⟨h.fresh, ?_, ?_, ?_, Entries.nodup_keys_put _ _ h.nodup⟩
  · intro other
    rw [writer_perform, hat]
    split
    · rename_i heq
      rw [heq, beq_self_eq_true, if_pos rfl, (Writer.run_append_eq hrun).2, h.writer path]
    · rename_i hne
      have hne' : (path == other) = false := by simpa using Ne.symm hne
      rw [hne', h.writer other]
      simp
  · intro other
    rw [hat]
    by_cases heq : path = other
    · subst heq
      rwa [beq_self_eq_true, if_pos rfl]
    · have hne : (path == other) = false := by simpa using heq
      rw [hne]
      simpa using h.runs other
  · intro other
    have hkeys : Entries.keys (units.perform path steps).1.writers
        = if path ∈ Entries.keys units.writers then Entries.keys units.writers
          else Entries.keys units.writers ++ [path] := Entries.keys_put _ _ _
    rw [hkeys, List.map_append, List.mem_append, ← h.mem_keys other]
    split
    · rename_i hmem
      simp only [List.map_cons, List.map_nil, List.mem_singleton]
      exact ⟨.inl, fun hor => hor.elim id fun heq => heq ▸ hmem⟩
    · simp

end Units

/-! ## Stages -/

namespace Emission

/-- Passages were performed, nothing failed, and the table is sound. -/
structure Holds (context : Context) (start : Units) (passages : List Passage)
    (emission : Emission) : Prop where
  failure : emission.failure = none
  units : start.Holds passages emission.units
  table : context.Knows emission.table

/-- Whenever nothing fails in a stage, it performs the passages of a plan. -/
def Performs (context : Context) (start : Units) (stage : Emission → Emission)
    (plan : Except Failure (List Passage)) : Prop :=
  ∀ passages emission, Holds context start passages emission → (stage emission).failure = none →
    ∃ more, plan = .ok more ∧ Holds context start (passages ++ more) (stage emission)

variable {context : Context} {start : Units}

theorem failure_of_andThen {emission : Emission} {stage : Emission → Emission}
    (h : (emission.andThen stage).failure = none) :
    emission.failure = none ∧ emission.andThen stage = stage emission := by
  cases hfailure : emission.failure with
  | none => exact ⟨rfl, by rw [andThen, hfailure]⟩
  | some failure =>
    rw [andThen, hfailure] at h
    simp only [hfailure] at h
    exact absurd h (by simp)

theorem performs_nothing : Performs context start (fun emission => emission) (.ok []) :=
  fun passages emission h _ => ⟨[], rfl, by simpa using h⟩

theorem performs_perform (path : String) (steps : List Step) :
    Performs context start (perform path steps) (.ok [⟨path, steps⟩]) :=
  fun _ _ h hok => ⟨_, rfl, hok, h.units.perform hok, h.table⟩

theorem Performs.andThen {first second : Emission → Emission}
    {plan plan' : Except Failure (List Passage)} (hfirst : Performs context start first plan)
    (hsecond : Performs context start second plan') :
    Performs context start (fun emission => (first emission).andThen second)
      (do return (← plan) ++ (← plan')) := by
  intro passages emission h hok
  obtain ⟨hfailure, heq⟩ := failure_of_andThen hok
  dsimp only at hok ⊢
  rw [heq] at hok ⊢
  obtain ⟨more, rfl, hmore⟩ := hfirst passages emission h hfailure
  obtain ⟨last, rfl, hlast⟩ := hsecond _ _ hmore hok
  exact ⟨more ++ last, rfl, by rwa [← List.append_assoc]⟩

theorem forEach_of_failure {α : Type} {emission : Emission} {failure : Failure} {values : List α}
    {next : α → Emission → Emission} (h : emission.failure = some failure) :
    emission.forEach values next = emission := by
  induction values with
  | nil => rfl
  | cons value rest ih =>
    rw [forEach, List.foldl_cons, andThen, h]
    exact ih

/-- **A loop performs the plans of its rounds**, one after another. -/
theorem performs_forEach {α : Type} {values : List α} {next : α → Emission → Emission}
    {plan : α → Except Failure (List Passage)}
    (h : ∀ value ∈ values, Performs context start (next value) (plan value)) :
    Performs context start (fun emission => emission.forEach values next)
      (do return (← values.mapM plan).flatten) := by
  induction values with
  | nil => exact performs_nothing
  | cons value rest ih =>
    intro passages emission hholds hok
    have hstep : emission.forEach (value :: rest) next
        = (emission.andThen (next value)).forEach rest next := rfl
    dsimp only at hok ⊢
    rw [hstep] at hok ⊢
    have hround : (emission.andThen (next value)).failure = none := by
      cases hfailure : (emission.andThen (next value)).failure with
      | none => rfl
      | some failure =>
        rw [forEach_of_failure hfailure, hfailure] at hok
        exact absurd hok (by simp)
    obtain ⟨-, heq⟩ := failure_of_andThen hround
    rw [heq] at hround hok ⊢
    obtain ⟨more, hmore, hnext⟩ :=
      h value List.mem_cons_self passages emission hholds hround
    obtain ⟨others, hothers, hlast⟩ :=
      ih (fun v hv => h v (List.mem_cons_of_mem value hv)) _ _ hnext hok
    obtain ⟨found, hfound, hflatten⟩ := bind_eq_ok.1 hothers
    obtain rfl := pure_eq_ok.1 hflatten
    refine ⟨more ++ found.flatten, ?_, by rwa [← List.append_assoc]⟩
    rw [List.mapM_cons, hmore, hfound]
    rfl

theorem performs_withValue {α : Type} {value : Except Failure α}
    {next : α → Emission → Emission} {plan : α → Except Failure (List Passage)}
    (h : ∀ a, value = .ok a → Performs context start (next a) (plan a)) :
    Performs context start (fun emission => emission.withValue value next)
      (do plan (← value)) := by
  intro passages emission hholds hok
  cases value with
  | error failure => simp [withValue] at hok
  | ok a => exact h a rfl passages emission hholds hok

theorem performs_withSymbol {shape : Shape} {next : Symbol → Emission → Emission}
    {plan : Symbol → Except Failure (List Passage)}
    (hshape : context.model.shape? shape.id = some shape)
    (h : ∀ symbol, Performs context start (next symbol) (plan symbol)) :
    Performs context start (withSymbol context shape next)
      (do plan (← context.symbolOf shape)) := by
  intro passages emission hholds hok
  unfold withSymbol at hok ⊢
  cases hresolve : context.resolve emission.table shape with
  | error failure => simp [hresolve] at hok
  | ok found =>
    obtain ⟨symbol, table⟩ := found
    simp only [hresolve] at hok ⊢
    obtain ⟨hsymbol, htable⟩ := hholds.table.resolve hshape hresolve
    obtain ⟨more, hmore, hnext⟩ :=
      h symbol passages { emission with table } ⟨hholds.failure, hholds.units, htable⟩ hok
    exact ⟨more, bind_eq_ok.2 ⟨symbol, hsymbol, hmore⟩, hnext⟩

/-! ## Stages of a run -/

theorem performs_declare (generator : Generator) {shape : Shape}
    (hshape : context.model.shape? shape.id = some shape) :
    Performs context start (declare context generator shape) (do
      let path ← Units.pathOf (← context.symbolOf shape)
      return [{ path, steps := ← generator.steps context shape }]) := by
  refine performs_withSymbol hshape fun symbol => performs_withValue fun path _ => ?_
  intro passages emission hholds hok
  rcases hdeclare : generator.declare context shape emission.table with ⟨steps, table⟩
  simp only [hdeclare] at hok ⊢
  have hrun : Step.Run steps := ⟨_, hok⟩
  obtain ⟨hsteps, htable⟩ := Generator.declare_spec hholds.table hshape hdeclare hrun
  exact ⟨[⟨path, steps⟩], bind_eq_ok.2 ⟨steps, hsteps, rfl⟩, hok, hholds.units.perform hok, htable⟩

theorem performs_declareAll (generators : GeneratorRegistry) {shapes : List Shape}
    (hshapes : ∀ shape ∈ shapes, context.model.shape? shape.id = some shape) :
    Performs context start (declareAll context generators shapes)
      (do return (← shapes.mapM (Passage.ofShape context generators)).flatten) := by
  apply performs_forEach
  intro shape hmem
  unfold Passage.ofShape
  cases generators.forShape? shape with
  | none => exact performs_nothing
  | some generator => exact performs_declare generator (hshapes shape hmem)

theorem performs_writeMiddleware (path : String) (middleware : Except Failure Middleware)
    (operation : Shape) (body : HandlerBody) :
    Performs context start (writeMiddleware path middleware operation body)
      (Passage.ofMiddleware path middleware operation body) :=
  performs_withValue fun _ _ => performs_perform path _

theorem performs_writeOperation (bodies : ProtocolBodies) {operation : Shape}
    (hshape : context.model.shape? operation.id = some operation) :
    Performs context start (writeOperation context bodies operation)
      (Passage.ofOperation context bodies operation) :=
  performs_withSymbol hshape fun _ =>
    (performs_writeMiddleware _ _ _ _).andThen (performs_writeMiddleware _ _ _ _)

theorem performs_writeProtocol (protocol : Option String) {shapes : List Shape}
    (hshapes : ∀ shape ∈ shapes, context.model.shape? shape.id = some shape) :
    Performs context start (writeProtocol context protocol shapes)
      (Passage.ofProtocol context protocol shapes) := by
  unfold writeProtocol Passage.ofProtocol
  cases protocol.bind (bodies? context) with
  | none => exact performs_nothing
  | some bodies =>
    exact performs_forEach fun operation hmem =>
      performs_writeOperation bodies (hshapes operation (List.mem_filter.1 hmem).1)

/-- **Writing all units performs the passages of the outline.** -/
theorem performs_of (generators : GeneratorRegistry) (protocol : Option String)
    {shapes : List Shape}
    (hshapes : ∀ shape ∈ shapes, context.model.shape? shape.id = some shape) :
    Performs context start (Emission.of context generators protocol shapes)
      (Passage.all context generators protocol shapes) := by
  have hdeclare : Performs context start _ _ := performs_declareAll generators hshapes
  have hstages := (hdeclare.andThen (performs_writeProtocol protocol hshapes)).andThen
    (performs_perform docUnit [.packageDocs (.str (packageText context))])
  simp only [bind_assoc, pure_bind] at hstages
  exact hstages

end Emission

end ClientGen
