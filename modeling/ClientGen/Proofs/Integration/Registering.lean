import ClientGen.Generation.Run
import ClientGen.Proofs.Generation.Completion
import ClientGen.Proofs.Update

/-!
# Registering integrations, and closing the registration

A registry of integrations is filled before a run, and the run closes it: what the run generates
must not depend on what is registered while it writes.  Here registering, closing and running are
written as they act on a registry in place, and are made one after another in any order, whether
they succeed or not.

A call that closes the registry gives the integrations that it then has, and a run works with these
alone.  They are final, because a closed registry takes no integration and nothing opens it again.

## Main definitions

* `IntegrationRegistry.registerInPlace`, `closeInPlace`, `runInPlace` — what is done to a registry.
* `IntegrationRegistry.Call`, `Call.on` — the calls, and what each makes of a registry.
* `Call.Closes` — the call closes the registry: by hand, or as a run that comes past its protocol.
* `Answer.final?` — the integrations that a closing call gave.

## Main results

* `perform_registerInPlace`, `runInPlace_run` — a registry in place is the one that `register` and
  `Run.of` give.
* `ofList_eq_ok_iff` — the registry of a list.
* `Call.on_cases` — what a call does to a registry.
* `Call.on_of_isClosed` — a closed registry stays as it is.
* `registrations_hold` — what a registry holds after any calls.
-/

namespace ClientGen

namespace IntegrationRegistry

open Update Calls

variable {registry : IntegrationRegistry} {integration : Integration}

/-! ## Registering -/

/-- Adds an integration at the end, if the registry is open and the name is free. -/
def registerInPlace (integration : Integration) : Update RegistryFault IntegrationRegistry Unit := do
  if (← get).isClosed then throw (.integrationsClosed integration.name)
  if (← get).names.contains integration.name then throw (.integrationTaken integration.name)
  modify fun registry => { registry with integrations := registry.integrations ++ [integration] }

/-- **Registering in place is registering**: nothing is written unless all goes well. -/
theorem perform_registerInPlace (integration : Integration) :
    (registerInPlace integration).perform registry =
      match registry.register integration with
      | .ok next => (.ok (), next)
      | .error fault => (.error fault, registry) := by
  unfold registerInPlace register
  cases hclosed : registry.isClosed with
  | true => simp [perform_bind, perform_get, perform_throw, hclosed]
  | false =>
    by_cases htaken : registry.names.contains integration.name = true
    · simp [perform_bind, perform_get, perform_throw, hclosed, List.contains_iff_mem.1 htaken]
    · have hfree : integration.name ∉ registry.names := fun h => htaken (List.contains_iff_mem.2 h)
      simp [perform_bind, perform_get, perform_modify, hclosed, hfree]

/-- **When registering fails.** -/
theorem register_eq_error_iff {fault : RegistryFault} :
    registry.register integration = .error fault ↔
      registry.isClosed = true ∧ fault = .integrationsClosed integration.name ∨
      registry.isClosed = false ∧ integration.name ∈ registry.names ∧
        fault = .integrationTaken integration.name := by
  unfold register
  cases registry.isClosed with
  | true => simp [eq_comm]
  | false =>
    by_cases htaken : integration.name ∈ registry.names
    · simp [htaken, eq_comm]
    · simp [htaken]

theorem register_eq_ok_iff {next : IntegrationRegistry} :
    registry.register integration = .ok next ↔
      registry.isClosed = false ∧ integration.name ∉ registry.names ∧
        next = { registry with integrations := registry.integrations ++ [integration] } := by
  unfold register
  cases registry.isClosed with
  | true => simp
  | false =>
    by_cases htaken : integration.name ∈ registry.names
    · simp [htaken]
    · simp [htaken, eq_comm]

/-- **Names stay distinct** when an integration is registered. -/
theorem nodup_names_of_register {next : IntegrationRegistry}
    (h : registry.register integration = .ok next) (hnodup : registry.names.Nodup) :
    next.names.Nodup := by
  obtain ⟨-, hfree, rfl⟩ := register_eq_ok_iff.1 h
  rw [names, List.map_append, List.map_singleton, List.nodup_append]
  refine ⟨hnodup, by simp, ?_⟩
  rintro name hname _ hlast rfl
  exact hfree (List.mem_singleton.1 hlast ▸ hname)

/-- **Integrations that are registered one after another** stand behind those that were there, and
all of them are taken exactly if the names are distinct. -/
theorem foldlM_register_eq_ok_iff {list : List Integration} {next : IntegrationRegistry}
    (hopen : registry.isClosed = false) (hnodup : registry.names.Nodup) :
    list.foldlM register registry = .ok next ↔
      next = { registry with integrations := registry.integrations ++ list } ∧ next.names.Nodup := by
  induction list generalizing registry with
  | nil =>
    rw [List.append_nil]
    constructor
    · intro h
      obtain rfl : registry = next := Except.ok.inj h
      exact ⟨rfl, hnodup⟩
    · rintro ⟨rfl, -⟩
      rfl
  | cons first rest ih =>
    rw [List.foldlM_cons]
    cases hfirst : registry.register first with
    | error fault =>
      refine ⟨nofun, ?_⟩
      rintro ⟨rfl, hdistinct⟩
      rcases register_eq_error_iff.1 hfirst with ⟨hclosed, -⟩ | ⟨-, htaken, -⟩
      · exact absurd (hclosed.symm.trans hopen) nofun
      · rw [names, List.map_append, List.nodup_append] at hdistinct
        exact absurd rfl (hdistinct.2.2 first.name htaken first.name (by simp))
    | ok middle =>
      obtain ⟨-, -, hmiddle⟩ := register_eq_ok_iff.1 hfirst
      have hstill : middle.isClosed = false := by
        rw [hmiddle]
        exact hopen
      refine (ih hstill (nodup_names_of_register hfirst hnodup)).trans ?_
      rw [hmiddle, List.append_assoc, List.singleton_append]

/-- **The registry of a list** is open and holds the list; there is one exactly if no name occurs
twice. -/
theorem ofList_eq_ok_iff {built : List Integration} :
    ofList built = .ok registry ↔ registry = { integrations := built } ∧ registry.names.Nodup :=
  foldlM_register_eq_ok_iff rfl List.nodup_nil

/-! ## Closing -/

/-- Takes no more integrations, and gives those that there are. -/
def closeInPlace : StateM IntegrationRegistry (List Integration) := do
  modify fun registry => { registry with isClosed := true }
  return (← get).integrations

/-- What a run does once its integrations are final. -/
def completed (context : Context) (generators : GeneratorRegistry) (protocol : Option String) :
    Units × Except Failure Manifest :=
  match Run.start context with
  | .error failure => (Run.noUnits context.settings, .error failure)
  | .ok (shapes, emission) =>
    let emission := Emission.of context generators protocol shapes emission
    (emission.units,
      match emission.failure with
      | some failure => .error failure
      | none => Run.finish context.settings emission.units)

theorem of_eq_completed {model : Model} {settings : Settings} {generators : GeneratorRegistry}
    {service : Shape} {protocol : Option String}
    (h : Run.choose model settings = .ok (service, protocol)) :
    Run.of model settings registry generators =
      let context : Context :=
        { model, settings, service, integrations := registry.integrations, transport := some .http }
      { integrations := registry.close
        units := (completed context generators protocol).1
        result := (completed context generators protocol).2 } := by
  simp only [Run.of, completed, close, h]
  cases Run.start { model, settings, service, integrations := registry.integrations } <;> rfl

/-- What is given by a call on a registry. -/
inductive Answer where
  | registered (result : Except RegistryFault Unit)
  | closed (integrations : List Integration)
  /-- A run gives its units and its result, and has closed the registry if it came that far. -/
  | ran (closed? : Option (List Integration)) (units : Units) (result : Except Failure Manifest)

/-- The integrations that a closing call gave. -/
def Answer.final? : Answer → Option (List Integration)
  | registered _ => none
  | closed integrations => some integrations
  | ran closed? _ _ => closed?

/-- A run, which closes the registry as soon as it has chosen its service and protocol, and then
works with the integrations that closing gave. -/
def runInPlace (model : Model) (settings : Settings) (generators : GeneratorRegistry) :
    StateM IntegrationRegistry Answer := do
  match Run.choose model settings with
  | .error failure => return .ran none (Run.noUnits settings) (.error failure)
  | .ok (service, protocol) =>
    -- From here on the run sees what closing gave, and not the registry.
    let integrations ← closeInPlace
    let (units, result) := completed
      { model, settings, service, integrations, transport := some .http } generators protocol
    return .ran (some integrations) units result

/-- **A run in place is a run.** -/
theorem runInPlace_run {model : Model} {settings : Settings} {generators : GeneratorRegistry} :
    ((runInPlace model settings generators).run registry).run =
      (.ran ((Run.choose model settings).toOption.map fun _ => registry.integrations)
        (Run.of model settings registry generators).units
        (Run.of model settings registry generators).result,
      (Run.of model settings registry generators).integrations) := by
  unfold runInPlace
  cases hchoose : Run.choose model settings with
  | error failure =>
    simp only [Run.of, hchoose]
    rfl
  | ok chosen =>
    rw [of_eq_completed hchoose]
    rfl

/-! ## Calls -/

/-- A call on a registry. -/
inductive Call where
  | register (integration : Integration)
  | close
  | run (model : Model) (settings : Settings) (generators : GeneratorRegistry)

namespace Call

/-- What a call gives, and the registry that it leaves behind. -/
def on (call : Call) (registry : IntegrationRegistry) : Answer × IntegrationRegistry :=
  match call with
  | register integration =>
    ((registerInPlace integration).perform registry).map .registered id
  | close => ((closeInPlace.run registry).run).map .closed id
  | run model settings generators => ((runInPlace model settings generators).run registry).run

/-- The call closes the registry: by hand, or as a run that comes past its protocol. -/
def Closes : Call → Prop
  | register _ => False
  | close => True
  | run model settings _ => ∃ chosen, Run.choose model settings = .ok chosen

variable {call : Call}

theorem on_register : (register integration).on registry =
    match registry.register integration with
    | .ok next => (.registered (.ok ()), next)
    | .error fault => (.registered (.error fault), registry) := by
  rw [on, perform_registerInPlace]
  cases registry.register integration <;> rfl

/-- A run that comes past its protocol does to the registry what closing by hand does. -/
theorem on_run {model : Model} {settings : Settings} {generators : GeneratorRegistry} :
    ((run model settings generators).on registry).1.final?
      = ((Run.choose model settings).toOption.map fun _ => registry.integrations) ∧
    ((run model settings generators).on registry).2
      = if (Run.choose model settings).toOption.isSome then registry.close else registry := by
  rw [on, runInPlace_run]
  refine ⟨rfl, ?_⟩
  cases hchoose : Run.choose model settings with
  | error failure =>
    simp only [Run.of, hchoose]
    rfl
  | ok chosen =>
    rw [of_eq_completed hchoose]
    rfl

/-- **What a call does**: it registers, closes, or leaves the registry alone. -/
theorem on_cases (call : Call) (registry : IntegrationRegistry) :
    (∃ integration next, call = register integration ∧ registry.register integration = .ok next ∧
      call.on registry = (.registered (.ok ()), next)) ∨
    (call.Closes ∧ (call.on registry).1.final? = some registry.integrations ∧
      (call.on registry).2 = registry.close) ∨
    (¬ call.Closes ∧ (call.on registry).1.final? = none ∧ (call.on registry).2 = registry ∧
      (call.on registry).1 ≠ .registered (.ok ())) := by
  cases call with
  | register integration =>
    rw [on_register]
    cases hregister : registry.register integration with
    | ok next => exact .inl ⟨integration, next, rfl, hregister, rfl⟩
    | error fault => exact .inr (.inr ⟨id, rfl, rfl, by simp⟩)
  | close => exact .inr (.inl ⟨trivial, rfl, rfl⟩)
  | run model settings generators =>
    obtain ⟨hfinal, hnext⟩ := @on_run registry model settings generators
    have hran : ((run model settings generators).on registry).1 ≠ .registered (.ok ()) := by
      rw [on, runInPlace_run]
      exact nofun
    cases hchoose : Run.choose model settings with
    | ok chosen =>
      rw [hchoose] at hfinal hnext
      exact .inr (.inl ⟨⟨chosen, hchoose⟩, hfinal, hnext⟩)
    | error failure =>
      rw [hchoose] at hfinal hnext
      refine .inr (.inr ⟨?_, hfinal, hnext, hran⟩)
      rintro ⟨chosen, hchosen⟩
      exact absurd (hchosen.symm.trans hchoose) nofun

/-- The integration that a call has added, seen from the answer to it. -/
def added? : Call × Answer → Option Integration
  | (register integration, .registered (.ok ())) => some integration
  | _ => none

/-- **A call adds what its answer says**, at the end. -/
theorem integrations_on (call : Call) (registry : IntegrationRegistry) :
    (call.on registry).2.integrations = (added? (call, (call.on registry).1)).toList.foldl
      (fun integrations integration => integrations ++ [integration]) registry.integrations := by
  rcases on_cases call registry with
    ⟨integration, next, rfl, hregister, hon⟩ | ⟨hcloses, -, hnext⟩ | ⟨-, -, hnext, hanswer⟩
  · obtain ⟨-, -, rfl⟩ := register_eq_ok_iff.1 hregister
    rw [hon]
    rfl
  · have hnone : added? (call, (call.on registry).1) = none := by
      cases call with
      | register integration => exact hcloses.elim
      | close => rfl
      | run model settings generators => rfl
    rw [hnone, hnext]
    rfl
  · have hnone : added? (call, (call.on registry).1) = none := by
      unfold added?
      split
      · rename_i heq
        exact absurd (Prod.mk.inj heq).2 hanswer
      · rfl
    rw [hnone, hnext]
    rfl

/-- **A call keeps names distinct.** -/
theorem nodup_names_on (call : Call) (registry : IntegrationRegistry) (h : registry.names.Nodup) :
    (call.on registry).2.names.Nodup := by
  rcases on_cases call registry with ⟨integration, next, -, hregister, hon⟩ | ⟨-, -, hnext⟩ |
    ⟨-, -, hnext, -⟩
  · rw [hon]
    exact nodup_names_of_register hregister h
  · rw [hnext]
    exact h
  · rw [hnext]
    exact h

theorem isClosed_on : (call.on registry).2.isClosed = true ↔
    registry.isClosed = true ∨ call.Closes := by
  rcases on_cases call registry with ⟨integration, next, rfl, hregister, hon⟩ |
    ⟨hcloses, -, hnext⟩ | ⟨hcloses, -, hnext, -⟩
  · obtain ⟨hopen, -, rfl⟩ := register_eq_ok_iff.1 hregister
    rw [hon]
    simp [hopen, Closes]
  · rw [hnext]
    simp [IntegrationRegistry.close, hcloses]
  · rw [hnext]
    simp [hcloses]

/-- **A closed registry stays as it is.** -/
theorem on_of_isClosed (h : registry.isClosed = true) : (call.on registry).2 = registry := by
  rcases on_cases call registry with ⟨integration, next, -, hregister, -⟩ | ⟨-, -, hnext⟩ |
    ⟨-, -, hnext, -⟩
  · obtain ⟨hopen, -⟩ := register_eq_ok_iff.1 hregister
    exact absurd (h.symm.trans hopen) nofun
  · rw [hnext, IntegrationRegistry.close, ← h]
  · exact hnext

theorem final?_on : (∃ integrations, (call.on registry).1.final? = some integrations) ↔
    call.Closes := by
  rcases on_cases call registry with ⟨integration, next, rfl, -, hon⟩ | ⟨hcloses, hfinal, -⟩ |
    ⟨hcloses, hfinal, -⟩
  · simp [hon, Answer.final?, Closes]
  · simp [hfinal, hcloses]
  · simp [hfinal, hcloses]

/-- A call that gives the final integrations leaves them behind in a closed registry. -/
theorem on_of_final? {integrations : List Integration}
    (h : (call.on registry).1.final? = some integrations) :
    (call.on registry).2 = { integrations, isClosed := true } := by
  rcases on_cases call registry with ⟨integration, next, rfl, -, hon⟩ | ⟨-, hfinal, hnext⟩ |
    ⟨-, hfinal, -⟩
  · exact absurd (h.symm.trans (congrArg (fun answer => answer.1.final?) hon)) nofun
  · obtain rfl : registry.integrations = integrations :=
      Option.some.inj (hfinal.symm.trans h)
    exact hnext
  · exact absurd (h.symm.trans hfinal) nofun

end Call

variable {calls : List Call}

theorem isClosed_after : (after Call.on registry calls).isClosed = true ↔
    registry.isClosed = true ∨ ∃ call ∈ calls, call.Closes := by
  induction calls generalizing registry with
  | nil => simp [after]
  | cons call rest ih => rw [after, ih, Call.isClosed_on, List.exists_mem_cons_iff, or_assoc]

theorem after_of_isClosed (h : registry.isClosed = true) :
    after Call.on registry calls = registry := by
  induction calls with
  | nil => rfl
  | cons call rest ih => rw [after, Call.on_of_isClosed h, ih]

theorem integrations_after : (after Call.on registry calls).integrations
    = registry.integrations ++ (history Call.on registry calls).filterMap Call.added? := by
  rw [after_eq_foldl IntegrationRegistry.integrations Call.integrations_on]
  generalize (history Call.on registry calls).filterMap Call.added? = added
  generalize registry.integrations = list
  induction added generalizing list with
  | nil => simp
  | cons first rest ih => rw [List.foldl_cons, ih, List.append_assoc, List.singleton_append]

/-- **What a registry holds.**  There is a registry of a list if no name occurs in it twice.  Take
any calls on it, to register, to close or to run.  Its names are distinct, and its integrations are
those of the list and behind them those whose registration succeeded, in their order.  It is closed
if one of the calls closes it.  Registering fails exactly if the registry is closed or the name is
taken, and leaves the registry as it was.  A call that closes the registry gives its final
integrations: every later state of the registry holds these, and takes no others.  Runs are among
the calls: one that comes past its protocol closes the registry and works with the integrations that
closing gave. -/
theorem registrations_hold (built : List Integration) :
    ((∃ start, ofList built = .ok start) ↔ (built.map (·.name)).Nodup) ∧
    ∀ start (calls : List Call), ofList built = .ok start →
      let state := after Call.on start calls
      state.names.Nodup ∧
      state.integrations = built ++ (history Call.on start calls).filterMap Call.added? ∧
      (state.isClosed = true ↔ ∃ call ∈ calls, call.Closes) ∧
      (∀ integration,
        ((∃ fault, ((registerInPlace integration).perform state).1 = .error fault) ↔
          state.isClosed = true ∨ integration.name ∈ state.names) ∧
        ∀ fault, ((registerInPlace integration).perform state).1 = .error fault →
          ((registerInPlace integration).perform state).2 = state) ∧
      (∀ call,
        ((∃ integrations, (call.on state).1.final? = some integrations) ↔ call.Closes) ∧
        ∀ integrations later, (call.on state).1.final? = some integrations →
          after Call.on start (calls ++ call :: later) = { integrations, isClosed := true }) ∧
      ∀ model settings generators,
        ((runInPlace model settings generators).run state).run =
          (.ran ((Run.choose model settings).toOption.map fun _ => state.integrations)
            (Run.of model settings state generators).units
            (Run.of model settings state generators).result,
          (Run.of model settings state generators).integrations) := by
  constructor
  · simp [ofList_eq_ok_iff, names]
  · intro start calls h state
    obtain ⟨rfl, hnodup⟩ := ofList_eq_ok_iff.1 h
    refine ⟨invariant Call.nodup_names_on hnodup, integrations_after, ?_, ?_, ?_,
      fun _ _ _ => runInPlace_run⟩
    · simp [state, isClosed_after]
    · intro integration
      rw [perform_registerInPlace]
      cases hregister : state.register integration with
      | ok next =>
        obtain ⟨hopen, hfree, -⟩ := register_eq_ok_iff.1 hregister
        simp [hopen, hfree]
      | error fault =>
        have hcause : state.isClosed = true ∨ integration.name ∈ state.names :=
          (register_eq_error_iff.1 hregister).imp And.left fun hcause => hcause.2.1
        exact ⟨⟨fun _ => hcause, fun _ => ⟨fault, rfl⟩⟩, fun _ _ => rfl⟩
    · intro call
      refine ⟨Call.final?_on, fun integrations later hfinal => ?_⟩
      rw [after_append, after, Call.on_of_final? hfinal]
      exact after_of_isClosed rfl

/-! ## A registration that comes too late -/

namespace Workshop

def retries : Integration where
  name := "retries"

def regions : Integration where
  name := "regions"

def service : Shape where
  id := { ns := "a", name := "Svc" }
  type := .service

def settings : Settings where
  moduleName := .str "m"
  service := .str "a#Svc"
  packageName := .str "m"

/-- A name is free, then it is taken. -/
def before : List Call :=
  [.register regions, .register { regions with condition := .constant false }]

def run : Call :=
  .run (.ofShapes [service]) settings .standard

theorem choose_eq : Run.choose (.ofShapes [service]) settings = .ok (service, none) :=
  Run.choose_of_protocolsAmong_eq_nil rfl rfl rfl rfl

end Workshop

/-- A run closes the registry, so that the last registration fails. -/
theorem registrations_hold_workshop :
    ofList [Workshop.retries] = .ok { integrations := [Workshop.retries] } ∧
      after Call.on { integrations := [Workshop.retries] }
        (Workshop.before ++ Workshop.run :: [.register { name := "late" }])
          = { integrations := [Workshop.retries, Workshop.regions], isClosed := true } := by
  have hlist : ofList [Workshop.retries] = .ok { integrations := [Workshop.retries] } := rfl
  obtain ⟨-, hheld, -, -, hcalls, -⟩ :=
    (registrations_hold [Workshop.retries]).2 _ Workshop.before hlist
  have hfinal : (Workshop.run.on (after Call.on { integrations := [Workshop.retries] }
      Workshop.before)).1.final? = some [Workshop.retries, Workshop.regions] := by
    rw [Workshop.run, Call.on_run.1, Workshop.choose_eq]
    exact congrArg some hheld
  exact ⟨hlist, (hcalls Workshop.run).2 _ _ hfinal⟩

end IntegrationRegistry

end ClientGen
