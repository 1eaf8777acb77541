import ClientGen.Generation.Generator
import ClientGen.Proofs.Update

/-!
# Which generator a shape goes to

A shape goes to the first generator that takes it, so the order in which generators are registered
is a priority.  A generator that is replaced hands its place on, and a registration that fails gives
no place.  Here generators are registered in place and one after another, under any names and
whether they succeed or not; what counts as a generator is left open.

A registry is the sum of the registrations that were accepted (`entries_after`), each under the key
of its name.  A key stands where it was accepted first, and has the generator that was accepted last.

## Main definitions

* `GeneratorRegistry.registerInPlace`, `Call.on` — what is done to the entries of a registry.
* `GeneratorRegistry.accepted` — the registrations that succeeded, by key.
* `GeneratorRegistry.first?` — the generator that a shape goes to.

## Main results

* `Call.on_entries` — registering in place is `register`.
* `first?_eq_some_iff` — the earliest key whose generator takes a shape.
* `dispatch_by_place` — names, failures and dispatch after any registrations.
-/

namespace ClientGen

namespace GeneratorRegistry

open Update Calls

variable {α : Type}

/-! ## Registering -/

/-- A call to register something under a name. -/
structure Call (α : Type) where
  name : String
  /-- `none` stands for something that is no generator. -/
  candidate : Option α
  replace : Bool := false

/-- Registers a generator, unless the name is taken and the generator shall not be replaced. -/
def registerInPlace (call : Call α) : Update RegistryFault (List (String × α)) Unit := do
  match call.candidate with
  -- What is no generator is refused before the name is looked up.
  | none => throw (.notAGenerator call.name)
  | some generator =>
    if Entries.has (key call.name) (← get) && !call.replace then throw (.generatorTaken call.name)
    modify (Entries.put (key call.name) generator)

namespace Call

variable {call : Call α} {entries : List (String × α)}

/-- What a call gives, and the entries that it leaves behind. -/
def on (call : Call α) (entries : List (String × α)) :
    Except RegistryFault Unit × List (String × α) :=
  (registerInPlace call).perform entries

/-- The name is taken, in some letter case, and its generator shall stay. -/
def IsRefused (call : Call α) (entries : List (String × α)) : Prop :=
  key call.name ∈ Entries.keys entries ∧ call.replace = false

theorem has_and_not_iff :
    (Entries.has (key call.name) entries && !call.replace) = true ↔ call.IsRefused entries := by
  simp [IsRefused, Entries.has, Entries.keys]

/-- **What a call does**: it fails and leaves the entries alone, or writes its generator. -/
theorem on_cases (call : Call α) (entries : List (String × α)) :
    (call.candidate = none ∧ call.on entries = (.error (.notAGenerator call.name), entries)) ∨
    (call.IsRefused entries ∧ call.candidate ≠ none ∧
      call.on entries = (.error (.generatorTaken call.name), entries)) ∨
    ∃ generator, call.candidate = some generator ∧ ¬ call.IsRefused entries ∧
      call.on entries = (.ok (), Entries.put (key call.name) generator entries) := by
  unfold on registerInPlace
  cases hcandidate : call.candidate with
  | none => exact .inl ⟨rfl, rfl⟩
  | some generator =>
    by_cases hrefused : call.IsRefused entries
    · refine .inr (.inl ⟨hrefused, nofun, ?_⟩)
      simp only [perform_bind, perform_get, if_pos (has_and_not_iff.2 hrefused), perform_throw]
    · refine .inr (.inr ⟨generator, rfl, hrefused, ?_⟩)
      simp only [perform_bind, perform_get, if_neg (mt has_and_not_iff.1 hrefused),
        perform_modify]

/-- **Registering in place is registering.** -/
theorem on_entries (registry : GeneratorRegistry) (call : Call Generator) :
    call.on registry.entries =
      match registry.register call.name call.candidate call.replace with
      | .ok next => (.ok (), next.entries)
      | .error fault => (.error fault, registry.entries) := by
  unfold register
  rcases on_cases call registry.entries with
    ⟨hnone, hon⟩ | ⟨hrefused, hsome, hon⟩ | ⟨generator, hsome, hrefused, hon⟩
  · rw [hon, hnone]
  · obtain ⟨generator, hgenerator⟩ := Option.ne_none_iff_exists'.1 hsome
    rw [hon, hgenerator]
    simp only [if_pos (has_and_not_iff.2 hrefused)]
  · rw [hon, hsome]
    simp only [if_neg (mt has_and_not_iff.1 hrefused)]

/-- **When a call fails**, and then it changes nothing. -/
theorem on_eq_error_iff : (∃ fault, (call.on entries).1 = .error fault) ↔
    call.candidate = none ∨ call.IsRefused entries := by
  rcases on_cases call entries with
    ⟨hnone, hon⟩ | ⟨hrefused, -, hon⟩ | ⟨generator, hsome, hrefused, hon⟩
  · simp [hon, hnone]
  · simp [hon, hrefused]
  · simp [hon, hsome, hrefused]

theorem on_of_eq_error {fault : RegistryFault} (h : (call.on entries).1 = .error fault) :
    (call.on entries).2 = entries := by
  rcases on_cases call entries with ⟨-, hon⟩ | ⟨-, -, hon⟩ | ⟨generator, -, -, hon⟩
  · rw [hon]
  · rw [hon]
  · rw [hon] at h
    exact absurd h nofun

/-- What a call has registered, by its key, seen from the answer to it. -/
def accepted? : Call α × Except RegistryFault Unit → Option (String × α)
  | (call, .ok ()) => call.candidate.map fun generator => (key call.name, generator)
  | (_, .error _) => none

/-- **A call writes what its answer says.** -/
theorem entries_on (call : Call α) (entries : List (String × α)) : (call.on entries).2
    = (accepted? (call, (call.on entries).1)).toList.foldl
      (fun entries pair => Entries.put pair.1 pair.2 entries) entries := by
  rcases on_cases call entries with ⟨-, hon⟩ | ⟨-, -, hon⟩ | ⟨generator, hsome, -, hon⟩
  · rw [hon]
    rfl
  · rw [hon]
    rfl
  · rw [hon, accepted?, hsome]
    rfl

end Call

/-- The registrations that succeed of calls on an empty registry, by key. -/
def accepted (calls : List (Call α)) : List (String × α) :=
  (history Call.on [] calls).filterMap Call.accepted?

variable {calls : List (Call α)}

/-- **A registry is the sum of what it accepted.** -/
theorem entries_after : after Call.on [] calls = Entries.ofPairs (accepted calls) :=
  after_eq_foldl id Call.entries_on

theorem nodup_keys_after : (Entries.keys (after Call.on [] calls)).Nodup := by
  rw [entries_after]
  exact Entries.nodup_keys_putAll _ List.nodup_nil

/-- The generator of a key is the one that was accepted last. -/
theorem lookup_after (name : String) :
    (after Call.on [] calls).lookup name = (accepted calls).reverse.lookup name := by
  rw [entries_after, Entries.ofPairs, Entries.lookup_putAll, List.append_nil]

/-! ## Dispatch -/

/-- The generator of the first entry that takes something. -/
def first? (takes : α → Bool) (entries : List (String × α)) : Option α :=
  (entries.find? fun entry => takes entry.2).map Prod.snd

section Dispatch

variable {takes : α → Bool} {entries : List (String × α)}

/-- **What is found stands under the earliest key** whose generator takes it. -/
theorem first?_eq_some_iff (hnodup : (Entries.keys entries).Nodup) {generator : α} :
    first? takes entries = some generator ↔
      ∃ before name later, Entries.keys entries = before ++ name :: later ∧
        entries.lookup name = some generator ∧ takes generator = true ∧
        ∀ other ∈ before, ∀ earlier, entries.lookup other = some earlier →
          takes earlier = false := by
  rw [first?, Option.map_eq_some_iff]
  constructor
  · rintro ⟨⟨name, generator⟩, hfound, rfl⟩
    obtain ⟨htakes, before, later, rfl, hbefore⟩ := List.find?_eq_some_iff_append.1 hfound
    refine ⟨Entries.keys before, name, Entries.keys later, by simp [Entries.keys],
      (Entries.lookup_eq_some_iff_mem hnodup).2 (by simp), htakes, ?_⟩
    intro other hother earlier hlookup
    obtain ⟨⟨other, value⟩, hmem, rfl⟩ := List.mem_map.1 hother
    have hvalue := (Entries.lookup_eq_some_iff_mem hnodup).2
      (List.mem_append_left ((name, generator) :: later) hmem)
    obtain rfl : value = earlier := Option.some.inj (hvalue.symm.trans hlookup)
    simpa using hbefore _ hmem
  · rintro ⟨before, name, later, hkeys, hlookup, htakes, hbefore⟩
    obtain ⟨front, rest, rfl, rfl, hrest⟩ := List.map_eq_append_iff.1 hkeys
    obtain ⟨⟨name, value⟩, back, rfl, rfl, rfl⟩ := List.map_eq_cons_iff.1 hrest
    have hvalue : (front ++ (name, value) :: back).lookup name = some value :=
      (Entries.lookup_eq_some_iff_mem hnodup).2 (by simp)
    obtain rfl : value = generator := Option.some.inj (hvalue.symm.trans hlookup)
    refine ⟨(name, value), List.find?_eq_some_iff_append.2 ⟨htakes, front, back, rfl, ?_⟩, rfl⟩
    intro entry hentry
    have hentry' := (Entries.lookup_eq_some_iff_mem hnodup).2
      (List.mem_append_left ((name, value) :: back) hentry)
    simpa using hbefore entry.1 (List.mem_map_of_mem hentry) entry.2 hentry'

theorem first?_eq_none_iff (hnodup : (Entries.keys entries).Nodup) :
    first? takes entries = none ↔
      ∀ name generator, entries.lookup name = some generator → takes generator = false := by
  rw [first?, Option.map_eq_none_iff, List.find?_eq_none]
  constructor
  · intro h name generator hlookup
    simpa using h _ ((Entries.lookup_eq_some_iff_mem hnodup).1 hlookup)
  · intro h entry hentry
    simpa using h entry.1 entry.2 ((Entries.lookup_eq_some_iff_mem hnodup).2 hentry)

end Dispatch

/-- **A shape goes by the place of a name.**  Take any registrations on an empty registry, of any
generators, and what shapes each generator takes.  The registry lists the keys of the names that
were registered, each once and in the order of the first registration that succeeded.  A
registration fails exactly if what is registered is no generator, or if the name is taken in some
letter case and its generator shall not be replaced; it leaves the registry as it was, and one that
succeeds under a listed name leaves the names as they were.  A shape goes to the generator that was
registered last under the earliest listed name whose generator takes it, and to none if no listed
name has one.  The registry of a run is such a registry. -/
theorem dispatch_by_place (takes : Shape → α → Bool) (calls : List (Call α)) :
    let entries := after Call.on [] calls
    let last := fun name => (accepted calls).reverse.lookup name
    Entries.keys entries = ((accepted calls).map Prod.fst).eraseDups ∧
    (Entries.keys entries).Nodup ∧
    (∀ call : Call α,
      ((∃ fault, (call.on entries).1 = .error fault) ↔ call.candidate = none ∨
        key call.name ∈ Entries.keys entries ∧ call.replace = false) ∧
      (∀ fault, (call.on entries).1 = .error fault → (call.on entries).2 = entries) ∧
      ((call.on entries).1 = .ok () → Entries.keys (call.on entries).2
        = if key call.name ∈ Entries.keys entries then Entries.keys entries
          else Entries.keys entries ++ [key call.name])) ∧
    (∀ shape,
      (∀ generator, first? (takes shape) entries = some generator ↔
        ∃ before name later, Entries.keys entries = before ++ name :: later ∧
          last name = some generator ∧ takes shape generator = true ∧
          ∀ other ∈ before, ∀ earlier, last other = some earlier → takes shape earlier = false) ∧
      (first? (takes shape) entries = none ↔
        ∀ name generator, last name = some generator → takes shape generator = false)) ∧
    ∀ registry : GeneratorRegistry,
      (∀ call : Call Generator, call.on registry.entries =
        match registry.register call.name call.candidate call.replace with
        | .ok next => (.ok (), next.entries)
        | .error fault => (.error fault, registry.entries)) ∧
      registry.names = Entries.keys registry.entries ∧
      ∀ shape, registry.forShape? shape = first? (Generator.takes shape) registry.entries := by
  intro entries last
  have hlast : ∀ name, entries.lookup name = last name := lookup_after
  refine ⟨?_, nodup_keys_after, ?_, ?_,
    fun registry => ⟨Call.on_entries registry, rfl, fun _ => rfl⟩⟩
  · rw [← Entries.keys, ← Entries.keys_ofPairs, ← entries_after]
  · intro call
    refine ⟨Call.on_eq_error_iff, fun fault => Call.on_of_eq_error, fun hok => ?_⟩
    rcases Call.on_cases call entries with ⟨-, hon⟩ | ⟨-, -, hon⟩ | ⟨generator, -, -, hon⟩
    · exact absurd (hok.symm.trans (congrArg Prod.fst hon)) nofun
    · exact absurd (hok.symm.trans (congrArg Prod.fst hon)) nofun
    · rw [hon, Entries.keys_put]
  · -- What stands under a key is what was accepted last, so dispatch is read off the history.
    intro shape
    simp only [← hlast]
    exact ⟨fun generator => first?_eq_some_iff nodup_keys_after,
      first?_eq_none_iff nodup_keys_after⟩

/-! ## A generator that is replaced -/

namespace Relay

/-- Two generators for structures; the first is replaced, under its name in another letter case. -/
def registrations : List (Call Generator) := [
  { name := "Struct", candidate := some .struct },
  { name := "remark", candidate := some (.remark .struct) },
  { name := "struct", candidate := some .enum },
  { name := "STRUCT", candidate := some (.remark .union), replace := true },
  { name := "remark", candidate := none, replace := true }]

def shape : Shape where
  id := { ns := "a", name := "Greeting" }
  type := .union

end Relay

/-- The generator in the place of the first name is asked first, although it came later. -/
theorem dispatch_by_place_relay :
    Entries.keys (after Call.on [] Relay.registrations) = ["struct", "remark"] ∧
      first? (Generator.takes Relay.shape) (after Call.on [] Relay.registrations)
        = some (.remark .union) := by
  obtain ⟨hkeys, -, -, hdispatch, -⟩ := dispatch_by_place Generator.takes Relay.registrations
  have hlisted : Entries.keys (after Call.on [] Relay.registrations) = ["struct", "remark"] := by
    rw [hkeys]
    decide +kernel
  refine ⟨hlisted, ((hdispatch Relay.shape).1 _).2 ⟨[], "struct", ["remark"], hlisted, ?_, rfl, ?_⟩⟩
  · decide +kernel
  · exact fun _ hother => absurd hother List.not_mem_nil

end GeneratorRegistry

end ClientGen
