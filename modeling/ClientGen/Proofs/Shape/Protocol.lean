import ClientGen.Proofs.Success
import ClientGen.Shape.Protocol

/-!
# The protocol of a service

A service carries the protocols that its traits select: those known to use HTTP, and those whose
definition in the model marks them as protocols.  A run that is not told which one to use takes the
first by name, of both kinds together.  So what it takes depends on which traits there are and not
on their order; it is a protocol over HTTP unless a custom one stands before all of those, and that
one is refused.

## Main definitions

* `Shape.Carries` — a protocol is among the traits of a service.
* `Shape.IsFirst` — a name is the first of some.

## Main results

* `Shape.protocols_spec` — the protocols of a service are listed by name, and all of them.
* `Shape.chooseProtocol_takes_first` — which protocol is taken of a service that carries one over
  HTTP.
-/

namespace ClientGen.Shape

variable {model : Model} {service : Shape}

/-! ## Protocols among traits -/

/-- A trait selects a protocol: it is known to, or its definition says so. -/
def SelectsProtocol (model : Model) (trait : String) : Prop :=
  trait ∈ httpProtocols ∨ ∃ id definition, ShapeId.read trait = .ok id ∧
    model.shape? id = some definition ∧ definition.hasTrait Trait.protocolDefinition = true

/-- The service carries a protocol. -/
def Carries (model : Model) (service : Shape) (protocol : String) : Prop :=
  protocol ∈ Entries.keys service.traits ∧ SelectsProtocol model protocol

/-- The service carries a protocol that is known to use HTTP. -/
def CarriesHttp (service : Shape) (protocol : String) : Prop :=
  protocol ∈ Entries.keys service.traits ∧ protocol ∈ httpProtocols

theorem CarriesHttp.carries {protocol : String} (h : service.CarriesHttp protocol) :
    service.Carries model protocol :=
  ⟨h.1, .inl h.2⟩

/-- A trait can be looked up under its id, if it is one. -/
theorem isProtocol_spec (model : Model) {trait : String} (h : ∃ id, ShapeId.read trait = .ok id) :
    ∃ answer, isProtocol model trait = .ok answer ∧
      (answer = true ↔ SelectsProtocol model trait) := by
  obtain ⟨id, hid⟩ := h
  unfold isProtocol
  by_cases hknown : trait ∈ httpProtocols
  · exact ⟨true, by rw [if_pos (by simpa using hknown)]; rfl, by simp [SelectsProtocol, hknown]⟩
  · have hfound : model.find? trait = .ok (model.shape? id) := by
      rw [Model.find?, hid]
      rfl
    rw [if_neg (by simpa using hknown), hfound]
    cases hshape : model.shape? id with
    | none => exact ⟨false, rfl, by simp [SelectsProtocol, hknown, hid, hshape]⟩
    | some definition =>
      exact ⟨definition.hasTrait Trait.protocolDefinition, rfl,
        by simp [SelectsProtocol, hknown, hid, hshape]⟩

theorem protocolsAmong_spec (model : Model) {traits : List String}
    (h : ∀ trait ∈ traits, ∃ id, ShapeId.read trait = .ok id) :
    ∃ found, protocolsAmong model traits = .ok found ∧
      ∀ name, name ∈ found ↔ name ∈ traits ∧ SelectsProtocol model name := by
  induction traits with
  | nil => exact ⟨[], rfl, by simp⟩
  | cons trait rest ih =>
    obtain ⟨hfirst, hrest⟩ := List.forall_mem_cons.1 h
    obtain ⟨answer, hanswer, hiff⟩ := isProtocol_spec model hfirst
    obtain ⟨found, hfound, hmem⟩ := ih hrest
    rw [protocolsAmong, hanswer, hfound]
    refine ⟨if answer then trait :: found else found, rfl, fun name => ?_⟩
    cases answer with
    | false =>
      have hnot : ¬ SelectsProtocol model trait := fun hselects => by simpa using hiff.2 hselects
      rw [if_neg Bool.false_ne_true, hmem, List.mem_cons]
      constructor
      · exact fun ⟨hname, hselects⟩ => ⟨.inr hname, hselects⟩
      · rintro ⟨rfl | hname, hselects⟩
        · exact absurd hselects hnot
        · exact ⟨hname, hselects⟩
    | true =>
      have hselects := hiff.1 rfl
      rw [if_pos rfl, List.mem_cons, hmem, List.mem_cons]
      constructor
      · rintro (rfl | ⟨hname, hother⟩)
        · exact ⟨.inl rfl, hselects⟩
        · exact ⟨.inr hname, hother⟩
      · rintro ⟨rfl | hname, hother⟩
        · exact .inl rfl
        · exact .inr ⟨hname, hother⟩

/-! ## The first name -/

/-- A name is the first of those with a property. -/
def IsFirst (P : String → Prop) (name : String) : Prop :=
  P name ∧ ∀ other, P other → name ≤ other

theorem IsFirst.unique {P : String → Prop} {first second : String} (hfirst : IsFirst P first)
    (hsecond : IsFirst P second) : first = second :=
  String.le_antisymm (hfirst.2 second hsecond.1) (hsecond.2 first hfirst.1)

/-- The first of some names stands at the front once they are sorted. -/
theorem exists_isFirst {P : String → Prop} {names : List String} (hsorted : names.Pairwise (· ≤ ·))
    (hmem : ∀ name, name ∈ names ↔ P name) (hsome : ∃ name, P name) :
    ∃ first rest, names = first :: rest ∧ IsFirst P first := by
  obtain ⟨name, hname⟩ := hsome
  obtain ⟨first, rest, rfl⟩ := List.exists_cons_of_ne_nil (List.ne_nil_of_mem ((hmem name).2 hname))
  refine ⟨first, rest, rfl, (hmem first).1 List.mem_cons_self, fun other hother => ?_⟩
  rcases List.mem_cons.1 ((hmem other).2 hother) with rfl | hrest
  · exact String.le_refl other
  · exact List.rel_of_pairwise_cons hsorted hrest

/-- Names are in order once they are sorted. -/
theorem pairwise_le_mergeSort (names : List String) :
    (names.mergeSort fun a b => decide (a ≤ b)).Pairwise (· ≤ ·) := by
  refine (List.pairwise_mergeSort ?_ ?_ names).imp of_decide_eq_true
  · intro a b c hab hbc
    exact decide_eq_true (String.le_trans (of_decide_eq_true hab) (of_decide_eq_true hbc))
  · intro a b
    simpa using String.le_total a b

/-! ## The protocol that is taken -/

section Reading

variable (model) (hread : ∀ trait ∈ Entries.keys service.traits, ∃ id, ShapeId.read trait = .ok id)

include hread

/-- **The protocols of a service** are listed by name, and all of them. -/
theorem protocols_spec : ∃ offered, service.protocols model = .ok offered ∧
    (∀ name, name ∈ offered ↔ service.Carries model name) ∧ offered.Pairwise (· ≤ ·) := by
  obtain ⟨found, hfound, hmem⟩ := protocolsAmong_spec model hread
  rw [protocols, hfound]
  refine ⟨_, rfl, fun name => ?_, pairwise_le_mergeSort found⟩
  rw [List.mem_mergeSort, hmem, Carries]

/-- The first protocol that a service carries is taken, and must be one over HTTP. -/
theorem exists_chosen (hsome : ∃ name, service.Carries model name) :
    ∃ first, IsFirst (service.Carries model) first ∧
      service.chooseProtocol model = (service.overHttp (.str first)).map some := by
  obtain ⟨offered, hoffered, hmem, hsorted⟩ := protocols_spec model hread
  obtain ⟨first, rest, rfl, hfirst⟩ := exists_isFirst hsorted hmem hsome
  refine ⟨first, hfirst, ?_⟩
  rw [chooseProtocol, hoffered]
  rfl

/-- Services with the same traits, in whatever order, are served over the same protocol. -/
theorem chooseProtocol_eq_of_mem_iff (hsome : ∃ name, service.Carries model name) {other : Shape}
    (hid : other.id = service.id)
    (htraits : ∀ trait, trait ∈ Entries.keys other.traits ↔ trait ∈ Entries.keys service.traits) :
    other.chooseProtocol model = service.chooseProtocol model := by
  have hcarries : other.Carries model = service.Carries model := by
    funext name
    rw [Carries, Carries, htraits]
  obtain ⟨first, hfirst, hchosen⟩ := exists_chosen model hread hsome
  have hsome' : ∃ name, other.Carries model name := hcarries ▸ hsome
  obtain ⟨first', hfirst', hchosen'⟩ := exists_chosen model
    (fun trait htrait => hread trait ((htraits trait).1 htrait)) hsome'
  rw [hcarries] at hfirst'
  rw [hchosen, hchosen', hfirst.unique hfirst', overHttp, overHttp, hid]

end Reading

/-- **Which protocol is taken** of a service that carries one over HTTP, if none is asked for: the
first of all that it carries, by name.  That is the first one over HTTP unless a custom protocol
stands before it, and then the custom one is refused.  The order of the traits does not matter. -/
theorem chooseProtocol_takes_first (model : Model) (service : Shape)
    (hread : ∀ trait ∈ Entries.keys service.traits, ∃ id, ShapeId.read trait = .ok id)
    (hhttp : ∃ name, service.CarriesHttp name) :
    ∃ http first, IsFirst service.CarriesHttp http ∧ IsFirst (service.Carries model) first ∧
      service.chooseProtocol model = (if first = http then .ok (some http)
        else .error (.model (.protocolNotHttp (.str first) service.id))) ∧
      ∀ other : Shape, other.id = service.id →
        (∀ trait, trait ∈ Entries.keys other.traits ↔ trait ∈ Entries.keys service.traits) →
        other.chooseProtocol model = service.chooseProtocol model := by
  obtain ⟨name, hname⟩ := hhttp
  have hsome : ∃ name, service.Carries model name := ⟨name, hname.carries⟩
  obtain ⟨first, hfirst, hchosen⟩ := exists_chosen _ hread hsome
  obtain ⟨http, -, -, hhttp⟩ := exists_isFirst (P := service.CarriesHttp)
    (pairwise_le_mergeSort ((Entries.keys service.traits).filter fun trait =>
      httpProtocols.contains trait))
    (fun name => by simp [CarriesHttp]) ⟨name, hname⟩
  refine ⟨http, first, hhttp, hfirst, ?_, fun other hid htraits =>
    chooseProtocol_eq_of_mem_iff model hread hsome hid htraits⟩
  rw [hchosen, overHttp]
  split_ifs with hknown heq heq
  · rw [heq]
    rfl
  · -- A first protocol over HTTP is the first one over HTTP.
    have hle := hhttp.2 first ⟨hfirst.1.1, by simpa using hknown⟩
    exact absurd (String.le_antisymm (hfirst.2 http hhttp.1.carries) hle) heq
  · exact absurd (heq ▸ hhttp.1.2) (by simpa using hknown)
  · -- A first protocol that is not over HTTP is a custom one, and is refused.
    rfl

namespace Sample

/-- The definition of a custom protocol. -/
def beat (ns : String) : Shape where
  id := { ns := ns, name := "beat" }
  type := .struct
  traits := [(Trait.builtin "trait", .obj []), (Trait.protocolDefinition, .obj [])]

/-- A service that carries a custom protocol and two over HTTP. -/
def weather (ns : String) : Shape where
  id := { ns := "a", name := "Weather" }
  type := .service
  traits := [("aws.protocols#restXml", .obj []), ((beat ns).id.text, .obj []),
    ("aws.protocols#restJson1", .obj [])]

/-- The service and the definition of its custom protocol. -/
def forecast (ns : String) : Model :=
  .ofShapes [beat ns, weather ns]

theorem carriesHttp (ns : String) : (weather ns).CarriesHttp "aws.protocols#restJson1" :=
  ⟨by simp [weather, Entries.keys], by decide⟩

end Sample

open Sample in
/-- A custom protocol behind those over HTTP does not matter. -/
theorem chooseProtocol_takes_first_mixed :
    (∀ trait ∈ Entries.keys (weather "z").traits, ∃ id, ShapeId.read trait = .ok id) ∧
    (∃ name, (weather "z").CarriesHttp name) ∧ (weather "z").Carries (forecast "z") "z#beat" ∧
    (weather "z").chooseProtocol (forecast "z") = .ok (some "aws.protocols#restJson1") := by
  have hread : ∀ trait ∈ Entries.keys (weather "z").traits, ∃ id, ShapeId.read trait = .ok id := by
    simp only [weather, Entries.keys, List.map_cons, List.map_nil, List.forall_mem_cons]
    exact ⟨⟨_, rfl⟩, ⟨_, rfl⟩, ⟨_, rfl⟩, by simp⟩
  have hbeat : (weather "z").Carries (forecast "z") "z#beat" :=
    ⟨by decide +kernel, .inr ⟨⟨"z", "beat", none⟩, beat "z", rfl, rfl, rfl⟩⟩
  obtain ⟨http, first, hhttp, hfirst, hchosen, -⟩ :=
    chooseProtocol_takes_first (forecast "z") (weather "z") hread ⟨_, carriesHttp "z"⟩
  have hleast : ∀ name ∈ Entries.keys (weather "z").traits, "aws.protocols#restJson1" ≤ name := by
    decide +kernel
  obtain rfl : http = "aws.protocols#restJson1" :=
    hhttp.unique ⟨carriesHttp "z", fun other hother => hleast other hother.1⟩
  obtain rfl : first = "aws.protocols#restJson1" :=
    hfirst.unique ⟨(carriesHttp "z").carries, fun other hother => hleast other hother.1⟩
  exact ⟨hread, ⟨_, carriesHttp "z"⟩, hbeat, hchosen⟩

open Sample in
/-- **A custom protocol that stands first is refused**, though the service carries protocols over
HTTP besides. -/
theorem chooseProtocol_custom_first :
    (∀ trait ∈ Entries.keys (weather "a").traits, ∃ id, ShapeId.read trait = .ok id) ∧
    (∃ name, (weather "a").CarriesHttp name) ∧
    (weather "a").chooseProtocol (forecast "a")
      = .error (.model (.protocolNotHttp (.str "a#beat") ⟨"a", "Weather", none⟩)) := by
  have hread : ∀ trait ∈ Entries.keys (weather "a").traits, ∃ id, ShapeId.read trait = .ok id := by
    simp only [weather, Entries.keys, List.map_cons, List.map_nil, List.forall_mem_cons]
    exact ⟨⟨_, rfl⟩, ⟨_, rfl⟩, ⟨_, rfl⟩, by simp⟩
  have hbeat : (weather "a").Carries (forecast "a") "a#beat" :=
    ⟨by decide +kernel, .inr ⟨⟨"a", "beat", none⟩, beat "a", rfl, rfl, rfl⟩⟩
  obtain ⟨first, hfirst, hchosen⟩ := exists_chosen _ hread ⟨_, hbeat⟩
  have hleast : ∀ name ∈ Entries.keys (weather "a").traits, "a#beat" ≤ name := by
    decide +kernel
  obtain rfl : first = "a#beat" :=
    hfirst.unique ⟨hbeat, fun other hother => hleast other hother.1⟩
  exact ⟨hread, ⟨_, carriesHttp "a"⟩, hchosen⟩

end ClientGen.Shape
