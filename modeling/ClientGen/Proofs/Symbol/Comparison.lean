import ClientGen.Proofs.Shape.Comparison
import ClientGen.Proofs.Symbol.Bound
import ClientGen.Symbol.Table

/-!
# Symbols of shapes that look alike

Two models are in step on pairs of shapes if the shapes of a pair look alike, each is held by its
model, and the targets of their members are pairs again.  Shapes of a pair then have symbols that
look alike, or fail to have one in the same way: the elements of lists and maps are followed through
both models together.  The bounds of the two searches are different if the models have different
sizes, but neither bound matters.

## Main definitions

* `Symbol.Alike`, `SymbolTable.Alike` — two symbols, or tables of symbols, look alike.
* `Model.InStep` — two models are in step on pairs of shapes.

## Main results

* `Model.InStep.symbolOf_agree` — shapes of a pair have symbols that look alike.
* `Model.InStep.resolve_agree` — looking up their symbols keeps tables alike.
-/

namespace ClientGen

variable {view : View}

/-! ## Symbols -/

namespace Symbol

/-- Two symbols differ at most in a documentation that is not seen. -/
def Alike (view : View) (first second : Symbol) : Prop :=
  first.seen view = second.seen view

namespace Alike

variable {first second : Symbol} (h : first.Alike view second)
include h

theorem seen_eq : first.seen view = second.seen view :=
  h

theorem name : first.name = second.name := by
  rw [← name_seen view, h, name_seen]

theorem scope : first.scope = second.scope := by
  rw [← scope_seen view, h, scope_seen]

theorem fullName : first.fullName = second.fullName := by
  rw [← fullName_seen view, h, fullName_seen]

theorem unit? : first.unit? = second.unit? := by
  rw [← unit?_seen view, h, unit?_seen]

theorem isDeclared : first.isDeclared = second.isDeclared := by
  rw [Symbol.isDeclared, Symbol.isDeclared, h.unit?]

theorem documentation :
    view.documentation first.documentation = view.documentation second.documentation := by
  have hseen : ∀ symbol : Symbol,
      (symbol.seen view).documentation = view.documentation symbol.documentation := by
    intro symbol
    cases symbol with
    | named identity => rfl
    | composite container element isPointer => cases view <;> rfl
  rw [← hseen, h, hseen]

end Alike

/-- Two symbols with names of their own look alike if their parts do. -/
theorem alike_named {identity identity' : NamedSymbol}
    (hdocumentation : view.documentation identity.documentation
      = view.documentation identity'.documentation)
    (hrest : { identity with documentation := .null }
      = { identity' with documentation := .null }) :
    (named identity).Alike view (named identity') := by
  obtain ⟨name, qualifier, dependency, isPointer, documentation, unit⟩ := identity
  obtain ⟨name', qualifier', dependency', isPointer', documentation', unit'⟩ := identity'
  simp only [NamedSymbol.mk.injEq, true_and] at hrest
  obtain ⟨rfl, rfl, rfl, rfl, rfl⟩ := hrest
  rw [Alike, seen, seen, hdocumentation]

end Symbol

namespace Shape

variable {shape shape' : Shape}

theorem Alike.ownSymbol?_rel (modulePath : String) (h : shape.Alike view shape') :
    Option.Rel (Agree (Failure.Alike view) (Symbol.Alike view)) (shape.ownSymbol? modulePath)
      (shape'.ownSymbol? modulePath) := by
  have hdocumentation := h.documentation
  have hdeclared : ∀ unit isPointer, (shape.declaredType modulePath unit isPointer).Alike view
      (shape'.declaredType modulePath unit isPointer) := by
    intro unit isPointer
    exact Symbol.alike_named hdocumentation (by simp only [h.typeName])
  unfold ownSymbol?
  rw [h.type]
  split
  · exact .some (.ok (Symbol.alike_named hdocumentation rfl))
  · refine .some ?_
    unfold operationSymbol
    rw [h.typeName, h.id]
    dsimp only
    split
    · exact .error rfl
    · exact .ok (Symbol.alike_named hdocumentation rfl)
  · exact .some (.ok (Symbol.alike_named hdocumentation (by simp only [h.typeName])))
  · rw [h.isError]
    exact .some (.ok (hdeclared _ _))
  · rw [h.isError]
    exact .some (.ok (hdeclared _ _))
  · rw [h.isEnum]
    split
    · exact .some (.ok (hdeclared _ _))
    · cases hbuiltin : builtinType? shape'.type with
      | none => exact .none
      | some symbol => exact .some (.ok rfl)

end Shape

/-! ## Models -/

namespace Model

/-- Two models are in step on pairs of shapes. -/
structure InStep (view : View) (P : Shape → Shape → Prop) (model model' : Model) : Prop where
  alike : ∀ {shape shape'}, P shape shape' → shape.Alike view shape'
  held : ∀ {shape shape'}, P shape shape' → model.shape? shape.id = some shape
  held' : ∀ {shape shape'}, P shape shape' → model'.shape? shape'.id = some shape'
  /-- The targets of members are pairs again. -/
  closed : ∀ {shape shape'}, P shape shape' → ∀ member ∈ shape.members,
    ∃ target target', P target target' ∧ target.id = member.target

namespace InStep

variable {P : Shape → Shape → Prop} {model model' : Model} {modulePath : String}
  {shape shape' : Shape} (h : InStep view P model model')
include h

/-- Both models hold the target of a member, and the two are a pair. -/
theorem exists_target (hpair : P shape shape') {member : Member} (hmem : member ∈ shape.members) :
    ∃ target target', P target target' ∧ model.expect member.target = .ok target ∧
      model'.expect member.target = .ok target' := by
  obtain ⟨target, target', htarget, hid⟩ := h.closed hpair member hmem
  refine ⟨target, target', htarget, expect_eq_ok.2 (hid ▸ h.held htarget), expect_eq_ok.2 ?_⟩
  have hheld := h.held' htarget
  rwa [← (h.alike htarget).id, hid] at hheld

theorem element_agree (hpair : P shape shape') :
    Agree Eq P (shape.element model) (shape'.element model') := by
  have halike := h.alike hpair
  have hmember : Option.Rel (Member.Alike view)
      (shape.member? (if shape.type == .map then "value" else "member"))
      (shape'.member? (if shape'.type == .map then "value" else "member")) := by
    rw [halike.type]
    refine rel_find? halike.members fun member member' hmember => ?_
    rw [hmember.name]
  unfold Shape.element
  generalize hfound : shape.member? _ = found at hmember ⊢
  generalize shape'.member? _ = found' at hmember ⊢
  cases hmember with
  | none => exact .error rfl
  | @some member member' hmember =>
    obtain ⟨target, target', htarget, hexpect, hexpect'⟩ :=
      h.exists_target hpair (List.mem_of_find?_eq_some hfound)
    simp only [← hmember.target, hexpect, hexpect']
    exact .ok htarget

theorem symbolWithin_agree (modulePath : String) (hpair : P shape shape') (bound : Nat) :
    Agree (Failure.Alike view) (Symbol.Alike view) (model.symbolWithin modulePath bound shape)
      (model'.symbolWithin modulePath bound shape') := by
  -- On the bound, for all pairs: an element of a pair is followed through both models.
  induction bound generalizing shape shape' with
  | zero => exact .error rfl
  | succ bound ih =>
    have hown := (h.alike hpair).ownSymbol?_rel modulePath
    rw [symbolWithin, symbolWithin]
    generalize shape.ownSymbol? modulePath = own, shape'.ownSymbol? modulePath = own' at hown
    cases hown with
    | some hown => exact hown
    | none =>
      have helement := (h.element_agree hpair).imp (G := Failure.Alike view)
        (fun _ _ heq => congrArg _ heq) fun _ _ hpair => hpair
      refine helement.bind fun element element' helement => ?_
      refine (ih helement).bind fun symbol symbol' hsymbol => .ok ?_
      rw [(h.alike hpair).type]
      split <;> exact congrArg (Symbol.composite _ · false) hsymbol

/-- **Shapes of a pair have symbols that look alike**, or none for the same reason. -/
theorem symbolOf_agree (hpair : P shape shape') :
    Agree (Failure.Alike view) (Symbol.Alike view) (model.symbolOf modulePath shape)
      (model'.symbolOf modulePath shape') := by
  have hagree := h.symbolWithin_agree modulePath hpair
    (max model.size model'.size + 1)
  rwa [symbolWithin_eq_symbolOf (by omega), symbolWithin_eq_symbolOf (by omega)] at hagree

end InStep

end Model

/-! ## Tables -/

namespace SymbolTable

/-- Two tables remember symbols that look alike and have the same claims. -/
structure Alike (view : View) (table table' : SymbolTable) : Prop where
  symbols : List.Forall₂ (fun entry entry' => entry.1 = entry'.1 ∧ entry.2.Alike view entry'.2)
    table.symbols table'.symbols
  claims : table.claims = table'.claims

variable {table table' : SymbolTable} {symbol symbol' : Symbol}

theorem Alike.claim_agree (h : Alike view table table') (scope name owner : String) :
    Agree Eq (Alike view) (table.claim scope name owner) (table'.claim scope name owner) := by
  unfold claim owner?
  rw [h.claims]
  split
  · exact .ok ⟨h.symbols, rfl⟩
  · split
    · exact .ok h
    · exact .error rfl

theorem Alike.declare_agree (h : Alike view table table') (hsymbol : symbol.Alike view symbol')
    (owner : ShapeId) :
    Agree Eq (Alike view) (table.declare symbol owner) (table'.declare symbol' owner) := by
  unfold declare
  rw [hsymbol.isDeclared, hsymbol.scope, hsymbol.name]
  split
  · exact h.claim_agree _ _ _
  · exact .ok h

end SymbolTable

/-- **Looking up the symbols of a pair keeps tables alike.** -/
theorem Model.InStep.resolve_agree {P : Shape → Shape → Prop} {model model' : Model}
    (h : InStep view P model model') {modulePath : String} {table table' : SymbolTable}
    (htable : table.Alike view table') {shape shape' : Shape} (hpair : P shape shape') :
    Agree (Failure.Alike view) (fun found found' => found.1.Alike view found'.1 ∧
        found.2.Alike view found'.2)
      (table.resolve (model.symbolOf modulePath) shape)
      (table'.resolve (model'.symbolOf modulePath) shape') := by
  have hfound := rel_lookup htable.symbols shape.id
  have hid := (h.alike hpair).id
  unfold SymbolTable.resolve
  rw [← hid]
  generalize table.symbols.lookup shape.id = found, table'.symbols.lookup shape.id = found'
    at hfound
  cases hfound with
  | some hsymbol => exact .ok ⟨hsymbol, htable⟩
  | none =>
    refine (h.symbolOf_agree hpair).bind fun symbol symbol' hsymbol => ?_
    refine ((htable.declare_agree hsymbol shape.id).mapError (G := Failure.Alike view)
      fun _ _ heq => heq ▸ rfl).bind fun table table' htable => ?_
    refine .ok ⟨hsymbol, List.rel_append htable.symbols (.cons ⟨rfl, hsymbol⟩ .nil), htable.claims⟩

end ClientGen
