import ClientGen.Proofs.Success
import ClientGen.Symbol.Table

/-!
# Symbol tables are faithful

A table only remembers symbols that the provider gives, and it knows an owner for every declared
one.  What it knows it never forgets: each operation gives a table that extends the one before.  So
at the end of a run a name of a scope has one owner, whoever asks.

## Main definitions

* `SymbolTable.Extends` — every claim of one table stands in the other.
* `SymbolTable.Sound` — the symbols are those of the provider, and the declared ones are claimed.
* `Symbol.Contested` — a clash is about the name of a declared symbol.

## Main results

* `SymbolTable.claim_spec`, `SymbolTable.resolve_spec` — what the operations of a table do.
* `SymbolTable.resolve_remembers` — a symbol that was found is never looked for again.
* `SymbolTable.resolve_eq_error` — why a shape gets no symbol.
-/

namespace ClientGen

/-- The clash is about the name of a symbol that some file declares for an owner. -/
structure Symbol.Contested (symbol : Symbol) (owner : ShapeId) (clash : Collision) : Prop where
  declared : symbol.isDeclared = true
  identifier : clash.identifier = symbol.name
  scope : clash.scope = symbol.scope
  second : clash.second = owner.text
  ne : clash.first ≠ clash.second

namespace SymbolTable

variable {table table' : SymbolTable} {find : ShapeId → Option Shape}
  {symbolOf : Shape → Except Failure Symbol}

/-- Every claim of the first table stands in the second. -/
def Extends (table table' : SymbolTable) : Prop :=
  ∀ scope name owner, table.owner? scope name = some owner → table'.owner? scope name = some owner

theorem Extends.refl (table : SymbolTable) : table.Extends table :=
  fun _ _ _ h => h

theorem Extends.trans {table'' : SymbolTable} (h : table.Extends table')
    (h' : table'.Extends table'') : table.Extends table'' :=
  fun scope name owner howner => h' scope name owner (h scope name owner howner)

/-- The table remembers symbols of a provider only, for shapes that stand under their ids, and knows
who declares them. -/
structure Sound (find : ShapeId → Option Shape) (symbolOf : Shape → Except Failure Symbol)
    (table : SymbolTable) : Prop where
  provided : ∀ id symbol, table.symbols.lookup id = some symbol →
    ∃ shape, find id = some shape ∧ symbolOf shape = .ok symbol
  claimed : ∀ id symbol, table.symbols.lookup id = some symbol → symbol.isDeclared = true →
    table.owner? symbol.scope symbol.name = some id.text

theorem Sound.empty : Sound find symbolOf {} where
  provided := by simp
  claimed := by simp

/-- New claims alone leave a table sound. -/
theorem Sound.mono (h : table.Sound find symbolOf) (hextends : table.Extends table')
    (hsymbols : table'.symbols = table.symbols) : table'.Sound find symbolOf where
  provided id symbol hlookup := h.provided id symbol (hsymbols ▸ hlookup)
  claimed id symbol hlookup hdeclared :=
    hextends _ _ _ (h.claimed id symbol (hsymbols ▸ hlookup) hdeclared)

/-- **A claim that succeeds stands**, and so do the claims before it. -/
theorem claim_spec {scope name owner : String} (h : table.claim scope name owner = .ok table') :
    table'.owner? scope name = some owner ∧ table.Extends table' ∧
      table'.symbols = table.symbols := by
  unfold claim at h
  cases howner : table.owner? scope name with
  | none =>
    -- The new claim goes to the end, so it hides none of the older ones.
    simp only [howner, Except.ok.injEq] at h
    subst h
    refine ⟨?_, ?_, rfl⟩
    · simp only [owner?] at howner ⊢
      simp [List.lookup_append, howner]
    · intro scope' name' owner' howner'
      simp only [owner?] at howner' ⊢
      simp [List.lookup_append, howner']
  | some first =>
    simp only [howner] at h
    split at h
    · rename_i hsame
      obtain rfl := Except.ok.inj h
      exact ⟨by rw [howner, eq_of_beq hsame], Extends.refl _, rfl⟩
    · simp at h

theorem declare_spec {symbol : Symbol} {id : ShapeId} (h : table.declare symbol id = .ok table') :
    (symbol.isDeclared = true → table'.owner? symbol.scope symbol.name = some id.text) ∧
      table.Extends table' ∧ table'.symbols = table.symbols := by
  unfold declare at h
  split at h
  · obtain ⟨howner, hextends, hsymbols⟩ := claim_spec h
    exact ⟨fun _ => howner, hextends, hsymbols⟩
  · rename_i hnot
    obtain rfl := Except.ok.inj h
    exact ⟨fun hdeclared => absurd hdeclared hnot, Extends.refl _, rfl⟩

/-- **A shape gets the symbol of the provider**, whose name it then owns, and the table stays
sound. -/
theorem resolve_spec {shape : Shape} {symbol : Symbol} (hsound : table.Sound find symbolOf)
    (hfind : find shape.id = some shape)
    (h : table.resolve symbolOf shape = .ok (symbol, table')) :
    symbolOf shape = .ok symbol ∧ table'.Sound find symbolOf ∧ table.Extends table' ∧
      (symbol.isDeclared = true →
        table'.owner? symbol.scope symbol.name = some shape.id.text) := by
  unfold resolve at h
  cases hcached : table.symbols.lookup shape.id with
  | some cached =>
    simp only [hcached, Except.ok.injEq, Prod.mk.injEq] at h
    obtain ⟨rfl, rfl⟩ := h
    -- The symbol that is held was that of the shape found under the id.
    obtain ⟨shape', hfind', hsymbol⟩ := hsound.provided _ _ hcached
    obtain rfl := Option.some.inj (hfind.symm.trans hfind')
    exact ⟨hsymbol, hsound, Extends.refl _, hsound.claimed _ _ hcached⟩
  | none =>
    simp only [hcached, bind_eq_ok, mapError_eq_ok, pure_eq_ok, Prod.mk.injEq] at h
    obtain ⟨found, hfound, declared, hdeclared, rfl, rfl⟩ := h
    obtain ⟨howner, hextends, hsymbols⟩ := declare_spec hdeclared
    have hdeclared := hsound.mono hextends hsymbols
    refine ⟨hfound, ⟨?_, ?_⟩, hextends, howner⟩
    · intro id other hlookup
      rcases Entries.lookup_append_singleton hlookup with hold | ⟨rfl, rfl⟩
      · exact hdeclared.provided id other hold
      · exact ⟨shape, hfind, hfound⟩
    · intro id other hlookup hother
      rcases Entries.lookup_append_singleton hlookup with hold | ⟨rfl, rfl⟩
      · exact hdeclared.claimed id other hold hother
      · exact howner hother

/-- **A shape that got a symbol keeps it**, and so do the shapes that had one before. -/
theorem resolve_remembers {shape : Shape} {symbol : Symbol}
    (h : table.resolve symbolOf shape = .ok (symbol, table')) :
    table'.symbols.lookup shape.id = some symbol ∧ ∀ id other,
      table.symbols.lookup id = some other → table'.symbols.lookup id = some other := by
  unfold resolve at h
  cases hcached : table.symbols.lookup shape.id with
  | some cached =>
    simp only [hcached, Except.ok.injEq, Prod.mk.injEq] at h
    obtain ⟨rfl, rfl⟩ := h
    exact ⟨hcached, fun _ _ h => h⟩
  | none =>
    simp only [hcached, bind_eq_ok, mapError_eq_ok, pure_eq_ok, Prod.mk.injEq] at h
    obtain ⟨found, -, declared, hdeclared, rfl, rfl⟩ := h
    obtain ⟨-, -, hsymbols⟩ := declare_spec hdeclared
    refine ⟨by simp [hsymbols, List.lookup_append, hcached], ?_⟩
    intro id other hlookup
    simp [hsymbols, List.lookup_append, hlookup]

theorem resolve_of_lookup {shape : Shape} {symbol : Symbol}
    (h : table.symbols.lookup shape.id = some symbol) :
    table.resolve symbolOf shape = .ok (symbol, table) := by
  rw [resolve, h]

/-- Why a declared symbol cannot be claimed: its name has another owner. -/
theorem contested_of_declare {symbol : Symbol} {id : ShapeId} {clash : Collision}
    (h : table.declare symbol id = .error clash) : symbol.Contested id clash := by
  unfold declare at h
  split at h
  · rename_i hdeclared
    unfold claim at h
    split at h
    · simp at h
    · rename_i first _
      split at h
      · simp at h
      · rename_i hne
        obtain rfl := Except.error.inj h
        exact ⟨hdeclared, rfl, rfl, rfl, by simpa using hne⟩
  · simp at h

/-- **Why a shape gets no symbol**: the provider has none, or its name has another owner. -/
theorem resolve_eq_error {shape : Shape} {failure : Failure}
    (h : table.resolve symbolOf shape = .error failure) :
    symbolOf shape = .error failure ∨ ∃ symbol clash, symbolOf shape = .ok symbol ∧
      failure = .collision clash ∧ symbol.Contested shape.id clash := by
  unfold resolve at h
  split at h
  · simp at h
  · rcases bind_eq_error.1 h with h | ⟨symbol, hsymbol, h⟩
    · exact .inl h
    · rcases bind_eq_error.1 h with h | ⟨next, -, h⟩
      · obtain ⟨clash, hdeclare, rfl⟩ := mapError_eq_error.1 h
        exact .inr ⟨symbol, clash, hsymbol, rfl, contested_of_declare hdeclare⟩
      · exact absurd h pure_ne_error

end SymbolTable

end ClientGen
