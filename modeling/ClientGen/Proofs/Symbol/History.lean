import ClientGen.Entries
import ClientGen.Proofs.Model.Closure
import ClientGen.Proofs.Symbol.Table
import ClientGen.Symbol.OfShape

/-!
# Calls on a symbol table, in any order

A table lives as long as a run, and is changed where it stands: names are claimed and shapes are
resolved in whatever order the run comes to them, and a call that fails does not end the life of the
table.  Here the two kinds of calls are written as they act on a table in place, write by write; a
call writes only after the last thing in it that can fail, so a call that fails leaves no trace
(`Call.on_resolve`, `Call.on_claim`: a table in place is the table that the operations give).

Whether a list of calls succeeds as a whole is a matter of what the calls want, not of their order
(`SymbolTable.succeeds_iff`): every shape must have a symbol, and no two calls may want one name of
one scope for different owners.  For that, what a table holds is bounded from both sides.  Every
call that succeeded has what it wants, and everything that is owned was wanted by some call.

## Main definitions

* `SymbolTable.InPlace` — a computation on a table that keeps what was written before it failed.
* `SymbolTable.Call`, `Call.on` — the calls, and what each makes of a table.
* `SymbolTable.history` — the answers to calls made one after another.
* `Call.Wants`, `SymbolTable.Compatible` — the names a call asks for; when calls go together.

## Main results

* `SymbolTable.succeeds_iff` — which lists of calls succeed as a whole.
* `SymbolTable.calls_commute` — the order of calls decides nothing, failing calls change nothing,
  and a shape keeps its symbol.
-/

namespace ClientGen

namespace SymbolTable

/-- A computation on a table in place: what it has written stays written when it fails. -/
abbrev InPlace (α : Type) : Type :=
  ExceptT Failure (StateM SymbolTable) α

namespace InPlace

variable {α β : Type} {table : SymbolTable}

/-- What a computation gives, and the table that it leaves behind. -/
def perform (computation : InPlace α) (table : SymbolTable) : Except Failure α × SymbolTable :=
  (computation.run.run table).run

theorem perform_bind (x : InPlace α) (f : α → InPlace β) :
    (x >>= f).perform table =
      match x.perform table with
      | (.ok a, next) => (f a).perform next
      | (.error failure, next) => (.error failure, next) := by
  simp only [perform, ExceptT.run_bind, StateT.run_bind, Id.run_bind]
  cases (x.run.run table).run with
  | mk answer next => cases answer <;> rfl

theorem perform_get : (get : InPlace SymbolTable).perform table = (.ok table, table) := rfl

theorem perform_modify (f : SymbolTable → SymbolTable) :
    (modify f : InPlace Unit).perform table = (.ok (), f table) := rfl

theorem perform_throw (failure : Failure) :
    (throw failure : InPlace α).perform table = (.error failure, table) := rfl

theorem perform_pure (a : α) : (pure a : InPlace α).perform table = (.ok a, table) := rfl

theorem perform_ofExcept (x : Except Failure α) :
    (MonadExcept.ofExcept x : InPlace α).perform table = (x, table) := by
  cases x <;> rfl

end InPlace

open InPlace

/-- Claims a name in a scope; the claim is written down even if the owner has the name already. -/
def claimInPlace (scope name owner : String) : InPlace Unit := do
  match (← get).owner? scope name with
  | some first =>
    if first != owner then
      throw (.collision { identifier := name, first, second := owner, scope })
  | none => pure ()
  modify fun table => { table with claims := Entries.put (scope, name) owner table.claims }

/-- Claims the name of a symbol that some file declares for its shape. -/
def declareInPlace (symbol : Symbol) (owner : ShapeId) : InPlace Unit :=
  if symbol.isDeclared then claimInPlace symbol.scope symbol.name owner.text else pure ()

/-- The symbol of a shape: remembered, or found, claimed and then remembered. -/
def resolveInPlace (symbolOf : Shape → Except Failure Symbol) (shape : Shape) :
    InPlace Symbol := do
  match (← get).symbols.lookup shape.id with
  | some symbol => return symbol
  | none =>
    let symbol ← MonadExcept.ofExcept (symbolOf shape)
    declareInPlace symbol shape.id
    modify fun table => { table with symbols := Entries.put shape.id symbol table.symbols }
    return symbol

variable {symbolOf : Shape → Except Failure Symbol} {find : ShapeId → Option Shape}
  {table : SymbolTable}

/-- **A claim in place is a claim**: it is written down only if nothing stands against it. -/
theorem perform_claimInPlace (scope name owner : String) :
    (claimInPlace scope name owner).perform table =
      match table.claim scope name owner with
      | .ok next => (.ok (), next)
      | .error clash => (.error (.collision clash), table) := by
  cases howner : table.owner? scope name with
  | none =>
    have hput : Entries.put (scope, name) owner table.claims
        = table.claims ++ [((scope, name), owner)] := Entries.put_of_lookup_eq_none howner _
    simp only [claimInPlace, claim, perform_bind, perform_get, perform_modify, howner, hput]
  | some first =>
    by_cases hsame : first = owner
    · subst hsame
      have hput : Entries.put (scope, name) first table.claims = table.claims :=
        Entries.put_of_lookup_eq_some howner
      simp [claimInPlace, claim, perform_bind, perform_get, perform_modify, howner, hput]
    · simp [claimInPlace, claim, perform_bind, perform_get, perform_throw, howner, hsame]

theorem perform_declareInPlace (symbol : Symbol) (owner : ShapeId) :
    (declareInPlace symbol owner).perform table =
      match table.declare symbol owner with
      | .ok next => (.ok (), next)
      | .error clash => (.error (.collision clash), table) := by
  by_cases hdeclared : symbol.isDeclared
  · simp only [declareInPlace, declare, if_pos hdeclared, perform_claimInPlace]
  · simp only [declareInPlace, declare, if_neg hdeclared, perform_pure]

/-- **Resolving in place is resolving**: the symbol is written down after the claim, which is the
last thing that can fail. -/
theorem perform_resolveInPlace (shape : Shape) :
    (resolveInPlace symbolOf shape).perform table =
      match table.resolve symbolOf shape with
      | .ok (symbol, next) => (.ok symbol, next)
      | .error failure => (.error failure, table) := by
  cases hcached : table.symbols.lookup shape.id with
  | some symbol =>
    simp only [resolveInPlace, resolve, perform_bind, perform_get, perform_pure, hcached]
  | none =>
    simp only [resolveInPlace, resolve, perform_bind, perform_get, perform_ofExcept, hcached]
    cases symbolOf shape with
    | error failure => rfl
    | ok symbol =>
      simp only [perform_declareInPlace, bind, Except.bind]
      cases hdeclare : table.declare symbol shape.id with
      | error clash => rfl
      | ok next =>
        have hput : Entries.put shape.id symbol next.symbols
            = next.symbols ++ [(shape.id, symbol)] := by
          rw [(declare_spec hdeclare).2.2]
          exact Entries.put_of_lookup_eq_none hcached _
        simp only [perform_modify, hput]
        rfl

/-! ## Calls -/

/-- A call on a table. -/
inductive Call where
  | resolve (shape : Shape)
  | claim (scope name owner : String)

namespace Call

/-- What a call gives, a symbol if it resolves a shape, and the table that it leaves behind. -/
def on (symbolOf : Shape → Except Failure Symbol) (table : SymbolTable) :
    Call → Except Failure (Option Symbol) × SymbolTable
  | resolve shape => (do return some (← resolveInPlace symbolOf shape) : InPlace _).perform table
  | claim scope name owner =>
    (do claimInPlace scope name owner; return none : InPlace _).perform table

/-- The call asks for a name in a scope, for an owner. -/
def Wants (symbolOf : Shape → Except Failure Symbol) (scope name owner : String) : Call → Prop
  | resolve shape => ∃ symbol, symbolOf shape = .ok symbol ∧ symbol.isDeclared = true ∧
      symbol.scope = scope ∧ symbol.name = name ∧ shape.id.text = owner
  | claim scope' name' owner' => scope' = scope ∧ name' = name ∧ owner' = owner

variable {call : Call} {shape : Shape}

theorem on_resolve : (resolve shape).on symbolOf table =
    match table.resolve symbolOf shape with
    | .ok (symbol, next) => (.ok (some symbol), next)
    | .error failure => (.error failure, table) := by
  rw [on, perform_bind, perform_resolveInPlace]
  cases table.resolve symbolOf shape <;> rfl

theorem on_claim {scope name owner : String} : (claim scope name owner).on symbolOf table =
    match table.claim scope name owner with
    | .ok next => (.ok none, next)
    | .error clash => (.error (.collision clash), table) := by
  rw [on, perform_bind, perform_claimInPlace]
  cases table.claim scope name owner <;> rfl

/-- **A call that fails leaves no trace.** -/
theorem table_of_on_eq_error {failure : Failure} (h : (call.on symbolOf table).1 = .error failure) :
    (call.on symbolOf table).2 = table := by
  cases call with
  | resolve shape =>
    rw [on_resolve] at h ⊢
    cases hresolve : table.resolve symbolOf shape with
    | ok found => simp [hresolve] at h
    | error failure => rfl
  | claim scope name owner =>
    rw [on_claim] at h ⊢
    cases hclaim : table.claim scope name owner with
    | ok next => simp [hclaim] at h
    | error clash => rfl

/-- A call forgets no symbol that a shape got. -/
theorem lookup_on {id : ShapeId} {symbol : Symbol} (h : table.symbols.lookup id = some symbol) :
    (call.on symbolOf table).2.symbols.lookup id = some symbol := by
  cases call with
  | resolve shape =>
    rw [on_resolve]
    cases hresolve : table.resolve symbolOf shape with
    | ok found => exact (resolve_remembers hresolve).2 id symbol h
    | error failure => exact h
  | claim scope name owner =>
    rw [on_claim]
    cases hclaim : table.claim scope name owner with
    | ok next => exact (claim_spec hclaim).2.2 ▸ h
    | error clash => exact h

/-- A call keeps what is known, of symbols and of owners. -/
theorem sound_on (hsound : table.Sound find symbolOf)
    (hfind : ∀ shape, call = resolve shape → find shape.id = some shape) :
    (call.on symbolOf table).2.Sound find symbolOf ∧ table.Extends (call.on symbolOf table).2 := by
  cases call with
  | resolve shape =>
    rw [on_resolve]
    cases hresolve : table.resolve symbolOf shape with
    | ok found =>
      obtain ⟨-, hnext, hextends, -⟩ := resolve_spec hsound (hfind shape rfl) hresolve
      exact ⟨hnext, hextends⟩
    | error failure => exact ⟨hsound, Extends.refl table⟩
  | claim scope name owner =>
    rw [on_claim]
    cases hclaim : table.claim scope name owner with
    | ok next =>
      obtain ⟨-, hextends, hsymbols⟩ := claim_spec hclaim
      exact ⟨hsound.mono hextends hsymbols, hextends⟩
    | error clash => exact ⟨hsound, Extends.refl table⟩

/-- **A call that succeeds has what it asked for**, and a shape the symbol of the provider. -/
theorem owner?_of_on_eq_ok (hsound : table.Sound find symbolOf)
    (hfind : ∀ shape, call = resolve shape → find shape.id = some shape) {found : Option Symbol}
    (h : (call.on symbolOf table).1 = .ok found) :
    (∀ scope name owner, call.Wants symbolOf scope name owner →
      (call.on symbolOf table).2.owner? scope name = some owner) ∧
    ∀ shape, call = resolve shape → ∃ symbol, found = some symbol ∧ symbolOf shape = .ok symbol ∧
      (call.on symbolOf table).2.symbols.lookup shape.id = some symbol := by
  cases call with
  | resolve shape =>
    rw [on_resolve] at h ⊢
    cases hresolve : table.resolve symbolOf shape with
    | ok result =>
      obtain ⟨hsymbol, -, -, howner⟩ := resolve_spec hsound (hfind shape rfl) hresolve
      simp only [hresolve, Except.ok.injEq] at h
      constructor
      · rintro scope name owner ⟨symbol, hsymbol', hdeclared, rfl, rfl, rfl⟩
        obtain rfl : result.1 = symbol := Except.ok.inj (hsymbol.symm.trans hsymbol')
        exact howner hdeclared
      · intro _ hshape
        obtain rfl := resolve.inj hshape
        exact ⟨result.1, h.symm, hsymbol, (resolve_remembers hresolve).1⟩
    | error failure => simp [hresolve] at h
  | claim scope name owner =>
    rw [on_claim] at h ⊢
    cases hclaim : table.claim scope name owner with
    | ok next =>
      refine ⟨?_, by simp⟩
      rintro _ _ _ ⟨rfl, rfl, rfl⟩
      exact (claim_spec hclaim).1
    | error clash => simp [hclaim] at h

end Call

/-- The table after calls that are made one after another, whether they succeed or not. -/
def after (symbolOf : Shape → Except Failure Symbol) (table : SymbolTable) :
    List Call → SymbolTable
  | [] => table
  | call :: rest => after symbolOf (call.on symbolOf table).2 rest

/-- Calls that are made one after another, each with the answer to it. -/
def history (symbolOf : Shape → Except Failure Symbol) (table : SymbolTable) :
    List Call → List (Call × Except Failure (Option Symbol))
  | [] => []
  | call :: rest =>
    (call, (call.on symbolOf table).1) :: history symbolOf (call.on symbolOf table).2 rest

/-- All calls of a list succeed on a table that is new. -/
def Succeeds (symbolOf : Shape → Except Failure Symbol) (calls : List Call) : Prop :=
  ∀ call answer, (call, answer) ∈ history symbolOf {} calls → ∃ found, answer = .ok found

/-- Every shape has a symbol, and no two calls want one name for different owners. -/
structure Compatible (symbolOf : Shape → Except Failure Symbol) (calls : List Call) : Prop where
  provided : ∀ shape, .resolve shape ∈ calls → ∃ symbol, symbolOf shape = .ok symbol
  agree : ∀ first ∈ calls, ∀ second ∈ calls, ∀ scope name owner owner',
    first.Wants symbolOf scope name owner → second.Wants symbolOf scope name owner' →
      owner = owner'

section History

variable {calls : List Call}

theorem exists_mem_history {call : Call} (h : call ∈ calls) :
    ∃ answer, (call, answer) ∈ history symbolOf table calls := by
  induction calls generalizing table with
  | nil => simp at h
  | cons first rest ih =>
    rcases List.mem_cons.1 h with rfl | h
    · exact ⟨_, List.mem_cons_self⟩
    · obtain ⟨answer, hanswer⟩ := ih h
      exact ⟨answer, List.mem_cons_of_mem _ hanswer⟩

theorem lookup_after {id : ShapeId} {symbol : Symbol}
    (h : table.symbols.lookup id = some symbol) :
    (after symbolOf table calls).symbols.lookup id = some symbol := by
  induction calls generalizing table with
  | nil => exact h
  | cons call rest ih => exact ih (Call.lookup_on h)

/-- **Calls keep a table sound**, whether they succeed or not. -/
theorem sound_after (hsound : table.Sound find symbolOf)
    (hfind : ∀ shape, .resolve shape ∈ calls → find shape.id = some shape) :
    (after symbolOf table calls).Sound find symbolOf := by
  induction calls generalizing table with
  | nil => exact hsound
  | cons first rest ih =>
    have hfirst : ∀ shape, first = .resolve shape → find shape.id = some shape :=
      fun shape h => hfind shape (h ▸ List.mem_cons_self)
    exact ih (Call.sound_on hsound hfirst).1
      fun shape hshape => hfind shape (List.mem_cons_of_mem first hshape)

/-- **At the end, every call that succeeded has what it asked for**: a later call takes nothing
away. -/
theorem owner?_after (hsound : table.Sound find symbolOf)
    (hfind : ∀ shape, .resolve shape ∈ calls → find shape.id = some shape) :
    table.Extends (after symbolOf table calls) ∧
    ∀ call found, (call, .ok found) ∈ history symbolOf table calls →
      (∀ scope name owner, call.Wants symbolOf scope name owner →
        (after symbolOf table calls).owner? scope name = some owner) ∧
      ∀ shape, call = .resolve shape → ∃ symbol, found = some symbol ∧
        symbolOf shape = .ok symbol ∧
        (after symbolOf table calls).symbols.lookup shape.id = some symbol := by
  -- On the calls, from any sound table: what the first call got, the later ones keep.
  induction calls generalizing table with
  | nil => exact ⟨Extends.refl table, by simp [history]⟩
  | cons first rest ih =>
    have hfirst : ∀ shape, first = .resolve shape → find shape.id = some shape :=
      fun shape h => hfind shape (h ▸ List.mem_cons_self)
    obtain ⟨hnext, hextends⟩ := Call.sound_on hsound hfirst
    obtain ⟨hrest, hothers⟩ :=
      ih hnext fun shape hshape => hfind shape (List.mem_cons_of_mem first hshape)
    refine ⟨hextends.trans hrest, fun call found hmem => ?_⟩
    rcases List.mem_cons.1 hmem with h | hmem
    · obtain ⟨rfl, hanswer⟩ := Prod.mk.inj h
      obtain ⟨howner, hsymbol⟩ := Call.owner?_of_on_eq_ok hsound hfirst hanswer.symm
      refine ⟨fun scope name owner hwants => hrest _ _ _ (howner scope name owner hwants), ?_⟩
      intro shape hshape
      obtain ⟨symbol, hfound, hprovided, hlookup⟩ := hsymbol shape hshape
      refine ⟨symbol, hfound, hprovided, ?_⟩
      rw [after]
      exact lookup_after hlookup
    · exact hothers call found hmem

/-- Whatever is owned, some call asked for. -/
def Backed (symbolOf : Shape → Except Failure Symbol) (calls : List Call) (table : SymbolTable) :
    Prop :=
  ∀ scope name owner, table.owner? scope name = some owner →
    ∃ call ∈ calls, call.Wants symbolOf scope name owner

theorem exists_claim {scope name owner : String}
    (h : ∀ first, table.owner? scope name = some first → first = owner) :
    ∃ next, table.claim scope name owner = .ok next ∧ ∀ scope' name' owner',
      next.owner? scope' name' = some owner' → table.owner? scope' name' = some owner' ∨
        (scope = scope' ∧ name = name' ∧ owner = owner') := by
  unfold claim
  cases howner : table.owner? scope name with
  | some first =>
    obtain rfl := h first howner
    exact ⟨table, by simp, fun _ _ _ h => .inl h⟩
  | none =>
    refine ⟨_, rfl, fun scope' name' owner' howner' => ?_⟩
    rcases Entries.lookup_append_singleton howner' with hold | ⟨hkey, hsame⟩
    · exact .inl hold
    · obtain ⟨rfl, rfl⟩ := Prod.mk.inj hkey
      exact .inr ⟨rfl, rfl, hsame⟩

/-- **A call among compatible ones succeeds**, and nothing is owned after it that none asked for. -/
theorem Compatible.exists_on (h : Compatible symbolOf calls) (hbacked : Backed symbolOf calls table)
    {call : Call} (hcall : call ∈ calls) :
    (∃ found, (call.on symbolOf table).1 = .ok found) ∧
      Backed symbolOf calls (call.on symbolOf table).2 := by
  -- An owner in the way would be one that another call asked for, and the two go together.
  have hclaim : ∀ scope name owner, call.Wants symbolOf scope name owner →
      ∃ next, table.claim scope name owner = .ok next ∧ Backed symbolOf calls next := by
    intro scope name owner hwants
    obtain ⟨next, hnext, howner⟩ := exists_claim fun first hfirst => by
      obtain ⟨other, hother, hwants'⟩ := hbacked scope name first hfirst
      exact h.agree other hother call hcall scope name first owner hwants' hwants
    refine ⟨next, hnext, fun scope' name' owner' howner' => ?_⟩
    rcases howner scope' name' owner' howner' with hold | ⟨rfl, rfl, rfl⟩
    · exact hbacked scope' name' owner' hold
    · exact ⟨call, hcall, hwants⟩
  cases call with
  | claim scope name owner =>
    obtain ⟨next, hnext, hbacked'⟩ := hclaim scope name owner ⟨rfl, rfl, rfl⟩
    rw [Call.on_claim, hnext]
    exact ⟨⟨none, rfl⟩, hbacked'⟩
  | resolve shape =>
    rw [Call.on_resolve, resolve]
    cases table.symbols.lookup shape.id with
    | some symbol => exact ⟨⟨some symbol, rfl⟩, hbacked⟩
    | none =>
      obtain ⟨symbol, hsymbol⟩ := h.provided shape hcall
      obtain ⟨next, hnext, hbacked'⟩ : ∃ next, table.declare symbol shape.id = .ok next ∧
          Backed symbolOf calls next := by
        by_cases hdeclared : symbol.isDeclared
        · rw [declare, if_pos hdeclared]
          exact hclaim _ _ _ ⟨symbol, hsymbol, hdeclared, rfl, rfl, rfl⟩
        · rw [declare, if_neg hdeclared]
          exact ⟨table, rfl, hbacked⟩
      simp only [hsymbol, hnext, bind, Except.bind, Except.mapError]
      exact ⟨⟨some symbol, rfl⟩, hbacked'⟩

theorem Compatible.exists_of_mem_history {rest : List Call} (h : Compatible symbolOf calls)
    (hbacked : Backed symbolOf calls table) (hrest : ∀ call ∈ rest, call ∈ calls) {call : Call}
    {answer : Except Failure (Option Symbol)}
    (hmem : (call, answer) ∈ history symbolOf table rest) : ∃ found, answer = .ok found := by
  induction rest generalizing table with
  | nil => simp [history] at hmem
  | cons first rest ih =>
    obtain ⟨hfound, hnext⟩ := h.exists_on hbacked (hrest first List.mem_cons_self)
    rcases List.mem_cons.1 hmem with hmem | hmem
    · obtain ⟨rfl, rfl⟩ := Prod.mk.inj hmem
      exact hfound
    · exact ih hnext (fun other hother => hrest other (List.mem_cons_of_mem first hother)) hmem

/-- **A list of calls succeeds as a whole exactly if its calls are compatible.** -/
theorem succeeds_iff (hfind : ∀ shape, .resolve shape ∈ calls → find shape.id = some shape) :
    Succeeds symbolOf calls ↔ Compatible symbolOf calls := by
  constructor
  · intro h
    have hfinal : ∀ call ∈ calls, ∃ found, (call, .ok found) ∈ history symbolOf {} calls := by
      intro call hcall
      obtain ⟨answer, hanswer⟩ := exists_mem_history hcall
      obtain ⟨found, rfl⟩ := h call answer hanswer
      exact ⟨found, hanswer⟩
    obtain ⟨-, hstands⟩ := owner?_after Sound.empty hfind
    constructor
    · intro shape hshape
      obtain ⟨found, hmem⟩ := hfinal _ hshape
      obtain ⟨symbol, -, hsymbol, -⟩ := (hstands _ found hmem).2 shape rfl
      exact ⟨symbol, hsymbol⟩
    · -- What two calls want stands in the last table, where a name has one owner.
      intro first hfirst second hsecond scope name owner owner' hwants hwants'
      obtain ⟨found, hmem⟩ := hfinal first hfirst
      obtain ⟨found', hmem'⟩ := hfinal second hsecond
      have howner := (hstands first found hmem).1 scope name owner hwants
      have howner' := (hstands second found' hmem').1 scope name owner' hwants'
      exact Option.some.inj (howner.symm.trans howner')
  · intro h call answer hmem
    exact h.exists_of_mem_history (by simp [Backed, owner?]) (fun _ hcall => hcall) hmem

theorem Compatible.of_perm {calls' : List Call} (h : Compatible symbolOf calls)
    (hperm : calls.Perm calls') : Compatible symbolOf calls' where
  provided shape hshape := h.provided shape (hperm.mem_iff.2 hshape)
  agree first hfirst second hsecond :=
    h.agree first (hperm.mem_iff.2 hfirst) second (hperm.mem_iff.2 hsecond)

/-- Where all calls succeed, a shape gets the symbol of the provider whenever it is resolved. -/
theorem Succeeds.answer_eq (h : Succeeds symbolOf calls)
    (hfind : ∀ shape, .resolve shape ∈ calls → find shape.id = some shape) {shape : Shape}
    {symbol : Symbol} (hshape : .resolve shape ∈ calls) (hsymbol : symbolOf shape = .ok symbol) :
    (∀ answer, (.resolve shape, answer) ∈ history symbolOf {} calls →
      answer = .ok (some symbol)) ∧
    (after symbolOf {} calls).symbols.lookup shape.id = some symbol := by
  have hanswer : ∀ answer, (.resolve shape, answer) ∈ history symbolOf {} calls →
      answer = .ok (some symbol) ∧
        (after symbolOf {} calls).symbols.lookup shape.id = some symbol := by
    intro answer hmem
    obtain ⟨found, rfl⟩ := h _ answer hmem
    obtain ⟨other, rfl, hother, hlookup⟩ :=
      ((owner?_after Sound.empty hfind).2 _ found hmem).2 shape rfl
    obtain rfl : symbol = other := Except.ok.inj (hsymbol.symm.trans hother)
    exact ⟨rfl, hlookup⟩
  obtain ⟨answer, hmem⟩ := exists_mem_history hshape
  exact ⟨fun answer hmem => (hanswer answer hmem).1, (hanswer answer hmem).2⟩

theorem after_append {rest : List Call} :
    after symbolOf table (calls ++ rest) = after symbolOf (after symbolOf table calls) rest := by
  induction calls generalizing table with
  | nil => rfl
  | cons call others ih => exact ih

/-- **A shape that got a symbol gets it again**, whatever was called in between. -/
theorem on_after_resolve {shape : Shape} {found : Option Symbol} {between : List Call}
    (h : (Call.on symbolOf table (.resolve shape)).1 = .ok found) :
    Call.on symbolOf (after symbolOf table (.resolve shape :: between)) (.resolve shape)
      = (.ok found, after symbolOf table (.resolve shape :: between)) := by
  rw [Call.on_resolve] at h
  cases hresolve : table.resolve symbolOf shape with
  | error failure => simp [hresolve] at h
  | ok result =>
    simp only [hresolve, Except.ok.injEq] at h
    have hlater : (after symbolOf table (.resolve shape :: between)).symbols.lookup shape.id
        = some result.1 := by
      rw [after, Call.on_resolve, hresolve]
      exact lookup_after (resolve_remembers hresolve).1
    rw [Call.on_resolve, resolve_of_lookup hlater, ← h]

/-- **The order of calls decides nothing.**  Of two orders of the same calls, one succeeds as a
whole if the other does, and then they give every shape the same symbol.  In any list of calls, a
call that fails leaves the table as it was, and a shape that got a symbol gets it again, at any
later time and without a change of the table. -/
theorem calls_commute {model : Model} {calls' : List Call} (hperm : calls.Perm calls')
    (hmodel : ∀ shape, .resolve shape ∈ calls → model.shape? shape.id = some shape) :
    (Succeeds symbolOf calls ↔ Succeeds symbolOf calls') ∧
    (Succeeds symbolOf calls → ∀ shape, .resolve shape ∈ calls → ∃ symbol,
      ∀ order ∈ [calls, calls'],
        (∀ answer, (.resolve shape, answer) ∈ history symbolOf {} order →
          answer = .ok (some symbol)) ∧
        (after symbolOf {} order).symbols.lookup shape.id = some symbol) ∧
    (∀ before call failure, (Call.on symbolOf (after symbolOf {} before) call).1 = .error failure →
      (Call.on symbolOf (after symbolOf {} before) call).2 = after symbolOf {} before) ∧
    ∀ before between shape found,
      (Call.on symbolOf (after symbolOf {} before) (.resolve shape)).1 = .ok found →
      Call.on symbolOf (after symbolOf {} (before ++ .resolve shape :: between)) (.resolve shape)
        = (.ok found, after symbolOf {} (before ++ .resolve shape :: between)) := by
  have hmodel' : ∀ shape, .resolve shape ∈ calls' → model.shape? shape.id = some shape :=
    fun shape hshape => hmodel shape (hperm.mem_iff.2 hshape)
  have hsucceeds : Succeeds symbolOf calls ↔ Succeeds symbolOf calls' := by
    rw [succeeds_iff hmodel, succeeds_iff hmodel']
    exact ⟨fun h => h.of_perm hperm, fun h => h.of_perm hperm.symm⟩
  refine ⟨hsucceeds, ?_, fun before call failure => Call.table_of_on_eq_error, ?_⟩
  · intro h shape hshape
    obtain ⟨symbol, hsymbol⟩ := ((succeeds_iff hmodel).1 h).provided shape hshape
    refine ⟨symbol, fun order horder => ?_⟩
    rcases List.mem_pair.1 horder with rfl | rfl
    · exact h.answer_eq hmodel hshape hsymbol
    · exact (hsucceeds.1 h).answer_eq hmodel' (hperm.mem_iff.1 hshape) hsymbol
  · intro before between shape found hfound
    rw [after_append]
    exact on_after_resolve hfound

end History

/-! ## A shape and a name that is claimed beside it -/

namespace Greeting

def shape : Shape where
  id := { ns := "a", name := "Greeting" }
  type := .struct

def model : Model :=
  .ofShapes [shape]

/-- The type is resolved, then two names are claimed for the shape: a new one and the type's. -/
def calls : List Call :=
  [.resolve shape, .claim "m/types" "NewGreeting" shape.id.text,
    .claim "m/types" "Greeting" shape.id.text]

end Greeting

/-- A name that is claimed for a shape first may be claimed for its symbol later. -/
theorem calls_commute_greeting :
    Greeting.calls.Perm Greeting.calls.reverse ∧
      (∀ shape, .resolve shape ∈ Greeting.calls →
        Greeting.model.shape? shape.id = some shape) ∧
      Succeeds (Greeting.model.symbolOf "m") Greeting.calls ∧
      Succeeds (Greeting.model.symbolOf "m") Greeting.calls.reverse := by
  have hperm : Greeting.calls.Perm Greeting.calls.reverse := (List.reverse_perm _).symm
  have hmodel : ∀ shape, .resolve shape ∈ Greeting.calls →
      Greeting.model.shape? shape.id = some shape := by
    intro shape hshape
    obtain rfl : shape = Greeting.shape := by simpa [Greeting.calls] using hshape
    rfl
  have hall : (history (Greeting.model.symbolOf "m") {} Greeting.calls).all
      (fun entry => entry.2.isOk) = true := by decide +kernel
  have hsucceeds : Succeeds (Greeting.model.symbolOf "m") Greeting.calls := by
    intro call answer hmem
    have hok : answer.isOk = true := List.all_eq_true.1 hall _ hmem
    cases answer with
    | ok found => exact ⟨found, rfl⟩
    | error failure => simp [Except.isOk, Except.toBool] at hok
  exact ⟨hperm, hmodel, hsucceeds, (calls_commute hperm hmodel).1.1 hsucceeds⟩

end SymbolTable

end ClientGen
