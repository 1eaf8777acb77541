import ClientGen.Proofs.Success
import ClientGen.Proofs.Symbol.OfShape
import ClientGen.Template.Basic

/-!
# Symbols that templates write

A template is given symbols, but it need not write them, and it can write less of them than their
full name.  A print statement writes a symbol if it follows records and lists to it and puts its
full name or its pointer form into the text as it is.  Every symbol that is written was given, so
its packages are among those that the arguments need.

## Main definitions

* `Value.written?`, `Print.written?`, `Template.written` — the symbols that are written.

## Main results

* `Template.renderText_of_mem_written` — what is written stands in the text.
* `Template.dependencies_subset_of_mem_written` — what is written was given.
-/

namespace ClientGen

namespace Filter

/-- Whether the filter leaves texts as they are. -/
def keepsText : Filter → Bool
  | pointer | name => true
  | snake | camel | pascal | quote => false

/-- Whether filters leave a symbol as its full name or its pointer form. -/
def showSymbol : List Filter → Bool
  | [] => true
  | pointer :: rest => rest.all keepsText
  | _ => false

theorem foldlM_applyFilter_ofText {filters : List Filter} (h : filters.all keepsText = true)
    (text : String) : filters.foldlM Template.applyFilter (.ofText text) = .ok (.ofText text) := by
  induction filters with
  | nil => rfl
  | cons filter rest ih =>
    obtain ⟨hfilter, hrest⟩ := Bool.and_eq_true_iff.1 h
    have hkept : Template.applyFilter (.ofText text) filter = .ok (.ofText text) := by
      cases filter <;> first | rfl | simp [keepsText] at hfilter
    rw [List.foldlM_cons, hkept]
    exact ih hrest

theorem foldlM_applyFilter_symbol {filters : List Filter} (h : showSymbol filters = true)
    (symbol : Symbol) : ∃ shown, filters.foldlM Template.applyFilter (.symbol symbol) = .ok shown ∧
      (shown.text = symbol.fullName ∨ shown.text = symbol.pointer) := by
  unfold showSymbol at h
  split at h
  · exact ⟨_, rfl, .inl rfl⟩
  · exact ⟨_, foldlM_applyFilter_ofText h symbol.pointer, .inr rfl⟩
  · simp at h

end Filter

/-! ## Values -/

namespace Value

/-- The symbol of which accesses and filters write the full name or the pointer form. -/
def written? : Value → List Access → List Filter → Option Symbol
  | symbol found, [], filters => if Filter.showSymbol filters then some found else none
  | symbol found, [.part name], filters =>
    if (name == "full_name" || name == "pointer") && filters.all Filter.keepsText then some found
    else none
  | record fields, .part name :: rest, filters =>
    (fields.lookup name).bind fun value => value.written? rest filters
  | list items, .element index :: rest, filters =>
    items[index]?.bind fun value => value.written? rest filters
  | _, _, _ => none
termination_by structural _ accesses => accesses

variable {value : Value} {accesses : List Access} {filters : List Filter} {found : Symbol}

theorem dependencies_subset_of_lookup {fields : List (String × Value)} {name : String}
    (h : fields.lookup name = some value) : value.dependencies ⊆ dependenciesFields fields := by
  induction fields with
  | nil => simp at h
  | cons field rest ih =>
    obtain ⟨key, first⟩ := field
    rw [List.lookup_cons] at h
    rw [dependenciesFields]
    split at h
    · obtain rfl := Option.some.inj h
      exact List.subset_append_left _ _
    · exact List.subset_append_of_subset_right _ (ih h)

theorem dependencies_subset_of_getElem? {items : List Value} {index : Nat}
    (h : items[index]? = some value) : value.dependencies ⊆ dependenciesItems items := by
  induction items generalizing index with
  | nil => simp at h
  | cons first rest ih =>
    rw [dependenciesItems]
    cases index with
    | zero =>
      obtain rfl : first = value := by simpa using h
      exact List.subset_append_left _ _
    | succ index => exact List.subset_append_of_subset_right _ (ih (by simpa using h))

/-- The packages of a written symbol are needed by the value that it is part of. -/
theorem dependencies_subset_of_written? (h : value.written? accesses filters = some found) :
    found.dependencies ⊆ value.dependencies := by
  -- Along the accesses: the symbol itself, its full name or pointer form, a field, an element.
  fun_induction written? value accesses filters with
  | case1 symbol filters hshow =>
    obtain rfl := Option.some.inj h
    exact List.Subset.refl _
  | case3 symbol name filters hshow =>
    obtain rfl := Option.some.inj h
    exact List.Subset.refl _
  | case5 fields name rest filters ih =>
    obtain ⟨value, hlookup, hwritten⟩ := Option.bind_eq_some_iff.1 h
    exact List.Subset.trans (ih value hwritten) (dependencies_subset_of_lookup hlookup)
  | case6 items index rest filters ih =>
    obtain ⟨value, helement, hwritten⟩ := Option.bind_eq_some_iff.1 h
    exact List.Subset.trans (ih value hwritten) (dependencies_subset_of_getElem? helement)
  | case2 | case4 | case7 => simp at h

theorem eq_of_written?_symbol {symbol : Symbol}
    (h : (Value.symbol symbol).written? accesses filters = some found) : found = symbol := by
  unfold written? at h
  split at h <;> simp_all

/-! ## Text -/

theorem lookup_relativeToFields (path : Option String) (fields : List (String × Value))
    (name : String) :
    (relativeToFields path fields).lookup name = (fields.lookup name).map (relativeTo path) := by
  induction fields with
  | nil => rfl
  | cons field rest ih =>
    obtain ⟨key, first⟩ := field
    rw [relativeToFields, List.lookup_cons, List.lookup_cons, ih]
    split <;> rfl

theorem getElem?_relativeToItems (path : Option String) (items : List Value) (index : Nat) :
    (relativeToItems path items)[index]? = items[index]?.map (relativeTo path) := by
  induction items generalizing index with
  | nil => rfl
  | cons first rest ih =>
    cases index with
    | zero => simp [relativeToItems]
    | succ index => simpa [relativeToItems] using ih index

/-- What accesses and filters make of a symbol that they write, in the package of a path. -/
theorem text_of_written? (path : Option String) (h : value.written? accesses filters = some found) :
    ∃ part shown, Template.follow (value.relativeTo path) accesses = .ok part ∧
      filters.foldlM Template.applyFilter part = .ok shown ∧
      (shown.text = (found.relativeTo path).fullName ∨
        shown.text = (found.relativeTo path).pointer) := by
  fun_induction written? value accesses filters with
  | case1 symbol filters hshow =>
    obtain rfl := Option.some.inj h
    obtain ⟨shown, hshown, htext⟩ := Filter.foldlM_applyFilter_symbol hshow (symbol.relativeTo path)
    exact ⟨_, shown, rfl, hshown, htext⟩
  | case3 symbol name filters hshow =>
    obtain rfl := Option.some.inj h
    simp only [Bool.and_eq_true, Bool.or_eq_true, beq_iff_eq] at hshow
    obtain ⟨rfl | rfl, hkeep⟩ := hshow
    · exact ⟨_, _, rfl, Filter.foldlM_applyFilter_ofText hkeep _, .inl rfl⟩
    · exact ⟨_, _, rfl, Filter.foldlM_applyFilter_ofText hkeep _, .inr rfl⟩
  | case5 fields name rest filters ih =>
    obtain ⟨value, hlookup, hwritten⟩ := Option.bind_eq_some_iff.1 h
    obtain ⟨part, shown, hfollow, hshown, htext⟩ := ih value hwritten
    refine ⟨part, shown, ?_, hshown, htext⟩
    simp only [relativeTo, Template.follow, Access.of, part?, lookup_relativeToFields, hlookup,
      Option.map_some]
    exact hfollow
  | case6 items index rest filters ih =>
    obtain ⟨value, helement, hwritten⟩ := Option.bind_eq_some_iff.1 h
    obtain ⟨part, shown, hfollow, hshown, htext⟩ := ih value hwritten
    refine ⟨part, shown, ?_, hshown, htext⟩
    simp only [relativeTo, Template.follow, Access.of, element?, getElem?_relativeToItems, helement,
      Option.map_some]
    exact hfollow
  | case2 | case4 | case7 => simp at h

end Value

/-! ## Templates -/

/-- The symbol that a print statement writes. -/
def Print.written? (print : Print) (args : Arguments) : Option Symbol :=
  (args.lookup print.name).bind fun value => value.written? print.accesses print.filters

namespace Template

/-- The symbols that a template writes. -/
def written (template : Template) (args : Arguments) : List Symbol :=
  template.filterMap fun
    | .text _ => none
    | .print statement => statement.written? args

variable {args : Arguments} {symbol : Symbol}

/-- **A statement that writes a symbol** has its full name or its pointer form as its text, as they
are in the package of a path. -/
theorem renderPrint_of_written? (path : Option String) {print : Print}
    (h : print.written? args = some symbol) :
    ∃ text, renderPrint print (Value.relativeToFields path args) = .ok text ∧
      (text = (symbol.relativeTo path).fullName ∨ text = (symbol.relativeTo path).pointer) := by
  obtain ⟨value, hlookup, hwritten⟩ := Option.bind_eq_some_iff.1 h
  obtain ⟨part, shown, hfollow, hshown, htext⟩ := Value.text_of_written? path hwritten
  refine ⟨shown.text, ?_, htext⟩
  simp only [renderPrint, subject, Value.lookup_relativeToFields, hlookup, Option.map_some, hfollow,
    hshown]

/-- **A text that holds a template** is rendered piece by piece. -/
theorem exists_of_renderText {source text : String} {args : Arguments}
    (h : renderText source args = .ok text) : ∃ template texts, parse source = .ok template ∧
      List.Forall₂ (fun piece text => renderPiece args piece = .ok text) template texts ∧
      text = String.join texts := by
  unfold renderText at h
  obtain ⟨template, hparse, h⟩ := bind_eq_ok.1 h
  dsimp only at h
  split at h
  · cases h
  · obtain ⟨texts, htexts, hjoin⟩ := bind_eq_ok.1 (mapError_eq_ok.1 h)
    exact ⟨template, texts, mapError_eq_ok.1 hparse, mapM_eq_ok.1 htexts,
      (pure_eq_ok.1 hjoin).symm⟩

/-- **What is written stands in the text** by the name that it has in the package of a path. -/
theorem renderText_of_mem_written (path : Option String) {source text : String}
    {template : Template} (hparse : parse source = .ok template)
    (h : symbol ∈ template.written args)
    (htext : renderText source (Value.relativeToFields path args) = .ok text) :
    ∃ before after, text = before ++ Symbol.qualified (symbol.relativeTo path).core ++ after := by
  obtain ⟨piece, hpiece, hwritten⟩ := List.mem_filterMap.1 h
  cases piece with
  | text literal => simp at hwritten
  | print statement =>
    obtain ⟨_, texts, hfound, htexts, rfl⟩ := exists_of_renderText htext
    obtain rfl := Except.ok.inj (hparse.symm.trans hfound)
    obtain ⟨part, hpart, hrender⟩ := exists_mem_of_mapM (mapM_eq_ok.2 htexts) hpiece
    obtain ⟨shown, hprint, hshown⟩ := renderPrint_of_written? path hwritten
    obtain rfl : shown = part := Except.ok.inj (hprint.symm.trans hrender)
    obtain ⟨signs, rfl⟩ : ∃ signs,
        shown = signs ++ Symbol.qualified (symbol.relativeTo path).core := by
      rcases hshown with rfl | rfl
      · exact Symbol.fullName_eq_append_qualified _
      · exact ⟨_, Symbol.pointer_eq _⟩
    obtain ⟨before, after, rfl⟩ := List.append_of_mem hpart
    exact ⟨String.join before ++ signs, String.join after, by simp [String.append_assoc]⟩

/-- **What is written was given.** -/
theorem dependencies_subset_of_mem_written {template : Template}
    (h : symbol ∈ template.written args) :
    symbol.dependencies ⊆ Value.dependenciesFields args := by
  obtain ⟨piece, -, hpiece⟩ := List.mem_filterMap.1 h
  cases piece with
  | text literal => simp at hpiece
  | print statement =>
    obtain ⟨value, hlookup, hwritten⟩ := Option.bind_eq_some_iff.1 hpiece
    exact List.Subset.trans (Value.dependencies_subset_of_written? hwritten)
      (Value.dependencies_subset_of_lookup hlookup)

end Template

end ClientGen
