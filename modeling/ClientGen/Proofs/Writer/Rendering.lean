import ClientGen.Proofs.Symbol.OfShape
import ClientGen.Proofs.Template.Rendering
import ClientGen.Proofs.Writer.Step

/-!
# Symbols that steps render

Steps note the packages of every symbol that they are given, but code needs a package only where a
symbol is rendered with it.  In its own package a symbol goes by its name alone, and so does one of
which only the name is asked for.  Notes are exact, as seen from a package, if the two agree on
every package but that one.

## Main definitions

* `Symbol.IsBuilt` — values, references, and slices and maps of them.
* `Symbol.package?` — the path of the package that a symbol comes from and the name before the dot.
* `Step.rendered`, `Step.renderedAll` — the symbols that a step renders, or steps.
* `Writer.Shows` — a text in a unit contains a part.
* `Imports.Exact` — packages that are noted are those of rendered symbols, the own one apart.

## Main results

* `Step.dependencies_subset_of_mem_renderedAll` — what is rendered was noted.
* `Writer.shows_run` — what is rendered stands in the unit.
* `Step.exact_of_allFaithful` — steps whose parts are faithful have exact notes.
-/

namespace ClientGen

/-! ## Symbols -/

namespace Symbol

/-- Symbols that are built from values and references by slices and maps. -/
inductive IsBuilt : Symbol → Prop where
  | value (name : String) (dependency : Option Dependency) : IsBuilt (value name dependency)
  | reference (name : String) (dependency : Option Dependency) : IsBuilt (reference name dependency)
  | slice {element : Symbol} (h : IsBuilt element) : IsBuilt element.slice
  | map {element : Symbol} (key : String) (h : IsBuilt element) : IsBuilt (element.map key)

/-- The path of the package that the core comes from, and the name that stands in front of it. -/
def package? (symbol : Symbol) : Option (String × String) :=
  symbol.core.dependency.map fun dependency => (dependency.path, symbol.core.qualifier)

/-- The core is qualified with the name of its package. -/
def IsQualified (symbol : Symbol) : Prop :=
  ∀ dependency ∈ symbol.core.dependency, symbol.core.qualifier = dependency.name

theorem IsBuilt.isQualified {symbol : Symbol} (h : symbol.IsBuilt) : symbol.IsQualified := by
  induction h with
  | value name dependency =>
    rintro _ rfl
    rfl
  | reference name dependency =>
    rintro _ rfl
    rfl
  | slice _ ih => exact ih
  | map _ _ ih => exact ih

/-- The package of a qualified symbol is the one that it needs. -/
theorem IsQualified.package?_eq_some_iff {symbol : Symbol} (h : symbol.IsQualified)
    {package : String × String} :
    symbol.package? = some package ↔
      ∃ dependency ∈ symbol.dependencies, dependency.key = package := by
  rw [package?, dependencies_eq_core]
  cases hdependency : symbol.core.dependency with
  | none => simp
  | some dependency =>
    rw [h dependency (by simp [hdependency])]
    simp [Dependency.key]

/-- Where another package than its own renders it, a symbol is qualified. -/
theorem qualified_core_relativeTo {path : Option String} {symbol : Symbol}
    {package : String × String} (h : symbol.package? = some package)
    (hpath : path ≠ some package.1) :
    qualified (symbol.relativeTo path).core = qualified symbol.core := by
  obtain ⟨dependency, hdependency, rfl⟩ := Option.map_eq_some_iff.1 h
  have hother : symbol.isAt path = false := by
    rw [isAt, hdependency, Option.any_some, beq_eq_false_iff_ne]
    exact Ne.symm hpath
  rw [qualified_core_eq_ite, hother]
  rfl

end Symbol

/-! ## What is rendered -/

/-- The symbols that a part renders with their packages. -/
def Part.rendered : Part → List Symbol
  | .full symbol | .pointer symbol => [symbol]
  | .name _ | .text _ | .quoted _ => []

/-- A rendered symbol stands at the end of the part, behind signs. -/
theorem Part.render_of_mem_rendered (path : Option String) {part : Part} {symbol : Symbol}
    (h : symbol ∈ part.rendered) :
    ∃ signs, part.render path = signs ++ Symbol.qualified (symbol.relativeTo path).core := by
  cases part with
  | full found =>
    obtain rfl := List.mem_singleton.1 h
    exact Symbol.fullName_eq_append_qualified _
  | pointer found =>
    obtain rfl := List.mem_singleton.1 h
    exact ⟨_, Symbol.pointer_eq _⟩
  | name found => simp [rendered] at h
  | text literal => simp [rendered] at h
  | quoted literal => simp [rendered] at h

/-- The symbols that a phrase renders; a template that cannot be read renders none. -/
def Phrase.rendered : Phrase → List Symbol
  | .parts found => found.flatMap Part.rendered
  | .template source args =>
    match Template.parse source with
    | .ok found => found.written args
    | .error _ => []

/-- A rendered symbol stands in the text of the phrase. -/
theorem Phrase.render_of_mem_rendered {path : Option String} {phrase : Phrase} {symbol : Symbol}
    {text : String} (h : symbol ∈ phrase.rendered) (htext : phrase.render path = .ok text) :
    ∃ before after, text = before ++ Symbol.qualified (symbol.relativeTo path).core ++ after := by
  cases phrase with
  | parts found =>
    obtain ⟨part, hpart, hsymbol⟩ := List.mem_flatMap.1 h
    obtain ⟨signs, hsigns⟩ := Part.render_of_mem_rendered path hsymbol
    obtain ⟨before, after, rfl⟩ := List.append_of_mem hpart
    obtain rfl := Except.ok.inj htext
    exact ⟨String.join (before.map (Part.render path)) ++ signs,
      String.join (after.map (Part.render path)), by simp [hsigns, String.append_assoc]⟩
  | template source args =>
    rw [rendered] at h
    split at h
    · rename_i hparse
      exact Template.renderText_of_mem_written path hparse h htext
    · simp at h

theorem Part.dependencies_subset_of_mem_rendered {part : Part} {symbol : Symbol}
    (h : symbol ∈ part.rendered) : symbol.dependencies ⊆ part.dependencies := by
  cases part <;> simp_all [rendered, dependencies]

theorem Phrase.dependencies_subset_of_mem_rendered {phrase : Phrase} {symbol : Symbol}
    (h : symbol ∈ phrase.rendered) : symbol.dependencies ⊆ phrase.dependencies := by
  cases phrase with
  | parts found =>
    obtain ⟨part, hpart, hsymbol⟩ := List.mem_flatMap.1 h
    exact fun dependency hdependency => List.mem_flatMap.2
      ⟨part, hpart, Part.dependencies_subset_of_mem_rendered hsymbol hdependency⟩
  | template source args =>
    rw [rendered] at h
    split at h
    · exact Template.dependencies_subset_of_mem_written h
    · simp at h

namespace Step

mutual

/-- The symbols that a step renders, those of a block's body included. -/
def rendered : Step → List Symbol
  | .write phrase => phrase.rendered
  | .block opening closing body => opening.rendered ++ (renderedAll body ++ closing.rendered)
  | .blank | .docs _ | .packageDocs _ | .indent _ | .dedent _ | .use _ | .fail _ => []
termination_by structural step => step

/-- The symbols that steps render. -/
def renderedAll : List Step → List Symbol
  | [] => []
  | step :: rest => rendered step ++ renderedAll rest
termination_by structural steps => steps

end

theorem renderedAll_append (first second : List Step) :
    renderedAll (first ++ second) = renderedAll first ++ renderedAll second := by
  induction first with
  | nil => rfl
  | cons step rest ih => simp [renderedAll, ih]

theorem renderedAll_flatMap {α : Type} (xs : List α) (steps : α → List Step) :
    renderedAll (xs.flatMap steps) = xs.flatMap fun x => renderedAll (steps x) := by
  induction xs with
  | nil => rfl
  | cons x rest ih => rw [List.flatMap_cons, renderedAll_append, ih, List.flatMap_cons]

mutual

theorem dependencies_subset_of_mem_rendered {symbol : Symbol} :
    ∀ {step : Step}, symbol ∈ step.rendered → symbol.dependencies ⊆ step.uses
  | .write phrase => fun h => Phrase.dependencies_subset_of_mem_rendered h
  | .block opening closing body => fun h => by
    rw [rendered, List.mem_append, List.mem_append] at h
    rw [uses]
    rcases h with h | h | h
    · exact List.subset_append_of_subset_left _ (Phrase.dependencies_subset_of_mem_rendered h)
    · exact List.subset_append_of_subset_right _
        (List.subset_append_of_subset_left _ (dependencies_subset_of_mem_renderedAll h))
    · exact List.subset_append_of_subset_right _
        (List.subset_append_of_subset_right _ (Phrase.dependencies_subset_of_mem_rendered h))
  | .blank | .docs _ | .packageDocs _ | .indent _ | .dedent _ | .use _ | .fail _ => fun h => by
    simp [rendered] at h
termination_by structural step => step

/-- **What is rendered was noted.** -/
theorem dependencies_subset_of_mem_renderedAll {symbol : Symbol} :
    ∀ {steps : List Step}, symbol ∈ renderedAll steps → symbol.dependencies ⊆ usesAll steps
  | [] => fun h => by simp [renderedAll] at h
  | step :: rest => fun h => by
    rw [renderedAll, List.mem_append] at h
    rw [usesAll]
    rcases h with h | h
    · exact List.subset_append_of_subset_left _ (dependencies_subset_of_mem_rendered h)
    · exact List.subset_append_of_subset_right _ (dependencies_subset_of_mem_renderedAll h)
termination_by structural steps => steps

end

end Step

/-! ## The text of a unit -/

namespace Writer

/-- A text that was written to the unit contains the part: its lines stand in the unit, those that
are not blank behind one margin. -/
def Shows (writer : Writer) (part : String) : Prop :=
  ∃ before after margin,
    (Text.lines (before ++ part ++ after)).map (indented margin) <:+: writer.lines

variable {writer : Writer} {symbol : Symbol} {path : Option String}

theorem Shows.mono {part : String} {after : Writer} (h : writer.Shows part)
    (hlines : writer.lines <+: after.lines) : after.Shows part := by
  obtain ⟨first, last, margin, hshown⟩ := h
  exact ⟨first, last, margin, hshown.trans hlines.isInfix⟩

theorem shows_write {phrase : Phrase} (hpath : writer.imports.ownPath = path)
    (h : (writer.write phrase).2 = none) (hmem : symbol ∈ phrase.rendered) :
    (writer.write phrase).1.Shows (Symbol.qualified (symbol.relativeTo path).core) := by
  obtain ⟨text, hrender, hwrite⟩ := write_eq_of_success h
  rw [hpath] at hrender
  obtain ⟨first, last, rfl⟩ := Phrase.render_of_mem_rendered hmem hrender
  rw [hwrite]
  exact ⟨first, last, _, (List.suffix_append _ _).isInfix⟩

mutual

theorem shows_perform {writer : Writer} (hpath : writer.imports.ownPath = path) :
    ∀ {step : Step}, (writer.perform step).2 = none → symbol ∈ step.rendered →
      (writer.perform step).1.Shows (Symbol.qualified (symbol.relativeTo path).core)
  | .write phrase => shows_write hpath
  | .block opening closing body => fun h hmem => by
    rw [perform] at h ⊢
    obtain ⟨hopening, heq⟩ := Outcome.andThen_eq h
    rw [heq] at h ⊢
    obtain ⟨hbody, heq⟩ := Outcome.andThen_eq h
    rw [heq] at h ⊢
    obtain ⟨hdedent, heq⟩ := Outcome.andThen_eq h
    rw [heq] at h ⊢
    have hinside : (writer.write opening).1.indent.imports.ownPath = path := by
      show (writer.write opening).1.imports.ownPath = path
      rw [imports_write hopening, Imports.ownPath_trackAll, hpath]
    have hkept := prefix_lines_write
      ((writer.write opening).1.indent.run body).1.dedent.1 closing
    rw [lines_dedent] at hkept
    rw [Step.rendered, List.mem_append, List.mem_append] at hmem
    rcases hmem with hmem | hmem | hmem
    · have hshown := (shows_write hpath hopening hmem).mono
        (prefix_lines_run (writer.write opening).1.indent body)
      exact hshown.mono hkept
    · exact (shows_run hinside hbody hmem).mono hkept
    · refine shows_write ?_ h hmem
      rw [imports_dedent hdedent, imports_run hbody, Imports.ownPath_trackAll, hinside]
  | .blank | .docs _ | .packageDocs _ | .indent _ | .dedent _ | .use _ | .fail _ =>
    fun _ hmem => by simp [Step.rendered] at hmem
termination_by structural step => step

/-- **Rendered symbols stand in the unit** by the names that they have in its package. -/
theorem shows_run {writer : Writer} (hpath : writer.imports.ownPath = path) :
    ∀ {steps : List Step}, (writer.run steps).2 = none → symbol ∈ Step.renderedAll steps →
      (writer.run steps).1.Shows (Symbol.qualified (symbol.relativeTo path).core)
  | [] => fun _ hmem => by simp [Step.renderedAll] at hmem
  | step :: rest => fun h hmem => by
    obtain ⟨hstep, heq⟩ := run_cons_eq h
    rw [heq] at h ⊢
    rw [Step.renderedAll, List.mem_append] at hmem
    rcases hmem with hmem | hmem
    · exact (shows_perform hpath hstep hmem).mono (prefix_lines_run _ rest)
    · refine shows_run ?_ h hmem
      rw [imports_perform hstep, Imports.ownPath_trackAll, hpath]
termination_by structural steps => steps

end

end Writer

/-! ## Exactness -/

namespace Imports

/-- Packages that are noted are those of rendered symbols, except for the own one. -/
def Exact (own : Option String) (noted : List Dependency) (rendered : List Symbol) : Prop :=
  ∀ package : String × String, IsForeign own package.1 →
    ((∃ dependency ∈ noted, dependency.key = package) ↔
      ∃ symbol ∈ rendered, symbol.package? = some package)

variable {own : Option String}

theorem Exact.nil : Exact own [] [] := fun _ _ => by simp

theorem Exact.append {noted noted' : List Dependency} {rendered rendered' : List Symbol}
    (h : Exact own noted rendered) (h' : Exact own noted' rendered') :
    Exact own (noted ++ noted') (rendered ++ rendered') := by
  intro package hforeign
  simp only [List.mem_append, or_and_right, exists_or, h package hforeign, h' package hforeign]

theorem exact_of_isQualified {symbol : Symbol} (h : symbol.IsQualified) :
    Exact own symbol.dependencies [symbol] := by
  intro package _
  simp [h.package?_eq_some_iff]

theorem Exact.flatMap {α : Type} {xs : List α} {noted : α → List Dependency}
    {rendered : α → List Symbol} (h : ∀ x ∈ xs, Exact own (noted x) (rendered x)) :
    Exact own (xs.flatMap noted) (xs.flatMap rendered) := by
  induction xs with
  | nil => exact .nil
  | cons x rest ih =>
    exact (h x List.mem_cons_self).append (ih fun y hy => h y (List.mem_cons_of_mem x hy))

/-- Notes are exact where qualified symbols are rendered and all others are left out. -/
theorem exact_of_forall {noted : List Dependency} {rendered : List Symbol}
    (hqualified : ∀ symbol ∈ rendered, symbol.IsQualified)
    (hrendered : ∀ symbol ∈ rendered, symbol.dependencies ⊆ noted)
    (hnoted : ∀ dependency ∈ noted, ∃ symbol ∈ rendered, dependency ∈ symbol.dependencies) :
    Exact own noted rendered := by
  -- This holds for the own package too, as every note has its symbol and every symbol its note.
  intro package _
  constructor
  · rintro ⟨dependency, hdependency, hkey⟩
    obtain ⟨symbol, hsymbol, hmem⟩ := hnoted dependency hdependency
    exact ⟨symbol, hsymbol, (hqualified symbol hsymbol).package?_eq_some_iff.2
      ⟨dependency, hmem, hkey⟩⟩
  · rintro ⟨symbol, hsymbol, hpackage⟩
    obtain ⟨dependency, hmem, hkey⟩ := (hqualified symbol hsymbol).package?_eq_some_iff.1 hpackage
    exact ⟨dependency, hrendered symbol hsymbol hmem, hkey⟩

end Imports

/-- All packages of the symbol are the own one. -/
def Symbol.IsAtHome (own : Option String) (symbol : Symbol) : Prop :=
  ∀ dependency ∈ symbol.dependencies, ¬ Imports.IsForeign own dependency.path

theorem Symbol.isAtHome_of_none {own : Option String} {symbol : Symbol}
    (h : symbol.core.dependency = none) : symbol.IsAtHome own := by
  simp [IsAtHome, dependencies_eq_core, h]

/-- The part renders what it notes with its package, or notes the own package only. -/
@[simp]
def Part.IsFaithful (own : Option String) : Part → Prop
  | .full symbol | .pointer symbol => symbol.IsQualified
  | .name symbol => symbol.IsAtHome own
  | .text _ | .quoted _ => True

theorem Part.exact_of_isFaithful {own : Option String} {part : Part} (h : part.IsFaithful own) :
    Imports.Exact own part.dependencies part.rendered := by
  cases part with
  | full symbol => exact Imports.exact_of_isQualified h
  | pointer symbol => exact Imports.exact_of_isQualified h
  | name symbol =>
    -- A name is rendered without its package, which is noted all the same: it must be the own one.
    intro package hforeign
    simp only [rendered, List.not_mem_nil, false_and, exists_false, iff_false]
    rintro ⟨dependency, hmem, rfl⟩
    exact h dependency hmem hforeign
  | text literal => exact .nil
  | quoted literal => exact .nil

/-- All parts of the phrase are faithful; a template has none that could be. -/
@[simp]
def Phrase.IsFaithful (own : Option String) : Phrase → Prop
  | .parts found => ∀ part ∈ found, part.IsFaithful own
  | .template .. => False

theorem Phrase.exact_of_isFaithful {own : Option String} {phrase : Phrase}
    (h : phrase.IsFaithful own) : Imports.Exact own phrase.dependencies phrase.rendered := by
  cases phrase with
  | parts found => exact .flatMap fun part hpart => Part.exact_of_isFaithful (h part hpart)
  | template source args => exact h.elim

namespace Step

variable {own : Option String}

mutual

/-- The step notes nothing by itself, and all of its phrases are faithful. -/
@[simp]
def IsFaithful (own : Option String) : Step → Prop
  | .write phrase => phrase.IsFaithful own
  | .block opening closing body =>
    opening.IsFaithful own ∧ AllFaithful own body ∧ closing.IsFaithful own
  | .use _ => False
  | .blank | .docs _ | .packageDocs _ | .indent _ | .dedent _ | .fail _ => True
termination_by structural step => step

/-- All steps are faithful. -/
@[simp]
def AllFaithful (own : Option String) : List Step → Prop
  | [] => True
  | step :: rest => IsFaithful own step ∧ AllFaithful own rest
termination_by structural steps => steps

end

@[simp]
theorem allFaithful_append {first second : List Step} :
    AllFaithful own (first ++ second) ↔ AllFaithful own first ∧ AllFaithful own second := by
  induction first with
  | nil => simp [AllFaithful]
  | cons step rest ih => simp [AllFaithful, ih, and_assoc]

@[simp]
theorem allFaithful_flatMap {α : Type} {xs : List α} {steps : α → List Step} :
    AllFaithful own (xs.flatMap steps) ↔ ∀ x ∈ xs, AllFaithful own (steps x) := by
  induction xs with
  | nil => simp [AllFaithful]
  | cons x rest ih => simp [allFaithful_append, ih]

mutual

theorem exact_of_isFaithful :
    ∀ {step : Step}, step.IsFaithful own → Imports.Exact own step.uses step.rendered
  | .write phrase => fun h => Phrase.exact_of_isFaithful h
  | .block opening closing body => fun h => by
    obtain ⟨hopening, hbody, hclosing⟩ := h
    exact (Phrase.exact_of_isFaithful hopening).append
      ((exact_of_allFaithful hbody).append (Phrase.exact_of_isFaithful hclosing))
  | .use _ => fun h => h.elim
  | .blank | .docs _ | .packageDocs _ | .indent _ | .dedent _ | .fail _ => fun _ => .nil
termination_by structural step => step

/-- **Faithful steps have exact notes.** -/
theorem exact_of_allFaithful :
    ∀ {steps : List Step}, AllFaithful own steps →
      Imports.Exact own (usesAll steps) (renderedAll steps)
  | [] => fun _ => .nil
  | _ :: _ => fun h => (exact_of_isFaithful h.1).append (exact_of_allFaithful h.2)
termination_by structural steps => steps

end

end Step

end ClientGen
