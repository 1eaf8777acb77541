import ClientGen.Proofs.Generation.Paths
import ClientGen.Proofs.Text.Ink
import ClientGen.Proofs.Writer.Comments

/-!
# The documentation of a package

A package is documented by comment lines above its package clause, in a unit that holds nothing
else.  They are filled like other documentation, but words may be cut, so that no line is wider than
the limit.  Whatever the text is, all of it that shows stands in these lines, and nothing of it
stands anywhere else in the file.

## Main definitions

* `Writer.Documents` — contents of comments that hold a text.

## Main results

* `Writer.documents_packageContents` — filling keeps to the limit and keeps what shows.
* `Run.docUnit_eq` — the whole file that documents the package of a run.
* `Run.packageDocs_hold_text` — the comments hold the text, in a writer and in a run.
-/

namespace ClientGen

namespace Writer

open Text (ink)

/-- Contents of comment lines that hold a text: each is a single line that keeps to the width of a
comment, and together they show what the text shows, in its order. -/
structure Documents (contents : List String) (text : String) : Prop where
  newline_not_mem : ∀ content ∈ contents, '\n' ∉ content.toList
  length_le : ∀ content ∈ contents, (comment content).length ≤ 80
  ink : contents.flatMap (fun content => ink content.toList) = ink text.toList

/-- The contents of the comments that document a package. -/
def packageContents (text : String) : List String :=
  (paragraphs text).flatMap (filled .hyphenated (docsWidth - 3))

theorem documentPackage_eq (writer : Writer) (text : String) : writer.documentPackage (.str text)
    = ({ writer with packageDocs := (packageContents text).map comment }, none) := rfl

theorem ink_filled (habit : Text.Wrap.Habit) (limit : Nat) (paragraph : String) :
    (filled habit limit paragraph).flatMap (fun line => ink line.toList)
      = ink paragraph.toList := by
  rw [← Text.ink_wrap habit limit paragraph]
  unfold filled
  split
  · rename_i hnone
    rw [hnone]
    rfl
  · rfl

theorem length_le_of_mem_filled {limit : Nat} (hlimit : 0 < limit) {paragraph line : String}
    (h : line ∈ filled .hyphenated limit paragraph) : line.length ≤ limit := by
  unfold filled at h
  split at h
  · rw [List.mem_singleton.1 h]
    exact Nat.zero_le limit
  · exact Text.length_le_of_mem_wrap hlimit h

theorem length_comment_le (content : String) : (comment content).length ≤ content.length + 3 := by
  unfold comment
  split
  · have hshort : "//".length = 2 := rfl
    omega
  · rw [String.length_append, Nat.add_comm]
    rfl

theorem comment_ne_empty (content : String) : comment content ≠ "" := by
  unfold comment
  split
  · decide
  · simp

/-- **Filling a documentation** keeps to the width and keeps what shows. -/
theorem documents_packageContents (text : String) : Documents (packageContents text) text where
  newline_not_mem := by
    intro content hcontent
    obtain ⟨paragraph, -, hcontent⟩ := List.mem_flatMap.1 hcontent
    exact Text.newline_not_mem_of_mem_filled hcontent
  length_le := by
    intro content hcontent
    obtain ⟨paragraph, -, hcontent⟩ := List.mem_flatMap.1 hcontent
    have hlength : content.length ≤ 77 := length_le_of_mem_filled (by decide) hcontent
    exact (length_comment_le content).trans (by omega)
  ink := by
    rw [packageContents, List.flatMap_assoc]
    simp only [ink_filled, paragraphs, Text.lines, List.flatMap_map, String.toList_ofList]
    rw [Text.ink_pieces, Text.ink_strip]

theorem packageContents_ne_nil (text : String) : packageContents text ≠ [] := by
  have hfilled : ∀ paragraph, filled .hyphenated (docsWidth - 3) paragraph ≠ [] := by
    intro paragraph
    unfold filled
    split <;> simp_all
  obtain ⟨first, others, hparagraphs⟩ : ∃ first others, paragraphs text = first :: others :=
    List.exists_cons_of_ne_nil (by simpa [paragraphs, Text.lines] using Text.pieces_ne_nil '\n' _)
  rw [packageContents, hparagraphs, List.flatMap_cons]
  exact fun hnone => hfilled first (List.append_eq_nil_iff.1 hnone).1

end Writer

namespace Layout

theorem unlines_cons_ne_empty {line : String} (h : line ≠ "") (others : List String) :
    Text.unlines (line :: others) ≠ "" := by
  unfold Text.unlines
  cases others with
  | nil => simpa using h
  | cons second others =>
    rw [String.intercalate_cons_cons]
    simp [h]

/-- Lines that are joined, and then ended, each end in a line feed. -/
theorem unlines_cons_append_newline (line : String) (others : List String) :
    Text.unlines (line :: others) ++ "\n" = ended (line :: others) := by
  unfold Text.unlines ended
  induction others generalizing line with
  | nil => simp
  | cons second others ih =>
    rw [String.intercalate_cons_cons, String.append_assoc, ih second]
    simp [String.append_assoc]

/-- **A unit that holds documentation only.** -/
theorem unit_documented (line packageName : String) (others : List String) (h : line ≠ "") :
    unit (Text.unlines (line :: others)) packageName [] ""
      = notice ++ "\n" ++ ended (line :: others) ++ "package " ++ packageName ++ "\n" := by
  have hdocs : (Text.unlines (line :: others)).isEmpty = false := by
    rw [Bool.eq_false_iff, ne_eq, String.isEmpty_iff]
    exact unlines_cons_ne_empty h others
  rw [unit, hdocs, ← unlines_cons_append_newline]
  simp [importBlock]

end Layout

namespace Writer

/-- A unit that is new has neither lines nor imports. -/
theorem lines_fresh (units : Units) (path : String) :
    (units.fresh path).lines = [] ∧ (units.fresh path).imports.groups = [] := by
  have hgroups : ∀ own : Option String, ({ ownPath := own } : Imports).groups = [] := fun own => by
    simp [Imports.groups, Imports.list]
  unfold Units.fresh
  dsimp only
  split <;> exact ⟨rfl, hgroups _⟩

/-- A unit to which only the documentation of its package was written. -/
theorem toText_documented (units : Units) (path text : String) :
    ((units.fresh path).run [.packageDocs (.str text)]).1.toText
      = Layout.notice ++ "\n" ++ Layout.ended ((packageContents text).map comment)
        ++ "package " ++ (units.fresh path).packageName ++ "\n" := by
  obtain ⟨first, others, hcontents⟩ := List.exists_cons_of_ne_nil (packageContents_ne_nil text)
  obtain ⟨hlines, hgroups⟩ := lines_fresh units path
  have hwriter : ((units.fresh path).run [.packageDocs (.str text)]).1
      = { units.fresh path with packageDocs := (packageContents text).map comment } := rfl
  have hunit := Layout.unit_documented (comment first) (units.fresh path).packageName
    (others.map comment) (comment_ne_empty first)
  rw [hwriter, toText, hcontents, List.map_cons, ← hunit]
  simp only [body, hlines, hgroups]
  rfl

end Writer

namespace Run

open Text (ink)
open Writer (comment Documents packageContents)

variable {model : Model} {settings : Settings} {integrations : IntegrationRegistry}
  {generators : GeneratorRegistry} {manifest : Manifest}

/-- **The file that documents the package of a run**: a notice, the comments and the package
clause. -/
theorem docUnit_eq (h : (Run.of model settings integrations generators).result = .ok manifest) :
    ∃ context : Context, context.settings = settings ∧
      (∃ protocol, choose model settings = .ok (context.service, protocol)) ∧
      manifest.get? docUnit = some (Layout.notice ++ "\n"
        ++ Layout.ended ((packageContents (Emission.packageText context)).map comment)
        ++ "package " ++ settings.packageName.text ++ "\n") := by
  obtain ⟨outline, houtline, hstarted, hwritten⟩ := exists_outline h
  obtain ⟨hmem, hsteps⟩ := Outline.stepsAt_docUnit houtline
  have hsettings : outline.context.settings = settings := by rw [hstarted.context]
  refine ⟨outline.context, hsettings, ⟨outline.protocol, hstarted.chosen⟩, ?_⟩
  have hfile := hwritten.get? docUnit (by decide)
  rw [if_pos hmem, Outline.unit, hsteps, Outline.blank, Writer.toText_documented] at hfile
  rw [hfile, hsettings]
  rfl

/-- The documentation of a service ends the text that documents its package. -/
theorem ink_documentation_suffix {context : Context}
    (h : context.service.documentation.truthy = true) :
    ink context.service.documentation.text.toList <:+ ink (Emission.packageText context).toList := by
  unfold Emission.packageText
  dsimp only
  rw [if_pos h, String.toList_append, Text.ink_append]
  exact List.suffix_append _ _

/-- **The documentation of a package stands in comments, whole and in order.**  Whatever a text is,
a writer sets comment lines for it, no wider than 80 characters, and what they show is what the text
shows.  In a run the text is that of the package, with the documentation of the service at its end,
and the file that it goes to holds these comments, a notice and the package clause only. -/
theorem packageDocs_hold_text :
    (∀ (writer : Writer) (text : String), ∃ contents : List String,
      writer.documentPackage (.str text)
          = ({ writer with packageDocs := contents.map comment }, none) ∧
        Documents contents text) ∧
    ∀ (model : Model) (settings : Settings) (integrations : IntegrationRegistry)
      (generators : GeneratorRegistry) (manifest : Manifest),
      (Run.of model settings integrations generators).result = .ok manifest →
      ∃ (context : Context) (contents : List String),
        context.settings = settings ∧
        (∃ protocol, choose model settings = .ok (context.service, protocol)) ∧
        manifest.get? docUnit = some (Layout.notice ++ "\n" ++ Layout.ended (contents.map comment)
          ++ "package " ++ settings.packageName.text ++ "\n") ∧
        Documents contents (Emission.packageText context) ∧
        (context.service.documentation.truthy = true →
          ink context.service.documentation.text.toList
            <:+ contents.flatMap fun content => ink content.toList) := by
  constructor
  · intro writer text
    exact ⟨packageContents text, Writer.documentPackage_eq writer text,
      Writer.documents_packageContents text⟩
  · intro model settings integrations generators manifest h
    obtain ⟨context, hsettings, hchosen, hfile⟩ := docUnit_eq h
    have hdocuments := Writer.documents_packageContents (Emission.packageText context)
    refine ⟨context, packageContents (Emission.packageText context), hsettings, hchosen, hfile,
      hdocuments, fun htruthy => ?_⟩
    rw [hdocuments.ink]
    exact ink_documentation_suffix htruthy

end Run

/-! ### A service with a long documentation -/

namespace Wordy

/-- A documentation with a hyphen, a dash, a tab, a blank paragraph and a word without end. -/
def about : String :=
  " A well-known service--it\tgreets.\n\n" ++ String.ofList (List.replicate 100 '-') ++ " \u00a0 "

def service : Shape where
  id := { ns := "a", name := "Svc" }
  type := .service
  traits := [(Trait.documentation, .str about)]

def model : Model :=
  .ofShapes [service]

def settings : Settings where
  moduleName := .str "m"
  service := .str "a#Svc"
  packageName := .str "m"
  addComments := .bool false

theorem choose_eq : Run.choose model settings = .ok (service, none) :=
  Run.choose_of_protocolsAmong_eq_nil rfl rfl rfl rfl

theorem exists_manifest : ∃ manifest, (Run.of model settings {}).result = .ok manifest := by
  have hsearch : model.search 2 service.id = some [service] := rfl
  have hclosure := Model.closure_eq_ok_of_search hsearch (by decide +kernel) (by decide +kernel)
  obtain ⟨_, manifest, h, -⟩ := Run.exists_manifest {} choose_eq rfl hclosure (by decide +kernel)
  exact ⟨manifest, h⟩

end Wordy

namespace Run

open Text (ink)
open Writer (comment Documents)

theorem packageDocs_hold_text_wordy : ∃ (manifest : Manifest) (contents : List String),
    (Run.of Wordy.model Wordy.settings {}).result = .ok manifest ∧
      manifest.get? docUnit = some (Layout.notice ++ "\n" ++ Layout.ended (contents.map comment)
        ++ "package " ++ "m" ++ "\n") ∧
      ink Wordy.about.toList <:+ contents.flatMap fun content => ink content.toList := by
  obtain ⟨manifest, h⟩ := Wordy.exists_manifest
  obtain ⟨context, contents, -, ⟨protocol, hchosen⟩, hfile, -, hsuffix⟩ :=
    packageDocs_hold_text.2 Wordy.model Wordy.settings {} .standard manifest h
  have hservice : context.service = Wordy.service := by
    have hsame := Except.ok.inj (hchosen.symm.trans Wordy.choose_eq)
    exact (Prod.mk.inj hsame).1
  have htext : context.service.documentation = .str Wordy.about := by
    rw [hservice]
    rfl
  rw [htext] at hsuffix
  exact ⟨manifest, contents, h, hfile, hsuffix (by decide +kernel)⟩

end Run

end ClientGen
