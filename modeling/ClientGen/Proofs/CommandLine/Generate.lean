import ClientGen.CommandLine.Run
import ClientGen.Proofs.Console.Markup
import ClientGen.Proofs.Generation.Paths
import ClientGen.Proofs.Settings.Loading
import ClientGen.Proofs.Source.Loading

/-!
# What the generating command does to files

The generating command reads a model and settings, generates, and only then writes.  So the tree is
as it was before if the command stops on the way, be it with a message or with a failure that nobody
reports, and if it only lists the files.  If it ends well, every file of the run is there with its
content, and nothing else has changed, as the files have local paths.

## Main definitions

* `CommandLine.left` — the tree that a command line leaves behind.
* `CommandLine.Withholds` — the generating command has nothing to write.
* `Manifest.Delivers` — a tree after another one, with the files of a manifest below a directory.

## Main results

* `CommandLine.left_generate` — the tree is left alone, or the files of a run are written.
* `CommandLine.generate_frame` — when nothing changes, and what a command that ends well changes.
-/

namespace ClientGen

/-! ## Reading and generating -/

/-- The second tree is the first one with the files of a manifest below a directory: each is there
with its content, and elsewhere nothing has changed, save for directories that were missing. -/
structure Manifest.Delivers (manifest : Manifest) (directory : Path) (before after : Tree) :
    Prop where
  below : ∀ file ∈ manifest.files, directory.Encloses (directory.below file.1)
  bytes : ∀ file ∈ manifest.files,
    after.place (directory.join (.ofText file.1)) = .ok (directory.below file.1) ∧
      after.bytes (directory.join (.ofText file.1)) = .ok (Tree.encode file.2)
  others : ∀ place, (∀ file ∈ manifest.files, place ≠ directory.below file.1) →
    after.node? place = before.node? place ∨
      ((directory.IsOnWay place ∨ directory.Encloses place) ∧ before.node? place = none ∧
        after.node? place = some .directory)

namespace CommandLine

/-- The tree that a command line leaves behind. -/
def left : Except Interruption Outcome → Tree
  | .ok outcome => outcome.tree
  | .error interruption => interruption.tree

variable {library : Library} {network : Network} {tree : Tree} {order : Order}

/-! ## What is left behind -/

section

variable {P : Tree → Prop}

/-- A result that is found in a tree interrupts the command there, or the command goes on. -/
theorem left_bind {α : Type} {result : Except Failure α} {next : α → Except Interruption Outcome}
    (htree : P tree) (hnext : ∀ value, result = .ok value → P (left (next value))) :
    P (left (during tree result >>= next)) := by
  cases result with
  | error failure => exact htree
  | ok value => exact hnext value rfl

/-- A complaint, with any lines in front of it, leaves the tree alone. -/
theorem left_complain (htree : P tree) (message : String) :
    P (left (complain tree message)) ∧ ∀ lines : List String,
      P (left (do
        let outcome ← complain tree message
        return { outcome with lines := lines ++ outcome.lines })) := by
  unfold complain
  cases Console.lines ("[red]✗ Error:[/red] " ++ message) with
  | error failure => exact ⟨htree, fun _ => htree⟩
  | ok shown => exact ⟨htree, fun _ => htree⟩

/-- A model that cannot be loaded leaves the tree alone. -/
theorem left_withModel {source : String} {next : Model → Except Interruption Outcome}
    (htree : P tree)
    (hnext : ∀ model, loadModel tree network source = .ok model → P (left (next model))) :
    P (left (withModel tree network source next)) := by
  unfold withModel
  split
  · rename_i model hmodel
    exact hnext model hmodel
  · split
    · exact (left_complain htree _).1
    · exact htree

/-- Delivering leaves the tree alone, or it writes the files. -/
theorem left_deliver {settings : Settings} {report : Report} (htree : P tree)
    (hwrite : ∀ directory, order.isDry = false → outputPath settings = .ok directory →
      P (report.manifest.write tree directory).1) :
    P (left (deliver tree order settings report)) := by
  unfold deliver
  refine left_bind htree fun warnings _ => left_bind htree fun directory hdirectory => ?_
  dsimp only
  split
  · exact left_bind htree fun _ _ => htree
  · rename_i hdry
    have hafter := hwrite directory (by simpa using hdry) hdirectory
    split
    · rename_i after fault hwritten
      rw [hwritten] at hafter
      exact (left_complain hafter _).2 _
    · rename_i after hwritten
      rw [hwritten] at hafter
      refine left_bind hafter fun _ _ => ?_
      split
      · exact left_bind hafter fun _ _ => hafter
      · exact hafter

end

/-- What the generating command may leave behind: the tree that it found, or that tree after the
files of a generation that succeeded have been written, whether all of them could be or not. -/
inductive Leaves (library : Library) (network : Network) (tree : Tree) (order : Order) :
    Tree → Prop where
  | same : Leaves library network tree order tree
  | written {model : Model} {settings : Settings} {report : Report} {directory : Path}
    (loaded : loadModel tree network order.model = .ok model)
    (configured : Settings.load tree order.overrides order.settings = .ok settings)
    (generated : generateClient library model settings = .ok report)
    (success : report.failure = none) (notDry : order.isDry = false)
    (output : outputPath settings = .ok directory) :
    Leaves library network tree order (report.manifest.write tree directory).1

/-- **The generating command** leaves the tree alone, or it writes the files of a generation that
succeeded. -/
theorem left_generate (library : Library) (network : Network) (tree : Tree) (order : Order) :
    Leaves library network tree order (left (generate library network tree order)) := by
  unfold generate
  refine left_withModel .same fun model hmodel => ?_
  split
  · exact (left_complain .same _).1
  · exact .same
  · rename_i settings hsettings
    refine left_bind .same fun _ _ => left_bind .same fun report hreport => ?_
    split
    · rename_i hsuccess
      exact left_deliver .same fun directory hdry hdirectory =>
        .written hmodel hsettings hreport hsuccess hdry hdirectory
    · exact left_bind .same fun _ _ => .same

/-! ## Commands that end well -/

theorem during_eq_ok {α : Type} {result : Except Failure α} {value : α} :
    during tree result = .ok value ↔ result = .ok value :=
  mapError_eq_ok

theorem ending_of_complain {message : String} {outcome : Outcome}
    (h : complain tree message = .ok outcome) : outcome.ending = .failure := by
  obtain ⟨lines, -, h⟩ := bind_eq_ok.1 h
  rw [← pure_eq_ok.1 h]

variable {settings : Settings} {report : Report} {outcome : Outcome}

/-- **A delivery that ends well** has written all files, unless it only lists them. -/
theorem write_of_deliver (h : deliver tree order settings report = .ok outcome)
    (hending : outcome.ending ≠ .failure) (hdry : order.isDry = false) :
    ∃ directory, outputPath settings = .ok directory ∧
      report.manifest.write tree directory = (outcome.tree, none) := by
  obtain ⟨warnings, -, h⟩ := bind_eq_ok.1 h
  obtain ⟨directory, hdirectory, h⟩ := bind_eq_ok.1 h
  refine ⟨directory, during_eq_ok.1 hdirectory, ?_⟩
  dsimp only at h
  rw [hdry, if_neg (by simp)] at h
  split at h
  · obtain ⟨complaint, hcomplaint, h⟩ := bind_eq_ok.1 h
    rw [← pure_eq_ok.1 h] at hending
    exact absurd (ending_of_complain hcomplaint) hending
  · rename_i after hwritten
    rw [hwritten]
    obtain ⟨lines, -, h⟩ := bind_eq_ok.1 h
    split at h
    · obtain ⟨summary, -, h⟩ := bind_eq_ok.1 h
      rw [← pure_eq_ok.1 h]
    · rw [← pure_eq_ok.1 h]

/-- **A generating command that ends well** has written all files of a generation that succeeded,
unless it only lists them. -/
theorem write_of_generate (h : generate library network tree order = .ok outcome)
    (hending : outcome.ending ≠ .failure) (hdry : order.isDry = false) :
    ∃ model settings report directory, loadModel tree network order.model = .ok model ∧
      Settings.load tree order.overrides order.settings = .ok settings ∧
      generateClient library model settings = .ok report ∧ report.failure = none ∧
      outputPath settings = .ok directory ∧
      report.manifest.write tree directory = (outcome.tree, none) := by
  unfold generate withModel at h
  split at h
  · rename_i model hmodel
    split at h
    · exact absurd (ending_of_complain h) hending
    · simp at h
    · rename_i settings hsettings
      obtain ⟨shown, -, h⟩ := bind_eq_ok.1 h
      obtain ⟨report, hreport, h⟩ := bind_eq_ok.1 h
      split at h
      · rename_i hsuccess
        obtain ⟨directory, hdirectory, hwrite⟩ := write_of_deliver h hending hdry
        exact ⟨model, settings, report, directory, hmodel, hsettings, during_eq_ok.1 hreport,
          hsuccess, hdirectory, hwrite⟩
      · obtain ⟨lines, -, h⟩ := bind_eq_ok.1 h
        rw [← pure_eq_ok.1 h] at hending
        simp at hending
  · split at h
    · exact absurd (ending_of_complain h) hending
    · simp at h

/-- A table of files whose paths hold no brackets can be drawn. -/
theorem exists_lines_fileTable {title : String} {directory : Path}
    {files : List (String × String)} (htitle : '[' ∉ title.toList)
    (hfiles : ∀ file ∈ files, '[' ∉ (directory.join (.ofText file.1)).text.toList) :
    ∃ lines, (fileTable title directory files).lines = .ok lines := by
  have hheaders : ∀ column ∈ (fileTable title directory files).columns,
      '[' ∉ column.header.toList := by
    simp [fileTable]
  refine Console.Table.exists_lines htitle hheaders fun row hrow cell hcell => ?_
  obtain ⟨file, hfile, rfl⟩ := List.mem_map.1 hrow
  rcases List.mem_cons.1 hcell with rfl | hcell
  · exact hfiles file hfile
  · obtain rfl := List.mem_singleton.1 hcell
    exact Console.bracket_not_mem_toString _

/-- **A generating command ends well** if its generation succeeds without a warning, its files can
be written, and neither the module nor the paths hold a bracket. -/
theorem exists_generate {model : Model} {directory : Path} {after : Tree}
    (hmodel : loadModel tree network order.model = .ok model)
    (hsettings : Settings.load tree order.overrides order.settings = .ok settings)
    (hmodule : '[' ∉ settings.moduleName.text.toList)
    (hreport : generateClient library model settings = .ok report)
    (hsuccess : report.failure = none) (hwarnings : report.warnings = [])
    (hdirectory : outputPath settings = .ok directory)
    (hfiles : ∀ file ∈ report.manifest.files,
      '[' ∉ (directory.join (.ofText file.1)).text.toList)
    (hwrite : report.manifest.write tree directory = (after, none))
    (hdry : order.isDry = false) (hverbose : order.isVerbose = false) :
    ∃ lines, generate library network tree order
      = .ok { ending := .success, lines, tree := after } := by
  have hgenerating : '[' ∉ ("Generating " ++ settings.moduleName.text ++ "...").toList := by
    simpa using hmodule
  have htable : ∃ lines,
      (fileTable "✅ Generated files" directory report.manifest.files).lines = .ok lines :=
    exists_lines_fileTable (by decide) hfiles
  obtain ⟨lines, hlines⟩ := htable
  refine ⟨lines, ?_⟩
  unfold generate withModel
  rw [hmodel]
  dsimp only
  rw [hsettings]
  refine bind_eq_ok.2 ⟨_, during_eq_ok.2 (Console.plain_of_not_mem hgenerating),
    bind_eq_ok.2 ⟨report, during_eq_ok.2 hreport, ?_⟩⟩
  rw [hsuccess]
  refine bind_eq_ok.2 ⟨[], during_eq_ok.2 (by rw [hwarnings]; rfl),
    bind_eq_ok.2 ⟨directory, during_eq_ok.2 hdirectory, ?_⟩⟩
  dsimp only
  rw [hdry, hwrite, if_neg (by simp), hverbose]
  refine bind_eq_ok.2 ⟨lines, during_eq_ok.2 hlines, ?_⟩
  rw [if_neg (by simp)]
  exact bind_eq_ok.2 ⟨[], rfl, by simp [pure, Except.pure]⟩

/-- Without a file for the log, a command line does what its command does. -/
theorem carryOut_generate {words : List String} {invocation : Invocation}
    (hwords : Invocation.ofWords words = .ok invocation)
    (hcommand : invocation.command = some (.generate order))
    (hlog : ∀ path, invocation.log = some path → path.isEmpty = true) :
    carryOut library network tree words = generate library network tree order := by
  have hnone : invocation.log.filter (fun path => !path.isEmpty) = none := by
    cases hpath : invocation.log with
    | none => rfl
    | some path => simp [Option.filter, hlog path hpath]
  unfold carryOut
  rw [hwords]
  dsimp only
  rw [hnone, hcommand]
  rfl

end CommandLine

/-- **Local files that have been written are delivered.** -/
theorem Manifest.IsLocal.delivers {manifest : Manifest} {directory : Path} {before after : Tree}
    (h : manifest.IsLocal) (hwrite : manifest.write before directory = (after, none)) :
    manifest.Delivers directory before after where
  below file hmem := (h.of_mem_files hmem).encloses_below
  bytes file hmem := h.bytes_of_write hwrite hmem
  others := by
    intro place hother
    have hframe := h.frame_of_write before directory
    rw [hwrite] at hframe
    apply hframe.node
    rintro ⟨file, hmem, heq⟩
    exact hother file hmem heq

namespace CommandLine

variable {library : Library} {network : Network} {tree : Tree} {order : Order}

/-- There is nothing to write for the generating command: it only lists the files, or it stops
before it has any. -/
inductive Withholds (library : Library) (network : Network) (tree : Tree) (order : Order) :
    Prop where
  | dry (dry : order.isDry = true)
  | model {failure : Failure} (unloaded : loadModel tree network order.model = .error failure)
  | settings {failure : Failure}
    (unloaded : Settings.load tree order.overrides order.settings = .error failure)
  /-- The generation reports a failure, or it ends without a report. -/
  | generation {model : Model} {settings : Settings}
    (loaded : loadModel tree network order.model = .ok model)
    (configured : Settings.load tree order.overrides order.settings = .ok settings)
    (failed : ∀ report, generateClient library model settings = .ok report →
      report.isSuccess = false)

/-- A command that has nothing to write leaves the tree alone. -/
theorem left_of_withholds (h : Withholds library network tree order) :
    left (generate library network tree order) = tree := by
  have hleaves := left_generate library network tree order
  generalize left (generate library network tree order) = after at hleaves ⊢
  cases hleaves with
  | same => rfl
  | written loaded configured generated success notDry output =>
    exfalso
    cases h with
    | dry dry => simp [dry] at notDry
    | model unloaded => simp [unloaded] at loaded
    | settings unloaded => simp [unloaded] at configured
    | generation loaded' configured' failed =>
      obtain rfl := Except.ok.inj (loaded.symm.trans loaded')
      obtain rfl := Except.ok.inj (configured.symm.trans configured')
      have hfailed := failed _ generated
      simp [Report.isSuccess, success] at hfailed

/-- **What the generating command does to files**, in any tree and without a file for the log.  If
it only lists the files, or cannot load the model or the settings, or fails to generate, the tree is
left as it was.  If it returns zero and does not only list them, every file of the generation is
there, below the output directory and with its content as UTF-8, and nothing else has changed. -/
theorem generate_frame {words : List String} {invocation : Invocation}
    (hwords : Invocation.ofWords words = .ok invocation)
    (hcommand : invocation.command = some (.generate order))
    (hlog : ∀ path, invocation.log = some path → path.isEmpty = true) :
    (Withholds library network tree order →
      left (carryOut library network tree words) = tree) ∧
    ∀ outcome, carryOut library network tree words = .ok outcome → outcome.ending.code = 0 →
      order.isDry = false → ∃ model settings report directory,
        loadModel tree network order.model = .ok model ∧
        Settings.load tree order.overrides order.settings = .ok settings ∧
        generateClient library model settings = .ok report ∧ report.isSuccess = true ∧
        outputPath settings = .ok directory ∧
        report.manifest.Delivers directory tree outcome.tree := by
  rw [carryOut_generate hwords hcommand hlog]
  refine ⟨left_of_withholds, fun outcome h hcode hdry => ?_⟩
  have hending : outcome.ending ≠ .failure := by
    intro hfailure
    rw [hfailure] at hcode
    simp [Ending.code] at hcode
  obtain ⟨model, settings, report, directory, hmodel, hsettings, hreport, hsuccess, hdirectory,
    hwrite⟩ := write_of_generate h hending hdry
  obtain ⟨registry, hresult⟩ := exists_run_of_generateClient hreport hsuccess
  refine ⟨model, settings, report, directory, hmodel, hsettings, hreport, ?_, hdirectory,
    (Run.isLocal_of_result hresult).delivers hwrite⟩
  simp [Report.isSuccess, hsuccess]

end CommandLine

/-! ## A command line -/

namespace Errand
open CommandLine

/-- A model of a service without operations. -/
def modelText : String :=
  "\x7b\"shapes\": \x7b\"a#S\": \x7b\"type\": \"service\"\x7d\x7d\x7d"

def settingsText : String :=
  "\x7b\"add_comments\": false\x7d"

def tree : Tree where
  nodes := [(["model.json"], .file (Tree.encode modelText)),
    (["settings.json"], .file (Tree.encode settingsText))]

def words : List String :=
  ["generate", "model.json", "--settings", "settings.json", "--module", "m", "--service", "a#S",
    "-o", "out"]

def order : Order where
  model := "model.json"
  settings := "settings.json"
  overrides := [("module_name", .str "m"), ("service", .str "a#S"), ("package_name", .null),
    ("protocol", .null), ("output_dir", .str "out")]

theorem ofWords_words : Invocation.ofWords words = .ok { command := some (.generate order) } := by
  have hleading : Choices.ofWords? leadingSwitches true words
      = .ok { operand := "generate", rest := words.tail } := by
    decide +kernel
  have hchoices : Choices.ofWords? generateSwitches false words.tail
      = .ok { given := [("settings", "settings.json"), ("module", "m"), ("service", "a#S"),
          ("output", "out")], operand := "model.json" } := by
    decide +kernel
  have hcommand : Command.ofWords "generate" words.tail = .ok (.generate order) := by
    rw [Command.ofWords, readCommand, hchoices]
    rfl
  rw [Invocation.ofWords, hleading]
  simp only [bind, Except.bind, hcommand]
  rfl

def service : Shape where
  id := { ns := "a", name := "S" }
  type := .service

def model : Model := .ofShapes [service]

def settings : Settings where
  moduleName := .str "m"
  service := .str "a#S"
  packageName := .str "m"
  addComments := .bool false
  outputDir := .str "out"

theorem loadModel_eq (network : Network) :
    loadModel tree network order.model = .ok model := by
  have hbytes : tree.bytes (.ofText "model.json") = .ok (Tree.encode modelText) := by
    have hpath : Path.ofText "model.json" = ⟨"", ["model.json"]⟩ := by decide
    rw [hpath]
    rfl
  have htext : Tree.textOf (Tree.encode modelText) = .ok modelText :=
    Tree.textOf_encode (by decide)
  have hparse : Json.parse modelText { digits := some 4300, depth := some 980 }
      = .ok (.obj [("shapes", .obj [("a#S", .obj [("type", .str "service")])])]) := by
    rw [Json.parse, modelText]
    simp only [String.reduceToList]
    rfl
  exact loadModel_of_file (by decide) (by decide) hbytes htext hparse rfl

theorem loadModel_empty (network : Network) :
    loadModel {} network order.model = .error (.fileNotFound "model.json") := by
  have hpath : Path.ofText "model.json" = ⟨"", ["model.json"]⟩ := by decide
  have hlocal : Source.isRemote "model.json" = false := by decide
  have hdocument : Source.document {} network "model.json"
      = .error (.fileNotFound "model.json") := by
    rw [Source.document, hlocal, if_neg (by simp), hpath]
    rfl
  exact bind_eq_error.2 (.inl hdocument)

theorem load_eq : Settings.load tree order.overrides order.settings = .ok settings := by
  have hbytes : tree.bytes (.ofText "settings.json") = .ok (Tree.encode settingsText) := by
    have hpath : Path.ofText "settings.json" = ⟨"", ["settings.json"]⟩ := by decide
    rw [hpath]
    rfl
  have htext : Tree.textOf (Tree.encode settingsText) = .ok settingsText :=
    Tree.textOf_encode (by decide)
  have hparse : Json.parse settingsText = .ok (.obj [("add_comments", .bool false)]) := by
    rw [Json.parse, settingsText]
    simp only [String.reduceToList]
    rfl
  exact Settings.load_of_file (by decide) hbytes htext hparse rfl

def context : Context where
  model := model
  settings := settings
  service := service
  integrations := []
  transport := some .http

/-- Writing starts from the names that the service claims. -/
def emission : Emission where
  units := Run.noUnits settings
  table := (Run.reserve context [service]).toOption.getD {}

theorem start_eq : Run.start context = .ok ([service], emission) := by
  have hsearch : model.search 2 service.id = some [service] := rfl
  have hclosure : model.closure service.id = .ok [service] :=
    Model.closure_eq_ok_of_search hsearch (by decide) (by decide)
  have hshapes : Run.shapes context = .ok [service] := bind_eq_ok.2 ⟨_, hclosure, rfl⟩
  rw [Run.start, hshapes]
  rfl

def units : Units :=
  (Emission.of context .standard none [service] emission).units

def manifest : Manifest where
  entries := units.writers.map (fun unit => (unit.1, unit.2.toText))
    ++ [(moduleUnit, Layout.moduleManifest settings.modulePath settings.goVersion.text
          (Run.requirements (units.writers.map Prod.snd)))]

theorem keys_writers : Entries.keys units.writers = [clientUnit, docUnit] := by decide

theorem result_eq : (Run.of model settings {}).result = .ok manifest := by
  have hsorted : units.sorted = units.writers := by
    apply List.mergeSort_of_pairwise
    decide
  have hok : (Emission.of context .standard none [service] emission).failure = none := by
    apply Option.isNone_iff_eq_none.1
    decide
  have hchosen : Run.choose model settings = .ok (context.service, none) :=
    Run.choose_of_traits_eq_nil rfl rfl rfl rfl
  have hfinish : Run.finish settings units = .ok manifest := by
    rw [Run.finish_eq settings (by rw [keys_writers]; decide) (by rw [keys_writers]; decide),
      hsorted]
    rfl
  exact (Run.result_of_stages hchosen rfl start_eq hok).trans hfinish

theorem files_eq : manifest.files = manifest.entries := by
  apply List.mergeSort_of_pairwise
  decide

def report : Report where
  manifest := manifest
  metadata := Report.summary settings manifest

theorem generateClient_eq : generateClient [] model settings = .ok report := by
  have hservice : settings.service.mentions "#" = .ok true := by
    simp +decide [settings, Json.mentions, String.splitOn, String.splitOnAux]
  have hwarnings : settings.warnings = .ok [] := by
    rw [Settings.warnings, Settings.serviceWarnings, hservice]
    rfl
  rw [generateClient_of_ok rfl result_eq, Report.ofManifest, hwarnings]
  rfl

theorem exists_write : ∃ after, manifest.write tree (.ofText "out") = (after, none) := by
  have hnone : (Manifest.writeFiles (.ofText "out") tree manifest.entries).2 = none := by
    apply Option.isNone_iff_eq_none.1
    decide
  rw [Manifest.write, files_eq]
  exact ⟨_, Prod.ext rfl hnone⟩

theorem exists_generate (network : Network) : ∃ lines after,
    generate [] network tree order = .ok { ending := .success, lines, tree := after } := by
  obtain ⟨after, hwrite⟩ := exists_write
  have hpaths : ∀ file ∈ report.manifest.files,
      '[' ∉ ((Path.ofText "out").join (.ofText file.1)).text.toList := by
    have hkeys : ∀ path ∈ Entries.keys manifest.entries,
        '[' ∉ ((Path.ofText "out").join (.ofText path)).text.toList := by
      decide
    intro file hfile
    exact hkeys _ (List.mem_map.2 ⟨file, Manifest.mem_files.1 hfile, rfl⟩)
  obtain ⟨lines, h⟩ := CommandLine.exists_generate (loadModel_eq network) load_eq (by decide)
    generateClient_eq rfl rfl rfl hpaths hwrite rfl rfl
  exact ⟨lines, after, h⟩

end Errand
namespace CommandLine

theorem generate_frame_errand :
    Invocation.ofWords Errand.words = .ok { command := some (.generate Errand.order) } ∧
      left (carryOut [] (fun _ => .disconnected) {} Errand.words) = {} ∧
      ∃ outcome, carryOut [] (fun _ => .disconnected) Errand.tree Errand.words = .ok outcome ∧
        outcome.ending.code = 0 ∧ ∃ model settings report directory,
          loadModel Errand.tree (fun _ => .disconnected) Errand.order.model = .ok model ∧
          Settings.load Errand.tree Errand.order.overrides Errand.order.settings = .ok settings ∧
          generateClient [] model settings = .ok report ∧ report.isSuccess = true ∧
          outputPath settings = .ok directory ∧
          report.manifest.Delivers directory Errand.tree outcome.tree := by
  refine ⟨Errand.ofWords_words, ?_, ?_⟩
  · exact (generate_frame Errand.ofWords_words rfl (by simp)).1
      (.model (Errand.loadModel_empty _))
  · obtain ⟨lines, after, h⟩ := Errand.exists_generate fun _ => .disconnected
    rw [← carryOut_generate Errand.ofWords_words rfl (by simp)] at h
    exact ⟨_, h, rfl, (generate_frame Errand.ofWords_words rfl (by simp)).2 _ h rfl rfl⟩

end CommandLine

end ClientGen
