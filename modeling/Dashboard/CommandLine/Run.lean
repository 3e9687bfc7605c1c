import Dashboard.ColumnType
import Dashboard.CommandLine.Arguments
import Dashboard.CommandLine.Directory
import Dashboard.Config.Manifest
import Dashboard.Config.PipelineDocument
import Dashboard.Toml.Reader
import Dashboard.Tree.Reader
import Dashboard.Yaml.Reader

/-!
# CommandLine.Run · running a command

* **`Invocation.produce`** runs a command on the texts of its files. It gives a text and where that
  goes (`Product`), or the first thing that fails (`Failure`).
* **`CommandLine.run`** runs a list of arguments in a directory. Only a run that succeeds changes
  the directory, and then only the file that was asked for.
-/

namespace Dashboard

/-! ## Failures -/

/-- The files that a run reads. -/
inductive Source where
  | settings
  | dataset
  | pipeline
  | manifest
deriving DecidableEq, Repr

/-- The word for a file. -/
def Source.word : Source → String
  | .settings => "settings"
  | .dataset => "dataset"
  | .pipeline => "pipeline"
  | .manifest => "manifest"

/-- Why a file cannot be used. -/
inductive LoadFault where
  /-- It cannot be read. -/
  | io
  | json
  | yaml
  | toml
deriving DecidableEq, Repr

/-- The message of a fault. -/
def LoadFault.message : LoadFault → String
  | .io => "IO error"
  | .json => "JSON error"
  | .yaml => "YAML error"
  | .toml => "TOML error"

/-- Why a run fails. -/
inductive Failure where
  | load (source : Source) (fault : LoadFault)
  | pipeline (e : InvalidPattern)
  | query (e : UnknownWidget)
  | write (fault : PathFault)
deriving DecidableEq, Repr

/-- The message of a failure. -/
def Failure.message : Failure → String
  | .load source fault => "Failed to load " ++ source.word ++ ": " ++ fault.message
  | .pipeline e => "Pipeline failed: " ++ e.message
  | .query e => "Query failed: " ++ e.message
  | .write fault => "Failed to write output: " ++ fault.message

/-! ## Loading -/

/-- The text of a file by its path. -/
abbrev Texts := String → Option String

/-- The last name on a path. -/
def lastName (path : String) : String :=
  (((Directory.parts path).filter fun part => part ≠ "" ∧ part ≠ ".").getLast?).getD ""

/-- Whether the extension of a path is that of JSON. A point at the head of a name does not begin an
extension. -/
def isJsonPath (path : String) : Bool :=
  match (lastName path).toList.reverse with
  | a :: b :: c :: d :: '.' :: _ :: _ => [d, c, b, a].map Char.toLower == "json".toList
  | _ => false

/-- The settings in a text. -/
def Settings.ofToml? (text : String) : Option Settings := (Toml.read? text).bind Settings.decode?

/-- The manifest in a JSON text. -/
def Manifest.ofJson? (text : String) : Option Manifest := (Tree.ofJson? text).bind Manifest.decode?

/-- The manifest in a YAML text. -/
def Manifest.ofYaml? (text : String) : Option Manifest := (Yaml.read? text).bind Manifest.decode?

/-- The saved pipeline in a JSON text. -/
def PipelineDocument.ofJson? (text : String) : Option PipelineDocument :=
  (Tree.ofJson? text).bind PipelineDocument.decode?

/-- The saved pipeline in a YAML text. -/
def PipelineDocument.ofYaml? (text : String) : Option PipelineDocument :=
  (Yaml.read? text).bind PipelineDocument.decode?

/-- Loads a file, where `read?` makes a value of its text. -/
def load {α : Type} (texts : Texts) (source : Source) (path : String) (fault : LoadFault)
    (read? : String → Option α) : Except Failure α :=
  match texts path with
  | none => .error (.load source .io)
  | some text =>
    match read? text with
    | some value => .ok value
    | none => .error (.load source fault)

/-- Loads a file that is JSON if its name says so, else YAML. -/
def loadEither {α : Type} (texts : Texts) (source : Source) (path : String)
    (ofJson? ofYaml? : String → Option α) : Except Failure α :=
  if isJsonPath path then load texts source path .json ofJson?
  else load texts source path .yaml ofYaml?

/-- Loads a dataset. -/
def loadDataset (texts : Texts) (path : String) : Except Failure Dataset :=
  load texts .dataset path .json Dataset.ofJson?

/-- Loads a manifest. -/
def loadManifest (texts : Texts) (path : String) : Except Failure Manifest :=
  loadEither texts .manifest path Manifest.ofJson? Manifest.ofYaml?

/-- Loads a manifest, if there is a path. -/
def loadManifest? (texts : Texts) : Option String → Except Failure (Option Manifest)
  | none => .ok none
  | some path => (loadManifest texts path).map some

/-- Loads a saved pipeline. -/
def loadPipeline (texts : Texts) (path : String) : Except Failure PipelineDocument :=
  loadEither texts .pipeline path PipelineDocument.ofJson? PipelineDocument.ofYaml?

/-- Loads settings, if there is a path. -/
def loadSettings? (texts : Texts) : Option String → Except Failure (Option Settings)
  | none => .ok none
  | some path => (load texts .settings path .toml Settings.ofToml?).map some

/-! ## Commands -/

/-- What a command makes: a text, and the path to write it to; without one it is printed. -/
structure Product where
  text : String
  target : Option String := none
deriving DecidableEq, Repr

/-- The settings that hold: those given, else those of the manifest, else the defaults. -/
def effectiveSettings (settings : Option Settings) (manifest : Option Manifest) : Settings :=
  (settings.or (manifest.map (·.settings))).getD default

/-- The outcome of a pipeline as the outcome of a command. -/
def orPipelineFailure {α : Type} : Except InvalidPattern α → Except Failure α :=
  Except.mapError .pipeline

/-- The lines that describe a step with a number. -/
def describeStep (number : Nat) (step : Step) : List String :=
  let digits := toString number
  let padding := String.ofList (List.replicate (3 - digits.length) ' ')
  (padding ++ digits ++ ". " ++ step.label) ::
    match step with
    | .rows (.calculated _ formula) =>
      ["     reads: " ++ Text.joinStrings ", " (Formula.references formula)]
    | _ => []

/-- The lines that describe a saved pipeline. -/
def PipelineDocument.lines (doc : PipelineDocument) : List String :=
  doc.name.toList ++
    (doc.pipeline.steps.zipIdx 1).flatMap fun (step, number) => describeStep number step

/-- Lines as a text, each with a line end. -/
def unlines (lines : List String) : String := String.join (lines.map (· ++ "\n"))

/-- The pipeline of a preview: the one given, else that of the manifest, else none. -/
def previewPipeline (texts : Texts) (manifest : Option Manifest) :
    Option String → Except Failure Pipeline
  | some path => (loadPipeline texts path).map (·.pipeline)
  | none => .ok ((manifest.bind (·.pipeline)).getD .empty)

/-- Runs a command. -/
def Command.produce (texts : Texts) (settings : Option Settings) :
    Command → Except Failure Product
  | .types data manifest => do
    let dataset ← loadDataset texts data
    let manifest ← loadManifest? texts manifest
    let prepared ← orPipelineFailure ((manifest.getD default).prepare dataset)
    let sample := (effectiveSettings settings manifest).inferenceSample
    .ok ⟨(ColumnType.toTree (ColumnType.infer prepared sample)).prettyText ++ "\n", none⟩
  | .apply data pipeline out => do
    let dataset ← loadDataset texts data
    let doc ← loadPipeline texts pipeline
    let rows ← orPipelineFailure (doc.pipeline.apply dataset)
    let text := Dataset.toPrettyJson rows
    .ok (if out.isSome then ⟨text, out⟩ else ⟨text ++ "\n", none⟩)
  | .preview data pipeline manifest count => do
    let dataset ← loadDataset texts data
    let manifest ← loadManifest? texts manifest
    let pipeline ← previewPipeline texts manifest pipeline
    let count := count.getD (effectiveSettings settings manifest).previewRows
    let rows ← orPipelineFailure (pipeline.previewRows count dataset)
    .ok ⟨Dataset.toPrettyJson rows ++ "\n", none⟩
  | .describe pipeline => do
    let doc ← loadPipeline texts pipeline
    .ok ⟨unlines doc.lines, none⟩
  | .query data manifest widget => do
    let dataset ← loadDataset texts data
    let manifest ← loadManifest texts manifest
    let prepared ← orPipelineFailure (manifest.prepare dataset)
    let rows ← (manifest.query widget prepared).mapError .query
    .ok ⟨Dataset.toPrettyJson rows ++ "\n", none⟩

/-- Runs a command with its settings, which are loaded first. -/
def Invocation.produce (texts : Texts) (invocation : Invocation) : Except Failure Product := do
  let settings ← loadSettings? texts invocation.settings
  invocation.command.produce texts settings

/-! ## Runs -/

/-- The outcome of a run. -/
structure Outcome where
  exit : Nat
  /-- What is printed. -/
  output : String
  failure : Option Failure
  /-- The directory afterwards. -/
  directory : Directory

namespace CommandLine

/-- The name and version of the program. -/
def versionText : String := "tabula 0.3.5\n"

/-- How the program is called. -/
def usageText : String :=
  unlines ["Usage: tabula [--settings FILE] [-v]... COMMAND", "", "Commands:",
    "  types DATA [-m FILE]", "  apply DATA -p FILE [-o FILE]",
    "  preview DATA [-p FILE] [-m FILE] [-r COUNT]", "  describe PIPELINE",
    "  query DATA -m FILE -w ID"]

/-- The outcome of a failure. -/
def failed (dir : Directory) (failure : Failure) : Outcome := ⟨1, "", some failure, dir⟩

/-- Prints or writes what a command has made. -/
def deliver (dir : Directory) (product : Product) : Outcome :=
  match product.target with
  | none => ⟨0, product.text, none, dir⟩
  | some path =>
    match dir.write path product.text with
    | .ok dir => ⟨0, "", none, dir⟩
    | .error fault => failed dir (.write fault)

/-- Runs a list of arguments in a directory. -/
def run (dir : Directory) (args : List String) : Outcome :=
  match Invocation.parse args with
  | .error .badUsage => ⟨2, "", none, dir⟩
  | .error .help => ⟨0, usageText, none, dir⟩
  | .error .version => ⟨0, versionText, none, dir⟩
  | .ok invocation =>
    match invocation.produce dir.read? with
    | .ok product => deliver dir product
    | .error failure => failed dir failure

end CommandLine

end Dashboard
