import Dashboard.Numeral
import Dashboard.Text.Search

/-!
# CommandLine.Arguments · what a command line asks for

```text
[--settings FILE] [-v]... COMMAND
  types DATA [-m FILE]
  apply DATA -p FILE [-o FILE]
  preview DATA [-p FILE] [-m FILE] [-r COUNT]
  describe PIPELINE
  query DATA -m FILE -w ID
```

* **`Command`** is a command with its arguments, **`Invocation`** a command with its settings.
* **`Invocation.parse`** reads a list of arguments; **`Stop`** says why there is nothing to run.

Options may stand before and after other arguments. An option with a value takes it after an equals
sign, directly after its letter, or from the next argument, and may be given once on each side of
the command. `--settings` and `-v` may stand on both sides.
-/

namespace Dashboard

/-- Why there is no command to run. -/
inductive Stop where
  | badUsage
  | help
  | version
deriving DecidableEq, Repr

/-- The options that have a value. -/
inductive OptionName where
  | settings
  | manifest
  | pipeline
  | out
  | rows
  | widget
deriving DecidableEq, Repr

namespace OptionName

/-- The word for an option. -/
def long : OptionName → String
  | .settings => "settings"
  | .manifest => "manifest"
  | .pipeline => "pipeline"
  | .out => "out"
  | .rows => "rows"
  | .widget => "widget"

/-- The letter for an option. -/
def short? : OptionName → Option Char
  | .settings => none
  | .manifest => some 'm'
  | .pipeline => some 'p'
  | .out => some 'o'
  | .rows => some 'r'
  | .widget => some 'w'

/-- Whether an option may have a value: a path is not empty, and a number of rows is a count. -/
def accepts (option : OptionName) (value : String) : Bool :=
  match option with
  | .rows => (Numeral.count? value.toList).isSome
  | .widget => true
  | _ => !value.isEmpty

end OptionName

/-! ## Scanning -/

/-- What may stand on a side of the command. -/
structure Side where
  isBeforeCommand : Bool
  options : List OptionName
  /-- How many arguments may stand there that belong to no option. -/
  operands : Nat

/-- The arguments found on a side of the command. -/
structure Given where
  options : List (OptionName × String) := []
  operands : List String := []

namespace Given

/-- Adds the value of an option. -/
def addOption (given : Given) (option : OptionName) (value : String) : Except Stop Given :=
  if (given.options.lookup option).isSome || !option.accepts value then .error .badUsage
  else .ok { given with options := (option, value) :: given.options }

/-- Adds a path. -/
def addOperand (side : Side) (given : Given) (path : String) : Except Stop Given :=
  if path.isEmpty || side.operands ≤ given.operands.length then .error .badUsage
  else .ok { given with operands := given.operands ++ [path] }

/-- The value of an option. -/
def value? (given : Given) (option : OptionName) : Option String := given.options.lookup option

end Given

/-- An option that has been read, with its value if that stands in the same argument; none for a
flag. -/
abbrev Found := Option (OptionName × Option String)

/-- Reads an argument after two hyphens. -/
def scanLongOption (side : Side) (body : List Char) : Except Stop Found :=
  let name := String.ofList (body.takeWhile (· != '='))
  let value? := (body.dropWhile (· != '=')).tail?.map String.ofList
  match side.options.find? fun option => option.long == name with
  | some option => .ok (some (option, value?))
  | none =>
    if value?.isSome then .error .badUsage
    else if name = "verbose" then .ok none
    else if name = "help" then .error .help
    else if name = "version" ∧ side.isBeforeCommand then .error .version
    else .error .badUsage

/-- Reads the letters after a hyphen. -/
def scanLetters (side : Side) : List Char → Except Stop Found
  | [] => .ok none
  | c :: rest =>
    match side.options.find? fun option => option.short? == some c with
    | some option =>
      match rest with
      | [] => .ok (some (option, none))
      | '=' :: value => .ok (some (option, some (String.ofList value)))
      | value => .ok (some (option, some (String.ofList value)))
    | none =>
      if c = 'v' then scanLetters side rest
      else if c = 'h' then .error .help
      else if c = 'V' ∧ side.isBeforeCommand then .error .version
      else .error .badUsage

/-- Whether an argument is an option. A lone hyphen is none. -/
def isOption (arg : String) : Bool :=
  match arg.toList with
  | '-' :: _ :: _ => true
  | _ => false

/-- Reads an argument that is an option. -/
def scanOption (side : Side) (arg : String) : Except Stop Found :=
  match arg.toList with
  | '-' :: '-' :: body => scanLongOption side body
  | _ :: letters => scanLetters side letters
  | [] => .ok none

/-- Reads the arguments on a side of the command. Before it, reading stops at the command. -/
def scanSide (side : Side) : List String → Given → Except Stop (Given × List String)
  | [], given => .ok (given, [])
  | arg :: rest, given =>
    if arg = "--" then
      if side.isBeforeCommand then .error .badUsage
      else (rest.foldlM (Given.addOperand side) given).map (·, [])
    else if isOption arg then
      match scanOption side arg with
      | .error stop => .error stop
      | .ok none => scanSide side rest given
      | .ok (some (option, some value)) =>
        match given.addOption option value with
        | .error stop => .error stop
        | .ok given => scanSide side rest given
      | .ok (some (option, none)) =>
        match rest with
        | [] => .error .badUsage
        | value :: rest =>
          if isOption value then .error .badUsage
          else
            match given.addOption option value with
            | .error stop => .error stop
            | .ok given => scanSide side rest given
    else if side.isBeforeCommand then .ok (given, arg :: rest)
    else
      match given.addOperand side arg with
      | .error stop => .error stop
      | .ok given => scanSide side rest given

/-! ## Commands -/

/-- A command with the paths and values it was given. -/
inductive Command where
  /-- Prints the types of the columns of a dataset. -/
  | types (data : String) (manifest : Option String)
  /-- Runs a pipeline over a dataset and prints or writes the rows. -/
  | apply (data pipeline : String) (out : Option String)
  /-- Runs a pipeline over a dataset and prints the first rows. -/
  | preview (data : String) (pipeline manifest : Option String) (rows : Option Nat)
  /-- Prints what the steps of a pipeline do. -/
  | describe (pipeline : String)
  /-- Prints the rows of a widget. -/
  | query (data manifest widget : String)
deriving DecidableEq, Repr

namespace Command

/-- The words for the commands. -/
def names : List String := ["types", "apply", "preview", "describe", "query"]

/-- The options of a command. -/
def options (name : String) : List OptionName :=
  if name = "types" then [.manifest]
  else if name = "apply" then [.pipeline, .out]
  else if name = "preview" then [.pipeline, .manifest, .rows]
  else if name = "query" then [.manifest, .widget]
  else []

/-- The command with a name and the arguments after it. A preview needs a pipeline or a manifest. -/
def ofGiven? (name : String) (given : Given) : Option Command := do
  let [path] ← some given.operands | none
  if name = "types" then some (.types path (given.value? .manifest))
  else if name = "apply" then do
    let pipeline ← given.value? .pipeline
    some (.apply path pipeline (given.value? .out))
  else if name = "preview" then
    let pipeline := given.value? .pipeline
    let manifest := given.value? .manifest
    if pipeline.isNone && manifest.isNone then none
    else
      some (.preview path pipeline manifest
        ((given.value? .rows).bind fun s => Numeral.count? s.toList))
  else if name = "describe" then some (.describe path)
  else if name = "query" then do
    let manifest ← given.value? .manifest
    let widget ← given.value? .widget
    some (.query path manifest widget)
  else none

end Command

/-- A command with the path of its settings. -/
structure Invocation where
  settings : Option String
  command : Command
deriving DecidableEq, Repr

namespace Invocation

/-- Reads the arguments after the word `help`: nothing, or the word for a command. -/
def parseHelp (rest : List String) : Stop :=
  match rest with
  | [] => .help
  | [name] => if name ∈ "help" :: Command.names then .help else .badUsage
  | _ => .badUsage

/-- Reads a list of arguments. Settings after the command go before settings in front of it. -/
def parse (args : List String) : Except Stop Invocation := do
  let (before, rest) ← scanSide ⟨true, [.settings], 0⟩ args {}
  match rest with
  | [] => .error .badUsage
  | name :: rest =>
    if name = "help" then .error (parseHelp rest)
    else if name ∉ Command.names then .error .badUsage
    else do
      let (after, _) ← scanSide ⟨false, .settings :: Command.options name, 1⟩ rest {}
      match Command.ofGiven? name after with
      | some command =>
        .ok ⟨(after.value? .settings).or (before.value? .settings), command⟩
      | none => .error .badUsage

/-- The paths that a run may read. -/
def paths (invocation : Invocation) : List String :=
  invocation.settings.toList ++
    match invocation.command with
    | .types data manifest => data :: manifest.toList
    | .apply data pipeline _ => [data, pipeline]
    | .preview data pipeline manifest _ => data :: (manifest.toList ++ pipeline.toList)
    | .describe pipeline => [pipeline]
    | .query data manifest _ => [data, manifest]

end Invocation

end Dashboard
