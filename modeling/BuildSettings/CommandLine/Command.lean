import BuildSettings.CommandLine.Options
import BuildSettings.Path

/-!
# Commands

The commands of the program and what each takes.
-/

namespace BuildSettings.CommandLine

/-- Which preferences hold. -/
structure PreferenceChoice where
  /-- The root of the repository. -/
  repository : Option Path
  noHostFile : Bool
  overrides : List String
deriving DecidableEq, Repr

/-- The project of a query and where its SDKs and dumps come from. -/
structure ProjectChoice where
  project : Path
  sdks : Option Path
  dumps : List String
deriving DecidableEq, Repr

/-- A command. -/
inductive Command where
  | settings (project : ProjectChoice) (target : String) (keys : List String)
  | compileArgs (project : ProjectChoice) (target : String) (file : Path) (index : Option Path)
      (explain : Bool)
  | buildOrder (project : Path) (additional : List Path) (target : String)
  | dump (dumps : List String)
  | config
deriving DecidableEq, Repr

/-- A command with the choice of its preferences. -/
structure Request where
  command : Command
  preferences : PreferenceChoice
deriving DecidableEq, Repr

/-- The options that choose preferences. -/
def preferenceOptions : List OptionForm :=
  [{ name := "repo", letter := some 'C', kind := .single, isPath := true },
    { name := "no-host-config", kind := .flag },
    { name := "set", kind := .repeated }]

/-- The option for a project. -/
def projectOption : OptionForm :=
  { name := "project", letter := some 'p', kind := .single, isPath := true, required := true }

/-- The option for a target. -/
def targetOption : OptionForm :=
  { name := "target", letter := some 't', kind := .single, required := true }

/-- The options that choose a project. -/
def projectOptions : List OptionForm :=
  [projectOption,
    { name := "sdks", kind := .single, isPath := true },
    { name := "dump", kind := .repeated }]

/-- The commands by name. -/
def commandForms : List (String × CommandForm) :=
  [("settings",
      { options := projectOptions ++
          [targetOption, { name := "key", letter := some 'k', kind := .repeated }] ++
          preferenceOptions }),
    ("compile-args",
      { options := projectOptions ++
          [targetOption,
            { name := "file", letter := some 'f', kind := .single, isPath := true,
              required := true },
            { name := "index", kind := .single, isPath := true },
            { name := "explain", kind := .flag }] ++
          preferenceOptions
        conflicts := [("explain", "index")] }),
    ("build-order",
      { options :=
          [projectOption, { name := "with", kind := .repeated, isPath := true }, targetOption] ++
          preferenceOptions }),
    ("dump", { options := preferenceOptions, positional := true }),
    ("config", { options := preferenceOptions })]

/-- The path that an option gives. -/
def Given.path? (given : Given) (name : String) : Option Path :=
  (given.value? name).map Path.mk

/-- The choice of preferences. -/
def Given.preferences (given : Given) : PreferenceChoice :=
  ⟨given.path? "repo", given.has "no-host-config", given.values "set"⟩

/-- The choice of a project. -/
def Given.project (given : Given) : ProjectChoice :=
  ⟨(given.path? "project").getD ⟨""⟩, given.path? "sdks", given.values "dump"⟩

/-- The command of a name with what was given. -/
def Command.ofGiven (name : String) (given : Given) : Command :=
  let target := (given.value? "target").getD ""
  match name with
  | "settings" => .settings given.project target (given.values "key")
  | "compile-args" =>
    .compileArgs given.project target ((given.path? "file").getD ⟨""⟩) (given.path? "index")
      (given.has "explain")
  | "build-order" =>
    .buildOrder ((given.path? "project").getD ⟨""⟩) ((given.values "with").map Path.mk) target
  | "dump" => .dump given.positional
  | _ => .config

/-- Whether a word before the command asks for help or for the version. -/
def asksForHelp (word : String) : Bool :=
  match Word.of word with
  | .long name none => name == "help".toList || name == "version".toList
  | .short letter _ => letter == 'h' || letter == 'V'
  | _ => false

/-- What the command `help` answers to: nothing more, or the name of one command. -/
def helpAnswer (words : List String) : Stop :=
  match words with
  | [] => .help
  | [name] => if name = "help" ∨ (commandForms.lookup name).isSome then .help else .usage
  | _ => .usage

/-- Reads the words of a command line. -/
def Request.ofWords : List String → Except Stop Request
  | [] => .error .usage
  | name :: words =>
    if name = "help" then .error (helpAnswer words)
    else
      match commandForms.lookup name with
      | some form =>
        match form.read words with
        | .error stop => .error stop
        | .ok given => .ok ⟨.ofGiven name given, given.preferences⟩
      | none => .error (if asksForHelp name then .help else .usage)

end BuildSettings.CommandLine
