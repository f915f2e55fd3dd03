import BuildSettings.Text.Cut

/-!
# Options of a command

Reads the words behind a command as options and positional values, from left to right. An option
has a long name and may have a letter; a value stands behind an equals sign, directly behind the
letter, or in the next word unless that looks like an option. Behind `--` every word is a
positional value. The first mistake ends the reading, and so does the wish for help.
-/

namespace BuildSettings.CommandLine

/-- How often an option may be given, and whether it has a value. -/
inductive OptionKind where
  | flag
  | single
  | repeated
deriving DecidableEq, Repr

/-- An option. -/
structure OptionForm where
  name : String
  letter : Option Char := none
  kind : OptionKind
  /-- Whether the value is a path, which cannot be empty. -/
  isPath : Bool := false
  required : Bool := false

/-- What a command takes. -/
structure CommandForm where
  options : List OptionForm
  /-- Whether there are positional values; if so, there has to be one. -/
  positional : Bool := false
  /-- Pairs of options that exclude each other. -/
  conflicts : List (String × String) := []

/-- Why reading stops without a command to run. -/
inductive Stop where
  | help
  | usage
deriving DecidableEq, Repr

/-- The options that were given, with their values (flags have none), and the positional values,
each in order. -/
structure Given where
  options : List (String × String) := []
  positional : List String := []

namespace Given

/-- Whether an option was given. -/
def has (given : Given) (name : String) : Bool :=
  given.options.any (·.1 == name)

/-- The value of an option. -/
def value? (given : Given) (name : String) : Option String :=
  given.options.lookup name

/-- The values of an option, in order. -/
def values (given : Given) (name : String) : List String :=
  (given.options.filter (·.1 == name)).map (·.2)

/-- Takes an option with its value. -/
def add (given : Given) (form : OptionForm) (value : String) : Except Stop Given :=
  if form.kind ≠ .repeated ∧ given.has form.name then .error .usage
  else if form.isPath ∧ value.isEmpty then .error .usage
  else .ok { given with options := given.options ++ [(form.name, value)] }

/-- Takes a positional value. -/
def addPositional (given : Given) (command : CommandForm) (value : String) :
    Except Stop Given :=
  if command.positional then .ok { given with positional := given.positional ++ [value] }
  else .error .usage

/-- Takes words that are positional whatever they look like. -/
def addAllPositional (given : Given) (command : CommandForm) (words : List String) :
    Except Stop Given :=
  words.foldlM (fun given word => given.addPositional command word) given

/-- The checks once all words are read: what is required is there and nothing conflicts. -/
def check (given : Given) (command : CommandForm) : Except Stop Given :=
  if command.options.any (fun o => o.required && !given.has o.name) ||
      (command.positional && given.positional.isEmpty) ||
      command.conflicts.any (fun (a, b) => given.has a && given.has b) then
    .error .usage
  else .ok given

end Given

/-- What a word is. -/
inductive Word where
  /-- Everything behind it is positional. -/
  | escape
  /-- A long name, and the value behind an equals sign. -/
  | long (name : List Char) (value : Option (List Char))
  /-- A letter behind a dash, and what follows it. -/
  | short (letter : Char) (rest : List Char)
  | plain

/-- Tells what a word is; a dash alone is a value. -/
def Word.of (word : String) : Word :=
  match word.toList with
  | ['-', '-'] => .escape
  | '-' :: '-' :: cs =>
    match Text.cutFirst? '=' cs with
    | some (name, value) => .long name (some value)
    | none => .long cs none
  | '-' :: c :: cs => .short c cs
  | _ => .plain

/-- Whether a word can be the value of the option before it. -/
def Word.isValue : Word → Bool
  | .plain => true
  | _ => false

/-- The option that a word names, with the value in the word if there is one. The letter `h` and
the name `help` ask for help. -/
def CommandForm.find (command : CommandForm) (word : Word) :
    Except Stop (OptionForm × Option String) :=
  match word with
  | .long name value =>
    match command.options.find? (·.name == String.ofList name) with
    | some form =>
      if form.kind = .flag ∧ value.isSome then .error .usage
      else .ok (form, value.map String.ofList)
    | none => .error (if name = "help".toList ∧ value.isNone then .help else .usage)
  | .short letter rest =>
    match command.options.find? (·.letter == some letter) with
    | some form =>
      .ok (form, match rest with
        | [] => none
        | '=' :: value => some (String.ofList value)
        | value => some (String.ofList value))
    | none => .error (if letter = 'h' then .help else .usage)
  | .escape | .plain => .error .usage

/-- Reads words. -/
def CommandForm.readWords (command : CommandForm) (given : Given) :
    List String → Except Stop Given
  | [] => .ok given
  | word :: words =>
    match Word.of word with
    | .escape => given.addAllPositional command words
    | .plain =>
      match given.addPositional command word with
      | .error stop => .error stop
      | .ok given => command.readWords given words
    | option =>
      match command.find option with
      | .error stop => .error stop
      | .ok (form, some value) =>
        match given.add form value with
        | .error stop => .error stop
        | .ok given => command.readWords given words
      | .ok (form, none) =>
        if form.kind = .flag then
          match given.add form "" with
          | .error stop => .error stop
          | .ok given => command.readWords given words
        else
          match words with
          | [] => .error .usage
          | value :: words =>
            if (Word.of value).isValue then
              match given.add form value with
              | .error stop => .error stop
              | .ok given => command.readWords given words
            else .error .usage

/-- Reads the words behind a command. -/
def CommandForm.read (command : CommandForm) (words : List String) : Except Stop Given :=
  match command.readWords {} words with
  | .error stop => .error stop
  | .ok given => given.check command

end BuildSettings.CommandLine
