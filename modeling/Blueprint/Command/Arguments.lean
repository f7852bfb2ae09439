import Blueprint.Log.Format
import Blueprint.Text.Numeral

/-!
# Arguments

The command line: options, a command, and its options.

An option is given by its name (`--input`) or by a letter (`-i`), and a value follows it as the next
argument, after an equality sign, or right after the letter. Letters of options without a value can
be put together. No option may be given twice in one place, and an argument that starts with a dash
is no value unless it is the dash alone. Options of the whole program stand before the command or
after it; what stands after it counts.
-/

namespace Blueprint.Command

/-- Why arguments are refused. -/
inductive UsageError where
  /-- An argument that nothing calls for. -/
  | unexpected (argument : String)
  /-- An option without its value. -/
  | missingValue (option : String)
  /-- An option with a value that it cannot have. -/
  | badValue (option value : String)
  /-- An option that is given twice. -/
  | repeated (option : String)
  /-- No command. -/
  | missingCommand
  deriving DecidableEq, Repr

/-- A refusal in words. -/
def UsageError.message : UsageError → String
  | unexpected argument => "unexpected argument '" ++ argument ++ "'"
  | missingValue option => "a value is required for '--" ++ option ++ "'"
  | badValue option value => "invalid value '" ++ value ++ "' for '--" ++ option ++ "'"
  | repeated option => "the argument '--" ++ option ++ "' cannot be used multiple times"
  | missingCommand => "a command is required"

/-- An option. -/
structure OptionSpec where
  /-- The name. -/
  name : String
  /-- The letter. -/
  letter : Option Char := none
  /-- For an option with a value: which values it can have. -/
  values : Option (String → Bool) := none

/-- The options that are given, with their values. -/
abbrev Given := List (String × String)

/-- What becomes of an argument that is an option. -/
inductive OptionStep where
  /-- The option is complete. -/
  | complete (given : Given)
  /-- The next argument is its value. -/
  | wantsValue (given : Given) (spec : OptionSpec)
  /-- The program is to tell its version. -/
  | version

/-- The name of the option that asks for the version. -/
def versionName : String := "version"

/-- Gives an option a value. -/
def give (given : Given) (spec : OptionSpec) (value : String) : Except UsageError Given :=
  if (given.lookup spec.name).isSome then .error (.repeated spec.name)
  else
    match spec.values with
    | some accepts =>
      if accepts value then .ok (given ++ [(spec.name, value)])
      else .error (.badValue spec.name value)
    | none => .ok (given ++ [(spec.name, value)])

/-- Gives an option without a value. -/
def giveFlag (given : Given) (spec : OptionSpec) : Except UsageError OptionStep :=
  if spec.name = versionName then .ok .version
  else (give given spec "").map OptionStep.complete

/-- Reads an option given by its name. -/
def readName (specs : List OptionSpec) (given : Given) (argument : List Char) :
    Except UsageError OptionStep :=
  let name := argument.takeWhile (· != '=')
  let unexpected := UsageError.unexpected ("--" ++ String.ofList argument)
  match specs.find? (·.name == String.ofList name) with
  | none => .error unexpected
  | some spec =>
    match argument.dropWhile (· != '='), spec.values with
    | _ :: value, some _ => (give given spec (String.ofList value)).map .complete
    | [], some _ => .ok (.wantsValue given spec)
    | _ :: _, none => .error unexpected
    | [], none => giveFlag given spec

/-- Reads options given by their letters. -/
def readLetters (specs : List OptionSpec) (given : Given) :
    List Char → Except UsageError OptionStep
  | [] => .ok (.complete given)
  | c :: rest =>
    match specs.find? (·.letter == some c) with
    | none => .error (.unexpected ("-" ++ String.singleton c))
    | some spec =>
      match spec.values with
      | some _ =>
        match rest with
        | [] => .ok (.wantsValue given spec)
        | '=' :: value | value => (give given spec (String.ofList value)).map .complete
      | none =>
        match giveFlag given spec with
        | .error e => .error e
        | .ok (.complete given) => readLetters specs given rest
        | .ok other => .ok other

/-- Reads an argument that is an option. -/
def readOption (specs : List OptionSpec) (given : Given) (argument : String) :
    Except UsageError OptionStep :=
  match argument.toList with
  | '-' :: '-' :: c :: name => readName specs given (c :: name)
  | '-' :: c :: letters =>
    if c = '-' then .error (.unexpected argument) else readLetters specs given (c :: letters)
  | _ => .error (.unexpected argument)

/-- Whether an argument looks like an option and so cannot be a value. -/
def looksLikeOption (argument : String) : Bool :=
  argument.toList.head? == some '-' && argument != "-"

/-- What arguments say. -/
inductive Scan where
  /-- Options, and what follows them: a command and its arguments, or nothing. -/
  | given (options : Given) (rest : List String)
  /-- The program is to tell its version. -/
  | version

/-- Reads options up to the name of a command. -/
def scan (specs : List OptionSpec) (commands : List String) (given : Given) :
    List String → Except UsageError Scan
  | [] => .ok (.given given [])
  | ["--"] => .ok (.given given [])
  | argument :: more =>
    if argument ∈ commands then .ok (.given given (argument :: more))
    else
      match readOption specs given argument with
      | .error e => .error e
      | .ok .version => .ok .version
      | .ok (.complete given) => scan specs commands given more
      | .ok (.wantsValue given spec) =>
        match more with
        | [] => .error (.missingValue spec.name)
        | value :: more =>
          if looksLikeOption value then .error (.missingValue spec.name)
          else
            match give given spec value with
            | .error e => .error e
            | .ok given => scan specs commands given more

/-! ## The options of the program -/

/-- The words for levels of a log. -/
def isLevel (s : String) : Bool := (Log.levelWords.lookup s).isSome

/-- The names of formats of a log. -/
def isFormat (s : String) : Bool := (Log.Format.ofName? s).isSome

/-- A number of spaces: digits after an optional plus sign, up to 64 bits. -/
def spaces? (s : String) : Option Nat := Text.word? s.toList

/-- The options of the whole program. -/
def globalOptions : List OptionSpec := [
  { name := "verbose", letter := some 'v' },
  { name := "log-level", values := some isLevel },
  { name := "log-format", values := some isFormat }]

/-- The option that asks for the version. -/
def versionOption : OptionSpec := { name := versionName, letter := some 'V' }

/-- The option for the input. -/
def inputOption : OptionSpec := { name := "input", letter := some 'i', values := some (· != "") }

/-- The commands and their own options. -/
def commandOptions : List (String × List OptionSpec) := [
  ("generate", [
    inputOption,
    { name := "output-dir", letter := some 'o', values := some (· != "") },
    { name := "package", letter := some 'p', values := some fun _ => true },
    { name := "schema-name", values := some fun _ => true },
    { name := "indent", values := some fun s => (spaces? s).isSome }]),
  ("validate", [inputOption]),
  ("inspect", [inputOption, { name := "json" }])]

/-- A command. -/
inductive Action where
  /-- Writes the artifacts of a diagram. -/
  | generate (input outputDirectory package schemaName : Option String) (indent : Option Nat)
  /-- Makes the artifacts of a diagram without writing them. -/
  | validate (input : Option String)
  /-- Prints the model of a diagram. -/
  | inspect (input : Option String) (json : Bool)
  deriving DecidableEq, Repr

/-- What the command line asks for. -/
structure Request where
  /-- Whether the program tells what it does. -/
  verbose : Bool
  /-- The level of the log. -/
  logLevel : Option String
  /-- The format of the log. -/
  logFormat : Option String
  /-- The command. -/
  action : Action
  deriving DecidableEq, Repr

/-- What arguments ask for. -/
inductive Invocation where
  /-- To tell the version. -/
  | version
  /-- A command. -/
  | request (r : Request)
  deriving DecidableEq, Repr

/-- The command of a name with its options. -/
def action? (name : String) (given : Given) : Option Action :=
  match name with
  | "generate" =>
    some (.generate (given.lookup "input") (given.lookup "output-dir") (given.lookup "package")
      (given.lookup "schema-name") ((given.lookup "indent").bind spaces?))
  | "validate" => some (.validate (given.lookup "input"))
  | "inspect" => some (.inspect (given.lookup "input") (given.lookup "json").isSome)
  | _ => none

/-- Reads the arguments after the name of a command. -/
def readCommand (outer : Given) (name : String) (own : List OptionSpec)
    (arguments : List String) : Except UsageError Invocation :=
  match scan (own ++ globalOptions) [] [] arguments with
  | .error e => .error e
  | .ok .version => .ok .version
  | .ok (.given inner _) =>
    match action? name inner with
    | none => .error .missingCommand
    | some action =>
      let option (name : String) := (inner.lookup name).or (outer.lookup name)
      .ok (.request {
        verbose := (option "verbose").isSome
        logLevel := option "log-level"
        logFormat := option "log-format"
        action })

/-- Reads arguments. -/
def readArguments (arguments : List String) : Except UsageError Invocation :=
  match scan (versionOption :: globalOptions) (commandOptions.map (·.1)) [] arguments with
  | .error e => .error e
  | .ok .version => .ok .version
  | .ok (.given _ []) => .error .missingCommand
  | .ok (.given outer (name :: arguments)) =>
    match commandOptions.lookup name with
    | none => .error .missingCommand
    | some own => readCommand outer name own arguments

end Blueprint.Command
