import QueryDesk.Text.Utf8

/-!
# Arguments

A command is preceded by options and followed by options of its own; the path of the settings may be
given in both places, and the later one counts.  An option's value is the next argument, or stands
after an equals sign, or right after the option's letter.  After two hyphens no argument is an
option.  Everything is read from left to right, and a request for help or the version is answered
where it stands; only then is the command checked as a whole.
-/

namespace QueryDesk.CommandLine

/-- What a compilation prints: the SQL alone, or with a heading. -/
inductive Format where
  | sql
  | verbose
deriving DecidableEq, Repr

/-- Where the spec comes from. -/
inductive Source where
  | builtIn
  | file (path : String)
deriving DecidableEq, Repr

/-- A command. -/
inductive Command where
  | serve (bind : Option String)
  | compile (source : Source) (format : Format)
deriving DecidableEq, Repr

/-- A command with the path of its settings. -/
structure Invocation where
  config : Option String
  command : Command
deriving DecidableEq, Repr

/-- What arguments ask for. -/
inductive Request where
  | run (invocation : Invocation)
  | help
  | version
deriving DecidableEq, Repr

/-! ## Words -/

/-- An option with a value. -/
inductive Setting where
  | config
  | bind
  | output
deriving DecidableEq, Repr

/-- Where options are read: before the command, or after it. -/
inductive Level where
  | top
  | serve
  | compile
deriving DecidableEq, Repr

/-- The options of a level, each with its name and its letter. -/
def Level.settings : Level → List (String × Char × Setting)
  | .top => [("config", 'c', .config)]
  | .serve => [("config", 'c', .config), ("bind", 'b', .bind)]
  | .compile => [("config", 'c', .config), ("output", 'o', .output)]

/-- What an argument says, together with the value after it. -/
inductive Word where
  | setting (setting : Setting) (value : String)
  | builtIn
  | help
  | version
  | escape
  | plain (text : String)
deriving DecidableEq, Repr

/-- Whether an argument is an option and not a value. -/
def isOption (arg : String) : Bool :=
  match arg.toList with
  | '-' :: _ :: _ => true
  | _ => false

/-- The value of an option: one that is attached, or the next argument. -/
def takeValue (setting : Setting) (attached : Option (List Char)) (rest : List String) :
    Option (Word × List String) :=
  match attached, rest with
  | some value, rest => some (.setting setting (String.ofList value), rest)
  | none, value :: rest =>
    if isOption value then none else some (.setting setting value, rest)
  | none, [] => none

/-- An option by its name, the text after two hyphens. -/
def readName (level : Level) (text : List Char) (rest : List String) :
    Option (Word × List String) :=
  let name := String.ofList (text.takeWhile (· != '='))
  let attached := match text.dropWhile (· != '=') with
    | _ :: value => some value
    | [] => none
  match level.settings.lookup name with
  | some (_, setting) => takeValue setting attached rest
  | none =>
    if attached.isSome then none
    else if name == "help" then some (.help, rest)
    else if name == "version" && level = .top then some (.version, rest)
    else if name == "system" && level = .compile then some (.builtIn, rest)
    else none

/-- An option by its letter, with the text after it. -/
def readLetter (level : Level) (letter : Char) (text : List Char) (rest : List String) :
    Option (Word × List String) :=
  match level.settings.find? fun (_, c, _) => c == letter with
  | some (_, _, setting) =>
    let attached := match text with
      | [] => none
      | '=' :: value => some value
      | value => some value
    takeValue setting attached rest
  | none =>
    if letter == 'h' then some (.help, rest)
    else if letter == 'V' && level = .top then some (.version, rest)
    else none

/-- The next word, and the arguments after it. -/
def takeWord (level : Level) : List String → Option (Word × List String)
  | [] => none
  | arg :: rest =>
    match arg.toList with
    | ['-', '-'] => some (.escape, rest)
    | '-' :: '-' :: text => readName level text rest
    | '-' :: letter :: text => readLetter level letter text rest
    | _ => some (.plain arg, rest)

/-! ## Commands -/

/-- What has been said about a command. -/
structure Draft where
  config : Option String
  bind : Option String
  output : Option Format
  builtIn : Bool
  file : Option String
deriving DecidableEq, Repr

/-- Nothing said yet. -/
def Draft.empty : Draft := ⟨none, none, none, false, none⟩

/-- The format with a name. -/
def Format.ofName? : String → Option Format
  | "sql" => some .sql
  | "verbose" => some .verbose
  | _ => none

/-- Sets an option, which may be set once.  A path is not empty. -/
def Draft.set (d : Draft) (setting : Setting) (value : String) : Option Draft :=
  match setting with
  | .config =>
    if d.config.isSome || value.isEmpty then none else some { d with config := some value }
  | .bind => if d.bind.isSome then none else some { d with bind := some value }
  | .output =>
    if d.output.isSome then none
    else (Format.ofName? value).map fun format => { d with output := some format }

/-- Adds an argument that is no option: the path of a spec. -/
def Draft.addPlain (d : Draft) (level : Level) (text : String) : Option Draft :=
  if level = .compile && d.file.isNone && !text.isEmpty then some { d with file := some text }
  else none

/-- The command of a draft, checked as a whole. -/
def Draft.command? (d : Draft) : Level → Option Command
  | .serve => some (.serve d.bind)
  | .compile =>
    let format := d.output.getD .sql
    match d.builtIn, d.file with
    | true, none => some (.compile .builtIn format)
    | false, some path => some (.compile (.file path) format)
    | _, _ => none
  | .top => none

/-- The request of a draft; the settings given before the command count if it has none itself. -/
def Draft.finish (d : Draft) (level : Level) (config : Option String) : Option Request :=
  (d.command? level).map fun command => .run ⟨d.config.or config, command⟩

/-- Reads the arguments after two hyphens. -/
def readPlain (level : Level) : List String → Draft → Option Draft
  | [], d => some d
  | text :: rest, d => (d.addPlain level text).bind (readPlain level rest)

/-- Reads the arguments of a command. -/
def readCommand (level : Level) (config : Option String) :
    Nat → List String → Draft → Option Request
  | _, [], d => d.finish level config
  | 0, _ :: _, _ => none
  | fuel + 1, args, d =>
    match takeWord level args with
    | none => none
    | some (word, rest) => match word with
      | .setting setting value =>
        (d.set setting value).bind (readCommand level config fuel rest)
      | .builtIn =>
        if d.builtIn then none else readCommand level config fuel rest { d with builtIn := true }
      | .help => some .help
      | .version => some .version
      | .escape => (readPlain level rest d).bind fun d => d.finish level config
      | .plain text => (d.addPlain level text).bind (readCommand level config fuel rest)

/-- Reads the arguments of a request for help: at most the name of a command. -/
def readHelp : List String → Option Request
  | [] | ["serve"] | ["compile"] | ["help"] => some .help
  | _ => none

/-- Reads the arguments up to the command, and then those of the command. -/
def readTop : Nat → List String → Draft → Option Request
  | 0, _, _ => none
  | fuel + 1, args, d =>
    match takeWord .top args with
    | none => none
    | some (word, rest) => match word with
      | .setting setting value => (d.set setting value).bind (readTop fuel rest)
      | .help => some .help
      | .version => some .version
      | .plain "serve" => readCommand .serve d.config (rest.length + 1) rest .empty
      | .plain "compile" => readCommand .compile d.config (rest.length + 1) rest .empty
      | .plain "help" => readHelp rest
      | _ => none

/-- What the arguments ask for, if they are well-formed. -/
def Request.parse? (args : List String) : Option Request :=
  readTop (args.length + 1) args .empty

end QueryDesk.CommandLine
