import QueryDesk.Files.Basic
import QueryDesk.Settings.Reader
import QueryDesk.Settings.Template

/-!
# Loading settings

Settings come from a named file, or from the first place that has some: the file that the variable
`DYNQ_CONFIG` names, `dynq.toml` in the present folder, the user's configuration folder.  Without
any of them the defaults hold.  Time limits and the nesting bound must not be zero.
-/

namespace QueryDesk.Settings

/-- Why there are no settings. -/
inductive Failure where
  | noFile (path : String)
  | unreadable (cause : Files.Failure)
  | malformed
  | unset (name : String)
  | invalid (reason : String)
deriving DecidableEq, Repr

/-- The wording of a failure. -/
def Failure.message : Failure → String
  | .noFile path => s!"Config file not found: {path}"
  | .unreadable cause => s!"Failed to read config file: {cause.message}"
  | .malformed => "Failed to parse config file"
  | .unset name => s!"Missing environment variable: {name}"
  | .invalid reason => s!"Invalid configuration: {reason}"

/-- Expands a template. -/
def resolve (env : Environment) (template : String) : Except Failure String :=
  match expand env template with
  | .ok text => .ok text
  | .error name => .error (.unset name)

/-! ## Files -/

/-- Settings within their bounds. -/
def validate (s : Settings) : Except Failure Settings :=
  if s.completion.timeout = 0 || s.engine.timeout = 0 then
    .error (.invalid "timeout_secs must be greater than zero")
  else if s.compiler.maxDepth = 0 then
    .error (.invalid "compiler.max_depth must be greater than zero")
  else .ok s

/-- The settings in a file. -/
def fromFile (fs : Files) (path : String) : Except Failure Settings :=
  if !fs.has path then .error (.noFile path)
  else match fs.readText path with
    | .error cause => .error (.unreadable cause)
    | .ok text => match parse? text with
      | none => .error .malformed
      | some s => validate s

/-- The user's home folder. -/
def Environment.home? (env : Environment) : Option String :=
  match env.get? "HOME" with
  | some "" => env.accountHome
  | some home => some home
  | none => env.accountHome

/-- The configuration folder in the user's home folder. -/
def Environment.dotConfig? (env : Environment) : Option String :=
  env.home?.map fun home => Files.join home ".config"

/-- The user's configuration folder. -/
def Environment.configFolder? (env : Environment) : Option String :=
  match env.get? "XDG_CONFIG_HOME" with
  | some folder =>
    if Files.isAbsolute folder then some folder else env.dotConfig?
  | none => env.dotConfig?

/-- The name of the settings file in the present folder. -/
def localFile : String := "dynq.toml"

/-- The settings file in the user's configuration folder. -/
def Environment.configFile? (env : Environment) : Option String :=
  env.configFolder?.map fun folder => Files.join (Files.join folder "dynq") "config.toml"

/-- The file that settings are loaded from when none is named. -/
def source? (env : Environment) (fs : Files) : Option String :=
  match env.get? "DYNQ_CONFIG" with
  | some path => some path
  | none =>
    if fs.has localFile then some localFile
    else env.configFile?.filter fs.has

/-- The settings from the first place that has some. -/
def load (env : Environment) (fs : Files) : Except Failure Settings :=
  match source? env fs with
  | some path => fromFile fs path
  | none => .ok Settings.default

/-! ## Templates -/

/-- The path of the store's file, if one is set. -/
def storePath (s : Settings) (env : Environment) : Except Failure (Option String) :=
  match s.storage.path with
  | none => .ok none
  | some template => (resolve env template).map some

/-- The key to the completion service. -/
def apiKey (s : Settings) (env : Environment) : Except Failure String :=
  resolve env s.completion.apiKey

/-- The address of the completion service. -/
def completionUrl (s : Settings) (env : Environment) : Except Failure String :=
  resolve env s.completion.baseUrl

/-- The address of the engine. -/
def engineUrl (s : Settings) (env : Environment) : Except Failure String :=
  resolve env s.engine.baseUrl

/-- How SQL is generated. -/
def generation (s : Settings) (env : Environment) : Except Failure Generation.Settings :=
  (resolve env s.tools.url).map fun url =>
    ⟨s.completion.model, s.tools.label, s.tools.description, url, s.streaming.emitErrors⟩

end QueryDesk.Settings
