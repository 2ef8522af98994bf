import QueryDesk.CommandLine.Address
import QueryDesk.CommandLine.Arguments
import QueryDesk.Query.BuiltIn
import QueryDesk.Query.Wire
import QueryDesk.Settings.Assembly

/-!
# Running commands

A run reads its arguments, loads the settings, and carries the command out.  Its outcome is a text
to print, an address to listen on with the parts of the service, or a failure, which is told on the
error output and by the exit code.
-/

namespace QueryDesk.CommandLine

open QueryDesk.Json QueryDesk.Query QueryDesk.Settings QueryDesk.Sql

/-- Why a spec cannot be read from its file. -/
inductive SpecFault where
  | file (cause : Files.Failure)
  | json (cause : Fault)
deriving DecidableEq, Repr

/-- The wording of a fault. -/
def SpecFault.message : SpecFault → String
  | .file cause => cause.message
  | .json cause => cause.message

/-- Why a run fails. -/
inductive Failure where
  | misuse
  | settings (cause : Settings.Failure)
  | spec (path : String) (cause : SpecFault)
  | compile (cause : CompileError)
  | assembly (cause : AssemblyFailure)
  | address (cause : AddressFault)
deriving DecidableEq, Repr

/-- The forms of a call. -/
def usage : String :=
  "Usage: dynq [-c <CONFIG>] serve [-b <BIND>]\n" ++
    "       dynq [-c <CONFIG>] compile [-o sql|verbose] <FILE>|--system"

/-- The program's name and version. -/
def versionText : String := "dynq 0.1.0"

/-- The wording of a failure. -/
def Failure.message : Failure → String
  | .misuse => usage
  | .settings cause => s!"Error loading config: {cause.message}"
  | .spec path cause => s!"Error reading spec '{path}': {cause.message}"
  | .compile cause => s!"Compilation error: {cause.message}"
  | .assembly cause => s!"Server error: {cause.message}"
  | .address cause => s!"Server error: {cause.message}"

/-- The exit code of a failure. -/
def Failure.exitCode : Failure → Nat
  | .misuse => 2
  | _ => 1

/-- What becomes of a run. -/
inductive Outcome where
  | printed (text : String)
  | listening (address : String) (service : Assembly)
  | failed (cause : Failure)

/-! ## Compiling -/

/-- The spec in a file. -/
def readSpec (fs : Files) (path : String) : Except SpecFault Spec :=
  match fs.readText path with
  | .error cause => .error (.file cause)
  | .ok text => match Spec.parse text with
    | .error cause => .error (.json cause)
    | .ok spec => .ok spec

/-- The spec of a source, and the source's name. -/
def loadSpec (fs : Files) : Source → Except Failure (Spec × String)
  | .builtIn => .ok (BuiltIn.customersWithAddresses, "built-in system query")
  | .file path => match readSpec fs path with
    | .error cause => .error (.spec path cause)
    | .ok spec => .ok (spec, path)

/-- The heading of a verbose compilation. -/
def heading (name : String) (depth : Nat) : String :=
  s!"-- dynq compiled SQL\n-- Source: {name}\n-- Derived table depth: {depth}\n\n"

/-- Compiles a spec to a text to print. -/
def compileSource (fs : Files) (options : Options) (source : Source) (format : Format) :
    Except Failure String :=
  match loadSpec fs source with
  | .error failure => .error failure
  | .ok (spec, name) => match compile options spec with
    | .error cause => .error (.compile cause)
    | .ok sql => match format with
      | .sql => .ok (sql ++ "\n")
      | .verbose => .ok (heading name spec.depth ++ sql ++ "\n")

/-! ## Serving -/

/-- Assembles the service and checks the address that it listens on. -/
def prepareService (env : Environment) (fs : Files) (settings : Settings)
    (bind : Option String) : Outcome × Files :=
  let address := bind.getD settings.server.bind
  match settings.assemble env fs with
  | (.error cause, fs) => (.failed (.assembly cause), fs)
  | (.ok service, fs) => match checkAddress address with
    | .error cause => (.failed (.address cause), fs)
    | .ok () => (.listening address service, fs)

/-! ## Commands -/

/-- The settings of a run. -/
def settingsFor (env : Environment) (fs : Files) : Option String → Except Failure Settings
  | some path => (fromFile fs path).mapError .settings
  | none => (load env fs).mapError .settings

/-- Carries a command out. -/
def perform (env : Environment) (fs : Files) (invocation : Invocation) : Outcome × Files :=
  match settingsFor env fs invocation.config with
  | .error failure => (.failed failure, fs)
  | .ok settings => match invocation.command with
    | .serve bind => prepareService env fs settings bind
    | .compile source format =>
      match compileSource fs settings.compiler source format with
      | .error failure => (.failed failure, fs)
      | .ok text => (.printed text, fs)

/-- Runs the program. -/
def run (env : Environment) (fs : Files) (args : List String) : Outcome × Files :=
  match Request.parse? args with
  | none => (.failed .misuse, fs)
  | some .help => (.printed (usage ++ "\n"), fs)
  | some .version => (.printed (versionText ++ "\n"), fs)
  | some (.run invocation) => perform env fs invocation

/-- The paths that a run may read. -/
def mentioned (env : Environment) (args : List String) : List String :=
  match Request.parse? args with
  | some (.run ⟨config, command⟩) =>
    let settings := match config with
      | some path => [path]
      | none => (env.get? "DYNQ_CONFIG").toList ++ [localFile] ++ env.configFile?.toList
    match command with
    | .compile (.file path) _ => settings ++ [path]
    | _ => settings
  | _ => []

end QueryDesk.CommandLine
