import QueryDesk.Completion.Responses
import QueryDesk.Engine.Paging
import QueryDesk.Settings.Load

/-!
# Assembling the service

The parts of the service are made in order: the store, which is opened at once, the clients of the
completion service and of the engine, and the generation settings.  The first failure ends the
assembly; what has been opened by then stays.
-/

namespace QueryDesk.Settings

open QueryDesk.Text

/-- The parts of the service. -/
structure Assembly where
  store : Store
  completion : Completion.Responses.Client
  engine : Engine.Client
  generation : Generation.Settings
  compiler : Sql.Options

/-- Why the service cannot be assembled. -/
inductive AssemblyFailure where
  | settings (cause : Failure)
  | store (cause : Store.Failure)
deriving DecidableEq, Repr

/-- The wording of a failure. -/
def AssemblyFailure.message : AssemblyFailure → String
  | .settings cause => cause.message
  | .store cause => cause.message

/-! ## The store's file -/

/-- The path of the store's file when none is set. -/
def defaultStorePath (env : Environment) : Except Store.Failure String :=
  match env.home? with
  | none => .error .noDataDirectory
  | some home => .ok (Files.join (Files.join home ".dynq") "dynq.db")

/-- The path of the store's file. -/
def chosenStorePath (s : Settings) (env : Environment) : Except AssemblyFailure String :=
  match s.storePath env with
  | .error cause => .error (.settings cause)
  | .ok (some path) => .ok path
  | .ok none => match defaultStorePath env with
    | .error cause => .error (.store cause)
    | .ok path => .ok path

/-- The text with which a store's file starts. -/
def storeMark : String := "SQLite format 3"

/-- Whether a file can be a store's: it is empty, or starts with the mark. -/
def isStoreContent (content : Bytes) : Bool :=
  content.isEmpty || (Utf8.encode storeMark ++ [0]).isPrefixOf content

/-- Opens the store in a file, which is made if it is not there. -/
def openStoreFile (fs : Files) (path : String) : Except Store.Failure Store × Files :=
  match fs.find? path with
  | some .folder => (.error (.database s!"unable to open database file: {path}"), fs)
  | some (.file content) =>
    if isStoreContent content then (.ok Store.empty, fs)
    else (.error (.database "file is not a database"), fs)
  | none =>
    if Files.endsInSlash path then
      (.error (.database s!"unable to open database file: {path}"), fs)
    else (.ok Store.empty, fs.touch path)

/-- Opens the store at a path, with the folders above it.  No path, and `:memory:`, mean a store
    without a file. -/
def openStore (fs : Files) (path : String) : Except Store.Failure Store × Files :=
  if path.isEmpty || path == ":memory:" then (.ok Store.empty, fs)
  else
    let folder := Files.parent path
    if folder.isEmpty then openStoreFile fs path
    else match fs.makeFolders folder with
      | .error cause => (.error (.io cause.message), fs)
      | .ok fs => openStoreFile fs path

/-! ## The parts -/

/-- The parts that come after the store. -/
def assembleClients (s : Settings) (env : Environment) (store : Store) :
    Except Failure Assembly := do
  let url ← s.completionUrl env
  let key ← s.apiKey env
  let engineUrl ← s.engineUrl env
  let generation ← s.generation env
  return ⟨store, ⟨url, key⟩, ⟨engineUrl, s.engine.user⟩, generation, s.compiler⟩

/-- Assembles the service. -/
def assemble (s : Settings) (env : Environment) (fs : Files) :
    Except AssemblyFailure Assembly × Files :=
  match chosenStorePath s env with
  | .error failure => (.error failure, fs)
  | .ok path => match openStore fs path with
    | (.error cause, fs) => (.error (.store cause), fs)
    | (.ok store, fs) => match assembleClients s env store with
      | .error cause => (.error (.settings cause), fs)
      | .ok assembly => (.ok assembly, fs)

end QueryDesk.Settings
