import QueryDesk.Generation.Orchestrator
import QueryDesk.Sql.Compiler

/-!
# Settings

The settings of the service in sections, each with defaults.  Some texts are templates, in which
environment variables are expanded when they are used.
-/

namespace QueryDesk.Settings

/-- The address to listen on. -/
structure Server where
  bind : String
deriving DecidableEq, Repr

/-- The path of the store's file, a template. -/
structure Storage where
  path : Option String
deriving DecidableEq, Repr

/-- The completion service.  Address and key are templates. -/
structure Completion where
  baseUrl : String
  apiKey : String
  model : String
  timeout : Nat
deriving DecidableEq, Repr

/-- The tool server offered to the model.  Its address is a template. -/
structure Tools where
  label : String
  description : String
  url : String
deriving DecidableEq, Repr

/-- The engine.  Its address is a template. -/
structure Engine where
  baseUrl : String
  user : String
  timeout : Nat
deriving DecidableEq, Repr

/-- Whether streams report failures. -/
structure Streaming where
  emitErrors : Bool
deriving DecidableEq, Repr

/-- The level of what is logged. -/
structure Logging where
  level : String
deriving DecidableEq, Repr

end QueryDesk.Settings

namespace QueryDesk

/-- The settings of the service. -/
structure Settings where
  server : Settings.Server
  storage : Settings.Storage
  completion : Settings.Completion
  tools : Settings.Tools
  engine : Settings.Engine
  streaming : Settings.Streaming
  compiler : Sql.Options
  logging : Settings.Logging
deriving DecidableEq, Repr

/-- The settings when nothing is configured. -/
def Settings.default : Settings :=
  let generation := Generation.Settings.default
  { server := ⟨"127.0.0.1:6173"⟩
    storage := ⟨none⟩
    completion := ⟨"https://api.openai.com/v1", "${OPENAI_API_KEY}", generation.model, 300⟩
    tools := ⟨generation.toolLabel, generation.toolDescription, generation.toolUrl⟩
    engine := ⟨"http://localhost:8080", "dynq", 120⟩
    streaming := ⟨false⟩
    compiler := .default
    logging := ⟨"info"⟩ }

/-- The JSON form of the settings. -/
def Settings.toJson (s : Settings) : Json.Value :=
  .object [
    ("server", .object [("bind", .string s.server.bind)]),
    ("store", .object [("path", .ofOption s.storage.path)]),
    ("completion", .object [("base_url", .string s.completion.baseUrl),
      ("api_key", .string s.completion.apiKey), ("model", .string s.completion.model),
      ("timeout_secs", .nat s.completion.timeout)]),
    ("tools", .object [("server_label", .string s.tools.label),
      ("server_description", .string s.tools.description), ("server_url", .string s.tools.url)]),
    ("engine", .object [("base_url", .string s.engine.baseUrl), ("user", .string s.engine.user),
      ("timeout_secs", .nat s.engine.timeout)]),
    ("streaming", .object [("emit_error_events", .bool s.streaming.emitErrors)]),
    ("compiler", .object [("max_depth", .nat s.compiler.maxDepth),
      ("resolve_join_locals", .bool s.compiler.resolveLocals)]),
    ("logging", .object [("level", .string s.logging.level)])]

end QueryDesk
