import QueryDesk.Settings.Basic
import QueryDesk.Toml.Document

/-!
# Reading settings

Settings are read from a TOML document with a table for each section.  Keys that are not given keep
their defaults, and keys that are not known are passed over, provided that their numbers are within
bounds.  A section may also be a list of its values in order, or a moment, which sets none of
them.
-/

namespace QueryDesk.Settings

open QueryDesk.Json QueryDesk.Toml

/-! ## Values -/

/-- Whether a float is finite, or infinite by its own text. -/
def isFiniteFloat (written : String) : Bool :=
  match numeral? written.toList with
  | some numeral => numeral.magnitude.isSome
  | none => true

mutual

/-- Whether the numbers of a value are within bounds: integers within 128 bits, floats finite. -/
def isReadable : Node → Bool
  | .integer i => (-i).toNat ≤ Nat.pow 2 127 && i.toNat < Nat.pow 2 128
  | .float written => isFiniteFloat written
  | .list items => areReadable items
  | .table _ entries => entriesReadable entries
  | .tables items => tablesReadable items
  | _ => true

/-- Whether the numbers of the items of a list are within bounds. -/
def areReadable : List Node → Bool
  | [] => true
  | item :: rest => isReadable item && areReadable rest

/-- Whether the numbers of the values of a table are within bounds. -/
def entriesReadable : List (String × Node) → Bool
  | [] => true
  | (_, value) :: rest => isReadable value && entriesReadable rest

/-- Whether the numbers of a list of tables are within bounds. -/
def tablesReadable : List (List (String × Node)) → Bool
  | [] => true
  | entries :: rest => entriesReadable entries && tablesReadable rest

end

/-- A text. -/
def text? : Node → Option String
  | .text s => some s
  | _ => none

/-- A truth value. -/
def boolean? : Node → Option Bool
  | .boolean b => some b
  | _ => none

/-- A natural number of 64 bits. -/
def natural? : Node → Option Nat
  | .integer i => if 0 ≤ i && i.toNat < Nat.pow 2 64 then some i.toNat else none
  | _ => none

/-! ## Sections -/

/-- A key of a section, and how its value is put into the section. -/
structure Key (σ : Type) where
  name : String
  put : Node → Option (σ → σ)

/-- A key whose value is read and then put into the section. -/
def Key.of {α σ : Type} (name : String) (read : Node → Option α) (set : α → σ → σ) : Key σ :=
  ⟨name, fun node => (read node).map set⟩

variable {σ : Type}

/-- Reads the entries of a table. -/
def readEntries (keys : List (Key σ)) : Entries → σ → Option σ
  | [], s => some s
  | (name, value) :: rest, s =>
    match keys.find? (·.name == name) with
    | some key => (key.put value).bind fun set => readEntries keys rest (set s)
    | none => if isReadable value then readEntries keys rest s else none

/-- Reads the items of a list in the order of the keys; what is left over is not read. -/
def readItems : List (Key σ) → List Node → σ → Option σ
  | key :: keys, value :: rest, s => (key.put value).bind fun set => readItems keys rest (set s)
  | _, _, s => some s

/-- Reads a section over its defaults. -/
def readSection (keys : List (Key σ)) (defaults : σ) : Node → Option σ
  | .table _ entries => readEntries keys entries defaults
  | .list items => readItems keys items defaults
  | .tables items => readItems keys (items.map (.table .header)) defaults
  | .moment _ => some defaults
  | _ => none

/-- A section of the settings. -/
def Key.section {τ : Type} (name : String) (keys : List (Key τ)) (get : σ → τ)
    (set : τ → σ → σ) (defaults : σ) : Key σ :=
  .of name (readSection keys (get defaults)) set

/-! ## The sections of the settings -/

/-- The keys of the server. -/
def Server.keys : List (Key Server) := [
  .of "bind" text? fun v s => { s with bind := v }]

/-- The keys of the storage. -/
def Storage.keys : List (Key Storage) := [
  .of "path" text? fun v s => { s with path := some v }]

/-- The keys of the completion service. -/
def Completion.keys : List (Key Completion) := [
  .of "base_url" text? fun v s => { s with baseUrl := v },
  .of "api_key" text? fun v s => { s with apiKey := v },
  .of "model" text? fun v s => { s with model := v },
  .of "timeout_secs" natural? fun v s => { s with timeout := v }]

/-- The keys of the tool server. -/
def Tools.keys : List (Key Tools) := [
  .of "server_label" text? fun v s => { s with label := v },
  .of "server_description" text? fun v s => { s with description := v },
  .of "server_url" text? fun v s => { s with url := v }]

/-- The keys of the engine. -/
def Engine.keys : List (Key Engine) := [
  .of "base_url" text? fun v s => { s with baseUrl := v },
  .of "user" text? fun v s => { s with user := v },
  .of "timeout_secs" natural? fun v s => { s with timeout := v }]

/-- The keys of streams. -/
def Streaming.keys : List (Key Streaming) := [
  .of "emit_error_events" boolean? fun v s => { s with emitErrors := v }]

/-- The keys of the compiler. -/
def compilerKeys : List (Key Sql.Options) := [
  .of "max_depth" natural? fun v s => { s with maxDepth := v },
  .of "resolve_join_locals" boolean? fun v s => { s with resolveLocals := v }]

/-- The keys of logging. -/
def Logging.keys : List (Key Logging) := [
  .of "level" text? fun v s => { s with level := v }]

/-- The sections. -/
def keys : List (Key Settings) :=
  let d := Settings.default
  [.section "server" Server.keys (·.server) (fun v s => { s with server := v }) d,
    .section "store" Storage.keys (·.storage) (fun v s => { s with storage := v }) d,
    .section "completion" Completion.keys (·.completion)
      (fun v s => { s with completion := v }) d,
    .section "tools" Tools.keys (·.tools) (fun v s => { s with tools := v }) d,
    .section "engine" Engine.keys (·.engine) (fun v s => { s with engine := v }) d,
    .section "streaming" Streaming.keys (·.streaming) (fun v s => { s with streaming := v }) d,
    .section "compiler" compilerKeys (·.compiler) (fun v s => { s with compiler := v }) d,
    .section "logging" Logging.keys (·.logging) (fun v s => { s with logging := v }) d]

/-- Reads the text of a document. -/
def parse? (document : String) : Option Settings :=
  (Toml.parse? document).bind fun entries => readEntries keys entries Settings.default

end QueryDesk.Settings
