import QueryDesk.Completion.Basic
import QueryDesk.EventStream.Frame
import QueryDesk.Generation.Output
import QueryDesk.Store.Basic
import QueryDesk.Store.Supply

/-!
# Relaying a streamed generation

A relay turns the events of a provider's stream into frames, one at a time and only when asked:

* the comment `connected`, before the stream is opened;
* `current_type` for each event that is not terminal, its data the type as a JSON string;
* `response_completed` for each terminal event whose response was stored, its data the output;
* `done` with no data, when the stream has ended.

A terminal event whose output is rejected or cannot be stored is passed over, and reading goes on.
A failure to open the stream, or one inside it, ends the relay without `done`.  With `emitErrors`
each of these failures makes an `error` frame.
-/

namespace QueryDesk.Generation

open QueryDesk.Completion QueryDesk.EventStream QueryDesk.Json QueryDesk.Record QueryDesk.Store

/-- What generations work with: the store, the provider, and new ids and times. -/
structure Backend where
  store : Store
  provider : Provider
  supply : Supply

/-- Why a generation fails. -/
inductive Failure where
  | notFound (id : Uuid)
  | completion (cause : Completion.Failure)
  | invalidOutput (cause : OutputFault)
  | store (cause : Store.Failure)
deriving DecidableEq, Repr

/-- The wording of a failure. -/
def Failure.message : Failure → String
  | .notFound id => notFoundMessage id
  | .completion cause => s!"completion failed: {cause.message}"
  | .invalidOutput cause => s!"completion output failed validation: {cause.message}"
  | .store cause => s!"store error: {cause.message}"

/-- Stores the SQL of a response for a record. -/
def Backend.settle (b : Backend) (id : Uuid) (response : Response) :
    Except Failure DynamicQuery × Backend :=
  match parseOutput response.text with
  | .error fault => (.error (.invalidOutput fault), b)
  | .ok sql =>
    let (now, supply) := b.supply.takeTime
    let (result, store) := b.store.complete id now sql response.id
    let b := { b with store := store, supply := supply }
    match result with
    | .ok q => (.ok q, b)
    | .error cause => (.error (.store cause), b)

/-! ## Frames -/

/-- The frame before the stream is opened. -/
def connectedFrame : Frame := .comment "connected"

/-- The frame of an event that is not terminal. -/
def typeFrame (type : String) : Frame :=
  .event "current_type" (Value.string type).render

/-- The frame of a stored response. -/
def completedFrame (output : String) : Frame :=
  .event "response_completed" output

/-- The frame after the end of the stream. -/
def doneFrame : Frame := .event "done" ""

/-- The frame of a failure. -/
def errorFrame (message : String) : Frame :=
  .event "error" (Value.object [("message", .string message)]).render

/-- What a relay says of a failure to store: the cause itself. -/
def Failure.relayed : Failure → String
  | .store cause => cause.message
  | other => other.message

/-! ## The relay -/

/-- Where a relay stands. -/
inductive Phase where
  | unopened
  | connected
  | reading (items : List Item)
  | ended

/-- A relay for a record. -/
structure Relay where
  id : Uuid
  request : Request
  emitErrors : Bool
  phase : Phase

/-- The error frame, if such frames are wanted. -/
def errorFrame? (emitErrors : Bool) (message : String) : Option Frame :=
  if emitErrors then some (errorFrame message) else none

/-- Handles one item of the stream: the frame it makes, whether the stream goes on, and the
    backend after it. -/
def handleItem (emitErrors : Bool) (id : Uuid) (item : Item) (b : Backend) :
    Option Frame × Bool × Backend :=
  let b := { b with provider := b.provider.handOut }
  match item with
  | .error failure => (errorFrame? emitErrors failure.message, false, b)
  | .ok (.progress type) => (some (typeFrame type), true, b)
  | .ok (.completed response) =>
    match b.settle id response with
    | (.ok _, b) => (some (completedFrame response.text), true, b)
    | (.error failure, b) => (errorFrame? emitErrors failure.relayed, true, b)

/-- Reads items until one makes a frame or the stream ends. -/
def readItems (emitErrors : Bool) (id : Uuid) :
    List Item → Backend → Option Frame × Phase × Backend
  | [], b => (some doneFrame, .ended, b)
  | item :: rest, b =>
    match handleItem emitErrors id item b with
    | (frame, false, b) => (frame, .ended, b)
    | (some frame, true, b) => (some frame, .reading rest, b)
    | (none, true, b) => readItems emitErrors id rest b

namespace Relay

/-- The next frame, or `none` at the end. -/
def next (r : Relay) (b : Backend) : Option Frame × Relay × Backend :=
  match r.phase with
  | .unopened => (some connectedFrame, { r with phase := .connected }, b)
  | .connected =>
    let (opened, provider) := b.provider.openStream r.request
    let b := { b with provider := provider }
    match opened with
    | .error failure =>
      (errorFrame? r.emitErrors failure.message, { r with phase := .ended }, b)
    | .ok items =>
      let (frame, phase, b) := readItems r.emitErrors r.id items b
      (frame, { r with phase := phase }, b)
  | .reading items =>
    let (frame, phase, b) := readItems r.emitErrors r.id items b
    (frame, { r with phase := phase }, b)
  | .ended => (none, r, b)

/-- At most a given number of frames, each with the number of items the provider has handed out
    by then. -/
def take (r : Relay) : Nat → Backend → List (Frame × Nat) × Relay × Backend
  | 0, b => ([], r, b)
  | n + 1, b =>
    match r.next b with
    | (none, r, b) => ([], r, b)
    | (some frame, r, b) =>
      let (frames, r', b') := r.take n b
      ((frame, b.provider.handedOut) :: frames, r', b')

/-- A number of frames that no relay exceeds: one for every item still to come, the comment and
    the last frame. -/
def bound (r : Relay) (b : Backend) : Nat :=
  match r.phase with
  | .unopened | .connected => match b.provider.streams with
    | .ok items :: _ => items.length + 2
    | _ => 2
  | .reading items => items.length + 1
  | .ended => 0

/-- All frames. -/
def drain (r : Relay) (b : Backend) : List (Frame × Nat) × Backend :=
  let (frames, _, b) := r.take (r.bound b) b
  (frames, b)

end Relay

end QueryDesk.Generation
