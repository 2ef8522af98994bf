import QueryDesk.Service.Request

/-!
# Routes

The paths that the service knows, and what each method does there.  `HEAD` goes with `GET`.  The
path of the preview has the form of a record's path and comes before it.
-/

namespace QueryDesk.Service

/-- A known path; `id` is a segment as it stands in the path. -/
inductive Route where
  | records
  | preview
  | record (id : String)
  | generation (id : String)
  | results (id : String)
  | compilation
deriving DecidableEq, Repr

/-- What a request asks for. -/
inductive Action where
  | list
  | create
  | preview
  | fetch (id : String)
  | rename (id : String)
  | stream (id : String)
  | generate (id : String)
  | results (id : String)
  | compile
deriving DecidableEq, Repr

namespace Route

/-- The route of a path. -/
def ofSegments? : List String → Option Route
  | ["api", "dynamic-queries"] => some .records
  | ["api", "dynamic-queries", "sql"] => some .preview
  | ["api", "dynamic-queries", id] => if id.isEmpty then none else some (.record id)
  | ["api", "dynamic-queries", id, "generate"] =>
    if id.isEmpty then none else some (.generation id)
  | ["api", "dynamic-queries", id, "results"] => if id.isEmpty then none else some (.results id)
  | ["api", "query-specs", "compile"] => some .compilation
  | _ => none

/-- The methods of a route, as the `allow` header lists them. -/
def allow : Route → String
  | records => "GET,HEAD,POST"
  | preview => "GET,HEAD"
  | record _ => "GET,HEAD,PUT"
  | generation _ => "GET,HEAD,POST"
  | results _ => "GET,HEAD"
  | compilation => "POST"

/-- What a method other than `HEAD` does on a route. -/
def action? : Route → Method → Option Action
  | records, .get => some .list
  | records, .post => some .create
  | preview, .get => some .preview
  | record id, .get => some (.fetch id)
  | record id, .put => some (.rename id)
  | generation id, .get => some (.stream id)
  | generation id, .post => some (.generate id)
  | results id, .get => some (.results id)
  | compilation, .post => some .compile
  | _, _ => none

end Route

end QueryDesk.Service
