import QueryDesk.Json.Value
import QueryDesk.Record.Basic
import QueryDesk.Text.Blank

/-!
# Running stored queries

The engine runs one statement and answers the first value of its first row.  A stored query may end
in a semicolon, which the engine does not accept: one is stripped, together with the white space
after it.  A statement that does not end so is passed on untouched.
-/

namespace QueryDesk.Engine

open QueryDesk.Json QueryDesk.Record QueryDesk.Text

/-- Why the engine has no value. -/
inductive Failure where
  | transport
  | status (code : Nat) (body : String)
  | query (name message : String)
  | noRows
  | malformed (reason : String)
deriving DecidableEq, Repr

/-- The wording of a failure. -/
def Failure.message : Failure → String
  | .transport => "engine request failed"
  | .status code body => s!"engine returned {code}: {body}"
  | .query name message => s!"query failed ({name}): {message}"
  | .noRows => "query returned no rows"
  | .malformed reason => s!"malformed engine response: {reason}"

/-- Strips one semicolon at the end, and the white space after it. -/
def prepare (sql : String) : String :=
  match sql.toList.reverse.dropWhile isBlank with
  | ';' :: rest => String.ofList rest.reverse
  | _ => sql

end QueryDesk.Engine

namespace QueryDesk

open QueryDesk.Json QueryDesk.Record QueryDesk.Engine

/-- An engine as its answers to come, one for each statement, and the statements it was given. -/
structure Engine where
  answers : List (Except Failure Value)
  statements : List String

namespace Engine

/-- An engine that has not been asked yet. -/
def scripted (answers : List (Except Failure Value)) : Engine := ⟨answers, []⟩

/-- Gives the engine a statement as it is. -/
def submit (e : Engine) (statement : String) : Except Failure Value × Engine :=
  let e := { e with statements := e.statements ++ [statement] }
  match e.answers with
  | [] => (.error .noRows, e)
  | answer :: rest => (answer, { e with answers := rest })

/-- Runs SQL. -/
def execute (e : Engine) (sql : String) : Except Failure Value × Engine :=
  e.submit (prepare sql)

/-- Why a record's query has no value. -/
inductive RunFailure where
  | notGenerated (id : Uuid)
  | engine (cause : Failure)
deriving DecidableEq, Repr

/-- The wording of a failed run. -/
def RunFailure.message : RunFailure → String
  | .notGenerated id => s!"dynamic query {id.text} has no generated SQL yet"
  | .engine cause => cause.message

/-- Runs the stored query of a record, whatever its status. -/
def run (e : Engine) (q : DynamicQuery) : Except RunFailure Value × Engine :=
  match q.query with
  | none => (.error (.notGenerated q.id), e)
  | some sql =>
    let (result, e) := e.execute sql
    match result with
    | .ok v => (.ok v, e)
    | .error cause => (.error (.engine cause), e)

end Engine

end QueryDesk
