import QueryDesk.Json.Reader
import QueryDesk.Text.Blank

/-!
# The model's output

The output must be a JSON object with the one string `sql_query`, which holds more than white
space.  It is kept as it is, without trimming.
-/

namespace QueryDesk.Generation

open QueryDesk.Json QueryDesk.Text

/-- Why an output is rejected. -/
inductive OutputFault where
  | unreadable (fault : Fault)
  | emptyQuery
deriving DecidableEq, Repr

/-- The wording of a rejected output. -/
def OutputFault.message : OutputFault → String
  | .unreadable fault => fault.message
  | .emptyQuery => "sql_query is empty"

/-- The shape of the output: one string, and no other member. -/
def outputShape : Reader.Shape String where
  name := "GeneratedQuery"
  fields := [.needed "sql_query" .text fun v _ => v]
  initial := ""
  strict := true

/-- The SQL in an output text. -/
def parseOutput (output : String) : Except OutputFault String :=
  match (Reader.record outputShape).parse output with
  | .error fault => .error (.unreadable fault)
  | .ok sql => if isBlankText sql then .error .emptyQuery else .ok sql

end QueryDesk.Generation
