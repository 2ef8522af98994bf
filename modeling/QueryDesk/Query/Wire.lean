import QueryDesk.Query.Spec
import QueryDesk.Json.Reader
import QueryDesk.Text.Blank

/-!
# The JSON form of query specs

Keys are in camel case, names of kinds as in SQL.  What is absent and has a default is left out of
nothing but `database` and `aggregate`; a join writes whichever of `referenceTable` and `subQuery`
it has.  The literal of a filter travels as text beside its kind, and is checked when it is read.
-/

namespace QueryDesk.Query

open QueryDesk.Json QueryDesk.Text

/-! ## Names -/

/-- The names of the aggregates. -/
def Aggregate.names : List (String × Aggregate) :=
  [("COUNT", .count), ("SUM", .sum), ("AVG", .avg), ("MIN", .min), ("MAX", .max)]

/-- The names of the kinds of join. -/
def JoinKind.names : List (String × JoinKind) :=
  [("INNER", .inner), ("LEFT", .left), ("RIGHT", .right), ("OUTER", .outer)]

/-- The names of the comparisons, other spellings included. -/
def Comparison.names : List (String × Comparison) :=
  [("=", .eq), ("!=", .ne), ("<>", .ne), ("<", .lt), ("<=", .le), (">", .gt), (">=", .ge),
    ("LIKE", .like), ("like", .like), ("NOT LIKE", .notLike), ("not like", .notLike)]

/-- The names of the kinds of literal. -/
def LiteralKind.names : List (String × LiteralKind) :=
  [("string", .string), ("date", .date), ("number", .number), ("boolean", .boolean)]

/-- The name of a kind of literal. -/
def LiteralKind.name : LiteralKind → String
  | .string => "string"
  | .date => "date"
  | .number => "number"
  | .boolean => "boolean"

/-- The truth value of a text, in any letter case and with white space around it. -/
def boolean? (raw : String) : Option Bool :=
  match String.ofList ((trim raw).toList.map Char.toLower) with
  | "true" => some true
  | "false" => some false
  | _ => none

/-- The literal of a kind that a text stands for. -/
def Literal.parse (kind : LiteralKind) (raw : String) : Except String Literal :=
  match kind with
  | .string => .ok (.string raw)
  | .date => .ok (.date raw)
  | .number => match Number.parse? (trim raw) with
    | some n => .ok (.number n)
    | none => .error s!"'{raw}' is not a number"
  | .boolean => match boolean? raw with
    | some b => .ok (.boolean b)
    | none => .error s!"'{raw}' is not a boolean"

/-! ## Writing -/

/-- The JSON form of a table reference. -/
def TableRef.toJson (t : TableRef) : Value :=
  .object [("table", .string t.table), ("isPrimary", .bool t.isPrimary)]

/-- A member that is left out when there is no value. -/
def optionalMember (name : String) (value : Option Value) : List (String × Value) :=
  value.toList.map fun v => (name, v)

/-- The JSON form of a column. -/
def Column.toJson (c : Column) : Value :=
  .object ([("table", c.table.toJson), ("column", .string c.column), ("label", .string c.label)] ++
    optionalMember "aggregate" (c.aggregate.map fun a => .string a.sql))

/-- The JSON form of a filter. -/
def Filter.toJson (f : Filter) : Value :=
  .object [("table", f.table.toJson), ("field", .string f.column),
    ("operator", .string f.comparison.sql), ("type", .string f.value.kind.name),
    ("value", .string f.value.raw)]

/-- The JSON form of an entry of the sort order. -/
def Order.toJson (o : Order) : Value :=
  .object [("table", o.table.toJson), ("column", .string o.column),
    ("descending", .bool o.descending)]

/-- The members of a join around those of its target. -/
def joinMembers (kind : JoinKind) (localTable : TableRef) (localColumn referenceColumn : String)
    (reference subquery : Option Value) : List (String × Value) :=
  [("type", .string kind.sql), ("localTable", localTable.toJson),
      ("localColumn", .string localColumn)] ++
    optionalMember "referenceTable" reference ++
    [("referenceColumn", .string referenceColumn)] ++
    optionalMember "subQuery" subquery

mutual

/-- The JSON form of a spec. -/
def Spec.toJson : Spec → Value
  | ⟨database, isSubquery, table, columns, joins, filters, orders⟩ =>
    .object (optionalMember "database" (database.map .string) ++
      [("isSubQuery", .bool isSubquery), ("table", table.toJson),
        ("columns", .array (columns.map Column.toJson)), ("joins", .array (joinsToJson joins)),
        ("filters", .array (filters.map Filter.toJson)),
        ("orders", .array (orders.map Order.toJson))])

/-- The JSON forms of a list of joins. -/
def joinsToJson : List (Join Spec) → List Value
  | [] => []
  | ⟨kind, localTable, localColumn, target, referenceColumn⟩ :: rest =>
    let (reference, subquery) := targetToJson target
    .object (joinMembers kind localTable localColumn referenceColumn reference subquery) ::
      joinsToJson rest

/-- The values of `referenceTable` and `subQuery`, of which a join has one. -/
def targetToJson : Target Spec → Option Value × Option Value
  | .table t => (some t.toJson, none)
  | .derived s => (none, some s.toJson)

end

/-- The JSON form of a join. -/
def Join.toJson (j : Join Spec) : Value :=
  let (reference, subquery) := targetToJson j.target
  .object (joinMembers j.kind j.localTable j.localColumn j.referenceColumn reference subquery)

/-! ## Reading -/

/-- The record of a table reference. -/
def TableRef.shape : Reader.Shape TableRef where
  name := "TableRef"
  fields := [
    .needed "table" .text fun v r => { r with table := v },
    .defaulted "isPrimary" .bool fun v r => { r with isPrimary := v }]
  initial := ⟨"", false⟩

/-- Reads a table reference. -/
def TableRef.reader : Reader TableRef := .record TableRef.shape

/-- The record of a column. -/
def Column.shape : Reader.Shape Column where
  name := "Column"
  fields := [
    .needed "table" TableRef.reader fun v r => { r with table := v },
    .needed "column" .text fun v r => { r with column := v },
    .defaulted "label" .text fun v r => { r with label := v },
    .defaulted "aggregate" (.option (.oneOf Aggregate.names)) fun v r => { r with aggregate := v }]
  initial := ⟨⟨"", false⟩, "", "", none⟩

/-- Reads a column. -/
def Column.reader : Reader Column := .record Column.shape

/-- A filter as it stands in JSON, its literal not yet checked. -/
structure FilterForm where
  table : TableRef
  field : String
  comparison : Comparison
  kind : LiteralKind
  value : String

/-- The record of a filter. -/
def FilterForm.shape : Reader.Shape FilterForm where
  name := "FilterWire"
  fields := [
    .needed "table" TableRef.reader fun v r => { r with table := v },
    .needed "field" .text fun v r => { r with field := v },
    .needed "operator" (.oneOf Comparison.names) fun v r => { r with comparison := v },
    .needed "type" (.oneOf LiteralKind.names) fun v r => { r with kind := v },
    .needed "value" .text fun v r => { r with value := v }]
  initial := ⟨⟨"", false⟩, "", .eq, .string, ""⟩

/-- The filter that a form stands for. -/
def FilterForm.check (f : FilterForm) : Except String Filter :=
  (Literal.parse f.kind f.value).map fun literal => ⟨f.table, f.field, f.comparison, literal⟩

/-- Reads a filter. -/
def Filter.reader : Reader Filter := .convert (.record FilterForm.shape) FilterForm.check

/-- The record of an entry of the sort order. -/
def Order.shape : Reader.Shape Order where
  name := "Order"
  fields := [
    .needed "table" TableRef.reader fun v r => { r with table := v },
    .needed "column" .text fun v r => { r with column := v },
    .defaulted "descending" .bool fun v r => { r with descending := v }]
  initial := ⟨⟨"", false⟩, "", false⟩

/-- Reads an entry of the sort order. -/
def Order.reader : Reader Order := .record Order.shape

/-- A join as it stands in JSON, its target not yet checked. -/
structure JoinForm where
  kind : JoinKind
  localTable : TableRef
  localColumn : String
  reference : Option TableRef
  referenceColumn : String
  subquery : Option Spec

/-- The record of a join. -/
def JoinForm.shape (spec : Reader Spec) : Reader.Shape JoinForm where
  name := "JoinWire"
  fields := [
    .needed "type" (.oneOf JoinKind.names) fun v r => { r with kind := v },
    .needed "localTable" TableRef.reader fun v r => { r with localTable := v },
    .needed "localColumn" .text fun v r => { r with localColumn := v },
    .defaulted "referenceTable" (.option TableRef.reader) fun v r => { r with reference := v },
    .needed "referenceColumn" .text fun v r => { r with referenceColumn := v },
    .defaulted "subQuery" (.option spec) fun v r => { r with subquery := v }]
  initial := ⟨.inner, ⟨"", false⟩, "", none, "", none⟩

/-- The join that a form stands for: it has exactly one target. -/
def JoinForm.check (f : JoinForm) : Except String (Join Spec) :=
  match f.reference, f.subquery with
  | some t, none => .ok ⟨f.kind, f.localTable, f.localColumn, .table t, f.referenceColumn⟩
  | none, some s => .ok ⟨f.kind, f.localTable, f.localColumn, .derived s, f.referenceColumn⟩
  | some _, some _ => .error "join must set either referenceTable or subQuery, not both"
  | none, none => .error "join must set referenceTable or subQuery"

/-- Reads a join, given a reader for the spec inside it. -/
def Join.readerWith (spec : Reader Spec) : Reader (Join Spec) :=
  .convert (.record (JoinForm.shape spec)) JoinForm.check

/-- The record of a spec, given a reader for the specs inside its joins. -/
def Spec.shape (spec : Reader Spec) : Reader.Shape Spec where
  name := "QuerySpec"
  fields := [
    .defaulted "database" (.option .text) fun v r => { r with database := v },
    .defaulted "isSubQuery" .bool fun v r => { r with isSubquery := v },
    .needed "table" TableRef.reader fun v r => { r with table := v },
    .defaulted "columns" (.list Column.reader) fun v r => { r with columns := v },
    .defaulted "joins" (.list (Join.readerWith spec)) fun v r => { r with joins := v },
    .defaulted "filters" (.list Filter.reader) fun v r => { r with filters := v },
    .defaulted "orders" (.list Order.reader) fun v r => { r with orders := v }]
  initial := ⟨none, false, ⟨"", false⟩, [], [], [], []⟩

/-- Reads a spec that nests at most the given number of levels. -/
def Spec.readerUpTo : Nat → Reader Spec
  | 0 => fun _ _ => .error .malformed
  | levels + 1 => .record (Spec.shape (Spec.readerUpTo levels))

/-- Reads a spec.  Every level takes an opening, so the openings left bound the levels. -/
def Spec.reader : Reader Spec := fun budget =>
  Spec.readerUpTo (budget + 1) budget

/-- Reads a join. -/
def Join.reader : Reader (Join Spec) := Join.readerWith Spec.reader

/-- Reads the text of a spec. -/
def Spec.parse (s : String) : Except Fault Spec := Spec.reader.parse s

end QueryDesk.Query
