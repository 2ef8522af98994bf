import QueryDesk.Completion.Basic

/-!
# Instructions for the model

The model gets a bundle of instructions as text, and must answer with a JSON object that has one
string, `sql_query`.  In the text every field of the bundle stands on a line: a name, a colon and a
text, or a name, the number of texts in brackets, and the texts with commas between them.  A text
is quoted when it holds a character that has a meaning of its own there.
-/

namespace QueryDesk.Generation

open QueryDesk.Json QueryDesk.Completion

/-! ## The bundle -/

/-- A field of the bundle: one text, or several. -/
inductive Field where
  | text (value : String)
  | texts (values : List String)
deriving DecidableEq, Repr

/-- The tools that the model may call without approval. -/
def catalogTools : List String :=
  ["list-catalogs", "list-schemas", "list-tables"]

/-- What is expected of the model. -/
def expectations : List String := [
  "Call `list-catalogs` first to see the connected databases.",
  "Call `list-schemas` second to see the schemas of those databases.",
  "Call `list-tables` third to see the tables of those schemas.",
  "Refer to tables as \x7bcatalog\x7d.\x7bschema\x7d.\x7btable\x7d in your queries.",
  "Fulfil the user's request without error.",
  "Use double quotes to quote column identifiers.",
  "Do not quote catalogs, schemas or tables.",
  "Only use tables and columns you have discovered through the tools. Never invent columns or tables.",
  "Put only the SQL query in the `sql_query` field of the output JSON."]

/-- The lines of the query that every generated one follows: a single JSON value with `columns` and
    `data`. -/
def templateLines : List String := [
  "WITH data_cte AS (",
  "  SELECT",
  "    -- columns requested by the prompt",
  "  FROM catalog.schema.table AS cst",
  "  -- joins, also written as catalog.schema.table",
  "  -- filters, ordering and limits requested by the prompt",
  "),",
  "columns_array AS (",
  "  SELECT ARRAY_AGG(col) AS cols FROM (",
  "    SELECT MAP(",
  "      ARRAY['name', 'type', 'label'],",
  "      ARRAY['Full Name', 'varchar', 'Full Name']",
  "    ) AS col",
  "    UNION ALL",
  "    SELECT MAP(",
  "      ARRAY['name', 'type', 'label'],",
  "      ARRAY['Street Address', 'varchar', 'Street Address']",
  "    )",
  "  )",
  "),",
  "data_array AS (",
  "  SELECT ARRAY_AGG(",
  "    MAP(",
  "      ARRAY['Full Name', 'Street Address'],",
  "      ARRAY[",
  "        CAST(\"Full Name\" AS VARCHAR),",
  "        CAST(\"Street Address\" AS VARCHAR)",
  "      ]",
  "    )",
  "  ) AS data",
  "  FROM data_cte",
  ")",
  "SELECT CAST(",
  "  MAP(",
  "    ARRAY['columns', 'data'],",
  "    ARRAY[",
  "      CAST(cols AS JSON),",
  "      CAST(data AS JSON)",
  "    ]",
  "  ) AS JSON",
  ") AS result",
  "FROM columns_array, data_array;"]

/-- The rules for the generated SQL. -/
def sqlRules : List String := [
  "Only generate SQL that TrinoDB accepts.",
  "Generate efficient queries.",
  "Only use tables and columns that exist in the database schema.",
  "Keep the shape of `sql_template`; change the selected columns, joins, filters, ordering and limits to match the user's prompt."]

/-- The instructions, field by field. -/
def bundle : List (String × Field) := [
  ("role", .text "You are a professional TrinoDB SQL query developer."),
  ("expectations", .texts expectations),
  ("sql_template", .text ("\n".intercalate templateLines)),
  ("sql_rules", .texts sqlRules)]

/-- The JSON form of a field. -/
def Field.toJson : Field → Value
  | .text s => .string s
  | .texts ss => .strings ss

/-- The JSON form of the bundle. -/
def bundleJson : Value :=
  .object (bundle.map fun (name, field) => (name, field.toJson))

/-! ## The text of the bundle -/

/-- A character that makes a text be quoted. -/
def needsQuotes (c : Char) : Bool :=
  ",:[]-\x7b\x7d\"\\\n\r\t".toList.contains c

/-- A character between the quotes of a text. -/
def escapeInText (c : Char) : List Char :=
  match c with
  | '\\' => ['\\', '\\']
  | '"' => ['\\', '"']
  | '\n' => ['\\', 'n']
  | '\r' => ['\\', 'r']
  | '\t' => ['\\', 't']
  | c => [c]

/-- A text as it stands in the bundle's text. -/
def bundleText (s : String) : String :=
  if s.toList.any needsQuotes then
    String.ofList ('"' :: (s.toList.flatMap escapeInText ++ ['"']))
  else s

/-- The line of a field. -/
def fieldLine : String × Field → String
  | (name, .text s) => s!"{name}: {bundleText s}"
  | (name, .texts ss) =>
    s!"{name}[{ss.length}]: " ++ ",".intercalate (ss.map bundleText)

/-- The instructions as text. -/
def instructions : String :=
  "\n".intercalate (bundle.map fieldLine)

/-! ## The output schema -/

/-- What `sql_query` is for. -/
def sqlQueryDescription : String :=
  "The SQL query to be executed for the dynamic query."

/-- The schema of the output: an object with exactly one string. -/
def outputSchema : OutputSchema where
  name := "create_dynamic_query_output"
  description := "The output for create dynamic query"
  schema := .object [
    ("type", .string "object"),
    ("properties", .object [
      ("sql_query", .object [
        ("type", .string "string"),
        ("description", .string sqlQueryDescription)])]),
    ("required", .strings ["sql_query"]),
    ("additionalProperties", .bool false)]
  strict := true

end QueryDesk.Generation
