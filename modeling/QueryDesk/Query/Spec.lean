import QueryDesk.Json.Number

/-!
# Query specs

A spec is a tree that describes a query: the primary table, the selected columns, joins against
plain tables or against nested specs (derived tables), filters and orders.  A table is referred to
by name; a reference may be flagged as the primary table of the spec that it stands in.
-/

namespace QueryDesk.Query

open QueryDesk.Json

/-- A reference to a table inside a spec. -/
structure TableRef where
  table : String
  isPrimary : Bool
deriving DecidableEq, Repr

namespace TableRef

/-- A table that is not the primary one. -/
def plain (table : String) : TableRef := ⟨table, false⟩

/-- The primary table of a spec. -/
def primary (table : String) : TableRef := ⟨table, true⟩

end TableRef

/-- An aggregate function over a selected column. -/
inductive Aggregate where
  | count
  | sum
  | avg
  | min
  | max
deriving DecidableEq, Repr

/-- The SQL name of an aggregate. -/
def Aggregate.sql : Aggregate → String
  | count => "COUNT"
  | sum => "SUM"
  | avg => "AVG"
  | min => "MIN"
  | max => "MAX"

/-- A selected column with its output label; an empty label is none. -/
structure Column where
  table : TableRef
  column : String
  label : String
  aggregate : Option Aggregate
deriving DecidableEq, Repr

/-- The kind of a join. -/
inductive JoinKind where
  | inner
  | left
  | right
  | outer
deriving DecidableEq, Repr

/-- The SQL name of a kind of join. -/
def JoinKind.sql : JoinKind → String
  | inner => "INNER"
  | left => "LEFT"
  | right => "RIGHT"
  | outer => "OUTER"

/-- What a join points at: a plain table, or a spec that becomes a derived table. -/
inductive Target (σ : Type) where
  | table (table : TableRef)
  | derived (spec : σ)

/-- A join of a local column with a column of the target. -/
structure Join (σ : Type) where
  kind : JoinKind
  localTable : TableRef
  localColumn : String
  target : Target σ
  referenceColumn : String

/-- The comparison of a filter. -/
inductive Comparison where
  | eq
  | ne
  | lt
  | le
  | gt
  | ge
  | like
  | notLike
deriving DecidableEq, Repr

/-- The SQL operator of a comparison. -/
def Comparison.sql : Comparison → String
  | eq => "="
  | ne => "<>"
  | lt => "<"
  | le => "<="
  | gt => ">"
  | ge => ">="
  | like => "LIKE"
  | notLike => "NOT LIKE"

/-- The kind of a filter's literal. -/
inductive LiteralKind where
  | string
  | date
  | number
  | boolean
deriving DecidableEq, Repr

/-- The literal that a filter compares with. -/
inductive Literal where
  | string (text : String)
  | date (text : String)
  | number (value : Number)
  | boolean (value : Bool)
deriving DecidableEq, Repr

namespace Literal

/-- The kind of a literal. -/
def kind : Literal → LiteralKind
  | string _ => .string
  | date _ => .date
  | number _ => .number
  | boolean _ => .boolean

/-- The text of a literal, without quotes. -/
def raw : Literal → String
  | string s => s
  | date s => s
  | number n => n.text
  | boolean true => "true"
  | boolean false => "false"

end Literal

/-- A condition on a column. -/
structure Filter where
  table : TableRef
  column : String
  comparison : Comparison
  value : Literal
deriving DecidableEq, Repr

/-- An entry of the sort order. -/
structure Order where
  table : TableRef
  column : String
  descending : Bool
deriving DecidableEq, Repr

/-- A query spec.  A database qualifies every table of the spec; the labels of a spec that is
    flagged as a subquery are dropped. -/
structure Spec where
  database : Option String
  isSubquery : Bool
  table : TableRef
  columns : List Column
  joins : List (Join Spec)
  filters : List Filter
  orders : List Order

/-- The name by which other clauses refer to a join's target: for a derived table that of the nested
    spec's primary table. -/
def Target.name : Target Spec → String
  | .table t => t.table
  | .derived s => s.table.table

namespace Spec

/-- A spec over a primary table, with nothing else. -/
def ofTable (table : String) : Spec :=
  ⟨none, false, .primary table, [], [], [], []⟩

/-- Qualifies the tables of a spec with a database. -/
def inDatabase (s : Spec) (database : String) : Spec :=
  { s with database := some database }

/-- Flags a spec as a subquery. -/
def asSubquery (s : Spec) : Spec :=
  { s with isSubquery := true }

/-- Adds a column. -/
def addColumn (s : Spec) (column : Column) : Spec :=
  { s with columns := s.columns ++ [column] }

/-- Adds a join. -/
def addJoin (s : Spec) (join : Join Spec) : Spec :=
  { s with joins := s.joins ++ [join] }

/-- Adds a filter. -/
def addFilter (s : Spec) (filter : Filter) : Spec :=
  { s with filters := s.filters ++ [filter] }

/-- Adds an entry of the sort order. -/
def addOrder (s : Spec) (order : Order) : Spec :=
  { s with orders := s.orders ++ [order] }

/-- Puts a spec into a new one as its only join, a number of times. -/
def nest (name : String) (kind : JoinKind) (localColumn referenceColumn : String) :
    Nat → Spec → Spec
  | 0, s => s
  | n + 1, s => nest name kind localColumn referenceColumn n <|
    (ofTable name).addJoin ⟨kind, .primary name, localColumn, .derived s, referenceColumn⟩

mutual

/-- How deep derived tables nest below a spec; a spec without any has depth zero. -/
def depth : Spec → Nat
  | ⟨_, _, _, _, joins, _, _⟩ => joinsDepth joins

/-- How deep derived tables nest below a list of joins. -/
def joinsDepth : List (Join Spec) → Nat
  | [] => 0
  | ⟨_, _, _, target, _⟩ :: rest => max (targetDepth target) (joinsDepth rest)

/-- How deep derived tables nest at and below a join's target. -/
def targetDepth : Target Spec → Nat
  | .table _ => 0
  | .derived s => 1 + s.depth

end

end Spec

end QueryDesk.Query
