import QueryDesk.Query.Spec

/-!
# Scopes

Inside a spec the primary table has the alias `t1` and the target of the `k`-th join `t(k+1)`.  A
reference is looked up in the scope of its own spec and then in those of the enclosing specs, the
innermost first.  In one scope a reference that is flagged as primary means the primary table;
another one means the first join target of its name, and the primary table only if no target has
that name, so that a self-join reaches the joined copy.
-/

namespace QueryDesk.Sql

open QueryDesk.Query

/-- The names that the references of one spec can mean. -/
structure Scope where
  primary : String
  targets : List String
deriving DecidableEq, Repr

namespace Scope

/-- The scope of a spec with a primary table and joins. -/
def of (table : TableRef) (joins : List (Join Spec)) : Scope :=
  ⟨table.table, joins.map (·.target.name)⟩

/-- The number of the alias that a reference means in a scope. -/
def resolve (scope : Scope) (ref : TableRef) : Option Nat :=
  if ref.isPrimary then some 1
  else match scope.targets.idxOf? ref.table with
    | some i => some (i + 2)
    | none => if scope.primary = ref.table then some 1 else none

end Scope

/-- Looks a reference up in a chain of scopes, the innermost first: how many specs further out it
    is found, and the number of its alias there. -/
def locate : List Scope → TableRef → Option (Nat × Nat)
  | [], _ => none
  | scope :: outer, ref =>
    match scope.resolve ref with
    | some n => some (0, n)
    | none => (locate outer ref).map fun (level, n) => (level + 1, n)

/-- The alias with a number. -/
def aliasName (n : Nat) : String :=
  "t" ++ String.ofList (Json.decimalDigits n)

end QueryDesk.Sql
