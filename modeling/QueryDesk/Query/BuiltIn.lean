import QueryDesk.Query.Spec

/-!
# The built-in query

Customers with their addresses, where the addresses are a derived table.  The service shows its SQL
as a preview.
-/

namespace QueryDesk.Query.BuiltIn

/-- The database of the built-in query. -/
def database : String := "Zing"

/-- The addresses at the point of presence `UML`, oldest first. -/
def addresses : Spec :=
  let table := TableRef.primary "Addresses"
  { database := some database
    isSubquery := true
    table := table
    columns := [⟨table, "Id", "", none⟩, ⟨table, "StreetAddress", "", none⟩,
      ⟨table, "POP", "", none⟩]
    joins := []
    filters := [⟨table, "POP", .eq, .string "UML"⟩]
    orders := [⟨table, "DateCreated", false⟩] }

/-- The customers' email addresses with street address and point of presence. -/
def customersWithAddresses : Spec :=
  let customers := TableRef.primary "Customers"
  let joined := TableRef.plain "Addresses"
  { database := some database
    isSubquery := false
    table := customers
    columns := [⟨customers, "Email", "Email", none⟩,
      ⟨joined, "StreetAddress", "Street Address", none⟩,
      ⟨joined, "POP", "Point Of Presence", none⟩]
    joins := [⟨.inner, customers, "AddressId", .derived addresses, "Id"⟩]
    filters := []
    orders := [⟨customers, "Email", false⟩] }

end QueryDesk.Query.BuiltIn
