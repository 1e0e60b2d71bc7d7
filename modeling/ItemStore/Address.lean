import ItemStore.Refusal
import ItemStore.Text.Blank
import ItemStore.Value.Basic

/-!
# ItemStore.Address

What requests are addressed to: a table, and keys in it. Every builder checks both in the same way,
so no request goes to a table without a name or asks for an item without a key.
-/

namespace ItemStore.Address

/-- A table name, which must not be blank. -/
def table (name : String) : Except Refusal String :=
  if Text.isBlank name then .error .blankTable else .ok name

/-- A key of at least one attribute; of pairs with one name the last counts. -/
def key (pairs : List (String × Value)) : Except Refusal Item :=
  let key := NameMap.ofList pairs
  if key.isEmpty then .error .emptyKey else .ok key

/-- A key for each list of pairs. -/
def each : List (List (String × Value)) → Except Refusal (List Item)
  | [] => .ok []
  | pairs :: rest => do
      let item ← key pairs
      let items ← each rest
      return item :: items

/-- At least one key. -/
def keys (lists : List (List (String × Value))) : Except Refusal (List Item) :=
  if lists.isEmpty then .error .noKeys else each lists

end ItemStore.Address
