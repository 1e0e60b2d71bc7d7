import ItemStore.Address
import ItemStore.Expression.Projection
import ItemStore.Settings

/-!
# ItemStore.Read.Basic

Reads under construction. A read is aimed at a key or at a list of keys; the rest of it is the same
in both cases: a table, the attributes that are asked for, and whether it is strongly consistent.
-/

namespace ItemStore

open Expression (Projection)

/-- A read under construction, aimed at something of type `κ`. -/
structure Read (κ : Type) where
  table : String
  /-- The key or the keys. -/
  target : κ
  /-- The attributes asked for. -/
  projection : Projection := ∅
  /-- Whether it is strongly consistent. -/
  consistent : Bool
deriving DecidableEq

namespace Read

variable {κ : Type}

/-- A read of a table by the settings. -/
def start (settings : Settings) (table : String) (target : κ) : Except Refusal (Read κ) := do
  let table ← Address.table table
  return { table, target, consistent := settings.consistentRead }

/-- The calls that say what the answer is to be like. Every read takes them. -/
inductive Shaping
  /-- Asks for an attribute by its name, or by a placeholder where that does not do. -/
  | attr (name : String)
  /-- Asks for attributes by placeholders. -/
  | attrs (names : List String)
  /-- Asks for strong consistency. -/
  | strong
deriving DecidableEq, Repr

/-- Takes a call that says what the answer is to be like. -/
def shape (read : Read κ) : Shaping → Read κ
  | .attr name => { read with projection := read.projection.pushLiteral name }
  | .attrs names =>
      { read with projection := names.foldl Projection.pushPlaceholder read.projection }
  | .strong => { read with consistent := true }

/-- The consistency as a request has it: only strong consistency is asked for. -/
def consistentRead (read : Read κ) : Option Bool := if read.consistent then some true else none

end Read

end ItemStore
