import ItemStore.NameMap
import ItemStore.Text.Ascii

/-!
# ItemStore.Expression.Placeholders

Placeholders for attribute names and for values in an expression: `#body` stands for a name and
`:body` for a value.

Bodies are readable. The body of a name is the name with an underscore in place of each character
that may not occur in a placeholder; where another name has that body already, a number is added.

Design points:

* A registry gives each attribute name one body for as long as it lives, and no body to two names.
* Bodies may also be reserved, for placeholders that belong to no attribute.
* Among the first `n + 1` candidates of a name one is free if `n` bodies are taken, since the
  candidates differ. So the search for a free one looks at no more than that.
-/

namespace ItemStore.Expression

/-- A character that may occur in a placeholder, or the underscore in its place. -/
def placeholderChar (c : Char) : Char := if Text.isWordChar c then c else '_'

/-- The first candidate for the body of a name. -/
def plainBody (name : String) : String := String.ofList (name.toList.map placeholderChar)

/-- The candidates for a body: the plain one, then `_1`, `_2`, … behind it. -/
def candidate (plain : String) : Nat → String
  | 0 => plain
  | n + 1 => plain ++ "_" ++ toString (n + 1)

/--
The first candidate that is not taken, from the `n`-th on; at most `steps` of them are skipped.
-/
def firstFree (taken : NameSet) (plain : String) : (steps n : Nat) → String
  | 0, n => candidate plain n
  | steps + 1, n =>
      if taken.contains (candidate plain n) then firstFree taken plain steps (n + 1)
      else candidate plain n

/-- A registry of the bodies of placeholders. -/
structure Placeholders where
  /-- The body of each attribute name that has one. -/
  bodies : NameMap String := ∅
  /-- The bodies that no further name may get. -/
  taken : NameSet := ∅
deriving DecidableEq

namespace Placeholders

instance : EmptyCollection Placeholders := ⟨⟨∅, ∅⟩⟩
instance : Inhabited Placeholders := ⟨∅⟩

/-- Keeps a body away from names that have none yet. -/
def reserve (registry : Placeholders) (body : String) : Placeholders :=
  { registry with taken := registry.taken.add body }

/-- The body of a name, which gets one if it has none. -/
def body (registry : Placeholders) (name : String) : String × Placeholders :=
  match registry.bodies.find? name with
  | some body => (body, registry)
  | none =>
      let body := firstFree registry.taken (plainBody name) registry.taken.size 0
      (body, ⟨registry.bodies.insert name body, registry.taken.add body⟩)

end Placeholders

/-- The placeholder of a name, by its body. -/
def namePlaceholder (body : String) : String := "#" ++ body

/-- The placeholder of a value, by its body. -/
def valuePlaceholder (body : String) : String := ":" ++ body

namespace Placeholders

/-- The placeholder for an attribute name. -/
def name (registry : Placeholders) (attr : String) : String × Placeholders :=
  let (body, registry) := registry.body attr
  (namePlaceholder body, registry)

/-- The placeholder for the value of an attribute. -/
def value (registry : Placeholders) (attr : String) : String × Placeholders :=
  let (body, registry) := registry.body attr
  (valuePlaceholder body, registry)

end Placeholders

end ItemStore.Expression
