import ItemStore.Expression.Placeholders
import ItemStore.Expression.Reserved
import ItemStore.Text.Blank

/-!
# ItemStore.Expression.Projection

Which attributes a read returns. Each attribute is asked for once, by the token of its first
request: its name as it is, or a placeholder for it. Blank names are skipped.
-/

namespace ItemStore.Expression

/-- How an attribute is written in a projection. -/
inductive Token
  /-- By its name. -/
  | literal (attr : String)
  /-- By a placeholder with a body. -/
  | placeholder (attr body : String)
deriving DecidableEq, Repr

namespace Token

/-- The attribute that a token stands for. -/
def attr : Token → String
  | .literal attr => attr
  | .placeholder attr _ => attr

/-- The token as the expression has it. -/
def text : Token → String
  | .literal attr => attr
  | .placeholder _ body => namePlaceholder body

/-- The entry that says what a placeholder stands for. -/
def nameEntry? : Token → Option (String × String)
  | .literal _ => none
  | .placeholder attr body => some (namePlaceholder body, attr)

end Token

/-- The attributes asked for so far. -/
structure Projection where
  /-- The bodies of the placeholders. -/
  placeholders : Placeholders := ∅
  /-- The tokens, in the order of their first requests. -/
  tokens : List Token := []
deriving DecidableEq

namespace Projection

instance : EmptyCollection Projection := ⟨⟨∅, []⟩⟩
instance : Inhabited Projection := ⟨∅⟩

/-- The attributes asked for, in the order of their first requests. -/
def attrs (projection : Projection) : List String := projection.tokens.map Token.attr

/-- Whether a request for an attribute adds a token: its name is not blank, and it is the first. -/
def admits (projection : Projection) (attr : String) : Bool :=
  !Text.isBlank attr && !projection.attrs.contains attr

/-- Adds a token with the placeholder of an attribute. -/
def addPlaceholder (projection : Projection) (attr : String) : Projection :=
  let (body, placeholders) := projection.placeholders.body attr
  ⟨placeholders, projection.tokens ++ [.placeholder attr body]⟩

/--
Asks for an attribute by its name, or by a placeholder if its name cannot be written as it is.
-/
def pushLiteral (projection : Projection) (attr : String) : Projection :=
  if projection.admits attr then
    if needsPlaceholder attr then projection.addPlaceholder attr
    else { projection with tokens := projection.tokens ++ [.literal attr] }
  else projection

/-- Asks for an attribute by a placeholder. -/
def pushPlaceholder (projection : Projection) (attr : String) : Projection :=
  if projection.admits attr then projection.addPlaceholder attr else projection

/-- The tokens as a projection expression; there is none if nothing was asked for. -/
def expression? (projection : Projection) : Option String :=
  match projection.tokens with
  | [] => none
  | tokens => some (", ".intercalate (tokens.map Token.text))

/-- What the placeholders in the expression stand for. -/
def names (projection : Projection) : NameMap String :=
  .ofList (projection.tokens.filterMap Token.nameEntry?)

end Projection

end ItemStore.Expression
