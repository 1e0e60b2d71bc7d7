/-!
# ItemStore.Expression.Condition

Conditions as texts that grow to the right: a further expression is joined with `AND` or `OR`, and
nothing is put in parentheses.
-/

namespace ItemStore.Expression

/-- How a further expression is joined to a condition. -/
inductive Connective
  /-- Both must hold. -/
  | and
  /-- One of them must hold. -/
  | or
deriving DecidableEq, Repr

namespace Connective

/-- The keyword. -/
def keyword : Connective → String
  | .and => "AND"
  | .or => "OR"

/-- Expressions are joined with `AND` where nothing else is asked for. -/
instance : Inhabited Connective := ⟨.and⟩

end Connective

/--
Joins an expression to a condition; without a condition, or with an empty one, it stands alone.
-/
def joinCondition (condition : Option String) (expression : String) (connective : Connective) :
    String :=
  match condition with
  | none => expression
  | some condition =>
      if condition.isEmpty then expression
      else condition ++ " " ++ connective.keyword ++ " " ++ expression

end ItemStore.Expression
