/-!
# ItemStore.Expression.Clauses

The clauses of an update expression, `SET #a = :a, #b = :b ADD #c :c REMOVE #d DELETE #e :e`: four
lists of fragments, each kept in the order in which it was written.
-/

namespace ItemStore.Expression

/-- The kinds of clause. -/
inductive ClauseKind
  /-- Assignments, `path = value`. -/
  | set
  /-- Additions to numbers and sets, `path value`. -/
  | add
  /-- Removed attributes, `path`. -/
  | remove
  /-- Deletions from sets, `path value`. -/
  | delete
deriving DecidableEq, Repr

namespace ClauseKind

/-- The keyword in front of a clause. -/
def keyword : ClauseKind → String
  | .set => "SET"
  | .add => "ADD"
  | .remove => "REMOVE"
  | .delete => "DELETE"

/-- The kinds in the order in which an expression has them. -/
def order : List ClauseKind := [.set, .add, .remove, .delete]

end ClauseKind

/-- The fragments of each clause. -/
structure Clauses where
  /-- Assignments. -/
  set : List String := []
  /-- Additions. -/
  add : List String := []
  /-- Removed attributes. -/
  remove : List String := []
  /-- Deletions from sets. -/
  delete : List String := []
deriving DecidableEq, Repr

namespace Clauses

instance : EmptyCollection Clauses := ⟨⟨[], [], [], []⟩⟩
instance : Inhabited Clauses := ⟨∅⟩

/-- The fragments of a clause. -/
def fragments (clauses : Clauses) : ClauseKind → List String
  | .set => clauses.set
  | .add => clauses.add
  | .remove => clauses.remove
  | .delete => clauses.delete

/-- The clauses with other fragments in one of them. -/
def withFragments (clauses : Clauses) (kind : ClauseKind) (fragments : List String) : Clauses :=
  match kind with
  | .set => { clauses with set := fragments }
  | .add => { clauses with add := fragments }
  | .remove => { clauses with remove := fragments }
  | .delete => { clauses with delete := fragments }

/-- Adds a fragment at the end of a clause. -/
def push (clauses : Clauses) (kind : ClauseKind) (fragment : String) : Clauses :=
  clauses.withFragments kind (clauses.fragments kind ++ [fragment])

/-- Adds a fragment at the end of a clause, unless the clause has it already. -/
def pushUnique (clauses : Clauses) (kind : ClauseKind) (fragment : String) : Clauses :=
  if fragment ∈ clauses.fragments kind then clauses else clauses.push kind fragment

/-- One clause as text, unless it has no fragments. -/
def clauseText? (clauses : Clauses) (kind : ClauseKind) : Option String :=
  match clauses.fragments kind with
  | [] => none
  | fragments => some (kind.keyword ++ " " ++ ", ".intercalate fragments)

/-- The clauses that have fragments, as an update expression; there is none if all are empty. -/
def expression? (clauses : Clauses) : Option String :=
  match ClauseKind.order.filterMap clauses.clauseText? with
  | [] => none
  | texts => some (" ".intercalate texts)

@[simp] theorem fragments_withFragments_self (clauses : Clauses) (kind : ClauseKind)
    (fragments : List String) :
    (clauses.withFragments kind fragments).fragments kind = fragments := by
  cases kind <;> rfl

@[simp] theorem fragments_push_self (clauses : Clauses) (kind : ClauseKind) (fragment : String) :
    (clauses.push kind fragment).fragments kind = clauses.fragments kind ++ [fragment] := by
  simp [push]

/-- A fragment pushed to one clause leaves the others as they are. -/
theorem fragments_push_of_ne {clauses : Clauses} {kind other : ClauseKind} {fragment : String}
    (h : other ≠ kind) :
    (clauses.push kind fragment).fragments other = clauses.fragments other := by
  cases kind <;> cases other <;> simp_all [push, withFragments, fragments]

end Clauses

end ItemStore.Expression
