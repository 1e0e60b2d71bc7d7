import ItemStore.Calendar

/-!
# ItemStore.Audit

The attributes that record when something happened to an item.
-/

namespace ItemStore

/-- The attributes that record when something happened to an item. -/
inductive Audit
  /-- When it was created. -/
  | created
  /-- When it was last updated. -/
  | updated
deriving DecidableEq, Repr

/-- The name of the attribute. -/
def Audit.attr : Audit → String
  | .created => "createdAt"
  | .updated => "updatedAt"

/-- The instants that are read off a clock, one for each of the attributes. -/
abbrev Clock := Audit → Instant

end ItemStore
