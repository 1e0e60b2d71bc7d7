import ItemStore.Refusal
import ItemStore.Text.Blank

/-!
# ItemStore.Stamp

The times that audit attributes are given: as text, as an instant, or by the clock.
-/

namespace ItemStore

/-- A time as a caller gives it. -/
inductive Stamp
  | text (s : String)
  | instant (time : Instant)
deriving DecidableEq

/-- The text of a time. A time given as text must not be blank. -/
def Stamp.checked (audit : Audit) : Stamp → Except Refusal String
  | .text s => if Text.isBlank s then .error (.blankStamp audit) else .ok s
  | .instant time => .ok time.text

/-- What is done about an audit attribute. -/
structure AuditPlan where
  /-- Whether it is written at all. -/
  enabled : Bool
  /-- The text to write, in place of what the clock says. -/
  text : Option String := none
deriving DecidableEq, Repr

/-- The text to write when the clock says `now`. -/
def AuditPlan.resolve (plan : AuditPlan) (now : Instant) : String := plan.text.getD now.text

end ItemStore
