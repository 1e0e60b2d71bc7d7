import ItemStore.Address
import ItemStore.Attempt
import ItemStore.Expression.Clauses
import ItemStore.Expression.Condition
import ItemStore.Expression.Placeholders
import ItemStore.Message.Request
import ItemStore.Payload
import ItemStore.Settings
import ItemStore.Stamp

/-!
# ItemStore.Update.Basic

Updates of an item under construction, and what the calls do to them.

Attributes are assigned by fragments `#b = :b` of the update expression, whose placeholders stand
for the attribute's name and its value. Besides payloads an update takes fragments, names, values
and conditions as the caller writes them.

Design points:

* An attribute keeps its placeholders for as long as the update is under construction, so a further
  value for it replaces the earlier one and adds no fragment.
* The lock on the revision is a condition and an increment. The placeholder of the increment is
  reserved from the start, so no attribute gets it.
* The timestamps belong to the first payload. A payload that has one of them itself keeps it.
* Once the request has been built, what decides how payloads are taken is fixed: the table, the key,
  the marks and the timestamps.
-/

namespace ItemStore

open Expression (ClauseKind Clauses Connective Placeholders joinCondition namePlaceholder
  valuePlaceholder)

/-! ### The update -/

/-- Whether the request has been built. -/
inductive Phase
  /-- Not yet. -/
  | building
  /-- At least once. -/
  | finalized
deriving DecidableEq, Repr

/-- The name of a phase. -/
def Phase.name : Phase → String
  | .building => "Building"
  | .finalized => "Finalized"

/-- The attribute that counts the revisions of an item. -/
def revisionAttr : String := "rev"

/-- The body of the placeholder for one, by which the revision grows. -/
def incrementBody : String := "_addOne"

/-- An update under construction. -/
structure Update where
  table : String
  /-- The key of the item. -/
  key : Item
  /-- The fragments of the update expression. -/
  clauses : Clauses := ∅
  /-- The bodies of the placeholders. -/
  placeholders : Placeholders := Placeholders.reserve ∅ incrementBody
  /-- What name placeholders stand for. -/
  names : NameMap String := ∅
  /-- What value placeholders stand for. -/
  values : NameMap Value := ∅
  condition : Option String := none
  /-- The attributes whose empty values become null. -/
  marked : NameSet := ∅
  /-- What is done about the time of creation. -/
  created : AuditPlan
  /-- What is done about the time of the update. -/
  updated : AuditPlan
  /--
  Whether a payload has been taken. The first one settles both timestamps, whether it writes them or
  not, and nothing settles only one of them; so a single flag does for both.
  -/
  merged : Bool := false
  /-- Whether the update is locked on a revision. -/
  locked : Bool := false
  /-- Which attributes to return. -/
  returnValues : ReturnValues
  /-- Whether to tell the size of the item's collection. -/
  metrics : Option MetricsDetail := none
  /-- In which detail to tell the consumed capacity. -/
  capacity : Option CapacityDetail := none
  /-- Whether the request has been built. -/
  phase : Phase := .building
deriving DecidableEq

namespace Update

/-- An update of the item with a key. A blank table name is found before a missing key. -/
def start (settings : Settings) (table : String) (key : List (String × Value)) :
    Except Refusal Update := do
  let table ← Address.table table
  let key ← Address.key key
  let plan : AuditPlan := { enabled := settings.auditTimestamps }
  return { table, key, created := plan, updated := plan, returnValues := settings.returnValues }

/-! ### Settings that become fixed -/

/-- Refuses to go on once the request has been built. -/
def ensureBuilding (setting : Setting) : Attempt Update Unit := do
  match (← get).phase with
  | .building => return
  | .finalized => throw (.finalized setting)

/-- Updates an item in another table. -/
def setTable (name : String) : Attempt Update Unit := do
  ensureBuilding .table
  let table ← Address.table name
  modify fun update => { update with table }

/-- Updates another item. -/
def setKey (pairs : List (String × Value)) : Attempt Update Unit := do
  ensureBuilding .key
  let key ← Address.key pairs
  modify fun update => { update with key }

/-- Marks attributes whose empty values become null. -/
def mark (attrs : List String) : Attempt Update Unit := do
  ensureBuilding .mark
  modify fun update => { update with marked := update.marked.addAll attrs }

/-- What is done about a timestamp. -/
def plan (update : Update) : Audit → AuditPlan
  | .created => update.created
  | .updated => update.updated

/-- The update with another plan for a timestamp. -/
def withPlan (update : Update) (audit : Audit) (plan : AuditPlan) : Update :=
  match audit with
  | .created => { update with created := plan }
  | .updated => { update with updated := plan }

/-- Leaves a timestamp out. A text given for it is kept. -/
def disableStamp (audit : Audit) : Attempt Update Unit := do
  ensureBuilding (.disableStamp audit)
  modify fun update => update.withPlan audit { update.plan audit with enabled := false }

/-- Writes a timestamp, as it is given. -/
def setStamp (audit : Audit) (stamp : Stamp) : Attempt Update Unit := do
  ensureBuilding (.stamp audit)
  let text ← stamp.checked audit
  modify fun update => update.withPlan audit ⟨true, some text⟩

/-! ### Assignments -/

/--
Adds an assignment of an attribute, unless it is there already, and says what its placeholders stand
for. The fragment is made from the placeholders of the name and the value.
-/
def assignBy (update : Update) (fragment : (name value : String) → String) (attr : String)
    (value : Value) : Update :=
  let (body, placeholders) := update.placeholders.body attr
  let namePh := namePlaceholder body
  let valuePh := valuePlaceholder body
  { update with
    placeholders
    clauses := update.clauses.pushUnique .set (fragment namePh valuePh)
    names := update.names.insert namePh attr
    values := update.values.insert valuePh value }

/-- Assigns a value to an attribute. -/
def assign (update : Update) (attr : String) (value : Value) : Update :=
  update.assignBy (fun name value => name ++ " = " ++ value) attr value

/-- Assigns a value to an attribute that the item does not have yet. -/
def assignIfAbsent (update : Update) (attr : String) (value : Value) : Update :=
  update.assignBy (fun name value => name ++ " = if_not_exists(" ++ name ++ ", " ++ value ++ ")")
    attr value

/--
Whether payloads may assign an attribute: keys stay as they are, and a lock owns the revision.
-/
def admits (update : Update) (attr : String) : Bool :=
  !attr.isEmpty && !update.key.contains attr && !(update.locked && attr == revisionAttr)

/--
The value that is stored for an attribute: null for an empty value if the attribute is marked.
-/
def storedValue (update : Update) (attr : String) (value : Value) : Value :=
  if update.marked.contains attr && value.isEmpty then .null else value

/-- Takes one entry of a payload. -/
def contribute (update : Update) (entry : String × Value) : Update :=
  if update.admits entry.1 then update.assign entry.1 (update.storedValue entry.1 entry.2)
  else update

/-- Whether a timestamp is to be written along with a payload. -/
def isPending (update : Update) (audit : Audit) (payload : Payload) : Bool :=
  (update.plan audit).enabled && !update.merged && !payload.attrs.contains audit.attr

/-- The value of a timestamp. -/
def stampValue (update : Update) (clock : Clock) (audit : Audit) : Value :=
  .text ((update.plan audit).resolve (clock audit))

/-- Writes the timestamps that are due along with a payload. -/
def stampFor (update : Update) (clock : Clock) (payload : Payload) : Update :=
  let update :=
    if update.isPending .created payload then
      update.assignIfAbsent Audit.created.attr (update.stampValue clock .created)
    else update
  let update :=
    if update.isPending .updated payload then
      update.assign Audit.updated.attr (update.stampValue clock .updated)
    else update
  { update with merged := true }

/-- Takes a payload: its entries in order, and the timestamps behind them. -/
def merge (update : Update) (clock : Clock) (payload : Payload) : Update :=
  (payload.foldl contribute update).stampFor clock payload

/-- Takes a payload that comes as a document. -/
def mergeDocument (clock : Clock) (document : Except Json.WriteError Json) :
    Attempt Update Unit := do
  let payload ← Payload.ofDocument document
  modify fun update => update.merge clock payload

/-! ### The lock -/

/--
Locks the update on a revision of the item and lets the revision grow by one. A further lock only
replaces the revision.
-/
def lock (update : Update) (revision : Nat) : Update :=
  let (body, placeholders) := update.placeholders.body revisionAttr
  let namePh := namePlaceholder body
  let valuePh := valuePlaceholder body
  let incrementPh := valuePlaceholder incrementBody
  let update :=
    if update.locked then update
    else
      { update with
        condition := some (joinCondition update.condition (namePh ++ " = " ++ valuePh) .and)
        clauses :=
          update.clauses.pushUnique .set (namePh ++ " = " ++ namePh ++ " + " ++ incrementPh)
        locked := true }
  { update with
    placeholders
    names := update.names.insert namePh revisionAttr
    values := (update.values.insert valuePh (.ofInt revision)).insert incrementPh (.ofInt 1) }

/-! ### What callers write themselves -/

/-- Adds a fragment to a clause, unless it is blank. -/
def addFragment (update : Update) (kind : ClauseKind) (fragment : String) : Update :=
  if Text.isBlank fragment then update
  else { update with clauses := update.clauses.push kind fragment }

/-- Says what name placeholders stand for. -/
def addNames (update : Update) (pairs : List (String × String)) : Update :=
  { update with names := update.names.insertAll pairs }

/-- Says what value placeholders stand for. -/
def addValues (update : Update) (pairs : List (String × Value)) : Update :=
  { update with values := update.values.insertAll pairs }

/-- Joins an expression to the condition, unless it is blank. -/
def addCondition (expression : String) (connective : Connective) : Attempt Update Unit := do
  if Text.isBlank expression then
    throw .blankCondition
  modify fun update =>
    { update with condition := some (joinCondition update.condition expression connective) }

/-! ### The request -/

/-- The request as it stands. -/
def request (update : Update) : UpdateRequest where
  table := update.table
  key := update.key
  returnValues := update.returnValues
  update := update.clauses.expression?
  condition := update.condition
  names := update.names
  values := update.values
  capacity := update.capacity
  metrics := update.metrics

/-- The update after its request has been built. -/
def finalize (update : Update) : Update := { update with phase := .finalized }

end Update

end ItemStore
