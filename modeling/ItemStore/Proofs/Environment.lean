import Mathlib
import ItemStore.Http.Endpoint
import ItemStore.Proofs.Http.Classification
import ItemStore.Proofs.Text.LetterCase

/-!
# ItemStore.Proofs.Environment

What environment variables mean for settings, and which settings follow them.

A setting follows its variable if it is what the variable means, and stays at its default if the
variable is not set or means nothing. Where the text of a variable is parsed, and the default stands
in for what does not parse, this is so (`Parses.follows`). Truth values are not read that way: what
does not affirm is taken to deny. That makes no difference to a setting that is false by default,
but timestamps are recorded by default.
-/

namespace ItemStore

/-! ### Variables -/

/-- A setting that has a variable in the environment. -/
structure Variable (α : Type) where
  /-- The name of the variable. -/
  name : String
  /-- What the texts of the variable mean. -/
  Means : String → α → Prop
  /-- The setting unless the variable means something. -/
  default : α
  /-- The setting in an environment. -/
  read : Environment → α

namespace Variable

variable {α : Type} {var : Variable α}

/-- Whether a setting is what its variable means, or the default if that means nothing. -/
structure Follows (var : Variable α) (environment : Environment) : Prop where
  meant : ∀ text value, environment.find? var.name = some text → var.Means text value →
    var.read environment = value
  ignored : (∀ text, environment.find? var.name = some text → ¬∃ value, var.Means text value) →
    var.read environment = var.default

/-- Whether a setting looks at its own variable only. -/
def IsOwn (var : Variable α) : Prop :=
  ∀ environment other : Environment, environment.find? var.name = other.find? var.name →
    var.read environment = var.read other

/-- Whether a setting is what the text of its variable is parsed as, or else the default. -/
structure Parses (var : Variable α) (parse : String → Option α) : Prop where
  parse_eq_some_iff : ∀ {text value}, parse text = some value ↔ var.Means text value
  read_eq : ∀ environment,
    var.read environment = ((environment.find? var.name).bind parse).getD var.default

theorem Parses.follows {parse : String → Option α} (h : var.Parses parse)
    (environment : Environment) : var.Follows environment where
  meant text value set means := by
    rw [h.read_eq, set, Option.bind_some, h.parse_eq_some_iff.2 means, Option.getD_some]
  ignored nothing := by
    have none : (environment.find? var.name).bind parse = none := by
      refine Option.bind_eq_none_iff.2 fun text set => Option.eq_none_iff_forall_ne_some.2 ?_
      exact fun value parsed => nothing text set ⟨value, h.parse_eq_some_iff.1 parsed⟩
    rw [h.read_eq, none, Option.getD_none]

theorem Parses.isOwn {parse : String → Option α} (h : var.Parses parse) : var.IsOwn := by
  intro environment other same
  rw [h.read_eq, h.read_eq, same]

end Variable

/-! ### Truth values -/

namespace Settings

/-- The texts that deny. -/
def negative : List String := ["0", "false", "no", "FALSE", "NO"]

/-- What a text means as a truth value. Only the texts that affirm or deny mean something. -/
def MeansTruth (text : String) (value : Bool) : Prop :=
  text ∈ affirmative ∧ value = true ∨ text ∈ negative ∧ value = false

/-- The truth value that a text means. -/
def truth? (text : String) : Option Bool :=
  if text ∈ affirmative then some true else if text ∈ negative then some false else none

theorem affirms_iff {text : String} : affirms text = true ↔ text ∈ affirmative :=
  List.contains_iff_mem

theorem not_mem_negative {text : String} (affirms : text ∈ affirmative) : text ∉ negative := by
  have disjoint : ∀ text ∈ affirmative, text ∉ negative := by decide
  exact disjoint text affirms

theorem truth?_eq_some_iff {text : String} {value : Bool} :
    truth? text = some value ↔ MeansTruth text value := by
  unfold truth? MeansTruth
  by_cases affirms : text ∈ affirmative
  · simp [affirms, not_mem_negative affirms, eq_comm]
  · by_cases denies : text ∈ negative <;> simp [affirms, denies, eq_comm]

/-- What means no truth value is taken to deny. -/
theorem affirms_eq (text : String) : affirms text = (truth? text).getD false := by
  rw [Bool.eq_iff_iff, affirms_iff, truth?]
  split <;> rename_i affirms
  · simp [affirms]
  · split <;> simp [affirms]

/-! ### The settings of builders -/

def consistentReadVariable : Variable Bool where
  name := "TABLEKIT_CONSISTENT_READ"
  Means := MeansTruth
  default := ({} : Settings).consistentRead
  read environment := (ofEnvironment environment).consistentRead

def returnValuesVariable : Variable ReturnValues where
  name := "TABLEKIT_RETURN_VALUES"
  Means text value := Text.SameUpToCase value.name text
  default := ({} : Settings).returnValues
  read environment := (ofEnvironment environment).returnValues

def auditTimestampsVariable : Variable Bool where
  name := "TABLEKIT_AUDIT_TIMESTAMPS"
  Means := MeansTruth
  default := ({} : Settings).auditTimestamps
  read environment := (ofEnvironment environment).auditTimestamps

theorem consistentReadVariable_parses : consistentReadVariable.Parses truth? where
  parse_eq_some_iff := truth?_eq_some_iff
  read_eq environment := by
    show (ofEnvironment environment).consistentRead =
      ((environment.find? "TABLEKIT_CONSISTENT_READ").bind truth?).getD false
    rw [ofEnvironment]
    cases environment.find? "TABLEKIT_CONSISTENT_READ" with
    | none => rfl
    | some text => exact affirms_eq text

theorem toOption_parse {α : Type} (choices : Choices α) (text : String) :
    (choices.parse text).toOption =
      choices.all.find? fun a => choices.name a == Text.upper text := by
  rw [Choices.parse]
  cases choices.all.find? fun a => choices.name a == Text.upper text <;> rfl

/-- A text names return values if it is their name up to case. -/
theorem parse_returnValues_iff {text : String} {value : ReturnValues} :
    (ReturnValues.choices.parse text).toOption = some value ↔
      Text.SameUpToCase value.name text := by
  have capitals : Text.upper value.name = value.name := by cases value <;> decide
  rw [toOption_parse, ← Text.upper_eq_iff, capitals]
  constructor
  · intro found
    exact eq_of_beq (List.find?_eq_some_iff_append.1 found).1
  · intro named
    rw [← named]
    cases value <;> rfl

theorem returnValuesVariable_parses :
    returnValuesVariable.Parses fun text => (ReturnValues.choices.parse text).toOption where
  parse_eq_some_iff := parse_returnValues_iff
  read_eq environment := by
    show (ofEnvironment environment).returnValues =
      ((environment.find? "TABLEKIT_RETURN_VALUES").bind fun text =>
        (ReturnValues.choices.parse text).toOption).getD ({} : Settings).returnValues
    rw [ofEnvironment]
    cases environment.find? "TABLEKIT_RETURN_VALUES" with
    | none => rfl
    | some text =>
        dsimp only
        rw [Option.bind_some]
        cases ReturnValues.choices.parse text <;> rfl

theorem isOwn_auditTimestamps : auditTimestampsVariable.IsOwn := by
  intro environment other same
  change environment.find? "TABLEKIT_AUDIT_TIMESTAMPS" =
    other.find? "TABLEKIT_AUDIT_TIMESTAMPS" at same
  show (ofEnvironment environment).auditTimestamps = (ofEnvironment other).auditTimestamps
  rw [ofEnvironment, ofEnvironment, same]

theorem read_auditTimestamps {environment : Environment} {text : String}
    (set : environment.find? auditTimestampsVariable.name = some text) :
    auditTimestampsVariable.read environment = affirms text := by
  change environment.find? "TABLEKIT_AUDIT_TIMESTAMPS" = some text at set
  show (ofEnvironment environment).auditTimestamps = _
  rw [ofEnvironment, set]

/-- A text that means nothing turns the timestamps off, so it must not be there. -/
theorem follows_auditTimestamps_iff {environment : Environment} :
    auditTimestampsVariable.Follows environment ↔
      ∀ text, environment.find? auditTimestampsVariable.name = some text →
        text ∈ affirmative ∨ text ∈ negative := by
  constructor
  · intro follows text set
    by_contra nothing
    have ignored : auditTimestampsVariable.read environment = true :=
      follows.ignored fun other setOther ⟨_, means⟩ => by
        obtain rfl := Option.some.inj (set.symm.trans setOther)
        exact nothing (means.imp And.left And.left)
    rw [read_auditTimestamps set, affirms_iff] at ignored
    exact nothing (.inl ignored)
  · intro means
    refine ⟨fun text value set meant => ?_, fun nothing => ?_⟩
    · rw [read_auditTimestamps set, affirms_eq, truth?_eq_some_iff.2 meant, Option.getD_some]
    · cases set : environment.find? "TABLEKIT_AUDIT_TIMESTAMPS" with
      | none =>
          show (ofEnvironment environment).auditTimestamps = _
          rw [ofEnvironment, set]
          rfl
      | some text =>
          refine absurd ?_ (nothing text set)
          rcases means text set with affirms | denies
          · exact ⟨true, .inl ⟨affirms, rfl⟩⟩
          · exact ⟨false, .inr ⟨denies, rfl⟩⟩

end Settings

/-! ### The endpoint -/

namespace Http.Endpoint

/-- The variable of a field that any text can be the value of. -/
def textVariable (name : String) (field : Endpoint → String) : Variable String where
  name
  Means text value := text = value
  default := field {}
  read environment := field (ofEnvironment environment)

def urlVariable : Variable String := textVariable "TABLEKIT_ENDPOINT_URL" url

def regionVariable : Variable String := textVariable "DEFAULT_REGION" region

def timeoutVariable : Variable Nat where
  name := "TABLEKIT_TIMEOUT_MS"
  Means text value := Text.Spells text.toList value ∧ value < UInt64.size
  default := ({} : Endpoint).timeout
  read environment := (ofEnvironment environment).timeout

theorem urlVariable_parses : urlVariable.Parses some where
  parse_eq_some_iff := Option.some_inj
  read_eq environment := by
    rw [Option.bind_fun_some]
    rfl

theorem regionVariable_parses : regionVariable.Parses some where
  parse_eq_some_iff := Option.some_inj
  read_eq environment := by
    rw [Option.bind_fun_some]
    rfl

theorem timeoutVariable_parses : timeoutVariable.Parses (Text.boundedNat? UInt64.size) where
  parse_eq_some_iff := Text.boundedNat?_eq_some_iff
  read_eq _ := rfl

end Http.Endpoint

/-! ### All settings -/

open Settings Http.Endpoint

/--
Every setting is read from its own variable only. In every environment the settings follow their
variables, but for the recording of timestamps: it follows its variable exactly if that is not set
or affirms or denies.
-/
theorem follows_variables (environment : Environment) :
    (consistentReadVariable.Follows environment ∧ returnValuesVariable.Follows environment ∧
      urlVariable.Follows environment ∧ regionVariable.Follows environment ∧
      timeoutVariable.Follows environment) ∧
    (auditTimestampsVariable.Follows environment ↔
      ∀ text, environment.find? "TABLEKIT_AUDIT_TIMESTAMPS" = some text →
        text ∈ affirmative ∨ text ∈ negative) ∧
    consistentReadVariable.IsOwn ∧ returnValuesVariable.IsOwn ∧ auditTimestampsVariable.IsOwn ∧
      urlVariable.IsOwn ∧ regionVariable.IsOwn ∧ timeoutVariable.IsOwn :=
  ⟨⟨consistentReadVariable_parses.follows environment,
      returnValuesVariable_parses.follows environment, urlVariable_parses.follows environment,
      regionVariable_parses.follows environment, timeoutVariable_parses.follows environment⟩,
    follows_auditTimestamps_iff, consistentReadVariable_parses.isOwn,
    returnValuesVariable_parses.isOwn, isOwn_auditTimestamps, urlVariable_parses.isOwn,
    regionVariable_parses.isOwn, timeoutVariable_parses.isOwn⟩

/-- An environment with a word for yes that does not affirm, since only its first letter is big. -/
def capitalizedYes : Environment :=
  NameMap.insert ∅ "TABLEKIT_AUDIT_TIMESTAMPS" "True"

/-- The word means nothing, and it turns the timestamps off. -/
theorem not_follows_of_capitalizedYes :
    (Settings.ofEnvironment capitalizedYes).auditTimestamps = false ∧
      ¬auditTimestampsVariable.Follows capitalizedYes := by
  refine ⟨by decide, fun follows => ?_⟩
  have means := follows_auditTimestamps_iff.1 follows "True" (by decide)
  exact absurd means (by decide)

end ItemStore
