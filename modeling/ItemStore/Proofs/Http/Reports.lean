import Mathlib
import ItemStore.Proofs.Http.Classification
import ItemStore.Proofs.Json.Records

/-!
# ItemStore.Proofs.Http.Reports

Failures that a store reports in a body, and that arrive as they were reported.

A report has the name of a kind, with or without a namespace, perhaps words under one of two names,
and whatever else the store has to say, in any order (`Reported`). Nobody asks for the last of
these, so they are skipped, and the others fill the fields of `ErrorBody` in whatever order they
come (`Tells.putAll`, `Reported.decode`).
-/

namespace ItemStore.Http

open Json (Codec Fields IsTextOf Outline)

/-! ### Reports -/

/-- The name under which a report has the name of the kind. -/
def typeName : String := "__type"

/-- The names under which a report may have its words. -/
def messageNames : List String := ["message", "Message"]

/-- The texts that name a kind. -/
inductive Names (kind : FailureKind) : String → Prop
  /-- The name alone. -/
  | plain : Names kind kind.name
  /-- The name in a namespace. -/
  | within (space : String) : Names kind (space ++ "#" ++ kind.name)
  /-- The name in the namespace that the store has for it. -/
  | qualified : Names kind kind.qualifiedName

/-- The members that tell a message. Without any the name of the kind stands in. -/
inductive Tells (kind : FailureKind) : List (String × Json) → String → Prop
  | words {name : String} (mem : name ∈ messageNames) (message : String) :
      Tells kind [(name, .text message)] message
  | nothing : Tells kind [] kind.name

/-- The values that have no parts: texts, truth values and null. -/
inductive IsPlain : Json → Prop
  | null : IsPlain .null
  | bool (b : Bool) : IsPlain (.bool b)
  | text (s : String) : IsPlain (.text s)

/-- A member that does not belong to the report itself. -/
structure IsAside (member : String × Json) : Prop where
  notType : member.1 ≠ typeName
  notMessage : member.1 ∉ messageNames
  plain : IsPlain member.2

/-- Whether members report a failure of a kind with a message, in whatever order. -/
def Reported (kind : FailureKind) (message : String) (members : List (String × Json)) : Prop :=
  ∃ type told asides, Names kind type ∧ Tells kind told message ∧
    (∀ aside ∈ asides, IsAside aside) ∧ members.Perm ((typeName, .text type) :: told ++ asides)

/-- A text that names a kind has its name behind the last `#`, if it has one. -/
theorem Names.isLocalPart {kind : FailureKind} {type : String} (h : Names kind type) :
    FailureKind.IsLocalPart kind.name.toList type.toList := by
  have free : '#' ∉ kind.name.toList := by cases kind <;> decide
  refine ⟨free, ?_⟩
  have behind (space : String) :
      (space ++ "#" ++ kind.name).toList = space.toList ++ '#' :: kind.name.toList := by
    rw [String.toList_append, String.toList_append, List.append_assoc]
    rfl
  cases h with
  | plain => exact .inl rfl
  | within space => exact .inr ⟨space.toList, behind space⟩
  | qualified => exact .inr ⟨kind.nameSpace.toList, behind kind.nameSpace⟩

/-! ### Reading a report -/

theorem answers_iff {name : String} :
    ErrorBody.record.fields.answers name = true ↔ name = typeName ∨ name ∈ messageNames := by
  simp [ErrorBody.record, Fields.answers, Json.Field.answers, Json.Field.optional, typeName,
    messageNames]

theorem IsAside.answers {member : String × Json} (h : IsAside member) :
    ErrorBody.record.fields.answers member.1 = false := by
  rw [Bool.eq_false_iff, ne_eq, answers_iff, not_or]
  exact ⟨h.notType, h.notMessage⟩

theorem Tells.answers {kind : FailureKind} {told : List (String × Json)} {message : String}
    (h : Tells kind told message) : ∀ member ∈ told,
      ErrorBody.record.fields.answers member.1 = true := by
  cases h with
  | words mem message => exact List.forall_mem_singleton.2 (answers_iff.2 (.inr mem))
  | nothing => exact fun _ mem => absurd mem List.not_mem_nil

theorem Tells.isPlain {kind : FailureKind} {told : List (String × Json)} {message : String}
    (h : Tells kind told message) : ∀ member ∈ told, IsPlain member.2 := by
  cases h with
  | words mem message => exact List.forall_mem_singleton.2 (.text message)
  | nothing => exact fun _ mem => absurd mem List.not_mem_nil

theorem IsPlain.isComplete {value : Json} (h : IsPlain value) :
    (Outline.ofJson value).isComplete = true := by
  cases h <;> rfl

theorem IsPlain.isNumberFree {value : Json} (h : IsPlain value) : value.isNumberFree = true := by
  cases h <;> rfl

section Reported

variable {kind : FailureKind} {message : String} {members : List (String × Json)}

/-- Without the members aside a report has its own members, in some order. -/
theorem Reported.own (h : Reported kind message members) :
    ∃ type told, Names kind type ∧ Tells kind told message ∧
      (members.filter fun member => ErrorBody.record.fields.answers member.1).Perm
        ((typeName, .text type) :: told) := by
  obtain ⟨type, told, asides, names, tells, apart, perm⟩ := h
  refine ⟨type, told, names, tells, ?_⟩
  have arranged := perm.filter fun member => ErrorBody.record.fields.answers member.1
  have own : ((typeName, Json.text type) :: told).filter
      (fun member => ErrorBody.record.fields.answers member.1) = (typeName, .text type) :: told :=
    List.filter_eq_self.2 (List.forall_mem_cons.2 ⟨answers_iff.2 (.inl rfl), tells.answers⟩)
  have others : asides.filter (fun member => ErrorBody.record.fields.answers member.1) = [] := by
    refine List.filter_eq_nil_iff.2 fun member mem => ?_
    rw [(apart member mem).answers]
    exact Bool.false_ne_true
  rwa [List.filter_append, own, others, List.append_nil] at arranged

theorem Reported.isPlain (h : Reported kind message members) :
    ∀ member ∈ members, IsPlain member.2 := by
  obtain ⟨type, told, asides, names, tells, apart, perm⟩ := h
  intro member mem
  rcases List.mem_append.1 (perm.mem_iff.1 mem) with own | aside
  · rcases List.mem_cons.1 own with own | told
    · rw [own]
      exact .text type
    · exact tells.isPlain member told
  · exact (apart member aside).plain

/-- The members of a report itself fill the fields, whichever of them comes first. -/
theorem Tells.putAll (room : Nat) {type : String} {told own : List (String × Json)}
    (h : Tells kind told message) (perm : own.Perm ((typeName, .text type) :: told)) :
    ∃ words : Option String, words.getD kind.name = message ∧
      ErrorBody.record.fields.putAll room (Outline.ofMembers own) ErrorBody.record.fields.noSlots =
        .ok (some (some type), words.map some, ()) := by
  cases h with
  | words mem message =>
      refine ⟨some message, rfl, ?_⟩
      -- Two names and two orders; in each case the members fill one slot after the other.
      simp only [messageNames, List.mem_cons, List.not_mem_nil, or_false] at mem
      rcases mem with rfl | rfl
      · rcases List.perm_pair.1 perm with rfl | rfl <;> rfl
      · rcases List.perm_pair.1 perm with rfl | rfl <;> rfl
  | nothing =>
      rw [List.perm_singleton.1 perm]
      exact ⟨none, rfl, rfl⟩

/-- An object that reports a failure is read as what it reports. -/
theorem Reported.decode (h : Reported kind message members) (room : Nat) :
    ∃ type words, Names kind type ∧ words.getD kind.name = message ∧
      ErrorBody.record.decode (room + 1) (.object (Outline.ofMembers members) true) =
        .ok ⟨some type, words⟩ := by
  obtain ⟨type, told, names, tells, perm⟩ := h.own
  obtain ⟨words, stands, filled⟩ := tells.putAll room perm
  have own : Outline.ofMembers (members.filter fun member =>
      ErrorBody.record.fields.answers member.1) = (Outline.ofMembers members).filter fun member =>
        member.1.elim true ErrorBody.record.fields.answers := by
    rw [Outline.ofMembers_eq_map, Outline.ofMembers_eq_map, List.filter_map]
    rfl
  have complete : ∀ name value, (some name, value) ∈ Outline.ofMembers members →
      ErrorBody.record.fields.answers name = false → value.isComplete = true := by
    intro name value mem _
    rw [Outline.ofMembers_eq_map] at mem
    obtain ⟨member, among, eq⟩ := List.mem_map.1 mem
    cases eq
    exact (h.isPlain member among).isComplete
  refine ⟨type, words, names, stands, ?_⟩
  rw [Json.Record.decode_object _ complete, ← own, filled]
  cases words <;> rfl

end Reported

/-! ### Replies -/

/--
A failure that a body reports arrives as it was reported, whatever the codec of what was asked for.

* What is printed for the members of a report is a text of them.
* A reply that passes for intact, has a status outside 200 to 299 and has a text of these members as
  its body is a failure of the kind, with the message and with this status.
-/
theorem decode_reported {α : Type} (codec : Codec α) {kind : FailureKind} {message : String}
    {members : List (String × Json)} (reported : Reported kind message members) :
    IsTextOf (.ofBytes (Text.utf8 (Json.object members).print)) (.object members) ∧
      ∀ reply : Reply, reply.Intact → ¬ reply.IsServed →
        IsTextOf (.ofBytes reply.body) (.object members) →
        reply.decode codec = .error ⟨kind, message, reply.status, none⟩ := by
  constructor
  · have free : (Json.object members).isNumberFree = true :=
      Json.allMembersNumberFree_iff.2 fun member mem => (reported.isPlain member mem).isNumberFree
    exact Json.isTextOf_print free
  · intro reply intact unserved text
    obtain ⟨type, words, names, stands, decoded⟩ := reported.decode (Json.maxDepth - 1)
    have read : ErrorBody.record.codec.read (.ofBytes reply.body) = .ok ⟨some type, words⟩ := by
      rw [Codec.read, Json.Decoder.read_eq_ok_iff, Json.isTextOf_iff_read.1 text]
      exact ⟨decoded, rfl⟩
    have known : FailureKind.ofName? type = some kind :=
      FailureKind.ofName?_eq_some_iff.2 names.isLocalPart
    rw [decode_of_not_isServed intact unserved, Reply.failure, read]
    simp only [ErrorBody.failure, Failure.of, Failure.withStatus, Option.bind_some, known,
      Option.getD_some, stands]

/-- Members that report too many requests, under a name with two namespaces. -/
def overload : List (String × Json) :=
  [("", .null), ("Message", .text "Wait."), ("__type", .text "a#b#RequestLimitExceeded")]

/-- A reply that reports too many requests, with the checksum of its body. -/
def overloaded : Reply where
  status := .internalServerError
  headers := [("X-Amz-Crc32", Text.utf8 "3979138716".toList)]
  body := Text.utf8 (Json.object overload).print

theorem decode_reported_of_overloaded :
    Reported .tooManyRequests "Wait." overload ∧ overloaded.Intact ∧ ¬ overloaded.IsServed ∧
      overloaded.decode GetResponse.record.codec =
        .error ⟨.tooManyRequests, "Wait.", .internalServerError, none⟩ := by
  have reported : Reported .tooManyRequests "Wait." overload := by
    refine ⟨"a#b#RequestLimitExceeded", [("Message", .text "Wait.")], [("", .null)], .within "a#b",
      .words (by decide) "Wait.", ?_, ?_⟩
    · exact List.forall_mem_singleton.2 ⟨by decide, by decide, .null⟩
    · exact (List.reverse_perm overload).symm
  have intact : overloaded.Intact := checksumFault?_eq_none_iff.1 (by decide +kernel)
  have unserved : ¬ overloaded.IsServed := fun served => absurd served.2 (by decide)
  obtain ⟨text, decoded⟩ := decode_reported GetResponse.record.codec reported
  exact ⟨reported, intact, unserved, decoded overloaded intact unserved text⟩

end ItemStore.Http
