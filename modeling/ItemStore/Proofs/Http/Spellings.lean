import Mathlib
import ItemStore.Proofs.Http.Reports

/-!
# ItemStore.Proofs.Http.Spellings

Reports with the words under one name, under the other, under both or under neither.

The two names belong to one field, and a field that is met twice is a fault of the whole body. So a
report keeps its kind as long as its words stand under one name at most, and is an internal failure
if they stand under both (`decode_spelled_iff`).
-/

namespace ItemStore.Http

open Json (Codec Fields Outline)

/-! ### Bodies that are objects -/

/-- A member of an object, whose name spells a text. -/
abbrev Member := String × Outline

/-- A member as it stands in an outline. -/
def Member.outline (member : Member) : Option String × Outline := (some member.1, member.2)

/-- Whether the body of a reply is an object with some members, whatever their values are. -/
structure Reply.IsObject (reply : Reply) (members : List Member) : Prop where
  read : Outline.read (.ofBytes reply.body) = ⟨.object (members.map Member.outline) true, true⟩
  complete : ∀ member ∈ members, member.2.isComplete = true

/-- The members with a name. -/
def membersOf (members : List Member) (name : String) : List Member :=
  members.filter fun member => member.1 = name

/-- Whether members have a name once, with a text as its value. -/
def HasText (members : List Member) (name text : String) : Prop :=
  membersOf members name = [(name, .string (some text))]

/-- Whether no member has a name. -/
def Lacks (members : List Member) (name : String) : Prop := membersOf members name = []

theorem membersOf_cons (member : Member) (rest : List Member) (name : String) :
    membersOf (member :: rest) name =
      if member.1 = name then member :: membersOf rest name else membersOf rest name := by
  rw [membersOf, List.filter_cons]
  simp only [decide_eq_true_eq]
  rfl

/-- The members that a report is read from: the type, and the words under both names. -/
theorem own_perm (members : List Member) :
    (members.filter fun member => ErrorBody.record.fields.answers member.1).Perm
      (membersOf members typeName ++
        (membersOf members "message" ++ membersOf members "Message")) := by
  have answers (name : String) : ErrorBody.record.fields.answers name = true ↔
      name = typeName ∨ name = "message" ∨ name = "Message" := by
    rw [answers_iff]
    simp [messageNames]
  induction members with
  | nil => exact .nil
  | cons member rest ih =>
      obtain ⟨name, value⟩ := member
      rw [membersOf_cons, membersOf_cons, membersOf_cons, List.filter_cons]
      by_cases own : ErrorBody.record.fields.answers name = true
      · rw [if_pos own]
        rcases (answers name).1 own with rfl | rfl | rfl
        · exact ih.cons _
        · exact (ih.cons _).trans List.perm_middle.symm
        · refine (ih.cons _).trans ?_
          rw [← List.append_assoc]
          refine List.perm_middle.symm.trans ?_
          rw [List.append_assoc]
          exact .refl _
      · have others := mt (answers name).2 own
        rw [not_or, not_or] at others
        rw [if_neg own, if_neg others.1, if_neg others.2.1, if_neg others.2.2]
        exact ih

/-! ### Reading the members -/

section Read

variable {members : List Member} {type : String}

/-- The fields that members fill, one after the other. -/
def putOwn (members : List Member) (room : Nat) :=
  ErrorBody.record.fields.putAll room
    ((members.filter fun member => ErrorBody.record.fields.answers member.1).map Member.outline)
    ErrorBody.record.fields.noSlots

/-- Members with words under both names meet one field twice. -/
theorem putOwn_of_both (room : Nat) (typed : HasText members typeName type) {words more : String}
    (told : HasText members "message" words) (told' : HasText members "Message" more) :
    putOwn members room = .error (.repeated "message") := by
  have perm := own_perm members
  rw [typed, told, told'] at perm
  -- Whichever of the three comes first, the second of the words is one too many.
  have orders := List.mem_permutations'.2 perm
  simp only [List.permutations', List.permutations'Aux, List.cons_append, List.nil_append,
    List.flatMap_cons, List.flatMap_nil, List.map_cons, List.map_nil, List.mem_cons,
    List.not_mem_nil, or_false] at orders
  rw [putOwn]
  rcases orders with eq | eq | eq | eq | eq | eq <;> rw [eq] <;> rfl

/-- Members with the words under one name at most fill the fields. -/
theorem putOwn_of_lacks (room : Nat) (typed : HasText members typeName type)
    (told : ∀ name ∈ messageNames, Lacks members name ∨ ∃ words, HasText members name words)
    (lacks : ∃ name ∈ messageNames, Lacks members name) :
    ∃ words : Option String,
      putOwn members room = .ok (some (some type), words.map some, ()) := by
  have perm := own_perm members
  rw [typed] at perm
  rw [putOwn]
  rcases told "message" (by decide) with lower | ⟨words, lower⟩
  · rcases told "Message" (by decide) with upper | ⟨words, upper⟩
    · rw [lower, upper, List.append_nil, List.append_nil, List.perm_singleton] at perm
      rw [perm]
      exact ⟨none, rfl⟩
    · rw [lower, upper] at perm
      refine ⟨some words, ?_⟩
      rcases List.perm_pair.1 perm with eq | eq <;> rw [eq] <;> rfl
  · rcases told "Message" (by decide) with upper | ⟨more, upper⟩
    · rw [lower, upper] at perm
      refine ⟨some words, ?_⟩
      rcases List.perm_pair.1 perm with eq | eq <;> rw [eq] <;> rfl
    · obtain ⟨name, mem, none⟩ := lacks
      simp only [messageNames, List.mem_cons, List.not_mem_nil, or_false] at mem
      rcases mem with rfl | rfl
      · exact absurd (lower.symm.trans none) (List.cons_ne_nil _ _)
      · exact absurd (upper.symm.trans none) (List.cons_ne_nil _ _)

end Read

/-! ### Replies -/

section Reply

variable {reply : Reply} {members : List Member} {type : String}

/-- The body is read by what its own members come to. -/
theorem Reply.IsObject.decode (object : reply.IsObject members) (room : Nat) :
    ErrorBody.record.decode (room + 1) (Outline.read (.ofBytes reply.body)).outline =
      (putOwn members room).bind fun slots =>
        (ErrorBody.record.fields.fill slots).map ErrorBody.record.ofRow := by
  have own : (members.filter fun member =>
      ErrorBody.record.fields.answers member.1).map Member.outline =
        (members.map Member.outline).filter fun member =>
          member.1.elim true ErrorBody.record.fields.answers := by
    rw [List.filter_map]
    rfl
  have complete : ∀ name value, (some name, value) ∈ members.map Member.outline →
      ErrorBody.record.fields.answers name = false → value.isComplete = true := by
    intro name value mem _
    obtain ⟨member, among, eq⟩ := List.mem_map.1 mem
    cases eq
    exact object.complete member among
  rw [object.read, Json.Record.decode_object _ complete, ← own]
  rfl

/-- A body with the words under one name at most reports the kind that its type names. -/
theorem Reply.IsObject.reports (object : reply.IsObject members) {kind : FailureKind}
    (typed : HasText members typeName type)
    (known : FailureKind.IsLocalPart kind.name.toList type.toList)
    (told : ∀ name ∈ messageNames, Lacks members name ∨ ∃ words, HasText members name words)
    (lacks : ∃ name ∈ messageNames, Lacks members name) : reply.Reports kind := by
  obtain ⟨words, filled⟩ := putOwn_of_lacks (Json.maxDepth - 1) typed told lacks
  have decoded := object.decode (Json.maxDepth - 1)
  rw [filled] at decoded
  refine ⟨⟨some type, words⟩, type, ?_, rfl, known⟩
  rw [Codec.read, Json.Decoder.read_eq_ok_iff]
  refine ⟨decoded.trans ?_, by rw [object.read]⟩
  cases words <;> rfl

/-- A body with words under both names reports nothing. -/
theorem Reply.IsObject.not_reports (object : reply.IsObject members)
    (typed : HasText members typeName type) {words more : String}
    (lower : HasText members "message" words) (upper : HasText members "Message" more)
    (kind : FailureKind) : ¬reply.Reports kind := by
  intro reports
  obtain ⟨body, name, read, -, -⟩ := reports
  rw [Codec.read, Json.Decoder.read_eq_ok_iff] at read
  have decoded := object.decode (Json.maxDepth - 1)
  rw [putOwn_of_both _ typed lower upper] at decoded
  cases decoded.symm.trans read.1

variable {α : Type}

/--
Of replies with a status outside 200 to 299 whose body is an object that names a kind of failure
once, and that has words under each of the two names once or not at all: such a reply is a failure
with its status, and of its kind unless it has words under both names. Then it is internal.
-/
theorem decode_spelled_iff (codec : Codec α) (intact : reply.Intact) (unserved : ¬reply.IsServed)
    (object : reply.IsObject members) {kind : FailureKind} (typed : HasText members typeName type)
    (known : FailureKind.IsLocalPart kind.name.toList type.toList)
    (told : ∀ name ∈ messageNames, Lacks members name ∨ ∃ words, HasText members name words) :
    ∃ failure, reply.decode codec = .error failure ∧ failure.status = reply.status ∧
      (failure.kind = kind ↔ kind = .internal ∨ ∃ name ∈ messageNames, Lacks members name) := by
  refine ⟨_, decode_of_not_isServed intact unserved, status_failure reply, ?_⟩
  rw [kind_failure_iff]
  by_cases lacks : ∃ name ∈ messageNames, Lacks members name
  · exact iff_of_true (.inl (object.reports typed known told lacks)) (.inr lacks)
  · have both : ∀ name ∈ messageNames, ∃ words, HasText members name words := by
      intro name mem
      refine (told name mem).resolve_left fun none => lacks ⟨name, mem, none⟩
    obtain ⟨words, lower⟩ := both "message" (by decide)
    obtain ⟨more, upper⟩ := both "Message" (by decide)
    have none := object.not_reports typed lower upper
    constructor
    · intro either
      exact .inl (either.resolve_left (none kind)).1
    · intro either
      exact .inr ⟨either.resolve_right lacks, none⟩

end Reply

/-- A document of a lost race, with its words under the second name and more to say. -/
def capitalized : List (String × Json) :=
  [("Item", .object [("__type", .null)]), ("Message", .text "Lost."),
    ("__type", .text "a#ConditionalCheckFailedException")]

/-- The same with the words under both names. -/
def doubled : List (String × Json) := ("message", .text "Lost.") :: capitalized

/-- The members of a document. -/
def membersOfJson (members : List (String × Json)) : List Member :=
  members.map fun member => (member.1, .ofJson member.2)

/-- A reply without a checksum that reports a document. -/
def replyOf (members : List (String × Json)) : Reply where
  status := .badRequest
  headers := []
  body := Text.utf8 (Json.object members).print

theorem decode_spelled_of_capitalized :
    (replyOf capitalized).Intact ∧ ¬(replyOf capitalized).IsServed ∧
      (replyOf capitalized).IsObject (membersOfJson capitalized) ∧
      HasText (membersOfJson capitalized) typeName "a#ConditionalCheckFailedException" ∧
      Lacks (membersOfJson capitalized) "message" ∧
      HasText (membersOfJson capitalized) "Message" "Lost." ∧
      ∃ failure, (replyOf capitalized).decode GetResponse.record.codec = .error failure ∧
        failure.kind = .conditionFailed := by
  have intact : (replyOf capitalized).Intact := checksumFault?_eq_none_iff.1 rfl
  have unserved : ¬(replyOf capitalized).IsServed := fun served => absurd served.2 (by decide)
  have object : (replyOf capitalized).IsObject (membersOfJson capitalized) :=
    ⟨Json.read_print rfl, by decide⟩
  have lacks : Lacks (membersOfJson capitalized) "message" := rfl
  have upper : HasText (membersOfJson capitalized) "Message" "Lost." := rfl
  have known : FailureKind.IsLocalPart FailureKind.conditionFailed.name.toList
      "a#ConditionalCheckFailedException".toList := ⟨by decide, .inr ⟨['a'], rfl⟩⟩
  have told : ∀ name ∈ messageNames, Lacks (membersOfJson capitalized) name ∨
      ∃ words, HasText (membersOfJson capitalized) name words := by
    simp only [messageNames, List.forall_mem_cons]
    exact ⟨.inl lacks, .inr ⟨_, upper⟩, by simp⟩
  obtain ⟨failure, failed, -, kind⟩ :=
    decode_spelled_iff GetResponse.record.codec intact unserved object rfl known told
  exact ⟨intact, unserved, object, rfl, lacks, upper, failure, failed,
    kind.2 (.inr ⟨"message", by decide, lacks⟩)⟩

/-- A lost race that is reported with its words under both names is an internal failure. -/
theorem internal_of_doubled :
    (replyOf doubled).Intact ∧ ¬(replyOf doubled).IsServed ∧
      (replyOf doubled).IsObject (membersOfJson doubled) ∧
      HasText (membersOfJson doubled) typeName "a#ConditionalCheckFailedException" ∧
      HasText (membersOfJson doubled) "message" "Lost." ∧
      HasText (membersOfJson doubled) "Message" "Lost." ∧
      ∃ failure, (replyOf doubled).decode GetResponse.record.codec = .error failure ∧
        failure.kind = .internal := by
  have intact : (replyOf doubled).Intact := checksumFault?_eq_none_iff.1 rfl
  have unserved : ¬(replyOf doubled).IsServed := fun served => absurd served.2 (by decide)
  have object : (replyOf doubled).IsObject (membersOfJson doubled) :=
    ⟨Json.read_print rfl, by decide⟩
  have lower : HasText (membersOfJson doubled) "message" "Lost." := rfl
  have upper : HasText (membersOfJson doubled) "Message" "Lost." := rfl
  refine ⟨intact, unserved, object, rfl, lower, upper, _,
    decode_of_not_isServed intact unserved, kind_failure_iff.2 (.inr ⟨rfl, ?_⟩)⟩
  exact object.not_reports rfl lower upper

end ItemStore.Http
