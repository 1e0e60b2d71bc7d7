import Mathlib
import ItemStore.Http.Exchange
import ItemStore.Proofs.Decimal.Digits
import ItemStore.Proofs.Text.LetterCase
import ItemStore.Proofs.Text.Utf8

/-!
# ItemStore.Proofs.Http.Classification

What a reply answers, by its checksum, its status and its body.

The three are looked at in this order. `Reply.Intact` is about the first and `Reply.Reports` about
the last, both in terms of the characters that stand in the reply; `Reply.decode` is compared with
them.
-/

namespace ItemStore

/-! ### Numbers in decimal digits -/

namespace Text

/-- Whether characters spell a number: decimal digits behind at most one plus sign. -/
def Spells (chars : List Char) (n : Nat) : Prop :=
  ∃ digits, (chars = digits ∨ chars = '+' :: digits) ∧ digits ≠ [] ∧
    (∀ c ∈ digits, isDigit c = true) ∧ decimalValue digits = n

/-- The characters behind a plus sign, if there is one in front. -/
def afterPlus : List Char → List Char
  | '+' :: rest => rest
  | other => other

theorem spells_iff {chars : List Char} {n : Nat} :
    Spells chars n ↔ afterPlus chars ≠ [] ∧ (∀ c ∈ afterPlus chars, isDigit c = true) ∧
      decimalValue (afterPlus chars) = n := by
  constructor
  · rintro ⟨digits, rfl | rfl, some, all, value⟩
    · have same : afterPlus chars = chars := by
        unfold afterPlus
        split
        · exact absurd (all '+' List.mem_cons_self) (by decide)
        · rfl
      rw [same]
      exact ⟨some, all, value⟩
    · exact ⟨some, all, value⟩
  · rintro ⟨some, all, value⟩
    refine ⟨afterPlus chars, ?_, some, all, value⟩
    unfold afterPlus
    split
    · exact .inr rfl
    · exact .inl rfl

theorem boundedNat?_eq_some_iff {bound n : Nat} {text : String} :
    boundedNat? bound text = some n ↔ Spells text.toList n ∧ n < bound := by
  have unfolded : boundedNat? bound text =
      if (afterPlus text.toList).isEmpty || !(afterPlus text.toList).all isDigit then none
      else if decimalValue (afterPlus text.toList) < bound then
        some (decimalValue (afterPlus text.toList))
      else none := rfl
  rw [unfolded, spells_iff]
  generalize afterPlus text.toList = digits
  constructor
  · intro h
    split at h
    · cases h
    · rename_i spelled
      split at h
      · cases h
        rename_i small
        have spelled : digits ≠ [] ∧ ∀ c ∈ digits, isDigit c = true := by simpa using spelled
        exact ⟨⟨spelled.1, spelled.2, rfl⟩, small⟩
      · cases h
  · rintro ⟨⟨some, all, rfl⟩, small⟩
    rw [if_neg (by simpa [some] using all), if_pos small]

end Text

/-! ### Names of kinds -/

namespace FailureKind

/-- Whether characters are what stands behind the last `#` of a name, or are the whole name. -/
def IsLocalPart (chars name : List Char) : Prop :=
  '#' ∉ chars ∧ (name = chars ∨ ∃ space, name = space ++ '#' :: chars)

theorem localPart_eq_iff {name chars : List Char} :
    localPart name = chars ↔ IsLocalPart chars name := by
  unfold localPart IsLocalPart
  constructor
  · rintro rfl
    refine ⟨fun mem => ?_, ?_⟩
    · simpa using List.mem_takeWhile_imp (List.mem_reverse.1 mem)
    · have parts := congrArg List.reverse
        (List.takeWhile_append_dropWhile (p := (· ≠ '#')) (l := name.reverse))
      rw [List.reverse_append, List.reverse_reverse] at parts
      cases rest : name.reverse.dropWhile (· ≠ '#') with
      | nil =>
          rw [rest] at parts
          exact .inl parts.symm
      | cons c more =>
          have hash : c = '#' := by
            have stops := List.head?_dropWhile_not (· ≠ '#') name.reverse
            rw [rest] at stops
            simpa using stops
          rw [rest, List.reverse_cons, hash, List.append_assoc] at parts
          exact .inr ⟨more.reverse, parts.symm⟩
  · rintro ⟨none, stands⟩
    have all : ∀ c ∈ chars.reverse, decide (c ≠ '#') = true := fun c mem =>
      decide_eq_true fun eq => none (eq ▸ List.mem_reverse.1 mem)
    rcases stands with rfl | ⟨space, rfl⟩
    · rw [List.takeWhile_eq_self_iff.2 all, List.reverse_reverse]
    · rw [List.reverse_append, List.reverse_cons, List.append_assoc,
        List.takeWhile_append_of_pos all]
      simp

theorem mem_all (kind : FailureKind) : kind ∈ all := by
  cases kind <;> decide

theorem eq_of_name_eq {kind other : FailureKind} (h : kind.name = other.name) : kind = other := by
  have distinct : ∀ kind ∈ all, ∀ other ∈ all, kind.name = other.name → kind = other := by decide
  exact distinct kind kind.mem_all other other.mem_all h

/-- A kind is known by its name, alone or behind a namespace. -/
theorem ofName?_eq_some_iff {name : String} {kind : FailureKind} :
    ofName? name = some kind ↔ IsLocalPart kind.name.toList name.toList := by
  rw [← localPart_eq_iff]
  constructor
  · intro h
    have same := List.find?_some h
    rw [beq_iff_eq] at same
    rw [same, String.toList_ofList]
  · intro h
    have find : ofName? name = all.find? fun other => other.name == kind.name := by
      rw [ofName?, h, String.ofList_toList]
    rw [find]
    cases found : all.find? fun other => other.name == kind.name with
    | none => simpa using List.find?_eq_none.1 found kind kind.mem_all
    | some other =>
        have same := List.find?_some found
        rw [eq_of_name_eq (beq_iff_eq.1 same)]

end FailureKind

namespace Http

open Json (Codec)

variable {reply : Reply}

/-! ### Checksums -/

/-- Whether a value is that of the first header with a name, in any letter case. -/
def Reply.HasFirst (reply : Reply) (name : String) (value : List UInt8) : Prop :=
  ∃ before written after, reply.headers = before ++ (written, value) :: after ∧
    Text.SameUpToCase written name ∧ ∀ header ∈ before, ¬Text.SameUpToCase header.1 name

/-- Whether a reply has no checksum, or the first one it has is that of its body. -/
def Reply.Intact (reply : Reply) : Prop :=
  ∀ value, reply.HasFirst "x-amz-crc32" value →
    ∃ chars, value = Text.utf8 chars ∧ Text.Spells chars (Checksum.crc32 reply.body).toNat

theorem header?_eq_some_iff {name : String} {value : List UInt8} :
    reply.header? name = some value ↔ reply.HasFirst name value := by
  have same (header : String × List UInt8) : (Text.upper header.1 == Text.upper name) = true ↔
      Text.SameUpToCase header.1 name := by
    rw [beq_iff_eq, Text.upper_eq_iff]
  rw [Reply.header?, Option.map_eq_some_iff]
  constructor
  · rintro ⟨⟨written, value⟩, found, rfl⟩
    obtain ⟨named, before, after, split, others⟩ := List.find?_eq_some_iff_append.1 found
    refine ⟨before, written, after, split, (same _).1 named, fun header mem is => ?_⟩
    have other := others header mem
    rw [(same header).2 is] at other
    cases other
  · rintro ⟨before, written, after, split, named, others⟩
    refine ⟨(written, value), List.find?_eq_some_iff_append.2 ?_, rfl⟩
    refine ⟨(same _).2 named, before, after, split, fun header mem => ?_⟩
    rw [Bool.not_eq_true', ← Bool.not_eq_true, same]
    exact others header mem

theorem toNat_ofNat_byte (byte : UInt8) : (Char.ofNat byte.toNat).toNat = byte.toNat := by
  have small := byte.toNat_lt
  have valid : byte.toNat.isValidChar := .inl (by omega)
  rw [Char.toNat_ofNat, if_pos valid]

theorem isVisible_iff (byte : UInt8) :
    (byte = 9 || (32 ≤ byte && byte < 127)) = true ↔
      byte.toNat = 9 ∨ 32 ≤ byte.toNat ∧ byte.toNat < 127 := by
  simp [← UInt8.toNat_inj, UInt8.le_iff_toNat_le, UInt8.lt_iff_toNat_lt]

/-- Digits and plus signs are visible characters. -/
theorem isVisible_of_spells {chars : List Char} {n : Nat} (h : Text.Spells chars n) :
    ∀ c ∈ chars, 32 ≤ c.toNat ∧ c.toNat < 127 := by
  have digit : ∀ c : Char, Text.isDigit c = true → 32 ≤ c.toNat ∧ c.toNat < 127 := by
    intro c digit
    have range := Text.isDigit_iff.1 digit
    omega
  obtain ⟨digits, stands, -, all, -⟩ := h
  intro c mem
  rcases stands with rfl | rfl
  · exact digit c (all c mem)
  · rcases List.mem_cons.1 mem with rfl | mem
    · decide
    · exact digit c (all c mem)

/-- A number is read from a header value exactly when the value spells it. -/
theorem checksum?_eq_some_iff {value : List UInt8} {n : Nat} :
    checksum? value = some n ↔
      (∃ chars, value = Text.utf8 chars ∧ Text.Spells chars n) ∧ n < UInt32.size := by
  constructor
  · intro h
    obtain ⟨text, shown, spelled⟩ := Option.bind_eq_some_iff.1 h
    rw [Text.boundedNat?_eq_some_iff] at spelled
    unfold headerText? at shown
    split at shown
    · cases shown
      rename_i visible
      rw [List.all_eq_true] at visible
      refine ⟨⟨_, ?_, spelled.1⟩, spelled.2⟩
      rw [String.toList_ofList, Text.utf8_of_lt]
      · simp [Function.comp_def, toNat_ofNat_byte]
      · intro c mem
        obtain ⟨byte, inside, rfl⟩ := List.mem_map.1 mem
        have seen := visible byte inside
        rw [isVisible_iff] at seen
        rw [toNat_ofNat_byte]
        omega
    · cases shown
  · rintro ⟨⟨chars, rfl, spelled⟩, small⟩
    have visible := isVisible_of_spells spelled
    have bytes : Text.utf8 chars = chars.map fun c => UInt8.ofNat c.toNat :=
      Text.utf8_of_lt fun c mem => by have := visible c mem; omega
    have shown : headerText? (Text.utf8 chars) = some (String.ofList chars) := by
      rw [bytes, headerText?, if_pos]
      · rw [List.map_map, List.map_congr_left (g := id) fun c mem => ?_, List.map_id]
        have seen := visible c mem
        rw [Function.comp_apply, Text.Source.toNat_ofNat (by omega), Char.ofNat_toNat, id]
      · rw [List.all_map, List.all_eq_true]
        intro c mem
        have seen := visible c mem
        rw [Function.comp_apply, isVisible_iff, Text.Source.toNat_ofNat (by omega)]
        exact .inr seen
    rw [checksum?, shown, Option.bind_some, Text.boundedNat?_eq_some_iff, String.toList_ofList]
    exact ⟨spelled, small⟩

/-- What is at fault with a checksum is internal, whatever the reply says. -/
theorem isInternal_of_checksumFault? {failure : Failure}
    (h : reply.checksumFault? = some failure) :
    failure.kind = .internal ∧ failure.status.code = 500 := by
  unfold Reply.checksumFault? at h
  split at h
  · cases h
  · split at h
    · cases h
      exact ⟨rfl, rfl⟩
    · dsimp only at h
      split at h
      · cases h
      · cases h
        exact ⟨rfl, rfl⟩

theorem checksumFault?_eq_none_iff : reply.checksumFault? = none ↔ reply.Intact := by
  have bound := (Checksum.crc32 reply.body).toNat_lt
  unfold Reply.checksumFault? Reply.Intact
  simp only [← header?_eq_some_iff, checksumHeader]
  cases reply.header? "x-amz-crc32" with
  | none => simp
  | some value =>
      have spells : checksum? value = some (Checksum.crc32 reply.body).toNat ↔
          ∃ chars, value = Text.utf8 chars ∧
            Text.Spells chars (Checksum.crc32 reply.body).toNat := by
        rw [checksum?_eq_some_iff]
        exact and_iff_left bound
      simp only [Option.some.injEq, forall_eq']
      rw [← spells]
      cases checksum? value with
      | none => simp
      | some expected =>
          by_cases same : expected = (Checksum.crc32 reply.body).toNat <;> simp [same]

/-! ### Failures that a body reports -/

/-- Whether the body of a reply reports a failure of a kind, by the name of its type. -/
def Reply.Reports (reply : Reply) (kind : FailureKind) : Prop :=
  ∃ body name, ErrorBody.record.codec.read (.ofBytes reply.body) = .ok body ∧
    body.name = some name ∧ FailureKind.IsLocalPart kind.name.toList name.toList

theorem reports_iff {kind : FailureKind} :
    reply.Reports kind ↔ ∃ body, ErrorBody.record.codec.read (.ofBytes reply.body) = .ok body ∧
      body.name.bind FailureKind.ofName? = some kind := by
  unfold Reply.Reports
  simp only [Option.bind_eq_some_iff, FailureKind.ofName?_eq_some_iff, exists_and_left]

theorem status_failure (reply : Reply) : reply.failure.status = reply.status := by
  unfold Reply.failure
  split <;> rfl

/-- The failure that a reply reports is of the kind that its body names, and internal otherwise. -/
theorem kind_failure_iff {kind : FailureKind} :
    reply.failure.kind = kind ↔
      reply.Reports kind ∨ kind = .internal ∧ ∀ other, ¬ reply.Reports other := by
  simp only [reports_iff]
  unfold Reply.failure
  cases ErrorBody.record.codec.read (.ofBytes reply.body) with
  | error fault => simp [Failure.withStatus, Failure.of, eq_comm]
  | ok body =>
      have same : (body.failure reply.status).kind =
          (body.name.bind FailureKind.ofName?).getD .internal := rfl
      simp only [same, Except.ok.injEq, exists_eq_left']
      cases body.name.bind FailureKind.ofName? with
      | none => simp [eq_comm]
      | some named => simp

/-! ### Replies -/

/-- Whether the status of a reply says that the request was served. -/
def Reply.IsServed (reply : Reply) : Prop := 200 ≤ reply.status.code ∧ reply.status.code ≤ 299

theorem isSuccess_iff : reply.status.isSuccess = true ↔ reply.IsServed := by
  simp only [Status.isSuccess, Reply.IsServed, Bool.and_eq_true, decide_eq_true_eq]
  omega

variable {α : Type} {codec : Codec α}

theorem decode_of_not_intact (codec : Codec α) (h : ¬ reply.Intact) :
    ∃ failure, reply.decode codec = .error failure ∧ failure.kind = .internal ∧
      failure.status.code = 500 := by
  rw [← checksumFault?_eq_none_iff, ← ne_eq, Option.ne_none_iff_exists'] at h
  obtain ⟨failure, fault⟩ := h
  refine ⟨failure, ?_, isInternal_of_checksumFault? fault⟩
  rw [Reply.decode, fault]

theorem decode_of_not_isServed (intact : reply.Intact) (h : ¬ reply.IsServed) :
    reply.decode codec = .error reply.failure := by
  rw [Reply.decode, checksumFault?_eq_none_iff.2 intact]
  exact if_neg (mt isSuccess_iff.1 h)

theorem decode_of_isServed (intact : reply.Intact) (h : reply.IsServed) :
    reply.decode codec = (codec.read (.ofBytes reply.body)).mapError unreadable := by
  rw [Reply.decode, checksumFault?_eq_none_iff.2 intact]
  simp only [isSuccess_iff.2 h, if_true]
  cases codec.read (.ofBytes reply.body) <;> rfl

/-- A reply that is a failed condition passes for intact, and its body says so. -/
theorem isConditionFailed_decode_iff :
    (∃ failure, reply.decode codec = .error failure ∧ failure.isConditionFailed = true) ↔
      reply.Intact ∧ ¬ reply.IsServed ∧ reply.Reports .conditionFailed := by
  have kind (failure : Failure) :
      failure.isConditionFailed = true ↔ failure.kind = .conditionFailed := beq_iff_eq
  have reported : reply.failure.kind = .conditionFailed ↔ reply.Reports .conditionFailed := by
    rw [kind_failure_iff]
    simp
  constructor
  · rintro ⟨failure, failed, condition⟩
    rw [kind] at condition
    by_cases intact : reply.Intact
    · by_cases served : reply.IsServed
      · rw [decode_of_isServed intact served] at failed
        cases read : codec.read (.ofBytes reply.body) with
        | ok a => rw [read] at failed; cases failed
        | error fault => rw [read] at failed; cases failed; cases condition
      · rw [decode_of_not_isServed intact served] at failed
        cases failed
        exact ⟨intact, served, reported.1 condition⟩
    · obtain ⟨other, same, internal, -⟩ := decode_of_not_intact codec intact
      rw [same] at failed
      cases failed
      rw [internal] at condition
      cases condition
  · rintro ⟨intact, unserved, reports⟩
    exact ⟨_, decode_of_not_isServed intact unserved, (kind _).2 (reported.2 reports)⟩

/--
What a reply answers, whatever the codec of its body.

* A reply whose first checksum spells no number of 32 bits, or another one than that of the body, is
  an internal failure with status 500.
* Else a reply with a status outside 200 to 299 is a failure with this status, of the kind that the
  body names, and internal if it names none.
* Else the reply answers what its body reads as, or is an unreadable body.

So only the last of these answers with a value, and a reply is a failed condition exactly when the
second of these names one.
-/
theorem decode_classifies (codec : Codec α) (reply : Reply) :
    (¬ reply.Intact → ∃ failure, reply.decode codec = .error failure ∧
        failure.kind = .internal ∧ failure.status.code = 500) ∧
      (reply.Intact → ¬ reply.IsServed → ∃ failure, reply.decode codec = .error failure ∧
        failure.status = reply.status ∧ ∀ kind, failure.kind = kind ↔
          reply.Reports kind ∨ kind = .internal ∧ ∀ other, ¬ reply.Reports other) ∧
      (reply.Intact → reply.IsServed →
        (∀ a, codec.read (.ofBytes reply.body) = .ok a → reply.decode codec = .ok a) ∧
          ∀ fault, codec.read (.ofBytes reply.body) = .error fault →
            ∃ failure, reply.decode codec = .error failure ∧ failure.kind = .unreadableBody) ∧
      (∀ a, reply.decode codec = .ok a → reply.Intact ∧ reply.IsServed) ∧
      ((∃ failure, reply.decode codec = .error failure ∧ failure.isConditionFailed = true) ↔
        reply.Intact ∧ ¬ reply.IsServed ∧ reply.Reports .conditionFailed) := by
  refine ⟨decode_of_not_intact codec, fun intact unserved => ?_, fun intact served => ?_,
    fun a ok => ?_, isConditionFailed_decode_iff⟩
  · exact ⟨_, decode_of_not_isServed intact unserved, status_failure reply,
      fun _ => kind_failure_iff⟩
  · rw [decode_of_isServed intact served]
    refine ⟨fun a read => by rw [read]; rfl, fun fault read => ?_⟩
    rw [read]
    exact ⟨_, rfl, rfl⟩
  · by_contra other
    obtain ⟨failure, failed⟩ : ∃ failure, reply.decode codec = .error failure := by
      by_cases intact : reply.Intact
      · exact ⟨_, decode_of_not_isServed intact fun served => other ⟨intact, served⟩⟩
      · obtain ⟨failure, failed, -⟩ := decode_of_not_intact codec intact
        exact ⟨failure, failed⟩
    rw [failed] at ok
    cases ok

/-- A reply to an update whose condition did not hold, with the checksum of its body. -/
def lostRace : Reply where
  status := .badRequest
  headers :=
    [("date", []), ("X-Amz-Crc32", Text.utf8 "+03873092158".toList), ("x-amz-crc32", [])]
  body := Text.utf8 "\x7b\"__type\":\"a#b#ConditionalCheckFailedException\"\x7d".toList

theorem decode_classifies_of_lostRace :
    lostRace.Intact ∧ ¬ lostRace.IsServed ∧ lostRace.Reports .conditionFailed ∧
      ∃ failure, lostRace.decode GetResponse.record.codec = .error failure ∧
        failure.isConditionFailed = true := by
  have intact : lostRace.Intact := checksumFault?_eq_none_iff.1 (by decide +kernel)
  have unserved : ¬ lostRace.IsServed := fun served => absurd served.2 (by decide)
  have reports : lostRace.Reports .conditionFailed :=
    ⟨⟨some "a#b#ConditionalCheckFailedException", none⟩, _, by decide +kernel, rfl, by decide,
      .inr ⟨"a#b".toList, by decide⟩⟩
  obtain ⟨-, -, -, -, condition⟩ := decode_classifies GetResponse.record.codec lostRace
  exact ⟨intact, unserved, reports, condition.2 ⟨intact, unserved, reports⟩⟩

end Http

end ItemStore
