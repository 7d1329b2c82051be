import RedemptionRelay.Proofs.Redemption.Documents
import RedemptionRelay.Proofs.Text.Hex

/-! # The document of a record is stable

A record whose numbers fit their widths is read back from its document as it
was. The reader yields no other records: whatever text it accepts, with
ignored members, a field order of its own or marks before the payload, stands
for a record in range. From there on its document does not change any more.
-/

namespace RedemptionRelay

namespace Json

/-! ## Fields that may be absent -/

theorem optional?_cons {α : Type} (fields : Tree.Fields) (name other : String) (tree : Tree)
    (read : Tree → Option α) :
    Tree.Fields.optional? ((other, tree) :: fields) name read =
      if name = other then tree.optional? read else fields.optional? name read := by
  unfold Tree.Fields.optional?
  rw [List.lookup_cons]
  by_cases same : name = other
  · simp [same]
  · rw [beq_false_of_ne same, if_neg same]

theorem lookup_place {members : List (String × Value)} (distinct : (members.map (·.1)).Nodup)
    (place : Nat) {name : String} {value : Value} (there : members[place]? = some (name, value)) :
    (members.map fun member => (member.1, member.2.tree)).lookup name = some value.tree := by
  induction members generalizing place with
  | nil => cases there
  | cons member members induction =>
      rw [List.map_cons, List.nodup_cons] at distinct
      rw [List.map_cons, List.lookup_cons]
      cases place with
      | zero =>
          cases there
          rw [beq_self_eq_true]
      | succ place =>
          have among : name ∈ members.map (·.1) :=
            List.mem_map.mpr ⟨_, List.mem_of_getElem? there, rfl⟩
          have different : name ≠ member.1 := fun same => distinct.1 (same ▸ among)
          rw [beq_false_of_ne different]
          exact induction distinct.2 place there

theorem required?_place {α : Type} {members : List (String × Value)}
    (distinct : (members.map (·.1)).Nodup) (place : Nat) {name : String} {value : Value}
    (there : members[place]? = some (name, value)) {read : Tree → Option α} {content : α}
    (reads : read value.tree = some content) :
    Tree.Fields.required? (members.map fun member => (member.1, member.2.tree)) name read =
      some content := by
  rw [Tree.Fields.required?, lookup_place distinct place there, Option.bind_some, reads]

theorem optional?_place {α : Type} {members : List (String × Value)}
    (distinct : (members.map (·.1)).Nodup) (place : Nat) {name : String} {value : Value}
    (there : members[place]? = some (name, value)) {read : Tree → Option α} {content : Option α}
    (reads : value.tree.optional? read = some content) :
    Tree.Fields.optional? (members.map fun member => (member.1, member.2.tree)) name read =
      some content := by
  rw [Tree.Fields.optional?, lookup_place distinct place there]
  exact reads

theorem optional?_ofOption {α : Type} {ofSome : α → Value} {read : Tree → Option α}
    (refuses : read .null = none) {content : Option α}
    (reads : ∀ value ∈ content, read (ofSome value).tree = some value) :
    (Value.ofOption ofSome content).tree.optional? read = some content := by
  cases content with
  | none => rfl
  | some value =>
      have here : read (ofSome value).tree = some value := reads value rfl
      show (ofSome value).tree.optional? read = _
      cases spelled : (ofSome value).tree with
      | null =>
          rw [spelled, refuses] at here
          cases here
      | bool | number | text | array | object =>
          rw [spelled] at here
          simp [Tree.optional?, here]

theorem optional?_natural {bound : Nat} {content : Option Nat}
    (fits : ∀ value ∈ content, value < bound) :
    (Value.ofOption .ofNat content).tree.optional? (Tree.natural? bound) = some content :=
  optional?_ofOption rfl fun value there => natural?_ofNat (fits value there)

theorem optional?_text (content : Option String) :
    (Value.ofText? content).tree.optional? Tree.text? = some content :=
  optional?_ofOption rfl fun value _ => text?_text value

theorem Value.spelled_text (content : String) : (Value.text content).Spelled := by
  rw [Value.Spelled]
  trivial

theorem spelled_ofOption {α : Type} {ofSome : α → Value}
    (spelled : ∀ value, (ofSome value).Spelled) (content : Option α) :
    (Value.ofOption ofSome content).Spelled := by
  cases content with
  | none => trivial
  | some value => exact spelled value

/-! ## What a reader yields -/

def Ensures {α : Type} (read : Tree → Option α) (property : α → Prop) : Prop :=
  ∀ tree value, read tree = some value → property value

section Ensures

variable {α : Type} {read : Tree → Option α} {property : α → Prop}

theorem ensures_natural? (bound : Nat) : Ensures (Tree.natural? bound) (· < bound) := by
  intro tree value reads
  unfold Tree.natural? at reads
  split at reads
  · next literal =>
      split at reads
      · split at reads
        · next fits =>
            cases reads
            exact fits
        · cases reads
      · cases reads
  · cases reads

theorem Ensures.optional? (ensures : Ensures read property) :
    Ensures (Tree.optional? read) fun content => ∀ value ∈ content, property value := by
  intro tree content reads value there
  unfold Tree.optional? at reads
  split at reads
  · cases reads
    cases there
  · rcases Option.map_eq_some_iff.mp reads with ⟨found, readsFound, rfl⟩
    cases there
    exact ensures tree value readsFound

theorem Ensures.list? (ensures : Ensures read property) :
    Ensures (Tree.list? read) fun content => ∀ value ∈ content, property value := by
  intro tree content reads
  cases tree with
  | array items =>
      rw [Tree.list?] at reads
      induction items generalizing content with
      | nil =>
          cases reads
          simp
      | cons item items induction =>
          rw [List.mapM_cons] at reads
          rcases Option.bind_eq_some_iff.mp reads with ⟨first, readsFirst, reads⟩
          rcases Option.bind_eq_some_iff.mp reads with ⟨others, readsOthers, made⟩
          cases made
          exact List.forall_mem_cons.mpr
            ⟨ensures item first readsFirst, induction others readsOthers⟩
  | null | bool | number | text | object => cases reads

variable {fields : Tree.Fields} {name : String}

theorem Ensures.required? (ensures : Ensures read property) {value : α}
    (reads : fields.required? name read = some value) : property value := by
  rcases Option.bind_eq_some_iff.mp reads with ⟨tree, -, reads⟩
  exact ensures tree value reads

theorem Ensures.absentOr (ensures : Ensures read property) {content : Option α}
    (reads : fields.optional? name read = some content) : ∀ value ∈ content, property value := by
  unfold Tree.Fields.optional? at reads
  split at reads
  · cases reads
    simp
  · next tree _ => exact ensures.optional? tree content reads

end Ensures

end Json

open Json

/-! ## Written parts are read back -/

theorem Dates.ofJson?_tree {dates : Dates} (fits : dates.InRange) :
    Dates.ofJson? dates.json.tree = some dates := by
  rcases dates with ⟨createdAt, fetchedAt, submittedAt, completedAt, lastActivityAt⟩
  rcases fits with ⟨created, fetched, submitted, completed, active⟩
  rw [Dates.ofJson?, Dates.json, fields?_object (by simp) (by simp)]
  simp only [List.map_cons, List.map_nil, required?_cons, optional?_cons, String.reduceEq, if_true,
    if_false, Option.bind_eq_bind, Option.bind_some, Option.pure_def, natural?_ofNat created,
    optional?_natural fetched, optional?_natural submitted, optional?_natural completed,
    natural?_ofNat active]

theorem Status.ofJson?_tree (status : Status) :
    Status.ofJson? (Value.text status.text).tree = some status :=
  Status.ofText?_text status

theorem AttestationState.ofJson?_tree (state : AttestationState) :
    AttestationState.ofJson? (Value.text state.text).tree = some state :=
  AttestationState.ofText?_text state

theorem optional?_payload (payload : Option Bytes) :
    (Value.ofText? (payload.map Hex.encodeMarked)).tree.optional? payloadOfJson? =
      some payload := by
  have asBytes : Value.ofText? (payload.map Hex.encodeMarked) =
      Value.ofOption (fun bytes => .text (Hex.encodeMarked bytes)) payload := by
    cases payload <;> rfl
  rw [asBytes]
  apply optional?_ofOption rfl
  intro bytes _
  simp [payloadOfJson?, text?_text, Hex.decodeMarked_encodeMarked, Except.toOption]

theorem Dates.spelled_json (dates : Dates) : dates.json.Spelled := by
  have time (content : Option Nat) : (Value.ofOption .ofNat content).Spelled :=
    spelled_ofOption Value.spelled_ofNat content
  simp [Dates.json, Value.Spelled, Value.MembersSpelled, Value.spelled_ofNat, time]

/-! ## Read parts are in range -/

theorem MainUtxo.inRange_of_ofJson? : Ensures MainUtxo.ofJson? MainUtxo.InRange := by
  intro tree utxo reads
  rcases Option.bind_eq_some_iff.mp reads with ⟨fields, -, reads⟩
  rcases Option.bind_eq_some_iff.mp reads with ⟨txHash, -, reads⟩
  rcases Option.bind_eq_some_iff.mp reads with ⟨outputIndex, readsIndex, reads⟩
  rcases Option.bind_eq_some_iff.mp reads with ⟨outputValue, readsValue, made⟩
  cases made
  exact ⟨(ensures_natural? _).required? readsIndex, (ensures_natural? _).required? readsValue⟩

theorem Event.inRange_of_ofJson? : Ensures Event.ofJson? Event.InRange := by
  intro tree event reads
  rcases Option.bind_eq_some_iff.mp reads with ⟨fields, -, reads⟩
  rcases Option.bind_eq_some_iff.mp reads with ⟨walletPubKeyHash, -, reads⟩
  rcases Option.bind_eq_some_iff.mp reads with ⟨mainUtxo, readsUtxo, reads⟩
  rcases Option.bind_eq_some_iff.mp reads with ⟨redeemerOutputScript, -, reads⟩
  rcases Option.bind_eq_some_iff.mp reads with ⟨amount, readsAmount, reads⟩
  rcases Option.bind_eq_some_iff.mp reads with ⟨sourceTxHash, -, made⟩
  cases made
  exact ⟨MainUtxo.inRange_of_ofJson?.required? readsUtxo,
    (ensures_natural? _).required? readsAmount⟩

theorem Dates.inRange_of_ofJson? : Ensures Dates.ofJson? Dates.InRange := by
  intro tree dates reads
  rcases Option.bind_eq_some_iff.mp reads with ⟨fields, -, reads⟩
  rcases Option.bind_eq_some_iff.mp reads with ⟨createdAt, readsCreated, reads⟩
  rcases Option.bind_eq_some_iff.mp reads with ⟨fetchedAt, readsFetched, reads⟩
  rcases Option.bind_eq_some_iff.mp reads with ⟨submittedAt, readsSubmitted, reads⟩
  rcases Option.bind_eq_some_iff.mp reads with ⟨completedAt, readsCompleted, reads⟩
  rcases Option.bind_eq_some_iff.mp reads with ⟨lastActivityAt, readsActive, made⟩
  cases made
  have time : Ensures (Tree.natural? Width.bound64) (· < Width.bound64) := ensures_natural? _
  exact ⟨time.required? readsCreated, time.absentOr readsFetched, time.absentOr readsSubmitted,
    time.absentOr readsCompleted, time.required? readsActive⟩

theorem LogEntry.time_lt_of_ofJson? :
    Ensures LogEntry.ofJson? fun entry => entry.time < Width.bound64 := by
  intro tree entry reads
  rcases Option.bind_eq_some_iff.mp reads with ⟨fields, -, reads⟩
  rcases Option.bind_eq_some_iff.mp reads with ⟨time, readsTime, reads⟩
  rcases Option.bind_eq_some_iff.mp reads with ⟨message, -, made⟩
  cases made
  exact (ensures_natural? _).required? readsTime

namespace Redemption

/-! ## Records -/

theorem ofJson?_tree {record : Redemption} (fits : record.InRange) :
    ofJson? record.json.tree = some record := by
  rcases fits with ⟨event, retries, lease, version, dates, logs⟩
  obtain ⟨members, listed⟩ : ∃ members, record.json = .object members := ⟨_, rfl⟩
  have distinct : (members.map (·.1)).Nodup := by
    cases listed
    simp
  rw [listed]
  -- Each field stands in its place and is read back there, whatever the rest does with it.
  refine Option.bind_eq_some_iff.mpr
    ⟨_, fields?_object (by cases listed; simp) distinct 13, ?_⟩
  cases listed
  refine Option.bind_eq_some_iff.mpr ⟨_, required?_place distinct 0 rfl (text?_text _), ?_⟩
  refine Option.bind_eq_some_iff.mpr ⟨_, required?_place distinct 1 rfl (text?_text _), ?_⟩
  refine Option.bind_eq_some_iff.mpr ⟨_, required?_place distinct 2 rfl (Event.ofJson?_tree event), ?_⟩
  refine Option.bind_eq_some_iff.mpr ⟨_, required?_place distinct 3 rfl (optional?_payload _), ?_⟩
  refine Option.bind_eq_some_iff.mpr ⟨_, required?_place distinct 4 rfl (AttestationState.ofJson?_tree _), ?_⟩
  refine Option.bind_eq_some_iff.mpr ⟨_, optional?_place distinct 5 rfl (optional?_text _), ?_⟩
  refine Option.bind_eq_some_iff.mpr ⟨_, required?_place distinct 6 rfl (Status.ofJson?_tree _), ?_⟩
  refine Option.bind_eq_some_iff.mpr ⟨_, optional?_place distinct 7 rfl (optional?_text _), ?_⟩
  refine Option.bind_eq_some_iff.mpr ⟨_, required?_place distinct 8 rfl (natural?_ofNat retries), ?_⟩
  refine Option.bind_eq_some_iff.mpr ⟨_, optional?_place distinct 9 rfl (optional?_natural lease), ?_⟩
  refine Option.bind_eq_some_iff.mpr ⟨_, required?_place distinct 10 rfl (natural?_ofNat version), ?_⟩
  refine Option.bind_eq_some_iff.mpr ⟨_, required?_place distinct 11 rfl (Dates.ofJson?_tree dates), ?_⟩
  refine Option.bind_eq_some_iff.mpr ⟨_, required?_place distinct 12 rfl (logsOfJson?_tree logs), ?_⟩
  rfl

theorem spelled_json (record : Redemption) : record.json.Spelled := by
  have text (content : Option String) : (Value.ofOption .text content).Spelled :=
    spelled_ofOption Value.spelled_text content
  have time (content : Option Nat) : (Value.ofOption .ofNat content).Spelled :=
    spelled_ofOption Value.spelled_ofNat content
  simp [json, Value.ofText?, Value.Spelled, Value.MembersSpelled, Value.spelled_ofNat,
    record.event.spelled_json, record.dates.spelled_json, spelled_logsJson, text, time]

theorem read?_write {record : Redemption} (fits : record.InRange) :
    read? record.write = some record := by
  rw [read?, write, Tree.ofText?_write record.spelled_json, Option.bind_some, ofJson?_tree fits]

theorem inRange_of_ofJson? : Ensures ofJson? InRange := by
  intro tree record reads
  rcases Option.bind_eq_some_iff.mp reads with ⟨fields, -, reads⟩
  rcases Option.bind_eq_some_iff.mp reads with ⟨id, -, reads⟩
  rcases Option.bind_eq_some_iff.mp reads with ⟨chain, -, reads⟩
  rcases Option.bind_eq_some_iff.mp reads with ⟨event, readsEvent, reads⟩
  rcases Option.bind_eq_some_iff.mp reads with ⟨payload, -, reads⟩
  rcases Option.bind_eq_some_iff.mp reads with ⟨attestation, -, reads⟩
  rcases Option.bind_eq_some_iff.mp reads with ⟨settlement, -, reads⟩
  rcases Option.bind_eq_some_iff.mp reads with ⟨status, -, reads⟩
  rcases Option.bind_eq_some_iff.mp reads with ⟨error, -, reads⟩
  rcases Option.bind_eq_some_iff.mp reads with ⟨retryCount, readsRetries, reads⟩
  rcases Option.bind_eq_some_iff.mp reads with ⟨leaseExpiresAt, readsLease, reads⟩
  rcases Option.bind_eq_some_iff.mp reads with ⟨version, readsVersion, reads⟩
  rcases Option.bind_eq_some_iff.mp reads with ⟨dates, readsDates, reads⟩
  rcases Option.bind_eq_some_iff.mp reads with ⟨logs, readsLogs, made⟩
  cases made
  exact ⟨Event.inRange_of_ofJson?.required? readsEvent, (ensures_natural? _).required? readsRetries,
    (ensures_natural? _).absentOr readsLease, (ensures_natural? _).required? readsVersion,
    Dates.inRange_of_ofJson?.required? readsDates,
    LogEntry.time_lt_of_ofJson?.list?.required? readsLogs⟩

theorem inRange_of_read? {text : String} {record : Redemption}
    (reads : read? text = some record) : record.InRange := by
  rcases Option.bind_eq_some_iff.mp reads with ⟨tree, -, reads⟩
  exact inRange_of_ofJson? tree record reads

/-- Every record is read back from its document, and every accepted text stands
for a record whose document is accepted, stands for the same record and is
written again letter by letter. -/
theorem documents_stable :
    (∀ record : Redemption, record.InRange → read? record.write = some record) ∧
    ∀ (text : String) (record : Redemption), read? text = some record →
      record.InRange ∧ read? record.write = some record ∧
        (read? record.write).map write = some record.write := by
  refine ⟨fun record fits => read?_write fits, ?_⟩
  intro text record reads
  have fits : record.InRange := inRange_of_read? reads
  refine ⟨fits, read?_write fits, ?_⟩
  rw [read?_write fits]
  rfl

namespace Sample

def fetched : Redemption :=
  { id := "0x1a"
    chain := "base"
    event := ⟨"0x01", ⟨"0x02", 3, 4⟩, "0x05", 1267650600228229401496703205376, "0x1a"⟩
    payload := some [0x0f, 0xa0]
    attestation := .fetched
    settlement := none
    status := .fetched
    error := some "\x01 \"a\" \\ 😀"
    retryCount := 0
    leaseExpiresAt := none
    version := 18446744073709551615
    dates := { createdAt := 1, attestationFetchedAt := some 2, lastActivityAt := 3 }
    logs := [⟨1, "b\n"⟩] }

/-- The fields in a row, a payload behind two marks and a pair of surrogates. -/
def text : String :=
  "[\"0x1a\", \"base\", [\"0x01\", [\"0x02\", 3, 4], \"0x05\", " ++
  "1267650600228229401496703205376, \"0x1a\"], \"0x0x0FA0\", \"fetched\", null, \"fetched\", " ++
  "\"\\u0001 \\\"a\\\" \\\\ \\ud83d\\ude00\", 0, null, 18446744073709551615, " ++
  "[1, 2, null, null, 3], [[1, \"b\\n\"]]]"

end Sample

theorem documents_stable_of_marked_twice :
    Sample.fetched.InRange ∧ read? Sample.fetched.write = some Sample.fetched ∧
      read? Sample.text = some Sample.fetched ∧
      (read? Sample.fetched.write).map write = some Sample.fetched.write := by
  have fits : Sample.fetched.InRange := by decide +kernel
  have reads : read? Sample.text = some Sample.fetched := by decide +kernel
  rcases documents_stable.2 Sample.text Sample.fetched reads with ⟨-, -, again⟩
  exact ⟨fits, documents_stable.1 Sample.fetched fits, reads, again⟩

end Redemption

end RedemptionRelay
