import RedemptionRelay.Attestation
import RedemptionRelay.Proofs.Json.Structure
import RedemptionRelay.Proofs.Text.Base64

/-! # What a response of the lookup service tells

The status and the body of a response decide its outcome. The body is told here
by what it lists: a message may be missing at each of three levels, and the
first one that is there is the one that counts, decodable or not.
-/

namespace RedemptionRelay

namespace Attestation

open Json (Tree)
open Json.Tree (IsStructure MayHold HoldsOr SpellsText exists_isStructure_iff)

variable {body : String} {messages : List (Option String)}

/-! ## Documents -/

def SpellsMessage (tree : Tree) (raw : Option String) : Prop :=
  ∃ field, IsStructure ["raw"] 1 field tree ∧ MayHold SpellsText (field "raw") raw

/-- An operation may lack the message or all that it would stand in. -/
def SpellsOperation (tree : Tree) (raw : Option String) : Prop :=
  ∃ field, IsStructure ["vaa"] 1 field tree ∧
    ∃ vaa, MayHold SpellsMessage (field "vaa") vaa ∧ vaa.join = raw

def SpellsOperations (tree : Tree) (messages : List (Option String)) : Prop :=
  ∃ items, tree = .array items ∧ List.Forall₂ SpellsOperation items messages

def Lists (body : String) (messages : List (Option String)) : Prop :=
  ∃ tree, Tree.ofText? body = some tree ∧
    ∃ field, IsStructure ["operations"] 0 field tree ∧
      HoldsOr [] SpellsOperations (field "operations") messages

section

variable (tree : Tree)

theorem rawOfJson?_eq_some_iff (raw : Option String) :
    rawOfJson? tree = some raw ↔ SpellsMessage tree raw := by
  unfold SpellsMessage
  rw [exists_isStructure_iff (by decide) fun _ _ same holds => same "raw" (by simp) ▸ holds]
  simp only [rawOfJson?, Option.bind_eq_bind, Option.bind_eq_some_iff,
    Tree.Fields.optional?_eq_some_iff Tree.text?_eq_some_iff rfl]

theorem operationOfJson?_eq_some_iff (raw : Option String) :
    operationOfJson? tree = some raw ↔ SpellsOperation tree raw := by
  unfold SpellsOperation
  rw [exists_isStructure_iff (by decide) fun _ _ same holds => same "vaa" (by simp) ▸ holds]
  simp only [operationOfJson?, Option.bind_eq_bind, Option.bind_eq_some_iff, Option.pure_def,
    Tree.Fields.optional?_eq_some_iff rawOfJson?_eq_some_iff rfl, Option.some.injEq]

end

theorem messages_eq_some_iff :
    (Tree.ofText? body).bind messagesOfJson? = some messages ↔ Lists body messages := by
  rw [Option.bind_eq_some_iff]
  refine exists_congr fun tree => and_congr_right fun _ => ?_
  rw [exists_isStructure_iff (by decide) fun _ _ same holds => same "operations" (by simp) ▸ holds]
  have listed (tree : Tree) (messages : List (Option String)) :
      tree.list? operationOfJson? = some messages ↔ SpellsOperations tree messages :=
    Tree.list?_eq_some_iff operationOfJson?_eq_some_iff
  simp only [messagesOfJson?, Option.bind_eq_bind, Option.bind_eq_some_iff,
    Tree.Fields.defaulted?_eq_some_iff listed]

theorem messages_eq_none_iff :
    (Tree.ofText? body).bind messagesOfJson? = none ↔ ¬ ∃ messages, Lists body messages := by
  simp only [← messages_eq_some_iff, ← Option.isSome_iff_exists, Option.not_isSome_iff_eq_none]

theorem Lists.unique {others : List (Option String)} (lists : Lists body messages)
    (listsOthers : Lists body others) : messages = others := by
  rw [← messages_eq_some_iff] at lists listsOthers
  exact Option.some.inj (lists.symm.trans listsOthers)

/-! ## The first message -/

def IsUnsigned (message : Option String) : Prop :=
  message = none ∨ message = some ""

def IsFirst (raw : String) (messages : List (Option String)) : Prop :=
  ∃ before after, messages = before ++ some raw :: after ∧ raw ≠ "" ∧
    ∀ message ∈ before, IsUnsigned message

section

variable {message : Option String} {raw : String}

theorem firstMessage?_cons_of_isUnsigned (unsigned : IsUnsigned message) :
    firstMessage? (message :: messages) = firstMessage? messages := by
  rcases unsigned with rfl | rfl <;> rfl

theorem firstMessage?_cons_of_ne_empty (filled : raw ≠ "") :
    firstMessage? (some raw :: messages) = some raw := by
  have notEmpty : (!raw.isEmpty) = true := by simpa [String.isEmpty_iff] using filled
  exact List.find?_cons_of_pos notEmpty

theorem isUnsigned_or (message : Option String) :
    IsUnsigned message ∨ ∃ raw, message = some raw ∧ raw ≠ "" := by
  cases message with
  | none => exact .inl (.inl rfl)
  | some raw =>
      by_cases empty : raw = ""
      · exact .inl (.inr (congrArg some empty))
      · exact .inr ⟨raw, rfl, empty⟩

theorem firstMessage?_of_isFirst (first : IsFirst raw messages) :
    firstMessage? messages = some raw := by
  rcases first with ⟨before, after, rfl, filled, unsigned⟩
  induction before with
  | nil => exact firstMessage?_cons_of_ne_empty filled
  | cons message before induction =>
      rw [List.forall_mem_cons] at unsigned
      rw [List.cons_append, firstMessage?_cons_of_isUnsigned unsigned.1]
      exact induction unsigned.2

theorem firstMessage?_of_all_isUnsigned (unsigned : ∀ message ∈ messages, IsUnsigned message) :
    firstMessage? messages = none := by
  induction messages with
  | nil => rfl
  | cons message messages induction =>
      rw [List.forall_mem_cons] at unsigned
      rw [firstMessage?_cons_of_isUnsigned unsigned.1]
      exact induction unsigned.2

theorem all_isUnsigned_or_exists_isFirst (messages : List (Option String)) :
    (∀ message ∈ messages, IsUnsigned message) ∨ ∃ raw, IsFirst raw messages := by
  induction messages with
  | nil => exact .inl nofun
  | cons message messages induction =>
      rcases isUnsigned_or message with unsigned | ⟨raw, rfl, filled⟩
      · rcases induction with all | ⟨raw, before, after, rfl, filled, all⟩
        · exact .inl (List.forall_mem_cons.mpr ⟨unsigned, all⟩)
        · exact .inr ⟨raw, message :: before, after, rfl, filled,
            List.forall_mem_cons.mpr ⟨unsigned, all⟩⟩
      · exact .inr ⟨raw, [], messages, rfl, filled, nofun⟩

theorem firstMessage?_eq_some_iff : firstMessage? messages = some raw ↔ IsFirst raw messages := by
  constructor
  · intro found
    rcases all_isUnsigned_or_exists_isFirst messages with unsigned | ⟨other, first⟩
    · rw [firstMessage?_of_all_isUnsigned unsigned] at found
      cases found
    · rw [firstMessage?_of_isFirst first] at found
      exact Option.some.inj found ▸ first
  · exact firstMessage?_of_isFirst

theorem firstMessage?_eq_none_iff :
    firstMessage? messages = none ↔ ∀ message ∈ messages, IsUnsigned message := by
  constructor
  · intro missing
    rcases all_isUnsigned_or_exists_isFirst messages with unsigned | ⟨raw, first⟩
    · exact unsigned
    · rw [firstMessage?_of_isFirst first] at missing
      cases missing
  · exact firstMessage?_of_all_isUnsigned

end

/-! ## Outcomes -/

def IsSuccess (status : Nat) : Prop :=
  200 ≤ status ∧ status < 300

def Awaits (body : String) : Prop :=
  ∃ messages, Lists body messages ∧ ∀ message ∈ messages, IsUnsigned message

def Offers (body raw : String) : Prop :=
  ∃ messages, Lists body messages ∧ IsFirst raw messages

/-- The text is the canonical one of the payload. -/
def IsTextOf (payload : Bytes) (raw : String) : Prop :=
  Bytes.ofText raw = Base64.encodeBytes payload

theorem isTextOf_iff {payload : Bytes} {raw : String} :
    IsTextOf payload raw ↔ Base64.decode raw = .ok payload :=
  Base64.decode_eq_ok_iff.symm

theorem IsTextOf.unique {payload found : Bytes} {raw : String} (isText : IsTextOf payload raw)
    (isTextOfFound : IsTextOf found raw) : payload = found :=
  Base64.encodeBytes_injective (isText.symm.trans isTextOfFound)

theorem IsTextOf.ne_nil {payload : Bytes} {raw : String} (isText : IsTextOf payload raw)
    (filled : raw ≠ "") : payload ≠ [] := by
  rintro rfl
  exact filled (Base64.decode_eq_ok_nil_iff.mp (isTextOf_iff.mp isText))

theorem Offers.unique {raw other : String} (offers : Offers body raw)
    (offersOther : Offers body other) : raw = other := by
  rcases offers with ⟨messages, lists, first⟩
  rcases offersOther with ⟨others, listsOthers, firstOther⟩
  cases lists.unique listsOthers
  rw [← firstMessage?_eq_some_iff] at first firstOther
  exact Option.some.inj (first.symm.trans firstOther)

theorem Offers.ne_empty {raw : String} (offers : Offers body raw) : raw ≠ "" := by
  rcases offers with ⟨messages, lists, before, after, isAt, filled, unsigned⟩
  exact filled

section

variable {complaint : String → String} {status : Nat}

theorem interpret_of_isSuccess (success : IsSuccess status) :
    interpret complaint status body = interpretBody complaint body := by
  unfold IsSuccess at success
  rw [interpret, if_neg (by omega), if_neg (by omega), if_neg (by omega)]

theorem interpret_of_unexpected (notRefused : status ≠ 400) (notMissing : status ≠ 404)
    (failure : ¬ IsSuccess status) :
    interpret complaint status body = .error (.unexpectedStatus status body) := by
  unfold IsSuccess at failure
  rw [interpret, if_neg notMissing, if_neg notRefused, if_pos (by omega)]

theorem interpretBody_of_unlisted (unlisted : ¬ ∃ messages, Lists body messages) :
    ∃ reason, interpretBody complaint body = .error (.parse reason) := by
  rw [interpretBody, messages_eq_none_iff.mpr unlisted]
  exact ⟨_, rfl⟩

theorem interpretBody_of_awaits (awaits : Awaits body) :
    interpretBody complaint body = .ok .notYetAvailable := by
  rcases awaits with ⟨messages, lists, unsigned⟩
  rw [interpretBody, messages_eq_some_iff.mpr lists]
  dsimp only
  rw [firstMessage?_eq_none_iff.mpr unsigned]

theorem interpretBody_of_offers {raw : String} (offers : Offers body raw) :
    interpretBody complaint body = decodeMessage raw := by
  rcases offers with ⟨messages, lists, first⟩
  rw [interpretBody, messages_eq_some_iff.mpr lists]
  dsimp only
  rw [firstMessage?_eq_some_iff.mpr first]

theorem decodeMessage_of_isTextOf {payload : Bytes} {raw : String} (isText : IsTextOf payload raw) :
    decodeMessage raw = .ok (.available payload) := by
  rw [decodeMessage, isTextOf_iff.mp isText]

theorem decodeMessage_of_not_isTextOf {raw : String} (noText : ∀ payload, ¬ IsTextOf payload raw) :
    ∃ reason, decodeMessage raw = .error (.parse reason) := by
  unfold decodeMessage
  cases decoded : Base64.decode raw with
  | ok payload => exact absurd (isTextOf_iff.mpr decoded) (noText payload)
  | error error => exact ⟨_, rfl⟩

theorem listed_cases (body : String) :
    (¬ ∃ messages, Lists body messages) ∨ Awaits body ∨ ∃ raw, Offers body raw := by
  by_cases listed : ∃ messages, Lists body messages
  · rcases listed with ⟨messages, lists⟩
    rcases all_isUnsigned_or_exists_isFirst messages with unsigned | ⟨raw, first⟩
    · exact .inr (.inl ⟨messages, lists, unsigned⟩)
    · exact .inr (.inr ⟨raw, messages, lists, first⟩)
  · exact .inl listed

/-- Each way in which a response comes to its result. -/
inductive Course (status : Nat) (body : String) : AttestationResult → Prop
  | refused (isStatus : status = 400) (reason : String) :
      Course status body (.ok (.permanentFailure reason))
  | missing (isStatus : status = 404) : Course status body (.ok .notYetAvailable)
  | unexpected (notRefused : status ≠ 400) (notMissing : status ≠ 404)
      (failure : ¬ IsSuccess status) : Course status body (.error (.unexpectedStatus status body))
  | unlisted (success : IsSuccess status) (unlisted : ¬ ∃ messages, Lists body messages)
      (reason : String) : Course status body (.error (.parse reason))
  | awaited (success : IsSuccess status) (awaits : Awaits body) :
      Course status body (.ok .notYetAvailable)
  | available {payload : Bytes} {raw : String} (success : IsSuccess status)
      (offers : Offers body raw) (isText : IsTextOf payload raw) :
      Course status body (.ok (.available payload))
  | undecoded {raw : String} (success : IsSuccess status) (offers : Offers body raw)
      (noText : ∀ payload, ¬ IsTextOf payload raw) (reason : String) :
      Course status body (.error (.parse reason))

theorem course_interpretBody (success : IsSuccess status) :
    Course status body (interpretBody complaint body) := by
  rcases listed_cases body with unlisted | awaits | ⟨raw, offers⟩
  · rcases interpretBody_of_unlisted unlisted with ⟨reason, result⟩
    exact result ▸ .unlisted success unlisted reason
  · exact interpretBody_of_awaits awaits ▸ .awaited success awaits
  · rw [interpretBody_of_offers offers]
    by_cases isText : ∃ payload, IsTextOf payload raw
    · rcases isText with ⟨payload, isText⟩
      exact decodeMessage_of_isTextOf isText ▸ .available success offers isText
    · have noText := not_exists.mp isText
      rcases decodeMessage_of_not_isTextOf noText with ⟨reason, result⟩
      exact result ▸ .undecoded success offers noText reason

theorem course_interpret (complaint : String → String) (status : Nat) (body : String) :
    Course status body (interpret complaint status body) := by
  by_cases missing : status = 404
  · rw [interpret, if_pos missing]
    exact .missing missing
  by_cases refused : status = 400
  · rw [interpret, if_neg missing, if_pos refused]
    exact .refused refused _
  by_cases success : IsSuccess status
  · rw [interpret_of_isSuccess success]
    exact course_interpretBody success
  · rw [interpret_of_unexpected refused missing success]
    exact .unexpected refused missing success

theorem permanentFailure_iff :
    (∃ reason, interpret complaint status body = .ok (.permanentFailure reason)) ↔
      status = 400 := by
  constructor
  · rintro ⟨reason, result⟩
    have course := course_interpret complaint status body
    rw [result] at course
    cases course with
    | refused isStatus => exact isStatus
  · rintro rfl
    exact ⟨_, rfl⟩

theorem notYetAvailable_iff :
    interpret complaint status body = .ok .notYetAvailable ↔
      status = 404 ∨ IsSuccess status ∧ Awaits body := by
  constructor
  · intro result
    have course := course_interpret complaint status body
    rw [result] at course
    cases course with
    | missing isStatus => exact .inl isStatus
    | awaited success awaits => exact .inr ⟨success, awaits⟩
  · rintro (rfl | ⟨success, awaits⟩)
    · rfl
    · rw [interpret_of_isSuccess success, interpretBody_of_awaits awaits]

theorem available_iff {payload : Bytes} :
    interpret complaint status body = .ok (.available payload) ↔
      IsSuccess status ∧ ∃ raw, Offers body raw ∧ IsTextOf payload raw := by
  constructor
  · intro result
    have course := course_interpret complaint status body
    rw [result] at course
    cases course with
    | available success offers isText => exact ⟨success, _, offers, isText⟩
  · rintro ⟨success, raw, offers, isText⟩
    rw [interpret_of_isSuccess success, interpretBody_of_offers offers,
      decodeMessage_of_isTextOf isText]

theorem unexpectedStatus_iff :
    interpret complaint status body = .error (.unexpectedStatus status body) ↔
      status ≠ 400 ∧ status ≠ 404 ∧ ¬ IsSuccess status := by
  constructor
  · intro result
    have course := course_interpret complaint status body
    rw [result] at course
    cases course with
    | unexpected notRefused notMissing failure => exact ⟨notRefused, notMissing, failure⟩
  · rintro ⟨notRefused, notMissing, failure⟩
    exact interpret_of_unexpected notRefused notMissing failure

theorem parse_iff :
    (∃ reason, interpret complaint status body = .error (.parse reason)) ↔
      IsSuccess status ∧ ((¬ ∃ messages, Lists body messages) ∨
        ∃ raw, Offers body raw ∧ ∀ payload, ¬ IsTextOf payload raw) := by
  constructor
  · rintro ⟨reason, result⟩
    have course := course_interpret complaint status body
    rw [result] at course
    cases course with
    | unlisted success unlisted => exact ⟨success, .inl unlisted⟩
    | undecoded success offers noText => exact ⟨success, .inr ⟨_, offers, noText⟩⟩
  · rintro ⟨success, unlisted | ⟨raw, offers, noText⟩⟩
    · rw [interpret_of_isSuccess success]
      exact interpretBody_of_unlisted unlisted
    · rw [interpret_of_isSuccess success, interpretBody_of_offers offers]
      exact decodeMessage_of_not_isTextOf noText

end

/-- What becomes of a response. Failures that are errors are worth another try,
those that are outcomes are not. -/
structure Classified (status : Nat) (body : String) (result : AttestationResult) : Prop where
  refused : (∃ reason, result = .ok (.permanentFailure reason)) ↔ status = 400
  awaited : result = .ok .notYetAvailable ↔ status = 404 ∨ IsSuccess status ∧ Awaits body
  available (payload : Bytes) : result = .ok (.available payload) ↔
    IsSuccess status ∧ ∃ raw, Offers body raw ∧ IsTextOf payload raw
  unexpected : result = .error (.unexpectedStatus status body) ↔
    status ≠ 400 ∧ status ≠ 404 ∧ ¬ IsSuccess status
  unread : (∃ reason, result = .error (.parse reason)) ↔
    IsSuccess status ∧ ((¬ ∃ messages, Lists body messages) ∨
      ∃ raw, Offers body raw ∧ ∀ payload, ¬ IsTextOf payload raw)
  filled (raw : String) (payload : Bytes) :
    Offers body raw → IsTextOf payload raw → payload ≠ []
  determined (raw other : String) (payload found : Bytes) :
    Offers body raw → Offers body other → IsTextOf payload raw → IsTextOf found other →
      payload = found

/-- The result of a response is what its status and its body make it. -/
theorem classified_interpret (complaint : String → String) (status : Nat) (body : String) :
    Classified status body (interpret complaint status body) where
  refused := permanentFailure_iff
  awaited := notYetAvailable_iff
  available _ := available_iff
  unexpected := unexpectedStatus_iff
  unread := parse_iff
  filled _ _ offers isText := isText.ne_nil offers.ne_empty
  determined raw other payload found offers offersOther isText isTextOfFound := by
    cases offers.unique offersOther
    exact isText.unique isTextOfFound

/-- A message that stands for nothing is not passed over for a later one. -/
example : interpret id 200 "[[[[\"3q1=\"]], [[\"3q0=\"]]]]" =
    .error (.parse "invalid VAA encoding: Invalid last symbol 49, offset 2.") := by
  decide +kernel

end Attestation

end RedemptionRelay
