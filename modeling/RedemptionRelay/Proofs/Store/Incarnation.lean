import RedemptionRelay.Proofs.Store.Interchange

/-! # Versions across deletions

A record that is deleted can be created again, and its version starts anew. So
the version of what is stored tells how often it has been updated since it was
created last, and no more. A write that goes back to an earlier read lands
exactly if that count is the one that was read: always if nothing has been
updated or deleted since, and otherwise only on a record that was created in
between.
-/

namespace RedemptionRelay

/-! ## Stores under administration -/

/-- A lawful store in which records can be looked up and deleted, and in which a
record can be overwritten by one that was made for another request. -/
class AdministeredStore (σ : Type) [Store σ] [LawfulStore σ] : Prop where
  get?_of_sound : ∀ {store : σ} (id : String), LawfulStore.Sound store →
    Store.get? store id = .ok (LawfulStore.record? store id)
  update_of_version : ∀ {store : σ} {record stored : Redemption},
    LawfulStore.Sound store → { record with version := stored.version + 1 }.InRange →
      LawfulStore.record? store record.id = some stored →
        ∃ next kept, Store.update store record stored.version = .ok (stored.version + 1, next) ∧
          LawfulStore.Sound next ∧ kept.version = stored.version + 1 ∧
          ∀ id, LawfulStore.record? next id =
            if id = record.id then some kept else LawfulStore.record? store id
  delete_of_sound : ∀ {store : σ} (id : String), LawfulStore.Sound store →
    ∃ next, Store.delete store id = .ok ((LawfulStore.record? store id).isSome, next) ∧
      LawfulStore.Sound next ∧
      ∀ other, LawfulStore.record? next other =
        if other = id then none else LawfulStore.record? store other

namespace MemoryStore

theorem find?_remove (store : MemoryStore) (id other : String) :
    (store.remove id).find? other = if other = id then none else store.find? other := by
  unfold find? remove
  rw [List.find?_filter]
  by_cases same : other = id
  · subst same
    rw [if_pos rfl, List.find?_eq_none]
    simp
  · rw [if_neg same]
    congr 1
    funext record
    by_cases here : record.id = other
    · simp [here, same]
    · simp [here]

end MemoryStore

instance : AdministeredStore MemoryStore where
  get?_of_sound _ _ := rfl
  update_of_version {store record stored} _ _ found := by
    let next := { record with version := stored.version + 1 }
    have foundNext : MemoryStore.find? store next.id = some stored := found
    exact ⟨store.replace next, next, (MemoryStore.update_of_find? found _).trans (if_pos rfl),
      trivial, rfl, MemoryStore.find?_replace foundNext⟩
  delete_of_sound {store} id _ := ⟨store.remove id, rfl, trivial, store.find?_remove id⟩

/-- The record as an update writes it over another one of a table, where the
request and its time stay. -/
def Redemption.onto (record stored : Redemption) : Redemption :=
  { record with
    id := stored.id
    chain := stored.chain
    event := stored.event
    dates := { record.dates with createdAt := stored.dates.createdAt } }

theorem TableStore.update_onto (table : TableStore) {record stored : Redemption}
    (sameId : record.id = stored.id) (expected : Nat) :
    table.update record expected = table.update (record.onto stored) expected := by
  have same : (record.onto stored).id = record.id := sameId.symm
  unfold TableStore.update
  rw [same]
  rfl

instance : AdministeredStore TableStore where
  get?_of_sound := by
    rintro table id ⟨memory, mirrors⟩
    rw [show Store.get? table id = _ from mirrors.get? id]
    exact congrArg Except.ok (mirrors.record? id).symm
  update_of_version := by
    rintro table record stored ⟨memory, mirrors⟩ fits found
    have foundThere : memory.find? record.id = some stored :=
      (mirrors.record? record.id).symm.trans found
    have sameId : record.id = stored.id := (MemoryStore.id_of_find? foundThere).symm
    have storedFits := mirrors.inRange_of_find? foundThere
    have same : (record.onto stored).SameRequest stored := ⟨rfl, rfl, rfl, rfl⟩
    have ontoFits : { record.onto stored with version := stored.version + 1 }.InRange :=
      ⟨storedFits.1, fits.2.1, fits.2.2.1, fits.2.2.2.1,
        ⟨storedFits.2.2.2.2.1.1, fits.2.2.2.2.1.2⟩, fits.2.2.2.2.2⟩
    have here : LawfulStore.record? table (record.onto stored).id = some stored := sameId ▸ found
    have sound : LawfulStore.Sound table := ⟨memory, mirrors⟩
    rcases LawfulStore.update_of_current sound ontoFits here same with
      ⟨next, updates, sound, view⟩
    refine ⟨next, _, ?_, sound, rfl, sameId ▸ view⟩
    exact (table.update_onto sameId stored.version).trans updates
  delete_of_sound := by
    rintro table id ⟨memory, mirrors⟩
    rcases (mirrors.delete id).eq_ok with ⟨next, deletes, mirrors'⟩
    refine ⟨next, ?_, ⟨_, mirrors'⟩, fun other => ?_⟩
    · rw [show Store.delete table id = _ from deletes]
      exact congrArg (fun found : Option Redemption => Except.ok (found.isSome, next))
        (mirrors.record? id).symm
    · rw [show LawfulStore.record? next other = _ from mirrors'.record? other,
        MemoryStore.find?_remove]
      exact congrArg (fun found => if other = id then none else found) (mirrors.record? other).symm

/-! ## Versions under an identifier -/

/-- What an operation has done to the record under an identifier. -/
inductive StoreEffect where
  | nothing
  | created (version : Nat)
  | updated
  | deleted
deriving DecidableEq, Repr

namespace StoreEffect

/-- The version before an effect and after it; there is none without a record. -/
inductive Turns : StoreEffect → Option Nat → Option Nat → Prop where
  | nothing {version : Option Nat} : Turns .nothing version version
  | created {version : Nat} : Turns (.created version) none (some version)
  | updated {version : Nat} : Turns .updated (some version) (some (version + 1))
  | deleted {version : Nat} : Turns .deleted (some version) none

/-- One effect after the other. -/
inductive TurnsAll : List StoreEffect → Option Nat → Option Nat → Prop where
  | nil {version : Option Nat} : TurnsAll [] version version
  | cons {effect : StoreEffect} {later : List StoreEffect} {before between after : Option Nat}
      (turns : effect.Turns before between) (rest : TurnsAll later between after) :
      TurnsAll (effect :: later) before after

def Undisturbed (effects : List StoreEffect) : Prop :=
  .updated ∉ effects ∧ .deleted ∉ effects

/-- The record has been deleted, and the one that has been created last has come
to this version. -/
def Revived (effects : List StoreEffect) (version : Nat) : Prop :=
  ∃ earlier first later, effects = earlier ++ .created first :: later ∧
    .deleted ∈ earlier ∧ .deleted ∉ later ∧ first + later.count .updated = version

variable {effects earlier later : List StoreEffect} {before after : Option Nat}
  {version first : Nat}

theorem TurnsAll.split (turns : TurnsAll (earlier ++ later) before after) :
    ∃ between, TurnsAll earlier before between ∧ TurnsAll later between after := by
  induction earlier generalizing before with
  | nil => exact ⟨before, .nil, turns⟩
  | cons effect earlier induction =>
      cases turns with
      | cons here rest =>
          rcases induction rest with ⟨between, front, back⟩
          exact ⟨between, .cons here front, back⟩

theorem TurnsAll.of_kept (turns : TurnsAll effects (some version) after)
    (kept : .deleted ∉ effects) : after = some (version + effects.count .updated) := by
  induction effects generalizing version with
  | nil =>
      cases turns
      rfl
  | cons effect later induction =>
      rw [List.mem_cons, not_or] at kept
      cases turns with
      | cons here rest =>
          cases here with
          | nothing => simpa using induction rest kept.2
          | updated => simpa [Nat.add_assoc, Nat.add_comm 1] using induction rest kept.2
          | deleted => exact absurd rfl kept.1

theorem TurnsAll.revived (turns : TurnsAll effects before (some version))
    (gone : .deleted ∈ effects ∨ before = none) :
    ∃ earlier first later, effects = earlier ++ .created first :: later ∧
      (.deleted ∈ effects → .deleted ∈ earlier) ∧ .deleted ∉ later ∧
      first + later.count .updated = version := by
  induction effects generalizing before with
  | nil =>
      cases turns
      rcases gone with impossible | impossible <;> cases impossible
  | cons effect later induction =>
      cases turns with
      | cons here rest =>
          by_cases goneLater : .deleted ∈ later
          · rcases induction rest (.inl goneLater) with
              ⟨earlier, first, since, rfl, among, kept, count⟩
            exact ⟨effect :: earlier, first, since, rfl,
              fun _ => List.mem_cons_of_mem _ (among goneLater), kept, count⟩
          · cases here with
            | nothing =>
                have vacant : before = none :=
                  gone.resolve_left fun among => by simp [goneLater] at among
                rcases induction rest (.inr vacant) with ⟨earlier, first, since, rfl, -, kept, count⟩
                exact ⟨.nothing :: earlier, first, since, rfl,
                  fun among => by simp [goneLater] at among, kept, count⟩
            | @created first =>
                have count := Option.some.inj (rest.of_kept goneLater)
                exact ⟨[], first, later, rfl, fun among => by simp [goneLater] at among, goneLater,
                  count.symm⟩
            | updated => simp [goneLater] at gone
            | deleted =>
                rcases induction rest (.inr rfl) with ⟨earlier, first, since, rfl, -, kept, count⟩
                exact ⟨.deleted :: earlier, first, since, rfl, fun _ => List.mem_cons_self, kept,
                  count⟩

/-- The version is the same again if the record is undisturbed, or revived and
as often updated. -/
theorem TurnsAll.same_iff (turns : TurnsAll effects (some version) after) :
    after = some version ↔ Undisturbed effects ∨ Revived effects version := by
  constructor
  · rintro rfl
    by_cases gone : .deleted ∈ effects
    · rcases turns.revived (.inl gone) with ⟨earlier, first, later, same, among, kept, count⟩
      exact .inr ⟨earlier, first, later, same, among gone, kept, count⟩
    · have count := Option.some.inj (turns.of_kept gone)
      exact .inl ⟨List.count_eq_zero.mp (by omega), gone⟩
  · rintro (⟨notUpdated, kept⟩ | ⟨earlier, first, later, rfl, -, kept, count⟩)
    · rw [turns.of_kept kept, List.count_eq_zero.mpr notUpdated, Nat.add_zero]
    · rcases turns.split with ⟨between, -, back⟩
      cases back with
      | cons here rest =>
          cases here
          rw [rest.of_kept kept, count]

end StoreEffect

namespace StoreOperation

def Fits : StoreOperation → Prop
  | .create record => record.InRange
  | .update record expected => { record with version := expected + 1 }.InRange
  | _ => True

instance : (operation : StoreOperation) → Decidable operation.Fits
  | .create record => inferInstanceAs (Decidable record.InRange)
  | .update record expected =>
      inferInstanceAs (Decidable { record with version := expected + 1 }.InRange)
  | .get _ | .withStatus _ _ | .delete _ | .countByStatus _ => .isTrue trivial

def effect (id : String) :
    (operation : StoreOperation) → Except StoreError operation.Result → StoreEffect
  | .create record, .ok .created => if id = record.id then .created record.version else .nothing
  | .update record _, .ok _ => if id = record.id then .updated else .nothing
  | .delete other, .ok true => if id = other then .deleted else .nothing
  | _, _ => .nothing

section

variable {σ : Type} [Store σ]

def effects (id : String) (store : σ) : List StoreOperation → List StoreEffect
  | [] => []
  | operation :: later =>
      operation.effect id (operation.answer store) :: effects id (operation.after store) later

def Yields (store : σ) (record : Redemption) (operation : StoreOperation) : Prop :=
  match operation with
  | .get id => (StoreOperation.get id).answer store = .ok (some record)
  | .withStatus status chain =>
      ∃ records, (StoreOperation.withStatus status chain).answer store = .ok records ∧
        record ∈ records
  | _ => False

end

variable {σ : Type} [Store σ] [LawfulStore σ]

def version? (store : σ) (id : String) : Option Nat :=
  (LawfulStore.record? store id).map (·.version)

variable {store : σ} {record : Redemption} {operation : StoreOperation} {expected : Nat}

omit [LawfulStore σ] in
theorem answer_of_ok {next : σ} {result : operation.Result}
    (accepted : operation.attempt store = .ok (result, next)) :
    operation.answer store = .ok result := by
  rw [answer, accepted]
  rfl

omit [LawfulStore σ] in
theorem answer_of_error {error : StoreError} (refused : operation.attempt store = .error error) :
    operation.answer store = .error error := by
  rw [answer, refused]
  rfl

variable [AdministeredStore σ]

theorem attempt_get (sound : LawfulStore.Sound store) (id : String) :
    (StoreOperation.get id).attempt store = .ok (LawfulStore.record? store id, store) := by
  show (Store.get? store id).map (·, store) = _
  rw [AdministeredStore.get?_of_sound id sound]
  rfl

omit [AdministeredStore σ] in
theorem attempt_withStatus (sound : LawfulStore.Sound store) (status : Status)
    (chain : Option String) :
    ∃ records, (StoreOperation.withStatus status chain).attempt store = .ok (records, store) ∧
      ∀ record ∈ records, LawfulStore.record? store record.id = some record := by
  rcases LawfulStore.withStatus_of_sound status chain sound with ⟨records, lists, member⟩
  refine ⟨records, ?_, fun record listed => ((member record).mp listed).1⟩
  show (Store.withStatus store status chain).map (·, store) = _
  rw [lists]
  rfl

theorem record?_of_yields (sound : LawfulStore.Sound store)
    (yields : operation.Yields store record) :
    LawfulStore.record? store record.id = some record := by
  cases operation with
  | get id =>
      have found := (answer_of_ok (attempt_get sound id)).symm.trans yields
      have there := Except.ok.inj found
      rwa [LawfulStore.id_of_record? sound there]
  | withStatus status chain =>
      rcases yields with ⟨records, listed, among⟩
      rcases attempt_withStatus sound status chain with ⟨found, lists, stored⟩
      cases (answer_of_ok lists).symm.trans listed
      exact stored record among
  | create | update | delete | countByStatus => exact absurd yields id

theorem attempt_update (sound : LawfulStore.Sound store)
    (fits : (StoreOperation.update record expected).Fits) :
    (version? store record.id = some expected ∧
      ∃ next, (StoreOperation.update record expected).attempt store = .ok (expected + 1, next) ∧
        LawfulStore.Sound next ∧
        ∀ id, version? next id =
          if id = record.id then some (expected + 1) else version? store id) ∨
    (version? store record.id ≠ some expected ∧
      ∃ error, (StoreOperation.update record expected).attempt store = .error error) := by
  unfold version?
  cases found : LawfulStore.record? store record.id with
  | none => exact .inr ⟨nofun, _, LawfulStore.update_of_vacant sound found⟩
  | some stored =>
      by_cases current : stored.version = expected
      · subst current
        rcases AdministeredStore.update_of_version sound fits found with
          ⟨next, kept, updates, soundNext, version, view⟩
        refine .inl ⟨rfl, next, updates, soundNext, fun id => ?_⟩
        rw [view]
        split
        · exact congrArg some version
        · rfl
      · have inWidth : expected + 1 < Width.bound64 := fits.2.2.2.1
        refine .inr ⟨fun same => current (Option.some.inj same),
          .versionConflict record.id expected, ?_⟩
        exact LawfulStore.update_of_stale sound (Nat.lt_of_succ_lt inWidth) found current

theorem lands_iff (sound : LawfulStore.Sound store)
    (fits : (StoreOperation.update record expected).Fits) :
    (∃ version, (StoreOperation.update record expected).answer store = .ok version) ↔
      version? store record.id = some expected := by
  rcases attempt_update sound fits with ⟨current, next, updates, -⟩ | ⟨stale, error, refuses⟩
  · exact ⟨fun _ => current, fun _ => ⟨_, answer_of_ok updates⟩⟩
  · rw [answer_of_error refuses]
    exact ⟨(fun ⟨_, impossible⟩ => nomatch impossible), fun current => absurd current stale⟩

/-! ## Operations turn versions -/

omit [AdministeredStore σ] in
theorem turns_of_create (sound : LawfulStore.Sound store) (fits : record.InRange) :
    LawfulStore.Sound ((StoreOperation.create record).after store) ∧
      ∀ id, ((StoreOperation.create record).effect id
          ((StoreOperation.create record).answer store)).Turns (version? store id)
        (version? ((StoreOperation.create record).after store) id) := by
  cases found : LawfulStore.record? store record.id with
  | some stored =>
      have taken : (StoreOperation.create record).attempt store = .ok (.alreadyExists, store) :=
        LawfulStore.create_of_taken sound found
      rw [answer_of_ok taken, after_of_ok taken]
      exact ⟨sound, fun _ => .nothing⟩
  | none =>
      rcases LawfulStore.create_of_vacant sound fits found with ⟨next, creates, soundNext, view⟩
      have created : (StoreOperation.create record).attempt store = .ok (.created, next) := creates
      rw [answer_of_ok created, after_of_ok created]
      refine ⟨soundNext, fun id => ?_⟩
      unfold version?
      rw [view]
      dsimp only [effect]
      by_cases here : id = record.id
      · rw [if_pos here, if_pos here, here, found]
        exact .created
      · rw [if_neg here, if_neg here]
        exact .nothing

theorem turns_of_update (sound : LawfulStore.Sound store)
    (fits : (StoreOperation.update record expected).Fits) :
    LawfulStore.Sound ((StoreOperation.update record expected).after store) ∧
      ∀ id, ((StoreOperation.update record expected).effect id
          ((StoreOperation.update record expected).answer store)).Turns (version? store id)
        (version? ((StoreOperation.update record expected).after store) id) := by
  rcases attempt_update sound fits with ⟨current, next, updates, soundNext, view⟩ | ⟨-, error, refuses⟩
  · rw [answer_of_ok updates, after_of_ok updates]
    refine ⟨soundNext, fun id => ?_⟩
    rw [view]
    dsimp only [effect]
    by_cases here : id = record.id
    · rw [if_pos here, if_pos here, here, current]
      exact .updated
    · rw [if_neg here, if_neg here]
      exact .nothing
  · rw [answer_of_error refuses, after_of_error refuses]
    exact ⟨sound, fun _ => .nothing⟩

theorem turns_of_delete (sound : LawfulStore.Sound store) (other : String) :
    LawfulStore.Sound ((StoreOperation.delete other).after store) ∧
      ∀ id, ((StoreOperation.delete other).effect id
          ((StoreOperation.delete other).answer store)).Turns (version? store id)
        (version? ((StoreOperation.delete other).after store) id) := by
  rcases AdministeredStore.delete_of_sound other sound with ⟨next, deletes, soundNext, view⟩
  have deleted : (StoreOperation.delete other).attempt store =
    .ok ((LawfulStore.record? store other).isSome, next) := deletes
  rw [answer_of_ok deleted, after_of_ok deleted]
  refine ⟨soundNext, fun id => ?_⟩
  unfold version?
  rw [view]
  by_cases here : id = other
  · subst here
    rw [if_pos rfl]
    cases found : LawfulStore.record? store id with
    | none => exact .nothing
    | some stored =>
        show StoreEffect.Turns (if id = id then .deleted else .nothing) _ _
        rw [if_pos rfl]
        exact .deleted
  · rw [if_neg here]
    cases LawfulStore.record? store other with
    | none => exact .nothing
    | some stored =>
        show StoreEffect.Turns (if id = other then .deleted else .nothing) _ _
        rw [if_neg here]
        exact .nothing

theorem turns_of_sound (sound : LawfulStore.Sound store) (fits : operation.Fits) :
    LawfulStore.Sound (operation.after store) ∧
      ∀ id, (operation.effect id (operation.answer store)).Turns (version? store id)
        (version? (operation.after store) id) := by
  cases operation with
  | create record => exact turns_of_create sound fits
  | update record expected => exact turns_of_update sound fits
  | delete other => exact turns_of_delete sound other
  | get id =>
      rw [after_of_ok (attempt_get sound id)]
      exact ⟨sound, fun _ => .nothing⟩
  | withStatus status chain =>
      rcases attempt_withStatus sound status chain with ⟨found, lists, -⟩
      rw [after_of_ok lists]
      exact ⟨sound, fun _ => .nothing⟩
  | countByStatus chain =>
      have same : (StoreOperation.countByStatus chain).after store = store := by
        cases counted : Store.countByStatus store chain with
        | error error =>
            exact after_of_error (congrArg (Except.map (·, store)) counted)
        | ok counts =>
            exact after_of_ok (congrArg (Except.map (·, store)) counted)
      rw [same]
      exact ⟨sound, fun _ => .nothing⟩

theorem turnsAll_of_course {operations : List StoreOperation} (sound : LawfulStore.Sound store)
    (fit : ∀ operation ∈ operations, operation.Fits) :
    LawfulStore.Sound (course store operations) ∧
      ∀ id, StoreEffect.TurnsAll (effects id store operations) (version? store id)
        (version? (course store operations) id) := by
  induction operations generalizing store with
  | nil => exact ⟨sound, fun _ => .nil⟩
  | cons operation later induction =>
      rcases List.forall_mem_cons.mp fit with ⟨fits, others⟩
      rcases turns_of_sound sound fits with ⟨soundNext, turns⟩
      rcases induction soundNext others with ⟨soundLast, turnsAll⟩
      exact ⟨soundLast, fun id => .cons (turns id) (turnsAll id)⟩

end StoreOperation

open StoreOperation StoreEffect

/-! ## Writes that go back to a read -/

/-- Between a read and a write that goes back to it, whoever else is at work:
the write lands if the record has been left alone, or if it has been created
anew and has come to the version that was read. -/
theorem update_lands_iff {σ : Type} [Store σ] [LawfulStore σ] [AdministeredStore σ] {start : σ}
    (sound : LawfulStore.Sound start) {before between : List StoreOperation}
    (fit : ∀ operation ∈ before ++ between, operation.Fits) {reading : StoreOperation}
    {record next : Redemption} (yields : reading.Yields (course start before) record)
    (sameId : next.id = record.id) (fits : (StoreOperation.update next record.version).Fits) :
    (∃ version, (StoreOperation.update next record.version).answer
        (course start (before ++ between)) = .ok version) ↔
      Undisturbed (effects record.id (course start before) between) ∨
        Revived (effects record.id (course start before) between) record.version := by
  rcases List.forall_mem_append.mp fit with ⟨fitBefore, fitBetween⟩
  have soundRead := (turnsAll_of_course sound fitBefore).1
  rcases turnsAll_of_course soundRead fitBetween with ⟨soundWrite, turns⟩
  have read : version? (course start before) record.id = some record.version := by
    rw [version?, record?_of_yields soundRead yields]
    rfl
  have sinceRead := turns record.id
  rw [read] at sinceRead
  rw [course, List.foldl_append]
  refine (lands_iff soundWrite fits).trans ?_
  rw [sameId]
  exact sinceRead.same_iff

/-- A claim was read at version one; the record has since been deleted, created
again and claimed again, so that the write lands on the other one. -/
theorem update_lands_on_revived :
    let first := Redemption.observed "sepolia"
      { walletPubKeyHash := "", mainUtxo := ⟨"ü", 1, 2⟩, redeemerOutputScript := "0x76",
        amount := 5, sourceTxHash := "0xa1" } 7 8
    let again := { first with dates := { first.dates with createdAt := 20, lastActivityAt := 20 } }
    let claimed := { first.claim 10 9 with version := 1 }
    let before : List StoreOperation := [.create first, .update (first.claim 10 9) 0]
    let between : List StoreOperation :=
      [.delete "0xa1", .create again, .update (again.claim 30 25) 0]
    let start : TableStore := {}
    effects "0xa1" (course start before) between = [.deleted, .created 0, .updated] ∧
      ∃ version, (StoreOperation.update (claimed.release 26) 1).answer
        (course start (before ++ between)) = .ok version := by
  intro first again claimed before between start
  have fit : ∀ operation ∈ before ++ between, operation.Fits := by decide +kernel
  have seen : effects "0xa1" (course start before) between = [.deleted, .created 0, .updated] := by
    decide +kernel
  have read : (StoreOperation.get "0xa1").answer (course start before) = .ok (some claimed) := by
    decide +kernel
  have yields : (StoreOperation.get "0xa1").Yields (course start before) claimed := read
  have sound : LawfulStore.Sound start := ⟨{}, TableStore.mirrors_empty⟩
  have sameId : (claimed.release 26).id = claimed.id := rfl
  have fits : (StoreOperation.update (claimed.release 26) claimed.version).Fits := by
    decide +kernel
  have revived : Revived (effects "0xa1" (course start before) between) 1 :=
    ⟨[.deleted], 0, [.updated], seen, by decide, by decide, rfl⟩
  exact ⟨seen, (update_lands_iff sound fit yields sameId fits).mpr (.inr revived)⟩

/-- The very write that a deleted record was claimed for lands on the record
that has been created for another event under the same identifier. -/
theorem stale_claim_takes_next_incarnation :
    let first := Redemption.observed "sepolia"
      { walletPubKeyHash := "", mainUtxo := ⟨"ü", 1, 2⟩, redeemerOutputScript := "0x76",
        amount := 5, sourceTxHash := "0xa1" } 7 8
    let again := { first with event := { first.event with amount := 6 } }
    let before : List StoreOperation := [.create first]
    let between : List StoreOperation := [.delete "0xa1", .create again]
    let write : StoreOperation := .update (first.claim 10 9) first.version
    let read : StoreOperation := .get "0xa1"
    read.answer (course ({} : MemoryStore) before) = .ok (some first) ∧
      read.answer (course ({} : TableStore) before) = .ok (some first) ∧
      effects "0xa1" (course ({} : MemoryStore) before) between = [.deleted, .created 0] ∧
      effects "0xa1" (course ({} : TableStore) before) between = [.deleted, .created 0] ∧
      write.answer (course ({} : MemoryStore) (before ++ between)) = .ok 1 ∧
      write.answer (course ({} : TableStore) (before ++ between)) = .ok 1 := by
  decide +kernel

end RedemptionRelay
