import RedemptionRelay.Proofs.Fleet.Coherence
import RedemptionRelay.Proofs.Redemption.Retention
import RedemptionRelay.Store.Memory

/-! # The trail along a history

Each stored state of a record has at most one entry more than the state before
it. However the workers alternate, what a state keeps is the newest part of all
the entries up to it, in the order of the history.
-/

namespace RedemptionRelay

/-- A stored state, and what the change to it has appended to the trail. -/
structure Chapter where
  record : Redemption
  added? : Option LogEntry
deriving DecidableEq

namespace Chapter

/-- The first state is the one that was there before, or one made of an event. -/
inductive Opens : Option Redemption → Chapter → Prop where
  | found (record : Redemption) : Opens (some record) ⟨record, none⟩
  | observed (chain : String) (event : Event) (now logged : Nat) :
      Opens none ⟨Redemption.observed chain event now logged,
        some ⟨logged, "redemption request observed"⟩⟩

def Follows (earlier later : Chapter) : Prop :=
  ∃ mark now logged changed, earlier.record.apply mark now logged = .ok changed ∧
    later.record = { changed with version := earlier.record.version + 1 } ∧
    later.added? = (Edit.change mark now logged).added? earlier.record

def logsBefore (origin : Option Redemption) : List LogEntry :=
  origin.elim [] (·.logs)

def entries (chapters : List Chapter) : List LogEntry :=
  chapters.filterMap (·.added?)

variable {chapters : List Chapter} {first earlier later : Chapter}

theorem entries_concat :
    entries (chapters ++ [later]) = entries chapters ++ later.added?.toList := by
  unfold entries
  rw [List.filterMap_append, List.filterMap_cons]
  cases later.added? <;> rfl

theorem Opens.retained {origin : Option Redemption} (opens : Opens origin first) :
    Retained (logsBefore origin) first.added?.toList (logsBefore origin) first.record.logs := by
  cases opens with
  | found record => exact .nothing record.logs
  | observed chain event now logged => exact ⟨nofun, fun _ => isNewest_singleton _⟩

theorem Follows.retained {whole : List LogEntry} (follows : Follows earlier later)
    (enough : Covers earlier.record.logs whole) :
    Retained whole later.added?.toList earlier.record.logs later.record.logs := by
  rcases follows with ⟨mark, now, logged, changed, applied, stored, entry⟩
  have retained := Redemption.retained_apply enough applied
  rw [stored, entry]
  exact retained

theorem exists_chapters {states : List Redemption}
    (linked : (first.record :: states).IsChain Redemption.Precedes) :
    ∃ later : List Chapter, later.map (·.record) = states ∧ (first :: later).IsChain Follows := by
  induction states generalizing first with
  | nil => exact ⟨[], rfl, .singleton first⟩
  | cons state states induction =>
      rcases List.isChain_cons_cons.mp linked with ⟨precedes, others⟩
      rcases precedes with ⟨-, mark, now, logged, changed, applied, stored⟩
      let next : Chapter := ⟨state, (Edit.change mark now logged).added? first.record⟩
      have linkedThere : (next.record :: states).IsChain Redemption.Precedes := others
      rcases induction linkedThere with ⟨later, same, follow⟩
      refine ⟨next :: later, congrArg (state :: ·) same, .cons_cons ?_ follow⟩
      exact ⟨mark, now, logged, changed, applied, stored, rfl⟩

/-- The trail of each state, by induction over the chapters before it. -/
theorem retained_of_prefix {origin : Option Redemption}
    (begins : ∀ first ∈ chapters.head?, Opens origin first) (linked : chapters.IsChain Follows)
    {before : List Chapter} {chapter : Chapter} (told : before ++ [chapter] <+: chapters) :
    Retained (logsBefore origin) (entries (before ++ [chapter])) (logsBefore origin)
      chapter.record.logs := by
  rw [entries_concat]
  induction before using List.reverseRecOn generalizing chapter with
  | nil =>
      rcases told with ⟨later, rfl⟩
      exact (begins chapter rfl).retained
  | append_singleton before last induction =>
      have follows : Follows last chapter := by
        have linkedThere := linked.prefix told
        rw [List.append_assoc] at linkedThere
        exact (List.isChain_append_cons_cons.mp linkedThere).2.1
      have upToLast := induction ((List.prefix_append _ _).trans told)
      rw [entries_concat]
      exact upToLast.trans (follows.retained (upToLast.covers (covers_self _)))

end Chapter

namespace Fleet

variable {σ : Type} [Store σ] [LawfulStore σ] {fleet : Fleet σ} {store : σ} {id : String}

/-- The history of one record, chapter by chapter. -/
structure Recounted (store : σ) (fleet : Fleet σ) (id : String) (chapters : List Chapter) :
    Prop where
  states : chapters.map (·.record) = fleet.trail (LawfulStore.record? store) id
  current : LawfulStore.record? fleet.store id = chapters.getLast?.map (·.record)
  first : ∀ chapter ∈ chapters.head?, Chapter.Opens (LawfulStore.record? store id) chapter
  next : chapters.IsChain Chapter.Follows
  /-- Each state has the newest of what was there before the history and what the
  chapters up to it have appended. -/
  retained : ∀ before chapter, before ++ [chapter] <+: chapters →
    Retained (Chapter.logsBefore (LawfulStore.record? store id))
      (Chapter.entries (before ++ [chapter]))
      (Chapter.logsBefore (LawfulStore.record? store id)) chapter.record.logs

namespace Coherent

variable (coherent : fleet.Coherent (LawfulStore.record? store))
include coherent

theorem recounted_of_opens {first : Chapter} {states : List Redemption}
    (told : fleet.trail (LawfulStore.record? store) id = first.record :: states)
    (opens : Chapter.Opens (LawfulStore.record? store id) first) :
    ∃ chapters, Recounted store fleet id chapters := by
  have linked := coherent.linked id
  have current := coherent.current id
  rw [told] at linked current
  rcases Chapter.exists_chapters linked with ⟨later, rfl, follow⟩
  have begins : ∀ chapter ∈ (first :: later).head?,
      Chapter.Opens (LawfulStore.record? store id) chapter := by
    rintro _ ⟨⟩
    exact opens
  refine ⟨first :: later, told.symm, ?_, begins, follow, fun _ _ told =>
    Chapter.retained_of_prefix begins follow told⟩
  rw [current, ← List.map_cons, List.getLast?_map]

theorem exists_recounted (id : String) : ∃ chapters, Recounted store fleet id chapters := by
  cases found : LawfulStore.record? store id with
  | some record =>
      have told : fleet.trail (LawfulStore.record? store) id = record :: fleet.versions id := by
        rw [trail, found]
        rfl
      have opens : Chapter.Opens (LawfulStore.record? store id) ⟨record, none⟩ := by
        rw [found]
        exact .found record
      exact coherent.recounted_of_opens told opens
  | none =>
      have noneBefore : fleet.trail (LawfulStore.record? store) id = fleet.versions id := by
        rw [trail, found]
        rfl
      cases states : fleet.versions id with
      | nil =>
          rw [states] at noneBefore
          have current := coherent.current id
          rw [noneBefore] at current
          refine ⟨[], noneBefore.symm, current, ?_, List.isChain_nil, ?_⟩
          · intro chapter first
            cases first
          · intro before chapter told
            exact absurd (List.prefix_nil.mp told) (List.append_ne_nil_of_right_ne_nil _ (by simp))
      | cons state others =>
          have first : state ∈ (fleet.versions id).head? := by
            rw [states]
            exact List.head?_cons
          rcases coherent.begun id found state first with ⟨chain, event, now, logged, -, rfl⟩
          have opens := Chapter.Opens.observed chain event now logged
          rw [← found] at opens
          exact coherent.recounted_of_opens (noneBefore.trans states) opens

end Coherent

/-- What a record keeps of its trail is the newest part of it: over any edits of
any record, and along the history of each stored one. -/
theorem newest_entries_kept {clock : Nat} (sound : LawfulStore.Sound store)
    (run : Run Free (initial store clock) fleet) :
    (∀ (record : Redemption) (edits : List Edit),
      Retained record.logs (record.appended edits) record.logs (record.after edits).logs) ∧
      ∀ id, ∃ chapters, Recounted store fleet id chapters :=
  ⟨fun record edits => Redemption.retained_edits (covers_self record.logs) edits,
    fun id => (run.coherent sound).exists_recounted id⟩

/-- A record that has more entries than are kept is cut to measure where the
attestation is stored, and likewise by edits of which the first is turned down. -/
theorem newest_entries_kept_of_long_trail :
    ∃ (record : Redemption) (store : MemoryStore) (fleet : Fleet MemoryStore)
      (chapters : List Chapter) (edits : List Edit),
      Run Free (initial store 0) fleet ∧ Recounted store fleet "0xa1" chapters ∧
      (chapters.map (·.record.logs)).map (fun logs => (logs.length, logs.head?.map (·.time))) =
        [(60, some 0), (60, some 0), (50, some 11)] ∧
      Retained record.logs (record.appended edits) record.logs (record.after edits).logs ∧
      record.appended edits = [
        ⟨2, "attestation fetch failed (attempt 1): late"⟩, ⟨3, "seen"⟩,
        ⟨5, "attestation fetch failed (attempt 2): late"⟩] ∧
      (record.after edits).logs.length = 50 := by
  let record : Redemption :=
    { Redemption.observed "sepolia" default 0 0 with
      id := "0xa1"
      logs := (List.range 60).map fun time => ⟨time, "earlier"⟩ }
  let store : MemoryStore := { records := [record], distinct := by simp }
  let edits : List Edit := [
    .change (.completed "0xb2") 1 1, .change (.fetchFailed "late") 2 2, .note "seen" 3,
    .change (.fetchFailed "late") 4 5]
  let moves : List Move :=
    [.launchBatch .attestation {} none] ++ Sample.claim 0 ++ [.act 0 .call] ++
      Sample.conclusion 0 Sample.attests
  have happened : ((initial store 0).follow? Free moves).map (fun fleet =>
      ((fleet.trail (LawfulStore.record? store) "0xa1").map (·.logs)).map fun logs =>
        (logs.length, logs.head?.map (·.time))) =
          some [(60, some 0), (60, some 0), (50, some 11)] := by
    decide +kernel
  rcases Option.map_eq_some_iff.mp happened with ⟨fleet, followed, lengths⟩
  have run : Run Free (initial store 0) fleet := .of_follow? .rest followed
  rcases newest_entries_kept trivial run with ⟨edited, stored⟩
  rcases stored "0xa1" with ⟨chapters, recounted⟩
  refine ⟨record, store, fleet, chapters, edits, run, recounted, ?_, edited record edits, ?_, ?_⟩
  · have logs : chapters.map (·.record.logs) =
        (fleet.trail (LawfulStore.record? store) "0xa1").map (·.logs) := by
      rw [← recounted.states, List.map_map]
      rfl
    rw [logs, lengths]
  · decide +kernel
  · decide +kernel

end Fleet

end RedemptionRelay
