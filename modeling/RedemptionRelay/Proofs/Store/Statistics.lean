import Mathlib.Algebra.BigOperators.Group.Finset.Piecewise
import Mathlib.Algebra.Ring.Nat
import Mathlib.Data.List.Dedup
import RedemptionRelay.Proofs.Store.Undecodable

/-! # Statistics add up

A store counts its records in one way and lists them in another. Both go by the
same state and the same chain, so the two agree, and since each record has one
state and one chain nothing is counted twice or left out.
-/

namespace RedemptionRelay

theorem sum_countP_fibres {Item Name : Type} [DecidableEq Name] {names : List Name}
    (distinct : names.Nodup) (key : Item → Name) (counted : Item → Bool) {items : List Item}
    (among : ∀ item ∈ items, key item ∈ names) :
    (names.map fun name => items.countP fun item => key item = name && counted item).sum =
      items.countP counted := by
  rw [← List.sum_toFinset _ distinct]
  induction items with
  | nil => simp
  | cons item items induction =>
      have here : key item ∈ names.toFinset := List.mem_toFinset.mpr (among item List.mem_cons_self)
      have rest := induction fun other later => among other (List.mem_cons_of_mem item later)
      simp only [List.countP_cons, Finset.sum_add_distrib, rest]
      cases counted item <;> simp [here]

/-! ## What a tally counts -/

namespace StatusCounts

theorem count_cons (entry : Status × Nat) (counts : StatusCounts) (status : Status) :
    StatusCounts.count (entry :: counts) status =
      if status = entry.1 then entry.2 else counts.count status := by
  unfold count
  rw [List.lookup_cons]
  by_cases same : status = entry.1
  · simp [same]
  · rw [if_neg same, beq_eq_false_iff_ne.mpr same]

theorem count_filter (names : List Status) (counts : Status → Nat) (status : Status) :
    StatusCounts.count ((names.map fun name => (name, counts name)).filter (·.2 ≠ 0)) status =
      if status ∈ names then counts status else 0 := by
  induction names with
  | nil => rfl
  | cons name names induction =>
      rw [List.map_cons, List.filter_cons]
      by_cases same : status = name
      · subst same
        by_cases nothing : counts status = 0
        · rw [if_neg (by simp [nothing]), induction]
          simp [nothing]
        · rw [if_pos (by simp [nothing]), count_cons]
          simp
      · have sameRest : status ∈ name :: names ↔ status ∈ names := by simp [same]
        simp only [sameRest]
        split
        · rw [count_cons, if_neg same, induction]
        · exact induction

theorem total_filter (counts : StatusCounts) :
    StatusCounts.total (counts.filter (·.2 ≠ 0)) = (counts.map (·.2)).sum := by
  induction counts with
  | nil => rfl
  | cons entry counts induction =>
      by_cases nothing : entry.2 = 0
      · simpa [nothing] using induction
      · simpa [nothing, total] using induction

end StatusCounts

theorem Status.mem_all (status : Status) : status ∈ all := by
  cases status <;> decide

theorem count_tally (statuses : List Status) (status : Status) :
    (tally statuses).count status = statuses.count status := by
  rw [tally, StatusCounts.count_filter, if_pos status.mem_all]

theorem total_tally (statuses : List Status) : (tally statuses).total = statuses.length := by
  have fibres := sum_countP_fibres (show Status.all.Nodup by decide) id (fun _ => true)
    fun status (_ : status ∈ statuses) => status.mem_all
  unfold tally
  rw [StatusCounts.total_filter, List.map_map]
  simpa [List.count, Function.comp_def, Bool.beq_eq_decide_eq] using fibres

/-! ## Sums of statistics -/

namespace Statistics

def count (statistics : Statistics) : Status → Nat
  | .pending => statistics.pending
  | .fetchFailed => statistics.fetchFailed
  | .fetched => statistics.fetched
  | .submitFailed => statistics.submitFailed
  | .completed => statistics.completed
  | .failed => statistics.failed

/-- Field by field. -/
instance : Add Statistics where
  add left right :=
    { total := left.total + right.total
      pending := left.pending + right.pending
      fetchFailed := left.fetchFailed + right.fetchFailed
      fetched := left.fetched + right.fetched
      submitFailed := left.submitFailed + right.submitFailed
      completed := left.completed + right.completed
      failed := left.failed + right.failed }

instance : Zero Statistics where
  zero :=
    { total := 0, pending := 0, fetchFailed := 0, fetched := 0, submitFailed := 0, completed := 0
      failed := 0 }

variable {left right : Statistics}

theorem ext_of_count (total : left.total = right.total)
    (counts : ∀ status, left.count status = right.count status) : left = right := by
  rcases left with ⟨leftTotal, _⟩
  rcases right with ⟨rightTotal, _⟩
  rw [mk.injEq]
  exact ⟨total, counts .pending, counts .fetchFailed, counts .fetched, counts .submitFailed,
    counts .completed, counts .failed⟩

theorem count_ofCounts (counts : StatusCounts) (status : Status) :
    (ofCounts counts).count status = counts.count status := by
  cases status <;> rfl

theorem read_sum (read : Statistics → Nat) (zero : read 0 = 0)
    (add : ∀ left right, read (left + right) = read left + read right) (list : List Statistics) :
    read list.sum = (list.map read).sum := by
  induction list with
  | nil => exact zero
  | cons statistics list induction =>
      rw [List.sum_cons, List.map_cons, List.sum_cons, ← induction, add]

theorem total_sum (list : List Statistics) : list.sum.total = (list.map (·.total)).sum :=
  read_sum total rfl (fun _ _ => rfl) list

theorem count_sum (list : List Statistics) (status : Status) :
    list.sum.count status = (list.map (·.count status)).sum := by
  refine read_sum (·.count status) ?_ (fun _ _ => ?_) list <;> cases status <;> rfl

def ofRecords (records : List Redemption) : Statistics :=
  ofCounts (tally (records.map (·.status)))

theorem total_ofRecords (records : List Redemption) :
    (ofRecords records).total = records.length :=
  (total_tally _).trans (List.length_map _)

theorem count_ofRecords (records : List Redemption) (status : Status) :
    (ofRecords records).count status = records.countP fun record => record.status = status := by
  rw [ofRecords, count_ofCounts, count_tally, List.count, List.countP_map]
  exact List.countP_congr fun record _ => by simp

theorem total_eq_sum (records : List Redemption) :
    (ofRecords records).total =
      (Status.all.map fun status => (ofRecords records).count status).sum := by
  have fibres := sum_countP_fibres (show Status.all.Nodup by decide) Redemption.status
    (fun _ => true) fun record (_ : record ∈ records) => record.status.mem_all
  simpa [total_ofRecords, count_ofRecords] using fibres.symm

theorem ofRecords_eq_sum (records : List Redemption) :
    ofRecords records =
      (((records.map (·.chain)).dedup).map fun name =>
        ofRecords (records.filter fun record => matchesChain (some name) record.chain)).sum := by
  have fibres (counted : Redemption → Bool) :=
    sum_countP_fibres (List.nodup_dedup (records.map (·.chain))) Redemption.chain counted
      fun record there => List.mem_dedup.mpr (List.mem_map_of_mem there)
  refine ext_of_count ?_ fun status => ?_
  · rw [total_sum, List.map_map]
    simpa [Function.comp_def, total_ofRecords, matchesChain, ← List.countP_eq_length_filter,
      Bool.beq_eq_decide_eq] using
      (fibres fun _ => true).symm
  · rw [count_sum, List.map_map]
    simpa [Function.comp_def, count_ofRecords, matchesChain, List.countP_filter,
      Bool.beq_eq_decide_eq, Bool.and_comm] using
      (fibres fun record => record.status = status).symm

end Statistics

/-! ## Stores -/

section Stores

variable {σ : Type} [Store σ] {store : σ} {records : List Redemption}

/-- These are the records that the store counts and lists. -/
structure Tallies (store : σ) (records : List Redemption) : Prop where
  counted : ∀ chain, Store.countByStatus store chain =
    .ok (tally ((records.filter fun record => matchesChain chain record.chain).map (·.status)))
  listed : ∀ status chain, ∃ found, Store.withStatus store status chain = .ok found ∧
    found.length = records.countP fun record =>
      record.status = status && matchesChain chain record.chain

/-- The statistics for each filter agree with the records, with the lists, and
with one another. -/
structure AddUp (store : σ) (records : List Redemption) (statistics : Option String → Statistics) :
    Prop where
  counted : ∀ chain,
    (Store.countByStatus store chain).map Statistics.ofCounts = .ok (statistics chain)
  total : ∀ chain, (statistics chain).total =
    (statistics chain).pending + (statistics chain).fetchFailed + (statistics chain).fetched +
      (statistics chain).submitFailed + (statistics chain).completed + (statistics chain).failed
  matching : ∀ chain, (statistics chain).total =
    (records.filter fun record => matchesChain chain record.chain).length
  listed : ∀ status chain, ∃ found, Store.withStatus store status chain = .ok found ∧
    (statistics chain).count status = found.length
  chains : statistics none =
    ((records.map (·.chain)).dedup.map fun name => statistics (some name)).sum

theorem Tallies.exists_addUp (tallies : Tallies store records) :
    ∃ statistics, AddUp store records statistics := by
  refine ⟨fun chain => .ofRecords (records.filter fun record => matchesChain chain record.chain),
    ?_, ?_, ?_, ?_, ?_⟩
  · intro chain
    rw [tallies.counted]
    rfl
  · intro chain
    rw [Statistics.total_eq_sum]
    simp [Status.all, Statistics.count, Nat.add_assoc]
  · exact fun chain => Statistics.total_ofRecords _
  · intro status chain
    rcases tallies.listed status chain with ⟨found, lists, length⟩
    refine ⟨found, lists, ?_⟩
    rw [Statistics.count_ofRecords, List.countP_filter, length]
  · have everything : records.filter (fun record => matchesChain none record.chain) = records :=
      List.filter_eq_self.mpr fun _ _ => rfl
    rw [everything]
    exact Statistics.ofRecords_eq_sum records

end Stores

theorem MemoryStore.tallies (memory : MemoryStore) : Tallies memory memory.records where
  counted _ := rfl
  listed status chain := by
    refine ⟨memory.withStatus status chain, rfl, ?_⟩
    rw [withStatus, List.length_mergeSort, matching, List.filter_filter,
      ← List.countP_eq_length_filter]

namespace TableStore

def records (table : TableStore) : List Redemption :=
  table.rows.filterMap Row.record?

theorem length_withStatus (table : TableStore) (status : Status) (chain : Option String) :
    (table.withStatus status chain).length = table.records.countP fun record =>
      record.status = status && matchesChain chain record.chain := by
  have sameLength := (table.perm_withStatus status chain).length_eq
  rw [List.length_map, List.length_map, ← List.countP_eq_length_filter] at sameLength
  rw [sameLength, records, List.countP_filterMap]
  exact List.countP_congr fun row _ => by rw [Row.isOf]; cases row.record? <;> rfl

theorem statuses_of_decodable {table : TableStore}
    (decodable : ∀ row ∈ table.rows, row.isDecodable = true) (chain : Option String) :
    (table.rows.filter (isOfChain chain)).map (·.status) =
      ((table.records.filter fun record => matchesChain chain record.chain).map (·.status)).map
        fun status => Cell.text status.text := by
  rcases table with ⟨rows⟩
  unfold records
  dsimp only at decodable ⊢
  induction rows with
  | nil => rfl
  | cons row rows induction =>
      rcases List.forall_mem_cons.mp decodable with ⟨here, later⟩
      rcases Row.exists_of_isDecodable here with ⟨record, decodes, stands⟩
      rw [List.filterMap_cons_some decodes, List.filter_cons, List.filter_cons, stands.isOfChain]
      split
      · simp only [List.map_cons, stands.status, induction later]
      · exact induction later

theorem tallies {table : TableStore} (decodable : ∀ row ∈ table.rows, row.isDecodable = true) :
    Tallies table table.records where
  counted chain := countByStatus_of_texts (statuses_of_decodable decodable chain)
  listed status chain := ⟨table.withStatus status chain, rfl, table.length_withStatus status chain⟩

end TableStore

theorem statistics_add_up :
    (∀ memory : MemoryStore, ∃ statistics, AddUp memory memory.records statistics) ∧
    ∀ table : TableStore, (∀ row ∈ table.rows, row.isDecodable = true) →
      ∃ statistics, AddUp table table.records statistics :=
  ⟨fun memory => memory.tallies.exists_addUp,
    fun _ decodable => (TableStore.tallies decodable).exists_addUp⟩

/-- Three records of two chains. -/
theorem statistics_add_up_of_two_chains :
    let record := Redemption.observed "sepolia"
      { walletPubKeyHash := "0x01", mainUtxo := ⟨"0x02", 1, 2⟩, redeemerOutputScript := "0x76",
        amount := 5, sourceTxHash := "0xa1" } 7 8
    let records := [record, { record with id := "0xa2", chain := "base" },
      { record with id := "0xa3", status := .failed, error := some "gone" }]
    let table : TableStore := { rows := records.map Row.ofRecord }
    ∃ statistics, AddUp table table.records statistics ∧
      statistics (some "sepolia") = ⟨2, 1, 0, 0, 0, 0, 1⟩ ∧
      statistics (some "base") = ⟨1, 1, 0, 0, 0, 0, 0⟩ ∧
      statistics none = ⟨3, 2, 0, 0, 0, 0, 1⟩ := by
  intro record records table
  have fits : ∀ stored ∈ records, stored.InRange := by decide
  have sameRecords : table.records = records := Row.filterMap_record? fits
  have decodable : ∀ row ∈ table.rows, row.isDecodable = true := by
    refine List.forall_mem_map.mpr fun stored there => ?_
    rw [Row.isDecodable, Row.record?_ofRecord (fits stored there)]
    rfl
  rcases statistics_add_up.2 table decodable with ⟨statistics, addUp⟩
  have counted (chain : Option String) : statistics chain =
      .ofRecords (records.filter fun record => matchesChain chain record.chain) := by
    have counts := addUp.counted chain
    rw [(TableStore.tallies decodable).counted, sameRecords] at counts
    exact (Except.ok.inj counts).symm
  exact ⟨statistics, addUp, (counted _).trans (by decide), (counted _).trans (by decide),
    (counted _).trans (by decide)⟩

end RedemptionRelay
