import RedemptionRelay.Milestone
import RedemptionRelay.Proofs.LogLine

/-! # What the line of a milestone tells

Each text that a milestone was given reaches only the places of its line that
are its own. Nothing else depends on it but for whether there is an error, which
the level and the success tell.
-/

namespace RedemptionRelay

open Json (Tree Value leaf_bool_iff leaf_ofText?_iff leaf_of_member leaf_of_text leaf_text_iff)

namespace Milestone

/-! ## Entries -/

/-- What the line of a milestone has at the end of each path. -/
inductive Entry (milestone : Milestone) (moment : Nat) : List String → Tree → Prop
  | timestamp : Entry milestone moment ["timestamp"] (.text (Timestamp.text moment))
  | info (succeeds : milestone.error = none) : Entry milestone moment ["level"] (.text "INFO")
  | alarm {message : String} (fails : milestone.error = some message) :
      Entry milestone moment ["level"] (.text "ERROR")
  | category : Entry milestone moment ["category"] (.text milestone.category.text)
  | message : Entry milestone moment ["message"] (.text milestone.name)
  | correlation : Entry milestone moment ["correlation_id"] (.text milestone.redemptionId)
  | redemption : Entry milestone moment ["data", "redemption_id"] (.text milestone.redemptionId)
  | chain : Entry milestone moment ["data", "chain"] (.text milestone.chain)
  | status : Entry milestone moment ["data", "status"] (.text milestone.status.text)
  | settled {hash : String} (given : milestone.settlement = some hash) :
      Entry milestone moment ["data", "settlement_tx_hash"] (.text hash)
  | unsettled (absent : milestone.settlement = none) :
      Entry milestone moment ["data", "settlement_tx_hash"] .null
  | success (succeeds : milestone.error = none) :
      Entry milestone moment ["data", "success"] (.bool true)
  | failure {message : String} (fails : milestone.error = some message) :
      Entry milestone moment ["data", "success"] (.bool false)
  | code {message : String} (fails : milestone.error = some message) :
      Entry milestone moment ["error", "code"] (.text "REDEMPTION_FAILED")
  | error {message : String} (fails : milestone.error = some message) :
      Entry milestone moment ["error", "message"] (.text message)

/-- The paths where the lines of two milestones can differ: each of the texts
they were given has its own, and so has whether there is an error. -/
inductive Differs (milestone other : Milestone) : List String → Prop
  | level (outcome : milestone.error.isNone ≠ other.error.isNone) :
      Differs milestone other ["level"]
  | category (differs : milestone.category ≠ other.category) : Differs milestone other ["category"]
  | message (differs : milestone.name ≠ other.name) : Differs milestone other ["message"]
  | correlation (differs : milestone.redemptionId ≠ other.redemptionId) :
      Differs milestone other ["correlation_id"]
  | redemption (differs : milestone.redemptionId ≠ other.redemptionId) :
      Differs milestone other ["data", "redemption_id"]
  | chain (differs : milestone.chain ≠ other.chain) : Differs milestone other ["data", "chain"]
  | status (differs : milestone.status ≠ other.status) : Differs milestone other ["data", "status"]
  | settlement (differs : milestone.settlement ≠ other.settlement) :
      Differs milestone other ["data", "settlement_tx_hash"]
  | success (outcome : milestone.error.isNone ≠ other.error.isNone) :
      Differs milestone other ["data", "success"]
  | code (outcome : milestone.error.isNone ≠ other.error.isNone) :
      Differs milestone other ["error", "code"]
  | error (differs : milestone.error ≠ other.error) : Differs milestone other ["error", "message"]

variable {milestone other : Milestone} {moment : Nat} {path : List String} {leaf : Tree}

theorem legible_line (milestone : Milestone) (moment : Nat) :
    ∀ data ∈ (milestone.line moment).data, data.Legible := by
  rintro _ ⟨⟩
  rw [data, Value.Legible, Value.membersLegible_iff]
  cases settlement : milestone.settlement <;>
    simp [Value.Legible, Value.ofText?, Value.ofOption]

theorem fits_line (milestone : Milestone) (moment : Nat) :
    ∀ data ∈ (milestone.line moment).data, data.Fits (Json.nestingLimit - 1) := by
  rintro _ ⟨⟩
  refine ⟨by decide, by simp [Json.numberKey], Value.membersFit_iff.mpr ?_⟩
  cases settlement : milestone.settlement <;> simp [Value.Fits, Value.ofText?, Value.ofOption]

theorem entry_of_data (reaches : milestone.data.kept.tree.Leaf path leaf) :
    milestone.Entry moment ("data" :: path) leaf := by
  rw [data, Json.leaf_kept_object_iff (by simp)] at reaches
  rcases reaches with ⟨name, value, rest, rfl, isIn, reaches⟩
  simp only [List.mem_cons, List.not_mem_nil, or_false, Prod.mk.injEq] at isIn
  rcases isIn with ⟨rfl, rfl⟩ | ⟨rfl, rfl⟩ | ⟨rfl, rfl⟩ | ⟨rfl, rfl⟩ | ⟨rfl, rfl⟩
  · rcases leaf_text_iff.mp reaches with ⟨rfl, rfl⟩
    exact .chain
  · rcases leaf_text_iff.mp reaches with ⟨rfl, rfl⟩
    exact .redemption
  · rcases leaf_ofText?_iff.mp reaches with ⟨rfl, rfl⟩
    cases settlement : milestone.settlement with
    | none => exact .unsettled settlement
    | some hash => exact .settled settlement
  · rcases leaf_text_iff.mp reaches with ⟨rfl, rfl⟩
    exact .status
  · rcases leaf_bool_iff.mp reaches with ⟨rfl, rfl⟩
    cases error : milestone.error with
    | none => exact .success error
    | some message => exact .failure error

theorem entry_of_error {message : String} (fails : milestone.error = some message)
    (reaches : (Value.object [("code", .text "REDEMPTION_FAILED"),
      ("message", .text message)]).kept.tree.Leaf path leaf) :
    milestone.Entry moment ("error" :: path) leaf := by
  rw [Json.leaf_kept_object_iff (by simp)] at reaches
  rcases reaches with ⟨name, value, rest, rfl, isIn, reaches⟩
  simp only [List.mem_cons, List.not_mem_nil, or_false, Prod.mk.injEq] at isIn
  rcases isIn with ⟨rfl, rfl⟩ | ⟨rfl, rfl⟩
  · rcases leaf_text_iff.mp reaches with ⟨rfl, rfl⟩
    exact .code fails
  · rcases leaf_text_iff.mp reaches with ⟨rfl, rfl⟩
    exact .error fails

theorem level_line_of_none (succeeds : milestone.error = none) :
    (milestone.line moment).level = "INFO" := by
  show milestone.level.text = "INFO"
  rw [level, succeeds]
  rfl

theorem level_line_of_some {message : String} (fails : milestone.error = some message) :
    (milestone.line moment).level = "ERROR" := by
  show milestone.level.text = "ERROR"
  rw [level, fails]
  rfl

theorem entry_of_part {name : String} {value : Value}
    (part : (milestone.line moment).Part name value)
    (reaches : value.kept.tree.Leaf path leaf) : milestone.Entry moment (name :: path) leaf := by
  cases part with
  | timestamp =>
      rcases leaf_text_iff.mp reaches with ⟨rfl, rfl⟩
      exact .timestamp
  | level =>
      rcases leaf_text_iff.mp reaches with ⟨rfl, rfl⟩
      cases error : milestone.error with
      | none => exact level_line_of_none error ▸ .info error
      | some message => exact level_line_of_some error ▸ .alarm error
  | category =>
      rcases leaf_text_iff.mp reaches with ⟨rfl, rfl⟩
      exact .category
  | message =>
      rcases leaf_text_iff.mp reaches with ⟨rfl, rfl⟩
      exact .message
  | correlationId given =>
      cases given
      rcases leaf_text_iff.mp reaches with ⟨rfl, rfl⟩
      exact .correlation
  | data given =>
      cases given
      exact entry_of_data reaches
  | error given =>
      rcases Option.map_eq_some_iff.mp given with ⟨message, fails, rfl⟩
      exact entry_of_error fails reaches

theorem part_of_error {message : String} (fails : milestone.error = some message) :
    (milestone.line moment).Part "error"
      (.object [("code", .text "REDEMPTION_FAILED"), ("message", .text message)]) := by
  have given : (milestone.line moment).error = some ⟨"REDEMPTION_FAILED", message⟩ :=
    Option.map_eq_some_iff.mpr ⟨message, fails, rfl⟩
  exact .error given

theorem leaf_of_part {name : String} {value : Value}
    (part : (milestone.line moment).Part name value)
    (reaches : value.kept.tree.Leaf path leaf) :
    (milestone.line moment).json.kept.tree.Leaf (name :: path) leaf :=
  LogLine.leaf_iff.mpr ⟨_, _, _, rfl, part, reaches⟩

theorem leaf_line_iff :
    (milestone.line moment).json.kept.tree.Leaf path leaf ↔ milestone.Entry moment path leaf := by
  constructor
  · intro reaches
    rcases LogLine.leaf_iff.mp reaches with ⟨name, value, rest, rfl, part, reaches⟩
    exact entry_of_part part reaches
  · intro entry
    cases entry with
    | timestamp => exact leaf_of_part .timestamp (leaf_of_text _)
    | info succeeds =>
        have reaches : (Value.text (milestone.line moment).level).kept.tree.Leaf [] _ :=
          leaf_text_iff.mpr ⟨rfl, by rw [level_line_of_none succeeds]⟩
        exact leaf_of_part .level reaches
    | alarm fails =>
        have reaches : (Value.text (milestone.line moment).level).kept.tree.Leaf [] _ :=
          leaf_text_iff.mpr ⟨rfl, by rw [level_line_of_some fails]⟩
        exact leaf_of_part .level reaches
    | category => exact leaf_of_part .category (leaf_of_text _)
    | message => exact leaf_of_part .message (leaf_of_text _)
    | correlation => exact leaf_of_part (.correlationId rfl) (leaf_of_text _)
    | redemption => exact leaf_of_part (.data rfl) (leaf_of_member (by simp) (leaf_of_text _))
    | chain => exact leaf_of_part (.data rfl) (leaf_of_member (by simp) (leaf_of_text _))
    | status => exact leaf_of_part (.data rfl) (leaf_of_member (by simp) (leaf_of_text _))
    | settled given =>
        have reaches : (Value.ofText? milestone.settlement).kept.tree.Leaf [] _ :=
          leaf_ofText?_iff.mpr ⟨rfl, by rw [given]⟩
        exact leaf_of_part (.data rfl) (leaf_of_member (by simp) reaches)
    | unsettled absent =>
        have reaches : (Value.ofText? milestone.settlement).kept.tree.Leaf [] _ :=
          leaf_ofText?_iff.mpr ⟨rfl, by rw [absent]⟩
        exact leaf_of_part (.data rfl) (leaf_of_member (by simp) reaches)
    | success succeeds =>
        have reaches : (Value.bool milestone.error.isNone).kept.tree.Leaf [] _ :=
          leaf_bool_iff.mpr ⟨rfl, by rw [succeeds]⟩
        exact leaf_of_part (.data rfl) (leaf_of_member (by simp) reaches)
    | failure fails =>
        have reaches : (Value.bool milestone.error.isNone).kept.tree.Leaf [] _ :=
          leaf_bool_iff.mpr ⟨rfl, by rw [fails]⟩
        exact leaf_of_part (.data rfl) (leaf_of_member (by simp) reaches)
    | code fails =>
        exact leaf_of_part (part_of_error fails) (leaf_of_member (by simp) (leaf_of_text _))
    | error fails =>
        exact leaf_of_part (part_of_error fails) (leaf_of_member (by simp) (leaf_of_text _))

theorem entry_success_iff :
    milestone.Entry moment ["data", "success"] (.bool true) ↔ milestone.error = none := by
  constructor
  · intro entry
    generalize atPath : ["data", "success"] = path at entry
    generalize isLeaf : Tree.bool true = leaf at entry
    cases entry with
    | success succeeds => exact succeeds
    | _ => simp_all
  · exact .success

theorem differs_of_entry (entry : milestone.Entry moment path leaf)
    (absent : ¬ other.Entry moment path leaf) : milestone.Differs other path := by
  have outcome {message : String} (fails : milestone.error = some message)
      (absent : ∀ message, other.error ≠ some message) :
      milestone.error.isNone ≠ other.error.isNone := by
    cases same : other.error with
    | none => simp [fails]
    | some message => exact absurd same (absent message)
  have nothing (succeeds : milestone.error = none) (absent : other.error ≠ none) :
      milestone.error.isNone ≠ other.error.isNone := by
    cases same : other.error with
    | none => exact absurd same absent
    | some message => simp [succeeds]
  cases entry with
  | timestamp => exact absurd .timestamp absent
  | info succeeds => exact .level (nothing succeeds fun same => absent (.info same))
  | alarm fails => exact .level (outcome fails fun _ same => absent (.alarm same))
  | category => exact .category fun same => absent (same ▸ .category)
  | message => exact .message fun same => absent (same ▸ .message)
  | correlation => exact .correlation fun same => absent (same ▸ .correlation)
  | redemption => exact .redemption fun same => absent (same ▸ .redemption)
  | chain => exact .chain fun same => absent (same ▸ .chain)
  | status => exact .status fun same => absent (same ▸ .status)
  | settled given => exact .settlement fun same => absent (.settled (same ▸ given))
  | unsettled none => exact .settlement fun same => absent (.unsettled (same ▸ none))
  | success succeeds => exact .success (nothing succeeds fun same => absent (.success same))
  | failure fails => exact .success (outcome fails fun _ same => absent (.failure same))
  | code fails => exact .code (outcome fails fun _ same => absent (.code same))
  | error fails => exact .error fun same => absent (.error (same ▸ fails))

end Milestone

/-! ## Faithful lines -/

/-- A line stays on its line and tells its parts and nothing else, whatever its
texts are; the dynamic reader agrees, unless the data is nested too deep for it or
has an object that it takes for a number. The line of a milestone has just its
entries, and the lines of two milestones differ only where the milestones do. -/
theorem LogLine.told_faithfully :
    (∀ line : LogLine, (∀ data ∈ line.data, data.Legible) →
      Json.IsVisible line.write.toList ∧
      (∃ tree, Tree.ofText? line.write = some tree ∧ line.Tells tree) ∧
      ((∀ data ∈ line.data, data.Fits (Json.nestingLimit - 1)) →
        Json.read line.write = .ok line.json.kept.sorted)) ∧
    (∀ (milestone : Milestone) (moment : Nat), ∃ tree,
      Tree.ofText? (milestone.line moment).write = some tree ∧
      (milestone.line moment).Tells tree ∧
      Json.read (milestone.line moment).write = .ok (milestone.line moment).json.kept.sorted ∧
      (∀ path leaf, tree.Leaf path leaf ↔ milestone.Entry moment path leaf) ∧
      (tree.Leaf ["data", "success"] (.bool true) ↔ milestone.error = none)) ∧
    ∀ (milestone other : Milestone) (moment : Nat), ∃ tree otherTree,
      Tree.ofText? (milestone.line moment).write = some tree ∧
      Tree.ofText? (other.line moment).write = some otherTree ∧
      ∀ path leaf, tree.Leaf path leaf → ¬ otherTree.Leaf path leaf →
        milestone.Differs other path := by
  refine ⟨fun line legible => ⟨isVisible_write legible,
    ⟨_, ofText?_write legible, tells_json legible⟩, read_write legible⟩,
    fun milestone moment => ?_, fun milestone other moment => ?_⟩
  · have legible := milestone.legible_line moment
    refine ⟨_, ofText?_write legible, tells_json legible,
      read_write legible (milestone.fits_line moment), fun _ _ => Milestone.leaf_line_iff, ?_⟩
    rw [Milestone.leaf_line_iff, Milestone.entry_success_iff]
  · refine ⟨_, _, ofText?_write (milestone.legible_line moment),
      ofText?_write (other.legible_line moment), fun path leaf => ?_⟩
    rw [Milestone.leaf_line_iff, Milestone.leaf_line_iff]
    exact Milestone.differs_of_entry

/-- A message that looks like the rest of a line, and a number with an unsigned
exponent. -/
def LogLine.forgery : LogLine :=
  { timestamp := "1970-01-01T00:00:00.000000001+00:00"
    level := "INFO"
    category := .system
    message := "tick\",\"level\":\"ERROR\"\x7d\n\x7b"
    correlationId := some "\\\t\x00"
    data := some (.object [("a", .array [.number "1E16", .null]), ("a", .text "\"")])
    error := some ⟨"CODE", "\u2028"⟩ }

theorem LogLine.told_faithfully_of_forgery :
    (∀ data ∈ forgery.data, data.Legible) ∧
      (∀ data ∈ forgery.data, data.Fits (Json.nestingLimit - 1)) ∧
      Json.IsVisible forgery.write.toList ∧
      (∃ tree, Tree.ofText? forgery.write = some tree ∧ forgery.Tells tree) ∧
      Json.read forgery.write = .ok forgery.json.kept.sorted := by
  have legible : ∀ data ∈ forgery.data, data.Legible := by
    rintro _ ⟨⟩
    have number : (Json.numberLiteral? "1E16").isSome := by decide
    exact ⟨⟨number, trivial, trivial⟩, trivial, trivial⟩
  have fits : ∀ data ∈ forgery.data, data.Fits (Json.nestingLimit - 1) := by
    rintro _ ⟨⟩
    exact ⟨by decide, by decide, ⟨by decide, trivial, trivial, trivial⟩, trivial, trivial⟩
  rcases told_faithfully.1 forgery legible with ⟨visible, told, reads⟩
  exact ⟨legible, fits, visible, told, reads fits⟩

end RedemptionRelay
