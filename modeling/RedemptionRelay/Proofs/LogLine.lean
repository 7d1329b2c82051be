import Mathlib.Data.List.Nodup
import RedemptionRelay.LogLine
import RedemptionRelay.Proofs.Json.Document

/-! # What a log line tells

A line is read back as its parts and nothing else, whatever texts it was given.
-/

namespace RedemptionRelay

open Json (Tree Value)

namespace LogLine

/-! ## Parts -/

/-- What the line has under a name. -/
inductive Part (line : LogLine) : String → Value → Prop
  | timestamp : Part line "timestamp" (.text line.timestamp)
  | level : Part line "level" (.text line.level)
  | category : Part line "category" (.text line.category.text)
  | message : Part line "message" (.text line.message)
  | correlationId {id : String} (given : line.correlationId = some id) :
      Part line "correlation_id" (.text id)
  | data {value : Value} (given : line.data = some value) : Part line "data" value
  | error {details : ErrorDetails} (given : line.error = some details) :
      Part line "error" (.object [("code", .text details.code), ("message", .text details.message)])

/-- The tree is one object that has the parts of the line, each once, and
nothing else. -/
inductive Tells (line : LogLine) : Tree → Prop
  | object {members : List (Option String × Tree)} (once : (members.map (·.1)).Nodup)
      (each : ∀ member ∈ members, ∃ name value,
        member.1 = some name ∧ line.Part name value ∧ member.2.Holds value)
      (all : ∀ name value, line.Part name value → ∃ tree,
        (some name, tree) ∈ members ∧ tree.Holds value) :
      Tells line (.object members)

section

variable {line : LogLine}

def members (line : LogLine) : List (String × Value) :=
  [("timestamp", .text line.timestamp),
    ("level", .text line.level),
    ("category", .text line.category.text),
    ("message", .text line.message)] ++
  optionalMember "correlation_id" .text line.correlationId ++
  optionalMember "data" id line.data ++
  optionalMember "error"
    (fun details =>
      .object [("code", .text details.code), ("message", .text details.message)])
    line.error

theorem json_eq : line.json = .object line.members :=
  rfl

theorem mem_optionalMember_iff {α : Type} {name : String} {json : α → Value} {option : Option α}
    {member : String × Value} :
    member ∈ optionalMember name json option ↔
      ∃ value, option = some value ∧ member = (name, json value) := by
  cases option <;> simp [optionalMember]

theorem mem_members_iff {name : String} {value : Value} :
    (name, value) ∈ line.members ↔ line.Part name value := by
  simp only [members, List.mem_append, List.mem_cons, List.not_mem_nil, or_false,
    mem_optionalMember_iff, Prod.mk.injEq]
  constructor
  · rintro (((((⟨rfl, rfl⟩ | ⟨rfl, rfl⟩ | ⟨rfl, rfl⟩ | ⟨rfl, rfl⟩) | ⟨id, given, rfl, rfl⟩) |
      ⟨data, given, rfl, rfl⟩) | ⟨details, given, rfl, rfl⟩))
    · exact .timestamp
    · exact .level
    · exact .category
    · exact .message
    · exact .correlationId given
    · exact .data given
    · exact .error given
  · intro part
    cases part <;> simp_all

theorem names_optionalMember {α : Type} (name : String) (json : α → Value) (option : Option α) :
    ((optionalMember name json option).map (·.1)).Sublist [name] := by
  cases option with
  | none => exact List.nil_sublist _
  | some value => exact List.Sublist.refl _

theorem nodup_members (line : LogLine) : (line.members.map (·.1)).Nodup := by
  have among : (line.members.map (·.1)).Sublist
      ["timestamp", "level", "category", "message", "correlation_id", "data", "error"] := by
    simp only [members, List.map_append]
    exact (((List.Sublist.refl _).append (names_optionalMember ..)).append
      (names_optionalMember ..)).append (names_optionalMember ..)
  exact among.nodup (by decide)

/-! ## Reading back -/

theorem legible_json (legible : ∀ data ∈ line.data, data.Legible) : line.json.Legible := by
  refine Value.membersLegible_iff.mpr ?_
  rintro ⟨name, value⟩ isIn
  cases mem_members_iff.mp isIn with
  | data given => exact legible _ given
  | error => exact ⟨trivial, trivial, trivial⟩
  | timestamp | level | category | message | correlationId => trivial

theorem fits_json (fits : ∀ data ∈ line.data, data.Fits (Json.nestingLimit - 1)) :
    line.json.Fits Json.nestingLimit := by
  have opens : line.members.head?.map (·.1) ≠ some Json.numberKey := by
    simp [members, Json.numberKey]
  refine ⟨by decide, opens, Value.membersFit_iff.mpr ?_⟩
  rintro ⟨name, value⟩ isIn
  cases mem_members_iff.mp isIn with
  | data given => exact fits _ given
  | error => exact ⟨by decide, by simp [Json.numberKey], trivial, trivial, trivial⟩
  | timestamp | level | category | message | correlationId => trivial

theorem tells_of_holds {tree : Tree} (holds : tree.Holds line.json) : line.Tells tree := by
  rw [json_eq] at holds
  cases holds with
  | object each =>
      refine .object ?_ (fun member isIn => ?_) fun name value part => ?_
      · rw [each.names]
        exact (nodup_members line).map fun _ _ => Option.some.inj
      · rcases each.exists_of_tree isIn with ⟨name, value, there, isNamed, holds⟩
        exact ⟨name, value, isNamed, mem_members_iff.mp there, holds⟩
      · exact each.exists_of_member (mem_members_iff.mpr part)

section

variable (legible : ∀ data ∈ line.data, data.Legible)
include legible

theorem isVisible_write : Json.IsVisible line.write.toList :=
  Json.isVisible_write (legible_json legible)

theorem ofText?_write : Tree.ofText? line.write = some line.json.kept.tree :=
  Tree.ofText?_write_kept (legible_json legible)

theorem tells_json : line.Tells line.json.kept.tree :=
  tells_of_holds (Json.holds_kept line.json (legible_json legible))

theorem read_write (fits : ∀ data ∈ line.data, data.Fits (Json.nestingLimit - 1)) :
    Json.read line.write = .ok line.json.kept.sorted :=
  Json.read_write (legible_json legible) (fits_json fits)

end

theorem leaf_iff {path : List String} {leaf : Tree} :
    line.json.kept.tree.Leaf path leaf ↔
      ∃ name value rest, path = name :: rest ∧ line.Part name value ∧
        value.kept.tree.Leaf rest leaf := by
  rw [json_eq, Json.leaf_kept_object_iff (by simp [members])]
  simp only [mem_members_iff]

end

end LogLine

end RedemptionRelay
