import Mathlib.Data.List.Nodup
import RedemptionRelay.Json.Shape

/-! # What stands for a structure

A document of a fixed shape is told here by what it holds, apart from how it is
read: which fields of a structure are given, and what an absent field or a null
one means. The readers accept just these documents.
-/

namespace RedemptionRelay.Json

theorem mapM_eq_some_iff {α β : Type} {read : α → Option β} {Spells : α → β → Prop}
    (reads : ∀ item content, read item = some content ↔ Spells item content) {items : List α}
    {contents : List β} :
    items.mapM read = some contents ↔ List.Forall₂ Spells items contents := by
  induction items generalizing contents with
  | nil =>
      constructor
      · rintro ⟨⟩
        exact .nil
      · rintro ⟨⟩
        rfl
  | cons item items induction =>
      simp only [List.mapM_cons, Option.bind_eq_bind, Option.bind_eq_some_iff, reads, induction,
        Option.pure_def, Option.some.injEq]
      constructor
      · rintro ⟨content, spells, others, each, rfl⟩
        exact .cons spells each
      · intro each
        cases each with
        | cons spells each => exact ⟨_, spells, _, each, rfl⟩

namespace Tree

/-! ## Structures -/

/-- The tree is a structure in which `field` tells what is given for each name:
an object with each of the names at most once, among any others, or an array
that has its items in the order of the names. -/
inductive IsStructure (names : List String) (leading : Nat) (field : String → Option Tree) :
    Tree → Prop
  | object {members : List (Option String × Tree)}
      (named : ∀ member ∈ members, member.1.isSome)
      (once : ∀ name ∈ names, members.countP (·.1 == some name) ≤ 1)
      (given : ∀ name ∈ names, ∀ tree, field name = some tree ↔ (some name, tree) ∈ members) :
      IsStructure names leading field (.object members)
  | array {items : List Tree} (enough : leading ≤ items.length) (few : items.length ≤ names.length)
      (given : ∀ (place : Nat) (name : String), names[place]? = some name →
        field name = items[place]?) :
      IsStructure names leading field (.array items)

theorem namedMembers_eq_some_iff {members : List (Option String × Tree)} {fields : Fields} :
    namedMembers members = some fields ↔
      members = fields.map fun field => (some field.1, field.2) := by
  induction members generalizing fields with
  | nil =>
      constructor
      · rintro ⟨⟩
        rfl
      · intro same
        rw [List.map_eq_nil_iff.mp same.symm]
        rfl
  | cons member members induction =>
      rcases member with ⟨name, tree⟩
      simp only [namedMembers, Option.bind_eq_bind, Option.bind_eq_some_iff, induction,
        Option.pure_def, Option.some.injEq]
      constructor
      · rintro ⟨name, rfl, fields, rfl, rfl⟩
        rfl
      · intro same
        cases fields with
        | nil => cases same
        | cons field fields =>
            cases same
            exact ⟨_, rfl, _, rfl, rfl⟩

theorem exists_namedMembers {members : List (Option String × Tree)}
    (named : ∀ member ∈ members, member.1.isSome) :
    ∃ fields : Fields, members = fields.map fun field => (some field.1, field.2) := by
  refine ⟨members.map fun member => (member.1.getD "", member.2), ?_⟩
  rw [List.map_map]
  refine (List.map_id members).symm.trans (List.map_congr_left ?_)
  rintro ⟨name, tree⟩ isIn
  rcases Option.isSome_iff_exists.mp (named _ isIn) with ⟨name, rfl⟩
  rfl

theorem lookup_eq_some_iff {fields : Fields} (distinct : (fields.map (·.1)).Nodup) {name : String}
    {tree : Tree} : fields.lookup name = some tree ↔ (name, tree) ∈ fields := by
  induction fields with
  | nil => simp
  | cons field fields induction =>
      rcases field with ⟨other, found⟩
      rw [List.map_cons, List.nodup_cons] at distinct
      rw [List.lookup_cons, List.mem_cons, ← induction distinct.2]
      by_cases same : name = other
      · subst same
        have absent : fields.lookup name ≠ some tree := fun there =>
          distinct.1 (List.mem_map.mpr ⟨_, (induction distinct.2).mp there, rfl⟩)
        simp [absent, eq_comm]
      · simp [same, beq_false_of_ne same]

theorem lookup_zip {names : List String} {items : List Tree} (distinct : names.Nodup) {place : Nat}
    {name : String} (there : names[place]? = some name) :
    (names.zip items).lookup name = items[place]? := by
  induction names generalizing items place with
  | nil => cases there
  | cons first names induction =>
      rw [List.nodup_cons] at distinct
      cases items with
      | nil => rfl
      | cons item items =>
          rw [List.zip_cons_cons, List.lookup_cons]
          cases place with
          | zero =>
              cases there
              simp
          | succ place =>
              have different : name ≠ first := fun same =>
                distinct.1 (same ▸ List.mem_of_getElem? there)
              rw [beq_false_of_ne different]
              exact induction distinct.2 there

section

variable {names : List String} {leading : Nat} {field : String → Option Tree} {tree : Tree}

theorem nodup_known_iff {fields : Fields} :
    ((fields.filter fun field => names.contains field.1).map (·.1)).Nodup ↔
      ∀ name ∈ names, fields.countP (·.1 == name) ≤ 1 := by
  have counts (name : String) :
      ((fields.filter fun field => names.contains field.1).map (·.1)).count name =
        fields.countP fun field => field.1 == name && names.contains field.1 := by
    rw [List.count, List.countP_map, List.countP_filter]
    rfl
  rw [List.nodup_iff_count_le_one]
  constructor
  · intro once name known
    refine Nat.le_trans (List.countP_mono_left fun field _ same => ?_) (counts name ▸ once name)
    simp_all
  · intro once name
    rw [counts]
    by_cases known : name ∈ names
    · exact Nat.le_trans (List.countP_mono_left fun field _ both => by simp_all) (once name known)
    · have none : fields.countP (fun field => field.1 == name && names.contains field.1) = 0 := by
        rw [List.countP_eq_zero]
        rintro field - both
        simp only [Bool.and_eq_true, beq_iff_eq, List.contains_iff_mem] at both
        exact known (both.1 ▸ both.2)
      omega

/-- Just the structures are read, and the fields that are found are those given. -/
theorem isStructure_iff (distinct : names.Nodup) :
    IsStructure names leading field tree ↔
      ∃ fields, tree.fields? names leading = some fields ∧
        ∀ name ∈ names, fields.lookup name = field name := by
  constructor
  · intro structured
    cases structured with
    | object named once given =>
        rcases exists_namedMembers named with ⟨fields, rfl⟩
        have distinctKnown := nodup_known_iff.mpr fun name known => by
          have := once name known
          rw [List.countP_map] at this
          simpa [Function.comp_def] using this
        refine ⟨fields.filter fun field => names.contains field.1, ?_, fun name known => ?_⟩
        · rw [fields?, namedMembers_eq_some_iff.mpr rfl]
          exact if_pos distinctKnown
        · refine Option.ext fun tree => ?_
          rw [lookup_eq_some_iff distinctKnown, given name known]
          simp [known]
    | array enough few given =>
        refine ⟨_, if_pos ⟨enough, few⟩, fun name known => ?_⟩
        rcases List.getElem?_of_mem known with ⟨place, there⟩
        rw [lookup_zip distinct there, given place name there]
  · rintro ⟨fields, reads, given⟩
    unfold fields? at reads
    split at reads
    · rcases Option.bind_eq_some_iff.mp reads with ⟨all, isNamed, reads⟩
      rw [namedMembers_eq_some_iff.mp isNamed]
      dsimp only at reads
      split at reads
      · next distinctKnown =>
          cases reads
          refine .object ?_ (fun name known => ?_) fun name known tree => ?_
          · rintro member isIn
            rcases List.mem_map.mp isIn with ⟨field, -, rfl⟩
            rfl
          · have := nodup_known_iff.mp distinctKnown name known
            rw [List.countP_map]
            simpa [Function.comp_def] using this
          · rw [← given name known, lookup_eq_some_iff distinctKnown]
            simp [known]
      · cases reads
    · split at reads
      · next lengths =>
          cases reads
          refine .array lengths.1 lengths.2 fun place name there => ?_
          rw [← given name (List.mem_of_getElem? there), lookup_zip distinct there]
      · cases reads
    · cases reads

theorem exists_isStructure_iff (distinct : names.Nodup) {Holds : (String → Option Tree) → Prop}
    (known : ∀ field other, (∀ name ∈ names, field name = other name) → Holds field →
      Holds other) :
    (∃ field, IsStructure names leading field tree ∧ Holds field) ↔
      ∃ fields : Fields, tree.fields? names leading = some fields ∧
        Holds (List.lookup · fields) := by
  constructor
  · rintro ⟨field, structured, holds⟩
    rcases (isStructure_iff distinct).mp structured with ⟨fields, reads, given⟩
    exact ⟨fields, reads, known _ _ (fun name isKnown => (given name isKnown).symm) holds⟩
  · rintro ⟨fields, reads, holds⟩
    exact ⟨_, (isStructure_iff distinct).mpr ⟨fields, reads, fun _ _ => rfl⟩, holds⟩

end

/-! ## Fields -/

/-- An absent field and a null one have no content. -/
inductive MayHold {α : Type} (Spells : Tree → α → Prop) : Option Tree → Option α → Prop
  | absent : MayHold Spells none none
  | null : MayHold Spells (some .null) none
  | given {tree : Tree} {content : α} (spells : Spells tree content) :
      MayHold Spells (some tree) (some content)

/-- An absent field has the content that it has by default. -/
inductive HoldsOr {α : Type} (fallback : α) (Spells : Tree → α → Prop) : Option Tree → α → Prop
  | absent : HoldsOr fallback Spells none fallback
  | given {tree : Tree} {content : α} (spells : Spells tree content) :
      HoldsOr fallback Spells (some tree) content

def SpellsText (tree : Tree) (content : String) : Prop :=
  tree = .text (some content)

def SpellsBool (tree : Tree) (value : Bool) : Prop :=
  tree = .bool value

theorem text?_eq_some_iff (tree : Tree) (content : String) :
    tree.text? = some content ↔ SpellsText tree content := by
  unfold SpellsText
  cases tree <;> simp [text?]

theorem bool?_eq_some_iff (tree : Tree) (value : Bool) :
    tree.bool? = some value ↔ SpellsBool tree value := by
  unfold SpellsBool
  cases tree <;> simp [bool?]

section

variable {α : Type} {read : Tree → Option α} {Spells : Tree → α → Prop}
  (reads : ∀ tree content, read tree = some content ↔ Spells tree content)
include reads

variable {fields : Fields} {name : String}

section

variable (notNull : read .null = none)
include notNull

theorem optional?_eq_some_iff {tree : Tree} {content : Option α} :
    tree.optional? read = some content ↔ MayHold Spells (some tree) content := by
  cases tree with
  | null =>
      constructor
      · rintro ⟨⟩
        exact .null
      · intro holds
        cases holds with
        | null => rfl
        | given spells =>
            rw [← reads, notNull] at spells
            cases spells
  | bool | number | text | array | object =>
      constructor
      · intro found
        rcases Option.map_eq_some_iff.mp found with ⟨content, isContent, rfl⟩
        exact .given ((reads _ _).mp isContent)
      · intro holds
        cases holds with
        | given spells => exact Option.map_eq_some_iff.mpr ⟨_, (reads _ _).mpr spells, rfl⟩

theorem Fields.optional?_eq_some_iff {content : Option α} :
    fields.optional? name read = some content ↔ MayHold Spells (fields.lookup name) content := by
  unfold Fields.optional?
  cases fields.lookup name with
  | none =>
      constructor
      · rintro ⟨⟩
        exact .absent
      · rintro ⟨⟩
        rfl
  | some tree => exact Tree.optional?_eq_some_iff reads notNull

end

theorem Fields.defaulted?_eq_some_iff {fallback content : α} :
    fields.defaulted? name fallback read = some content ↔
      HoldsOr fallback Spells (fields.lookup name) content := by
  unfold Fields.defaulted?
  cases fields.lookup name with
  | none =>
      constructor
      · rintro ⟨⟩
        exact .absent
      · rintro ⟨⟩
        rfl
  | some tree =>
      constructor
      · exact fun found => .given ((reads _ _).mp found)
      · intro holds
        cases holds with
        | given spells => exact (reads _ _).mpr spells

theorem list?_eq_some_iff {tree : Tree} {contents : List α} :
    tree.list? read = some contents ↔
      ∃ items, tree = .array items ∧ List.Forall₂ Spells items contents := by
  cases tree with
  | array items =>
      rw [list?, mapM_eq_some_iff reads]
      constructor
      · exact fun each => ⟨items, rfl, each⟩
      · rintro ⟨_, ⟨⟩, each⟩
        exact each
  | null | bool | number | text | object => simp [list?]

end

end Tree

end RedemptionRelay.Json
