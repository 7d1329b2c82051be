import Mathlib.Data.List.DropRight
import RedemptionRelay.Text.Blank

/-! # What is left of a text without the blanks around it

Trimming takes away the blanks at both ends, all of them and nothing else.
-/

namespace RedemptionRelay.Blank

structure IsTrimmed (chars : List Char) : Prop where
  front : ∀ c ∈ chars.head?, isBlank c = false
  back : ∀ c ∈ chars.getLast?, isBlank c = false

structure Pads (core text : List Char) : Prop where
  trimmed : IsTrimmed core
  around : ∃ left right, text = left ++ core ++ right ∧
    (∀ c ∈ left, isBlank c = true) ∧ ∀ c ∈ right, isBlank c = true

variable {core text left right : List Char}

theorem IsTrimmed.of_solid (solid : ∀ c ∈ core, isBlank c = false) : IsTrimmed core where
  front c isFirst := solid c (List.mem_of_mem_head? isFirst)
  back c isLast := solid c (List.mem_of_getLast? isLast)

theorem IsTrimmed.pads (trimmed : IsTrimmed core) : Pads core core :=
  ⟨trimmed, [], [], (List.append_nil core).symm, List.forall_mem_nil _, List.forall_mem_nil _⟩

theorem Pads.mem {c : Char} (pads : Pads core text) (among : c ∈ core) : c ∈ text := by
  rcases pads.around with ⟨left, right, rfl, -⟩
  exact List.mem_append_left _ (List.mem_append_right _ among)

theorem IsTrimmed.reverse (trimmed : IsTrimmed core) : IsTrimmed core.reverse where
  front := List.head?_reverse ▸ trimmed.back
  back := List.getLast?_reverse ▸ trimmed.front

theorem dropWhile_of_front (front : ∀ c ∈ core.head?, isBlank c = false) :
    core.dropWhile isBlank = core := by
  cases core with
  | nil => rfl
  | cons c rest => exact List.dropWhile_cons_of_neg (by simp [front c rfl])

theorem front_dropWhile : ∀ c ∈ (text.dropWhile isBlank).head?, isBlank c = false := by
  intro c isFirst
  have solid := List.head?_dropWhile_not isBlank text
  rw [isFirst] at solid
  exact solid

theorem pads_trimChars (text : List Char) : Pads (trimChars text) text := by
  let rest := text.dropWhile isBlank
  have parts : trimChars text ++ rest.rtakeWhile isBlank = rest :=
    List.rdropWhile_append_rtakeWhile
  constructor
  · constructor
    · intro c isFirst
      refine front_dropWhile c (show c ∈ rest.head? from ?_)
      rw [← parts, List.head?_append, isFirst]
      rfl
    · intro c isLast
      rw [trimChars, List.getLast?_reverse] at isLast
      exact front_dropWhile c isLast
  · refine ⟨text.takeWhile isBlank, rest.rtakeWhile isBlank, ?_,
      fun c among => List.mem_takeWhile_imp among, fun c among => List.mem_rtakeWhile_imp among⟩
    rw [List.append_assoc, parts]
    exact List.takeWhile_append_dropWhile.symm

theorem Pads.trimChars_eq (pads : Pads core text) : trimChars text = core := by
  rcases pads with ⟨trimmed, left, right, rfl, leftBlank, rightBlank⟩
  have turnedBlank : ∀ c ∈ right.reverse, isBlank c = true := fun c among =>
    rightBlank c (List.mem_reverse.mp among)
  unfold trimChars
  rw [List.append_assoc, List.dropWhile_append_of_pos leftBlank]
  cases core with
  | nil =>
      rw [List.nil_append, List.dropWhile_eq_nil_iff.mpr rightBlank]
      rfl
  | cons c core =>
      have solid : isBlank c = false := trimmed.front c rfl
      rw [List.cons_append, List.dropWhile_cons_of_neg (by simp [solid]), ← List.cons_append,
        List.reverse_append, List.dropWhile_append_of_pos turnedBlank,
        dropWhile_of_front trimmed.reverse.front, List.reverse_reverse]

/-! ## Texts in two parts -/

variable {c : Char} {before after : List Char}

theorem back_rdropWhile : ∀ c ∈ (text.rdropWhile isBlank).getLast?, isBlank c = false := by
  rw [List.rdropWhile, List.getLast?_reverse]
  exact front_dropWhile

theorem trimChars_append_cons (solid : isBlank c = false) :
    trimChars (before ++ c :: after) =
      before.dropWhile isBlank ++ c :: after.rdropWhile isBlank := by
  refine Pads.trimChars_eq ⟨⟨?_, ?_⟩, before.takeWhile isBlank, after.rtakeWhile isBlank, ?_,
    fun c among => List.mem_takeWhile_imp among, fun c among => List.mem_rtakeWhile_imp among⟩
  · intro first isFirst
    rw [List.head?_append, Option.mem_def, Option.or_eq_some_iff] at isFirst
    rcases isFirst with among | ⟨-, isMark⟩
    · exact front_dropWhile first among
    · exact Option.some.inj isMark ▸ solid
  · intro last isLast
    rw [List.getLast?_append, List.getLast?_cons, Option.some_or, Option.mem_def] at isLast
    cases back : (after.rdropWhile isBlank).getLast? with
    | none =>
        rw [back] at isLast
        exact Option.some.inj isLast ▸ solid
    | some other =>
        rw [back] at isLast
        exact Option.some.inj isLast ▸ back_rdropWhile other back
  · have front : before.takeWhile isBlank ++ before.dropWhile isBlank = before :=
      List.takeWhile_append_dropWhile
    have back : after.rdropWhile isBlank ++ after.rtakeWhile isBlank = after :=
      List.rdropWhile_append_rtakeWhile
    conv_lhs => rw [← front, ← back]
    simp only [List.append_assoc, List.cons_append]

theorem trimChars_dropWhile (text : List Char) :
    trimChars (text.dropWhile isBlank) = trimChars text := by
  rw [trimChars, List.dropWhile_idempotent, trimChars]

theorem trimChars_rdropWhile (text : List Char) :
    trimChars (text.rdropWhile isBlank) = trimChars text := by
  have parts : text.rdropWhile isBlank ++ text.rtakeWhile isBlank = text :=
    List.rdropWhile_append_rtakeWhile
  rcases pads_trimChars (text.rdropWhile isBlank) with
    ⟨trimmed, left, right, same, leftBlank, rightBlank⟩
  refine (Pads.trimChars_eq ⟨trimmed, left, right ++ text.rtakeWhile isBlank, ?_, leftBlank,
    List.forall_mem_append.mpr ⟨rightBlank, fun c among => List.mem_rtakeWhile_imp among⟩⟩).symm
  rw [← List.append_assoc, ← same, parts]

end RedemptionRelay.Blank
