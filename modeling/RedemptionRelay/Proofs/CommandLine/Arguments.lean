import Mathlib.Data.List.Basic
import Mathlib.Data.List.Nodup
import RedemptionRelay.CommandLine

/-! # What the arguments of a command are for

An argument behind a flag is its value, whatever it looks like. Any other one is
a flag if it begins with two dashes, and stands for itself if it does not. The
arguments that stand for themselves are counted by these rules. The value of a
flag is looked for by the text of the flag alone, so that it can be found behind
a value that looks like the flag, where an argument stands for itself.
-/

namespace RedemptionRelay.CommandLine

inductive Role where
  | flag
  | value
  | plain
deriving DecidableEq, Repr

/-- What the argument at a place is for, told by the one before it. -/
def role? (arguments : List String) : Nat → Option Role
  | 0 => arguments[0]?.map fun argument => if isFlag argument then .flag else .plain
  | place + 1 => arguments[place + 1]?.map fun argument =>
      if role? arguments place = some .flag then .value
      else if isFlag argument then .flag else .plain

def plainPlaces (arguments : List String) : List Nat :=
  (List.range arguments.length).filter fun place => role? arguments place = some .plain

/-- The place behind the first argument that is the flag by its text. -/
def valuePlace? (flag : String) (arguments : List String) : Option Nat :=
  (arguments.findIdx? (· = flag)).map (· + 1)

/-! ## Roles -/

section

variable {argument following : String} {arguments rest : List String} {place : Nat}

theorem isSome_role? : (role? arguments place).isSome = true ↔ place < arguments.length := by
  cases place <;> simp [role?]

theorem role?_succ (there : arguments[place + 1]? = some argument) :
    role? arguments (place + 1) =
      some (if role? arguments place = some .flag then .value
        else if isFlag argument then .flag else .plain) := by
  rw [role?, there]
  rfl

theorem role?_of_ne_value (there : arguments[place]? = some argument)
    (noValue : role? arguments place ≠ some .value) :
    role? arguments place = some (if isFlag argument then .flag else .plain) := by
  cases place with
  | zero =>
      rw [role?, there]
      rfl
  | succ place =>
      rw [role?_succ there] at noValue ⊢
      split at noValue
      · exact absurd rfl noValue
      · next apart => rw [if_neg apart]

theorem role?_succ_eq_value_iff (inside : place + 1 < arguments.length) :
    role? arguments (place + 1) = some .value ↔ role? arguments place = some .flag := by
  rw [role?_succ (List.getElem?_eq_getElem inside)]
  split
  · next behind => simp [behind]
  · next apart => split <;> simp [apart]

/-! ## Shorter lists -/

theorem role?_of_plain (plain : isFlag argument = false) (place : Nat) :
    role? (argument :: rest) (place + 1) = role? rest place := by
  induction place with
  | zero => simp [role?, plain]
  | succ place induction =>
      rw [role?, induction]
      rfl

theorem role?_of_flag (dashes : isFlag argument = true) (place : Nat) :
    role? (argument :: following :: rest) (place + 2) = role? rest place := by
  induction place with
  | zero => simp [role?, dashes]
  | succ place induction =>
      rw [role?, induction]
      rfl

theorem plainPlaces_of_plain (plain : isFlag argument = false) :
    plainPlaces (argument :: rest) = 0 :: (plainPlaces rest).map (· + 1) := by
  have first : role? (argument :: rest) 0 = some .plain := by simp [role?, plain]
  unfold plainPlaces
  rw [List.length_cons, List.range_succ_eq_map, List.filter_cons_of_pos (by simp [first]),
    List.filter_map]
  simp only [Function.comp_def, Nat.succ_eq_add_one, role?_of_plain plain]

theorem plainPlaces_of_flag (dashes : isFlag argument = true) :
    plainPlaces (argument :: following :: rest) = (plainPlaces rest).map (· + 2) := by
  have first : role? (argument :: following :: rest) 0 = some .flag := by simp [role?, dashes]
  have second : role? (argument :: following :: rest) 1 = some .value := by
    rw [role?_succ rfl, first]
    rfl
  unfold plainPlaces
  rw [List.length_cons, List.length_cons, List.range_succ_eq_map, List.range_succ_eq_map]
  rw [List.filter_cons_of_neg (by simp [first]), List.map_cons,
    List.filter_cons_of_neg (by simp [second]), List.map_map, List.filter_map]
  simp only [Function.comp_def, Nat.succ_eq_add_one, role?_of_flag dashes]

end

/-! ## Counted arguments -/

theorem getElem?_positionals (arguments : List String) (index : Nat) :
    (positionals arguments)[index]? = (plainPlaces arguments)[index]?.bind (arguments[·]?) := by
  fun_induction positionals arguments generalizing index with
  | case1 => rfl
  | case2 argument dashes => simp [plainPlaces, role?, dashes]
  | case3 argument stands =>
      have plain : isFlag argument = false := by simpa using stands
      rw [plainPlaces_of_plain plain]
      cases index <;> rfl
  | case4 argument following rest dashes induction =>
      rw [induction, plainPlaces_of_flag dashes, List.getElem?_map, Option.bind_map]
      rfl
  | case5 argument following rest stands induction =>
      have plain : isFlag argument = false := by simpa using stands
      rw [plainPlaces_of_plain plain]
      cases index with
      | zero => rfl
      | succ index =>
          rw [List.getElem?_cons_succ, List.getElem?_cons_succ, induction, List.getElem?_map,
            Option.bind_map]
          rfl

theorem mem_plainPlaces_iff {arguments : List String} {place : Nat} :
    place ∈ plainPlaces arguments ↔ role? arguments place = some .plain := by
  rw [plainPlaces, List.mem_filter, List.mem_range, decide_eq_true_eq, and_iff_right_iff_imp]
  intro plain
  rw [← isSome_role?, plain]
  rfl

theorem nodup_plainPlaces (arguments : List String) : (plainPlaces arguments).Nodup :=
  List.nodup_range.filter _

theorem existsUnique_index {arguments : List String} {place : Nat}
    (plain : role? arguments place = some .plain) :
    ∃! index : Nat, (plainPlaces arguments)[index]? = some place := by
  rcases List.getElem?_of_mem (mem_plainPlaces_iff.mpr plain) with ⟨index, there⟩
  refine ⟨index, there, fun other thereOther => ?_⟩
  have inside := (List.getElem?_eq_some_iff.mp thereOther).1
  exact (List.getElem?_inj inside (nodup_plainPlaces arguments)).mp (thereOther.trans there.symm)

theorem positional_eq (arguments : List String) (index : Nat) (what : String) :
    positional arguments index what =
      ((plainPlaces arguments)[index]?.bind (arguments[·]?)).elim
        (.error (.validation s!"missing {what}")) .ok := by
  rw [positional, getElem?_positionals]
  cases (plainPlaces arguments)[index]?.bind (arguments[·]?) <;> rfl

/-! ## Values of flags -/

theorem flagValue?_eq (flag : String) (arguments : List String) :
    flagValue? flag arguments = (valuePlace? flag arguments).bind (arguments[·]?) := by
  induction arguments with
  | nil => rfl
  | cons argument rest induction =>
      rw [flagValue?, valuePlace?, List.findIdx?_cons]
      by_cases same : argument = flag
      · simp [same, List.head?_eq_getElem?]
      · rw [if_neg same, induction, valuePlace?]
        simp [same, Option.bind_map, Function.comp_def]

section

variable {flag argument : String} {arguments : List String} {place : Nat}

theorem getElem?_of_valuePlace? (found : valuePlace? flag arguments = some (place + 1)) :
    arguments[place]? = some flag := by
  rcases Option.map_eq_some_iff.mp found with ⟨index, isFound, same⟩
  cases same
  rcases List.findIdx?_eq_some_iff_getElem.mp isFound with ⟨inside, isFlag, -⟩
  rw [List.getElem?_eq_getElem inside, of_decide_eq_true isFlag]

variable (dashes : isFlag flag = true) (found : valuePlace? flag arguments = some (place + 1))
include dashes found

theorem role?_of_valuePlace? (noValue : role? arguments place ≠ some .value) :
    role? arguments place = some .flag := by
  rw [role?_of_ne_value (getElem?_of_valuePlace? found) noValue, if_pos dashes]

/-- An argument that is taken for the value of a flag stands for itself just
where the flag was found in the place of a value. -/
theorem role?_behind_eq_plain_iff (there : arguments[place + 1]? = some argument) :
    role? arguments (place + 1) = some .plain ↔
      role? arguments place = some .value ∧ isFlag argument = false := by
  rw [role?_succ there]
  by_cases isValue : role? arguments place = some .value
  · simp [isValue]
  · simp [role?_of_valuePlace? dashes found isValue]

end

/-- Every argument has one use: as a flag, as the value of the flag before it, or
as one of the arguments that are counted. -/
inductive Serves (arguments : List String) (place : Nat) (argument : String) : Prop
  | flag (role : role? arguments place = some .flag) (dashes : isFlag argument = true)
      (uncounted : place ∉ plainPlaces arguments)
  | value {before : Nat} (role : role? arguments place = some .value) (next : place = before + 1)
      (behind : role? arguments before = some .flag) (uncounted : place ∉ plainPlaces arguments)
  | plain (role : role? arguments place = some .plain) (noDashes : isFlag argument = false)
      (counted : ∃! index : Nat, (plainPlaces arguments)[index]? = some place)

theorem serves {arguments : List String} {place : Nat} {argument : String}
    (there : arguments[place]? = some argument) : Serves arguments place argument := by
  have uncounted {role : Role} (isRole : role? arguments place = some role)
      (other : role ≠ .plain) : place ∉ plainPlaces arguments := by
    rw [mem_plainPlaces_iff, isRole]
    exact fun same => other (Option.some.inj same)
  by_cases isValue : role? arguments place = some .value
  · cases place with
    | zero =>
        rw [role?, there] at isValue
        cases dashes : isFlag argument <;> simp [dashes] at isValue
    | succ before =>
        have inside := (List.getElem?_eq_some_iff.mp there).1
        exact .value isValue rfl ((role?_succ_eq_value_iff inside).mp isValue)
          (uncounted isValue nofun)
  · have role := role?_of_ne_value there isValue
    cases dashes : isFlag argument with
    | true =>
        rw [dashes] at role
        exact .flag role dashes (uncounted role nofun)
    | false =>
        rw [dashes] at role
        exact .plain role dashes (existsUnique_index role)

theorem arguments_told_apart (arguments : List String) :
    (∀ index what, positional arguments index what =
      ((plainPlaces arguments)[index]?.bind (arguments[·]?)).elim
        (.error (.validation s!"missing {what}")) .ok) ∧
    (∀ place argument, arguments[place]? = some argument → Serves arguments place argument) ∧
    (∀ flag, flagValue? flag arguments = (valuePlace? flag arguments).bind (arguments[·]?)) ∧
    ∀ flag place argument, isFlag flag = true → valuePlace? flag arguments = some (place + 1) →
      arguments[place + 1]? = some argument →
      (role? arguments (place + 1) = some .value ↔ role? arguments place = some .flag) ∧
      (place + 1 ∈ plainPlaces arguments ↔
        role? arguments place = some .value ∧ isFlag argument = false) := by
  refine ⟨positional_eq arguments, fun _ _ => serves, fun flag => flagValue?_eq flag arguments, ?_⟩
  intro flag place argument dashes found there
  have inside := (List.getElem?_eq_some_iff.mp there).1
  rw [mem_plainPlaces_iff]
  exact ⟨role?_succ_eq_value_iff inside, role?_behind_eq_plain_iff dashes found there⟩

/-- A flag that is the value of another one, a repeated flag and a last one
without a value. -/
theorem arguments_told_apart_of_repeated_flag :
    let arguments := ["Base", "--chain", "--all", "x", "--chain", "y", "--last"]
    positional arguments 1 "status" = .ok "x" ∧ Serves arguments 3 "x" ∧
      flagValue? "--chain" arguments = some "--all" ∧ 2 ∉ plainPlaces arguments ∧
      flagValue? "--last" arguments = none := by
  intro arguments
  rcases arguments_told_apart arguments with ⟨counts, serve, values, told⟩
  have isChain : isFlag "--chain" = true := by decide +kernel
  have found : valuePlace? "--chain" arguments = some 2 := by decide +kernel
  have behind := told "--chain" 1 "--all" isChain found rfl
  refine ⟨(counts 1 "status").trans (by decide +kernel), serve 3 "x" rfl,
    (values "--chain").trans (by rw [found]; rfl), ?_, (values "--last").trans (by decide +kernel)⟩
  intro counted
  have isValue := (behind.2.mp counted).1
  exact absurd isValue (by decide +kernel)

/-- The last argument is counted, and it is taken for the value of a flag that is
itself the value of another one. -/
theorem argument_used_twice :
    let arguments := ["--all", "--chain", "pending"]
    arguments[2]? = some "pending" ∧ (plainPlaces arguments)[0]? = some 2 ∧
      valuePlace? "--chain" arguments = some 2 ∧
      positional arguments 0 "status" = .ok "pending" ∧
      flagValue? "--chain" arguments = some "pending" ∧
      Command.parse "list" arguments = .ok (.list .pending (some "pending")) := by
  decide +kernel

end RedemptionRelay.CommandLine
