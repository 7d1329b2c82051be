import Mathlib.Data.List.Forall2
import Mathlib.Data.List.Nodup
import RedemptionRelay.Proofs.Text.Blank
import RedemptionRelay.Service

/-! # Lists of chains

The text of a list is read as the chains that its entries spell, in their order,
and read at all only if every entry spells one and no name comes twice. The
service then attends to these chains and to no other.
-/

namespace RedemptionRelay

namespace ChainKind

theorem ofText?_eq_some_iff {text : String} {kind : ChainKind} :
    ofText? text = some kind ↔ Word.lower text = kind.text := by
  constructor
  · intro reads
    have found : all.find? (·.text == Word.lower text) = some kind := reads
    have same := List.find?_some found
    exact (beq_iff_eq.mp same).symm
  · intro same
    unfold ofText?
    rw [same]
    cases kind <;> decide

theorem lower_text (kind : ChainKind) : Word.lower kind.text = kind.text := by
  cases kind <;> decide

theorem isTrimmed_text (kind : ChainKind) : Blank.IsTrimmed kind.text.toList := by
  have solid : kind.text.toList.all (!Blank.isBlank ·) = true := by cases kind <;> decide
  exact .of_solid (by simpa using solid)

end ChainKind

namespace Chain

/-! ## One entry -/

/-- A name that is not empty, a colon, and the name of a kind in any letter case;
there may be blanks around both. -/
def Spells (entry : List Char) (chain : Chain) : Prop :=
  ∃ before after kind, entry = before ++ ':' :: after ∧ ':' ∉ before ∧
    Blank.Pads chain.name.toList before ∧ chain.name ≠ "" ∧
    Blank.Pads kind after ∧ Word.lower (String.ofList kind) = chain.kind.text

theorem colon_solid : Blank.isBlank ':' = false := by
  decide

theorem ofEntry_of_plain {entry : String} (plain : ':' ∉ entry.toList) :
    ofEntry entry = .error (.expectedNameAndKind entry) := by
  have nothing : (Blank.trimChars entry.toList).dropWhile (· ≠ ':') = [] := by
    rw [List.dropWhile_eq_nil_iff]
    intro c among
    have inEntry := (Blank.pads_trimChars entry.toList).mem among
    exact decide_eq_true fun isColon => plain (isColon ▸ inEntry)
  unfold ofEntry
  dsimp only
  rw [nothing]

theorem ofEntry_of_split {before after : List Char} (first : ':' ∉ before) :
    ofEntry (String.ofList (before ++ ':' :: after)) =
      if (Blank.trimChars before).isEmpty then
        .error (.emptyName (String.ofList (before ++ ':' :: after)))
      else
        (ChainKind.ofText? (String.ofList (Blank.trimChars after))).elim
          (.error (.unknownKind (String.ofList (Blank.trimChars after))))
          fun kind => .ok ⟨String.ofList (Blank.trimChars before), kind⟩ := by
  have plain : ∀ c ∈ before.dropWhile Blank.isBlank, decide (c ≠ ':') = true := fun c among =>
    decide_eq_true fun isColon => first (isColon ▸ List.dropWhile_subset _ among)
  unfold ofEntry
  rw [String.toList_ofList, Blank.trimChars_append_cons colon_solid]
  dsimp only
  rw [List.dropWhile_append_of_pos plain, List.takeWhile_append_of_pos plain,
    List.dropWhile_cons_of_neg (by simp), List.takeWhile_cons_of_neg (by simp), List.append_nil,
    Blank.trimChars_dropWhile]
  dsimp only
  rw [Blank.trimChars_rdropWhile]
  cases ChainKind.ofText? (String.ofList (Blank.trimChars after)) <;> rfl

theorem ofEntry_eq_ok_iff {entry : List Char} {chain : Chain} :
    ofEntry (String.ofList entry) = .ok chain ↔ Spells entry chain := by
  constructor
  · intro reads
    by_cases colon : ':' ∈ entry
    · rcases List.eq_append_cons_of_mem colon with ⟨before, after, rfl, first⟩
      rw [ofEntry_of_split first] at reads
      split at reads
      · cases reads
      · next named =>
          cases readsKind : ChainKind.ofText? (String.ofList (Blank.trimChars after)) with
          | none =>
              rw [readsKind] at reads
              cases reads
          | some kind =>
              rw [readsKind] at reads
              cases reads
              refine ⟨before, after, Blank.trimChars after, rfl, first, ?_, ?_,
                Blank.pads_trimChars after, ChainKind.ofText?_eq_some_iff.mp readsKind⟩
              · rw [String.toList_ofList]
                exact Blank.pads_trimChars before
              · intro empty
                have noChars := congrArg String.toList empty
                rw [String.toList_ofList] at noChars
                exact named (List.isEmpty_iff.mpr noChars)
    · rw [ofEntry_of_plain (String.toList_ofList ▸ colon)] at reads
      cases reads
  · rintro ⟨before, after, kind, rfl, first, name, named, pads, isKind⟩
    rw [ofEntry_of_split first, name.trimChars_eq, pads.trimChars_eq,
      ChainKind.ofText?_eq_some_iff.mpr isKind, String.ofList_toList]
    exact if_neg fun empty => named (String.toList_eq_nil_iff.mp (List.isEmpty_iff.mp empty))

/-! ## The entries of a list -/

theorem splitEntries_eq (chars : List Char) : splitEntries chars = chars.splitOn ',' := by
  induction chars with
  | nil => rfl
  | cons c chars induction =>
      rw [splitEntries, induction, List.splitOn_cons_eq_if_modifyHead]
      simp only [beq_iff_eq]
      cases rest : chars.splitOn ',' with
      | nil => exact absurd rest (List.splitOn_ne_nil _ _)
      | cons entry entries => rfl

theorem comma_free {chars entry : List Char} (among : entry ∈ chars.splitOn ',') :
    ',' ∉ entry := by
  by_cases comma : ',' ∈ chars
  · rcases List.eq_append_cons_of_mem comma with ⟨before, after, parts, first⟩
    have shorter : after.length < chars.length := by
      rw [parts, List.length_append, List.length_cons]
      omega
    rw [parts, List.splitOn_append_cons_self_of_not_mem first] at among
    rcases List.mem_cons.mp among with rfl | later
    · exact first
    · exact comma_free later
  · rw [List.splitOn_eq_singleton comma] at among
    exact List.mem_singleton.mp among ▸ comma
termination_by chars.length

def entries (text : String) : List (List Char) :=
  (text.toList.splitOn ',').filter (!·.all Blank.isBlank)

/-- Every entry spells a chain, and there are chains, with a name for each. -/
structure Lists (text : String) (chains : List Chain) : Prop where
  spelled : List.Forall₂ Spells (entries text) chains
  distinct : (chains.map (·.name)).Nodup
  nonempty : chains ≠ []

theorem any_name_iff {chains : List Chain} {name : String} :
    chains.any (·.name == name) = true ↔ name ∈ chains.map (·.name) := by
  rw [List.any_eq_true, List.mem_map]
  exact exists_congr fun chain => and_congr_right fun _ => beq_iff_eq

theorem nodup_concat_iff {chains : List Chain} {chain : Chain} :
    ((chains ++ [chain]).map (·.name)).Nodup ↔
      chain.name ∉ chains.map (·.name) ∧ (chains.map (·.name)).Nodup := by
  rw [List.map_append, List.map_singleton, List.nodup_append_comm, List.singleton_append,
    List.nodup_cons]

variable {text : String} {chains result : List Chain}

theorem collect_cons_iff {entry : String} {entries : List String} :
    collect chains (entry :: entries) = .ok result ↔
      ∃ chain, ofEntry entry = .ok chain ∧ chain.name ∉ chains.map (·.name) ∧
        collect (chains ++ [chain]) entries = .ok result := by
  rw [collect]
  cases reads : ofEntry entry with
  | error error =>
      constructor
      · intro impossible
        cases impossible
      · rintro ⟨_, impossible, -⟩
        cases impossible
  | ok chain =>
      simp only [Except.ok.injEq, exists_eq_left']
      show (if chains.any (·.name == chain.name) then .error (.duplicate chain.name)
        else collect (chains ++ [chain]) entries) = .ok result ↔ _
      simp only [any_name_iff]
      split
      · next taken =>
          exact ⟨(fun impossible => nomatch impossible), fun fresh => absurd taken fresh.1⟩
      · next fresh => exact (and_iff_right fresh).symm

theorem collect_eq_ok_iff {entries : List String} (distinct : (chains.map (·.name)).Nodup) :
    collect chains entries = .ok result ↔ (result.map (·.name)).Nodup ∧
      ∃ added, result = chains ++ added ∧
        List.Forall₂ (fun entry chain => ofEntry entry = .ok chain) entries added := by
  induction entries generalizing chains with
  | nil =>
      rw [collect, Except.ok.injEq]
      constructor
      · rintro rfl
        exact ⟨distinct, [], (List.append_nil chains).symm, .nil⟩
      · rintro ⟨-, added, rfl, none⟩
        cases none
        exact (List.append_nil chains).symm
  | cons entry entries induction =>
      rw [collect_cons_iff]
      constructor
      · rintro ⟨chain, reads, fresh, collected⟩
        rcases (induction (nodup_concat_iff.mpr ⟨fresh, distinct⟩)).mp collected with
          ⟨distinctAll, added, rfl, spelled⟩
        exact ⟨distinctAll, chain :: added, List.append_assoc _ _ _, .cons reads spelled⟩
      · rintro ⟨distinctAll, _, rfl, spelled⟩
        cases spelled with
        | @cons _ chain _ added reads spelled =>
            have grouped := List.append_cons chains chain added
            have distinctNow : ((chains ++ [chain]).map (·.name)).Nodup :=
              (grouped ▸ distinctAll).sublist ((List.sublist_append_left _ _).map _)
            exact ⟨chain, reads, (nodup_concat_iff.mp distinctNow).1,
              (induction distinctNow).mpr ⟨distinctAll, added, grouped, spelled⟩⟩

theorem ofList_eq_ok_iff : ofList text = .ok chains ↔ Lists text chains := by
  have collected : ofList text = .ok chains ↔
      collect [] ((entries text).map String.ofList) = .ok chains ∧ chains ≠ [] := by
    rw [ofList, splitEntries_eq]
    show (collect [] ((entries text).map String.ofList) >>= fun result =>
      if result.isEmpty then (.error .noChains : Except ChainError (List Chain))
        else pure result) = .ok chains ↔ _
    cases collect [] ((entries text).map String.ofList) with
    | error error =>
        exact ⟨(fun impossible => nomatch impossible), fun impossible => nomatch impossible.1⟩
    | ok result =>
        show (if result.isEmpty then (.error .noChains : Except ChainError (List Chain))
          else .ok result) = .ok chains ↔ _
        simp only [List.isEmpty_iff]
        split
        · next empty =>
            refine ⟨(fun impossible => nomatch impossible), ?_⟩
            rintro ⟨same, nonempty⟩
            cases same
            exact absurd empty nonempty
        · next nonempty =>
            exact (and_iff_left_of_imp fun same => Except.ok.inj same ▸ nonempty).symm
  have none : (([] : List Chain).map (·.name)).Nodup := List.nodup_nil
  rw [collected, collect_eq_ok_iff none]
  simp only [List.nil_append, exists_eq_left', List.forall₂_map_left_iff, ofEntry_eq_ok_iff]
  constructor
  · rintro ⟨⟨distinct, spelled⟩, nonempty⟩
    exact ⟨spelled, distinct, nonempty⟩
  · rintro ⟨spelled, distinct, nonempty⟩
    exact ⟨⟨distinct, spelled⟩, nonempty⟩

/-! ## Names -/

structure IsPlain (name : String) : Prop where
  nonempty : name ≠ ""
  commaFree : ',' ∉ name.toList
  colonFree : ':' ∉ name.toList
  trimmed : Blank.IsTrimmed name.toList

theorem Spells.isPlain {entry : List Char} {chain : Chain} (spells : Spells entry chain)
    (commaFree : ',' ∉ entry) : IsPlain chain.name := by
  rcases spells with ⟨before, after, kind, rfl, first, name, named, -, -⟩
  exact
    { nonempty := named
      commaFree := fun among => commaFree (List.mem_append_left _ (name.mem among))
      colonFree := fun among => first (name.mem among)
      trimmed := name.trimmed }

theorem isPlain_of_spelled {entries : List (List Char)} {chains : List Chain}
    (spelled : List.Forall₂ Spells entries chains) (commaFree : ∀ entry ∈ entries, ',' ∉ entry) :
    ∀ chain ∈ chains, IsPlain chain.name := by
  induction spelled with
  | nil => exact List.forall_mem_nil _
  | cons spells _ induction =>
      rcases List.forall_mem_cons.mp commaFree with ⟨here, later⟩
      exact List.forall_mem_cons.mpr ⟨spells.isPlain here, induction later⟩

theorem Lists.isPlain {text : String} {chains : List Chain} (lists : Lists text chains) :
    ∀ chain ∈ chains, IsPlain chain.name :=
  isPlain_of_spelled lists.spelled fun _ among => comma_free (List.mem_of_mem_filter among)

/-! ## Writing a list -/

def entryText (chain : Chain) : String :=
  chain.name ++ ":" ++ chain.kind.text

def render (chains : List Chain) : String :=
  ",".intercalate (chains.map entryText)

theorem toList_entryText (chain : Chain) :
    chain.entryText.toList = chain.name.toList ++ ':' :: chain.kind.text.toList := by
  simp [entryText]

theorem IsPlain.spells {chain : Chain} (plain : IsPlain chain.name) :
    Spells chain.entryText.toList chain :=
  ⟨_, _, _, toList_entryText chain, plain.colonFree, plain.trimmed.pads, plain.nonempty,
    chain.kind.isTrimmed_text.pads, by rw [String.ofList_toList, ChainKind.lower_text]⟩

theorem IsPlain.comma_free_entryText {chain : Chain} (plain : IsPlain chain.name) :
    ',' ∉ chain.entryText.toList := by
  have noComma : ',' ∉ chain.kind.text.toList := by cases chain.kind <;> decide
  rw [toList_entryText]
  simp [plain.commaFree, noComma]

theorem entries_render {chains : List Chain} (plain : ∀ chain ∈ chains, IsPlain chain.name)
    (nonempty : chains ≠ []) :
    entries (render chains) = chains.map fun chain => chain.entryText.toList := by
  have split : (render chains).toList.splitOn ',' =
      chains.map fun chain => chain.entryText.toList := by
    rw [render, String.toList_intercalate, List.map_map]
    refine List.splitOn_intercalate ',' ?_ (by simpa using nonempty)
    exact List.forall_mem_map.mpr fun chain among => (plain chain among).comma_free_entryText
  rw [entries, split, List.filter_eq_self]
  refine List.forall_mem_map.mpr fun chain _ => ?_
  simp [toList_entryText, colon_solid]

theorem lists_render {chains : List Chain} (plain : ∀ chain ∈ chains, IsPlain chain.name)
    (distinct : (chains.map (·.name)).Nodup) (nonempty : chains ≠ []) :
    Lists (render chains) chains where
  spelled := by
    rw [entries_render plain nonempty, List.forall₂_map_left_iff, List.forall₂_same]
    exact fun chain among => (plain chain among).spells
  distinct := distinct
  nonempty := nonempty

end Chain

/-! ## The service -/

/-- The service has a coordinator for each name, in this order, and takes events
of a name as those of its kind. -/
structure ServiceSettings.Serves (settings : ServiceSettings) (chains : List Chain) : Prop where
  coordinators : ∀ phase,
    (settings.batches.filter (·.1 = phase)).map (·.2) = chains.map (·.name)
  routes : ∀ name kind, settings.listener.kind? name = some kind ↔ ⟨name, kind⟩ ∈ chains

theorem Listener.kind?_eq_some_iff {listener : Listener}
    (distinct : (listener.chains.map (·.name)).Nodup) {name : String} {kind : ChainKind} :
    listener.kind? name = some kind ↔ ⟨name, kind⟩ ∈ listener.chains := by
  rw [kind?, Option.map_eq_some_iff]
  constructor
  · rintro ⟨chain, found, rfl⟩
    have same := List.find?_some found
    have sameName : chain.name = name := beq_iff_eq.mp same
    exact sameName ▸ List.mem_reverse.mp (List.mem_of_find?_eq_some found)
  · intro among
    cases found : listener.chains.reverse.find? (·.name == name) with
    | none =>
        have missing := List.find?_eq_none.mp found _ (List.mem_reverse.mpr among)
        exact absurd (beq_self_eq_true name) missing
    | some chain =>
        have same := List.find?_some found
        have sameName : chain.name = name := beq_iff_eq.mp same
        have there := List.mem_reverse.mp (List.mem_of_find?_eq_some found)
        cases List.inj_on_of_nodup_map distinct there among sameName
        exact ⟨_, rfl, rfl⟩

theorem ServiceSettings.serves {settings : ServiceSettings}
    (distinct : (settings.chains.map (·.name)).Nodup) : settings.Serves settings.chains where
  coordinators phase := by
    have each (chain : Chain) :
        (([(.attestation, chain.name), (.settlement, chain.name)] : List (Phase × String)).filter
          (·.1 = phase)).map (·.2) = [chain.name] := by
      cases phase <;> rfl
    rw [batches, List.filter_flatMap, List.map_flatMap]
    simp only [each, ← List.map_eq_flatMap]
  routes _ _ := Listener.kind?_eq_some_iff distinct

namespace Chain

theorem ofList_reads_entries (text : String) :
    (∀ chains, ofList text = .ok chains ↔ Lists text chains) ∧
    ∀ chains, ofList text = .ok chains →
      (∀ chain ∈ chains, IsPlain chain.name) ∧ ofList (render chains) = .ok chains ∧
      ∀ settings : ServiceSettings, settings.chains = chains → settings.Serves chains := by
  refine ⟨fun _ => ofList_eq_ok_iff, fun chains reads => ?_⟩
  have lists := ofList_eq_ok_iff.mp reads
  refine ⟨lists.isPlain, ?_, ?_⟩
  · exact ofList_eq_ok_iff.mpr (lists_render lists.isPlain lists.distinct lists.nonempty)
  · rintro settings rfl
    exact ServiceSettings.serves lists.distinct

/-- Blanks, blank entries and capitals are no matter. -/
theorem ofList_reads_entries_of_loose_text :
    let chains : List Chain := [⟨"Base", .evm⟩, ⟨"Star Net", .starknet⟩]
    let settings : ServiceSettings := { chains := chains, policy := {}, pollMilliseconds := 1 }
    ofList " Base : EVM ,\t,, Star Net:StarKnet," = .ok chains ∧
      render chains = "Base:evm,Star Net:starknet" ∧ ofList (render chains) = .ok chains ∧
      settings.Serves chains := by
  intro chains settings
  have reads : ofList " Base : EVM ,\t,, Star Net:StarKnet," = .ok chains := by decide +kernel
  rcases (ofList_reads_entries _).2 chains reads with ⟨-, readsBack, serves⟩
  exact ⟨reads, by decide +kernel, readsBack, serves settings rfl⟩

end Chain

end RedemptionRelay
