import RedemptionRelay.Proofs.Chain.Adaptation
import RedemptionRelay.Proofs.Http.Form
import RedemptionRelay.Text.Base64

/-! # What Base64 texts stand for

A text is decoded just if it is the canonical text of some bytes, and then to
these bytes. Groups of four symbols stand for three bytes each; the last group
may be filled up with padding, and the bits that it has too many are zero.
-/

namespace RedemptionRelay.Base64

/-! ## Symbols -/

theorem symbolValue?_eq_some_iff {byte : UInt8} {value : Nat} :
    symbolValue? byte = some value ↔ value < 64 ∧ byte = symbol value := by
  constructor
  · intro reads
    have each : ∀ code < 256, ∀ value ∈ symbolValue? (UInt8.ofNat code),
        value < 64 ∧ UInt8.ofNat code = symbol value := by
      decide +kernel
    have found := each byte.toNat byte.toNat_lt
    rw [UInt8.ofNat_toNat] at found
    exact found value reads
  · rintro ⟨isValue, rfl⟩
    have each : ∀ value < 64, symbolValue? (symbol value) = some value := by decide +kernel
    exact each value isValue

theorem symbol_ne_paddingByte : ∀ value < 64, symbol value ≠ paddingByte := by
  decide

theorem symbolAt_eq_ok_iff {offset : Nat} {byte : UInt8} {value : Nat} :
    symbolAt offset byte = .ok value ↔ value < 64 ∧ byte = symbol value := by
  rw [← symbolValue?_eq_some_iff]
  unfold symbolAt
  cases symbolValue? byte <;> simp

/-! ## The last group -/

section Tail

variable {offset index : Nat} {tail found : Tail} {units : Bytes}

theorem readTail_of_padding (padded : tail.firstPadding.isSome) (late : 2 ≤ index)
    (reads : readTail offset index tail units = .ok found) :
    ∃ count, units = List.replicate count paddingByte ∧ found.values = tail.values ∧
      found.paddings = tail.paddings + count := by
  induction units generalizing index tail with
  | nil =>
      cases reads
      exact ⟨0, rfl, rfl, rfl⟩
  | cons byte rest induction =>
      rw [readTail] at reads
      split at reads
      · next isPadding =>
          rw [if_neg (Nat.not_lt_of_le late)] at reads
          rcases induction rfl (Nat.le_succ_of_le late) reads with
            ⟨count, others, values, paddings⟩
          refine ⟨count + 1, ?_, values, ?_⟩
          · rw [isPadding, others, List.replicate_succ]
          · simp only [paddings]
            omega
      · rcases Option.isSome_iff_exists.mp padded with ⟨place, isPlace⟩
        rw [isPlace] at reads
        cases reads

theorem readTail_replicate (late : 2 ≤ index) (count : Nat) :
    ∃ found, readTail offset index tail (List.replicate count paddingByte) = .ok found ∧
      found.values = tail.values ∧ found.paddings = tail.paddings + count := by
  induction count generalizing index tail with
  | zero => exact ⟨tail, rfl, rfl, rfl⟩
  | succ count induction =>
      rw [List.replicate_succ, readTail, if_pos rfl, if_neg (Nat.not_lt_of_le late)]
      rcases induction (Nat.le_succ_of_le late) with ⟨found, reads, values, paddings⟩
      refine ⟨found, reads, values, ?_⟩
      simp only [paddings]
      omega

/-- The last group is symbols and then padding, which does not start too early. -/
theorem readTail_eq_ok (unpadded : tail.firstPadding = none)
    (reads : readTail offset index tail units = .ok found) :
    ∃ values count, units = values.map symbol ++ List.replicate count paddingByte ∧
      (∀ value ∈ values, value < 64) ∧ found.values = tail.values ++ values ∧
        found.paddings = tail.paddings + count := by
  induction units generalizing index tail with
  | nil =>
      cases reads
      exact ⟨[], 0, rfl, nofun, (List.append_nil _).symm, rfl⟩
  | cons byte rest induction =>
      rw [readTail] at reads
      split at reads
      · next isPadding =>
          split at reads
          · cases reads
          · next late =>
              rcases readTail_of_padding rfl (Nat.le_succ_of_le (Nat.le_of_not_lt late)) reads with
                ⟨count, others, values, paddings⟩
              refine ⟨[], count + 1, ?_, nofun, ?_, ?_⟩
              · rw [isPadding, others, List.replicate_succ]
                rfl
              · rw [values, List.append_nil]
              · simp only [paddings]
                omega
      · rw [unpadded] at reads
        rcases Except.bind_eq_ok.mp reads with ⟨value, isSymbol, reads⟩
        rcases symbolAt_eq_ok_iff.mp isSymbol with ⟨isValue, rfl⟩
        rcases induction rfl reads with ⟨values, count, others, all, found, paddings⟩
        refine ⟨value :: values, count, ?_, List.forall_mem_cons.mpr ⟨isValue, all⟩, ?_, paddings⟩
        · rw [others]
          rfl
        · rw [found, List.append_assoc]
          rfl

theorem readTail_append (unpadded : tail.firstPadding = none) {values : List Nat}
    (all : ∀ value ∈ values, value < 64) (late : 2 ≤ index + values.length) (count : Nat) :
    ∃ found, readTail offset index tail (values.map symbol ++ List.replicate count paddingByte) =
        .ok found ∧
      found.values = tail.values ++ values ∧ found.paddings = tail.paddings + count := by
  induction values generalizing index tail with
  | nil =>
      rw [List.append_nil]
      exact readTail_replicate late count
  | cons value values induction =>
      rcases List.forall_mem_cons.mp all with ⟨isValue, others⟩
      have later : 2 ≤ index + 1 + values.length := by
        rw [List.length_cons] at late
        omega
      rcases tail with ⟨taken, last, place, paddings⟩
      cases unpadded
      let longer : Tail := ⟨taken ++ [value], symbol value, none, paddings⟩
      have stillUnpadded : longer.firstPadding = none := rfl
      rcases induction stillUnpadded others later with ⟨found, reads, isFound, paddings⟩
      rw [List.map_cons, List.cons_append, readTail, if_neg (symbol_ne_paddingByte value isValue)]
      dsimp only
      rw [symbolAt_eq_ok_iff.mpr ⟨isValue, rfl⟩]
      refine ⟨found, reads, ?_, paddings⟩
      rw [isFound, List.append_assoc]
      rfl

end Tail

/-! ## Groups -/

/-- The values of the symbols of a group and the bytes that they stand for. -/
inductive Group : List Nat → Bytes → Prop
  | one {a b : Nat} (isFirst : a < 64) (isSecond : b < 64) (canonical : b % 16 = 0) :
      Group [a, b] [UInt8.ofNat ((a * 64 + b) / 16)]
  | two {a b c bits : Nat} (isFirst : a < 64) (isSecond : b < 64) (isThird : c < 64)
      (canonical : c % 4 = 0) (joined : bits = ((a * 64 + b) * 64 + c) / 4) :
      Group [a, b, c] [UInt8.ofNat (bits / 256), UInt8.ofNat (bits % 256)]
  | three {a b c d bits : Nat} (isFirst : a < 64) (isSecond : b < 64) (isThird : c < 64)
      (isFourth : d < 64) (joined : bits = ((a * 64 + b) * 64 + c) * 64 + d) :
      Group [a, b, c, d]
        [UInt8.ofNat (bits / 65536), UInt8.ofNat (bits / 256 % 256), UInt8.ofNat (bits % 256)]

def groupUnits (values : List Nat) : Bytes :=
  values.map symbol ++ List.replicate (4 - values.length) paddingByte

theorem exists_group_one (first : UInt8) : ∃ values, Group values [first] := by
  have := first.toNat_lt
  have group : Group [first.toNat / 4, first.toNat % 4 * 16] _ :=
    .one (by omega) (by omega) (by omega)
  rw [show (first.toNat / 4 * 64 + first.toNat % 4 * 16) / 16 = first.toNat by omega,
    UInt8.ofNat_toNat] at group
  exact ⟨_, group⟩

theorem exists_group_two (first second : UInt8) : ∃ values, Group values [first, second] := by
  have := first.toNat_lt
  have := second.toNat_lt
  let bits := first.toNat * 256 + second.toNat
  have group : Group [bits / 1024, bits / 16 % 64, bits % 16 * 4]
      [UInt8.ofNat (bits / 256), UInt8.ofNat (bits % 256)] :=
    .two (by omega) (by omega) (by omega) (by omega) (by omega)
  rw [show bits / 256 = first.toNat by omega, show bits % 256 = second.toNat by omega,
    UInt8.ofNat_toNat, UInt8.ofNat_toNat] at group
  exact ⟨_, group⟩

theorem exists_group_three (first second third : UInt8) :
    ∃ values, Group values [first, second, third] := by
  have := first.toNat_lt
  have := second.toNat_lt
  have := third.toNat_lt
  let bits := (first.toNat * 256 + second.toNat) * 256 + third.toNat
  have group : Group [bits / 262144, bits / 4096 % 64, bits / 64 % 64, bits % 64]
      [UInt8.ofNat (bits / 65536), UInt8.ofNat (bits / 256 % 256), UInt8.ofNat (bits % 256)] :=
    .three (by omega) (by omega) (by omega) (by omega) (by omega)
  rw [show bits / 65536 = first.toNat by omega, show bits / 256 % 256 = second.toNat by omega,
    show bits % 256 = third.toNat by omega, UInt8.ofNat_toNat, UInt8.ofNat_toNat,
    UInt8.ofNat_toNat] at group
  exact ⟨_, group⟩

namespace Group

variable {values : List Nat} {bytes : Bytes}

theorem all (group : Group values bytes) : ∀ value ∈ values, value < 64 := by
  cases group with
  | one isFirst isSecond => simp [isFirst, isSecond]
  | two isFirst isSecond isThird => simp [isFirst, isSecond, isThird]
  | three isFirst isSecond isThird isFourth => simp [isFirst, isSecond, isThird, isFourth]

theorem length (group : Group values bytes) : 2 ≤ values.length ∧ values.length ≤ 4 := by
  cases group <;> simp

theorem encodeBytes_one {first : UInt8} (group : Group values [first]) :
    encodeBytes [first] = groupUnits values := by
  cases group with
  | @one a b isFirst isSecond canonical =>
      have joined : (UInt8.ofNat ((a * 64 + b) / 16)).toNat * 16 = a * 64 + b := by
        rw [UInt8.toNat_ofNat']
        omega
      rw [encodeBytes, joined, show (a * 64 + b) / 64 = a by omega,
        show (a * 64 + b) % 64 = b by omega]
      rfl

theorem encodeBytes_two {first second : UInt8} (group : Group values [first, second]) :
    encodeBytes [first, second] = groupUnits values := by
  cases group with
  | @two a b c bits isFirst isSecond isThird canonical joined =>
      have whole : ((UInt8.ofNat (bits / 256)).toNat * 256 + (UInt8.ofNat (bits % 256)).toNat) * 4 =
          (a * 64 + b) * 64 + c := by
        simp only [UInt8.toNat_ofNat']
        omega
      rw [encodeBytes, whole, show ((a * 64 + b) * 64 + c) / 4096 = a by omega,
        show ((a * 64 + b) * 64 + c) / 64 % 64 = b by omega,
        show ((a * 64 + b) * 64 + c) % 64 = c by omega]
      rfl

theorem encodeBytes_three {first second third : UInt8} (group : Group values [first, second, third])
    (rest : Bytes) :
    encodeBytes (first :: second :: third :: rest) = values.map symbol ++ encodeBytes rest := by
  cases group with
  | @three a b c d bits isFirst isSecond isThird isFourth joined =>
      have whole : ((UInt8.ofNat (bits / 65536)).toNat * 256 +
          (UInt8.ofNat (bits / 256 % 256)).toNat) * 256 + (UInt8.ofNat (bits % 256)).toNat =
            bits := by
        simp only [UInt8.toNat_ofNat']
        omega
      rw [encodeBytes, whole, show bits / 262144 = a by omega, show bits / 4096 % 64 = b by omega,
        show bits / 64 % 64 = c by omega, show bits % 64 = d by omega]
      rfl

theorem encodeBytes_eq (group : Group values bytes) : encodeBytes bytes = groupUnits values := by
  cases group with
  | one isFirst isSecond canonical => exact encodeBytes_one (.one isFirst isSecond canonical)
  | two isFirst isSecond isThird canonical joined =>
      exact encodeBytes_two (.two isFirst isSecond isThird canonical joined)
  | three isFirst isSecond isThird isFourth joined =>
      exact encodeBytes_three (.three isFirst isSecond isThird isFourth joined) []

end Group

section

variable {offset : Nat} {bytes units : Bytes}

theorem tailBytes_eq_ok_iff {tail : Tail} (all : ∀ value ∈ tail.values, value < 64)
    (enough : 2 ≤ tail.values.length) (few : tail.values.length ≤ 4) :
    tailBytes offset tail = .ok bytes ↔ Group tail.values bytes := by
  rcases tail with ⟨values, last, place, paddings⟩
  dsimp only at all enough few ⊢
  constructor
  · intro decoded
    unfold tailBytes at decoded
    dsimp only at decoded
    split at decoded
    · split at decoded
      · cases decoded
      · next canonical =>
          cases decoded
          exact .one (all _ (by simp)) (all _ (by simp)) (Decidable.not_not.mp canonical)
    · split at decoded
      · cases decoded
      · next canonical =>
          cases decoded
          exact .two (all _ (by simp)) (all _ (by simp)) (all _ (by simp))
            (Decidable.not_not.mp canonical) rfl
    · cases decoded
      exact .three (all _ (by simp)) (all _ (by simp)) (all _ (by simp)) (all _ (by simp)) rfl
    · next notTwo notThree notFour =>
        match values with
        | [] | [_] => simp at enough
        | [a, b] => exact (notTwo a b rfl).elim
        | [a, b, c] => exact (notThree a b c rfl).elim
        | [a, b, c, d] => exact (notFour a b c d rfl).elim
        | _ :: _ :: _ :: _ :: _ :: _ =>
            simp only [List.length_cons] at few
            omega
  · intro group
    cases group with
    | one isFirst isSecond canonical =>
        unfold tailBytes
        dsimp only
        rw [if_neg (Decidable.not_not.mpr canonical)]
    | two isFirst isSecond isThird canonical joined =>
        unfold tailBytes
        dsimp only
        rw [if_neg (Decidable.not_not.mpr canonical), joined]
    | three isFirst isSecond isThird isFourth joined =>
        rw [joined]
        rfl

theorem decodeTail_eq_ok_iff (short : units.length ≤ 4) :
    decodeTail offset units = .ok bytes ↔
      ∃ values, Group values bytes ∧ units = groupUnits values := by
  constructor
  · intro decoded
    rcases Except.bind_eq_ok.mp decoded with ⟨found, reads, checked⟩
    rcases readTail_eq_ok rfl reads with ⟨values, count, rfl, all, isFound, paddings⟩
    have sameValues : found.values = values := isFound
    have sameCount : found.paddings = count := paddings.trans (Nat.zero_add _)
    subst sameValues sameCount
    rw [List.length_append, List.length_map, List.length_replicate] at short
    split at checked
    · cases checked
    · next enough =>
        split at checked
        · cases checked
        · next whole =>
            have group := (tailBytes_eq_ok_iff all (Nat.le_of_not_lt enough) (by omega)).mp checked
            have full : 4 - found.values.length = found.paddings := by omega
            exact ⟨_, group, by rw [groupUnits, full]⟩
  · rintro ⟨values, group, rfl⟩
    rcases group.length with ⟨enough, few⟩
    have late : 2 ≤ 0 + values.length := by omega
    obtain ⟨found, reads, isFound, isCount⟩ :
        ∃ found, readTail offset 0 ⟨[], 0, none, 0⟩ (groupUnits values) = .ok found ∧
          found.values = [] ++ values ∧ found.paddings = 0 + (4 - values.length) :=
      readTail_append rfl group.all late _
    rw [List.nil_append] at isFound
    have full : found.values.length + found.paddings = 4 := by
      rw [isFound]
      omega
    rw [decodeTail, reads]
    show (if found.values.length < 2 then _ else _) = _
    rw [if_neg (isFound ▸ Nat.not_lt_of_le enough), full, if_neg (by decide)]
    rw [← isFound] at group enough few
    exact (tailBytes_eq_ok_iff group.all enough few).mpr group

/-! ## All groups -/

theorem decodeGroups_of_short (filled : units ≠ []) (short : units.length ≤ 4) :
    decodeGroups offset units = decodeTail offset units := by
  match units with
  | [] => exact absurd rfl filled
  | [_] | [_, _] | [_, _, _] | [_, _, _, _] => rfl
  | _ :: _ :: _ :: _ :: _ :: _ =>
      simp only [List.length_cons] at short
      omega

theorem eq_encodeBytes_of_decodeGroups (decoded : decodeGroups offset units = .ok bytes) :
    units = encodeBytes bytes := by
  fun_induction decodeGroups offset units generalizing bytes with
  | case1 offset a b c d e rest induction =>
      rcases Except.bind_eq_ok.mp decoded with ⟨first, isFirst, decoded⟩
      rcases Except.bind_eq_ok.mp decoded with ⟨second, isSecond, decoded⟩
      rcases Except.bind_eq_ok.mp decoded with ⟨third, isThird, decoded⟩
      rcases Except.bind_eq_ok.mp decoded with ⟨fourth, isFourth, decoded⟩
      rcases Except.bind_eq_ok.mp decoded with ⟨others, isOthers, same⟩
      cases same
      rcases symbolAt_eq_ok_iff.mp isFirst with ⟨first_lt, rfl⟩
      rcases symbolAt_eq_ok_iff.mp isSecond with ⟨second_lt, rfl⟩
      rcases symbolAt_eq_ok_iff.mp isThird with ⟨third_lt, rfl⟩
      rcases symbolAt_eq_ok_iff.mp isFourth with ⟨fourth_lt, rfl⟩
      have group : Group [first, second, third, fourth] _ :=
        .three first_lt second_lt third_lt fourth_lt rfl
      rw [group.encodeBytes_three, ← induction isOthers]
      rfl
  | case2 offset =>
      cases decoded
      rfl
  | case3 offset units several filled =>
      have short : units.length ≤ 4 := by
        match units with
        | [] | [_] | [_, _] | [_, _, _] | [_, _, _, _] => simp
        | a :: b :: c :: d :: e :: rest => exact (several a b c d e rest rfl).elim
      rcases (decodeTail_eq_ok_iff short).mp decoded with ⟨values, group, rfl⟩
      exact group.encodeBytes_eq.symm

theorem decodeGroups_of_group {values : List Nat} (group : Group values bytes) :
    decodeGroups offset (encodeBytes bytes) = .ok bytes := by
  have few := group.length.2
  have length : (groupUnits values).length = 4 := by
    rw [groupUnits, List.length_append, List.length_map, List.length_replicate]
    omega
  have filled : groupUnits values ≠ [] := by
    intro empty
    rw [empty] at length
    cases length
  rw [group.encodeBytes_eq, decodeGroups_of_short filled (Nat.le_of_eq length)]
  exact (decodeTail_eq_ok_iff (Nat.le_of_eq length)).mpr ⟨values, group, rfl⟩

theorem encodeBytes_eq_nil_iff : encodeBytes bytes = [] ↔ bytes = [] := by
  constructor
  · intro empty
    unfold encodeBytes at empty
    split at empty
    · rfl
    all_goals cases empty
  · rintro rfl
    rfl

theorem decodeGroups_encodeBytes : decodeGroups offset (encodeBytes bytes) = .ok bytes := by
  induction bytes using encodeBytes.induct generalizing offset with
  | case1 => rfl
  | case2 a =>
      rcases exists_group_one a with ⟨values, group⟩
      exact decodeGroups_of_group group
  | case3 a b =>
      rcases exists_group_two a b with ⟨values, group⟩
      exact decodeGroups_of_group group
  | case4 a b c rest induction =>
      rcases exists_group_three a b c with ⟨values, group⟩
      -- Only with something behind it is the group read as one of those before the last.
      cases others : encodeBytes rest with
      | nil =>
          cases encodeBytes_eq_nil_iff.mp others
          exact decodeGroups_of_group group
      | cons e more =>
          rw [group.encodeBytes_three, others]
          rw [others] at induction
          cases group with
          | three isFirst isSecond isThird isFourth joined =>
              show decodeGroups offset (_ :: _ :: _ :: _ :: e :: more) = _
              rw [decodeGroups, symbolAt_eq_ok_iff.mpr ⟨isFirst, rfl⟩,
                symbolAt_eq_ok_iff.mpr ⟨isSecond, rfl⟩, symbolAt_eq_ok_iff.mpr ⟨isThird, rfl⟩,
                symbolAt_eq_ok_iff.mpr ⟨isFourth, rfl⟩, induction, joined]
              rfl

theorem decodeGroups_eq_ok_iff :
    decodeGroups offset units = .ok bytes ↔ units = encodeBytes bytes := by
  constructor
  · exact eq_encodeBytes_of_decodeGroups
  · rintro rfl
    exact decodeGroups_encodeBytes

end

theorem encodeBytes_injective {bytes others : Bytes}
    (same : encodeBytes bytes = encodeBytes others) : bytes = others := by
  have decoded : decodeGroups 0 (encodeBytes bytes) = .ok others := decodeGroups_eq_ok_iff.mpr same
  rw [decodeGroups_encodeBytes] at decoded
  exact Except.ok.inj decoded

theorem length_encodeBytes (bytes : Bytes) : (encodeBytes bytes).length % 4 = 0 := by
  fun_induction encodeBytes bytes with
  | case1 | case2 | case3 => simp
  | case4 a b c rest bits induction =>
      simp only [List.length_cons]
      omega

/-- Just the canonical text of bytes is decoded, to these bytes. -/
theorem decode_eq_ok_iff {text : String} {bytes : Bytes} :
    decode text = .ok bytes ↔ Bytes.ofText text = encodeBytes bytes := by
  unfold decode
  dsimp only
  split
  · next error stray =>
      refine ⟨nofun, fun written => ?_⟩
      -- Only in a text that has one symbol too many is its last one looked at first.
      have whole := length_encodeBytes bytes
      unfold strayLast? at stray
      split at stray
      · split at stray
        · next checked =>
            rw [written] at checked
            omega
        · cases stray
      · cases stray
  · exact decodeGroups_eq_ok_iff

theorem decode_eq_ok_nil_iff {text : String} : decode text = .ok [] ↔ text = "" := by
  rw [decode_eq_ok_iff]
  constructor
  · exact fun noBytes => String.toList_injective (Bytes.ofChars_injective noBytes)
  · rintro rfl
    rfl

end RedemptionRelay.Base64
