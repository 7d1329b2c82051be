import Mathlib.Data.List.DropRight
import RedemptionRelay.Http
import RedemptionRelay.Proofs.Http.Form

/-! # The query of an address

Where a question mark stands in an address, what is before it decides where the
request leads, and what is behind it decides the query and the fragment.
-/

namespace RedemptionRelay

namespace Url

/-! ## Cleaning -/

def isEdge (c : Char) : Bool :=
  c.toNat ≤ 0x20

def isKept (c : Char) : Bool :=
  c ≠ '\t' && c ≠ '\n' && c ≠ '\r'

def cleanFront (chars : List Char) : List Char :=
  (chars.dropWhile isEdge).filter isKept

def cleanBack (chars : List Char) : List Char :=
  (chars.rdropWhile isEdge).filter isKept

variable {c : Char} {front back chars : List Char}

theorem isKept_of_solid (solid : isEdge c = false) : isKept c = true := by
  unfold isKept
  simp only [Bool.and_eq_true, decide_eq_true_eq]
  refine ⟨⟨?_, ?_⟩, ?_⟩ <;> rintro rfl <;> cases solid

theorem rdropWhile_append (solid : isEdge c = false) (front back : List Char) :
    (front ++ c :: back).rdropWhile isEdge = front ++ c :: back.rdropWhile isEdge := by
  unfold List.rdropWhile
  rw [List.reverse_append, List.reverse_cons, List.append_assoc, List.dropWhile_append]
  split
  · next all =>
      rw [List.isEmpty_iff.mp all]
      simp [solid]
  · simp

theorem dropWhile_append (solid : isEdge c = false) (front back : List Char) :
    (front ++ c :: back).dropWhile isEdge = front.dropWhile isEdge ++ c :: back := by
  rw [List.dropWhile_append]
  split
  · next all =>
      rw [List.isEmpty_iff.mp all, List.dropWhile_cons_of_neg (by simp [solid]), List.nil_append]
  · rfl

theorem clean_append (solid : isEdge c = false) (front back : List Char) :
    clean (front ++ c :: back) = cleanFront front ++ c :: cleanBack back := by
  have trimmed : ((front ++ c :: back).dropWhile isEdge).rdropWhile isEdge =
      front.dropWhile isEdge ++ c :: back.rdropWhile isEdge := by
    rw [dropWhile_append solid, rdropWhile_append solid]
  have cleaned : clean (front ++ c :: back) =
      (((front ++ c :: back).dropWhile isEdge).rdropWhile isEdge).filter isKept := rfl
  rw [cleaned, trimmed, List.filter_append, List.filter_cons_of_pos (isKept_of_solid solid)]
  rfl

theorem cleanBack_append (solid : isEdge c = false) (front back : List Char) :
    cleanBack (front ++ c :: back) = front.filter isKept ++ c :: cleanBack back := by
  rw [cleanBack, rdropWhile_append solid, List.filter_append,
    List.filter_cons_of_pos (isKept_of_solid solid)]
  rfl

theorem sublist_cleanFront (chars : List Char) : (cleanFront chars).Sublist chars :=
  List.filter_sublist.trans (List.dropWhile_sublist _)

theorem sublist_cleanBack (chars : List Char) : (cleanBack chars).Sublist chars :=
  List.filter_sublist.trans (List.rdropWhile_prefix isEdge chars).sublist

/-! ## Parsing -/

theorem splitScheme?_append (front back : List Char) :
    splitScheme? (front ++ '?' :: back) =
      (splitScheme? front).map fun (scheme, rest) => (scheme, rest ++ '?' :: back) := by
  match front with
  | [] => rfl
  | first :: others =>
      by_cases alphabetic : first.isAlpha = true
      · have stops : ('?' :: back).dropWhile isSchemeChar = '?' :: back :=
          List.dropWhile_cons_of_neg (by decide)
        cases behind : (first :: others).dropWhile isSchemeChar with
        | nil =>
            have behind' : (first :: (others ++ '?' :: back)).dropWhile isSchemeChar =
                '?' :: back := by
              rw [← List.cons_append, List.dropWhile_append, behind, stops]
              rfl
            simp [splitScheme?, alphabetic, behind, behind']
        | cons mark rest =>
            have behind' : (first :: (others ++ '?' :: back)).dropWhile isSchemeChar =
                mark :: (rest ++ '?' :: back) := by
              rw [← List.cons_append, List.dropWhile_append, behind]
              rfl
            have before : (first :: (others ++ '?' :: back)).takeWhile isSchemeChar =
                (first :: others).takeWhile isSchemeChar := by
              have parts := congrArg List.length
                (List.takeWhile_append_dropWhile (p := isSchemeChar) (l := first :: others))
              rw [List.length_append, behind, List.length_cons] at parts
              rw [← List.cons_append, List.takeWhile_append, if_neg (by omega)]
            by_cases colon : mark = ':'
            · simp [splitScheme?, alphabetic, behind, behind', before, colon]
            · simp [splitScheme?, alphabetic, behind, behind', colon]
      · simp [splitScheme?, alphabetic]

theorem subset_of_splitScheme? {scheme : String} {rest : List Char}
    (split : splitScheme? front = some (scheme, rest)) : rest ⊆ front := by
  unfold splitScheme? at split
  split at split
  · next first others =>
      split at split
      · split at split
        · next rest' behind =>
            cases split
            have within := (List.dropWhile_sublist isSchemeChar (l := first :: others)).subset
            rw [behind] at within
            exact fun _ isIn => within (List.mem_cons_of_mem _ isIn)
        · cases split
      · cases split
  · cases split

def parseFront (front : List Char) : Except UrlError Url :=
  match splitScheme? front with
  | none => .error .noScheme
  | some (scheme, rest) => do
      let (authority, path) ←
        match SchemeKind.ofName scheme with
        | .web => webPlace scheme false rest
        | .file => filePlace rest
        | .other => otherPlace false rest
      return { scheme, authority, path := String.ofList path, query := none, fragment := none }

def queryReserved (url : Url) : List Char :=
  (SchemeKind.ofName url.scheme).queryReserved

def withQuery (back : List Char) (url : Url) : Url :=
  let (query, fragment) := splitAt '#' back
  { url with
    query := some (String.ofList (Escape.encode url.queryReserved query))
    fragment := fragment.map fun chars =>
      String.ofList (Escape.encode Escape.fragmentReserved chars) }

theorem splitAt_query {rest : List Char} (unasked : '?' ∉ rest) (unmarked : '#' ∉ rest)
    (back : List Char) :
    splitAt '#' (rest ++ '?' :: back) =
        (rest ++ '?' :: (splitAt '#' back).1, (splitAt '#' back).2) ∧
      splitAt '?' (rest ++ '?' :: (splitAt '#' back).1) =
        (rest, some (splitAt '#' back).1) := by
  constructor
  · have unmarked' : '#' ∉ rest ++ ['?'] := by simpa using unmarked
    rw [List.append_cons, splitAt_append unmarked', ← List.append_cons]
  · rw [splitAt_append unasked, splitAt_mark, List.append_nil]

theorem parse_of_query (unasked : '?' ∉ front) (unmarked : '#' ∉ front) (back : List Char) :
    parse (String.ofList (front ++ '?' :: back)) =
      (parseFront (cleanFront front)).map (withQuery (cleanBack back)) := by
  have within := (sublist_cleanFront front).subset
  unfold parse parseFront
  rw [String.toList_ofList, clean_append (by decide), splitScheme?_append]
  cases read : splitScheme? (cleanFront front) with
  | none => rfl
  | some found =>
      have rest : found.2 ⊆ cleanFront front := subset_of_splitScheme? read
      have split := splitAt_query (fun isIn => unasked (within (rest isIn)))
        (fun isIn => unmarked (within (rest isIn))) (cleanBack back)
      dsimp only [Option.map_some]
      rw [split.1]
      dsimp only
      rw [split.2]
      cases kind : SchemeKind.ofName found.1 with
      | web =>
          simp only [Option.isNone_some, Bool.false_and]
          cases webPlace found.1 false found.2 with
          | error error => rfl
          | ok place =>
              apply congrArg Except.ok
              simp only [withQuery, queryReserved, kind, Option.map_some]
      | file =>
          dsimp only
          cases filePlace found.2 with
          | error error => rfl
          | ok place =>
              apply congrArg Except.ok
              simp only [withQuery, queryReserved, kind, Option.map_some]
      | other =>
          simp only [Option.isNone_some, Bool.false_and]
          cases otherPlace false found.2 with
          | error error => rfl
          | ok place =>
              apply congrArg Except.ok
              simp only [withQuery, queryReserved, kind, Option.map_some]

/-! ## What is sent -/

def sent (back : List Char) : List Char :=
  (splitAt '#' (cleanBack back)).1

theorem sublist_splitAt (mark : Char) (chars : List Char) :
    (splitAt mark chars).1.Sublist chars := by
  unfold splitAt
  split
  · exact List.takeWhile_sublist _
  · exact List.Sublist.refl _

theorem sublist_sent (back : List Char) : (sent back).Sublist back :=
  (sublist_splitAt '#' _).trans (sublist_cleanBack back)

theorem sent_append (unmarked : '#' ∉ front ++ [c]) (kept : front.all isKept = true)
    (solid : isEdge c = false) (back : List Char) :
    sent (front ++ c :: back) = front ++ c :: sent back := by
  rw [sent, cleanBack_append solid, List.filter_eq_self.mpr (List.all_eq_true.mp kept),
    List.append_cons, splitAt_append unmarked, ← List.append_cons]
  rfl

theorem not_mem_splitAt (mark : Char) (chars : List Char) : mark ∉ (splitAt mark chars).1 := by
  intro isIn
  unfold splitAt at isIn
  split at isIn
  · have passed := List.mem_takeWhile_imp (p := fun c => decide (c ≠ mark)) isIn
    exact absurd rfl (of_decide_eq_true passed)
  · next passed =>
      exact absurd rfl (of_decide_eq_true (List.dropWhile_eq_nil_iff.mp passed mark isIn))

theorem rdropWhile_eq_self_iff (chars : List Char) :
    chars.rdropWhile isEdge = chars ↔ chars.getLast?.any isEdge = false := by
  rw [List.rdropWhile_eq_self_iff]
  by_cases empty : chars = []
  · simp [empty]
  · simp [empty, List.getLast?_eq_some_getLast]

theorem sent_eq_self_iff (chars : List Char) :
    sent chars = chars ↔
      '#' ∉ chars ∧ chars.all isKept = true ∧ chars.getLast?.any isEdge = false := by
  constructor
  · intro same
    have uncut : (sent chars).Sublist (cleanBack chars) := sublist_splitAt '#' _
    rw [same] at uncut
    have uncleaned : cleanBack chars = chars := (sublist_cleanBack chars).antisymm uncut
    have untrimmed : chars.rdropWhile isEdge = chars :=
      (List.rdropWhile_prefix isEdge chars).sublist.antisymm (uncut.trans List.filter_sublist)
    refine ⟨fun isIn => ?_, ?_, (rdropWhile_eq_self_iff chars).mp untrimmed⟩
    · rw [← same] at isIn
      exact not_mem_splitAt '#' (cleanBack chars) isIn
    · rw [← uncleaned]
      exact List.all_eq_true.mpr fun c isIn => (List.mem_filter.mp isIn).2
  · rintro ⟨unmarked, kept, solid⟩
    have untrimmed := (rdropWhile_eq_self_iff chars).mpr solid
    have whole := splitAt_append unmarked []
    rw [List.append_nil] at whole
    rw [sent, cleanBack, untrimmed, List.filter_eq_self.mpr (List.all_eq_true.mp kept), whole]
    exact List.append_nil chars

theorem sparesMarks_queryReserved (url : Url) :
    Escape.sparesMarks url.queryReserved = true := by
  unfold queryReserved
  cases SchemeKind.ofName url.scheme <;> decide

def parameters (url : Url) : List (Bytes × Bytes) :=
  Form.parameters (url.query.getD "").toList

theorem target_withoutCredentials (url : Url) :
    url.withoutCredentials.target = url.target := by
  unfold withoutCredentials
  split
  · split <;> rfl
  · rfl

theorem parameters_withoutCredentials (url : Url) :
    url.withoutCredentials.parameters = url.parameters := by
  unfold withoutCredentials
  split
  · split <;> rfl
  · rfl

theorem target_withQuery (back : List Char) (url : Url) :
    (withQuery (cleanBack back) url).target =
      url.path ++ ("?" ++ String.ofList (Escape.encode url.queryReserved (sent back))) :=
  rfl

theorem parameters_withQuery (back : List Char) (url : Url) :
    (withQuery (cleanBack back) url).parameters =
      Form.parameters (Escape.encode url.queryReserved (sent back)) := by
  rw [parameters, withQuery, Option.getD_some, String.toList_ofList]
  rfl

end Url

section

variable {method : HttpMethod} {address : String} {body : Option String} {request : HttpRequest}

theorem HttpRequest.make_eq_ok_iff :
    make method address body = .ok request ↔
      ∃ url, Url.parse address = .ok url ∧ url.withoutCredentials.isRequestable = true ∧
        url.withoutCredentials.isSendable = true ∧
          request = ⟨method, url.withoutCredentials, body⟩ := by
  constructor
  · intro made
    unfold make at made
    split at made
    · cases made
    · next url parsed =>
        dsimp only at made
        split at made
        · cases made
        · next requestable =>
            split at made
            · cases made
            · next sendable =>
                cases made
                exact ⟨url, parsed, by simpa using requestable, by simpa using sendable, rfl⟩
  · rintro ⟨url, parsed, requestable, sendable, rfl⟩
    rw [make, parsed]
    dsimp only
    rw [requestable, sendable]
    rfl

theorem HttpRequest.url_of_make (made : make method address body = .ok request) :
    ∃ url, Url.parse address = .ok url ∧ request.url = url.withoutCredentials := by
  rcases make_eq_ok_iff.mp made with ⟨url, parsed, -, -, rfl⟩
  exact ⟨url, parsed, rfl⟩

end

end RedemptionRelay
