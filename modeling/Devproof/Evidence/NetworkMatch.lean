import Devproof.Evidence.NetworkCheck
import Devproof.Evidence.Quotation

/-!
A structured assertion matches exactly the requests that bear it out
(`structuredNetworkMatches`).
-/

namespace Devproof.NetworkCheck

open Parsing

inductive Reaches : Value → List Text → Value → Prop
  | here (value : Value) : Reaches value [] value
  | own {members : List (Text × Value)} {name : Text} {child value : Value} {path : List Text}
      (property : members.lookup name = some child) (reaches : Reaches child path value) :
      Reaches (.obj members) (name :: path) value

structure Present (request : List (Text × Value)) (part : Part) : Prop where
  whole : request.lookup (bodyKey part ++ "Truncated".toList.map code) ≠ some (.bool true)
  kept : request.lookup (bodyKey part ++ "Omitted".toList.map code) = none
  settled : part = .responseBody → request.lookup ("bodyPending".toList.map code) ≠ some (.bool true)

inductive FieldAt (platform : Platform) (request : List (Text × Value)) :
    Part → Text → Value → Prop
  | query {url : Url} {field value : Text} (located : urlOf platform request = some url)
      (once : url.searchParams.filter (fun entry => entry.1 == field) = [(field, value)]) :
      FieldAt platform request .query field (.str value)
  | body {part : Part} {field : Text} {root value : Value} (inBody : part ≠ .query)
      (present : Present request part) (found : request.lookup (bodyKey part) = some root)
      (reaches : Reaches root (splitDots field) value) : FieldAt platform request part field value

def HasScalar (platform : Platform) (request : List (Text × Value)) (part : Part) (field : Text)
    (scalar : Scalar) : Prop :=
  ∃ value, FieldAt platform request part field value ∧ equalsScalar value scalar = true

def FieldHolds (alike : Value → Value → Prop) (platform : Platform)
    (request : List (Text × Value)) (check : Check) : Prop :=
  match check.encoding with
  | .native => HasScalar platform request check.part check.field check.equals
  | .jsonString =>
      ∃ actual expected left right, FieldAt platform request check.part check.field (.str actual) ∧
        check.equals = .str expected ∧ parse actual = some left ∧ parse expected = some right ∧
        alike left right

def BearsOut (alike : Value → Value → Prop) (platform : Platform) (quote : Text) (check : Check) :
    Prop :=
  ∃ request, parse quote = some (.obj request) ∧
    request.lookup ("method".toList.map code) = some (.str check.method.text) ∧
    (∃ url, urlOf platform request = some url ∧ url.pathname = check.path) ∧
    (∀ condition ∈ check.conditions,
      HasScalar platform request condition.part condition.field condition.equals) ∧
    FieldHolds alike platform request check

theorem isTrue_iff {value : Option Value} : isTrue value = true ↔ value = some (.bool true) := by
  constructor
  · intro held
    unfold isTrue at held
    split at held
    · rfl
    · cases held
  · rintro rfl
    rfl

theorem foldl_step_none (path : List Text) : path.foldl step none = none := by
  induction path with
  | nil => rfl
  | cons name rest ih => exact ih

theorem foldl_step_iff {path : List Text} {root value : Value} :
    path.foldl step (some root) = some value ↔ Reaches root path value := by
  induction path generalizing root with
  | nil =>
      constructor
      · intro same
        obtain rfl := Option.some.inj same
        exact .here _
      · rintro ⟨⟩
        rfl
  | cons name rest ih =>
      rw [List.foldl_cons]
      constructor
      · intro found
        cases next : step (some root) name with
        | none =>
            rw [next, foldl_step_none] at found
            cases found
        | some child =>
            rw [next] at found
            cases root with
            | obj members => exact .own next (ih.mp found)
            | null | bool | num | str | arr => cases next
      · rintro (_ | ⟨property, reaches⟩)
        rw [step, property]
        exact ih.mpr reaches

section Platform

variable {platform : Platform} {request : List (Text × Value)}

theorem fieldValue_body {part : Part} (inBody : part ≠ .query) {field : Text} {value : Value} :
    fieldValue platform request part field = some value ↔
      Present request part ∧ ∃ root, request.lookup (bodyKey part) = some root ∧
        Reaches root (splitDots field) value := by
  have unfolded : fieldValue platform request part field =
      if isTrue (request.lookup (bodyKey part ++ "Truncated".toList.map code)) ||
          (request.lookup (bodyKey part ++ "Omitted".toList.map code)).isSome ||
          (part == .responseBody && isTrue (request.lookup ("bodyPending".toList.map code))) then none
      else (splitDots field).foldl step (request.lookup (bodyKey part)) := by
    cases part with
    | query => exact absurd rfl inBody
    | requestBody | responseBody => rfl
  have present : ¬(isTrue (request.lookup (bodyKey part ++ "Truncated".toList.map code)) ||
      (request.lookup (bodyKey part ++ "Omitted".toList.map code)).isSome ||
      (part == .responseBody && isTrue (request.lookup ("bodyPending".toList.map code)))) = true ↔
      Present request part := by
    simp only [Bool.or_eq_true, Bool.and_eq_true, isTrue_iff, Option.isSome_iff_ne_none, beq_iff_eq,
      not_or, not_and, ne_eq, not_not]
    exact ⟨fun clear => ⟨clear.1.1, clear.1.2, clear.2⟩,
      fun present => ⟨⟨present.1, present.2⟩, present.3⟩⟩
  rw [unfolded]
  constructor
  · intro found
    split at found
    · cases found
    · rename_i clear
      refine ⟨present.mp clear, ?_⟩
      cases root : request.lookup (bodyKey part) with
      | none =>
          rw [root, foldl_step_none] at found
          cases found
      | some root' =>
          rw [root] at found
          exact ⟨root', rfl, foldl_step_iff.mp found⟩
  · rintro ⟨whole, root, found, reaches⟩
    rw [if_neg (present.mpr whole), found]
    exact foldl_step_iff.mpr reaches

theorem fieldValue_iff {part : Part} {field : Text} {value : Value} :
    fieldValue platform request part field = some value ↔
      FieldAt platform request part field value := by
  by_cases query : part = .query
  · subst query
    simp only [fieldValue]
    constructor
    · intro found
      split at found
      · cases found
      · rename_i url located
        split at found
        · rename_i entry once
          obtain rfl := Option.some.inj found
          obtain ⟨name, text⟩ := entry
          have named : (name, text) ∈ url.searchParams.filter fun entry => entry.1 == field := by
            rw [once]
            exact List.mem_singleton_self _
          obtain rfl : name = field := by simpa using (List.mem_filter.mp named).2
          exact .query located once
        · cases found
    · rintro (⟨located, once⟩ | ⟨inBody, -, -, -⟩)
      · simp only [located, once]
      · exact absurd rfl inBody
  · rw [fieldValue_body query]
    constructor
    · rintro ⟨present, root, found, reaches⟩
      exact .body query present found reaches
    · rintro (_ | ⟨-, present, found, reaches⟩)
      · exact absurd rfl query
      · exact ⟨present, _, found, reaches⟩

theorem hasScalar_iff {part : Part} {field : Text} {scalar : Scalar} :
    (match fieldValue platform request part field with
      | some actual => equalsScalar actual scalar
      | none => false) = true ↔ HasScalar platform request part field scalar := by
  unfold HasScalar
  simp only [← fieldValue_iff]
  cases fieldValue platform request part field with
  | none => simp
  | some actual => simp

def settled (value : Value) : Value :=
  value.transform Number.written (ofMembers ∘ byName unitOrder)

theorem written_fixed {number : Number → Value} (finite : ∀ value, number (.finite value) =
    .num (.finite value)) (order : List (Text × Value) → List (Text × Value)) (known : Number) :
    known.written.transform number order = known.written := by
  cases known with
  | finite value => exact finite value
  | negativeZero => exact finite 0
  | infinite => rfl

theorem settled_readBack (value : Value) : (settled value).readBack = settled value := by
  have natural : ∀ (change : Value → Value) members,
      ((ofMembers ∘ byName unitOrder) members).map (Prod.map id change) =
        (ofMembers ∘ byName unitOrder) (members.map (Prod.map id change)) := by
    intro change members
    simp only [Function.comp_apply, ofMembers_map, byName_map]
  have once : ofMembers ∘ (ofMembers ∘ byName unitOrder) =
      (ofMembers ∘ byName unitOrder : List (Text × Value) → List (Text × Value)) :=
    funext fun members => ofMembers_ofMembers _
  have leaf : ∀ known : Number, known.written.transform Number.written ofMembers = known.written :=
    @written_fixed Number.written (fun _ => rfl) ofMembers
  rw [settled, Value.readBack, transform_transform leaf natural, once]

theorem settled_eq (value : Value) :
    settled value = (value.plain.arrange unitOrder).transform .num ofMembers := by
  have sorted : value.plain.arrange unitOrder =
      value.transform Number.written (byName unitOrder ∘ id) :=
    transform_transform (written_fixed (fun _ => rfl) _) (fun _ _ => rfl) value
  rw [sorted, settled]
  exact (transform_transform (written_fixed (fun _ => rfl) _)
    (fun change members => (byName_map change members).symm) value).symm

theorem written_well {known : Number} (readable : known.Readable) {names : List Text → Prop} :
    known.written.Well Number.Readable names := by
  cases known with
  | finite => exact .num readable
  | negativeZero => exact .num ⟨[code '0'], by decide +kernel⟩
  | infinite => exact .null

theorem settled_well {value : Value} {names : List Text → Prop}
    (well : value.Well Number.Readable names) :
    (settled value).Well Number.Readable fun _ => True := by
  induction well with
  | null => exact .null
  | bool value => exact .bool value
  | num readable => exact written_well readable
  | str value => exact .str value
  | arr held ih =>
      simp only [settled, Value.transform, transformItems_eq, well_arr_iff, List.forall_mem_map]
      exact ih
  | obj named held ih =>
      simp only [settled, Value.transform, transformMembers_eq, well_obj_iff, Function.comp_apply]
      refine ⟨trivial, fun entry member => ?_⟩
      obtain ⟨known, inside, rfl⟩ :=
        List.mem_map.mp ((byName_perm _).mem_iff.mp (mem_ofMembers member))
      exact ih known inside

theorem canonicalItems_eq {items : List Value}
    (each : ∀ item ∈ items, (canonical platform item).bind parse = some (settled item)) :
    canonicalItems platform items = some (items.map settled) := by
  induction items with
  | nil => rfl
  | cons item rest ih =>
      obtain ⟨first, later⟩ := List.forall_mem_cons.mp each
      rw [canonicalItems, first, Option.bind_some, ih later]
      rfl

theorem canonicalMembers_eq {members : List (Text × Value)}
    (each : ∀ entry ∈ members, (canonical platform entry.2).bind parse = some (settled entry.2)) :
    canonicalMembers platform members = some (members.map (Prod.map id settled)) := by
  induction members with
  | nil => rfl
  | cons entry rest ih =>
      obtain ⟨name, value⟩ := entry
      obtain ⟨first, later⟩ := List.forall_mem_cons.mp each
      rw [canonicalMembers, first, Option.bind_some, ih later]
      rfl

section Numbers

variable (numbers : Parsing.NumberTexts platform.formatNumber)

include numbers

theorem canonical_eq {value : Value} {names : List Text → Prop}
    (well : value.Well Number.Readable names) :
    canonical platform value = some (stringify platform.formatNumber (settled value)) := by
  have again : ∀ {value : Value}, value.Well Number.Readable names →
      canonical platform value = some (stringify platform.formatNumber (settled value)) →
      (canonical platform value).bind parse = some (settled value) := by
    intro value well known
    rw [known, Option.bind_some, parse_stringify numbers (settled_well well), settled_readBack]
  induction well with
  | null | bool | str =>
      rw [canonical]
      rfl
  | @num known readable =>
      rw [canonical]
      cases known <;> rfl
  | arr held ih =>
      rw [canonical, canonicalItems_eq fun item member => again (held item member) (ih item member)]
      simp only [settled, Value.transform, transformItems_eq]
      rfl
  | obj named held ih =>
      rw [canonical,
        canonicalMembers_eq fun entry member => again (held entry member) (ih entry member)]
      simp only [settled, Value.transform, transformMembers_eq]
      rfl

theorem canonical_eq_iff {left right : Value} (wellLeft : left.Well Number.Readable List.Nodup)
    (wellRight : right.Well Number.Readable List.Nodup) :
    canonical platform left = canonical platform right ↔ SameWritten left right := by
  rw [canonical_eq numbers wellLeft, canonical_eq numbers wellRight, Option.some.injEq]
  constructor
  · intro same
    have parsed := congrArg parse same
    rw [parse_stringify numbers (settled_well wellLeft),
      parse_stringify numbers (settled_well wellRight), settled_readBack, settled_readBack] at parsed
    have sorted : ∀ {value : Value}, value.Well Number.Readable List.Nodup →
        (settled value).arrange unitOrder = value.plain.arrange unitOrder := by
      intro value well
      refine arrange_absorbs unitOrder_order Number.written ?_
        (well.imp (fun _ held => held) fun _ distinct => unitOrder_apart distinct)
      intro members distinct
      have perm : (byName unitOrder members).Perm members := byName_perm members
      exact (ofMembers_perm ((perm.map Prod.fst).nodup_iff.mpr distinct)).trans perm
    rw [SameWritten, SameValue, ← sorted wellLeft, ← sorted wellRight, Option.some.inj parsed]
  · intro same
    have written : left.plain.arrange unitOrder = right.plain.arrange unitOrder := same
    rw [settled_eq, settled_eq, written]

theorem fieldMatches_iff {check : Check} :
    fieldMatches platform request check = true ↔
      FieldHolds SameWritten platform request check := by
  unfold fieldMatches FieldHolds
  cases check.encoding with
  | native => exact hasScalar_iff
  | jsonString =>
      simp only [← fieldValue_iff]
      constructor
      · intro matched
        split at matched
        · rename_i actual expected found equals
          split at matched
          · rename_i first second canonicalLeft canonicalRight
            obtain ⟨left, parsedLeft, textLeft⟩ := Option.bind_eq_some_iff.mp canonicalLeft
            obtain ⟨right, parsedRight, textRight⟩ := Option.bind_eq_some_iff.mp canonicalRight
            refine ⟨actual, expected, left, right, found, equals, parsedLeft, parsedRight, ?_⟩
            refine (canonical_eq_iff numbers (parse_well parsedLeft) (parse_well parsedRight)).mp ?_
            rw [textLeft, textRight, eq_of_beq matched]
          · cases matched
        · cases matched
      · rintro ⟨actual, expected, left, right, found, equals, parsedLeft, parsedRight, same⟩
        have texts := (canonical_eq_iff numbers (parse_well parsedLeft) (parse_well parsedRight)).mpr
          same
        rw [found, equals]
        simp only [parsedLeft, parsedRight, Option.bind_some, texts,
          canonical_eq numbers (parse_well parsedRight), beq_self_eq_true]

/-- A check matches exactly the quotations that bear it out. -/
theorem structuredNetworkMatches_iff (quote : Text) (check : Check) :
    structuredNetworkMatches platform quote check = true ↔
      BearsOut SameWritten platform quote check := by
  unfold structuredNetworkMatches BearsOut
  split
  · rename_i request parsed
    simp only [Bool.and_eq_true, List.all_eq_true, fieldMatches_iff numbers, parsed,
      Option.some.injEq, Value.obj.injEq, exists_eq_left', and_assoc]
    refine and_congr ?_ (and_congr ?_ (and_congr (forall₂_congr fun _ _ => hasScalar_iff) Iff.rfl))
    · cases request.lookup ("method".toList.map code) with
      | none => simp
      | some known => cases known <;> simp
    · cases urlOf platform request with
      | none => simp
      | some url => simp
  · rename_i other
    simp only [Bool.false_eq_true, false_iff, not_exists, not_and]
    intro request parsed
    exact absurd parsed (other request)

end Numbers

end Platform

/-! A recorded request whose field holds a number beyond the largest double. -/

section Overflow

def recorded : List (Text × Value) :=
  [("method".toList.map code, .str ("GET".toList.map code)),
    ("url".toList.map code, .str [code 'a', code ':', code '/']),
    ("requestBody".toList.map code, .obj [([code 'f'], .str ObservedValue.overflowing)])]

noncomputable def platform : Platform where
  formatNumber := ObservedValue.writtenNumber
  newUrl := fun text => if text = [code 'a', code ':', code '/'] then some ⟨[code '/'], []⟩ else none

noncomputable def quotation : Text :=
  stringify ObservedValue.writtenNumber (.obj recorded)

def overflowCheck : Check where
  method := .get
  path := [code '/']
  part := .requestBody
  field := [code 'f']
  equals := .str ObservedValue.nullList
  encoding := .jsonString
  conditions := []

theorem recorded_readBack : (Value.obj recorded).readBack = .obj recorded := by
  rfl

theorem parse_quotation : parse quotation = some (.obj recorded) := by
  have well : (Value.obj recorded).Well Number.Readable fun _ => True := by
    refine .obj trivial ?_
    simp only [recorded, List.forall_mem_cons, List.not_mem_nil, false_implies, implies_true,
      and_true]
    exact ⟨.str _, .str _, .obj trivial (by simpa using .str _)⟩
  rw [quotation, parse_stringify ObservedValue.writtenNumber_texts well, recorded_readBack]

theorem recorded_field : fieldValue platform recorded .requestBody [code 'f'] =
    some (.str ObservedValue.overflowing) := by
  rfl

theorem structuredNetworkMatches_iff_recorded :
    structuredNetworkMatches platform quotation overflowCheck = true ↔
      BearsOut SameWritten platform quotation overflowCheck :=
  structuredNetworkMatches_iff ObservedValue.writtenNumber_texts quotation overflowCheck

/-- An infinite number matches the null it is written as. -/
theorem overflow_matches :
    structuredNetworkMatches platform quotation overflowCheck = true ∧
      ¬BearsOut SameValue platform quotation overflowCheck := by
  constructor
  · have field : fieldMatches platform recorded overflowCheck = true :=
      (fieldMatches_iff ObservedValue.writtenNumber_texts).mpr
        ⟨_, _, _, _, fieldValue_iff.mp recorded_field, rfl, ObservedValue.parse_overflowing,
          ObservedValue.parse_nullList, rfl⟩
    have target : urlOf platform recorded = some ⟨[code '/'], []⟩ := by
      rfl
    have method : recorded.lookup ("method".toList.map code) =
        some (.str ("GET".toList.map code)) := by
      rfl
    unfold structuredNetworkMatches
    rw [parse_quotation]
    simp only [field, target, method]
    rfl
  · rintro ⟨request, parsed, -, -, -, actual, expected, left, right, found, equals, parsedLeft,
      parsedRight, same⟩
    rw [parse_quotation] at parsed
    obtain rfl := Value.obj.inj (Option.some.inj parsed)
    have known := fieldValue_iff.mpr found
    rw [show overflowCheck.part = .requestBody from rfl, show overflowCheck.field = [code 'f'] from
      rfl, recorded_field] at known
    obtain rfl := Value.str.inj (Option.some.inj known)
    obtain rfl := Scalar.str.inj equals
    rw [ObservedValue.parse_overflowing] at parsedLeft
    rw [ObservedValue.parse_nullList] at parsedRight
    obtain rfl := Option.some.inj parsedLeft
    obtain rfl := Option.some.inj parsedRight
    simp [SameValue, Value.arrange, Value.transform] at same

end Overflow

end Devproof.NetworkCheck
