import Mathlib.Data.List.Infix
import Devproof.Evidence.Scanner

/-!
An expected value is found wherever its text stands, and what is found is in the
quotation (`observedValueMatches`).
-/

namespace Devproof.ObservedValue

open Parsing

structure Collation (localeCompare : Text → Text → Int) : Prop where
  reversed : ∀ left right, localeCompare left right < 0 ↔ 0 < localeCompare right left
  transitive : ∀ first second third, localeCompare first second ≤ 0 →
    localeCompare second third ≤ 0 → localeCompare first third ≤ 0

def Distinguished (localeCompare : Text → Text → Int) (names : List Text) : Prop :=
  names.Pairwise fun left right => localeCompare left right ≠ 0

section Canonical

variable {language : Language}

theorem before_order (collation : Collation language.localeCompare) :
    NameOrder language.before := by
  refine ⟨fun left right => ?_, collation.transitive⟩
  have reversed := collation.reversed right left
  unfold Language.before
  omega

theorem distinguished_apart (collation : Collation language.localeCompare) {names : List Text}
    (distinguished : Distinguished language.localeCompare names) :
    Parsing.Apart language.before names := by
  refine distinguished.imp fun {left right} other both => other ?_
  have reversed := collation.reversed left right
  have forward : language.localeCompare left right ≤ 0 := both.1
  have backward : language.localeCompare right left ≤ 0 := both.2
  omega

theorem canonicalItems_eq (items : List Value) :
    canonicalItems language items = items.map (canonical language) := by
  induction items with
  | nil => rfl
  | cons item rest ih => rw [canonicalItems, ih, List.map_cons]

theorem canonicalMembers_eq (members : List (Text × Value)) :
    canonicalMembers language members = members.map (Prod.map id (canonical language)) := by
  induction members with
  | nil => rfl
  | cons entry rest ih =>
      obtain ⟨name, value⟩ := entry
      rw [canonicalMembers, ih, List.map_cons]
      rfl

theorem canonical_eq (value : Value) :
    canonical language value = stringify language.formatNumber (value.arrange language.before) := by
  induction value using Value.induct with
  | null | bool | num | str => rw [canonical, Value.arrange, Value.transform]
  | arr items ih =>
      simp only [Value.arrange, Value.transform, transformItems_eq, stringify, Parsing.itemTexts_eq,
        canonical, canonicalItems_eq, List.map_map]
      exact congrArg (fun texts => code '[' :: (Parsing.joined texts ++ [code ']']))
        (List.map_congr_left ih)
  | obj members ih =>
      simp only [Value.arrange, Value.transform, transformMembers_eq, stringify, Parsing.memberTexts_eq,
        canonical, canonicalMembers_eq, ← byName_map]
      refine congrArg (fun texts => code '\x7b' ::
        (Parsing.joined ((byName language.before texts).map Parsing.memberText) ++ [code '\x7d'])) ?_
      rw [List.map_map]
      refine List.map_congr_left ?_
      intro entry member
      exact Prod.ext rfl (ih entry member)

theorem perm_apart {before : Text → Text → Prop} (left right : List Text) (same : left.Perm right) :
    Parsing.Apart before left ↔ Parsing.Apart before right :=
  ⟨fun apart => apart.perm same, fun apart => apart.perm same.symm⟩

variable (collation : Collation language.localeCompare) {numbers : Number → Prop}

include collation

theorem canonical_same {left right : Value} (same : SameValue left right)
    (apart : right.Well numbers (Parsing.Apart language.before)) :
    canonical language left = canonical language right := by
  have order := before_order collation
  have sides : (left.arrange unitOrder).arrange language.before =
      (right.arrange unitOrder).arrange language.before := congrArg _ same
  rw [arrange_arrange order (SameValue.well perm_apart same.symm apart),
    arrange_arrange order apart] at sides
  rw [canonical_eq, canonical_eq, sides]

theorem canonical_readBack {value : Value}
    (apart : value.Well numbers (Parsing.Apart language.before)) :
    canonical language value.readBack = canonical language value := by
  rw [canonical_eq, canonical_eq, readBack_arrange (before_order collation) apart,
    stringify_plain]

end Canonical

theorem canonical_injective {language : Language} (numbers : Parsing.NumberTexts language.formatNumber)
    {left right : Value} (wellLeft : left.Well Number.Readable List.Nodup)
    (wellRight : right.Well Number.Readable List.Nodup)
    (same : canonical language left = canonical language right) :
    SameValue left.plain right.plain := by
  have nodup : ∀ left right : List Text, left.Perm right → (left.Nodup ↔ right.Nodup) :=
    fun _ _ same => same.nodup_iff
  -- what the canonical text reads back as, with its members sorted once more
  have back : ∀ {value : Value}, value.Well Number.Readable List.Nodup →
      (value.arrange language.before).readBack.arrange unitOrder = value.plain.arrange unitOrder := by
    intro value well
    have once : (value.arrange language.before).readBack =
        value.transform Number.written (ofMembers ∘ byName language.before) :=
      transform_transform (fun _ => rfl) (fun change members => (byName_map change members).symm) value
    rw [once]
    refine arrange_absorbs unitOrder_order Number.written ?_
      (well.imp (fun _ held => held) fun _ distinct => unitOrder_apart distinct)
    intro members distinct
    have sorted : (byName language.before members).Perm members := byName_perm members
    exact (ofMembers_perm ((sorted.map Prod.fst).nodup_iff.mpr distinct)).trans sorted
  have parsed : parse (canonical language left) = parse (canonical language right) :=
    congrArg parse same
  rw [canonical_eq, canonical_eq,
    parse_stringify numbers ((well_arrange_iff nodup left).mpr wellLeft),
    parse_stringify numbers ((well_arrange_iff nodup right).mpr wellRight)] at parsed
  rw [SameValue, ← back wellLeft, ← back wellRight, Option.some.inj parsed]

inductive Holds : Value → Value → Prop
  | itself (value : Value) : Holds value value
  | child {value child found : Value} (inside : child ∈ children value) (holds : Holds child found) :
      Holds value found
  | text {text : Text} {root found : Value} (parsed : parse text = some root)
      (holds : Holds root found) : Holds (.str text) found

def Part (quote part : Text) : Prop :=
  part = quote ∨ (part <:+: quote ∧ (∃ unit ∈ part.head?, isOpening unit = true) ∧
    ∃ unit ∈ part.getLast?, isClosing unit = true)

def Contains (alike : Value → Value → Prop) (quote : Text) (target : Value) : Prop :=
  ∃ part root value, Part quote part ∧ parse part = some root ∧ Holds root value ∧
    alike value target

theorem Holds.well {root value : Value} (holds : Holds root value)
    (well : root.Well Number.Readable List.Nodup) : value.Well Number.Readable List.Nodup := by
  induction holds with
  | itself => exact well
  | @child root child found inside _ ih =>
      refine ih ?_
      cases root with
      | null | bool | num | str => cases inside
      | arr items => exact well_arr_iff.mp well child inside
      | obj members =>
          obtain ⟨entry, member, rfl⟩ := List.mem_map.mp inside
          exact (well_obj_iff.mp well).2 entry member
  | text parsed _ ih => exact ih (parse_well parsed)

section Matching

variable {language : Language} {wanted : Text}

theorem matchesValue_canonical {value : Value} (object : isObject value = true)
    (same : canonical language value = wanted) : matchesValue language wanted value = true := by
  cases value with
  | null | bool | num | str => cases object
  | arr | obj =>
      rw [matchesValue, same]
      · simp
      · simp

theorem matchesValue_holds {value : Value} (matched : matchesValue language wanted value = true) :
    ∃ found, Holds value found ∧ canonical language found = wanted := by
  -- the induction is on how long the strings in a value are and how deep they lie
  induction weight : value.weight using Nat.strong_induction_on generalizing value with
  | _ size ih =>
      have other : (canonical language value == wanted ||
          (children value).attach.any fun child => matchesValue language wanted child.1) = true →
          ∃ found, Holds value found ∧ canonical language found = wanted := by
        intro found
        rcases Bool.or_eq_true_iff.mp found with itself | below
        · exact ⟨value, .itself value, by simpa using itself⟩
        · obtain ⟨⟨child, inside⟩, -, matched⟩ := List.any_eq_true.mp below
          obtain ⟨found, holds, same⟩ := ih child.weight (weight ▸ child_weight inside) matched rfl
          exact ⟨found, .child inside holds, same⟩
      cases value with
      | str text =>
          rw [matchesValue] at matched
          split at matched
          · rename_i root parsed
            have lighter : root.weight < size :=
              weight ▸ Nat.lt_succ_of_le (parse_weight parsed)
            obtain ⟨found, holds, same⟩ := ih root.weight lighter matched rfl
            exact ⟨found, .text parsed holds, same⟩
          · cases matched
      | null | bool | num | arr | obj =>
          rw [matchesValue] at matched
          · exact other matched
          · simp

theorem matchesText_holds {text : Text} (matched : matchesText language wanted text = true) :
    ∃ root found, parse text = some root ∧ Holds root found ∧ canonical language found = wanted := by
  rw [matchesText] at matched
  split at matched
  · rename_i root parsed
    obtain ⟨found, holds, same⟩ := matchesValue_holds matched
    exact ⟨root, found, parsed, holds, same⟩
  · cases matched

theorem matchesSlice_part {quote : Text} (matched : matchesSlice language wanted quote = true) :
    ∃ part, (part <:+: quote ∧ (∃ unit ∈ part.head?, isOpening unit = true) ∧
      ∃ unit ∈ part.getLast?, isClosing unit = true) ∧ matchesText language wanted part = true := by
  induction quote with
  | nil => cases matched
  | cons unit rest ih =>
      rw [matchesSlice, Bool.or_eq_true, Bool.and_eq_true] at matched
      rcases matched with ⟨opening, start⟩ | later
      · rw [matchesStart] at start
        split at start
        · rename_i slice found
          obtain ⟨below, closing⟩ := bracketed_slice found
          have inside : slice <+: unit :: rest := below.trans (List.take_prefix _ _)
          refine ⟨slice, ⟨inside.isInfix, ?_, closing⟩, start⟩
          cases slice with
          | nil => simp at closing
          | cons head tail =>
              obtain rfl := (List.cons_prefix_cons.mp inside).1
              exact ⟨head, rfl, opening⟩
        · cases start
      · obtain ⟨part, ⟨inside, brackets⟩, matched⟩ := ih later
        exact ⟨part, ⟨inside.trans (List.suffix_cons unit rest).isInfix, brackets⟩, matched⟩

theorem matchesSlice_append {before : Text} {unit : UInt16} {rest : Text}
    (opening : isOpening unit = true) (start : matchesStart language wanted (unit :: rest) = true) :
    matchesSlice language wanted (before ++ unit :: rest) = true := by
  induction before with
  | nil => rw [List.nil_append, matchesSlice, opening, start, Bool.and_true, Bool.true_or]
  | cons head tail ih => rw [List.cons_append, matchesSlice, ih, Bool.or_true]

theorem matchesStart_spells {value : Value} {body : Text} (spells : Spells (.value value) body)
    (object : isObject value = true) (bounded : body.length ≤ 8000)
    (same : canonical language value = wanted) (rest : Text) :
    matchesStart language wanted (body ++ rest) = true := by
  have window : (body ++ rest).take 8000 = body ++ rest.take (8000 - body.length) := by
    rw [List.take_append, List.take_of_length_le bounded]
  rw [matchesStart, window, (bracketed_spells spells object).2]
  simp only [matchesText, parse_spells spells]
  exact matchesValue_canonical object same

end Matching

theorem isObject_arrange {before : Text → Text → Prop} [DecidableRel before] (value : Value) :
    isObject (value.arrange before) = isObject value := by
  cases value <;> rfl

theorem isObject_readBack (value : Value) (object : isObject value = true) :
    isObject value.readBack = true := by
  cases value with
  | null | bool | num | str => cases object
  | arr | obj => rfl

section Results

variable {language : Language}

theorem text_found (collation : Collation language.localeCompare)
    (numbers : Parsing.NumberTexts language.formatNumber) {value read : Value} {text : Text}
    (object : isObject value = true)
    (distinguished : value.Well (fun _ => True) (Distinguished language.localeCompare))
    (bounded : text.length ≤ 8000) (parsed : parse text = some read) (same : SameValue read value)
    (before after : Text) (matchMode : MatchMode) :
    observedValueMatches language (before ++ text ++ after)
      (stringify language.formatNumber value) matchMode = true := by
  have apart : value.Well (fun _ => True) (Parsing.Apart language.before) :=
    distinguished.imp (fun _ held => held) fun _ => distinguished_apart collation
  have readable : value.Well Number.Readable fun _ => True := by
    refine SameValue.well (fun _ _ _ => Iff.rfl) same ?_
    exact (parse_well parsed).imp (fun _ held => held) fun _ _ => trivial
  have target := parse_stringify numbers readable
  have wanted : canonical language read = canonical language value.readBack :=
    (canonical_same collation same apart).trans (canonical_readBack collation apart).symm
  have readObject : isObject read = true := by
    have kept : isObject (read.arrange unitOrder) = isObject read := isObject_arrange read
    rw [← kept, show read.arrange unitOrder = value.arrange unitOrder from same, isObject_arrange,
      object]
  obtain ⟨opening, spells, closing⟩ := parse_eq_some_iff.mp parsed
  rename_i gap body gap'
  simp only [List.length_append] at bounded
  obtain ⟨⟨unit, rest, start, bracket⟩, -⟩ := bracketed_spells spells readObject
  have found := matchesStart_spells spells readObject (by omega) wanted (gap' ++ after)
  have slice : matchesSlice language (canonical language value.readBack)
      (before ++ (gap ++ (body ++ gap')) ++ after) = true := by
    have place : before ++ (gap ++ (body ++ gap')) ++ after =
        (before ++ gap) ++ (body ++ (gap' ++ after)) := by simp
    rw [place]
    rw [start] at found ⊢
    exact matchesSlice_append bracket found
  have json : expectsJson (stringify language.formatNumber value) = true := by
    cases value with
    | null | bool | num | str => cases object
    | arr => rfl
    | obj => rfl
  rw [observedValueMatches]
  split
  · rfl
  · rw [if_neg (by simp [json]), target]
    simp only [isObject_readBack value object, if_true, slice, Bool.or_true]

theorem match_found (numbers : Parsing.NumberTexts language.formatNumber) {quote expected : Text}
    (matched : observedValueMatches language quote expected .exact = true) :
    expected <:+: quote ∨
      ∃ target, parse expected = some target ∧ Contains SameWritten quote target := by
  rw [observedValueMatches] at matched
  split at matched
  · rename_i verbatim
    exact Or.inl verbatim
  rw [if_neg (by simp)] at matched
  split at matched
  · cases matched
  rename_i target parsed
  split at matched
  · refine Or.inr ⟨target, parsed, ?_⟩
    have alike : ∀ {part : Text}, Part quote part →
        matchesText language (canonical language target) part = true →
        Contains SameWritten quote target := by
      intro part place found
      obtain ⟨root, value, known, holds, same⟩ := matchesText_holds found
      exact ⟨part, root, value, place, known, holds,
        canonical_injective numbers (holds.well (parse_well known)) (parse_well parsed) same⟩
    rcases Bool.or_eq_true_iff.mp matched with whole | slice
    · exact alike (Or.inl rfl) whole
    · obtain ⟨part, place, found⟩ := matchesSlice_part slice
      exact alike (Or.inr place) found
  · cases matched

/-- A value is found in any surroundings, and what is found is in the quotation. -/
theorem value_shown (collation : Collation language.localeCompare)
    (numbers : Parsing.NumberTexts language.formatNumber) :
    (∀ (value read : Value) (text : Text), isObject value = true →
      value.Well (fun _ => True) (Distinguished language.localeCompare) → text.length ≤ 8000 →
      parse text = some read → SameValue read value → ∀ before after matchMode,
      observedValueMatches language (before ++ text ++ after)
        (stringify language.formatNumber value) matchMode = true) ∧
      ∀ quote expected, observedValueMatches language quote expected .exact = true →
        expected <:+: quote ∨
          ∃ target, parse expected = some target ∧ Contains SameWritten quote target := by
  refine ⟨?_, fun quote expected matched => match_found numbers matched⟩
  intro value read text object distinguished bounded parsed same before after matchMode
  exact text_found collation numbers object distinguished bounded parsed same before after matchMode

end Results

/-! Texts compared by their code units, and numbers written as any text that reads as them. -/

noncomputable section Sample

open Classical in
def writtenNumber (value : Rat) : Text :=
  if known : ∃ token, readNumber token = some (.finite value) then known.choose else []

def unitCompare (left right : Text) : Int :=
  if left.map UInt16.toNat < right.map UInt16.toNat then -1
  else if right.map UInt16.toNat < left.map UInt16.toNat then 1
  else 0

def byUnits : Language where
  formatNumber := writtenNumber
  localeCompare := unitCompare
  normalizeDisplayText := id

end Sample

theorem writtenNumber_texts : Parsing.NumberTexts writtenNumber := by
  refine ⟨fun token value reads => ?_⟩
  have known : ∃ token, readNumber token = some (.finite value) := ⟨token, reads⟩
  rw [writtenNumber, dif_pos known]
  exact known.choose_spec

theorem unitCompare_collation : Collation unitCompare := by
  constructor
  · intro left right
    have asymmetric := @lt_asymm _ _ (left.map UInt16.toNat) (right.map UInt16.toNat)
    unfold unitCompare
    split_ifs <;> simp_all
  · intro first second third
    have compares : ∀ left right : Text, unitCompare left right ≤ 0 ↔
        left.map UInt16.toNat ≤ right.map UInt16.toNat := by
      intro left right
      rw [← not_lt (a := right.map UInt16.toNat)]
      have asymmetric := @lt_asymm _ _ (left.map UInt16.toNat) (right.map UInt16.toNat)
      unfold unitCompare
      split_ifs <;> simp_all
    rw [compares, compares, compares]
    exact le_trans

/-- `[true]`, with blanks in it and other brackets around it. -/
theorem value_shown_blanks :
    observedValueMatches byUnits
        ([code ']'] ++ [code '[', code ' ', code 't', code 'r', code 'u', code 'e', code ']'] ++
          [code '['])
        (stringify byUnits.formatNumber (.arr [.bool true])) .exact = true ∧
      (stringify byUnits.formatNumber (.arr [.bool true]) <:+:
          stringify byUnits.formatNumber (.arr [.bool true]) ∨
        ∃ target, parse (stringify byUnits.formatNumber (.arr [.bool true])) = some target ∧
          Contains SameWritten (stringify byUnits.formatNumber (.arr [.bool true])) target) := by
  have shown := @value_shown byUnits unitCompare_collation writtenNumber_texts
  have parsed : parse [code '[', code ' ', code 't', code 'r', code 'u', code 'e', code ']'] =
      some (.arr [.bool true]) := by
    rfl
  have well : (Value.arr [.bool true]).Well (fun _ => True) (Distinguished unitCompare) :=
    .arr (by simpa using .bool true)
  refine ⟨shown.1 _ _ _ rfl well (by decide) parsed rfl _ _ _, shown.2 _ _ ?_⟩
  have plain : parse (stringify byUnits.formatNumber (.arr [.bool true])) =
      some (.arr [.bool true]) := by
    rfl
  exact shown.1 _ _ _ rfl well (by decide) plain rfl [] [] .exact

section Overflow

def overflowing : Text :=
  [code '[', code '1', code 'e', code '9', code '9', code '9', code ']']

def nullList : Text :=
  [code '[', code 'n', code 'u', code 'l', code 'l', code ']']

theorem parse_overflowing : parse overflowing = some (.arr [.num (.infinite false)]) := by
  have number : readNumber [code '1', code 'e', code '9', code '9', code '9'] =
      some (.infinite false) := by decide +kernel
  exact parse_spells (.arr (.lastItem blank_nil (.word (wordValue_number number)) blank_nil))

theorem parse_nullList : parse nullList = some (.arr [.null]) :=
  parse_spells (.arr (.lastItem blank_nil (.word wordValue_words.1) blank_nil))

theorem overflowing_part {part : Text} (place : Part overflowing part) : part = overflowing := by
  rcases place with rfl | ⟨inside, opening, closing⟩
  · rfl
  · obtain ⟨tail, before, after⟩ := List.infix_iff_prefix_suffix.mp inside
    have listed : part ∈ overflowing.tails.flatMap List.inits :=
      List.mem_flatMap.mpr ⟨tail, (List.mem_tails _ _).mpr after, (List.mem_inits _ _).mpr before⟩
    have all : (overflowing.tails.flatMap List.inits).all fun part =>
        !part.head?.any isOpening || !part.getLast?.any isClosing || part == overflowing := by
      decide
    have known := List.all_eq_true.mp all part listed
    obtain ⟨first, head, opens⟩ := opening
    obtain ⟨last, ends, closes⟩ := closing
    simpa [Option.mem_def.mp head, Option.mem_def.mp ends, opens, closes] using known

/-- A number beyond the largest double is read as infinite and written as null. -/
theorem overflow_shown :
    observedValueMatches byUnits overflowing nullList .exact = true ∧
      ¬nullList <:+: overflowing ∧
      ∀ target, parse nullList = some target → ¬Contains SameValue overflowing target := by
  refine ⟨?_, by decide, ?_⟩
  · have matched : matchesText byUnits (canonical byUnits (.arr [.null])) overflowing = true := by
      rw [matchesText, parse_overflowing]
      exact matchesValue_canonical rfl (by rfl)
    rw [observedValueMatches, if_neg (by decide), if_neg (by decide), parse_nullList]
    simp only [isObject, if_true, matched, Bool.true_or]
  · rintro target parsed ⟨part, root, value, place, known, holds, same⟩
    rw [parse_nullList] at parsed
    obtain rfl := Option.some.inj parsed
    rw [overflowing_part place, parse_overflowing] at known
    obtain rfl := Option.some.inj known
    cases holds with
    | itself => simp [SameValue, Value.arrange, Value.transform] at same
    | child inside holds =>
        obtain rfl := List.mem_singleton.mp inside
        cases holds with
        | itself => simp [SameValue, Value.arrange, Value.transform] at same
        | child inside => cases inside

end Overflow

end Devproof.ObservedValue
