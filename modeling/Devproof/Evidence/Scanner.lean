import Devproof.Evidence.ObservedValue

/-!
The scanner takes the text of an array or object for what it is, whatever
quotation marks and brackets stand in its strings.
-/

namespace Devproof.ObservedValue

open Parsing

def Passes (depth : Int) (text : Text) : Prop :=
  ∀ tail, bracketed depth false false (text ++ tail) =
    (bracketed depth false false tail).map (text ++ ·)

def onward (depth : Int) (tail : Text) : Option Text :=
  if depth = 0 then some [] else bracketed depth false false tail

def Closes (depth : Int) (text : Text) : Prop :=
  ∀ tail, bracketed (depth + 1) false false (text ++ tail) = (onward depth tail).map (text ++ ·)

theorem map_append (first second : Text) (result : Option Text) :
    (result.map (second ++ ·)).map (first ++ ·) = result.map ((first ++ second) ++ ·) := by
  rw [Option.map_map]
  exact Option.map_congr fun text _ => (List.append_assoc first second text).symm

theorem Passes.append {depth : Int} {first second : Text} (passes : Passes depth first)
    (further : Passes depth second) : Passes depth (first ++ second) := by
  intro tail
  rw [List.append_assoc, passes, further, map_append]

theorem Passes.closes {depth : Int} {first second : Text} (passes : Passes (depth + 1) first)
    (closes : Closes depth second) : Closes depth (first ++ second) := by
  intro tail
  rw [List.append_assoc, passes, closes, map_append]

def Inert (unit : UInt16) : Prop :=
  unit ≠ code '"' ∧ isOpening unit = false ∧ isClosing unit = false

theorem inert_passes {text : Text} (inert : ∀ unit ∈ text, Inert unit) (depth : Int) :
    Passes depth text := by
  intro tail
  induction text with
  | nil => simp
  | cons unit rest ih =>
      obtain ⟨⟨quote, opening, closing⟩, later⟩ := List.forall_mem_cons.mp inert
      rw [List.cons_append, bracketed, if_neg (by decide), if_neg quote, opening, closing,
        ih later, Option.map_map]
      rfl

theorem wordy_passes {text : Text} (wordy : Wordy text) (depth : Int) : Passes depth text := by
  refine inert_passes (fun unit member => ?_) depth
  have word := wordy unit member
  refine ⟨?_, ?_, ?_⟩
  · rintro rfl
    exact absurd word (by decide)
  · rw [isOpening, Bool.or_eq_false_iff, beq_eq_false_iff_ne, beq_eq_false_iff_ne]
    constructor <;> (rintro rfl; exact absurd word (by decide))
  · rw [isClosing, Bool.or_eq_false_iff, beq_eq_false_iff_ne, beq_eq_false_iff_ne]
    constructor <;> (rintro rfl; exact absurd word (by decide))

theorem blank_passes {gap : Text} (blank : Blank gap) (depth : Int) : Passes depth gap := by
  refine inert_passes (fun unit member => ?_) depth
  rcases isBlank_cases (blank unit member) with rfl | rfl | rfl | rfl <;>
    exact ⟨by decide, by decide, by decide⟩

theorem single_passes {unit : UInt16} (inert : Inert unit) (depth : Int) : Passes depth [unit] :=
  inert_passes (by simpa using inert) depth

/-- Inside of quotation marks only these two units have a branch. -/
theorem inside_passes {text : Text} (plain : ∀ unit ∈ text, unit ≠ code '"' ∧ unit ≠ code '\\')
    (depth : Int) (tail : Text) :
    bracketed depth true false (text ++ tail) =
      (bracketed depth true false tail).map (text ++ ·) := by
  induction text with
  | nil => simp
  | cons unit rest ih =>
      obtain ⟨⟨quote, slash⟩, later⟩ := List.forall_mem_cons.mp plain
      rw [List.cons_append, bracketed]
      simp only [if_true, Bool.false_eq_true, if_false, if_neg slash, if_neg quote, ih later,
        Option.map_map]
      rfl

theorem hexDigitOf_plain {unit : UInt16} {digit : Nat} (reads : hexDigitOf unit = some digit) :
    unit ≠ code '"' ∧ unit ≠ code '\\' := by
  constructor
  · rintro rfl
    exact absurd reads (by rw [show hexDigitOf (code '"') = none by decide]; simp)
  · rintro rfl
    exact absurd reads (by rw [show hexDigitOf (code '\\') = none by decide]; simp)

theorem piece_passes {raw : Text} {unit : UInt16} (piece : Piece raw unit) (depth : Int)
    (tail : Text) : bracketed depth true false (raw ++ tail) =
      (bracketed depth true false tail).map (raw ++ ·) := by
  -- the unit after a backslash is passed over, whatever it is
  have escape : ∀ (letter : UInt16) (tail : Text),
      bracketed depth true false (code '\\' :: letter :: tail) =
        (bracketed depth true false tail).map ([code '\\', letter] ++ ·) := by
    intro letter tail
    rw [bracketed]
    simp only [if_true, Bool.false_eq_true, if_false]
    rw [bracketed]
    simp only [if_true, Option.map_map]
    rfl
  cases piece with
  | @hex first second third fourth _ reads =>
      simp only [readHex, Option.bind_eq_bind, Option.bind_eq_some_iff] at reads
      obtain ⟨_, one, _, two, _, three, _, four, -⟩ := reads
      have digits : ∀ unit ∈ [first, second, third, fourth],
          unit ≠ code '"' ∧ unit ≠ code '\\' := by
        simp only [List.forall_mem_cons]
        exact ⟨hexDigitOf_plain one, hexDigitOf_plain two, hexDigitOf_plain three,
          hexDigitOf_plain four, by simp⟩
      have passes := inside_passes digits depth tail
      change bracketed depth true false
        (code '\\' :: code 'u' :: ([first, second, third, fourth] ++ tail)) = _
      rw [escape, passes, map_append]
      rfl
  | escape named => exact escape _ tail
  | plain quote slash printed =>
      exact inside_passes (by simpa using ⟨quote, slash⟩) depth tail

theorem quotes_passes {raw units : Text} (quotes : Quotes raw units) (depth : Int) :
    Passes depth (code '"' :: raw) := by
  have inside : ∀ tail, bracketed depth true false (raw ++ tail) =
      (bracketed depth false false tail).map (raw ++ ·) := by
    induction quotes with
    | close =>
        intro tail
        rw [List.cons_append, bracketed]
        simp only [if_true, Bool.false_eq_true, if_false,
          if_neg (show code '"' ≠ code '\\' by decide)]
        rfl
    | piece first later ih =>
        intro tail
        rw [List.append_assoc, piece_passes first, ih, map_append]
  intro tail
  rw [List.cons_append, bracketed]
  simp only [Bool.false_eq_true, if_false, if_true, inside, Option.map_map]
  rfl

theorem names_passes {head name : Text} (names : Names head name) (depth : Int) :
    Passes depth head := by
  obtain ⟨opening, quotes, closing⟩ := names
  have colon := single_passes (show Inert (code ':') from ⟨by decide, by decide, by decide⟩) depth
  exact (blank_passes opening depth).append
    ((quotes_passes quotes depth).append ((blank_passes closing depth).append colon))

theorem opening_passes {unit : UInt16} (opening : isOpening unit = true) {depth : Int}
    {body : Text} (closes : Closes depth body) (tail : Text) :
    bracketed depth false false (unit :: body ++ tail) =
      (onward depth tail).map (unit :: body ++ ·) := by
  have quote : unit ≠ code '"' := by
    rintro rfl
    exact absurd opening (by decide)
  rw [List.cons_append, bracketed, if_neg (by decide), if_neg quote, if_pos opening, closes,
    Option.map_map]
  rfl

theorem closing_closes {unit : UInt16} (closing : isClosing unit = true) (depth : Int) :
    Closes depth [unit] := by
  intro tail
  have plain : unit ≠ code '"' ∧ isOpening unit = false := by
    simp only [isClosing, Bool.or_eq_true, beq_iff_eq] at closing
    rcases closing with rfl | rfl <;> decide
  rw [List.cons_append, bracketed, if_neg (by decide), if_neg plain.1, plain.2,
    if_neg (by decide), if_pos closing, Int.add_sub_cancel, onward]
  split <;> rfl

/-- What the scanner does on the text of a value, and on the inside of an array or object. -/
def Scanned (depth : Int) (text : Text) : Form → Prop
  | .value _ => 0 < depth → Passes depth text
  | .items _ => 0 ≤ depth → Closes depth text
  | .members _ => 0 ≤ depth → Closes depth text

theorem bracket_units : isOpening (code '[') = true ∧ isOpening (code '\x7b') = true ∧
    isClosing (code ']') = true ∧ isClosing (code '\x7d') = true ∧ Inert (code ',') :=
  ⟨by decide, by decide, by decide, by decide, by decide, by decide, by decide⟩

theorem enclosed_passes {unit : UInt16} (opening : isOpening unit = true) {depth : Int}
    (positive : 0 < depth) {body : Text} (closes : Closes depth body) :
    Passes depth (unit :: body) := by
  intro tail
  rw [opening_passes opening closes, onward, if_neg (by omega)]

theorem spells_scanned {form : Form} {text : Text} (spells : Spells form text) :
    ∀ depth, Scanned depth text form := by
  obtain ⟨bracket, brace, endBracket, endBrace, comma⟩ := bracket_units
  induction spells with
  | word reads => exact fun depth _ => wordy_passes (wordValue_wordy reads) depth
  | str quotes => exact fun depth _ => quotes_passes quotes depth
  | noItems blank =>
      intro depth positive
      exact enclosed_passes bracket positive
        ((blank_passes blank _).closes (closing_closes endBracket depth))
  | arr _ ih => exact fun depth positive => enclosed_passes bracket positive (ih depth positive.le)
  | noMembers blank =>
      intro depth positive
      exact enclosed_passes brace positive
        ((blank_passes blank _).closes (closing_closes endBrace depth))
  | obj _ ih => exact fun depth positive => enclosed_passes brace positive (ih depth positive.le)
  | lastItem opening _ closing ih =>
      intro depth reached
      exact (blank_passes opening _).closes ((ih (depth + 1) (by omega)).closes
        ((blank_passes closing _).closes (closing_closes endBracket depth)))
  | item opening _ closing _ ih ihLater =>
      intro depth reached
      exact (blank_passes opening _).closes ((ih (depth + 1) (by omega)).closes
        ((blank_passes closing _).closes ((single_passes comma _).closes (ihLater depth reached))))
  | lastMember names opening _ closing ih =>
      intro depth reached
      exact (names_passes names _).closes ((blank_passes opening _).closes
        ((ih (depth + 1) (by omega)).closes
          ((blank_passes closing _).closes (closing_closes endBrace depth))))
  | member names opening _ closing _ ih ihLater =>
      intro depth reached
      exact (names_passes names _).closes ((blank_passes opening _).closes
        ((ih (depth + 1) (by omega)).closes ((blank_passes closing _).closes
          ((single_passes comma _).closes (ihLater depth reached)))))

theorem bracketed_spells {value : Value} {text : Text} (spells : Spells (.value value) text)
    (object : isObject value = true) :
    (∃ unit rest, text = unit :: rest ∧ isOpening unit = true) ∧
      ∀ tail, bracketed 0 false false (text ++ tail) = some text := by
  obtain ⟨bracket, brace, endBracket, endBrace, -⟩ := bracket_units
  have enclosed : ∀ {unit : UInt16} {body : Text}, isOpening unit = true → Closes 0 body →
      (∃ first rest, unit :: body = first :: rest ∧ isOpening first = true) ∧
        ∀ tail, bracketed 0 false false (unit :: body ++ tail) = some (unit :: body) := by
    intro unit body opening closes
    refine ⟨⟨unit, body, rfl, opening⟩, fun tail => ?_⟩
    rw [opening_passes opening closes, onward, if_pos rfl, Option.map_some, List.append_nil]
  cases spells with
  | word reads =>
      rcases wordValue_cases reads with rfl | ⟨yes, rfl⟩ | ⟨number, rfl, -⟩ <;> cases object
  | str => cases object
  | noItems blank =>
      exact enclosed bracket ((blank_passes blank _).closes (closing_closes endBracket 0))
  | arr inside => exact enclosed bracket (spells_scanned inside 0 le_rfl)
  | noMembers blank =>
      exact enclosed brace ((blank_passes blank _).closes (closing_closes endBrace 0))
  | obj inside => exact enclosed brace (spells_scanned inside 0 le_rfl)

theorem bracketed_slice {depth : Int} {inQuotes escaped : Bool} {text slice : Text}
    (found : bracketed depth inQuotes escaped text = some slice) :
    slice <+: text ∧ ∃ unit ∈ slice.getLast?, isClosing unit = true := by
  have step : ∀ {unit : UInt16} {rest : Text} {depth : Int} {inQuotes escaped : Bool}
      {slice : Text},
      (∀ {slice}, bracketed depth inQuotes escaped rest = some slice →
        slice <+: rest ∧ ∃ unit ∈ slice.getLast?, isClosing unit = true) →
      (bracketed depth inQuotes escaped rest).map (unit :: ·) = some slice →
      slice <+: unit :: rest ∧ ∃ unit ∈ slice.getLast?, isClosing unit = true := by
    intro unit rest depth inQuotes escaped slice ih found
    obtain ⟨later, known, rfl⟩ := Option.map_eq_some_iff.mp found
    obtain ⟨part, last, ends, closing⟩ := ih known
    refine ⟨(List.prefix_cons_inj unit).mpr part, last, ?_, closing⟩
    cases later with
    | nil => simp at ends
    | cons head tail => simpa using ends
  induction text generalizing depth inQuotes escaped slice with
  | nil => cases found
  | cons unit rest ih =>
      rw [bracketed] at found
      split_ifs at found with inside skip slash quote start opening closing done
      · exact step ih found
      · exact step ih found
      · exact step ih found
      · exact step ih found
      · exact step ih found
      · exact step ih found
      · cases found
        exact ⟨by simp, unit, by simp, closing⟩
      · exact step ih found
      · exact step ih found

end Devproof.ObservedValue
