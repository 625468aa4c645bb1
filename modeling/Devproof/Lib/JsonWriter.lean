import Devproof.Lib.JsonGrammar

/-!
Writing JSON as JavaScript writes it, and what reading the text gives back.
-/

namespace Devproof.Parsing

def hexDigit (value : Nat) : UInt16 :=
  if value < 10 then (48 + value).toUInt16 else (87 + value).toUInt16

def unicodeEscape (unit : UInt16) : Text :=
  [code '\\', code 'u', hexDigit (unit.toNat / 4096), hexDigit (unit.toNat / 256 % 16),
    hexDigit (unit.toNat / 16 % 16), hexDigit (unit.toNat % 16)]

def isHigh (unit : UInt16) : Bool :=
  0xD800 ≤ unit && unit ≤ 0xDBFF

def isLow (unit : UInt16) : Bool :=
  0xDC00 ≤ unit && unit ≤ 0xDFFF

def escapeUnit (unit : UInt16) : Text :=
  if unit = code '"' then [code '\\', code '"']
  else if unit = code '\\' then [code '\\', code '\\']
  else if unit = 8 then [code '\\', code 'b']
  else if unit = 9 then [code '\\', code 't']
  else if unit = 10 then [code '\\', code 'n']
  else if unit = 12 then [code '\\', code 'f']
  else if unit = 13 then [code '\\', code 'r']
  else if unit < 32 ∨ isHigh unit = true ∨ isLow unit = true then unicodeEscape unit
  else [unit]

def escaped : Text → Text
  | [] => []
  | [unit] => escapeUnit unit
  | unit :: next :: rest =>
      if isHigh unit && isLow next then unit :: next :: escaped rest
      else escapeUnit unit ++ escaped (next :: rest)

def quoted (units : Text) : Text :=
  code '"' :: (escaped units ++ [code '"'])

theorem hexDigitOf_hexDigit {value : Nat} (small : value < 16) :
    hexDigitOf (hexDigit value) = some value := by
  have all : ∀ value < 16, hexDigitOf (hexDigit value) = some value := by decide
  exact all value small

theorem unicodeEscape_piece (unit : UInt16) : Piece (unicodeEscape unit) unit := by
  refine .hex ?_
  have bound : unit.toNat < 65536 := unit.toNat_lt
  have value : 4096 * (unit.toNat / 4096) + 256 * (unit.toNat / 256 % 16) +
      16 * (unit.toNat / 16 % 16) + unit.toNat % 16 = unit.toNat := by omega
  simp only [readHex, Option.bind_eq_bind]
  rw [hexDigitOf_hexDigit (by omega), hexDigitOf_hexDigit (by omega),
    hexDigitOf_hexDigit (by omega), hexDigitOf_hexDigit (by omega)]
  simp only [Option.bind_some, value]
  exact congrArg some UInt16.ofNat_toNat

theorem escapeUnit_piece (unit : UInt16) : Piece (escapeUnit unit) unit := by
  unfold escapeUnit
  split_ifs with quote slash back tab line form carriage other
  · subst quote
    exact .escape (by decide)
  · subst slash
    exact .escape (by decide)
  · subst back
    exact .escape (by decide)
  · subst tab
    exact .escape (by decide)
  · subst line
    exact .escape (by decide)
  · subst form
    exact .escape (by decide)
  · subst carriage
    exact .escape (by decide)
  · exact unicodeEscape_piece unit
  · exact .plain quote slash fun below => other (Or.inl below)

theorem surrogate_piece {unit : UInt16} (above : 0xD800 ≤ unit) : Piece [unit] unit := by
  refine .plain ?_ ?_ ?_
  · rintro rfl
    exact absurd above (by decide)
  · rintro rfl
    exact absurd above (by decide)
  · rw [UInt16.not_lt]
    exact UInt16.le_trans (by decide) above

theorem escaped_quotes (units : Text) : Quotes (escaped units ++ [code '"']) units := by
  fun_induction escaped units with
  | case1 => exact .close
  | case2 unit => exact .piece (escapeUnit_piece unit) .close
  | case3 unit next rest pair ih =>
      simp only [Bool.and_eq_true, isHigh, isLow, decide_eq_true_eq] at pair
      have second := Quotes.piece (surrogate_piece (UInt16.le_trans (by decide) pair.2.1)) ih
      change Quotes ([unit] ++ ([next] ++ (escaped rest ++ [code '"']))) (unit :: next :: rest)
      exact .piece (surrogate_piece pair.1.1) second
  | case4 unit next rest pair ih =>
      rw [List.append_assoc]
      exact .piece (escapeUnit_piece unit) ih

section Numbers

variable (formatNumber : Rat → Text)

def writeNumber : Number → Text
  | .finite value => formatNumber value
  | .negativeZero => formatNumber 0
  | .infinite _ => "null".toList.map code

structure NumberTexts : Prop where
  reads : ∀ token value, readNumber token = some (.finite value) →
    readNumber (formatNumber value) = some (.finite value)

def Number.Readable (number : Number) : Prop :=
  ∃ token, readNumber token = some number

def Number.written : Number → Value
  | .finite value => .num (.finite value)
  | .negativeZero => .num (.finite 0)
  | .infinite _ => .null

variable {formatNumber}

theorem wordValue_number {token : Text} {number : Number}
    (reads : readNumber token = some number) : wordValue token = some (.num number) := by
  have word : ∀ text : String, readNumber (text.toList.map code) = none →
      token ≠ text.toList.map code := by
    rintro text refused rfl
    rw [refused] at reads
    cases reads
  rw [wordValue, if_neg (word "null" (by decide)), if_neg (word "true" (by decide)),
    if_neg (word "false" (by decide)), reads]
  rfl

theorem wordValue_words :
    wordValue ("null".toList.map code) = some .null ∧
      wordValue ("true".toList.map code) = some (.bool true) ∧
      wordValue ("false".toList.map code) = some (.bool false) := by
  refine ⟨rfl, ?_, ?_⟩
  · rw [wordValue, if_neg (by decide), if_pos rfl]
  · rw [wordValue, if_neg (by decide), if_neg (by decide), if_pos rfl]

theorem writeNumber_spells (numbers : NumberTexts formatNumber) {number : Number}
    (readable : number.Readable) :
    Spells (.value number.written) (writeNumber formatNumber number) := by
  obtain ⟨token, reads⟩ := readable
  cases number with
  | finite value => exact .word (wordValue_number (numbers.reads token value reads))
  | negativeZero =>
      exact .word (wordValue_number (numbers.reads [code '0'] 0 (by decide +kernel)))
  | infinite negative => exact .word wordValue_words.1

end Numbers

def joined : List Text → Text
  | [] => []
  | [text] => text
  | text :: next :: rest => text ++ code ',' :: joined (next :: rest)

def memberText (entry : Text × Text) : Text :=
  quoted entry.1 ++ code ':' :: entry.2

section Stringify

variable (formatNumber : Rat → Text)

mutual
def stringify : Value → Text
  | .null => "null".toList.map code
  | .bool value => (if value then "true" else "false").toList.map code
  | .num value => writeNumber formatNumber value
  | .str value => quoted value
  | .arr items => code '[' :: (joined (itemTexts items) ++ [code ']'])
  | .obj members =>
      code '\x7b' :: (joined ((memberTexts members).map memberText) ++ [code '\x7d'])

def itemTexts : List Value → List Text
  | [] => []
  | item :: rest => stringify item :: itemTexts rest

def memberTexts : List (Text × Value) → List (Text × Text)
  | [] => []
  | (name, value) :: rest => (name, stringify value) :: memberTexts rest
end

@[simp] theorem itemTexts_eq (items : List Value) :
    itemTexts formatNumber items = items.map (stringify formatNumber) := by
  induction items with
  | nil => rfl
  | cons item rest ih => rw [itemTexts, ih, List.map_cons]

@[simp] theorem memberTexts_eq (members : List (Text × Value)) :
    memberTexts formatNumber members = members.map (Prod.map id (stringify formatNumber)) := by
  induction members with
  | nil => rfl
  | cons entry rest ih =>
      obtain ⟨name, value⟩ := entry
      rw [memberTexts, ih, List.map_cons]
      rfl

end Stringify

/-! The numbers and the members of a value, changed throughout. -/

section Transform

variable (number : Number → Value) (order : List (Text × Value) → List (Text × Value))

mutual
def Value.transform : Value → Value
  | .null => .null
  | .bool value => .bool value
  | .num value => number value
  | .str value => .str value
  | .arr items => .arr (transformItems items)
  | .obj members => .obj (order (transformMembers members))

def transformItems : List Value → List Value
  | [] => []
  | item :: rest => item.transform :: transformItems rest

def transformMembers : List (Text × Value) → List (Text × Value)
  | [] => []
  | (name, value) :: rest => (name, value.transform) :: transformMembers rest
end

@[simp] theorem transformItems_eq (items : List Value) :
    transformItems number order items = items.map (Value.transform number order) := by
  induction items with
  | nil => rfl
  | cons item rest ih => rw [transformItems, ih, List.map_cons]

@[simp] theorem transformMembers_eq (members : List (Text × Value)) :
    transformMembers number order members =
      members.map (Prod.map id (Value.transform number order)) := by
  induction members with
  | nil => rfl
  | cons entry rest ih =>
      obtain ⟨name, value⟩ := entry
      rw [transformMembers, ih, List.map_cons]
      rfl

end Transform

def Value.plain (value : Value) : Value :=
  value.transform Number.written id

def Value.readBack (value : Value) : Value :=
  value.transform Number.written ofMembers

inductive Value.Well (number : Number → Prop) (names : List Text → Prop) : Value → Prop
  | null : Well number names .null
  | bool (value : Bool) : Well number names (.bool value)
  | num {value : Number} (held : number value) : Well number names (.num value)
  | str (value : Text) : Well number names (.str value)
  | arr {items : List Value} (held : ∀ item ∈ items, Well number names item) :
      Well number names (.arr items)
  | obj {members : List (Text × Value)} (named : names (members.map Prod.fst))
      (held : ∀ entry ∈ members, Well number names entry.2) : Well number names (.obj members)

section RoundTrip

variable {formatNumber : Rat → Text}

theorem quoted_names (name : Text) : Names (quoted name ++ [code ':']) name := by
  have names := Names.mk blank_nil (escaped_quotes name) blank_nil
  simpa [quoted] using names

theorem items_spell {texts : List Text} {items : List Value}
    (spells : List.Forall₂ (fun item text => Spells (.value item) text) items texts)
    (nonempty : items ≠ []) : Spells (.items items) (joined texts ++ [code ']']) := by
  induction spells with
  | nil => exact absurd rfl nonempty
  | @cons item text items texts first later ih =>
      cases later with
      | nil => simpa [joined] using Spells.lastItem blank_nil first blank_nil
      | cons next others =>
          have rest := ih (List.cons_ne_nil _ _)
          simpa [joined] using Spells.item blank_nil first blank_nil rest

theorem members_spell {texts : List (Text × Text)} {members : List (Text × Value)}
    (spells : List.Forall₂ (fun entry text => entry.1 = text.1 ∧ Spells (.value entry.2) text.2)
      members texts) (nonempty : members ≠ []) :
    Spells (.members members) (joined (texts.map memberText) ++ [code '\x7d']) := by
  induction spells with
  | nil => exact absurd rfl nonempty
  | @cons entry text members texts first later ih =>
      obtain ⟨name, value⟩ := entry
      obtain ⟨rfl, first⟩ := first
      cases later with
      | nil =>
          simpa [joined, memberText] using
            Spells.lastMember (quoted_names text.1) blank_nil first blank_nil
      | cons next others =>
          have rest := ih (List.cons_ne_nil _ _)
          simpa [joined, memberText] using
            Spells.member (quoted_names text.1) blank_nil first blank_nil rest

theorem stringify_spells (numbers : NumberTexts formatNumber) {names : List Text → Prop}
    {value : Value} (well : value.Well Number.Readable names) :
    Spells (.value value.readBack) (stringify formatNumber value) := by
  induction well with
  | null => exact .word wordValue_words.1
  | bool value =>
      cases value with
      | false => exact .word wordValue_words.2.2
      | true => exact .word wordValue_words.2.1
  | num readable => exact writeNumber_spells numbers readable
  | str value => exact .str (escaped_quotes value)
  | @arr items held ih =>
      cases items with
      | nil => exact .noItems blank_nil
      | cons item rest =>
          simp only [Value.readBack, Value.transform, stringify, transformItems_eq, itemTexts_eq]
          refine .arr (items_spell ?_ (by simp))
          rw [List.forall₂_map_left_iff, List.forall₂_map_right_iff]
          exact List.forall₂_same.mpr ih
  | @obj members named held ih =>
      cases members with
      | nil => exact .noMembers blank_nil
      | cons entry rest =>
          simp only [Value.readBack, Value.transform, stringify, transformMembers_eq,
            memberTexts_eq]
          refine .obj (members_spell ?_ (by simp))
          rw [List.forall₂_map_left_iff, List.forall₂_map_right_iff]
          exact List.forall₂_same.mpr fun entry member => ⟨rfl, ih entry member⟩

theorem parse_stringify (numbers : NumberTexts formatNumber) {names : List Text → Prop}
    {value : Value} (well : value.Well Number.Readable names) :
    parse (stringify formatNumber value) = some value.readBack :=
  parse_spells (stringify_spells numbers well)

end RoundTrip

end Devproof.Parsing
