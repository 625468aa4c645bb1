import Mathlib.Data.List.Sort
import Devproof.Lib.Double

/-!
Reading JSON as JavaScript reads it.  A text is a sequence of UTF-16 code units,
so it may hold a surrogate without its partner; a number is a binary64 value.
-/

namespace Devproof.Parsing

abbrev Text := List UInt16

instance : LawfulBEq Text :=
  inferInstanceAs (LawfulBEq (List UInt16))

def code (char : Char) : UInt16 :=
  char.toNat.toUInt16

def isDigit (unit : UInt16) : Bool :=
  code '0' ≤ unit && unit ≤ code '9'

/-- The code units of `null`, `true`, `false` and of numbers. -/
def isWordUnit (unit : UInt16) : Bool :=
  isDigit unit || (code 'a' ≤ unit && unit ≤ code 'z') || (code 'A' ≤ unit && unit ≤ code 'Z') ||
    unit == code '+' || unit == code '-' || unit == code '.'

def isBlank (unit : UInt16) : Bool :=
  unit == code ' ' || unit == code '\t' || unit == code '\n' || unit == code '\r'

inductive Number where
  | finite (value : Rat)
  | negativeZero
  | infinite (negative : Bool)
  deriving Repr, DecidableEq

def Number.signed (negative : Bool) (magnitude : Rat) : Number :=
  if magnitude = 0 then (if negative then .negativeZero else .finite 0)
  else .finite (if negative then -magnitude else magnitude)

/-- The nearest binary64 value, subnormal or infinite where the magnitude asks for it. -/
def Number.nearest (negative : Bool) (magnitude : Rat) : Number :=
  if magnitude = 0 then .signed negative 0
  else
    let scale : Rat := 2 ^ max (binaryExponent magnitude - 52) (-1074)
    let rounded := roundEven (magnitude / scale) * scale
    if 2 ^ 1024 ≤ rounded then .infinite negative else .signed negative rounded

def natural (digits : Text) : Nat :=
  digits.foldl (fun total unit => 10 * total + (unit.toNat - 48)) 0

def readMinus : Text → Bool × Text
  | [] => (false, [])
  | unit :: rest => if unit = code '-' then (true, rest) else (false, unit :: rest)

def readWhole (text : Text) : Option (Text × Text) :=
  let whole := text.takeWhile isDigit
  if whole = [] ∨ (1 < whole.length ∧ whole.head? = some (code '0')) then none
  else some (whole, text.dropWhile isDigit)

def readFraction : Text → Option (Text × Text)
  | [] => some ([], [])
  | unit :: rest =>
      if unit = code '.' then
        if rest.takeWhile isDigit = [] then none
        else some (rest.takeWhile isDigit, rest.dropWhile isDigit)
      else some ([], unit :: rest)

def readPower : Text → Option Int
  | [] => none
  | unit :: rest =>
      let digits := if unit = code '+' ∨ unit = code '-' then rest else unit :: rest
      if digits ≠ [] ∧ digits.all isDigit then
        some (if unit = code '-' then -(natural digits : Int) else natural digits)
      else none

def readExponent : Text → Option Int
  | [] => some 0
  | unit :: rest => if unit = code 'e' ∨ unit = code 'E' then readPower rest else none

def readNumber (token : Text) : Option Number := do
  let (whole, rest) ← readWhole (readMinus token).2
  let (fraction, rest) ← readFraction rest
  let exponent ← readExponent rest
  some (.nearest (readMinus token).1
    (natural (whole ++ fraction) * 10 ^ (exponent - (fraction.length : Int))))

def hexDigitOf (unit : UInt16) : Option Nat :=
  if isDigit unit then some (unit.toNat - 48)
  else if code 'a' ≤ unit ∧ unit ≤ code 'f' then some (unit.toNat - 87)
  else if code 'A' ≤ unit ∧ unit ≤ code 'F' then some (unit.toNat - 55)
  else none

def readHex (first second third fourth : UInt16) : Option UInt16 := do
  let first ← hexDigitOf first
  let second ← hexDigitOf second
  let third ← hexDigitOf third
  let fourth ← hexDigitOf fourth
  some (4096 * first + 256 * second + 16 * third + fourth).toUInt16

/-- The code unit a letter after a backslash stands for. -/
def escapes : List (UInt16 × UInt16) :=
  [(code '"', code '"'), (code '\\', code '\\'), (code '/', code '/'), (code 'b', 8),
    (code 'f', 12), (code 'n', 10), (code 'r', 13), (code 't', 9)]

def readString : Text → Option (Text × Text)
  | [] => none
  | unit :: rest =>
      if unit = code '"' then some ([], rest)
      else if unit = code '\\' then
        match rest with
        | [] => none
        | letter :: rest =>
            if letter = code 'u' then
              match rest with
              | first :: second :: third :: fourth :: rest =>
                  (readHex first second third fourth).bind fun unit =>
                    (readString rest).map (Prod.map (unit :: ·) id)
              | _ => none
            else
              (escapes.lookup letter).bind fun unit =>
                (readString rest).map (Prod.map (unit :: ·) id)
      else if unit < 32 then none
      else (readString rest).map (Prod.map (unit :: ·) id)

inductive Value where
  | null
  | bool (value : Bool)
  | num (value : Number)
  | str (value : Text)
  | arr (items : List Value)
  | obj (members : List (Text × Value))

theorem Value.induct {holds : Value → Prop} (null : holds .null)
    (bool : ∀ value, holds (.bool value)) (num : ∀ value, holds (.num value))
    (str : ∀ value, holds (.str value))
    (arr : ∀ items, (∀ item ∈ items, holds item) → holds (.arr items))
    (obj : ∀ members, (∀ entry ∈ members, holds entry.2) → holds (.obj members))
    (value : Value) : holds value := by
  refine Value.rec (motive_1 := holds) (motive_2 := fun items => ∀ item ∈ items, holds item)
    (motive_3 := fun members => ∀ entry ∈ members, holds entry.2)
    (motive_4 := fun entry => holds entry.2) null bool num str arr obj ?_ ?_ ?_ ?_ ?_ value
  · simp
  · intro head tail first rest item member
    rcases List.mem_cons.mp member with rfl | later
    · exact first
    · exact rest item later
  · simp
  · intro head tail first rest entry member
    rcases List.mem_cons.mp member with rfl | later
    · exact first
    · exact rest entry later
  · intro name value held
    exact held

section Members

variable {α : Type}

def setMember (members : List (Text × α)) (entry : Text × α) : List (Text × α) :=
  if entry.1 ∈ members.map Prod.fst then
    members.map fun known => if known.1 = entry.1 then entry else known
  else members ++ [entry]

def ownIndex (name : Text) : Option Nat :=
  if name ≠ [] ∧ name.all isDigit ∧ (name.length = 1 ∨ name.head? ≠ some (code '0')) ∧
      natural name < 2 ^ 32 - 1 then some (natural name)
  else none

def listedFirst (left right : Text) : Prop :=
  (ownIndex left).getD (2 ^ 32) ≤ (ownIndex right).getD (2 ^ 32)

instance : DecidableRel listedFirst := fun _ _ => inferInstanceAs (Decidable (_ ≤ _))

def byName (before : Text → Text → Prop) [DecidableRel before] (members : List (Text × α)) :
    List (Text × α) :=
  members.insertionSort fun left right => before left.1 right.1

def ofMembers (members : List (Text × α)) : List (Text × α) :=
  byName listedFirst (members.foldl setMember [])

end Members

def skip (text : Text) : Text :=
  text.dropWhile isBlank

def wordValue (token : Text) : Option Value :=
  if token = "null".toList.map code then some .null
  else if token = "true".toList.map code then some (.bool true)
  else if token = "false".toList.map code then some (.bool false)
  else (readNumber token).map .num

def readWord (text : Text) : Option (Value × Text) :=
  (wordValue (text.takeWhile isWordUnit)).map fun value => (value, text.dropWhile isWordUnit)

def readName (text : Text) : Option (Text × Text) :=
  match skip text with
  | [] => none
  | unit :: rest =>
      if unit = code '"' then do
        let (name, rest) ← readString rest
        match skip rest with
        | [] => none
        | unit :: rest => if unit = code ':' then some (name, rest) else none
      else none

mutual
/-- Every step of the reading takes a code unit, so the length of the text is fuel enough. -/
def readValue : Nat → Text → Option (Value × Text)
  | 0, _ => none
  | fuel + 1, text =>
      match skip text with
      | [] => none
      | unit :: rest =>
          if unit = code '"' then (readString rest).map fun (units, rest) => (.str units, rest)
          else if unit = code '[' then
            if (skip rest).head? = some (code ']') then some (.arr [], (skip rest).tail)
            else (readItems fuel rest).map fun (items, rest) => (.arr items, rest)
          else if unit = code '\x7b' then
            if (skip rest).head? = some (code '\x7d') then some (.obj [], (skip rest).tail)
            else (readMembers fuel rest).map fun (members, rest) => (.obj (ofMembers members), rest)
          else readWord (unit :: rest)

def readItems : Nat → Text → Option (List Value × Text)
  | 0, _ => none
  | fuel + 1, text => do
      let (item, rest) ← readValue fuel text
      match skip rest with
      | [] => none
      | unit :: rest =>
          if unit = code ']' then some ([item], rest)
          else if unit = code ',' then do
            let (items, rest) ← readItems fuel rest
            some (item :: items, rest)
          else none

def readMembers : Nat → Text → Option (List (Text × Value) × Text)
  | 0, _ => none
  | fuel + 1, text => do
      let (name, rest) ← readName text
      let (value, rest) ← readValue fuel rest
      match skip rest with
      | [] => none
      | unit :: rest =>
          if unit = code '\x7d' then some ([(name, value)], rest)
          else if unit = code ',' then do
            let (members, rest) ← readMembers fuel rest
            some ((name, value) :: members, rest)
          else none
end

def parse (text : Text) : Option Value :=
  match readValue text.length text with
  | some (value, rest) => if skip rest = [] then some value else none
  | none => none

end Devproof.Parsing
