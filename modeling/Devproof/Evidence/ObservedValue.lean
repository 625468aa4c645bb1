import Mathlib.Data.List.Infix
import Devproof.Lib.JsonOrder

/-!
Whether a quotation shows an expected value (`observed-value.ts`).
-/

namespace Devproof.ObservedValue

open Parsing

structure Language where
  /-- `String(number)`. -/
  formatNumber : Rat → Text
  /-- `left.localeCompare(right)`. -/
  localeCompare : Text → Text → Int
  normalizeDisplayText : Text → Text

inductive MatchMode where
  | exact
  | displayText
  deriving Repr, DecidableEq

section Language

variable (language : Language)

def Language.before (left right : Text) : Prop :=
  language.localeCompare left right ≤ 0

instance : DecidableRel language.before := fun _ _ => inferInstanceAs (Decidable (_ ≤ _))

mutual
def canonical : Value → Text
  | .arr items => code '[' :: (Parsing.joined (canonicalItems items) ++ [code ']'])
  | .obj members =>
      code '\x7b' :: (Parsing.joined
        ((byName language.before (canonicalMembers members)).map Parsing.memberText) ++ [code '\x7d'])
  | .null => stringify language.formatNumber .null
  | .bool value => stringify language.formatNumber (.bool value)
  | .num value => stringify language.formatNumber (.num value)
  | .str value => stringify language.formatNumber (.str value)

def canonicalItems : List Value → List Text
  | [] => []
  | item :: rest => canonical item :: canonicalItems rest

def canonicalMembers : List (Text × Value) → List (Text × Text)
  | [] => []
  | (name, value) :: rest => (name, canonical value) :: canonicalMembers rest
end

end Language

def children : Value → List Value
  | .arr items => items
  | .obj members => members.map Prod.snd
  | _ => []

def isObject : Value → Bool
  | .arr _ => true
  | .obj _ => true
  | _ => false

theorem child_weight {value child : Value} (inside : child ∈ children value) :
    child.weight < value.weight := by
  cases value with
  | null | bool | num | str => cases inside
  | arr items => exact Nat.lt_succ_of_le (weight_le_items inside)
  | obj members =>
      obtain ⟨entry, member, rfl⟩ := List.mem_map.mp inside
      exact Nat.lt_succ_of_le (weight_le_members member)

section Language

variable (language : Language) (wanted : Text)

def matchesValue (value : Value) : Bool :=
  match value with
  | .str text =>
      match _ : parse text with
      | some value => matchesValue value
      | none => false
  | value =>
      canonical language value == wanted ||
        (children value).attach.any fun child => matchesValue child.1
termination_by value.weight
decreasing_by
  · exact Nat.lt_succ_of_le (parse_weight ‹_›)
  · exact child_weight child.2

def matchesText (text : Text) : Bool :=
  match parse text with
  | some value => matchesValue language wanted value
  | none => false

end Language

def isOpening (unit : UInt16) : Bool :=
  unit == code '\x7b' || unit == code '['

def isClosing (unit : UInt16) : Bool :=
  unit == code '\x7d' || unit == code ']'

def bracketed (depth : Int) (inQuotes escaped : Bool) : Text → Option Text
  | [] => none
  | unit :: rest =>
      if inQuotes then
        if escaped then (bracketed depth inQuotes false rest).map (unit :: ·)
        else if unit = code '\\' then (bracketed depth inQuotes true rest).map (unit :: ·)
        else if unit = code '"' then (bracketed depth false escaped rest).map (unit :: ·)
        else (bracketed depth inQuotes escaped rest).map (unit :: ·)
      else if unit = code '"' then (bracketed depth true escaped rest).map (unit :: ·)
      else if isOpening unit then (bracketed (depth + 1) inQuotes escaped rest).map (unit :: ·)
      else if isClosing unit then
        if depth - 1 = 0 then some [unit]
        else (bracketed (depth - 1) inQuotes escaped rest).map (unit :: ·)
      else (bracketed depth inQuotes escaped rest).map (unit :: ·)

section Language

variable (language : Language) (wanted : Text)

def matchesStart (text : Text) : Bool :=
  match bracketed 0 false false (text.take 8000) with
  | some slice => matchesText language wanted slice
  | none => false

def matchesSlice : Text → Bool
  | [] => false
  | unit :: rest =>
      (isOpening unit && matchesStart language wanted (unit :: rest)) || matchesSlice rest

def isSpace (unit : UInt16) : Bool :=
  (9 ≤ unit && unit ≤ 13) || (0x2000 ≤ unit && unit ≤ 0x200A) ||
    [32, 0xA0, 0x1680, 0x2028, 0x2029, 0x202F, 0x205F, 0x3000, 0xFEFF].contains unit

/-- `/^[\[{]/u.test(expected.trim())`. -/
def expectsJson (expected : Text) : Bool :=
  (expected.dropWhile isSpace).head?.any isOpening

def observedValueMatches (quote expected : Text) (matchMode : MatchMode) : Bool :=
  if expected <:+: quote then true
  else if matchMode = .displayText ∧ expectsJson expected = false then
    decide (language.normalizeDisplayText expected <:+: language.normalizeDisplayText quote)
  else
    match parse expected with
    | none => false
    | some target =>
        if isObject target then
          matchesText language (canonical language target) quote ||
            matchesSlice language (canonical language target) quote
        else false

end Language

end Devproof.ObservedValue
