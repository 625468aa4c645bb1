import Mathlib.Data.List.Sort
import Mathlib.Data.Rat.Defs
import Devproof.Lib.Double
import Devproof.Lib.JsonText

/-!
The canonical text of a value, from which its digests are computed
(`canonicalJson` in `observation-digest.ts`).
-/

namespace Devproof

inductive JsValue where
  | undefined
  | null
  | bool (value : Bool)
  | num (value : Rat)
  | str (value : String)
  | arr (items : List JsValue)
  | obj (members : List (String × JsValue))

structure Locale where
  /-- `JSON.stringify(number)`. -/
  formatNumber : Rat → String
  /-- `left.localeCompare(right)`. -/
  localeCompare : String → String → Int

theorem JsValue.induct {holds : JsValue → Prop} (undefined : holds .undefined)
    (null : holds .null) (bool : ∀ value, holds (.bool value)) (num : ∀ value, holds (.num value))
    (str : ∀ value, holds (.str value))
    (arr : ∀ items, (∀ item ∈ items, holds item) → holds (.arr items))
    (obj : ∀ members, (∀ entry ∈ members, holds entry.2) → holds (.obj members))
    (value : JsValue) : holds value := by
  refine JsValue.rec (motive_1 := holds) (motive_2 := fun items => ∀ item ∈ items, holds item)
    (motive_3 := fun members => ∀ entry ∈ members, holds entry.2)
    (motive_4 := fun entry => holds entry.2) undefined null bool num str arr obj ?_ ?_ ?_ ?_ ?_
    value
  · simp
  · intro head tail first rest item member
    rcases List.mem_cons.mp member with rfl | later
    · exact first
    · exact rest item later
  · simp
  · intro head tail first rest entry member
    rcases List.mem_cons.mp member with rfl | later
    · exact first
    · exact rest entry later
  · intro name value held
    exact held

namespace JsValue

def isUndefined : JsValue → Bool
  | .undefined => true
  | _ => false

theorem isUndefined_iff {value : JsValue} : value.isUndefined = true ↔ value = .undefined := by
  cases value <;> simp [isUndefined]

theorem isUndefined_false_iff {value : JsValue} :
    value.isUndefined = false ↔ value ≠ .undefined := by
  rw [← Bool.not_eq_true, ne_eq, isUndefined_iff]

end JsValue

def present (members : List (String × JsValue)) : List (String × JsValue) :=
  members.filter fun entry => !entry.2.isUndefined

theorem mem_present {members : List (String × JsValue)} {entry : String × JsValue} :
    entry ∈ present members ↔ entry ∈ members ∧ entry.2 ≠ .undefined := by
  rw [present, List.mem_filter, Bool.not_eq_true', JsValue.isUndefined_false_iff]

section Locale

variable (locale : Locale)

def sortMembers {α : Type} (entries : List (String × α)) : List (String × α) :=
  entries.insertionSort fun left right => locale.localeCompare left.1 right.1 ≤ 0

def memberText (entry : String × List Char) : List Char :=
  quoted entry.1 ++ ':' :: entry.2

mutual
def canonicalText : JsValue → Option (List Char)
  | .undefined => none
  | .null => some "null".toList
  | .bool true => some "true".toList
  | .bool false => some "false".toList
  | .num value => some (locale.formatNumber value).toList
  | .str value => some (quoted value)
  | .arr items => some ('[' :: ([','].intercalate (itemTexts items) ++ [']']))
  | .obj members =>
      some ('\x7b' ::
        ([','].intercalate ((sortMembers locale (memberTexts members)).map memberText) ++ ['\x7d']))

def itemTexts : List JsValue → List (List Char)
  | [] => []
  | item :: rest => (canonicalText item).getD [] :: itemTexts rest

def memberTexts : List (String × JsValue) → List (String × List Char)
  | [] => []
  | (name, value) :: rest =>
      match canonicalText value with
      | none => memberTexts rest
      | some text => (name, text) :: memberTexts rest
end

def canonicalJson (value : JsValue) : Option String :=
  (canonicalText locale value).map String.ofList

end Locale

/-! Values that are equal up to the order of members and members that are `undefined`. -/

mutual
def sameValue : JsValue → JsValue → Bool
  | .undefined, .undefined => true
  | .null, .null => true
  | .bool left, .bool right => left == right
  | .num left, .num right => left == right
  | .str left, .str right => left == right
  | .arr left, .arr right => sameItems left right
  | .obj left, .obj right =>
      sameMembers left right &&
        (present right).all fun entry => (present left).any fun known => known.1 == entry.1
  | _, _ => false

def sameItems : List JsValue → List JsValue → Bool
  | [], [] => true
  | left :: lefts, right :: rights => sameValue left right && sameItems lefts rights
  | _, _ => false

def sameMembers : List (String × JsValue) → List (String × JsValue) → Bool
  | [], _ => true
  | (name, value) :: rest, others =>
      (value.isUndefined ||
        match others.lookup name with
        | some other => sameValue value other
        | none => false) && sameMembers rest others
end

mutual
def everywhere (test : JsValue → Bool) : JsValue → Bool
  | .arr items => test (.arr items) && everyItem test items
  | .obj members => test (.obj members) && everyMember test members
  | value => test value

def everyItem (test : JsValue → Bool) : List JsValue → Bool
  | [] => true
  | item :: rest => everywhere test item && everyItem test rest

def everyMember (test : JsValue → Bool) : List (String × JsValue) → Bool
  | [] => true
  | (_, value) :: rest => everywhere test value && everyMember test rest
end

def arrayIndex (name : String) : Option Nat :=
  let digits := name.toList
  let index := digits.foldl (fun total digit => 10 * total + (digit.toNat - 48)) 0
  if digits ≠ [] ∧ digits.all Char.isDigit = true ∧ (digits = ['0'] ∨ digits.head? ≠ some '0') ∧
      index < 4294967295 then
    some index
  else none

/-- An object lists its index names first, in ascending order, and the others as they were added. -/
def listedBefore (left right : String) : Bool :=
  match arrayIndex left, arrayIndex right with
  | some first, some second => first < second
  | none, some _ => false
  | _, none => true

/-- An object has one member of a name, in the order it lists them; a number is a finite double. -/
def wellFormed : JsValue → Bool
  | .obj members =>
      decide ((members.map Prod.fst).Nodup ∧
        (members.map Prod.fst).Pairwise fun left right => listedBefore left right = true)
  | .num value => double value == value
  | _ => true

def JsValue.valid (value : JsValue) : Bool := everywhere wellFormed value

def isHole : JsValue → Bool
  | .arr [.undefined] => true
  | _ => false

def isBare : JsValue → Bool
  | .arr [] => true
  | _ => false

section Locale

variable (locale : Locale)

/-- The comparison takes two names for equal, and an object may list them in either order. -/
def tied (left right : String) : Bool :=
  locale.localeCompare left right ≤ 0 && locale.localeCompare right left ≤ 0 &&
    (arrayIndex left).isNone && (arrayIndex right).isNone

def untied : JsValue → Bool
  | .obj members =>
      decide ((present members).Pairwise fun left right => tied locale left.1 right.1 = false)
  | _ => true

def JsValue.separable (value : JsValue) : Bool :=
  everywhere (untied locale) value && everywhere (fun value => !isHole value) value

def JsValue.unmistakable (value : JsValue) : Bool :=
  value.separable locale && everywhere (fun value => !isBare value) value

end Locale

structure TotalPreorder (localeCompare : String → String → Int) : Prop where
  reversed : ∀ left right, localeCompare left right < 0 ↔ 0 < localeCompare right left
  transitive : ∀ first second third, localeCompare first second ≤ 0 →
    localeCompare second third ≤ 0 → localeCompare first third ≤ 0

structure NumberTexts (formatNumber : Rat → String) : Prop where
  injective : ∀ left right, double left = left → double right = right →
    formatNumber left = formatNumber right → left = right
  word : ∀ value, IsWord (formatNumber value).toList
  digits : ∀ value, ∀ char ∈ (formatNumber value).toList.head?, char.isDigit = true ∨ char = '-'

end Devproof
