import Mathlib.Algebra.GroupWithZero.Nat
import Mathlib.Data.Rat.Defs
import Mathlib.Data.List.Sort
import Mathlib.Data.List.DropRight

/-!
JavaScript values as they come out of JSON, and the handful of language
operations the translated code applies to them.  An absent member or variable
(`undefined`) is `none : Option Json`.
-/

namespace Devproof

inductive Json where
  | null
  | bool (value : Bool)
  | num (value : Rat)
  | str (value : String)
  | arr (items : List Json)
  | obj (members : List (String × Json))
  deriving Repr, Inhabited

abbrev Members := List (String × Json)

def Members.get (members : Members) (name : String) : Option Json :=
  List.lookup name members

mutual
def Json.deepEqual : Json → Json → Bool
  | .null, .null => true
  | .bool left, .bool right => left == right
  | .num left, .num right => left == right
  | .str left, .str right => left == right
  | .arr left, .arr right => deepEqualItems left right
  | .obj left, .obj right => left.length == right.length && deepEqualMembers left right
  | _, _ => false

def deepEqualItems : List Json → List Json → Bool
  | [], [] => true
  | left :: lefts, right :: rights => left.deepEqual right && deepEqualItems lefts rights
  | _, _ => false

def deepEqualMembers : List (String × Json) → List (String × Json) → Bool
  | [], _ => true
  | (name, left) :: rest, rights =>
      (match rights.lookup name with
        | some right => left.deepEqual right
        | none => false) && deepEqualMembers rest rights
end

def nullish (left right : Option Json) : Option Json :=
  match left with
  | none => right
  | some .null => right
  | some value => some value

def object (value : Option Json) : Members :=
  match value with
  | some (.obj members) => members
  | _ => []

def stringOf (value : Option Json) : Option String :=
  match value with
  | some (.str text) => some text
  | _ => none

def numberOf (value : Option Json) : Option Rat :=
  match value with
  | some (.num number) => some number
  | _ => none

def arrayOf (value : Option Json) : Option (List Json) :=
  match value with
  | some (.arr items) => some items
  | _ => none

def isTrue (value : Option Json) : Bool :=
  match value with
  | some (.bool true) => true
  | _ => false

def isFalse (value : Option Json) : Bool :=
  match value with
  | some (.bool false) => true
  | _ => false

def isTruthy (value : Option Json) : Bool :=
  match value with
  | none | some .null | some (.bool false) => false
  | some (.num number) => number != 0
  | some (.str text) => text != ""
  | some _ => true

def strictEqual (left right : Option Json) : Bool :=
  match left, right with
  | none, none | some .null, some .null => true
  | some (.bool first), some (.bool second) => first == second
  | some (.num first), some (.num second) => first == second
  | some (.str first), some (.str second) => first == second
  | _, _ => false

/-! Strings.  Lengths count UTF-16 code units, as JavaScript does. -/

def charUnits (char : Char) : Nat :=
  if char.toNat < 0x10000 then 1 else 2

def unitsOf (chars : List Char) : Nat :=
  (chars.map charUnits).sum

def units (text : String) : Nat :=
  unitsOf text.toList

def takeUnits : Nat → List Char → List Char
  | 0, _ => []
  | _ + 1, [] => []
  | count + 1, char :: rest =>
      if charUnits char ≤ count + 1 then
        char :: takeUnits (count + 1 - charUnits char) rest
      else ['\uFFFD']
  termination_by structural _ chars => chars

def slice (text : String) (count : Nat) : String :=
  String.ofList (takeUnits count text.toList)

def isSpace (char : Char) : Bool :=
  let code := char.toNat
  (9 ≤ code && code ≤ 13) || code == 0x20 || code == 0xA0 || code == 0x1680 ||
    (0x2000 ≤ code && code ≤ 0x200A) || code == 0x2028 || code == 0x2029 ||
    code == 0x202F || code == 0x205F || code == 0x3000 || code == 0xFEFF

def trim (text : String) : String :=
  String.ofList ((text.toList.dropWhile isSpace).rdropWhile isSpace)

def foldCase (char : Char) : Char :=
  if 'A' ≤ char ∧ char ≤ 'Z' then Char.ofNat (char.toNat + 32)
  else if char = '\u017F' then 's'
  else if char = '\u212A' then 'k'
  else char

def folded (text : String) : List Char :=
  text.toList.map foldCase

def includesChars (text part : List Char) : Bool :=
  text.tails.any fun rest => part.isPrefixOf rest

def includes (text part : String) : Bool :=
  includesChars text.toList part.toList

def startsWith (text start : String) : Bool :=
  start.toList.isPrefixOf text.toList

def isDigit (char : Char) : Bool :=
  '0' ≤ char && char ≤ '9'

def isHexDigit (char : Char) : Bool :=
  isDigit char || ('a' ≤ foldCase char && foldCase char ≤ 'f')

def uniq {α : Type} [BEq α] (items : List α) : List α :=
  items.eraseDups

def lastN {α : Type} (count : Nat) (items : List α) : List α :=
  items.drop (items.length - count)

def indexOf {α : Type} [BEq α] (items : List α) (item : α) : Int :=
  match items.idxOf? item with
  | some index => index
  | none => -1

def replaceFirst {α : Type} (test : α → Bool) (item : α) : List α → List α
  | [] => []
  | first :: rest => if test first then item :: rest else first :: replaceFirst test item rest

def fromEntries (entries : List (String × String)) : List (String × String) :=
  entries.foldl (fun built entry =>
    if built.any fun old => old.1 == entry.1 then
      built.map fun old => if old.1 == entry.1 then entry else old
    else built ++ [entry]) []

def sortAscending {α : Type} (key : α → Int) (items : List α) : List α :=
  items.insertionSort fun left right => key left ≤ key right

def sortDescending {α : Type} (key : α → Int) (items : List α) : List α :=
  items.insertionSort fun left right => key right ≤ key left

theorem mem_sortAscending {α : Type} (key : α → Int) (items : List α) (item : α) :
    item ∈ sortAscending key items ↔ item ∈ items :=
  List.mem_insertionSort _

theorem mem_sortDescending {α : Type} (key : α → Int) (items : List α) (item : α) :
    item ∈ sortDescending key items ↔ item ∈ items :=
  List.mem_insertionSort _

theorem mem_lastN {α : Type} {count : Nat} {items : List α} {item : α}
    (member : item ∈ lastN count items) : item ∈ items :=
  List.mem_of_mem_drop member

theorem mem_replaceFirst {α : Type} {test : α → Bool} {item other : α} {items : List α}
    (member : other ∈ replaceFirst test item items) : other = item ∨ other ∈ items := by
  induction items with
  | nil => simp [replaceFirst] at member
  | cons first rest ih =>
      simp only [replaceFirst] at member
      split at member
      · rcases List.mem_cons.mp member with here | later
        · exact Or.inl here
        · exact Or.inr (List.mem_cons_of_mem _ later)
      · rcases List.mem_cons.mp member with here | later
        · exact Or.inr (by simp [here])
        · exact (ih later).imp_right (List.mem_cons_of_mem _)

theorem mem_replaceFirst_self {α : Type} {test : α → Bool} {item : α} {items : List α}
    (found : (items.find? test).isSome = true) : item ∈ replaceFirst test item items := by
  induction items with
  | nil => simp at found
  | cons first rest ih =>
      simp only [replaceFirst]
      cases here : test first with
      | true => simp
      | false =>
          simp only [Bool.false_eq_true, ↓reduceIte, List.mem_cons]
          exact Or.inr (ih (by simpa [List.find?, here] using found))

theorem replaceFirst_map {α β : Type} {test : α → Bool} {item : α} {items : List α} {view : α → β}
    (same : ∀ old, items.find? test = some old → view item = view old) :
    (replaceFirst test item items).map view = items.map view := by
  induction items with
  | nil => rfl
  | cons first rest ih =>
      simp only [replaceFirst]
      cases found : test first with
      | true => simp [same first (by simp [List.find?, found])]
      | false =>
          simp only [Bool.false_eq_true, ↓reduceIte, List.map_cons]
          rw [ih fun old here => same old (by simpa [List.find?, found] using here)]

/-- A place of the list keeps its item, unless it is the first match and takes the new one. -/
theorem replaceFirst_getElem? {α : Type} {test : α → Bool} {item old : α} {items : List α}
    {index : Nat} (here : items[index]? = some old) :
    (replaceFirst test item items)[index]? = some old ∨
      items.find? test = some old ∧ (replaceFirst test item items)[index]? = some item := by
  induction items generalizing index with
  | nil => simp at here
  | cons first rest ih =>
      simp only [replaceFirst, List.find?_cons]
      cases found : test first with
      | true =>
          cases index with
          | zero =>
              simp only [List.getElem?_cons_zero, Option.some.injEq] at here
              exact Or.inr ⟨congrArg some here, rfl⟩
          | succ place => exact Or.inl here
      | false =>
          cases index with
          | zero => exact Or.inl here
          | succ place => exact ih here

theorem set_map {α β : Type} {index : Nat} {item old : α} {items : List α} {view : α → β}
    (here : items[index]? = some old) (same : view item = view old) :
    (items.set index item).map view = items.map view := by
  rw [List.map_set, same]
  apply List.ext_getElem?
  intro other
  rw [List.getElem?_set]
  split
  · rename_i place
    subst place
    obtain ⟨bound, found⟩ := List.getElem?_eq_some_iff.mp here
    simp [bound, found]
  · rfl

@[simp] theorem mem_uniq {α : Type} [BEq α] [LawfulBEq α] {items : List α} {item : α} :
    item ∈ uniq items ↔ item ∈ items :=
  List.mem_eraseDups

theorem nodup_uniq {α : Type} [BEq α] [LawfulBEq α] (items : List α) : (uniq items).Nodup := by
  unfold uniq
  induction bound : items.length using Nat.strongRecOn generalizing items with
  | ind length ih =>
      cases items with
      | nil => simp
      | cons first rest =>
          rw [List.eraseDups_cons, List.nodup_cons]
          refine ⟨by simp [List.mem_eraseDups], ih _ ?_ _ rfl⟩
          have shorter := List.length_filter_le (fun other => !other == first) rest
          rw [List.length_cons] at bound
          omega

end Devproof
