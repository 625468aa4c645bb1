import Devproof.AgentRuntime.ModelHealth
import Devproof.Lib.JsonMembers
import Devproof.Lib.Schema
import Devproof.Lib.Threading

/-!
Redacting a request to the model before it is archived: strings under secret keys and
credentials in plain text, also inside strings that hold JSON (`redactContext` in
`step-context.ts`).
-/

namespace Devproof.Redaction

open Parsing

def secretWords : List String :=
  ["authorization", "proxy-authorization", "cookie", "set-cookie", "password", "passwd",
    "secret", "token", "leasetoken"]

def partedWords : List (String × String) :=
  [("client", "secret"), ("access", "token"), ("refresh", "token"), ("id", "token"),
    ("api", "key"), ("private", "key")]

def secretNames : List (List Char) :=
  secretWords.map String.toList ++ partedWords.flatMap fun word =>
    [[], ['_'], ['-']].map fun mark => word.1.toList ++ mark ++ word.2.toList

def isSecretKey (key : Text) : Bool :=
  (secretNames.map (·.map code)).contains (key.map ModelHealth.fold)

def redactedText : Text :=
  "[REDACTED]".toList.map code

def isSecret (entry : Text × Value) : Bool :=
  match entry.2 with
  | .str _ => isSecretKey entry.1
  | _ => false

def itemPath (path : Text) (index : Nat) : Text :=
  path ++ code '[' :: ((toString index).toList.map code ++ [code ']'])

def memberPath (path key : Text) : Text :=
  path ++ code '.' :: key

def addPath (paths : List Text) (path : Text) : List Text :=
  if path ∈ paths then paths else paths ++ [path]

def isImage (text : Text) : Bool :=
  ("data:image/".toList.map code).isPrefixOf text

def jsonIn (text : Text) : Option Value :=
  match text.dropWhile Schemas.isWhiteSpace with
  | [] => none
  | unit :: _ => if unit = code '[' ∨ unit = code '\x7b' then parse text else none

theorem jsonIn_parse {text : Text} {value : Value} (json : jsonIn text = some value) :
    parse text = some value := by
  unfold jsonIn at json
  split at json
  · cases json
  · split at json
    · exact json
    · cases json

theorem jsonIn_weight {text : Text} {value : Value} {fuel : Nat} (json : jsonIn text = some value)
    (heavy : (Value.str text).weight ≤ fuel + 1) : value.weight ≤ fuel := by
  have bound := parse_weight (jsonIn_parse json)
  rw [Value.weight] at heavy
  omega

@[simp] theorem mem_addPaths {paths added : List Text} {path : Text} :
    path ∈ added.foldl addPath paths ↔ path ∈ paths ∨ path ∈ added := by
  induction added generalizing paths with
  | nil => simp
  | cons first rest ih =>
      rw [List.foldl_cons, ih, addPath]
      split
      · rename_i known
        constructor
        · rintro (old | later)
          · exact Or.inl old
          · exact Or.inr (List.mem_cons_of_mem _ later)
        · rintro (old | new)
          · exact Or.inl old
          · rcases List.mem_cons.mp new with rfl | later
            · exact Or.inl known
            · exact Or.inr later
      · simp [or_assoc]

theorem length_le_addPaths (paths added : List Text) :
    paths.length ≤ (added.foldl addPath paths).length := by
  induction added generalizing paths with
  | nil => exact le_refl _
  | cons first rest ih =>
      refine le_trans ?_ (ih (addPath paths first))
      rw [addPath]
      split
      · exact le_refl _
      · simp

/-- The set does not grow exactly when it has every path already. -/
theorem length_addPaths_eq {paths added : List Text} :
    (added.foldl addPath paths).length = paths.length ↔ ∀ path ∈ added, path ∈ paths := by
  induction added generalizing paths with
  | nil => simp
  | cons first rest ih =>
      rw [List.foldl_cons, List.forall_mem_cons]
      by_cases known : first ∈ paths
      · have same : addPath paths first = paths := if_pos known
        rw [same, ih]
        exact ⟨fun held => ⟨known, held⟩, And.right⟩
      · have longer : addPath paths first = paths ++ [first] := if_neg known
        have grown := length_le_addPaths (addPath paths first) rest
        rw [longer, List.length_append, List.length_singleton] at grown
        rw [longer]
        exact ⟨fun same => absurd same (by omega), fun held => absurd held.1 known⟩

section Visit

variable (redactText : Text → Text) (formatNumber : Rat → Text)

def visitMember (visit : Value → Text → List Text → Value × List Text) (path : Text)
    (entry : Text × Value) (paths : List Text) : (Text × Value) × List Text :=
  if isSecret entry then
    ((entry.1, .str redactedText), addPath paths (memberPath path entry.1))
  else
    let (child, after) := visit entry.2 (memberPath path entry.1) paths
    ((entry.1, child), after)

/-- `visit(item, path)`, with the set of paths before and after it.  Every level takes one of
`fuel`; `redactText` stands for the replacements in plain text. -/
def visit : Nat → Value → Text → List Text → Value × List Text
  | 0, item, _, paths => (item, paths)
  | fuel + 1, .arr items, path, paths =>
      let (visited, after) := threaded (fun place => visit fuel place.1 (itemPath path place.2))
        items.zipIdx paths
      (.arr visited, after)
  | fuel + 1, .obj members, path, paths =>
      let (visited, after) := threaded (visitMember (visit fuel) path) members paths
      (.obj visited, after)
  | fuel + 1, .str text, path, paths =>
      if isImage text then (.str text, paths)
      else match jsonIn text with
        | some value =>
            let (parsed, after) := visit fuel value path paths
            (if after.length = paths.length then .str text
              else .str (stringify formatNumber parsed), after)
        | none =>
            (.str (redactText text), if redactText text = text then paths else addPath paths path)
  | _ + 1, item, _, paths => (item, paths)

def redactContext (value : Value) : Value × List Text :=
  visit redactText formatNumber value.weight value [code '$'] []

/-! Where the visit changes something, whatever the set holds. -/

def memberChanges (changes : Value → Text → List Text) (path : Text) (entry : Text × Value) :
    List Text :=
  if isSecret entry then [memberPath path entry.1]
  else changes entry.2 (memberPath path entry.1)

/-- The paths of the secret strings of a value and of the texts that `redactText` changes, in
the order of the visit. -/
def changes : Nat → Value → Text → List Text
  | 0, _, _ => []
  | fuel + 1, .arr items, path =>
      items.zipIdx.flatMap fun place => changes fuel place.1 (itemPath path place.2)
  | fuel + 1, .obj members, path => members.flatMap (memberChanges (changes fuel) path)
  | fuel + 1, .str text, path =>
      if isImage text then []
      else match jsonIn text with
        | some value => changes fuel value path
        | none => if redactText text = text then [] else [path]
  | _ + 1, _, _ => []

theorem visitMember_paths {visit : Value → Text → List Text → Value × List Text}
    {changes : Value → Text → List Text} (files : ∀ item path paths,
      (visit item path paths).2 = (changes item path).foldl addPath paths)
    (path : Text) (entry : Text × Value) (paths : List Text) :
    (visitMember visit path entry paths).2 =
      (memberChanges changes path entry).foldl addPath paths := by
  rw [visitMember, memberChanges]
  split
  · rfl
  · exact files _ _ _

/-- The set after a visit. -/
theorem visit_paths (fuel : Nat) (item : Value) (path : Text) (paths : List Text) :
    (visit redactText formatNumber fuel item path paths).2 =
      (changes redactText fuel item path).foldl addPath paths := by
  induction fuel generalizing item path paths with
  | zero => rfl
  | succ fuel ih =>
      cases item with
      | arr items =>
          rw [visit, changes]
          exact threaded_store (fun (place : Value × Nat) => ih place.1 (itemPath path place.2)) _ _
      | obj members =>
          rw [visit, changes]
          exact threaded_store (visitMember_paths ih path) _ _
      | str text =>
          rw [visit, changes]
          split
          · rfl
          · cases jsonIn text with
            | some value => exact ih _ _ _
            | none =>
                simp only
                split <;> rfl
      | _ => rfl

end Visit

inductive Exposed : Value → Prop
  | item {items : List Value} {item : Value} (member : item ∈ items) (inside : Exposed item) :
      Exposed (.arr items)
  | secret {members : List (Text × Value)} {entry : Text × Value} (member : entry ∈ members)
      (secret : isSecret entry = true) (shown : entry.2 ≠ .str redactedText) :
      Exposed (.obj members)
  | member {members : List (Text × Value)} {entry : Text × Value} (member : entry ∈ members)
      (other : isSecret entry = false) (inside : Exposed entry.2) : Exposed (.obj members)
  | text {text : Text} {value : Value} (plain : isImage text = false)
      (json : jsonIn text = some value) (inside : Exposed value) : Exposed (.str text)

/-- A value against its redacted form, place by place: secret strings are replaced, all else
keeps its place, and the places of changed strings are among the paths.  A string that holds
JSON is judged by the value it holds, where `-0` may lose its sign. -/
inductive Redacted (paths : List Text) : Text → Value → Value → Prop
  | null {path : Text} : Redacted paths path .null .null
  | bool {path : Text} (value : Bool) : Redacted paths path (.bool value) (.bool value)
  | num {path : Text} (number : Number) : Redacted paths path (.num number) (.num number)
  | zero {path : Text} : Redacted paths path (.num .negativeZero) (.num (.finite 0))
  | image {path text : Text} (image : isImage text = true) :
      Redacted paths path (.str text) (.str text)
  | text {path text result : Text} {value read : Value} (plain : isImage text = false)
      (json : jsonIn text = some value) (reads : parse result = some read)
      (inside : Redacted paths path value read) : Redacted paths path (.str text) (.str result)
  | leaf {path text result : Text} (plain : isImage text = false) (prose : jsonIn text = none)
      (listed : result ≠ text → path ∈ paths) : Redacted paths path (.str text) (.str result)
  | arr {path : Text} {items results : List Value} (same : results.length = items.length)
      (inside : ∀ (index : Nat) item result, items[index]? = some item →
        results[index]? = some result → Redacted paths (itemPath path index) item result) :
      Redacted paths path (.arr items) (.arr results)
  | obj {path : Text} {members results : List (Text × Value)}
      (names : results.map Prod.fst = members.map Prod.fst)
      (secret : ∀ (index : Nat) entry result, members[index]? = some entry →
        results[index]? = some result → isSecret entry = true → result.2 = .str redactedText ∧
          (entry.2 ≠ .str redactedText → memberPath path entry.1 ∈ paths))
      (inside : ∀ (index : Nat) entry result, members[index]? = some entry →
        results[index]? = some result → isSecret entry = false →
          Redacted paths (memberPath path entry.1) entry.2 result.2) :
      Redacted paths path (.obj members) (.obj results)

section Condition

variable (redactText : Text → Text)

def Writable (number : Number) : Prop :=
  ∀ negative, number ≠ .infinite negative

/-- Every string of JSON that shows a secret changes at a path where nothing changed before, and
one that changes at such a path holds no number beyond the range of doubles. -/
def Noticed : Nat → Value → Text → List Text → Prop
  | 0, _, _, _ => True
  | fuel + 1, .arr items, path, earlier =>
      ∀ (index : Nat) item, items[index]? = some item →
        Noticed fuel item (itemPath path index) (earlier ++ (items.zipIdx.take index).flatMap
          fun place => changes redactText fuel place.1 (itemPath path place.2))
  | fuel + 1, .obj members, path, earlier =>
      ∀ (index : Nat) entry, members[index]? = some entry → isSecret entry = false →
        Noticed fuel entry.2 (memberPath path entry.1) (earlier ++
          (members.take index).flatMap (memberChanges (changes redactText fuel) path))
  | fuel + 1, .str text, path, earlier =>
      ∀ value, isImage text = false → jsonIn text = some value →
        (Exposed value → ∃ change ∈ changes redactText fuel value path, change ∉ earlier) ∧
          ((∃ change ∈ changes redactText fuel value path, change ∉ earlier) →
            value.Well Writable fun _ => True) ∧
          Noticed fuel value path earlier
  | _ + 1, _, _, _ => True

end Condition

end Devproof.Redaction
