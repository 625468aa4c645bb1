import Mathlib.Logic.Relation
import Devproof.Lib.JsonSize

/-!
Reading a captured observation page by page (`page`, `deliverPage` and
`nextUnreadCursor` of `browser-observation.ts`).
-/

namespace Devproof.ObservationPages

open Parsing

def PAGE_BYTES : Nat := 12 * 1024

def jsonBytes (text : Text) : Nat :=
  byteLength (Parsing.quoted text)

def newline : UInt16 := code '\n'

/-- What stands for a line that does not fit a page. -/
def notice : Text :=
  "[一行过长，已跳过；请缩小 snapshot 的 target 或 depth。]".toList.map code

def search (fits : Nat → Bool) (low high : Nat) : Nat :=
  if low < high then
    if fits ((low + high + 1) / 2) then search fits ((low + high + 1) / 2) high
    else search fits low ((low + high + 1) / 2 - 1)
  else low
termination_by high - low

def fits (rest : Text) (count : Nat) : Bool :=
  jsonBytes (rest.take count) ≤ PAGE_BYTES

theorem search_spec (fits : Nat → Bool) (low high : Nat) (ordered : low ≤ high) :
    low ≤ search fits low high ∧ search fits low high ≤ high ∧
      (search fits low high = low ∨ fits (search fits low high) = true) ∧
      (search fits low high = high ∨ fits (search fits low high + 1) = false) := by
  fun_induction search fits low high with
  | case1 low high below passes ih =>
      obtain ⟨lower, upper, kept, stopped⟩ := ih (by omega)
      refine ⟨by omega, upper, .inr ?_, stopped⟩
      rcases kept with same | passed
      · rw [same]
        exact passes
      · exact passed
  | case2 low high below fails ih =>
      obtain ⟨lower, upper, kept, stopped⟩ := ih (by omega)
      refine ⟨lower, by omega, kept, .inr ?_⟩
      rcases stopped with last | failed
      · rw [last, Nat.sub_add_cancel (by omega)]
        exact Bool.eq_false_of_not_eq_true fails
      · exact failed
  | case3 low high done =>
      exact ⟨Nat.le_refl _, ordered, .inl rfl, .inl (Nat.le_antisymm ordered (Nat.le_of_not_lt done))⟩

def halvesToThree (length : Nat) : Bool :=
  if length ≤ 3 then length == 3 else halvesToThree (length / 2)

theorem search_all {fits : Nat → Bool} {low high : Nat} (ordered : low ≤ high)
    (passes : ∀ count, low < count → count ≤ high → fits count = true) :
    search fits low high = high := by
  obtain ⟨lower, upper, -, stopped⟩ := search_spec fits low high ordered
  rcases stopped with last | failed
  · exact last
  · by_contra short
    rw [passes _ (by omega) (by omega)] at failed
    cases failed

/-- The last length is only tested after the one before it. -/
theorem search_last {fits : Nat → Bool} {low high : Nat} (below : low + 1 < high)
    (fails : fits (high - 1) = false) : search fits low high ≠ high := by
  fun_induction search fits low high with
  | case1 low high ordered passes ih =>
      by_cases close : (low + high + 1) / 2 + 1 < high
      · exact ih close fails
      · have middle : (low + high + 1) / 2 = high - 1 := by omega
        rw [middle, fails] at passes
        cases passes
  | case2 low high ordered fails' ih =>
      have upper := (search_spec fits low ((low + high + 1) / 2 - 1) (by omega)).2.1
      omega
  | case3 low high done => omega

/-- When only the length two before the last fails, the way of the search decides. -/
theorem search_gap {fits : Nat → Bool} {low high : Nat} (below : low + 2 < high)
    (fails : fits (high - 2) = false)
    (passes : ∀ count, low < count → count ≤ high → count ≠ high - 2 → fits count = true) :
    search fits low high = high ↔ halvesToThree (high - low) = true := by
  fun_induction search fits low high with
  | case1 low high ordered passed ih =>
      rw [halvesToThree]
      by_cases close : (low + high + 1) / 2 + 2 < high
      · rw [ih close fails fun count above => passes count (by omega), if_neg (by omega)]
        have half : high - (low + high + 1) / 2 = (high - low) / 2 := by omega
        rw [half]
      · by_cases tested : (low + high + 1) / 2 = high - 2
        · rw [tested, fails] at passed
          cases passed
        · have three : high - low = 3 := by omega
          rw [three]
          refine iff_of_true ?_ rfl
          exact search_all (by omega) fun count above inside =>
            passes count (by omega) inside (by omega)
  | case2 low high ordered failed ih =>
      have tested : (low + high + 1) / 2 = high - 2 := by
        by_contra other
        exact failed (passes _ (by omega) (by omega) other)
      have upper := (search_spec fits low ((low + high + 1) / 2 - 1) (by omega)).2.1
      refine iff_of_false (by omega) ?_
      have four : high - low = 4 ∨ high - low = 5 := by omega
      rcases four with same | same <;> rw [same] <;> simp [halvesToThree]
  | case3 low high done => omega

def endsHigh (text : Text) : Bool :=
  text.getLast?.any isHigh

def pageEnd (rest : Text) : Nat :=
  let low := search (fits rest) 0 rest.length
  if 0 < low ∧ endsHigh (rest.take low) = true then low - 1 else low

def throughLastLine (text : Text) : Text :=
  (text.reverse.dropWhile (· ≠ newline)).reverse

def firstLine (rest : Text) : Text :=
  rest.take ((rest.takeWhile (· ≠ newline)).length + 1)

structure Page where
  content : Text
  cursor : Nat
  nextCursor : Option Nat
  totalCapturedChars : Nat
  omittedLine : Bool
  deriving Repr, DecidableEq

structure Cut where
  content : Text
  consumed : Nat
  omittedLine : Bool

def cut (snapshot : Bool) (rest : Text) : Cut :=
  let kept := rest.take (pageEnd rest)
  if snapshot ∧ pageEnd rest < rest.length then
    if newline ∈ kept then ⟨throughLastLine kept, (throughLastLine kept).length, false⟩
    else ⟨notice, (firstLine rest).length, true⟩
  else ⟨kept, pageEnd rest, false⟩

section Observation

variable (snapshot : Bool) (content : Text)

def page (cursor : Nat) : Page :=
  let shown := cut snapshot (content.drop cursor)
  { content := shown.content
    cursor
    nextCursor :=
      if cursor + shown.consumed < content.length then some (cursor + shown.consumed) else none
    totalCapturedChars := content.length
    omittedLine := shown.omittedLine }

structure Entry where
  cursors : List Nat := [0]
  readPages : List (Nat × Option Nat) := []
  lastReadCursor : Option Nat := none
  completeSnapshotRead : Bool := false

def Entry.view (entry : Entry) (cursor : Nat) : Entry :=
  { entry with cursors := (page snapshot content cursor).nextCursor.toList ++ entry.cursors }

def Entry.mark (entry : Entry) (cursor : Nat) (next : Option Nat) : Entry :=
  { entry with
    readPages := (cursor, next) :: entry.readPages.filter fun known => known.1 ≠ cursor }

def Entry.deliverPage (entry : Entry) (given : Page) : Entry :=
  if given.cursor ∉ entry.cursors then entry
  else if snapshot ∧ given.cursor = 0 ∧ given.nextCursor = none ∧ given.content = content ∧
      !given.omittedLine then
    { entry.mark 0 none with lastReadCursor := some 0, completeSnapshotRead := true }
  else
    let viewed := entry.view snapshot content given.cursor
    if (page snapshot content given.cursor).content ≠ given.content ∨
        (page snapshot content given.cursor).nextCursor ≠ given.nextCursor then viewed
    else { viewed.mark given.cursor given.nextCursor with lastReadCursor := some given.cursor }

def Entry.read (entry : Entry) (cursor : Nat) : Option Page × Entry :=
  if cursor ∉ entry.cursors then (none, entry)
  else (some (page snapshot content cursor),
    (entry.view snapshot content cursor).deliverPage snapshot content (page snapshot content cursor))

inductive Reached : Nat → Prop
  | start : Reached 0
  | next {cursor next : Nat} (here : Reached cursor)
      (shown : (page snapshot content cursor).nextCursor = some next) : Reached next

inductive Step : Entry → Entry → Prop
  | read {entry : Entry} (cursor : Nat) : Step entry (entry.read snapshot content cursor).2
  | deliver {entry : Entry} (given : Page) :
      Step entry (entry.deliverPage snapshot content given)
  | view {entry : Entry} {cursor : Nat} (reached : Reached snapshot content cursor) :
      Step entry (entry.view snapshot content cursor)
  | inherit {entry : Entry} {cursor : Nat} (reached : Reached snapshot content cursor) :
      Step entry (entry.mark cursor (page snapshot content cursor).nextCursor)
  | inheritComplete {entry : Entry} :
      Step entry { entry.mark 0 none with lastReadCursor := some 0, completeSnapshotRead := true }

inductive UnreadFrom (readPages : List (Nat × Option Nat)) : Nat → Option Nat → Prop
  | unread {cursor : Nat} (absent : readPages.lookup cursor = none) :
      UnreadFrom readPages cursor (some cursor)
  | all {cursor : Nat} (last : readPages.lookup cursor = some none) :
      UnreadFrom readPages cursor none
  | next {cursor next : Nat} {result : Option Nat}
      (read : readPages.lookup cursor = some (some next))
      (later : UnreadFrom readPages next result) : UnreadFrom readPages cursor result

inductive PagesFrom : Nat → List Page → Prop
  | last {cursor : Nat} (shown : (page snapshot content cursor).nextCursor = none) :
      PagesFrom cursor [page snapshot content cursor]
  | more {cursor next : Nat} {pages : List Page}
      (shown : (page snapshot content cursor).nextCursor = some next)
      (later : PagesFrom next pages) : PagesFrom cursor (page snapshot content cursor :: pages)

/-- The part of the content that a page stands for. -/
def range (cursor : Nat) : Text :=
  (content.drop cursor).take
    ((page snapshot content cursor).nextCursor.getD content.length - cursor)

def LineStart (cursor : Nat) : Prop :=
  cursor = 0 ∨ content[cursor - 1]? = some newline

structure WholeLines (cursor : Nat) : Prop where
  starts : LineStart content cursor
  ends : ∀ next, (page snapshot content cursor).nextCursor = some next → LineStart content next
  shown : (page snapshot content cursor).omittedLine = false →
    (page snapshot content cursor).content = range snapshot content cursor
  omitted : (page snapshot content cursor).omittedLine = true →
    newline ∉ (range snapshot content cursor).dropLast ∧
      PAGE_BYTES < jsonBytes (range snapshot content cursor)

structure Delivers : Prop where
  progress : ∀ cursor, Reached snapshot content cursor →
    ∀ next, (page snapshot content cursor).nextCursor = some next → cursor < next
  fits : ∀ cursor, Reached snapshot content cursor →
    jsonBytes (page snapshot content cursor).content ≤ PAGE_BYTES
  reading : ∃ pages, PagesFrom snapshot content 0 pages ∧
    (snapshot = false → pages.flatMap Page.content = content)
  lines : snapshot = true → ∀ cursor, Reached snapshot content cursor →
    WholeLines snapshot content cursor
  unread : ∀ entry, Relation.ReflTransGen (Step snapshot content) {} entry →
    ∃ result, UnreadFrom entry.readPages 0 result

def lastLine : Text :=
  (content.reverse.takeWhile (· ≠ newline)).reverse

/-- A last line that the search for a page's end comes to the end of, if it fits at all. -/
def Reachable (line : Text) : Prop :=
  endsHigh line = false ∧ jsonBytes (line.take (line.length - 1)) ≤ PAGE_BYTES ∧
    (jsonBytes (line.take (line.length - 2)) ≤ PAGE_BYTES ∨ halvesToThree line.length = true)

/-- The content does not end with the first half of a surrogate pair; the last line of a snapshot
    is empty, too long or one that the search comes to the end of. -/
def Readable : Prop :=
  if snapshot then
    lastLine content = [] ∨ PAGE_BYTES < jsonBytes (lastLine content) ∨ Reachable (lastLine content)
  else endsHigh content = false

end Observation

end Devproof.ObservationPages
