import Devproof.Lib.Schema

/-!
Regular expressions as tests of where a match begins, and texts they cannot tell apart.
Some units are inert: no pattern here asks which of them it meets.
-/

namespace Devproof.Patterns

open Parsing

def after : Text → Text → Option Text
  | [], text => some text
  | _ :: _, [] => none
  | unit :: rest, head :: tail => if unit = head then after rest tail else none

def dropPoint : Text → Option Text
  | [] => none
  | [unit] => if unit = 10 ∨ unit = 13 ∨ unit = 0x2028 ∨ unit = 0x2029 then none else some []
  | unit :: next :: rest =>
      if unit = 10 ∨ unit = 13 ∨ unit = 0x2028 ∨ unit = 0x2029 then none
      else if isHigh unit && isLow next then some rest else some (next :: rest)

def fixed (expected : String) (next : Text → Bool) (text : Text) : Bool :=
  (after (expected.toList.map code) text).any next

def upTo : Nat → (Text → Bool) → Text → Bool
  | 0, next, text => next text
  | count + 1, next, text => next text || (dropPoint text).any (upTo count next)

def spaces (next : Text → Bool) (text : Text) : Bool :=
  text.head?.any Schemas.isWhiteSpace && next (text.dropWhile Schemas.isWhiteSpace)

def anything (_ : Text) : Bool :=
  true

def anyOf (choices : List String) (next : Text → Bool) (text : Text) : Bool :=
  choices.any fun choice => fixed choice next text

def occurs (pattern : Text → Bool) : Text → Bool
  | [] => pattern []
  | unit :: rest => pattern (unit :: rest) || occurs pattern rest

def occurrences {α : Type} (found : Text → Option α) : Text → List α
  | [] => []
  | unit :: rest => (found (unit :: rest)).toList ++ occurrences found rest

section Alike

variable (inert guard : UInt16 → Bool)

inductive Alike : Text → Text → Prop
  | nil : Alike [] []
  | same {unit : UInt16} {left right : Text} (next : guard unit = true → left.head? = right.head?)
      (rest : Alike left right) : Alike (unit :: left) (unit :: right)
  | inert {known other : UInt16} {left right : Text} (first : inert known = true)
      (second : inert other = true) (rest : Alike left right) :
      Alike (known :: left) (other :: right)

def Blind {α : Type} (test : Text → α) : Prop :=
  ∀ left right, Alike inert guard left right → test left = test right

def Marked (test : Text → Bool) : Prop :=
  ∀ text, test text = true → ∃ unit ∈ text, inert unit = false

variable {inert guard}

theorem Alike.refl (text : Text) : Alike inert guard text text := by
  induction text with
  | nil => exact .nil
  | cons unit rest ih => exact .same (fun _ => rfl) ih

theorem Alike.length_eq {left right : Text} (alike : Alike inert guard left right) :
    left.length = right.length := by
  induction alike with
  | nil => rfl
  | same _ _ ih => simp [ih]
  | inert _ _ _ ih => simp [ih]

theorem Alike.append {left right more others : Text} (alike : Alike inert guard left right)
    (later : Alike inert guard more others) (next : more.head? = others.head?) :
    Alike inert guard (left ++ more) (right ++ others) := by
  induction alike with
  | nil => exact later
  | @same unit left right head rest ih =>
      refine .same (fun guarded => ?_) ih
      have size := rest.length_eq
      cases left with
      | nil =>
          obtain rfl := List.eq_nil_of_length_eq_zero size.symm
          exact next
      | cons first _ =>
          cases right with
          | nil => cases size
          | cons second _ => simpa using head guarded
  | inert first second _ ih => exact .inert first second ih

theorem alike_of_inert {left right : Text} (size : left.length = right.length)
    (first : ∀ unit ∈ left, inert unit = true) (second : ∀ unit ∈ right, inert unit = true) :
    Alike inert guard left right := by
  induction left generalizing right with
  | nil =>
      obtain rfl := List.eq_nil_of_length_eq_zero size.symm
      exact .nil
  | cons unit rest ih =>
      cases right with
      | nil => cases size
      | cons other others =>
          exact .inert (first unit List.mem_cons_self) (second other List.mem_cons_self)
            (ih (Nat.succ.inj size) (fun unit member => first unit (List.mem_cons_of_mem _ member))
              fun unit member => second unit (List.mem_cons_of_mem _ member))

theorem after_alike {expected : Text} (marked : ∀ unit ∈ expected, inert unit = false)
    {left right : Text} (alike : Alike inert guard left right) :
    Option.Rel (Alike inert guard) (after expected left) (after expected right) := by
  induction expected generalizing left right with
  | nil => exact .some alike
  | cons unit rest ih =>
      have active := marked unit List.mem_cons_self
      cases alike with
      | nil => exact .none
      | @same known left right next alike =>
          simp only [after]
          split
          · exact ih (fun unit member => marked unit (List.mem_cons_of_mem _ member)) alike
          · exact .none
      | @inert known other left right first second alike =>
          have here : unit ≠ known := by
            rintro rfl
            simp [active] at first
          have there : unit ≠ other := by
            rintro rfl
            simp [active] at second
          rw [after, after, if_neg here, if_neg there]
          exact .none

theorem Blind.any {test : Text → Bool} (blind : Blind inert guard test) {left right : Option Text}
    (alike : Option.Rel (Alike inert guard) left right) : left.any test = right.any test := by
  cases alike with
  | none => rfl
  | some alike => exact blind _ _ alike

theorem blind_anything : Blind inert guard anything :=
  fun _ _ _ => rfl

theorem blind_or {first second : Text → Bool} (one : Blind inert guard first)
    (other : Blind inert guard second) : Blind inert guard fun text => first text || second text :=
  fun left right alike => by simp only [one left right alike, other left right alike]

theorem active_of_all {text : Text} (checked : (text.all fun unit => !inert unit) = true) :
    ∀ unit ∈ text, inert unit = false := by
  simpa using checked

theorem blind_literal {expected : String} {next : Text → Bool}
    (marked : ((expected.toList.map code).all fun unit => !inert unit) = true)
    (blind : Blind inert guard next) : Blind inert guard (fixed expected next) :=
  fun _ _ alike => blind.any (after_alike (active_of_all marked) alike)

theorem blind_anyOf {choices : List String} {next : Text → Bool}
    (marked : (choices.all fun choice =>
      (choice.toList.map code).all fun unit => !inert unit) = true)
    (blind : Blind inert guard next) : Blind inert guard (anyOf choices next) := by
  intro left right alike
  induction choices with
  | nil => rfl
  | cons choice rest ih =>
      obtain ⟨here, later⟩ := Bool.and_eq_true_iff.mp (List.all_cons ▸ marked)
      simp only [anyOf, List.any_cons]
      rw [blind_literal here blind left right alike]
      exact congrArg _ (ih later)

theorem blind_occurs {pattern : Text → Bool} (blind : Blind inert guard pattern) :
    Blind inert guard (occurs pattern) := by
  intro left right alike
  induction alike with
  | nil => rfl
  | same next rest ih =>
      rw [occurs, occurs, ih, blind _ _ (.same next rest)]
  | inert first second rest ih =>
      rw [occurs, occurs, ih, blind _ _ (.inert first second rest)]

theorem blind_occurrences {α : Type} {found : Text → Option α} (blind : Blind inert guard found) :
    Blind inert guard (occurrences found) := by
  intro left right alike
  induction alike with
  | nil => rfl
  | same next rest ih =>
      rw [occurrences, occurrences, ih, blind _ _ (.same next rest)]
  | inert first second rest ih =>
      rw [occurrences, occurrences, ih, blind _ _ (.inert first second rest)]

theorem Marked.not_inert {test : Text → Bool} (marked : Marked inert test) {text : Text}
    (plain : ∀ unit ∈ text, inert unit = true) : test text = false := by
  by_contra passed
  obtain ⟨unit, member, active⟩ := marked text (by simpa using passed)
  simp [plain unit member] at active

theorem marked_or {first second : Text → Bool} (one : Marked inert first)
    (other : Marked inert second) : Marked inert fun text => first text || second text := by
  intro text passed
  rcases Bool.or_eq_true_iff.mp passed with here | there
  · exact one text here
  · exact other text there

theorem after_eq_some {expected text rest : Text} (found : after expected text = some rest) :
    text = expected ++ rest := by
  induction expected generalizing text with
  | nil => exact Option.some.inj found
  | cons unit later ih =>
      cases text with
      | nil => cases found
      | cons head tail =>
          simp only [after] at found
          split at found
          next same => rw [ih found, same, List.cons_append]
          next => cases found

theorem literal_eq_true {expected : String} {next : Text → Bool} {text : Text}
    (passed : fixed expected next text = true) :
    ∃ rest, text = expected.toList.map code ++ rest ∧ next rest = true := by
  rw [fixed] at passed
  cases found : after (expected.toList.map code) text with
  | none => simp [found] at passed
  | some rest => exact ⟨rest, after_eq_some found, by simpa [found] using passed⟩

theorem marked_literal {expected : String} {next : Text → Bool}
    (active : ((expected.toList.map code).any fun unit => !inert unit) = true) :
    Marked inert (fixed expected next) := by
  intro text passed
  obtain ⟨unit, member, active⟩ := List.any_eq_true.mp active
  obtain ⟨rest, rfl, -⟩ := literal_eq_true passed
  exact ⟨unit, List.mem_append_left _ member, by simpa using active⟩

theorem marked_after {expected : String} {next : Text → Bool} (marked : Marked inert next) :
    Marked inert (fixed expected next) := by
  intro text passed
  obtain ⟨rest, rfl, kept⟩ := literal_eq_true passed
  obtain ⟨unit, member, active⟩ := marked rest kept
  exact ⟨unit, List.mem_append_right _ member, active⟩

theorem marked_anyOf {choices : List String} {next : Text → Bool}
    (active : (choices.all fun choice =>
      (choice.toList.map code).any fun unit => !inert unit) = true) :
    Marked inert (anyOf choices next) := by
  intro text passed
  obtain ⟨choice, member, passed⟩ := List.any_eq_true.mp passed
  exact marked_literal (List.all_eq_true.mp active choice member) text passed

theorem marked_spaces {next : Text → Bool}
    (spaced : ∀ unit, Schemas.isWhiteSpace unit = true → inert unit = false) :
    Marked inert (spaces next) := by
  intro text passed
  cases text with
  | nil => cases passed
  | cons unit rest =>
      have first := (Bool.and_eq_true_iff.mp passed).1
      exact ⟨unit, List.mem_cons_self, spaced unit (by simpa using first)⟩

theorem marked_occurs {pattern : Text → Bool} (marked : Marked inert pattern) :
    Marked inert (occurs pattern) := by
  intro text passed
  induction text with
  | nil => exact marked [] passed
  | cons unit rest ih =>
      rcases Bool.or_eq_true_iff.mp passed with here | there
      · exact marked _ here
      · obtain ⟨known, member, active⟩ := ih there
        exact ⟨known, List.mem_cons_of_mem _ member, active⟩

structure Quiet (inert guard : UInt16 → Bool) : Prop where
  visible : ∀ unit, inert unit = true → 32 < unit ∧ unit < 127
  unescaped : ∀ unit, inert unit = true → unit ≠ code '"' ∧ unit ≠ code '\\'
  marks : ∀ unit ∈ "\",:[\x7b".toList.map code, guard unit = false

section Quiet

variable (quiet : Quiet inert guard)

include quiet

theorem Quiet.mark {unit : UInt16} {left right : Text}
    (member : unit ∈ "\",:[\x7b".toList.map code) (rest : Alike inert guard left right) :
    Alike inert guard (unit :: left) (unit :: right) :=
  .same (fun guarded => absurd (quiet.marks unit member) (by simp [guarded])) rest

theorem Quiet.not_space {unit : UInt16} (space : Schemas.isWhiteSpace unit = true) :
    inert unit = false := by
  by_contra active
  obtain ⟨low, high⟩ := quiet.visible unit (by simpa using active)
  rw [UInt16.lt_iff_toNat_lt] at low high
  simp only [Schemas.isWhiteSpace, Bool.or_eq_true, Bool.and_eq_true, decide_eq_true_eq,
    UInt16.le_iff_toNat_le, List.contains_eq_mem, List.mem_cons, List.not_mem_nil,
    ← UInt16.toNat_inj] at space
  simp at low high space
  omega

theorem Quiet.escapeUnit {unit : UInt16} (held : inert unit = true) : escapeUnit unit = [unit] := by
  obtain ⟨low, high⟩ := quiet.visible unit held
  obtain ⟨quote, slash⟩ := quiet.unescaped unit held
  rw [UInt16.lt_iff_toNat_lt] at low high
  have above : 32 < unit.toNat := low
  have below : unit.toNat < 127 := high
  have other : ∀ known : UInt16, known.toNat < 32 → unit ≠ known := by
    rintro known small rfl
    omega
  have surrogate : ¬(unit < 32 ∨ isHigh unit = true ∨ isLow unit = true) := by
    simp [isHigh, isLow, UInt16.le_iff_toNat_le, UInt16.lt_iff_toNat_lt]
    omega
  rw [Parsing.escapeUnit, if_neg quote, if_neg slash, if_neg (other 8 (by decide)),
    if_neg (other 9 (by decide)), if_neg (other 10 (by decide)), if_neg (other 12 (by decide)),
    if_neg (other 13 (by decide)), if_neg surrogate]

theorem Quiet.not_high {unit : UInt16} (held : inert unit = true) :
    isHigh unit = false ∧ isLow unit = false := by
  obtain ⟨low, high⟩ := quiet.visible unit held
  rw [UInt16.lt_iff_toNat_lt] at low high
  have below : unit.toNat < 127 := high
  simp [isHigh, isLow, UInt16.le_iff_toNat_le]
  omega

theorem Quiet.escaped {text : Text} (held : ∀ unit ∈ text, inert unit = true) :
    Parsing.escaped text = text := by
  induction text using Parsing.escaped.induct with
  | case1 => rfl
  | case2 unit => exact quiet.escapeUnit (held unit List.mem_cons_self)
  | case3 unit next rest pair ih =>
      have first := (quiet.not_high (held unit List.mem_cons_self)).1
      simp [first] at pair
  | case4 unit next rest pair ih =>
      rw [Parsing.escaped, if_neg pair, quiet.escapeUnit (held unit List.mem_cons_self),
        ih fun known member => held known (List.mem_cons_of_mem _ member)]
      rfl

theorem Quiet.quoted {left right : Text} (size : left.length = right.length)
    (first : ∀ unit ∈ left, inert unit = true) (second : ∀ unit ∈ right, inert unit = true) :
    Alike inert guard (Parsing.quoted left) (Parsing.quoted right) := by
  rw [Parsing.quoted, Parsing.quoted, quiet.escaped first, quiet.escaped second]
  exact quiet.mark (by decide) ((alike_of_inert size first second).append (.refl _) rfl)

theorem Quiet.joined {left right : List Text}
    (alike : List.Forall₂ (Alike inert guard) left right) :
    Alike inert guard (Parsing.joined left) (Parsing.joined right) := by
  induction alike with
  | nil => exact .nil
  | cons here there ih =>
      cases there with
      | nil => exact here
      | cons next others => exact here.append (quiet.mark (by decide) ih) rfl

/-- Values whose strings look alike between quotes have texts that are alike. -/
theorem Quiet.stringify {formatNumber : Rat → Text} {change : Text → Text}
    (strings : ∀ text, Alike inert guard (Parsing.quoted text) (Parsing.quoted (change text)))
    (value : Value) : Alike inert guard (stringify formatNumber value)
      (stringify formatNumber (Schemas.mapText change value)) := by
  induction value using Value.induct with
  | null | bool | num => exact .refl _
  | str text => exact strings text
  | arr items ih =>
      simp only [Schemas.mapText, Schemas.mapItems_eq, Parsing.stringify, Parsing.itemTexts_eq,
        List.map_map]
      refine quiet.mark (by decide) ((quiet.joined ?_).append (.refl _) rfl)
      rw [List.forall₂_map_left_iff, List.forall₂_map_right_iff]
      exact List.forall₂_same.mpr ih
  | obj members ih =>
      simp only [Schemas.mapText, Schemas.mapMembers_eq, Parsing.stringify, Parsing.memberTexts_eq,
        List.map_map]
      refine quiet.mark (by decide) ((quiet.joined ?_).append (.refl _) rfl)
      rw [List.forall₂_map_left_iff, List.forall₂_map_right_iff]
      refine List.forall₂_same.mpr ?_
      intro entry member
      exact (Alike.refl _).append (quiet.mark (by decide) (ih entry member)) rfl

theorem Quiet.dropWhile_space {left right : Text} (alike : Alike inert guard left right) :
    Alike inert guard (left.dropWhile Schemas.isWhiteSpace)
      (right.dropWhile Schemas.isWhiteSpace) := by
  induction alike with
  | nil => exact .nil
  | @same unit left right next rest ih =>
      rw [List.dropWhile_cons, List.dropWhile_cons]
      split
      · exact ih
      · exact .same next rest
  | @inert known other left right first second rest ih =>
      have here : Schemas.isWhiteSpace known = false := by
        by_contra space
        simp [quiet.not_space (by simpa using space)] at first
      have there : Schemas.isWhiteSpace other = false := by
        by_contra space
        simp [quiet.not_space (by simpa using space)] at second
      rw [List.dropWhile_cons, List.dropWhile_cons, here, there]
      exact .inert first second rest

theorem Quiet.dropPoint {left right : Text} (alike : Alike inert guard left right) :
    Option.Rel (Alike inert guard) (dropPoint left) (dropPoint right) := by
  have point : ∀ unit, inert unit = true →
      ¬(unit = 10 ∨ unit = 13 ∨ unit = 0x2028 ∨ unit = 0x2029) := by
    intro unit held
    obtain ⟨low, high⟩ := quiet.visible unit held
    rw [UInt16.lt_iff_toNat_lt] at low high
    simp only [← UInt16.toNat_inj]
    simp at low high ⊢
    omega
  cases alike with
  | nil => exact .none
  | @same unit left right next rest =>
      cases rest with
      | nil =>
          simp only [Patterns.dropPoint]
          split
          · exact .none
          · exact .some .nil
      | @same head left right after rest =>
          simp only [Patterns.dropPoint]
          split
          · exact .none
          · split
            · exact .some rest
            · exact .some (.same after rest)
      | @inert known other left right first second rest =>
          simp only [Patterns.dropPoint, (quiet.not_high first).2, (quiet.not_high second).2,
            Bool.and_false]
          split
          · exact .none
          · exact .some (.inert first second rest)
  | @inert known other left right first second rest =>
      have one := point known first
      have two := point other second
      cases rest with
      | nil =>
          rw [Patterns.dropPoint, Patterns.dropPoint, if_neg one, if_neg two]
          exact .some .nil
      | same after rest =>
          simp only [Patterns.dropPoint, if_neg one, if_neg two, (quiet.not_high first).1,
            (quiet.not_high second).1, Bool.false_and]
          exact .some (.same after rest)
      | inert third fourth rest =>
          simp only [Patterns.dropPoint, if_neg one, if_neg two, (quiet.not_high first).1,
            (quiet.not_high second).1, Bool.false_and]
          exact .some (.inert third fourth rest)

theorem Quiet.upTo {next : Text → Bool} (blind : Blind inert guard next) (count : Nat) :
    Blind inert guard (upTo count next) := by
  induction count with
  | zero => exact blind
  | succ count ih =>
      intro left right alike
      simp only [Patterns.upTo]
      rw [blind left right alike, ih.any (quiet.dropPoint alike)]

end Quiet

end Alike

end Devproof.Patterns
