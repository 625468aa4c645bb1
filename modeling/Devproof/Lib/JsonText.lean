import Mathlib.Data.List.Infix

/-!
The text of a JSON document can be read in one way only.  A document is a tree
of words, quoted texts, lists and tables; a list may also hold a blank.
-/

namespace Devproof

def hexDigit (value : Nat) : Char :=
  if value < 10 then Char.ofNat (48 + value) else Char.ofNat (87 + value)

def controlEscape (code : Nat) : List Char :=
  if code = 8 then ['\\', 'b']
  else if code = 9 then ['\\', 't']
  else if code = 10 then ['\\', 'n']
  else if code = 12 then ['\\', 'f']
  else if code = 13 then ['\\', 'r']
  else ['\\', 'u', '0', '0', hexDigit (code / 16), hexDigit (code % 16)]

def jsonEscape (char : Char) : List Char :=
  if char = '"' then ['\\', '"']
  else if char = '\\' then ['\\', '\\']
  else if char.toNat < 32 then controlEscape char.toNat
  else [char]

def quoted (text : String) : List Char :=
  '"' :: (text.toList.flatMap jsonEscape ++ ['"'])

theorem controlEscape_sameLead {left right : Nat} (boundLeft : left < 32) (boundRight : right < 32)
    (below : controlEscape left <+: controlEscape right) : left = right := by
  have all : ∀ left < 32, ∀ right < 32, controlEscape left <+: controlEscape right →
      left = right := by decide
  exact all left boundLeft right boundRight below

theorem controlEscape_shape (code : Nat) :
    ∃ letter rest, controlEscape code = '\\' :: letter :: rest ∧ letter ≠ '"' ∧ letter ≠ '\\' := by
  unfold controlEscape
  split_ifs <;> exact ⟨_, _, rfl, by decide, by decide⟩

theorem jsonEscape_cases (char : Char) :
    (char = '"' ∧ jsonEscape char = ['\\', '"']) ∨
      (char = '\\' ∧ jsonEscape char = ['\\', '\\']) ∨
      (char.toNat < 32 ∧ jsonEscape char = controlEscape char.toNat) ∨
      (char ≠ '"' ∧ char ≠ '\\' ∧ jsonEscape char = [char]) := by
  unfold jsonEscape
  split_ifs with quote slash control
  · exact Or.inl ⟨quote, rfl⟩
  · exact Or.inr (Or.inl ⟨slash, rfl⟩)
  · exact Or.inr (Or.inr (Or.inl ⟨control, rfl⟩))
  · exact Or.inr (Or.inr (Or.inr ⟨quote, slash, rfl⟩))

theorem jsonEscape_sameLead {left right : Char} (below : jsonEscape left <+: jsonEscape right) :
    left = right := by
  obtain ⟨letter, rest, shape, letterQuote, letterSlash⟩ := controlEscape_shape left.toNat
  obtain ⟨letter', rest', shape', letterQuote', letterSlash'⟩ := controlEscape_shape right.toNat
  rcases jsonEscape_cases left with ⟨quote, text⟩ | ⟨slash, text⟩ | ⟨control, text⟩ |
    ⟨quote, slash, text⟩ <;>
  rcases jsonEscape_cases right with ⟨quote', text'⟩ | ⟨slash', text'⟩ | ⟨control', text'⟩ |
    ⟨quote', slash', text'⟩ <;>
  rw [text, text'] at below
  case inr.inr.inl.inr.inr.inl =>
    exact Char.toNat_inj.mp (controlEscape_sameLead control control' below)
  case inr.inr.inr.inr.inr.inr => exact (List.cons_prefix_cons.mp below).1
  all_goals
    simp only [shape, shape', List.cons_prefix_cons] at below
    grind

theorem jsonEscape_head (char : Char) :
    ∃ head rest, jsonEscape char = head :: rest ∧ head ≠ '"' := by
  rcases jsonEscape_cases char with ⟨-, text⟩ | ⟨-, text⟩ | ⟨-, text⟩ | ⟨quote, -, text⟩
  · exact ⟨_, _, text, by decide⟩
  · exact ⟨_, _, text, by decide⟩
  · obtain ⟨letter, rest, shape, -⟩ := controlEscape_shape char.toNat
    exact ⟨_, _, text.trans shape, by decide⟩
  · exact ⟨_, _, text, quote⟩

theorem escapes_injective {left right : List Char} {rest rest' : List Char}
    (same : left.flatMap jsonEscape ++ '"' :: rest = right.flatMap jsonEscape ++ '"' :: rest') :
    left = right ∧ rest = rest' := by
  induction left generalizing right with
  | nil =>
      cases right with
      | nil => simpa using same
      | cons char chars =>
          obtain ⟨head, tail, text, other⟩ := jsonEscape_head char
          simp [text, other.symm] at same
  | cons char chars ih =>
      cases right with
      | nil =>
          obtain ⟨head, tail, text, other⟩ := jsonEscape_head char
          simp [text, other] at same
      | cons char' chars' =>
          simp only [List.flatMap_cons, List.append_assoc] at same
          have comparable := List.prefix_or_prefix_of_prefix (List.prefix_append _ _)
            (same ▸ List.prefix_append (jsonEscape char') _)
          obtain rfl : char = char' := by
            rcases comparable with below | above
            · exact jsonEscape_sameLead below
            · exact (jsonEscape_sameLead above).symm
          obtain ⟨tails, rests⟩ := ih (List.append_cancel_left same)
          exact ⟨by rw [tails], rests⟩

theorem quoted_injective {left right : String} {rest rest' : List Char}
    (same : quoted left ++ rest = quoted right ++ rest') : left = right ∧ rest = rest' := by
  simp only [quoted, List.cons_append, List.append_assoc, List.nil_append, List.cons.injEq,
    true_and] at same
  obtain ⟨texts, rests⟩ := escapes_injective same
  exact ⟨String.toList_inj.mp texts, rests⟩

def isWordChar (char : Char) : Bool :=
  char.isAlphanum || "+-.".toList.contains char

structure IsWord (text : List Char) : Prop where
  nonempty : text ≠ []
  plain : ∀ char ∈ text, isWordChar char = true

def Stops (rest : List Char) : Prop :=
  ∀ char ∈ rest.head?, char = ',' ∨ char = ']' ∨ char = '\x7d'

theorem word_injective {left right rest rest' : List Char}
    (plain : ∀ char ∈ left, isWordChar char = true)
    (plain' : ∀ char ∈ right, isWordChar char = true) (stops : Stops rest) (stops' : Stops rest')
    (same : left ++ rest = right ++ rest') : left = right ∧ rest = rest' := by
  have breaks : ∀ rest, Stops rest → ∀ char ∈ rest.head?, isWordChar char = false := by
    intro rest stops char first
    rcases stops char first with rfl | rfl | rfl <;> decide
  induction left generalizing right with
  | nil =>
      cases right with
      | nil => exact ⟨rfl, same⟩
      | cons char chars =>
          have word := plain' char (List.mem_cons_self ..)
          rw [List.nil_append, List.cons_append] at same
          have other := breaks rest stops char (by simp [same])
          rw [word] at other
          cases other
  | cons char chars ih =>
      cases right with
      | nil =>
          have word := plain char (List.mem_cons_self ..)
          rw [List.nil_append, List.cons_append] at same
          have other := breaks rest' stops' char (by simp [← same])
          rw [word] at other
          cases other
      | cons char' chars' =>
          simp only [List.cons_append, List.cons.injEq] at same
          obtain ⟨rfl, tails⟩ := same
          obtain ⟨rfl, rests⟩ := ih (fun char member => plain char (List.mem_cons_of_mem _ member))
            (fun char member => plain' char (List.mem_cons_of_mem _ member)) tails
          exact ⟨rfl, rests⟩

inductive Shape where
  | blank
  | word (text : List Char)
  | text (value : String)
  | list (items : List Shape)
  | table (members : List (String × Shape))

theorem Shape.induct {holds : Shape → Prop} (blank : holds .blank)
    (word : ∀ text, holds (.word text)) (text : ∀ value, holds (.text value))
    (list : ∀ items, (∀ item ∈ items, holds item) → holds (.list items))
    (table : ∀ members, (∀ entry ∈ members, holds entry.2) → holds (.table members))
    (shape : Shape) : holds shape := by
  refine Shape.rec (motive_1 := holds) (motive_2 := fun items => ∀ item ∈ items, holds item)
    (motive_3 := fun members => ∀ entry ∈ members, holds entry.2)
    (motive_4 := fun entry => holds entry.2) blank word text list table ?_ ?_ ?_ ?_ ?_ shape
  · simp
  · intro head tail first rest item member
    rcases List.mem_cons.mp member with rfl | later
    · exact first
    · exact rest item later
  · simp
  · intro head tail first rest entry member
    rcases List.mem_cons.mp member with rfl | later
    · exact first
    · exact rest entry later
  · intro name value held
    exact held

mutual
def Shape.render : Shape → List Char
  | .blank => []
  | .word text => text
  | .text value => quoted value
  | .list items => '[' :: renderList items
  | .table members => '\x7b' :: renderTable members

def renderList : List Shape → List Char
  | [] => [']']
  | [item] => item.render ++ [']']
  | item :: next :: rest => item.render ++ ',' :: renderList (next :: rest)

def renderTable : List (String × Shape) → List Char
  | [] => ['\x7d']
  | [(name, value)] => quoted name ++ ':' :: (value.render ++ ['\x7d'])
  | (name, value) :: next :: rest =>
      quoted name ++ ':' :: (value.render ++ ',' :: renderTable (next :: rest))
end

mutual
def Shape.Readable : Shape → Prop
  | .blank => True
  | .word text => IsWord text
  | .text _ => True
  | .list items => (∀ item, items = [item] → item ≠ .blank) ∧ ReadableItems items
  | .table members => ReadableMembers members

def ReadableItems : List Shape → Prop
  | [] => True
  | item :: rest => item.Readable ∧ ReadableItems rest

def ReadableMembers : List (String × Shape) → Prop
  | [] => True
  | (_, value) :: rest => value ≠ .blank ∧ value.Readable ∧ ReadableMembers rest
end

def afterItem : List Shape → List Char
  | [] => [']']
  | items => ',' :: renderList items

def afterMember : List (String × Shape) → List Char
  | [] => ['\x7d']
  | members => ',' :: renderTable members

theorem renderList_cons (item : Shape) (rest : List Shape) :
    renderList (item :: rest) = item.render ++ afterItem rest := by
  cases rest with
  | nil => rfl
  | cons next rest => rfl

theorem renderTable_cons (name : String) (value : Shape) (rest : List (String × Shape)) :
    renderTable ((name, value) :: rest) = quoted name ++ ':' :: (value.render ++ afterMember rest) := by
  cases rest with
  | nil => rfl
  | cons next rest => rfl

theorem afterItem_stops (rest : List Shape) (text : List Char) : Stops (afterItem rest ++ text) := by
  cases rest with
  | nil => simp [afterItem, Stops]
  | cons next rest => simp [afterItem, Stops]

theorem afterMember_stops (rest : List (String × Shape)) (text : List Char) :
    Stops (afterMember rest ++ text) := by
  cases rest with
  | nil => simp [afterMember, Stops]
  | cons next rest => simp [afterMember, Stops]

/-! The first character tells what a document is. -/

def Shape.kind : Shape → Nat
  | .blank => 0
  | .word _ => 1
  | .text _ => 2
  | .list _ => 3
  | .table _ => 4

def headKind (head : Char) : Nat :=
  if isWordChar head then 1
  else if head = '"' then 2
  else if head = '[' then 3
  else if head = '\x7b' then 4
  else 0

theorem stops_headKind {rest : List Char} (stops : Stops rest) :
    ∀ head ∈ rest.head?, headKind head = 0 := by
  intro head first
  rcases stops head first with rfl | rfl | rfl <;> decide

theorem render_headKind {shape : Shape} {rest : List Char} (readable : shape.Readable)
    (stops : Stops rest) : ∀ head ∈ (shape.render ++ rest).head?, headKind head = shape.kind := by
  intro head first
  cases shape with
  | blank => exact stops_headKind stops head first
  | word text =>
      rw [Shape.Readable] at readable
      obtain ⟨nonempty, plain⟩ := readable
      obtain ⟨char, chars, rfl⟩ := List.exists_cons_of_ne_nil nonempty
      obtain rfl : char = head := by simpa [Shape.render] using first
      rw [headKind, if_pos (plain char (List.mem_cons_self ..)), Shape.kind]
  | text value =>
      obtain rfl : '"' = head := by simpa [Shape.render, quoted] using first
      exact (by decide : headKind '"' = 2)
  | list items =>
      obtain rfl : '[' = head := by simpa [Shape.render] using first
      exact (by decide : headKind '[' = 3)
  | table members =>
      obtain rfl : '\x7b' = head := by simpa [Shape.render] using first
      exact (by decide : headKind '\x7b' = 4)

theorem render_eq_nil {shape : Shape} (readable : shape.Readable) (empty : shape.render = []) :
    shape = .blank := by
  cases shape with
  | blank => rfl
  | word text =>
      rw [Shape.Readable] at readable
      exact absurd empty readable.nonempty
  | text value => simp [Shape.render, quoted] at empty
  | list items => simp [Shape.render] at empty
  | table members => simp [Shape.render] at empty

theorem same_kind {left right : Shape} {rest rest' : List Char} (readable : left.Readable)
    (readable' : right.Readable) (stops : Stops rest) (stops' : Stops rest')
    (same : left.render ++ rest = right.render ++ rest') : left.kind = right.kind := by
  cases first : (left.render ++ rest).head? with
  | some head =>
      rw [← render_headKind readable stops head first,
        render_headKind readable' stops' head (same ▸ first)]
  | none =>
      have empty := List.head?_eq_none_iff.mp first
      have empty' := same ▸ empty
      rw [render_eq_nil readable (List.append_eq_nil_iff.mp empty).1,
        render_eq_nil readable' (List.append_eq_nil_iff.mp empty').1]

def ReadsOnce (left : Shape) : Prop :=
  ∀ right rest rest', left.Readable → Shape.Readable right → Stops rest → Stops rest' →
    left.render ++ rest = right.render ++ rest' → left = right ∧ rest = rest'

theorem renderList_injective {left right : List Shape} {rest rest' : List Char}
    (once : ∀ item ∈ left, ReadsOnce item) (readable : ReadableItems left)
    (readable' : ReadableItems right) (nonempty : left ≠ []) (nonempty' : right ≠ [])
    (same : renderList left ++ rest = renderList right ++ rest') : left = right ∧ rest = rest' := by
  induction left generalizing right with
  | nil => exact absurd rfl nonempty
  | cons item items ih =>
      obtain ⟨item', items', rfl⟩ := List.exists_cons_of_ne_nil nonempty'
      rw [ReadableItems] at readable readable'
      rw [renderList_cons, renderList_cons, List.append_assoc, List.append_assoc] at same
      obtain ⟨rfl, after⟩ := once item (List.mem_cons_self ..) item' _ _ readable.1 readable'.1
        (afterItem_stops items rest) (afterItem_stops items' rest') same
      cases items with
      | nil =>
          cases items' with
          | nil => exact ⟨rfl, by simpa [afterItem] using after⟩
          | cons next' others' => simp [afterItem] at after
      | cons next others =>
          cases items' with
          | nil => simp [afterItem] at after
          | cons next' others' =>
              have tails : renderList (next :: others) ++ rest =
                  renderList (next' :: others') ++ rest' := by simpa [afterItem] using after
              obtain ⟨equal, rests⟩ := ih
                (fun item member => once item (List.mem_cons_of_mem _ member)) readable.2
                readable'.2 (List.cons_ne_nil _ _) (List.cons_ne_nil _ _) tails
              exact ⟨by rw [equal], rests⟩

theorem renderTable_injective {left right : List (String × Shape)} {rest rest' : List Char}
    (once : ∀ entry ∈ left, ReadsOnce entry.2) (readable : ReadableMembers left)
    (readable' : ReadableMembers right)
    (same : renderTable left ++ rest = renderTable right ++ rest') :
    left = right ∧ rest = rest' := by
  induction left generalizing right with
  | nil =>
      cases right with
      | nil => exact ⟨rfl, by simpa [renderTable] using same⟩
      | cons entry' entries' =>
          obtain ⟨name', value'⟩ := entry'
          simp [renderTable, renderTable_cons, quoted] at same
  | cons entry entries ih =>
      obtain ⟨name, value⟩ := entry
      cases right with
      | nil => simp [renderTable, renderTable_cons, quoted] at same
      | cons entry' entries' =>
          obtain ⟨name', value'⟩ := entry'
          rw [ReadableMembers] at readable readable'
          simp only [renderTable_cons, List.append_assoc] at same
          obtain ⟨rfl, values⟩ := quoted_injective same
          simp only [List.cons_append, List.append_assoc, List.cons.injEq, true_and] at values
          obtain ⟨rfl, after⟩ := once (name, value) (List.mem_cons_self ..) value' _ _ readable.2.1
            readable'.2.1 (afterMember_stops entries rest) (afterMember_stops entries' rest') values
          cases entries with
          | nil =>
              cases entries' with
              | nil => exact ⟨rfl, by simpa [afterMember] using after⟩
              | cons next' others' => simp [afterMember] at after
          | cons next others =>
              cases entries' with
              | nil => simp [afterMember] at after
              | cons next' others' =>
                  have tails : renderTable (next :: others) ++ rest =
                      renderTable (next' :: others') ++ rest' := by simpa [afterMember] using after
                  obtain ⟨equal, rests⟩ := ih
                    (fun entry member => once entry (List.mem_cons_of_mem _ member)) readable.2.2
                    readable'.2.2 tails
                  exact ⟨by rw [equal], rests⟩

theorem renderList_nil_ne {item : Shape} {items : List Shape} {rest rest' : List Char}
    (readable : item.Readable) (single : ∀ only, item :: items = [only] → only ≠ .blank)
    (same : ']' :: rest = renderList (item :: items) ++ rest') : False := by
  rw [renderList_cons, List.append_assoc] at same
  have head := render_headKind readable (afterItem_stops items rest') ']' (by simp [← same])
  cases item with
  | blank =>
      cases items with
      | nil => exact single .blank rfl rfl
      | cons next others => simp [Shape.render, afterItem] at same
  | word | text | list | table => exact absurd head (by simp [Shape.kind]; decide)

theorem readsOnce (left : Shape) : ReadsOnce left := by
  induction left using Shape.induct with
  | blank =>
      intro right rest rest' readable readable' stops stops' same
      have kinds := same_kind readable readable' stops stops' same
      cases right with
      | blank => exact ⟨rfl, by simpa [Shape.render] using same⟩
      | word | text | list | table => simp [Shape.kind] at kinds
  | word text =>
      intro right rest rest' readable readable' stops stops' same
      have kinds := same_kind readable readable' stops stops' same
      cases right with
      | word text' =>
          simp only [Shape.Readable] at readable readable'
          obtain ⟨rfl, rests⟩ := word_injective readable.plain readable'.plain stops stops' same
          exact ⟨rfl, rests⟩
      | blank | text | list | table => simp [Shape.kind] at kinds
  | text value =>
      intro right rest rest' readable readable' stops stops' same
      have kinds := same_kind readable readable' stops stops' same
      cases right with
      | text value' =>
          obtain ⟨rfl, rests⟩ := quoted_injective same
          exact ⟨rfl, rests⟩
      | blank | word | list | table => simp [Shape.kind] at kinds
  | list items once =>
      intro right rest rest' readable readable' stops stops' same
      have kinds := same_kind readable readable' stops stops' same
      cases right with
      | list items' =>
          simp only [Shape.Readable] at readable readable'
          simp only [Shape.render, List.cons_append, List.cons.injEq, true_and] at same
          cases items with
          | nil =>
              cases items' with
              | nil => exact ⟨rfl, by simpa [renderList] using same⟩
              | cons item' others' =>
                  have readable'' := readable'.2
                  rw [ReadableItems] at readable''
                  exact (renderList_nil_ne readable''.1 readable'.1 same).elim
          | cons item others =>
              cases items' with
              | nil =>
                  have readable'' := readable.2
                  rw [ReadableItems] at readable''
                  exact (renderList_nil_ne readable''.1 readable.1 same.symm).elim
              | cons item' others' =>
                  obtain ⟨equal, rests⟩ := renderList_injective once readable.2 readable'.2
                    (List.cons_ne_nil _ _) (List.cons_ne_nil _ _) same
                  exact ⟨by rw [equal], rests⟩
      | blank | word | text | table => simp [Shape.kind] at kinds
  | table members once =>
      intro right rest rest' readable readable' stops stops' same
      have kinds := same_kind readable readable' stops stops' same
      cases right with
      | table members' =>
          simp only [Shape.Readable] at readable readable'
          simp only [Shape.render, List.cons_append, List.cons.injEq, true_and] at same
          obtain ⟨equal, rests⟩ := renderTable_injective once readable readable' same
          exact ⟨by rw [equal], rests⟩
      | blank | word | text | list => simp [Shape.kind] at kinds

theorem render_injective {left right : Shape} (readable : left.Readable)
    (readable' : right.Readable) (same : left.render = right.render) : left = right :=
  (readsOnce left right [] [] readable readable' (by simp [Stops]) (by simp [Stops])
    (by rw [same])).1

end Devproof
