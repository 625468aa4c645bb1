import Mathlib.Data.List.TakeWhile
import Devproof.Lib.JsonReader

/-!
The texts of JSON values as a grammar, and that the reader accepts exactly these.
-/

namespace Devproof.Parsing

def Blank (gap : Text) : Prop :=
  ∀ unit ∈ gap, isBlank unit = true

def Ends (text : Text) : Prop :=
  ∀ unit ∈ text.head?, isWordUnit unit = false

theorem blank_nil : Blank [] := by
  simp [Blank]

theorem skip_gap {gap : Text} (blank : Blank gap) (text : Text) : skip (gap ++ text) = skip text :=
  List.dropWhile_append_of_pos blank

theorem skip_cons {unit : UInt16} (plain : isBlank unit = false) (rest : Text) :
    skip (unit :: rest) = unit :: rest :=
  List.dropWhile_cons_of_neg (by simp [plain])

theorem skip_split (text : Text) : ∃ gap, Blank gap ∧ text = gap ++ skip text :=
  ⟨text.takeWhile isBlank, fun _ member => List.mem_takeWhile_imp member,
    List.takeWhile_append_dropWhile.symm⟩

theorem skip_eq_nil {text : Text} : skip text = [] ↔ Blank text := by
  simp [skip, Blank, List.dropWhile_eq_nil_iff]

theorem isBlank_cases {unit : UInt16} (blank : isBlank unit = true) :
    unit = code ' ' ∨ unit = code '\t' ∨ unit = code '\n' ∨ unit = code '\r' := by
  simpa [isBlank, or_assoc] using blank

theorem ends_gap {gap rest : Text} (blank : Blank gap) (ends : Ends rest) : Ends (gap ++ rest) := by
  cases gap with
  | nil => exact ends
  | cons unit gap =>
      intro head first
      obtain rfl : unit = head := by simpa using first
      rcases isBlank_cases (blank unit (List.mem_cons_self ..)) with rfl | rfl | rfl | rfl <;> decide

theorem ends_cons {unit : UInt16} (plain : isWordUnit unit = false) (rest : Text) :
    Ends (unit :: rest) := by
  intro head first
  obtain rfl : unit = head := by simpa using first
  exact plain

theorem ends_nil : Ends [] := by
  simp [Ends]

/-! Only digits, letters, signs and points make a number. -/

section Numbers

def Wordy (text : Text) : Prop :=
  ∀ unit ∈ text, isWordUnit unit = true

theorem wordy_cons {unit : UInt16} {rest : Text} :
    Wordy (unit :: rest) ↔ isWordUnit unit = true ∧ Wordy rest :=
  List.forall_mem_cons

theorem isWordUnit_digit {unit : UInt16} (digit : isDigit unit = true) :
    isWordUnit unit = true := by
  simp [isWordUnit, digit]

/-- Digits in front of a text of word units. -/
theorem wordy_digits {text : Text} (wordy : Wordy (text.dropWhile isDigit)) : Wordy text := by
  intro unit member
  rw [← List.takeWhile_append_dropWhile (p := isDigit) (l := text)] at member
  rcases List.mem_append.mp member with digit | later
  · exact isWordUnit_digit (List.mem_takeWhile_imp digit)
  · exact wordy unit later

theorem readMinus_wordy {text : Text} (wordy : Wordy (readMinus text).2) : Wordy text := by
  cases text with
  | nil => simp [Wordy]
  | cons unit rest =>
      rw [readMinus] at wordy
      split at wordy
      · rename_i minus
        exact wordy_cons.mpr ⟨minus ▸ by decide, wordy⟩
      · exact wordy

theorem readWhole_wordy {text whole rest : Text} (reads : readWhole text = some (whole, rest))
    (wordy : Wordy rest) : Wordy text := by
  rw [readWhole] at reads
  split at reads
  · cases reads
  · obtain ⟨-, rfl⟩ := by simpa using reads
    exact wordy_digits wordy

theorem readFraction_wordy {text fraction rest : Text}
    (reads : readFraction text = some (fraction, rest)) (wordy : Wordy rest) : Wordy text := by
  cases text with
  | nil => simp [Wordy]
  | cons unit tail =>
      rw [readFraction] at reads
      split at reads
      · rename_i point
        split at reads
        · cases reads
        · obtain ⟨-, rfl⟩ := by simpa using reads
          exact wordy_cons.mpr ⟨point ▸ by decide, wordy_digits wordy⟩
      · obtain ⟨-, rfl⟩ := by simpa using reads
        exact wordy

theorem readPower_wordy {text : Text} {power : Int} (reads : readPower text = some power) :
    Wordy text := by
  cases text with
  | nil => simp [Wordy]
  | cons unit rest =>
      have wordy : ∀ text : Text, text.all isDigit = true → Wordy text := fun text all member inside =>
        isWordUnit_digit (List.all_eq_true.mp all member inside)
      by_cases sign : unit = code '+' ∨ unit = code '-'
      · simp only [readPower, if_pos sign] at reads
        split at reads
        · rename_i digits
          refine wordy_cons.mpr ⟨?_, wordy rest digits.2⟩
          rcases sign with rfl | rfl <;> decide
        · cases reads
      · simp only [readPower, if_neg sign] at reads
        split at reads
        · rename_i digits
          exact wordy _ digits.2
        · cases reads

theorem readExponent_wordy {text : Text} {exponent : Int}
    (reads : readExponent text = some exponent) : Wordy text := by
  cases text with
  | nil => simp [Wordy]
  | cons unit rest =>
      rw [readExponent] at reads
      split at reads
      · rename_i letter
        refine wordy_cons.mpr ⟨?_, readPower_wordy reads⟩
        rcases letter with rfl | rfl <;> decide
      · cases reads

theorem readNumber_wordy {token : Text} {number : Number} (reads : readNumber token = some number) :
    Wordy token := by
  simp only [readNumber, Option.bind_eq_bind, Option.bind_eq_some_iff] at reads
  obtain ⟨⟨whole, rest⟩, first, ⟨fraction, rest'⟩, second, exponent, third, -⟩ := reads
  exact readMinus_wordy
    (readWhole_wordy first (readFraction_wordy second (readExponent_wordy third)))

end Numbers

theorem wordValue_wordy {token : Text} {value : Value} (reads : wordValue token = some value) :
    Wordy token := by
  unfold wordValue at reads
  split_ifs at reads with null yes no
  · exact null ▸ List.all_eq_true.mp (by decide)
  · exact yes ▸ List.all_eq_true.mp (by decide)
  · exact no ▸ List.all_eq_true.mp (by decide)
  · obtain ⟨number, known, -⟩ := Option.map_eq_some_iff.mp reads
    exact readNumber_wordy known

theorem readWord_append {token rest : Text} {value : Value} (reads : wordValue token = some value)
    (ends : Ends rest) : readWord (token ++ rest) = some (value, rest) := by
  have wordy := wordValue_wordy reads
  have stop : rest.takeWhile isWordUnit = [] ∧ rest.dropWhile isWordUnit = rest := by
    cases rest with
    | nil => simp
    | cons unit rest =>
        have plain := ends unit rfl
        simp [plain]
  rw [readWord, List.takeWhile_append_of_pos wordy, List.dropWhile_append_of_pos wordy, stop.1,
    stop.2, List.append_nil, reads]
  rfl

inductive Piece : Text → UInt16 → Prop
  | hex {first second third fourth unit : UInt16}
      (reads : readHex first second third fourth = some unit) :
      Piece [code '\\', code 'u', first, second, third, fourth] unit
  | escape {letter unit : UInt16} (named : escapes.lookup letter = some unit) :
      Piece [code '\\', letter] unit
  | plain {unit : UInt16} (quote : unit ≠ code '"') (slash : unit ≠ code '\\')
      (printed : ¬unit < 32) : Piece [unit] unit

inductive Quotes : Text → Text → Prop
  | close : Quotes [code '"'] []
  | piece {raw rest units : Text} {unit : UInt16} (first : Piece raw unit)
      (later : Quotes rest units) : Quotes (raw ++ rest) (unit :: units)

theorem readString_piece {raw : Text} {unit : UInt16} (piece : Piece raw unit) (text : Text) :
    readString (raw ++ text) = (readString text).map (Prod.map (unit :: ·) id) := by
  have other : ¬code '\\' = code '"' := by decide
  cases piece with
  | hex reads =>
      rw [List.cons_append, readString.eq_def]
      simp [other, reads]
  | @escape letter _ named =>
      have letterU : ¬letter = code 'u' := by
        rintro rfl
        have unnamed : escapes.lookup (code 'u') = none := by decide
        rw [unnamed] at named
        cases named
      rw [List.cons_append, readString.eq_def]
      simp [other, letterU, named]
  | plain quote slash printed =>
      rw [List.cons_append, readString.eq_def]
      simp [quote, slash, printed]

theorem Quotes.reads {raw units : Text} (quotes : Quotes raw units) (rest : Text) :
    readString (raw ++ rest) = some (units, rest) := by
  induction quotes with
  | close =>
      rw [List.cons_append, readString.eq_def]
      simp
  | piece first later ih =>
      rw [List.append_assoc, readString_piece first, ih]
      rfl

theorem readString_quotes {text units rest : Text} (reads : readString text = some (units, rest)) :
    ∃ raw, Quotes raw units ∧ text = raw ++ rest := by
  -- one case for each way the reader goes on
  have step : ∀ {raw text units : Text} {unit : UInt16}, Piece raw unit →
      (∀ {units}, readString text = some (units, rest) →
        ∃ raw, Quotes raw units ∧ text = raw ++ rest) →
      (readString text).map (Prod.map (unit :: ·) id) = some (units, rest) →
      ∃ known, Quotes known units ∧ raw ++ text = known ++ rest := by
    intro raw text units unit piece ih reads
    obtain ⟨⟨later, _⟩, known, same⟩ := Option.map_eq_some_iff.mp reads
    obtain ⟨rfl, rfl⟩ := Prod.mk.injEq .. ▸ same
    obtain ⟨rest, quotes, rfl⟩ := ih known
    exact ⟨raw ++ rest, .piece piece quotes, by rw [List.append_assoc]⟩
  fun_induction readString text generalizing units with
  | case1 | case3 | case5 | case7 => cases reads
  | case2 =>
      obtain ⟨rfl, rfl⟩ := by simpa using reads
      exact ⟨[code '"'], .close, rfl⟩
  | case4 first second third fourth text other ih =>
      obtain ⟨unit, hex, reads⟩ := Option.bind_eq_some_iff.mp reads
      exact step (.hex hex) ih reads
  | case6 letter text other slash ih =>
      obtain ⟨unit, named, reads⟩ := Option.bind_eq_some_iff.mp reads
      exact step (.escape named) ih reads
  | case8 unit text quote slash printed ih => exact step (.plain quote slash printed) ih reads

inductive Names : Text → Text → Prop
  | mk {before after raw name : Text} (opening : Blank before) (quotes : Quotes raw name)
      (closing : Blank after) :
      Names (before ++ code '"' :: (raw ++ (after ++ [code ':']))) name

theorem Names.reads {head name : Text} (names : Names head name) (rest : Text) :
    readName (head ++ rest) = some (name, rest) := by
  obtain ⟨opening, quotes, closing⟩ := names
  rw [readName, List.append_assoc, skip_gap opening, List.cons_append, skip_cons (by decide)]
  simp only [if_true, List.append_assoc, quotes.reads, Option.bind_eq_bind, Option.bind_some,
    skip_gap closing, List.cons_append, List.nil_append, skip_cons (show isBlank (code ':') = false from
      by decide)]

theorem readName_names {text name rest : Text} (reads : readName text = some (name, rest)) :
    ∃ head, Names head name ∧ text = head ++ rest := by
  obtain ⟨before, opening, text_eq⟩ := skip_split text
  rw [readName] at reads
  cases first : skip text with
  | nil => simp [first] at reads
  | cons unit tail =>
      rw [first] at reads
      simp only [Option.bind_eq_bind] at reads
      split at reads
      · rename_i quote
        obtain ⟨⟨known, later⟩, found, left⟩ := Option.bind_eq_some_iff.mp reads
        obtain ⟨raw, quotes, rfl⟩ := readString_quotes found
        obtain ⟨after, closing, later_eq⟩ := skip_split later
        dsimp only at left
        cases second : skip later with
        | nil => simp [second] at left
        | cons colon others =>
            simp only [second] at left
            split at left
            · rename_i isColon
              obtain ⟨rfl, rfl⟩ := by simpa using left
              refine ⟨_, .mk opening quotes closing, ?_⟩
              rw [text_eq, first, quote, later_eq, second, isColon]
              simp
            · cases left
      · cases reads

inductive Form where
  | value (value : Value)
  | items (items : List Value)
  | members (members : List (Text × Value))

inductive Spells : Form → Text → Prop
  | word {token : Text} {value : Value} (reads : wordValue token = some value) :
      Spells (.value value) token
  | str {raw units : Text} (quotes : Quotes raw units) :
      Spells (.value (.str units)) (code '"' :: raw)
  | noItems {gap : Text} (blank : Blank gap) :
      Spells (.value (.arr [])) (code '[' :: (gap ++ [code ']']))
  | arr {items : List Value} {body : Text} (inside : Spells (.items items) body) :
      Spells (.value (.arr items)) (code '[' :: body)
  | noMembers {gap : Text} (blank : Blank gap) :
      Spells (.value (.obj [])) (code '\x7b' :: (gap ++ [code '\x7d']))
  | obj {members : List (Text × Value)} {body : Text} (inside : Spells (.members members) body) :
      Spells (.value (.obj (ofMembers members))) (code '\x7b' :: body)
  | lastItem {before body after : Text} {item : Value} (opening : Blank before)
      (first : Spells (.value item) body) (closing : Blank after) :
      Spells (.items [item]) (before ++ (body ++ (after ++ [code ']'])))
  | item {before body after rest : Text} {item : Value} {items : List Value}
      (opening : Blank before) (first : Spells (.value item) body) (closing : Blank after)
      (later : Spells (.items items) rest) :
      Spells (.items (item :: items)) (before ++ (body ++ (after ++ code ',' :: rest)))
  | lastMember {head name before body after : Text} {value : Value} (names : Names head name)
      (opening : Blank before) (first : Spells (.value value) body) (closing : Blank after) :
      Spells (.members [(name, value)])
        (head ++ (before ++ (body ++ (after ++ [code '\x7d']))))
  | member {head name before body after rest : Text} {value : Value}
      {members : List (Text × Value)} (names : Names head name)
      (opening : Blank before) (first : Spells (.value value) body) (closing : Blank after)
      (later : Spells (.members members) rest) :
      Spells (.members ((name, value) :: members))
        (head ++ (before ++ (body ++ (after ++ code ',' :: rest))))

theorem isBlank_word {unit : UInt16} (word : isWordUnit unit = true) : isBlank unit = false := by
  rw [← Bool.not_eq_true]
  intro blank
  rcases isBlank_cases blank with rfl | rfl | rfl | rfl <;> exact absurd word (by decide)

/-- A value starts with a quotation mark, an opening bracket or a word unit. -/
theorem Spells.starts {value : Value} {text : Text} (spells : Spells (.value value) text) :
    ∃ unit rest, text = unit :: rest ∧ (unit = code '"' ∨ unit = code '[' ∨ unit = code '\x7b' ∨
      isWordUnit unit = true) := by
  cases spells with
  | word reads =>
      cases text with
      | nil => cases reads
      | cons unit rest => exact ⟨unit, rest, rfl, by simp [wordValue_wordy reads unit]⟩
  | str | noItems | arr | noMembers | obj => exact ⟨_, _, rfl, by simp⟩

theorem starts_plain {unit : UInt16} (starts : unit = code '"' ∨ unit = code '[' ∨
    unit = code '\x7b' ∨ isWordUnit unit = true) :
    isBlank unit = false ∧ unit ≠ code ']' := by
  rcases starts with rfl | rfl | rfl | word
  · decide
  · decide
  · decide
  · refine ⟨isBlank_word word, ?_⟩
    rintro rfl
    exact absurd word (by decide)

theorem Spells.unskipped {value : Value} {text : Text} (spells : Spells (.value value) text)
    (rest : Text) : skip (text ++ rest) = text ++ rest := by
  obtain ⟨unit, tail, rfl, starts⟩ := spells.starts
  exact skip_cons (starts_plain starts).1 _

/-! The reader accepts every text the grammar has. -/

theorem readValue_gap {gap : Text} (blank : Blank gap) (fuel : Nat) (text : Text) :
    readValue fuel (gap ++ text) = readValue fuel text := by
  cases fuel with
  | zero => rfl
  | succ fuel => rw [readValue, readValue, skip_gap blank]

def Form.Read (fuel : Nat) (text : Text) : Form → Prop
  | .value known => ∀ rest, Ends rest → readValue fuel (text ++ rest) = some (known, rest)
  | .items known => ∀ rest, readItems fuel (text ++ rest) = some (known, rest)
  | .members known => ∀ rest, readMembers fuel (text ++ rest) = some (known, rest)

theorem readValue_word {token : Text} {value : Value} (reads : wordValue token = some value)
    (fuel : Nat) : Form.Read (fuel + 1) token (.value value) := by
  intro rest ends
  have word := readWord_append reads ends
  have skipped := (Spells.word reads).unskipped rest
  obtain ⟨unit, tail, rfl⟩ : ∃ unit tail, token = unit :: tail := by
    cases token with
    | nil => cases reads
    | cons unit tail => exact ⟨unit, tail, rfl⟩
  have first : isWordUnit unit = true := wordValue_wordy reads unit (List.mem_cons_self ..)
  have quote : unit ≠ code '"' := by
    rintro rfl
    exact absurd first (by decide)
  have bracket : unit ≠ code '[' := by
    rintro rfl
    exact absurd first (by decide)
  have brace : unit ≠ code '\x7b' := by
    rintro rfl
    exact absurd first (by decide)
  rw [readValue, skipped]
  simpa only [List.cons_append, if_neg quote, if_neg bracket, if_neg brace] using word

theorem read_between {fuel : Nat} {value : Value} {before body after : Text}
    (opening : Blank before) (read : Form.Read fuel body (.value value)) (closing : Blank after)
    {unit : UInt16} (plain : isWordUnit unit = false) (rest : Text) :
    readValue fuel (before ++ (body ++ (after ++ unit :: rest))) =
      some (value, after ++ unit :: rest) := by
  rw [readValue_gap opening]
  exact read _ (ends_gap closing (ends_cons plain rest))

theorem skip_between {after : Text} (closing : Blank after) {unit : UInt16}
    (plain : isBlank unit = false) (rest : Text) : skip (after ++ unit :: rest) = unit :: rest := by
  rw [skip_gap closing, skip_cons plain]

theorem Spells.items_start {items : List Value} {body : Text} (spells : Spells (.items items) body)
    (rest : Text) : (skip (body ++ rest)).head? ≠ some (code ']') := by
  have start : ∀ {before body : Text} {item : Value} (after : Text), Blank before →
      Spells (.value item) body →
      (skip (before ++ (body ++ after))).head? ≠ some (code ']') := by
    intro before body item after opening first
    obtain ⟨unit, tail, rfl, starts⟩ := first.starts
    obtain ⟨plain, other⟩ := starts_plain starts
    rw [skip_gap opening, List.cons_append, skip_cons plain]
    simpa using other
  cases spells with
  | lastItem opening first | item opening first =>
      rw [List.append_assoc, List.append_assoc]
      exact start _ opening first

theorem Spells.members_start {members : List (Text × Value)} {body : Text}
    (spells : Spells (.members members) body) (rest : Text) :
    (skip (body ++ rest)).head? ≠ some (code '\x7d') := by
  have start : ∀ {head name : Text} (after : Text), Names head name →
      (skip (head ++ after)).head? ≠ some (code '\x7d') := by
    rintro _ _ after ⟨opening, -, -⟩
    rw [List.append_assoc, skip_gap opening, List.cons_append, skip_cons (by decide)]
    exact fun same => absurd same (by simp; decide)
  cases spells with
  | lastMember names | member names =>
      rw [List.append_assoc]
      exact start _ names

theorem fuel_succ {text : Text} {fuel : Nat} (nonempty : text ≠ []) (enough : text.length ≤ fuel) :
    ∃ less, fuel = less + 1 := by
  have long := List.length_pos_iff.mpr nonempty
  exact ⟨fuel - 1, by omega⟩

theorem Spells.nonempty {form : Form} {text : Text} (spells : Spells form text) : text ≠ [] := by
  cases spells with
  | word reads =>
      rintro rfl
      cases reads
  | lastMember names | member names =>
      obtain ⟨-, -, -⟩ := names
      simp
  | _ => simp

theorem bracket_other : code '[' ≠ code '"' ∧ code '\x7b' ≠ code '"' ∧ code '\x7b' ≠ code '[' ∧
    code ',' ≠ code ']' ∧ code ',' ≠ code '\x7d' := by
  decide

theorem Spells.read {form : Form} {text : Text} (spells : Spells form text) :
    ∀ fuel, text.length ≤ fuel → form.Read fuel text := by
  obtain ⟨bracketQuote, braceQuote, braceBracket, commaBracket, commaBrace⟩ := bracket_other
  have whole := @spells
  induction spells with
  | word reads =>
      intro fuel enough
      obtain ⟨fuel, rfl⟩ := fuel_succ whole.nonempty enough
      exact readValue_word reads fuel
  | str quotes =>
      intro fuel enough rest ends
      obtain ⟨fuel, rfl⟩ := fuel_succ whole.nonempty enough
      rw [readValue, List.cons_append, skip_cons (by decide)]
      simp [quotes.reads]
  | noItems blank =>
      intro fuel enough rest ends
      obtain ⟨fuel, rfl⟩ := fuel_succ whole.nonempty enough
      rw [readValue, List.cons_append, skip_cons (by decide)]
      simp [bracketQuote, skip_between blank (show isBlank (code ']') = false by decide)]
  | arr inside ih =>
      intro fuel enough rest ends
      obtain ⟨fuel, rfl⟩ := fuel_succ whole.nonempty enough
      have read := ih inside fuel (by simpa using enough) rest
      rw [readValue, List.cons_append, skip_cons (by decide)]
      simp [bracketQuote, inside.items_start, read]
  | noMembers blank =>
      intro fuel enough rest ends
      obtain ⟨fuel, rfl⟩ := fuel_succ whole.nonempty enough
      rw [readValue, List.cons_append, skip_cons (by decide)]
      simp [braceQuote, braceBracket, skip_between blank (show isBlank (code '\x7d') = false by decide)]
  | obj inside ih =>
      intro fuel enough rest ends
      obtain ⟨fuel, rfl⟩ := fuel_succ whole.nonempty enough
      have read := ih inside fuel (by simpa using enough) rest
      rw [readValue, List.cons_append, skip_cons (by decide)]
      simp [braceQuote, braceBracket, inside.members_start, read]
  | lastItem opening first closing ih =>
      intro fuel enough rest
      obtain ⟨fuel, rfl⟩ := fuel_succ whole.nonempty enough
      simp only [List.length_append, List.length_cons] at enough
      have read := read_between opening (ih first fuel (by omega)) closing
        (show isWordUnit (code ']') = false by decide) rest
      rw [readItems]
      simp [read, skip_between closing (show isBlank (code ']') = false by decide)]
  | item opening first closing later ih ihLater =>
      intro fuel enough rest
      obtain ⟨fuel, rfl⟩ := fuel_succ whole.nonempty enough
      simp only [List.length_append, List.length_cons] at enough
      have read := fun rest => read_between opening (ih first fuel (by omega)) closing
        (show isWordUnit (code ',') = false by decide) rest
      have others := ihLater later fuel (by omega) rest
      rw [readItems]
      simp [read, others, commaBracket,
        skip_between closing (show isBlank (code ',') = false by decide)]
  | lastMember names opening first closing ih =>
      intro fuel enough rest
      obtain ⟨fuel, rfl⟩ := fuel_succ whole.nonempty enough
      simp only [List.length_append, List.length_cons] at enough
      have read := read_between opening (ih first fuel (by omega)) closing
        (show isWordUnit (code '\x7d') = false by decide) rest
      rw [readMembers]
      simp [names.reads, read, skip_between closing (show isBlank (code '\x7d') = false by decide)]
  | member names opening first closing later ih ihLater =>
      intro fuel enough rest
      obtain ⟨fuel, rfl⟩ := fuel_succ whole.nonempty enough
      simp only [List.length_append, List.length_cons] at enough
      have read := fun rest => read_between opening (ih first fuel (by omega)) closing
        (show isWordUnit (code ',') = false by decide) rest
      have others := ihLater later fuel (by omega) rest
      rw [readMembers]
      simp [names.reads, read, others, commaBrace,
        skip_between closing (show isBlank (code ',') = false by decide)]

/-! The grammar has every text the reader accepts. -/

theorem readWord_spells {text rest : Text} {value : Value}
    (reads : readWord text = some (value, rest)) :
    ∃ token, Spells (.value value) token ∧ text = token ++ rest := by
  obtain ⟨known, found, same⟩ := Option.map_eq_some_iff.mp reads
  obtain ⟨rfl, rfl⟩ := Prod.mk.injEq .. ▸ same
  exact ⟨_, .word found, List.takeWhile_append_dropWhile.symm⟩

/-- After a value, blanks and one more unit. -/
theorem skip_unit {text rest : Text} {unit : UInt16} (first : skip text = unit :: rest) :
    ∃ gap, Blank gap ∧ text = gap ++ unit :: rest := by
  obtain ⟨gap, blank, text_eq⟩ := skip_split text
  exact ⟨gap, blank, first ▸ text_eq⟩

/-- An empty array or object. -/
theorem skip_head {text : Text} {unit : UInt16} (first : (skip text).head? = some unit) :
    ∃ gap, Blank gap ∧ text = gap ++ unit :: (skip text).tail := by
  cases found : skip text with
  | nil => simp [found] at first
  | cons head rest =>
      obtain rfl : head = unit := by simpa [found] using first
      exact skip_unit found

structure Sound (fuel : Nat) : Prop where
  value : ∀ {text rest : Text} {value : Value}, readValue fuel text = some (value, rest) →
    ∃ gap body, Blank gap ∧ Spells (.value value) body ∧ text = gap ++ (body ++ rest)
  items : ∀ {text rest : Text} {items : List Value}, readItems fuel text = some (items, rest) →
    ∃ body, Spells (.items items) body ∧ text = body ++ rest
  members : ∀ {text rest : Text} {members : List (Text × Value)},
    readMembers fuel text = some (members, rest) →
    ∃ body, Spells (.members members) body ∧ text = body ++ rest

theorem readValue_sound {fuel : Nat} (sound : Sound fuel) {text rest : Text} {value : Value}
    (reads : readValue (fuel + 1) text = some (value, rest)) :
    ∃ gap body, Blank gap ∧ Spells (.value value) body ∧ text = gap ++ (body ++ rest) := by
  rw [readValue] at reads
  cases first : skip text with
  | nil => simp [first] at reads
  | cons unit tail =>
      obtain ⟨gap, blank, rfl⟩ := skip_unit first
      simp only [first] at reads
      split_ifs at reads with quote bracket empty brace empty
      · obtain ⟨⟨units, _⟩, found, same⟩ := Option.map_eq_some_iff.mp reads
        obtain ⟨rfl, rfl⟩ := Prod.mk.injEq .. ▸ same
        obtain ⟨raw, quotes, rfl⟩ := readString_quotes found
        exact ⟨gap, _, blank, .str quotes, by rw [quote]; rfl⟩
      · obtain ⟨rfl, rfl⟩ := by simpa using reads
        obtain ⟨inner, blankInner, tail_eq⟩ := skip_head empty
        exact ⟨gap, _, blank, .noItems blankInner, by
          rw [bracket]
          nth_rewrite 1 [tail_eq]
          simp⟩
      · obtain ⟨⟨items, _⟩, found, same⟩ := Option.map_eq_some_iff.mp reads
        obtain ⟨rfl, rfl⟩ := Prod.mk.injEq .. ▸ same
        obtain ⟨body, spells, rfl⟩ := sound.items found
        exact ⟨gap, _, blank, .arr spells, by rw [bracket]; rfl⟩
      · obtain ⟨rfl, rfl⟩ := by simpa using reads
        obtain ⟨inner, blankInner, tail_eq⟩ := skip_head empty
        exact ⟨gap, _, blank, .noMembers blankInner, by
          rw [brace]
          nth_rewrite 1 [tail_eq]
          simp⟩
      · obtain ⟨⟨members, _⟩, found, same⟩ := Option.map_eq_some_iff.mp reads
        obtain ⟨rfl, rfl⟩ := Prod.mk.injEq .. ▸ same
        obtain ⟨body, spells, rfl⟩ := sound.members found
        exact ⟨gap, _, blank, .obj spells, by rw [brace]; rfl⟩
      · obtain ⟨token, spells, text_eq⟩ := readWord_spells reads
        exact ⟨gap, token, blank, spells, by rw [text_eq]⟩

theorem readItems_sound {fuel : Nat} (sound : Sound fuel) {text rest : Text} {items : List Value}
    (reads : readItems (fuel + 1) text = some (items, rest)) :
    ∃ body, Spells (.items items) body ∧ text = body ++ rest := by
  rw [readItems, Option.bind_eq_bind] at reads
  obtain ⟨⟨item, left⟩, found, follows⟩ := Option.bind_eq_some_iff.mp reads
  obtain ⟨before, body, opening, spells, rfl⟩ := sound.value found
  dsimp only at follows
  cases first : skip left with
  | nil => simp [first] at follows
  | cons unit tail =>
      obtain ⟨after, closing, rfl⟩ := skip_unit first
      simp only [first] at follows
      split_ifs at follows with last next
      · obtain ⟨rfl, rfl⟩ := by simpa using follows
        exact ⟨_, .lastItem opening spells closing, by simp [last]⟩
      · obtain ⟨⟨others, _⟩, later, same⟩ := Option.bind_eq_some_iff.mp follows
        obtain ⟨rfl, rfl⟩ := by simpa using same
        obtain ⟨rest, more, rfl⟩ := sound.items later
        exact ⟨_, .item opening spells closing more, by simp [next]⟩

theorem readMembers_sound {fuel : Nat} (sound : Sound fuel) {text rest : Text}
    {members : List (Text × Value)} (reads : readMembers (fuel + 1) text = some (members, rest)) :
    ∃ body, Spells (.members members) body ∧ text = body ++ rest := by
  rw [readMembers, Option.bind_eq_bind] at reads
  obtain ⟨⟨name, afterName⟩, named, follows⟩ := Option.bind_eq_some_iff.mp reads
  obtain ⟨head, names, rfl⟩ := readName_names named
  obtain ⟨⟨value, left⟩, found, ends⟩ := Option.bind_eq_some_iff.mp follows
  obtain ⟨before, body, opening, spells, text_eq⟩ := sound.value found
  dsimp only at text_eq ends
  cases first : skip left with
  | nil => simp [first] at ends
  | cons unit tail =>
      obtain ⟨after, closing, rfl⟩ := skip_unit first
      simp only [first] at ends
      split_ifs at ends with last next
      · obtain ⟨rfl, rfl⟩ := by simpa using ends
        exact ⟨_, .lastMember names opening spells closing, by simp [text_eq, last]⟩
      · obtain ⟨⟨others, _⟩, later, same⟩ := Option.bind_eq_some_iff.mp ends
        obtain ⟨rfl, rfl⟩ := by simpa using same
        obtain ⟨rest, more, rfl⟩ := sound.members later
        exact ⟨_, .member names opening spells closing more, by simp [text_eq, next]⟩

theorem reader_sound (fuel : Nat) : Sound fuel := by
  induction fuel with
  | zero => exact ⟨by simp [readValue], by simp [readItems], by simp [readMembers]⟩
  | succ fuel ih => exact ⟨readValue_sound ih, readItems_sound ih, readMembers_sound ih⟩

inductive Document : Value → Text → Prop
  | mk {before body after : Text} {value : Value} (opening : Blank before)
      (spells : Spells (.value value) body) (closing : Blank after) :
      Document value (before ++ (body ++ after))

theorem parse_eq_some_iff {text : Text} {value : Value} :
    parse text = some value ↔ Document value text := by
  constructor
  · intro parsed
    rw [parse] at parsed
    cases found : readValue text.length text with
    | none => simp [found] at parsed
    | some result =>
        obtain ⟨known, rest⟩ := result
        simp only [found] at parsed
        split_ifs at parsed with blank
        cases parsed
        obtain ⟨before, body, opening, spells, rfl⟩ := (reader_sound text.length).value found
        exact .mk opening spells (skip_eq_nil.mp blank)
  · rintro ⟨opening, spells, closing⟩
    rename_i before body after
    have read := spells.read (before ++ (body ++ after)).length (by simp; omega) after
      (by simpa using ends_gap closing ends_nil)
    rw [parse, readValue_gap opening, read]
    simp [skip_eq_nil.mpr closing]

theorem parse_spells {text : Text} {value : Value} (spells : Spells (.value value) text) :
    parse text = some value := by
  simpa using parse_eq_some_iff.mpr (.mk blank_nil spells blank_nil)

end Devproof.Parsing
