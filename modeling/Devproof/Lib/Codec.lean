import Mathlib.Data.Rat.Lemmas
import Devproof.Lib.Json

/-!
Schemas for JSON values.  A codec reads an untrusted value, writes a typed one
back, and says what reading a written value does to it: a schema that trims or
bounds its strings need not return the value it was given.  The laws tie the
three together, so every schema built from the combinators has them.
-/

namespace Devproof

structure Codec (α : Type) where
  read : Json → Option α
  write : α → Json
  parse : α → Option α
  read_write : ∀ value, read (write value) = parse value
  parse_read : ∀ json value, read json = some value → parse value = some value

structure Slot (α : Type) where
  read : Option Json → Option α
  write : α → Option Json
  parse : α → Option α
  read_write : ∀ value, read (write value) = parse value
  parse_read : ∀ json value, read json = some value → parse value = some value

def Codec.Valid {α : Type} (codec : Codec α) (value : α) : Prop :=
  codec.parse value = some value

def Slot.Valid {α : Type} (slot : Slot α) (value : α) : Prop :=
  slot.parse value = some value

instance {α : Type} [DecidableEq α] (codec : Codec α) (value : α) : Decidable (codec.Valid value) :=
  inferInstanceAs (Decidable (codec.parse value = some value))

theorem Codec.valid_of_parse {α : Type} (codec : Codec α) {value result : α}
    (parsed : codec.parse value = some result) : codec.Valid result :=
  codec.parse_read (codec.write value) result ((codec.read_write value).trans parsed)

theorem Slot.valid_of_parse {α : Type} (slot : Slot α) {value result : α}
    (parsed : slot.parse value = some result) : slot.Valid result :=
  slot.parse_read (slot.write value) result ((slot.read_write value).trans parsed)

theorem mapM_forall₂ {α β : Type} {parse : α → Option β} {items : List α} {results : List β}
    (parsed : items.mapM parse = some results) :
    List.Forall₂ (fun item result => parse item = some result) items results := by
  induction items generalizing results with
  | nil =>
      simp only [List.mapM_nil, Option.pure_def, Option.some.injEq] at parsed
      subst parsed
      exact List.Forall₂.nil
  | cons first rest ih =>
      simp only [List.mapM_cons, Option.bind_eq_bind, Option.bind_eq_some_iff, Option.pure_def,
        Option.some.injEq] at parsed
      obtain ⟨value, head, values, tail, same⟩ := parsed
      subst same
      exact List.Forall₂.cons head (ih tail)

theorem forall₂_source {α β : Type} {related : α → β → Prop} {items : List α} {results : List β}
    (pairs : List.Forall₂ related items results) {result : β} (member : result ∈ results) :
    ∃ item ∈ items, related item result := by
  induction pairs with
  | nil => simp at member
  | cons head _ ih =>
      rcases List.mem_cons.mp member with here | later
      · exact ⟨_, List.mem_cons_self .., here ▸ head⟩
      · obtain ⟨item, present, holds⟩ := ih later
        exact ⟨item, List.mem_cons_of_mem _ present, holds⟩

theorem forall₂_place {α β : Type} {related : α → β → Prop} {items : List α} {results : List β}
    (pairs : List.Forall₂ related items results) {index : Nat} {item : α}
    (here : items[index]? = some item) :
    ∃ result, results[index]? = some result ∧ related item result := by
  induction pairs generalizing index with
  | nil => simp at here
  | cons head _ ih =>
      cases index with
      | zero =>
          obtain rfl := Option.some.inj here
          exact ⟨_, rfl, head⟩
      | succ place => exact ih here

theorem mapM_of_forall {α : Type} {parse : α → Option α} {items : List α}
    (valid : ∀ item ∈ items, parse item = some item) : items.mapM parse = some items := by
  induction items with
  | nil => simp
  | cons first rest ih =>
      have head := valid first (List.mem_cons_self ..)
      have tail := ih fun item member => valid item (List.mem_cons_of_mem _ member)
      simp [head, tail]

theorem mapM_map_write {α : Type} (codec : Codec α) (items : List α) :
    (items.map codec.write).mapM codec.read = items.mapM codec.parse := by
  induction items with
  | nil => simp
  | cons first rest ih => simp only [List.map_cons, List.mapM_cons, codec.read_write, ih]

theorem mapM_parse_read {α : Type} (codec : Codec α) {json : List Json} {items : List α}
    (found : json.mapM codec.read = some items) : items.mapM codec.parse = some items := by
  apply mapM_of_forall
  intro item member
  obtain ⟨value, -, read⟩ := forall₂_source (mapM_forall₂ found) member
  exact codec.parse_read _ _ read

namespace Codec

def string (accept : String → Option String)
    (stable : ∀ text result, accept text = some result → accept result = some result) :
    Codec String where
  read json := (stringOf (some json)).bind accept
  write := Json.str
  parse := accept
  read_write _ := rfl
  parse_read json value found := by
    cases json with
    | str text => exact stable text value (by simpa [stringOf] using found)
    | null | bool | num | arr | obj => simp [stringOf] at found

def checked (accept : String → Bool) : Codec String :=
  string (fun text => if accept text then some text else none) (by
    intro text result accepted
    split at accepted
    · simp_all
    · simp at accepted)

def boolean : Codec Bool where
  read
    | .bool value => some value
    | _ => none
  write := Json.bool
  parse := some
  read_write _ := rfl
  parse_read _ _ _ := rfl

def number : Codec Rat where
  read
    | .num value => some value
    | _ => none
  write := Json.num
  parse := some
  read_write _ := rfl
  parse_read _ _ _ := rfl

def safeInteger (value : Int) : Bool :=
  -9007199254740991 ≤ value && value ≤ 9007199254740991

def integer (accept : Int → Bool) : Codec Int where
  read
    | .num number =>
        if number.den = 1 ∧ safeInteger number.num ∧ accept number.num then some number.num else none
    | _ => none
  write value := .num value
  parse value := if safeInteger value ∧ accept value then some value else none
  read_write value := by simp
  parse_read json value found := by
    cases json with
    | num number =>
        simp only at found
        split at found
        · rename_i accepted
          simp only [Option.some.injEq] at found
          subst found
          simp [accepted.2]
        · simp at found
    | null | bool | str | arr | obj => simp at found

def integralNumber : Codec Rat where
  read
    | .num number => if number.den = 1 ∧ safeInteger number.num then some number else none
    | _ => none
  write := Json.num
  parse number := if number.den = 1 ∧ safeInteger number.num then some number else none
  read_write _ := rfl
  parse_read json value found := by
    cases json with
    | num number =>
        simp only at found ⊢
        split at found
        · simp only [Option.some.injEq] at found
          subst found
          simp_all
        · simp at found
    | null | bool | str | arr | obj => simp at found

def nullable {α : Type} (codec : Codec α) (present : ∀ value, codec.write value ≠ .null) :
    Codec (Option α) where
  read
    | .null => some none
    | json => (codec.read json).map some
  write
    | none => .null
    | some value => codec.write value
  parse
    | none => some none
    | some value => (codec.parse value).map some
  read_write value := by
    cases value with
    | none => rfl
    | some value =>
        simp only
        split
        · rename_i empty
          exact absurd empty (present value)
        · rw [codec.read_write]
  parse_read json value found := by
    cases json with
    | null =>
        simp only [Option.some.injEq] at found
        subst found
        rfl
    | bool | num | str | arr | obj =>
        simp only [Option.map_eq_some_iff] at found
        obtain ⟨inner, read, same⟩ := found
        subst same
        simp [codec.parse_read _ _ read]

def enumeration {α : Type} (name : α → String) (cases : List α)
    (found : ∀ value, cases.find? (fun option => name option == name value) = some value) :
    Codec α where
  read json := (stringOf (some json)).bind fun text => cases.find? fun option => name option == text
  write value := .str (name value)
  parse := some
  read_write value := found value
  parse_read _ _ _ := rfl

def list {α : Type} (codec : Codec α) (least most : Nat) : Codec (List α) where
  read
    | .arr items =>
        if least ≤ items.length ∧ items.length ≤ most then items.mapM codec.read else none
    | _ => none
  write items := .arr (items.map codec.write)
  parse items := if least ≤ items.length ∧ items.length ≤ most then items.mapM codec.parse else none
  read_write items := by simp only [List.length_map, mapM_map_write]
  parse_read json value found := by
    cases json with
    | arr items =>
        simp only at found
        split at found
        · rename_i bounds
          have same : value.length = items.length := (mapM_forall₂ found).length_eq.symm
          rw [same, if_pos bounds]
          exact mapM_parse_read codec found
        · simp at found
    | null | bool | num | str | obj => simp at found

end Codec

namespace Slot

def required {α : Type} (codec : Codec α) : Slot α where
  read json := json.bind codec.read
  write value := some (codec.write value)
  parse := codec.parse
  read_write value := codec.read_write value
  parse_read json value found := by
    obtain ⟨inner, _, read⟩ := Option.bind_eq_some_iff.mp found
    exact codec.parse_read inner value read

def optional {α : Type} (codec : Codec α) : Slot (Option α) where
  read
    | none => some none
    | some json => (codec.read json).map some
  write value := value.map codec.write
  parse
    | none => some none
    | some value => (codec.parse value).map some
  read_write value := by
    cases value with
    | none => rfl
    | some value => simp [codec.read_write]
  parse_read json value found := by
    cases json with
    | none =>
        simp only [Option.some.injEq] at found
        subst found
        rfl
    | some json =>
        simp only [Option.map_eq_some_iff] at found
        obtain ⟨inner, read, same⟩ := found
        subst same
        simp [codec.parse_read _ _ read]

def withDefault {α : Type} (codec : Codec α) (fallback : α) (valid : codec.Valid fallback) :
    Slot α where
  read
    | none => some fallback
    | some json => codec.read json
  write value := some (codec.write value)
  parse := codec.parse
  read_write value := codec.read_write value
  parse_read json value found := by
    cases json with
    | none =>
        simp only [Option.some.injEq] at found
        subst found
        exact valid
    | some json => exact codec.parse_read json value found

end Slot

structure Fields (τ : Type) where
  names : List String
  read : Members → Option τ
  write : τ → Members
  parse : τ → Option τ
  write_absent : ∀ value name, name ∉ names → (write value).get name = none
  read_agreeing : ∀ members value,
    (∀ name ∈ names, members.get name = (write value).get name) → read members = parse value
  parse_read : ∀ members value, read members = some value → parse value = some value

namespace Fields

def nil : Fields Unit where
  names := []
  read _ := some ()
  write _ := []
  parse := some
  write_absent _ _ _ := rfl
  read_agreeing _ _ _ := rfl
  parse_read _ _ _ := rfl

theorem fresh_nil (name : String) : name ∉ nil.names :=
  List.not_mem_nil

def member (name : String) (value : Option Json) (rest : Members) : Members :=
  match value with
  | some json => (name, json) :: rest
  | none => rest

theorem get_member_same (name : String) (value : Option Json) (rest : Members)
    (absent : rest.get name = none) : (member name value rest).get name = value := by
  cases value with
  | none => exact absent
  | some json => simp [member, Members.get]

theorem get_member_other (name other : String) (value : Option Json) (rest : Members)
    (different : other ≠ name) : (member name value rest).get other = rest.get other := by
  cases value with
  | none => rfl
  | some json =>
      have unequal : (other == name) = false := by simpa using different
      simp [member, Members.get, List.lookup_cons, unequal]

def cons {α τ : Type} (name : String) (slot : Slot α) (rest : Fields τ)
    (fresh : name ∉ rest.names := by simp) : Fields (α × τ) where
  names := name :: rest.names
  read members := do
    let first ← slot.read (members.get name)
    let others ← rest.read members
    pure (first, others)
  write value := member name (slot.write value.1) (rest.write value.2)
  parse value := do
    let first ← slot.parse value.1
    let others ← rest.parse value.2
    pure (first, others)
  write_absent value other absent := by
    simp only [List.mem_cons, not_or] at absent
    rw [get_member_other name other _ _ absent.1]
    exact rest.write_absent value.2 other absent.2
  read_agreeing members value agree := by
    have here := agree name (List.mem_cons_self ..)
    rw [get_member_same name _ _ (rest.write_absent value.2 name fresh)] at here
    have others := rest.read_agreeing members value.2 (by
      intro other listed
      have different : other ≠ name := by
        intro same
        subst same
        exact fresh listed
      rw [agree other (List.mem_cons_of_mem _ listed)]
      exact get_member_other name other _ _ different)
    rw [here, slot.read_write, others]
  parse_read members value found := by
    simp only [Option.bind_eq_bind, Option.bind_eq_some_iff, Option.pure_def,
      Option.some.injEq] at found ⊢
    obtain ⟨first, readFirst, others, readOthers, same⟩ := found
    subst same
    exact ⟨first, slot.parse_read _ _ readFirst, others, rest.parse_read _ _ readOthers, rfl⟩

@[simp] theorem names_nil : nil.names = [] := rfl

@[simp] theorem names_cons {α τ : Type} (name : String) (slot : Slot α) (rest : Fields τ)
    (fresh : name ∉ rest.names) : (cons name slot rest fresh).names = name :: rest.names := rfl

theorem parse_cons_eq_some {α τ : Type} {name : String} {slot : Slot α} {rest : Fields τ}
    {fresh : name ∉ rest.names} {value result : α × τ} :
    (cons name slot rest fresh).parse value = some result ↔
      slot.parse value.1 = some result.1 ∧ rest.parse value.2 = some result.2 := by
  simp only [cons, Option.bind_eq_bind, Option.bind_eq_some_iff, Option.pure_def,
    Option.some.injEq, Prod.ext_iff]
  constructor
  · rintro ⟨first, parsedFirst, others, parsedOthers, sameFirst, sameOthers⟩
    exact ⟨parsedFirst.trans (congrArg some sameFirst), parsedOthers.trans (congrArg some sameOthers)⟩
  · rintro ⟨parsedFirst, parsedOthers⟩
    exact ⟨_, parsedFirst, _, parsedOthers, rfl, rfl⟩

@[simp] theorem parse_nil (value result : Unit) : nil.parse value = some result ↔ True := by
  simp [nil]

end Fields

def Codec.object {τ α : Type} (fields : Fields τ) (pack : τ → α) (unpack : α → τ)
    (unpack_pack : ∀ value, unpack (pack value) = value)  : Codec α where
  read
    | .obj members => (fields.read members).map pack
    | _ => none
  write value := .obj (fields.write (unpack value))
  parse value := (fields.parse (unpack value)).map pack
  read_write value := by
    simp only
    rw [fields.read_agreeing (fields.write (unpack value)) (unpack value) fun _ _ => rfl]
  parse_read json value found := by
    cases json with
    | obj members =>
        simp only [Option.map_eq_some_iff] at found
        obtain ⟨inner, read, same⟩ := found
        subst same
        simp [unpack_pack, fields.parse_read members inner read]
    | null | bool | num | str | arr => simp at found

theorem Codec.object_parse_eq_some {τ α : Type} {fields : Fields τ} {pack : τ → α} {unpack : α → τ}
    {unpack_pack : ∀ value, unpack (pack value) = value}
    (pack_unpack : ∀ value, pack (unpack value) = value) {value result : α} :
    (Codec.object fields pack unpack unpack_pack).parse value = some result ↔
      fields.parse (unpack value) = some (unpack result) := by
  simp only [Codec.object, Option.map_eq_some_iff]
  constructor
  · rintro ⟨inner, parsed, same⟩
    subst same
    rw [unpack_pack]
    exact parsed
  · intro parsed
    exact ⟨unpack result, parsed, pack_unpack result⟩

end Devproof
