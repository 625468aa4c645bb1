import Mathlib.Data.List.DropRight
import Devproof.Lib.JsonOrder

/-!
Schemas of JSON values: what a value is read as, and when a change of the strings
in a value changes what is read in the same way.
-/

namespace Devproof.Schemas

open Parsing

abbrev Schema := Value → Option Value

def string (read : Text → Option Text) : Schema
  | .str text => (read text).map .str
  | _ => none

def number (admits : Number → Bool) : Schema
  | .num known => if admits known then some (.num known) else none
  | _ => none

def readItems (item : Schema) : List Value → Option (List Value)
  | [] => some []
  | value :: rest =>
      (item value).bind fun first => (readItems item rest).map (first :: ·)

def array (least most : Nat) (item : Schema) : Schema
  | .arr items =>
      if least ≤ items.length ∧ items.length ≤ most then (readItems item items).map .arr else none
  | _ => none

def refined (shape : Schema) (holds : Value → Bool) : Schema := fun value =>
  (shape value).filter holds

inductive Presence where
  | required
  | optional
  | byDefault (value : Value)

structure Field where
  name : Text
  presence : Presence
  shape : Schema

def Field.read (field : Field) (members : List (Text × Value)) : Option (Option Value) :=
  match members.lookup field.name with
  | some value => (field.shape value).map some
  | none =>
      match field.presence with
      | .required => none
      | .optional => some none
      | .byDefault value => some (some value)

def readFields : List Field → List (Text × Value) → Option (List (Text × Value))
  | [], _ => some []
  | field :: rest, members =>
      (field.read members).bind fun value =>
        (readFields rest members).map fun others =>
          match value with
          | some known => (field.name, known) :: others
          | none => others

def objectOf (fields : List Field) : Schema
  | .obj members => (readFields fields members).map .obj
  | _ => none

def isWhiteSpace (unit : UInt16) : Bool :=
  (9 ≤ unit && unit ≤ 13) || (0x2000 ≤ unit && unit ≤ 0x200A) ||
    [32, 0xA0, 0x1680, 0x2028, 0x2029, 0x202F, 0x205F, 0x3000, 0xFEFF].contains unit

def trimWhite (text : Text) : Text :=
  (text.dropWhile isWhiteSpace).rdropWhile isWhiteSpace

def sized (least most : Nat) (text : Text) : Option Text :=
  if least ≤ text.length ∧ text.length ≤ most then some text else none

def trimSized (least most : Nat) (text : Text) : Option Text :=
  sized least most (trimWhite text)

def matching (pattern : Text → Bool) (text : Text) : Option Text :=
  if pattern text then some text else none

/-! The strings of a value, changed throughout. -/

section Change

variable (change : Text → Text)

mutual
def mapText : Value → Value
  | .null => .null
  | .bool value => .bool value
  | .num value => .num value
  | .str value => .str (change value)
  | .arr items => .arr (mapItems items)
  | .obj members => .obj (mapMembers members)

def mapItems : List Value → List Value
  | [] => []
  | item :: rest => mapText item :: mapItems rest

def mapMembers : List (Text × Value) → List (Text × Value)
  | [] => []
  | (name, value) :: rest => (name, mapText value) :: mapMembers rest
end

@[simp] theorem mapItems_eq (items : List Value) :
    mapItems change items = items.map (mapText change) := by
  induction items with
  | nil => rfl
  | cons item rest ih => rw [mapItems, ih, List.map_cons]

@[simp] theorem mapMembers_eq (members : List (Text × Value)) :
    mapMembers change members = members.map (Prod.map id (mapText change)) := by
  induction members with
  | nil => rfl
  | cons entry rest ih =>
      obtain ⟨name, value⟩ := entry
      rw [mapMembers, ih, List.map_cons]
      rfl

theorem mapText_transform {number : Number → Value}
    {order : List (Text × Value) → List (Text × Value)}
    (leaf : ∀ known, mapText change (number known) = number known)
    (natural : ∀ (change : Value → Value) members,
      (order members).map (Prod.map id change) = order (members.map (Prod.map id change)))
    (value : Value) :
    mapText change (value.transform number order) =
      (mapText change value).transform number order := by
  induction value using Value.induct with
  | null | bool | str => rfl
  | num known => exact leaf known
  | arr items ih =>
      simp only [Value.transform, transformItems_eq, mapText, mapItems_eq, List.map_map]
      exact congrArg Value.arr (List.map_congr_left ih)
  | obj members ih =>
      simp only [Value.transform, transformMembers_eq, mapText, mapMembers_eq, natural,
        List.map_map]
      refine congrArg (fun members => Value.obj (order members)) ?_
      exact List.map_congr_left fun entry member => Prod.ext rfl (ih entry member)

theorem lookup_map (members : List (Text × Value)) (name : Text) (change : Value → Value) :
    (members.map (Prod.map id change)).lookup name = (members.lookup name).map change := by
  induction members with
  | nil => rfl
  | cons entry rest ih =>
      obtain ⟨known, value⟩ := entry
      simp only [List.map_cons, Prod.map_apply, id_eq, List.lookup_cons]
      split
      · rfl
      · exact ih

end Change

inductive Strings (held : Text → Prop) : Value → Prop
  | null : Strings held .null
  | bool (value : Bool) : Strings held (.bool value)
  | num (value : Number) : Strings held (.num value)
  | str {value : Text} (known : held value) : Strings held (.str value)
  | arr {items : List Value} (known : ∀ item ∈ items, Strings held item) : Strings held (.arr items)
  | obj {members : List (Text × Value)} (known : ∀ entry ∈ members, Strings held entry.2) :
      Strings held (.obj members)

theorem Strings.and {held also kept : Text → Prop} {value : Value} (known : Strings held value)
    (other : Strings also value) (both : ∀ text, held text → also text → kept text) :
    Strings kept value := by
  induction known with
  | null => exact .null
  | bool value => exact .bool value
  | num value => exact .num value
  | str known =>
      cases other with
      | str other => exact .str (both _ known other)
  | arr _ ih =>
      cases other with
      | arr other => exact .arr fun item member => ih item member (other item member)
  | obj _ ih =>
      cases other with
      | obj other => exact .obj fun entry member => ih entry member (other entry member)

theorem Strings.imp {held kept : Text → Prop} {value : Value} (known : Strings held value)
    (weaker : ∀ text, held text → kept text) : Strings kept value :=
  known.and known fun text _ => weaker text

theorem mem_of_lookup {members : List (Text × Value)} {name : Text} {value : Value}
    (found : members.lookup name = some value) : (name, value) ∈ members := by
  induction members with
  | nil => cases found
  | cons entry rest ih =>
      obtain ⟨known, first⟩ := entry
      rw [List.lookup_cons] at found
      split at found
      next same =>
        cases found
        simp_all
      next => exact List.mem_cons_of_mem _ (ih found)

theorem lookup_cons_eq {α : Type} (entry : Text × α) (rest : List (Text × α)) (name : Text) :
    (entry :: rest).lookup name = if name = entry.1 then some entry.2 else rest.lookup name := by
  rw [List.lookup_cons]
  by_cases same : name = entry.1
  · rw [if_pos same, beq_iff_eq.mpr same]
  · rw [if_neg same, beq_false_of_ne same]

section Fields

theorem readFields_cons {field : Field} {rest : List Field} {members read : List (Text × Value)}
    (accepted : readFields (field :: rest) members = some read) :
    ∃ value others, field.read members = some value ∧ readFields rest members = some others ∧
      read = (value.map (Prod.mk field.name)).toList ++ others := by
  rw [readFields] at accepted
  obtain ⟨value, known, accepted⟩ := Option.bind_eq_some_iff.mp accepted
  obtain ⟨others, later, rfl⟩ := Option.map_eq_some_iff.mp accepted
  refine ⟨value, others, known, later, ?_⟩
  cases value <;> rfl

theorem readFields_names {fields : List Field} {members read : List (Text × Value)}
    (accepted : readFields fields members = some read) :
    ∀ entry ∈ read, entry.1 ∈ fields.map Field.name := by
  induction fields generalizing read with
  | nil =>
      cases accepted
      simp
  | cons field rest ih =>
      obtain ⟨value, others, -, later, rfl⟩ := readFields_cons accepted
      intro entry member
      rcases List.mem_append.mp member with here | there
      · cases value with
        | none => cases here
        | some known =>
            obtain rfl : entry = (field.name, known) := by simpa using here
            exact List.mem_cons_self
      · exact List.mem_cons_of_mem _ (ih later entry there)

theorem lookup_eq_none {members : List (Text × Value)} {name : Text}
    (absent : ∀ entry ∈ members, entry.1 ≠ name) : members.lookup name = none := by
  induction members with
  | nil => rfl
  | cons entry rest ih =>
      have other : (name == entry.1) = false :=
        beq_false_of_ne (Ne.symm (absent entry List.mem_cons_self))
      rw [List.lookup_cons, other]
      exact ih fun known member => absent known (List.mem_cons_of_mem _ member)

/-- What is read under a field's name. -/
theorem readFields_lookup {fields : List Field} (distinct : (fields.map Field.name).Nodup)
    {members read : List (Text × Value)} (accepted : readFields fields members = some read)
    {field : Field} (member : field ∈ fields) :
    field.read members = some (read.lookup field.name) := by
  induction fields generalizing read with
  | nil => cases member
  | cons first rest ih =>
      obtain ⟨value, others, known, later, rfl⟩ := readFields_cons accepted
      obtain ⟨fresh, distinct⟩ := List.nodup_cons.mp distinct
      have names := readFields_names later
      rcases List.mem_cons.mp member with rfl | member
      · rw [known]
        cases value with
        | none =>
            refine congrArg some (lookup_eq_none ?_).symm
            intro entry present same
            exact fresh (same ▸ names entry present)
        | some value => simp
      · rw [ih distinct later member]
        have other : field.name ≠ first.name := by
          intro same
          exact fresh (same ▸ List.mem_map_of_mem member)
        cases value with
        | none => rfl
        | some value => simp [List.lookup_cons, beq_false_of_ne other]

theorem readFields_map {fields : List Field} {members changed : List (Text × Value)}
    (change : Value → Value)
    (same : ∀ field ∈ fields,
      field.read changed = (field.read members).map (Option.map change)) :
    readFields fields changed =
      (readFields fields members).map (List.map (Prod.map id change)) := by
  induction fields with
  | nil => rfl
  | cons field rest ih =>
      rw [readFields, readFields, same field List.mem_cons_self,
        ih fun known member => same known (List.mem_cons_of_mem _ member)]
      cases field.read members with
      | none => rfl
      | some value =>
          cases readFields rest members with
          | none => rfl
          | some others => cases value <;> rfl

theorem readFields_congr {fields : List Field} {members changed : List (Text × Value)}
    (same : ∀ field ∈ fields, field.read changed = field.read members) :
    readFields fields changed = readFields fields members := by
  have mapped := @readFields_map fields members changed id fun field member => by
    simp [same field member]
  simpa using mapped

theorem readFields_isSome {fields : List Field} {members : List (Text × Value)}
    (each : ∀ field ∈ fields, (field.read members).isSome) :
    (readFields fields members).isSome := by
  induction fields with
  | nil => rfl
  | cons field rest ih =>
      obtain ⟨value, known⟩ := Option.isSome_iff_exists.mp (each field List.mem_cons_self)
      obtain ⟨others, later⟩ := Option.isSome_iff_exists.mp
        (ih fun field member => each field (List.mem_cons_of_mem _ member))
      simp [readFields, known, later]

theorem lookup_setMember (members : List (Text × Value)) (entry : Text × Value) (name : Text) :
    (setMember members entry).lookup name =
      if name = entry.1 then some entry.2 else members.lookup name := by
  obtain ⟨set, value⟩ := entry
  have replaced : ∀ known : List (Text × Value),
      (known.map fun old => if old.1 = set then (set, value) else old).lookup name =
        if name = set then (known.lookup name).map fun _ => value else known.lookup name := by
    intro known
    induction known with
    | nil => split <;> rfl
    | cons old rest ih =>
        obtain ⟨oldName, oldValue⟩ := old
        by_cases here : name = set <;> by_cases there : oldName = set <;>
          by_cases first : name = oldName <;> simp_all [lookup_cons_eq]
  rw [setMember]
  split
  next present =>
    rw [replaced]
    split
    next same =>
      subst same
      obtain ⟨old, member, named⟩ := List.mem_map.mp present
      cases found : members.lookup name with
      | some _ => rfl
      | none =>
          have other := List.lookup_eq_none_iff.mp found old member
          simp_all
    next => rfl
  next absent =>
    rw [List.lookup_append]
    split
    next same =>
      subst same
      have missing : members.lookup name = none := lookup_eq_none fun old member named =>
        absent (List.mem_map.mpr ⟨old, member, named⟩)
      simp [missing]
    next other => simp [lookup_cons_eq, other]

end Fields

/-! Schemas that commute with a change of strings. -/

section Lawful

variable (change : Text → Text) (clean : Text → Prop) (numbers : Number → Prop)

/-- A value may follow the change if its strings are clean or the schema leaves it as it is. -/
def Steady (value read : Value) : Prop :=
  Strings clean value ∨ value = read

structure Lawful (shape : Schema) : Prop where
  settles : ∀ {value read}, shape value = some read → shape read = some read
  follows : ∀ {value read}, shape value = some read → Steady clean value read →
    shape (mapText change value) = some (mapText change read)
  well : ∀ {value read}, shape value = some read →
    value.Well numbers (fun _ => True) → read.Well numbers fun _ => True

variable {change clean numbers}

theorem lawful_string {read : Text → Option Text}
    (settles : ∀ {text known}, read text = some known → read known = some known)
    (follows : ∀ {text known}, read text = some known → clean text ∨ text = known →
      read (change text) = some (change known)) :
    Lawful change clean numbers (string read) := by
  have cases : ∀ {value result}, string read value = some result →
      ∃ text known, value = .str text ∧ read text = some known ∧ result = .str known := by
    intro value result accepted
    cases value with
    | str text =>
        obtain ⟨known, found, rfl⟩ := Option.map_eq_some_iff.mp accepted
        exact ⟨text, known, rfl, found, rfl⟩
    | null | bool | num | arr | obj => cases accepted
  refine ⟨fun {value result} accepted => ?_, fun {value result} accepted steady => ?_,
    fun {value result} accepted _ => ?_⟩
  · obtain ⟨text, known, rfl, found, rfl⟩ := cases accepted
    exact congrArg (Option.map Value.str) (settles found)
  · obtain ⟨text, known, rfl, found, rfl⟩ := cases accepted
    refine congrArg (Option.map Value.str) (follows found ?_)
    rcases steady with held | same
    · cases held with
      | str held => exact Or.inl held
    · exact Or.inr (Value.str.inj same)
  · obtain ⟨text, known, rfl, -, rfl⟩ := cases accepted
    exact .str known

theorem lawful_number (admits : Number → Bool) : Lawful change clean numbers (number admits) := by
  have cases : ∀ {value result}, number admits value = some result →
      ∃ known, value = .num known ∧ admits known ∧ result = .num known := by
    intro value result accepted
    cases value with
    | num known =>
        simp only [number] at accepted
        split at accepted
        next admitted =>
          cases accepted
          exact ⟨known, rfl, admitted, rfl⟩
        next => cases accepted
    | null | bool | str | arr | obj => cases accepted
  refine ⟨fun {value result} accepted => ?_, fun {value result} accepted _ => ?_,
    fun {value result} accepted held => ?_⟩
  · obtain ⟨known, rfl, admitted, rfl⟩ := cases accepted
    exact accepted
  · obtain ⟨known, rfl, admitted, rfl⟩ := cases accepted
    exact accepted
  · obtain ⟨known, rfl, admitted, rfl⟩ := cases accepted
    exact held

theorem readItems_forall {item : Schema} {items read : List Value} :
    readItems item items = some read ↔
      List.Forall₂ (fun value known => item value = some known) items read := by
  induction items generalizing read with
  | nil => simp [readItems, eq_comm]
  | cons value rest ih =>
      simp only [readItems, Option.bind_eq_some_iff, Option.map_eq_some_iff, ih]
      constructor
      · rintro ⟨first, known, others, later, rfl⟩
        exact .cons known later
      · rintro (_ | ⟨known, later⟩)
        exact ⟨_, known, _, later, rfl⟩

/-- What a list was read from. -/
theorem read_of_mem {item : Schema} {items read : List Value}
    (each : List.Forall₂ (fun value known => item value = some known) items read)
    {known : Value} (member : known ∈ read) : ∃ value ∈ items, item value = some known := by
  induction each with
  | nil => cases member
  | cons first _ ih =>
      rcases List.mem_cons.mp member with rfl | later
      · exact ⟨_, List.mem_cons_self, first⟩
      · obtain ⟨value, member, accepts⟩ := ih later
        exact ⟨value, List.mem_cons_of_mem _ member, accepts⟩

theorem array_eq_some {least most : Nat} {item : Schema} {value read : Value}
    (accepted : array least most item value = some read) :
    ∃ items known, value = .arr items ∧ read = .arr known ∧
      (least ≤ items.length ∧ items.length ≤ most) ∧
        List.Forall₂ (fun value known => item value = some known) items known := by
  cases value with
  | arr items =>
      simp only [array] at accepted
      split at accepted
      next size =>
        obtain ⟨known, found, rfl⟩ := Option.map_eq_some_iff.mp accepted
        exact ⟨items, known, rfl, rfl, size, readItems_forall.mp found⟩
      next => cases accepted
  | null | bool | num | str | obj => cases accepted

theorem lawful_array (least most : Nat) {item : Schema} (lawful : Lawful change clean numbers item) :
    Lawful change clean numbers (array least most item) := by
  refine ⟨fun {value result} accepted => ?_, fun {value result} accepted steady => ?_,
    fun {value result} accepted held => ?_⟩
  all_goals obtain ⟨items, known, rfl, rfl, size, each⟩ := array_eq_some accepted
  · rw [array, if_pos (each.length_eq ▸ size)]
    refine congrArg (Option.map Value.arr) (readItems_forall.mpr ?_)
    clear accepted size
    induction each with
    | nil => exact .nil
    | cons first _ ih => exact .cons (lawful.settles first) ih
  · have steadies : List.Forall₂ (Steady clean) items known := by
      rcases steady with held | same
      · cases held with
        | arr held =>
            clear accepted size
            induction each with
            | nil => exact .nil
            | cons first _ ih =>
                exact .cons (Or.inl (held _ List.mem_cons_self))
                  (ih fun value member => held value (List.mem_cons_of_mem _ member))
      · rw [Value.arr.inj same]
        exact List.forall₂_same.mpr fun value _ => Or.inr rfl
    simp only [mapText, mapItems_eq]
    rw [array, if_pos (by simpa using size)]
    refine congrArg (Option.map Value.arr) (readItems_forall.mpr ?_)
    clear accepted size steady
    induction each with
    | nil => exact .nil
    | cons first _ ih =>
        cases steadies with
        | cons here there => exact .cons (lawful.follows first here) (ih there)
  · cases held with
    | arr held =>
        refine .arr ?_
        clear accepted size
        induction each with
        | nil => simp
        | cons first _ ih =>
            intro value member
            rcases List.mem_cons.mp member with rfl | member
            · exact lawful.well first (held _ List.mem_cons_self)
            · exact ih (fun value member => held value (List.mem_cons_of_mem _ member)) value member

theorem lawful_refined {shape : Schema} {holds : Value → Bool}
    (lawful : Lawful change clean numbers shape)
    (unchanged : ∀ {value read}, shape value = some read →
      holds (mapText change read) = holds read) :
    Lawful change clean numbers (refined shape holds) := by
  refine ⟨fun {value result} accepted => ?_, fun {value result} accepted steady => ?_,
    fun {value result} accepted held => ?_⟩
  all_goals obtain ⟨found, kept⟩ := Option.filter_eq_some_iff.mp accepted
  · exact Option.filter_eq_some_iff.mpr ⟨lawful.settles found, kept⟩
  · exact Option.filter_eq_some_iff.mpr
      ⟨lawful.follows found steady, (unchanged found).trans kept⟩
  · exact lawful.well found held

structure Field.Lawful (change : Text → Text) (clean : Text → Prop) (numbers : Number → Prop)
    (field : Field) : Prop where
  shape : Schemas.Lawful change clean numbers field.shape
  byDefault : ∀ {value}, field.presence = .byDefault value →
    field.shape value = some value ∧ mapText change value = value ∧
      value.Well numbers fun _ => True

theorem Field.read_cases {field : Field} {members : List (Text × Value)} {result : Option Value}
    (accepted : field.read members = some result) :
    (∃ value read, members.lookup field.name = some value ∧ field.shape value = some read ∧
      result = some read) ∨
    (members.lookup field.name = none ∧ field.presence = .optional ∧ result = none) ∨
    (∃ value, members.lookup field.name = none ∧ field.presence = .byDefault value ∧
      result = some value) := by
  unfold Field.read at accepted
  split at accepted
  next value found =>
    obtain ⟨read, known, rfl⟩ := Option.map_eq_some_iff.mp accepted
    exact Or.inl ⟨value, read, found, known, rfl⟩
  next absent =>
    split at accepted
    next => cases accepted
    next optional =>
      cases accepted
      exact Or.inr (Or.inl ⟨absent, optional, rfl⟩)
    next value default =>
      cases accepted
      exact Or.inr (Or.inr ⟨value, absent, default, rfl⟩)

theorem object_eq_some {fields : List Field} {value read : Value}
    (accepted : objectOf fields value = some read) :
    ∃ members known, value = .obj members ∧ read = .obj known ∧
      readFields fields members = some known := by
  cases value with
  | obj members =>
      obtain ⟨known, found, rfl⟩ := Option.map_eq_some_iff.mp accepted
      exact ⟨members, known, rfl, rfl, found⟩
  | null | bool | num | str | arr => cases accepted

theorem lawful_object {fields : List Field} (distinct : (fields.map Field.name).Nodup)
    (lawful : ∀ field ∈ fields, field.Lawful change clean numbers) :
    Lawful change clean numbers (objectOf fields) := by
  refine ⟨fun {value result} accepted => ?_, fun {value result} accepted steady => ?_,
    fun {value result} accepted held => ?_⟩
  all_goals obtain ⟨members, known, rfl, rfl, found⟩ := object_eq_some accepted
  · refine congrArg (Option.map Value.obj) (Eq.trans (readFields_congr ?_) found)
    intro field member
    have looked := readFields_lookup distinct found member
    rw [looked]
    rcases Field.read_cases looked with ⟨value, read, -, accepts, present⟩ |
      ⟨-, optional, absent⟩ | ⟨value, -, default, present⟩
    · simp only [Field.read, present, (lawful field member).shape.settles accepts, Option.map_some]
    · simp only [Field.read, absent, optional]
    · simp only [Field.read, present, ((lawful field member).byDefault default).1, Option.map_some]
  · simp only [mapText, mapMembers_eq]
    refine congrArg (Option.map Value.obj) (Eq.trans (readFields_map (mapText change) ?_)
      (congrArg (Option.map _) found))
    intro field member
    have looked := readFields_lookup distinct found member
    rw [looked]
    rcases Field.read_cases looked with ⟨value, read, there, accepts, present⟩ |
      ⟨there, optional, absent⟩ | ⟨value, there, default, present⟩
    · have quiet : Steady clean value read := by
        rcases steady with held | same
        · cases held with
          | obj held => exact Or.inl (held (field.name, value) (mem_of_lookup there))
        · rw [← Value.obj.inj same, there] at present
          exact Or.inr (Option.some.inj present)
      simp only [Field.read, lookup_map, there, present, Option.map_some,
        (lawful field member).shape.follows accepts quiet]
    · simp only [Field.read, lookup_map, there, absent, optional, Option.map_none, Option.map_some]
    · simp only [Field.read, lookup_map, there, present, default, Option.map_none, Option.map_some,
        ((lawful field member).byDefault default).2.1]
  · cases held with
    | obj _ held =>
        refine .obj trivial ?_
        clear accepted distinct
        induction fields generalizing known with
        | nil =>
            cases found
            simp
        | cons field rest ih =>
            obtain ⟨value, others, first, later, rfl⟩ := readFields_cons found
            intro entry member
            rcases List.mem_append.mp member with here | there
            · rcases Field.read_cases first with ⟨value, read, there, accepts, rfl⟩ |
                ⟨-, -, rfl⟩ | ⟨value, -, default, rfl⟩
              · obtain rfl : entry = (field.name, read) := by simpa using here
                exact (lawful field List.mem_cons_self).shape.well accepts
                  (held (field.name, value) (mem_of_lookup there))
              · cases here
              · obtain rfl : entry = (field.name, value) := by simpa using here
                exact ((lawful field List.mem_cons_self).byDefault default).2.2
            · exact ih (fun known member => lawful known (List.mem_cons_of_mem _ member)) others
                later entry there

end Lawful

end Devproof.Schemas
