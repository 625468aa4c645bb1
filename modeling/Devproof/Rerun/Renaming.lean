import Devproof.Rerun.CaseDefinition

/-!
Renaming source references commutes with reading requirements and plans.
-/

namespace Devproof.CaseRerun

open Parsing Schemas Patterns

def isInert (unit : UInt16) : Bool :=
  isLower unit || Parsing.isDigit unit || unit == code ':' || unit == code '/' || unit == code '-'

theorem isInert_range {unit : UInt16} (inert : isInert unit = true) :
    (97 ≤ unit.toNat ∧ unit.toNat ≤ 122) ∨ (45 ≤ unit.toNat ∧ unit.toNat ≤ 58) := by
  simp only [isInert, isLower, Parsing.isDigit, Bool.or_eq_true, Bool.and_eq_true, decide_eq_true_eq,
    beq_iff_eq, UInt16.le_iff_toNat_le, ← UInt16.toNat_inj] at inert
  simp [code] at inert
  omega

theorem quiet : Quiet isInert isUpper where
  visible := by
    intro unit inert
    have range := isInert_range inert
    rw [UInt16.lt_iff_toNat_lt, UInt16.lt_iff_toNat_lt]
    simp
    omega
  unescaped := by
    intro unit inert
    have range := isInert_range inert
    rw [Ne, Ne, ← UInt16.toNat_inj, ← UInt16.toNat_inj]
    simp [code]
    omega
  marks := active_of_all (by decide)

theorem isUuidUnit_inert {unit : UInt16} (held : isUuidUnit unit = true) : isInert unit = true := by
  simp only [isUuidUnit, isInert, isLower, Bool.or_eq_true, Bool.and_eq_true] at *
  have below : unit ≤ code 'f' → unit ≤ code 'z' := by
    intro small
    rw [UInt16.le_iff_toNat_le] at *
    exact le_trans small (by decide)
  simp only [decide_eq_true_eq] at *
  tauto

theorem Reference.length {text : Text} (reference : Reference text) : text.length = 91 := by
  obtain ⟨attempt, source, rfl, ⟨first, second⟩, -⟩ := reference
  simp [sourcePrefix, key, first, second]

theorem Reference.inert {text : Text} (reference : Reference text) :
    ∀ unit ∈ text, isInert unit = true := by
  obtain ⟨attempt, source, rfl, -, held⟩ := reference
  have start : ∀ unit ∈ sourcePrefix, isInert unit = true :=
    List.all_eq_true.mp (by decide)
  intro unit member
  simp only [List.mem_append, List.mem_cons] at member held
  rcases member with (member | member) | rfl | member
  · exact start unit member
  · exact isUuidUnit_inert (held unit (Or.inl member))
  · decide
  · exact isUuidUnit_inert (held unit (Or.inr member))

theorem Reference.slash {text : Text} (reference : Reference text) : code '/' ∈ text := by
  obtain ⟨attempt, source, rfl, -, -⟩ := reference
  simp

theorem Reference.starts {text : Text} (reference : Reference text) : sourcePrefix <+: text := by
  obtain ⟨attempt, source, rfl, -, -⟩ := reference
  exact ⟨attempt ++ code '/' :: source, by simp⟩

theorem trim_inert {text : Text} (inert : ∀ unit ∈ text, isInert unit = true) :
    trimWhite text = text := by
  have solid : ∀ unit ∈ text, isWhiteSpace unit = false := by
    intro unit member
    by_contra space
    have active := quiet.not_space (by simpa using space)
    simp [inert unit member] at active
  have front : text.dropWhile isWhiteSpace = text := by
    refine List.dropWhile_eq_self_iff.mpr fun bound => ?_
    simp [solid _ (List.getElem_mem bound)]
  rw [trimWhite, front, List.rdropWhile_eq_self_iff]
  intro nonempty
  simp [solid _ (List.getLast_mem nonempty)]

theorem trim_trim (text : Text) : trimWhite (trimWhite text) = trimWhite text := by
  have front : (trimWhite text).dropWhile isWhiteSpace = trimWhite text := by
    obtain ⟨tail, split⟩ := List.rdropWhile_prefix isWhiteSpace (text.dropWhile isWhiteSpace)
    cases kept : trimWhite text with
    | nil => rfl
    | cons first rest =>
        have head : (text.dropWhile isWhiteSpace).head? = some first := by
          rw [← split, ← trimWhite, kept]
          rfl
        have solid := List.head?_dropWhile_not isWhiteSpace text
        rw [head] at solid
        simp only at solid
        simp [solid]
  rw [trimWhite, front, trimWhite, List.rdropWhile_idempotent]

section Renaming

variable (references : SourceMap)

def rename (text : Text) : Text :=
  (references.entries.lookup text).getD text

def Clean (text : Text) : Prop :=
  Reference (trimWhite text) → trimWhite text = text

variable {references}

theorem rename_cases (text : Text) :
    (references.entries.lookup text = none ∧ rename references text = text) ∨
      (Reference text ∧ Reference (rename references text)) := by
  cases found : references.entries.lookup text with
  | none => exact Or.inl ⟨rfl, by simp [rename, found]⟩
  | some reference =>
      have member : ((text, reference) : Text × Text) ∈ references.entries := by
        rw [List.lookup_eq_some_iff] at found
        obtain ⟨before, later, split, -⟩ := found
        simp [split]
      have forms := references.references _ member
      refine Or.inr ⟨forms.1, ?_⟩
      simpa [rename, found] using forms.2

theorem rename_of_not {text : Text} (other : ¬Reference text) : rename references text = text := by
  rcases rename_cases text with ⟨-, same⟩ | ⟨reference, -⟩
  · exact same
  · exact absurd reference other

theorem rename_length (text : Text) : (rename references text).length = text.length := by
  rcases rename_cases text with ⟨-, same⟩ | ⟨first, second⟩
  · rw [same]
  · rw [first.length, second.length]

theorem rename_alike (text : Text) : Alike isInert isUpper text (rename references text) := by
  rcases rename_cases text with ⟨-, same⟩ | ⟨first, second⟩
  · rw [same]
    exact .refl text
  · exact alike_of_inert (rename_length text).symm first.inert second.inert

theorem rename_quoted (text : Text) :
    Alike isInert isUpper (Parsing.quoted text) (Parsing.quoted (rename references text)) := by
  rcases rename_cases text with ⟨-, same⟩ | ⟨first, second⟩
  · rw [same]
    exact .refl _
  · exact quiet.quoted (rename_length text).symm first.inert second.inert

theorem bounded_eq_some {least most : Nat} {text known : Text}
    (accepted : sized least most text = some known) :
    known = text ∧ least ≤ text.length ∧ text.length ≤ most := by
  rw [sized] at accepted
  split at accepted
  next size => exact ⟨(Option.some.inj accepted).symm, size⟩
  next => cases accepted

theorem rename_bounded {least most : Nat} {text known : Text}
    (accepted : sized least most text = some known) :
    sized least most (rename references text) = some (rename references known) := by
  obtain ⟨rfl, size⟩ := bounded_eq_some accepted
  rw [sized, if_pos (by rwa [rename_length])]

theorem lawful_bounded (least most : Nat) :
    Lawful (rename references) Clean Number.Readable (string (sized least most)) :=
  lawful_string
    (fun {text known} accepted => by
      obtain ⟨rfl, size⟩ := bounded_eq_some accepted
      exact accepted)
    fun {text known} accepted _ => rename_bounded accepted

theorem rename_trim {text : Text} (clean : Clean text) :
    trimWhite (rename references text) = rename references (trimWhite text) := by
  rcases @rename_cases references text with ⟨absent, same⟩ | ⟨first, second⟩
  · rw [same]
    rcases @rename_cases references (trimWhite text) with ⟨-, kept⟩ | ⟨reference, -⟩
    · exact kept.symm
    · rw [clean reference, same]
  · rw [trim_inert first.inert, trim_inert second.inert]

theorem trimmed_eq_some {least most : Nat} {text known : Text}
    (accepted : trimSized least most text = some known) :
    known = trimWhite text ∧ sized least most (trimWhite text) = some (trimWhite text) := by
  obtain ⟨rfl, size⟩ := bounded_eq_some accepted
  exact ⟨rfl, accepted⟩

theorem clean_of_trimmed {least most : Nat} {text known : Text}
    (accepted : trimSized least most text = some known) (steady : Clean text ∨ text = known) :
    Clean text := by
  rcases steady with clean | same
  · exact clean
  · obtain ⟨rfl, -⟩ := trimmed_eq_some accepted
    exact fun _ => same.symm

theorem rename_trimmed {least most : Nat} {text known : Text}
    (accepted : trimSized least most text = some known) (steady : Clean text ∨ text = known) :
    trimSized least most (rename references text) = some (rename references known) := by
  have clean := clean_of_trimmed accepted steady
  obtain ⟨rfl, size⟩ := trimmed_eq_some accepted
  rw [trimSized, rename_trim clean]
  exact rename_bounded size

theorem trimmed_settles {least most : Nat} {text known : Text}
    (accepted : trimSized least most text = some known) :
    trimSized least most known = some known := by
  obtain ⟨rfl, size⟩ := trimmed_eq_some accepted
  rw [trimSized, trim_trim]
  exact size

theorem lawful_trimmed (least most : Nat) :
    Lawful (rename references) Clean Number.Readable (string (trimSized least most)) :=
  lawful_string trimmed_settles rename_trimmed

theorem matching_eq_some {pattern : Text → Bool} {text known : Text}
    (accepted : matching pattern text = some known) : known = text ∧ pattern text = true := by
  rw [matching] at accepted
  split at accepted
  next held => exact ⟨(Option.some.inj accepted).symm, held⟩
  next => cases accepted

/-- A pattern that no reference matches. -/
theorem lawful_matching {pattern : Text → Bool}
    (refused : ∀ text, Reference text → pattern text = false) :
    Lawful (rename references) Clean Number.Readable (string (matching pattern)) :=
  lawful_string
    (fun {text known} accepted => by
      obtain ⟨rfl, -⟩ := matching_eq_some accepted
      exact accepted)
    fun {text known} accepted _ => by
      obtain ⟨rfl, held⟩ := matching_eq_some accepted
      rw [rename_of_not fun reference => by simp [refused _ reference] at held]
      exact accepted

theorem lawful_oneOf {choices : List String}
    (plain : ∀ choice ∈ choices, (key choice).length ≠ 91) :
    Lawful (rename references) Clean Number.Readable (oneOf choices) := by
  refine lawful_matching fun text reference => ?_
  by_contra listed
  simp only [List.contains_eq_mem, Bool.not_eq_false, decide_eq_true_eq, List.mem_map] at listed
  obtain ⟨choice, member, rfl⟩ := listed
  exact plain choice member reference.length

theorem isRole_reference {text : Text} (reference : Reference text) : isRole text = false := by
  have size := reference.length
  cases text with
  | nil => rfl
  | cons unit rest =>
      have long : ¬rest.length ≤ 79 := by
        simp only [List.length_cons] at size
        omega
      simp [isRole, long]

theorem rename_role {text : Text} (role : isRole text = true) : rename references text = text :=
  rename_of_not fun reference => by simp [isRole_reference reference] at role

theorem lawful_required (name : String) {shape : Schema}
    (lawful : Lawful (rename references) Clean Number.Readable shape) :
    (required name shape).Lawful (rename references) Clean Number.Readable :=
  ⟨lawful, fun default => by cases default⟩

theorem lawful_optional (name : String) {shape : Schema}
    (lawful : Lawful (rename references) Clean Number.Readable shape) :
    (optional name shape).Lawful (rename references) Clean Number.Readable :=
  ⟨lawful, fun default => by cases default⟩

theorem lawful_emptyList (name : String) {most : Nat} {item : Schema}
    (lawful : Lawful (rename references) Clean Number.Readable item) :
    (byDefault name (.arr []) (array 0 most item)).Lawful (rename references) Clean
      Number.Readable := by
  refine ⟨lawful_array 0 most lawful, fun default => ?_⟩
  obtain rfl := Presence.byDefault.inj default
  exact ⟨by simp [byDefault, array, Schemas.readItems], by simp [mapText], .arr (by simp)⟩

theorem lawful_subjectBinding :
    Lawful (rename references) Clean Number.Readable accountSubjectBindingSchema := by
  have basis : Lawful (rename references) Clean Number.Readable (objectOf [
      required "sourceRef" (string (sized 1 500)),
      required "quote" (string (trimSized 1 2000))]) := by
    refine lawful_object (by decide) ?_
    simp only [List.forall_mem_cons]
    exact ⟨lawful_required _ (lawful_bounded 1 500), lawful_required _ (lawful_trimmed 1 2000),
      by simp⟩
  refine lawful_object (by decide) ?_
  simp only [List.forall_mem_cons]
  exact ⟨lawful_required _ (lawful_oneOf (by decide)), lawful_required _ (lawful_trimmed 1 300),
    lawful_required _ (lawful_array 1 100 (lawful_number _)),
    lawful_optional _ (lawful_array 0 100 (lawful_bounded 1 160)), lawful_required _ basis, by simp⟩

theorem digits_read : readNumber [code '1'] = some (.finite 1) ∧
    readNumber [code '2'] = some (.finite 2) := by
  decide +kernel

theorem lawful_requirement :
    Lawful (rename references) Clean Number.Readable testAccountRequirementSchema := by
  have count : (byDefault "count" (.num (.finite 1)) (integer 1 20)).Lawful
      (rename references) Clean Number.Readable := by
    refine ⟨lawful_number _, fun default => ?_⟩
    obtain rfl := Presence.byDefault.inj default
    exact ⟨rfl, rfl, .num ⟨[code '1'], digits_read.1⟩⟩
  refine lawful_object (by decide) ?_
  simp only [List.forall_mem_cons]
  exact ⟨lawful_optional _ lawful_subjectBinding, lawful_required _ (lawful_matching fun _ =>
    isRole_reference), lawful_required _ (lawful_trimmed 1 200), count,
    lawful_required _ (lawful_oneOf (by decide)), lawful_emptyList _ (lawful_trimmed 1 1000),
    lawful_emptyList _ (lawful_trimmed 1 1000), lawful_required _ (lawful_trimmed 1 1000), by simp⟩

theorem member_mapText (name : String) (change : Text → Text) (value : Value) :
    member name (mapText change value) = (member name value).map (mapText change) := by
  cases value with
  | obj members => simp only [mapText, mapMembers_eq, member, lookup_map]
  | null | bool | num | str | arr => rfl

theorem textMember_mapText {name : String} {change : Text → Text} {value : Value} {text : Text}
    (found : member name value = some (.str text)) :
    textMember name (mapText change value) = change text := by
  simp only [textMember, member_mapText, found, Option.map_some, mapText]

theorem test_member {test : Text → Bool} (refused : ∀ text, Reference text → test text = false)
    (name : String) (value : Value) :
    test (textMember name (mapText (rename references) value)) = test (textMember name value) := by
  simp only [textMember, member_mapText]
  cases member name value with
  | none => rfl
  | some found =>
      cases found with
      | str text =>
          simp only [Option.map_some, mapText]
          rcases @rename_cases references text with ⟨-, same⟩ | ⟨first, second⟩
          · rw [same]
          · rw [refused _ first, refused _ second]
      | null | bool | num | arr | obj => rfl

theorem countOf_mapText (change : Text → Text) (value : Value) :
    countOf (mapText change value) = countOf value := by
  simp only [countOf, member_mapText]
  cases member "count" value with
  | none => rfl
  | some found => cases found <;> rfl

theorem object_member {fields : List Field} (distinct : (fields.map Field.name).Nodup)
    {value read : Value} (accepted : objectOf fields value = some read) {name : String}
    {presence : Presence} {shape : Schema} (field : ⟨key name, presence, shape⟩ ∈ fields) :
    ∃ members, Field.read ⟨key name, presence, shape⟩ members = some (member name read) := by
  obtain ⟨members, known, rfl, rfl, found⟩ := object_eq_some accepted
  exact ⟨members, readFields_lookup distinct found field⟩

/-- What is read for a required member. -/
theorem required_member {fields : List Field} (distinct : (fields.map Field.name).Nodup)
    {value read : Value} (accepted : objectOf fields value = some read) {name : String}
    {shape : Schema} (field : required name shape ∈ fields) :
    ∃ given known, shape given = some known ∧ member name read = some known := by
  obtain ⟨members, looked⟩ := object_member distinct accepted field
  rcases Field.read_cases looked with ⟨given, known, -, accepts, present⟩ | ⟨-, optional, -⟩ |
    ⟨_, -, default, -⟩
  · exact ⟨given, known, accepts, present⟩
  · cases optional
  · cases default

theorem string_eq_some {read : Text → Option Text} {value known : Value}
    (accepted : string read value = some known) :
    ∃ text result, read text = some result ∧ known = .str result := by
  cases value with
  | str text =>
      obtain ⟨result, found, rfl⟩ := Option.map_eq_some_iff.mp accepted
      exact ⟨text, result, found, rfl⟩
  | null | bool | num | arr | obj => cases accepted

theorem requirement_role {value read : Value}
    (accepted : testAccountRequirementSchema value = some read) :
    ∃ role, member "role" read = some (.str role) ∧ isRole role = true := by
  obtain ⟨given, known, accepts, present⟩ := @required_member _ (by decide) _ _ accepted "role"
    (string (matching isRole)) (by simp)
  obtain ⟨text, result, found, rfl⟩ := string_eq_some accepts
  obtain ⟨rfl, role⟩ := matching_eq_some found
  exact ⟨_, present, role⟩

theorem role_rename {value read : Value}
    (accepted : testAccountRequirementSchema value = some read) :
    textMember "role" (mapText (rename references) read) = textMember "role" read := by
  obtain ⟨role, found, held⟩ := requirement_role accepted
  rw [textMember_mapText found, rename_role held, textMember, found]

theorem lawful_requirements :
    Lawful (rename references) Clean Number.Readable testAccountRequirementsSchema := by
  refine lawful_refined (lawful_array 0 20 lawful_requirement) ?_
  intro value read accepted
  obtain ⟨items, known, rfl, rfl, -, each⟩ := array_eq_some accepted
  have roles : (known.map (mapText (rename references))).map (textMember "role") =
      known.map (textMember "role") := by
    rw [List.map_map]
    refine List.map_congr_left fun item member => ?_
    obtain ⟨given, -, accepts⟩ := read_of_mem each member
    exact role_rename accepts
  have counts : (known.map (mapText (rename references))).map countOf = known.map countOf := by
    rw [List.map_map]
    exact List.map_congr_left fun item _ => countOf_mapText _ item
  simp only [mapText, mapItems_eq, validRequirementCounts, roles, counts]

theorem itemsOf_eq_some {shape : Schema} {value : Option Value} {items : List Value} :
    itemsOf shape value = some items ↔ value.bind shape = some (.arr items) := by
  unfold itemsOf
  split
  next known found => simp [found]
  next other =>
    simp only [reduceCtorEq, false_iff]
    exact other items

theorem requirements_rename {value : Value} {items : List Value}
    (read : itemsOf testAccountRequirementsSchema (some value) = some items)
    (clean : Strings Clean value) :
    itemsOf testAccountRequirementsSchema (some (mapText (rename references) value)) =
      some (items.map (mapText (rename references))) := by
  have follows := (@lawful_requirements references).follows (itemsOf_eq_some.mp read) (Or.inl clean)
  rw [mapText, mapItems_eq] at follows
  exact itemsOf_eq_some.mpr follows

theorem roles_rename {value : Option Value} {items : List Value}
    (read : itemsOf testAccountRequirementsSchema value = some items) {item : Value}
    (member : item ∈ items) :
    textMember "role" (mapText (rename references) item) = textMember "role" item ∧
      isRole (textMember "role" item) = true := by
  obtain ⟨given, -, accepted⟩ := Option.bind_eq_some_iff.mp (itemsOf_eq_some.mp read)
  obtain ⟨found, -⟩ := Option.filter_eq_some_iff.mp accepted
  obtain ⟨_, known, rfl, same, -, each⟩ := array_eq_some found
  obtain rfl := Value.arr.inj same
  obtain ⟨given, -, accepts⟩ := read_of_mem each member
  obtain ⟨role, present, held⟩ := requirement_role accepts
  refine ⟨role_rename accepts, ?_⟩
  rwa [textMember, present]

theorem requirements_well {value : Value} {items : List Value}
    (read : itemsOf testAccountRequirementsSchema (some value) = some items)
    (well : value.Well Number.Readable fun _ => True) :
    ∀ item ∈ items, item.Well Number.Readable fun _ => True := by
  have held := (@lawful_requirements ⟨[], by simp⟩).well
    (itemsOf_eq_some.mp read) well
  exact well_arr_iff.mp held

theorem foldCase_inert {unit : UInt16} (inert : isInert unit = true) : foldCase unit = unit := by
  have range := isInert_range inert
  rw [foldCase, if_neg]
  simp only [isUpper, Bool.and_eq_true, decide_eq_true_eq, UInt16.le_iff_toNat_le]
  simp [code]
  omega

theorem Reference.folded {text : Text} (reference : Reference text) :
    text.map foldCase = text :=
  (List.map_congr_left fun unit member => foldCase_inert (reference.inert unit member)).trans
    (List.map_id _)

theorem marked_namesLogin : Marked isInert namesLogin :=
  marked_or (marked_anyOf (by decide)) (marked_or
    (marked_after (marked_spaces fun _ => quiet.not_space))
    (marked_after (marked_spaces fun _ => quiet.not_space)))

theorem marked_disclaimsSubject : Marked isInert disclaimsSubject :=
  marked_or (marked_anyOf (by decide)) (marked_or (marked_anyOf (by decide))
    (marked_literal (by decide)))

theorem refused_of_marked {test : Text → Bool} (marked : Marked isInert test) (text : Text)
    (reference : Reference text) : occurs test (text.map foldCase) = false := by
  rw [reference.folded]
  exact (marked_occurs marked).not_inert reference.inert

theorem isLoginOnly_rename (requirement : Value) :
    isLoginOnlyAccountRequirement (mapText (rename references) requirement) =
      isLoginOnlyAccountRequirement requirement := by
  have kind : ((member "subjectBinding" (mapText (rename references) requirement)).map
      (textMember "kind") = some (key "AUTH_SUBJECT")) ↔
      (member "subjectBinding" requirement).map (textMember "kind") = some (key "AUTH_SUBJECT") := by
    rw [member_mapText]
    cases member "subjectBinding" requirement with
    | none => rfl
    | some binding =>
        have seen := @test_member references (fun text => decide (text = key "AUTH_SUBJECT"))
          (fun text reference => decide_eq_false fun same => by
            have size := reference.length
            rw [same] at size
            exact absurd size (by decide)) "kind" binding
        simpa using seen
  simp only [isLoginOnlyAccountRequirement, kind,
    test_member (refused_of_marked marked_namesLogin) "label",
    test_member (refused_of_marked marked_disclaimsSubject) "rationale"]

end Renaming

end Devproof.CaseRerun
