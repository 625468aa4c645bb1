import Devproof.Rerun.Remapping

/-!
The plan of a copied case is read with the references of the original's renamed.
-/

namespace Devproof.CaseRerun

open Parsing Schemas Patterns

/-! Objects some of whose members are replaced. -/

section Held

def Held (fields : List Field) (members : List (Text × Value)) : Prop :=
  ∀ field ∈ fields, field.read members = some (members.lookup field.name)

theorem held_of_settled {fields : List Field} (distinct : (fields.map Field.name).Nodup)
    {members : List (Text × Value)}
    (settled : objectOf fields (.obj members) = some (.obj members)) : Held fields members := by
  obtain ⟨first, second, one, other, found⟩ := object_eq_some settled
  cases one
  cases other
  exact fun field member => readFields_lookup distinct found member

theorem Held.setMember {fields : List Field} {members : List (Text × Value)}
    (held : Held fields members) {entry : Text × Value}
    (fits : ∀ field ∈ fields, field.name = entry.1 → field.shape entry.2 = some entry.2) :
    Held fields (setMember members entry) := by
  intro field member
  have before := held field member
  rw [Field.read] at before ⊢
  rw [lookup_setMember]
  by_cases same : field.name = entry.1
  · simp only [if_pos same, fits field member same, Option.map_some]
  · simpa only [if_neg same] using before

theorem Held.objectOf {fields : List Field} (distinct : (fields.map Field.name).Nodup)
    {members : List (Text × Value)} (held : Held fields members) :
    ∃ known, objectOf fields (.obj members) = some (.obj known) ∧
      ∀ field ∈ fields, known.lookup field.name = members.lookup field.name := by
  have some_known := @readFields_isSome fields members fun field member => by
    rw [held field member]
    rfl
  obtain ⟨known, found⟩ := Option.isSome_iff_exists.mp some_known
  refine ⟨known, congrArg (Option.map Value.obj) found, fun field member => ?_⟩
  have looked := readFields_lookup distinct found member
  rw [held field member] at looked
  exact (Option.some.inj looked).symm

end Held

structure Platform.Standard (platform : Platform) : Prop where
  account : ∀ text, code '/' ∈ text → platform.isAccount text = false
  uuid : ∀ text, code '/' ∈ text → platform.isUuid text = false
  dateTime : ∀ text, code '/' ∈ text → platform.isDateTime text = false
  digest : ∀ text, isDigest (platform.sha256 text) = true
  numbers : Parsing.NumberTexts platform.formatNumber

section Plans

variable {references : SourceMap} {platform : Platform}

theorem lawful_account (standard : platform.Standard) :
    Lawful (rename references) Clean Number.Readable (businessTestAccountSchema platform) := by
  refine lawful_string (fun {text known} accepted => ?_) fun {text known} accepted steady => ?_
  all_goals obtain ⟨found, held⟩ := Option.filter_eq_some_iff.mp accepted
  · exact Option.filter_eq_some_iff.mpr ⟨trimmed_settles found, held⟩
  · have other : rename references known = known := rename_of_not fun reference => by
      rw [standard.account _ reference.slash] at held
      cases held
    have follows := @rename_trimmed references _ _ _ _ found steady
    rw [other] at follows ⊢
    exact Option.filter_eq_some_iff.mpr ⟨follows, held⟩

theorem lawful_binding (standard : platform.Standard) :
    Lawful (rename references) Clean Number.Readable (testAccountBindingSchema platform) := by
  have distinct : (["slotId", "label", "account", "aliases", "usage",
      "requiredTypes"].map key).Nodup := by decide
  refine lawful_object distinct ?_
  simp only [List.forall_mem_cons]
  exact ⟨lawful_required _ (lawful_bounded 1 100), lawful_optional _ (lawful_bounded 0 200),
    lawful_required _ (lawful_account standard), lawful_emptyList _ (lawful_account standard),
    lawful_required _ (lawful_oneOf (by decide)), lawful_emptyList _ (lawful_trimmed 1 1000),
    by simp⟩

theorem isDigest_reference {text : Text} (reference : Reference text) : isDigest text = false := by
  simp [isDigest, reference.length]

theorem lawful_resolution : Lawful (rename references) Clean Number.Readable resolutionSchema := by
  refine lawful_object (by decide) ?_
  simp only [List.forall_mem_cons]
  exact ⟨lawful_required _ (lawful_oneOf (by decide)),
    lawful_required _ (lawful_array 0 20 (lawful_bounded 1 80)),
    lawful_required _ (lawful_trimmed 1 1000), by simp⟩

theorem planFields_distinct : ((planFieldsTwo platform).map Field.name).Nodup := by
  have names : (planFieldsTwo platform).map Field.name = ["version", "revision", "requirements",
      "bindings", "requestedAt", "expiresAt", "definitionHash", "effectiveAuthRole",
      "resolution"].map key := rfl
  rw [names]
  decide

theorem lawful_plan (standard : platform.Standard) :
    Lawful (rename references) Clean Number.Readable (objectOf (planFieldsTwo platform)) := by
  have dates : Lawful (rename references) Clean Number.Readable
      (string (matching platform.isDateTime)) :=
    lawful_matching fun text reference => standard.dateTime text reference.slash
  refine lawful_object planFields_distinct ?_
  simp only [planFieldsTwo, planFields, List.cons_append, List.nil_append, List.forall_mem_cons]
  exact ⟨lawful_required _ (lawful_number _),
    lawful_required _ (lawful_matching fun text reference => standard.uuid text reference.slash),
    lawful_required _ lawful_requirements,
    lawful_required _ (lawful_array 0 50 (lawful_binding standard)), lawful_required _ dates,
    lawful_optional _ dates, lawful_required _ (lawful_matching fun _ => isDigest_reference),
    lawful_required _ (lawful_trimmed 1 120), lawful_required _ lawful_resolution, by simp⟩

theorem number_eq_some {admits : Number → Bool} {value read : Value}
    (accepted : number admits value = some read) :
    ∃ known, read = .num known ∧ admits known = true := by
  cases value with
  | num known =>
      rw [number] at accepted
      split at accepted
      next held => exact ⟨known, (Option.some.inj accepted).symm, held⟩
      next => cases accepted
  | null | bool | str | arr | obj => cases accepted

theorem plan_read {value plan : Value} (read : readAccountPlan platform value = .ok (some plan))
    (two : isTwo (member "version" plan) = true) :
    objectOf (planFieldsTwo platform) value = some plan := by
  have accepted : testAccountPlanSchema platform value = some plan := by
    unfold readAccountPlan at read
    split at read
    next => cases read
    next =>
      split at read
      next found =>
        cases read
        exact found
      next => cases read
  rw [testAccountPlanSchema] at accepted
  split at accepted
  next => exact accepted
  next =>
    obtain ⟨given, known, found, present⟩ := @required_member (planFields platform 1)
      (by
        have distinct : (["version", "revision", "requirements", "bindings", "requestedAt",
          "expiresAt"].map key).Nodup := by decide
        exact distinct) _ _ accepted "version" (number (· == .finite 1)) (by simp [planFields])
    obtain ⟨version, rfl, one⟩ := number_eq_some found
    obtain rfl := eq_of_beq one
    rw [present] at two
    simp [isTwo] at two

theorem Held.set {fields : List Field} (distinct : (fields.map Field.name).Nodup)
    {members : List (Text × Value)} (held : Held fields members) (field : Field) (value : Value)
    (member : field ∈ fields) (fits : field.shape value = some value) :
    Held fields (Parsing.setMember members (field.name, value)) :=
  held.setMember fun _ other same =>
    List.inj_on_of_nodup_map distinct other member same ▸ fits

theorem matching_str {pattern : Text → Bool} {text : Text} (held : pattern text = true) :
    string (matching pattern) (.str text) = some (.str text) := by
  simp [string, matching, held]

structure Renewal.Valid (platform : Platform) (renewal : Renewal) : Prop where
  revision : platform.isUuid renewal.revision = true
  requestedAt : platform.isDateTime renewal.requestedAt = true
  expiresAt : platform.isDateTime renewal.expiresAt = true

theorem renewed_held (standard : platform.Standard) {renewal : Renewal}
    (valid : renewal.Valid platform) (text : Text)
    {members : List (Text × Value)} (held : Held (planFieldsTwo platform) members) :
    Held (planFieldsTwo platform)
      ((renewal.members (platform.sha256 text)).foldl setMember members) := by
  have digest := held.set planFields_distinct
    (required "definitionHash" (string (matching isDigest))) (.str (platform.sha256 text))
    (by simp [planFieldsTwo]) (matching_str (standard.digest text))
  have revision := digest.set planFields_distinct
    (required "revision" (string (matching platform.isUuid))) (.str renewal.revision)
    (by simp [planFieldsTwo, planFields]) (matching_str valid.revision)
  have requested := revision.set planFields_distinct
    (required "requestedAt" (string (matching platform.isDateTime))) (.str renewal.requestedAt)
    (by simp [planFieldsTwo, planFields]) (matching_str valid.requestedAt)
  exact requested.set planFields_distinct
    (optional "expiresAt" (string (matching platform.isDateTime))) (.str renewal.expiresAt)
    (by simp [planFieldsTwo, planFields]) (matching_str valid.expiresAt)

theorem renewed_lookup (renewal : Renewal) (definitionHash : Text) (members : List (Text × Value))
    (name : Text) : ((renewal.members definitionHash).foldl setMember members).lookup name =
      if name = key "expiresAt" then some (.str renewal.expiresAt)
      else if name = key "requestedAt" then some (.str renewal.requestedAt)
      else if name = key "revision" then some (.str renewal.revision)
      else if name = key "definitionHash" then some (.str definitionHash)
      else members.lookup name := by
  simp only [Renewal.members, List.foldl_cons, List.foldl_nil, lookup_setMember]

structure Copied (references : SourceMap) (platform : Platform) (definitionHash : Text)
    (plan read : Value) : Prop where
  hash : textMember "definitionHash" read = definitionHash
  version : member "version" read = (member "version" plan).map (mapText (rename references))
  requirements : member "requirements" read =
    (member "requirements" plan).map (mapText (rename references))
  authRole : member "effectiveAuthRole" read =
    (member "effectiveAuthRole" plan).map (mapText (rename references))
  resolution : member "resolution" read =
    (member "resolution" plan).map (mapText (rename references))

theorem copied_plan (standard : platform.Standard) {renewal : Renewal}
    (valid : renewal.Valid platform) {text : Text}
    {plan : Value} (settled : objectOf (planFieldsTwo platform) plan = some plan)
    (two : isTwo (member "version" plan) = true) :
    ∃ read, readAccountPlan platform (.obj ((renewal.members (platform.sha256 text)).foldl
        setMember (membersOf (mapText (rename references) plan)))) = .ok (some read) ∧
      Copied references platform (platform.sha256 text) plan read := by
  obtain ⟨members, -, rfl, -, -⟩ := object_eq_some settled
  have follows := (@lawful_plan references platform standard).follows settled (Or.inr rfl)
  simp only [mapText, mapMembers_eq] at follows ⊢
  have held := renewed_held standard valid text (held_of_settled planFields_distinct follows)
  obtain ⟨known, accepted, looked⟩ := held.objectOf planFields_distinct
  have kept : ∀ name, key name ∉
      ["expiresAt", "requestedAt", "revision", "definitionHash"].map key →
      ((renewal.members (platform.sha256 text)).foldl setMember
        (members.map (Prod.map id (mapText (rename references))))).lookup (key name) =
        (members.lookup (key name)).map (mapText (rename references)) := by
    intro name other
    simp only [List.map_cons, List.map_nil, List.mem_cons, List.not_mem_nil, or_false,
      not_or] at other
    rw [renewed_lookup, if_neg other.1, if_neg other.2.1, if_neg other.2.2.1, if_neg other.2.2.2,
      lookup_map]
  have renewed : ∀ name, key name ∉
      ["expiresAt", "requestedAt", "revision", "definitionHash"].map key →
      key name ∈ (planFieldsTwo platform).map Field.name →
      known.lookup (key name) = (members.lookup (key name)).map (mapText (rename references)) := by
    intro name other inside
    obtain ⟨field, member, named⟩ := List.mem_map.mp inside
    rw [← named, looked field member, named, kept name other]
  have digest : known.lookup (key "definitionHash") = some (.str (platform.sha256 text)) := by
    have found := looked (required "definitionHash" (string (matching isDigest)))
      (by simp [planFieldsTwo])
    rw [renewed_lookup] at found
    simpa only [required, if_neg (by decide : key "definitionHash" ≠ key "expiresAt"),
      if_neg (by decide : key "definitionHash" ≠ key "requestedAt"),
      if_neg (by decide : key "definitionHash" ≠ key "revision"), if_true] using found
  have version : isTwo (((renewal.members (platform.sha256 text)).foldl setMember
      (members.map (Prod.map id (mapText (rename references))))).lookup (key "version")) = true := by
    rw [kept "version" (by decide), isTwo_mapText]
    exact two
  refine ⟨.obj known, ?_, ?_⟩
  · simp only [readAccountPlan, testAccountPlanSchema, membersOf, member, version, if_true,
      accepted]
  · exact {
      hash := by simp only [textMember, member, digest]
      version := renewed "version" (by decide) (by simp [planFieldsTwo, planFields, required])
      requirements := renewed "requirements" (by decide)
        (by simp [planFieldsTwo, planFields, required])
      authRole := renewed "effectiveAuthRole" (by decide) (by simp [planFieldsTwo, required])
      resolution := renewed "resolution" (by decide) (by simp [planFieldsTwo, required]) }

end Plans

end Devproof.CaseRerun
