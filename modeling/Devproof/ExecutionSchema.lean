import Devproof.ExecutionState

/-!
What the schemas of the execution state accept, member by member.
-/

namespace Devproof

theorem Slot.required_parse {α : Type} (codec : Codec α) (value : α) :
    (Slot.required codec).parse value = codec.parse value := rfl

theorem Slot.optional_parse_eq_some {α : Type} {codec : Codec α} {value result : Option α} :
    (Slot.optional codec).parse value = some result ↔
      match value with
      | none => result = none
      | some inner => ∃ parsed, result = some parsed ∧ codec.parse inner = some parsed := by
  cases value with
  | none => simp [Slot.optional, eq_comm]
  | some inner =>
      simp only [Slot.optional, Option.map_eq_some_iff]
      exact exists_congr fun parsed => ⟨fun both => ⟨both.2.symm, both.1⟩,
        fun both => ⟨both.2, both.1.symm⟩⟩

theorem mapM_eq_some_iff {α β : Type} {parse : α → Option β} {items : List α} {results : List β} :
    items.mapM parse = some results ↔
      List.Forall₂ (fun item result => parse item = some result) items results := by
  constructor
  · exact mapM_forall₂
  · intro pairs
    induction pairs with
    | nil => rfl
    | cons head _ ih => simp [head, ih]

theorem Codec.list_parse_eq_some {α : Type} {codec : Codec α} {least most : Nat}
    {items results : List α} :
    (Codec.list codec least most).parse items = some results ↔
      (least ≤ items.length ∧ items.length ≤ most) ∧
        List.Forall₂ (fun item result => codec.parse item = some result) items results := by
  simp only [Codec.list, Option.ite_none_right_eq_some, mapM_eq_some_iff]

theorem trimmed_parse {limit : Nat} {value result : String} :
    (trimmed limit).parse value = some result ↔
      result = trim value ∧ 1 ≤ units result ∧ units result ≤ limit := by
  simp only [trimmed, Codec.string, trimmedText, Option.ite_none_right_eq_some,
    Option.some.injEq]
  constructor
  · rintro ⟨bounds, rfl⟩
    exact ⟨rfl, bounds⟩
  · rintro ⟨rfl, bounds⟩
    exact ⟨bounds, rfl⟩

theorem text_parse {value result : String} :
    text.parse value = some result ↔
      result = trim value ∧ 1 ≤ units result ∧ units result ≤ 500 := by
  rw [text, trimmed_parse]

theorem text_parse_ne {value result : String} (parsed : text.parse value = some result) :
    result ≠ "" := by
  intro empty
  have long := (text_parse.mp parsed).2.1
  simp [empty, units, unitsOf] at long

theorem ownershipSchema_parse (value : Ownership) : ownershipSchema.parse value = some value := rfl

theorem executionRecordSchema_parse {host : Host} {value result : ExecutionRecord} :
    (executionRecordSchema host).parse value = some result ↔
      (Slot.optional text).parse value.recordRef = some result.recordRef ∧
      text.parse value.id = some result.id ∧
      (Slot.optional text).parse value.type = some result.type ∧
      (Slot.optional text).parse value.displayType = some result.displayType ∧
      (Slot.optional (bounded 2000)).parse value.resourceUrl = some result.resourceUrl ∧
      (Slot.optional text).parse value.resourceName = some result.resourceName ∧
      (Slot.optional text).parse value.creationWriteKey = some result.creationWriteKey ∧
      (Slot.optional text).parse value.account = some result.account ∧
      (Codec.list text 0 20).parse value.accountAliases = some result.accountAliases ∧
      ownershipSchema.parse value.ownership = some result.ownership ∧
      (Slot.optional (bounded 2000)).parse value.initialState = some result.initialState ∧
      (Slot.optional (bounded 2000)).parse value.currentState = some result.currentState ∧
      (Slot.optional baselineObservationSchema).parse value.baselineObservation =
        some result.baselineObservation ∧
      (Slot.optional (uiBaselineSchema host)).parse value.uiBaseline = some result.uiBaseline ∧
      (Codec.list text 1 20).parse value.evidenceRefs = some result.evidenceRefs ∧
      (Slot.optional cleanupSchema).parse value.cleanup = some result.cleanup := by
  rw [executionRecordSchema, Codec.object_parse_eq_some fun _ => rfl]
  simp only [Fields.parse_cons_eq_some, Fields.parse_nil, and_true, Slot.required_parse]
  exact Iff.rfl

theorem bounded_parse {limit : Nat} {value result : String} :
    (bounded limit).parse value = some result ↔ result = value ∧ units value ≤ limit := by
  simp only [bounded, Codec.checked, Codec.string, decide_eq_true_eq,
    Option.ite_none_right_eq_some, Option.some.injEq]
  exact ⟨fun both => ⟨both.2.symm, both.1⟩, fun both => ⟨both.2, both.1.symm⟩⟩

theorem readReceiptSchema_parse {value result : ReadReceipt} :
    readReceiptSchema.parse value = some result ↔
      text.parse value.key = some result.key ∧
      (bounded 2000).parse value.url = some result.url ∧
      anyInteger.parse value.sequence = some result.sequence ∧
      (Slot.optional anyString).parse value.timestamp = some result.timestamp ∧
      Codec.boolean.parse value.empty = some result.empty ∧
      Codec.boolean.parse value.complete = some result.complete ∧
      (Codec.list (bounded 3000) 0 100).parse value.recordKeys = some result.recordKeys ∧
      (Codec.list namedResourceSchema 0 100).parse value.namedResources =
        some result.namedResources ∧
      Codec.boolean.parse value.identitiesComplete = some result.identitiesComplete ∧
      (Codec.list identitySchema 0 100).parse value.identities = some result.identities ∧
      (stringRecord 3000 2000).parse value.recordStates = some result.recordStates ∧
      (Codec.list text 0 20).parse value.evidenceRefs = some result.evidenceRefs := by
  rw [readReceiptSchema, Codec.object_parse_eq_some fun _ => rfl]
  simp only [Fields.parse_cons_eq_some, Fields.parse_nil, and_true, Slot.required_parse]
  exact Iff.rfl

theorem executionStateSchema_parse {host : Host} {value result : ExecutionState} :
    (executionStateSchema host).parse value = some result ↔
      (Codec.list text 0 2000).parse value.requestOrder = some result.requestOrder ∧
      Codec.boolean.parse value.requestOrderTruncated = some result.requestOrderTruncated ∧
      (Codec.list readReceiptSchema 0 200).parse value.readReceipts = some result.readReceipts ∧
      (Codec.list cleanupConfirmationSchema 0 50).parse value.cleanupConfirmations =
        some result.cleanupConfirmations ∧
      (Slot.optional (testAccountBindingsSchema host)).parse value.accounts =
        some result.accounts ∧
      nonnegative.parse value.accountRevision = some result.accountRevision ∧
      phaseSchema.parse value.phase = some result.phase ∧
      (bounded 1000).parse value.step = some result.step ∧
      (Slot.optional (businessTestAccountSchema host)).parse value.account = some result.account ∧
      (Codec.list (bounded 3000) 0 100).parse value.preflightAbsences =
        some result.preflightAbsences ∧
      (Codec.list (bounded 3000) 0 200).parse value.existingRecordKeys =
        some result.existingRecordKeys ∧
      (Codec.list (businessTestAccountSchema host) 0 20).parse value.accountAliases =
        some result.accountAliases ∧
      (Codec.list (executionRecordSchema host) 0 50).parse value.records = some result.records ∧
      (Codec.list (executionRecordSchema host) 0 100).parse value.observedRecords =
        some result.observedRecords ∧
      (Codec.list pendingRecordSchema 0 50).parse value.pendingRecords =
        some result.pendingRecords ∧
      Codec.boolean.parse value.writeHistoryTruncated = some result.writeHistoryTruncated ∧
      (Slot.optional cleanupReviewSchema).parse value.cleanupReview = some result.cleanupReview ∧
      (Codec.list writeSchema 0 200).parse value.writes = some result.writes := by
  rw [executionStateSchema, Codec.object_parse_eq_some fun _ => rfl]
  simp only [Fields.parse_cons_eq_some, Fields.parse_nil, and_true]
  constructor
  · rintro ⟨h1, h2, h3, h4, h5, h6, -, rest⟩
    exact ⟨h1, h2, h3, h4, h5, h6, rest⟩
  · rintro ⟨h1, h2, h3, h4, h5, h6, rest⟩
    exact ⟨h1, h2, h3, h4, h5, h6, rfl, rest⟩

end Devproof
