import Devproof.Journal.Keys
import Devproof.Resources.Collapse

/-!
What the key of a record tells apart (`executionRecordKey`): it joins a collapsed
resource, a type and an id with the character that may occur in all of them.
-/

namespace Devproof

section Joined

variable {Item : Type} {separator : Item}

/-- The last separator is found again, where nothing after it is one. -/
theorem join_last_inj {front front' back back' : List Item} (plain : separator ∉ back)
    (plain' : separator ∉ back')
    (same : front ++ separator :: back = front' ++ separator :: back') :
    front = front' ∧ back = back' := by
  rcases List.append_eq_append_iff.mp same with ⟨between, here, there⟩ | ⟨between, here, there⟩
  · cases between with
    | nil => exact ⟨by simpa using here.symm, by simpa using there⟩
    | cons first rest =>
        rw [List.cons_append, List.cons.injEq] at there
        exact absurd (by simp [there.2]) plain
  · cases between with
    | nil => exact ⟨by simpa using here, by simpa using there.symm⟩
    | cons first rest =>
        rw [List.cons_append, List.cons.injEq] at there
        exact absurd (by simp [there.2]) plain'

theorem join_pair_iff [DecidableEq Item] (left right : List Item) :
    (∀ left' right', left' ++ separator :: right' = left ++ separator :: right →
        left' = left ∧ right' = right) ↔ separator ∉ left ∧ separator ∉ right := by
  constructor
  · intro unique
    constructor
    · intro member
      obtain ⟨before, after, rfl⟩ := List.append_of_mem member
      obtain ⟨short, -⟩ := unique before (after ++ separator :: right) (by simp)
      have sizes := congrArg List.length short
      simp at sizes
    · intro member
      obtain ⟨before, after, rfl⟩ := List.append_of_mem member
      obtain ⟨long, -⟩ := unique (left ++ separator :: before) after (by simp)
      have sizes := congrArg List.length long
      simp at sizes
  · rintro ⟨plain, plain'⟩ left' right' same
    have counts := congrArg (List.count separator) same
    simp only [List.count_append, List.count_cons_self, List.count_eq_zero.mpr plain,
      List.count_eq_zero.mpr plain'] at counts
    have none : separator ∉ right' := List.count_eq_zero.mp (by omega)
    exact join_last_inj none plain' same

end Joined

structure RecordTriple where
  resource : String
  type : String
  id : String
  deriving Repr, DecidableEq

namespace RecordTriple

def key (triple : RecordTriple) : String :=
  triple.resource ++ ":" ++ triple.type ++ ":" ++ triple.id

def Plain (triple : RecordTriple) : Prop :=
  ':' ∉ triple.type.toList ∧ ':' ∉ triple.id.toList

instance (triple : RecordTriple) : Decidable triple.Plain :=
  inferInstanceAs (Decidable (_ ∧ _))

theorem key_toList (triple : RecordTriple) :
    triple.key.toList =
      triple.resource.toList ++ ':' :: (triple.type.toList ++ ':' :: triple.id.toList) := by
  simp [key]

theorem key_unique_iff (triple : RecordTriple) :
    (∀ other : RecordTriple, other.resource = triple.resource → other.key = triple.key →
      other = triple) ↔ triple.Plain := by
  rw [Plain, ← join_pair_iff]
  constructor
  · intro unique type id same
    have again := unique ⟨triple.resource, String.ofList type, String.ofList id⟩ rfl
      (String.toList_injective (by
        rw [key_toList, key_toList, String.toList_ofList, String.toList_ofList, same]))
    exact ⟨by rw [← again, String.toList_ofList], by rw [← again, String.toList_ofList]⟩
  · intro unique other sameResource sameKey
    obtain ⟨resource, type, id⟩ := other
    dsimp only at sameResource
    subst sameResource
    have chars := congrArg String.toList sameKey
    rw [key_toList, key_toList, List.append_cancel_left_eq, List.cons.injEq] at chars
    obtain ⟨types, ids⟩ := unique _ _ chars.2
    exact (mk.injEq ..).mpr ⟨rfl, String.toList_injective types, String.toList_injective ids⟩

/-- Plain triples have different keys unless they are the same. -/
theorem key_inj {left right : RecordTriple} (plain : left.Plain) (plain' : right.Plain) :
    left.key = right.key ↔ left = right := by
  constructor
  · intro same
    have chars := congrArg String.toList same
    rw [key_toList, key_toList, ← List.cons_append, ← List.append_assoc, ← List.cons_append,
      ← List.append_assoc] at chars
    obtain ⟨fronts, ids⟩ := join_last_inj plain.2 plain'.2 chars
    obtain ⟨resources, types⟩ := join_last_inj plain.1 plain'.1 fronts
    obtain ⟨resource, type, id⟩ := left
    rw [mk.injEq]
    exact ⟨String.toList_injective resources, String.toList_injective types,
      String.toList_injective ids⟩
  · intro same
    rw [same]

end RecordTriple

section Host

variable (host : Host)

def collapsedResource : Option String → String
  | some url => if url = "" then "" else executionResourceUrl host url
  | none => ""

def ExecutionRecord.triple (record : ExecutionRecord) : RecordTriple where
  resource := record.resourceUrl.getD ""
  type := record.type.getD ""
  id := record.id

/-- The stored URL was collapsed when the record was made; its key collapses it again, which
drops one more id from a nested path. -/
def ExecutionRecord.keyTriple (record : ExecutionRecord) : RecordTriple :=
  { record.triple with resource := collapsedResource host record.resourceUrl }

def ExecutionRecord.Settled (record : ExecutionRecord) : Prop :=
  collapsedResource host record.resourceUrl = record.resourceUrl.getD ""

instance (record : ExecutionRecord) : Decidable (record.Settled host) :=
  inferInstanceAs (Decidable (_ = _))

theorem keyTriple_settled {record : ExecutionRecord} (settled : record.Settled host) :
    record.keyTriple host = record.triple := by
  unfold ExecutionRecord.keyTriple
  rw [settled]
  rfl

def rowTriple (row : Members) (url : String) : RecordTriple where
  resource := collapsedResource host (some url)
  type := rowType host row
  id := rowId host row

theorem record_key_eq (record : ExecutionRecord) :
    record.key host = (record.keyTriple host).key := by
  rfl

theorem rowKey_eq (row : Members) (url : String) :
    rowKey host row url = (rowTriple host row url).key := by
  rfl

theorem showCurrentState_other {key : String} {row : Members} {existing record : ExecutionRecord}
    {state : ExecutionState} {place : Nat} (here : state.records[place]? = some record)
    (other : record.key host ≠ key) :
    (showCurrentState host key row existing state).records[place]? = some record := by
  unfold showCurrentState
  split
  · exact here
  · rcases replaceFirst_getElem? here with kept | ⟨found, -⟩
    · exact kept
    · have matched : record.key host = key := by simpa using List.find?_some found
      exact absurd matched other

theorem observeRow_other {traffic : Traffic} {request : Request} {requestKey url : String}
    {sequence : Int} {found : List Members} {state : ExecutionState} {row : Members}
    {place : Nat} {record : ExecutionRecord} (here : state.records[place]? = some record)
    (other : record.key host ≠ rowKey host row url) :
    (observeRow host traffic request requestKey url sequence found state row).records[place]? =
      some record := by
  unfold observeRow
  split
  · exact here
  · dsimp only
    split
    · exact showCurrentState_other host here other
    · have based : ∀ known : ExecutionState, known.records[place]? = some record →
          (if offersBaseline host request sequence row known = true then
            observeBaseline host (rowBaseline host traffic request requestKey url sequence row)
              (rowKey host row url) known
          else known).records[place]? = some record := by
        intro known kept
        split
        · rcases observeBaseline_frame host _ _ known with same | same
          · rw [same]
            exact kept
          · rw [same]
            exact kept
        · exact kept
      have kept := based (extendAliases (rowAliases host row) state) here
      generalize (if offersBaseline host request sequence row
          (extendAliases (rowAliases host row) state) = true then
        observeBaseline host (rowBaseline host traffic request requestKey url sequence row)
          (rowKey host row url) (extendAliases (rowAliases host row) state)
        else extendAliases (rowAliases host row) state) = observed at kept ⊢
      split
      · exact kept
      · split
        · obtain ⟨waiting, same⟩ := storePending_frame host (rowPending host traffic url row)
            (rowKey host row url) observed
          rw [same]
          exact kept
        · obtain ⟨keys, same⟩ := addExistingKey_frame (rowKey host row url) observed
          rw [same]
          exact kept

theorem observeRows_other {traffic : Traffic} {request : Request} {requestKey url : String}
    {sequence : Int} {found rows : List Members} {state : ExecutionState} {place : Nat}
    {record : ExecutionRecord} (here : state.records[place]? = some record)
    (others : ∀ row ∈ rows, record.key host ≠ rowKey host row url) :
    (rows.foldl (observeRow host traffic request requestKey url sequence found)
      state).records[place]? = some record :=
  foldl_invariant (fun current : ExecutionState => current.records[place]? = some record) here
    fun _ row member kept => observeRow_other host kept (others row member)

/-- The delta finds another record, or is refused as it would change the identity of this one. -/
def concernsOther (record : ExecutionRecord) (change : RecordDelta) : Bool :=
  !addresses host change record || changesIdentity change record

theorem mergeChanges_other {changes : List RecordDelta} {merging : Merging}
    {record : ExecutionRecord} {place : Nat} (here : merging.merged[place]? = some record)
    (others : ∀ change ∈ changes, concernsOther host record change = true)
    (quiet : (mergeChanges host changes merging).thrown = none) :
    (mergeChanges host changes merging).state.merged[place]? = some record := by
  induction changes generalizing merging with
  | nil => exact here
  | cons change rest ih =>
      obtain ⟨accepted, later, same⟩ := Outcome.andThen_thrown_none quiet
      obtain ⟨next, found, outcome⟩ := mergeChange_entry host accepted here
      simp only [mergeChanges]
      rw [same]
      refine ih ?_ (fun other member => others other (List.mem_cons_of_mem _ member)) later
      rcases outcome with kept | addressed
      · rw [found, kept]
      · obtain ⟨overlaid⟩ := addressed
        have other := others change (List.mem_cons_self ..)
        simp [concernsOther, overlaid.addressed, overlaid.same] at other

theorem progress_other {next : Members} {journal : Journal} {place : Nat}
    {record : ExecutionRecord} (here : journal.state.records[place]? = some record)
    (stable : (executionRecordSchema host).parse record = some record)
    (others : ∀ change ∈ recordDeltas next, concernsOther host record change = true) :
    (progress host next journal).state.state.records[place]? = some record := by
  have within := (List.getElem?_eq_some_iff.mp here).1
  cases threw : (progress host next journal).thrown with
  | some failure =>
      rw [progress_rejected host threw, Journal.withRecords, List.getElem?_append_left within]
      exact here
  | none =>
      obtain ⟨accepted⟩ := progress_accepted host threw
      have deltas : accepted.delta.records.getD [] = recordDeltas next := by
        rw [recordDeltas, accepted.reads]
        rfl
      have merges := accepted.merges
      rw [deltas] at merges
      let start : Merging := { journal, merged := journal.state.records }
      have placed : start.merged[place]? = some record := here
      have kept := mergeChanges_other host placed others (by rw [merges]; rfl)
      rw [merges] at kept
      obtain ⟨later, found, parses⟩ := forall₂_place accepted.records_parse kept
      rw [stable, Option.some.injEq] at parses
      rw [accepted.becomes, parses]
      exact found

end Host

/-! A row that is created, and a report of another row. -/

def otherRow : Members := [("id", .str "8"), ("type", .str "M"), ("config", .bool false)]

def otherReport : Members :=
  [("records", .arr [.obj [("id", .str "8"), ("type", .str "M"), ("resourceUrl", .str itemUrl),
    ("account", .str "a"), ("ownership", .str "EXISTING"), ("evidenceRefs", .arr [.str "l"])]])]

theorem created_row_facts :
    (progress itemHost otherReport (run itemHost createdCalls (restore itemHost []))).thrown = none ∧
      ((run itemHost createdCalls (restore itemHost [])).state.records[0]?.any fun record =>
        decide (record.triple.Plain ∧ (rowTriple itemHost otherRow itemUrl).Plain ∧
          rowTriple itemHost otherRow itemUrl ≠ record.triple ∧ record.Settled itemHost ∧
          (executionRecordSchema itemHost).parse record = some record ∧
          ∀ change ∈ recordDeltas otherReport, concernsOther itemHost record change = true)) =
            true := by
  decide +kernel

def dailyRecord : ExecutionRecord where
  id := "7"
  type := some "export:daily"
  resourceUrl := some "https://x/orders"
  ownership := .existing
  currentState := some "on"
  evidenceRefs := []

def exportRow : Members :=
  [("id", .str "daily:7"), ("type", .str "export"), ("config", .str "off")]

end Devproof
