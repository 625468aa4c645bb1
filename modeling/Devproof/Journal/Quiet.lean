import Devproof.Journal.Edits

/-!
Requests that do not throw: `new URL` is only asked for the list a request has
to decide and for the reads a creation is compared with.
-/

namespace Devproof

section Host

variable (host : Host)

/-! URLs that parse never make a list throw. -/

theorem completeRows_isSome {url : String} (parses : (host.parseUrl url).isSome = true)
    (members : Members) (rows : List Json) : (completeRows host url members rows).isSome = true := by
  obtain ⟨parsed, found⟩ := Option.isSome_iff_exists.mp parses
  unfold completeRows
  split
  · rfl
  · split
    · rfl
    · simp [found]

mutual
theorem completeListJson_isSome {url : String} (parses : (host.parseUrl url).isSome = true) :
    ∀ json, (completeListJson host url json).isSome = true
  | .arr rows => by
      rw [completeListJson]
      exact completeRows_isSome host parses [] rows
  | .obj members => by
      rw [completeListJson]
      split
      · exact completeRows_isSome host parses members _
      · rfl
      · split
        · exact completeMember_isSome parses "result" members
        · exact completeMember_isSome parses "data" members
  | .null => rfl
  | .bool _ => rfl
  | .num _ => rfl
  | .str _ => rfl

theorem completeMember_isSome {url : String} (parses : (host.parseUrl url).isSome = true)
    (name : String) : ∀ members, (completeMember host url name members).isSome = true
  | [] => rfl
  | (key, child) :: rest => by
      rw [completeMember]
      split
      · exact completeListJson_isSome parses child
      · exact completeMember_isSome parses name rest
end

theorem completeList_isSome {url : String} (parses : (host.parseUrl url).isSome = true)
    (body : Option Json) : (completeList host body url).isSome = true := by
  cases body with
  | none => rfl
  | some json => exact completeListJson_isSome host parses json

def decidesList (request : Request) : Bool :=
  request.methodText host != "GET" || !request.completeBody || !request.succeeded host ||
    (completeList host (request.body host) (request.urlText host)).isSome

theorem decidesList_of_absolute {request : Request}
    (parses : (host.parseUrl (request.urlText host)).isSome = true) :
    decidesList host request = true := by
  simp [decidesList, completeList_isSome host parses]

theorem scopedReadBefore_isSome {write : Write} {sequence : Int} {type account : String}
    {reads : List ReadReceipt}
    (parse : ∀ read ∈ reads, (host.parseUrl read.url).isSome = true) :
    (scopedReadBefore host write sequence type account reads).isSome = true := by
  induction reads with
  | nil => rfl
  | cons first rest ih =>
      have later := ih fun read member => parse read (List.mem_cons_of_mem _ member)
      obtain ⟨parsed, found⟩ := Option.isSome_iff_exists.mp (parse first (List.mem_cons_self ..))
      simp only [scopedReadBefore, found]
      split
      · exact later
      · split
        · rfl
        · exact later

theorem inferCreationAbsence_isSome {write : Write} {state : ExecutionState}
    (reads : ∀ read ∈ state.readReceipts, (host.parseUrl read.url).isSome = true) :
    (inferCreationAbsence host write state).isSome = true := by
  unfold inferCreationAbsence
  simp only
  split
  · rename_i sequence account type _ _ _
    split
    · rfl
    · have scanned : (scopedReadBefore host write sequence type account
          (sortDescending ReadReceipt.sequence state.readReceipts)).isSome = true :=
        scopedReadBefore_isSome host fun read member => reads read ((mem_sortDescending _ _ _).mp member)
      split
      · rename_i threw
        simp [threw] at scanned
      · rfl
      · split <;> rfl
  · rfl

theorem recordWrite_quiet {receipt : Write} {state : ExecutionState}
    (reads : ∀ read ∈ state.readReceipts, (host.parseUrl read.url).isSome = true) :
    (recordWrite host receipt state).thrown = none := by
  have inferred : (inferCreationAbsence host (storeWrite receipt state).write
      (storeWrite receipt state).state).isSome = true :=
    inferCreationAbsence_isSome host (by rw [storeWrite_reads]; exact reads)
  unfold recordWrite
  simp only
  split
  · rename_i threw
    simp [threw] at inferred
  · rfl

theorem observeWrite_quiet {traffic : Traffic} {label : Option Json → Option String}
    {request : Request} {key url : String} {sequence : Int} {state : ExecutionState}
    (reads : ∀ read ∈ state.readReceipts, (host.parseUrl read.url).isSome = true) :
    (observeWrite host traffic label request key url sequence state).thrown = none := by
  unfold observeWrite
  split
  · rfl
  · split
    · rfl
    · exact recordWrite_quiet host reads

theorem observeResponse_quiet {traffic : Traffic} {request : Request} {key : String}
    {sequence : Int} {state : ExecutionState} (decides : decidesList host request = true) :
    (observeResponse host traffic request key (request.urlText host) sequence state).thrown =
      none := by
  unfold observeResponse
  split
  · rfl
  · rename_i accepted
    simp only [Bool.or_eq_true, not_or, Bool.not_eq_true', Bool.not_eq_false] at accepted
    have read : (recordRead host traffic request key (request.urlText host) sequence
        state).thrown = none := by
      unfold recordRead
      split
      · rename_i asked
        split
        · rename_i missing
          simp [decidesList, asked.1, accepted.1, accepted.2, missing] at decides
        · rfl
      · rfl
    simp only [Outcome.andThen, read, Outcome.done_thrown]

theorem exactAbsence_reads (traffic : Traffic) (url : String) (state : ExecutionState) :
    (exactAbsence host traffic url state).readReceipts = state.readReceipts := by
  unfold exactAbsence
  split
  · rfl
  · split <;> rfl

theorem noteRequest_reads (key : String) (state : ExecutionState) :
    (noteRequest key state).readReceipts = state.readReceipts := by
  unfold noteRequest
  split
  · rfl
  · split <;> rfl

theorem observeRequest_quiet {traffic : Traffic} {label : Option Json → Option String}
    {request : Request} {state : ExecutionState}
    (reads : ∀ read ∈ state.readReceipts, (host.parseUrl read.url).isSome = true)
    (decides : request.urlText host = "" ∨ decidesList host request = true) :
    (observeRequest host traffic label request state).thrown = none := by
  unfold observeRequest
  simp only
  split
  · rfl
  · rename_i present
    have lists := decides.resolve_left present
    have decided : (isEmptyRead host request (request.urlText host)).isSome = true := by
      unfold isEmptyRead
      split
      · rename_i asked
        simpa [decidesList, asked.1, asked.2.1, asked.2.2.1] using lists
      · rfl
    split
    · rename_i threw
      simp [threw] at decided
    · rename_i empty _
      have written : (observeWrite host traffic label request (request.key host traffic)
          (request.urlText host)
          (indexOf (noteRequest (request.key host traffic) state).requestOrder
            (request.key host traffic))
          (if empty = true then exactAbsence host traffic (request.urlText host)
              (noteRequest (request.key host traffic) state)
            else noteRequest (request.key host traffic) state)).thrown = none := by
        apply observeWrite_quiet
        split
        · rw [exactAbsence_reads, noteRequest_reads]
          exact reads
        · rw [noteRequest_reads]
          exact reads
      simp only [Outcome.andThen, written]
      exact observeResponse_quiet host lists

end Host

end Devproof
