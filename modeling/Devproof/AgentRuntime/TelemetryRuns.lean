import Devproof.AgentRuntime.TelemetrySpool

/-!
What every run of the spool keeps: the settlement of a model call is stored or taken unless it
grew old, was reported as unavailable, or its process ended before it was stored.
-/

namespace Devproof

namespace TelemetrySpool

variable {Process Body : Type} {spool next : Spool Process Body}

def Repeated (settled : List (Settlement Body)) (call : Nat) (input : Settlement Body) : Prop :=
  ∃ other again, other ≠ call ∧ settled[other]? = some again ∧
    again.modelCallId = input.modelCallId

theorem repeated_or_same {settled : List (Settlement Body)} {call : Nat}
    {input other : Settlement Body} (made : settled[call]? = some input) (member : other ∈ settled)
    (same : other.modelCallId = input.modelCallId) :
    Repeated settled call input ∨ other = input := by
  obtain ⟨place, found⟩ := List.mem_iff_getElem?.mp member
  by_cases here : place = call
  · rw [here, made] at found
    exact .inr (Option.some.inj found).symm
  · exact .inl ⟨place, other, here, found, same⟩

inductive Accounted (spool : Spool Process Body) (call : Nat) (input : Settlement Body) : Prop
  | underWay (running : (spool.calls call).isSome = true)
  | stored (file : spool.files.lookup (.settled input.modelCallId) = some (some input))
  | sent (taken : input ∈ spool.sent)
  | expired (old : input ∈ spool.expired)
  | unavailable (reported : call ∈ spool.unavailable)
  | interrupted (ended : spool.interrupted call = true)
  | repeated (again : Repeated spool.settled call input)

structure Holds (spool : Spool Process Body) (flush : Flush Body) (input : Settlement Body)
    (handling : Handling) : Prop where
  made : input ∈ spool.settled
  named : flush.names.head? = some input.modelCallId
  taken : handling = .unlinking → input ∈ spool.sent
  old : handling = .expiring → REPLAY_WINDOW_MS < spool.now - input.startedAt

structure Lawful (spool : Spool Process Body) : Prop where
  files : ∀ name input, spool.files.lookup (.settled name) = some (some input) →
    input ∈ spool.settled ∧ input.modelCallId = name
  drafts : ∀ name input, spool.files.lookup (.temporary name) = some (some input) →
    input ∈ spool.settled ∧ input.modelCallId = name
  drafted : ∀ call process input, spool.calls call = some (process, .renaming) →
    spool.settled[call]? = some input →
    spool.files.lookup (.temporary input.modelCallId) = some (some input) ∨
      Repeated spool.settled call input
  held : ∀ process flush input handling, spool.flushes process = some flush →
    flush.held = some (input, handling) → Holds spool flush input handling
  sent : ∀ input ∈ spool.sent, input ∈ spool.settled
  expired : ∀ input ∈ spool.expired, input ∈ spool.settled ∧
    REPLAY_WINDOW_MS < spool.now - input.startedAt
  accounted : ∀ call input, spool.settled[call]? = some input → Accounted spool call input

/-- A settlement stays where it is, unless its call or its file goes on. -/
theorem Accounted.keep {call : Nat} {input : Settlement Body}
    (accounted : Accounted spool call input)
    (underWay : (spool.calls call).isSome = true → Accounted next call input)
    (stored : spool.files.lookup (.settled input.modelCallId) = some (some input) →
      Accounted next call input)
    (sent : spool.sent ⊆ next.sent) (expired : spool.expired ⊆ next.expired)
    (unavailable : spool.unavailable ⊆ next.unavailable)
    (interrupted : spool.interrupted call = true → next.interrupted call = true)
    (settled : next.settled = spool.settled) : Accounted next call input := by
  cases accounted with
  | underWay running => exact underWay running
  | stored file => exact stored file
  | sent taken => exact .sent (sent taken)
  | expired old => exact .expired (expired old)
  | unavailable reported => exact .unavailable (unavailable reported)
  | interrupted ended => exact .interrupted (interrupted ended)
  | repeated again => exact .repeated (settled ▸ again)

theorem Holds.keep {flush : Flush Body} {input : Settlement Body} {handling : Handling}
    (holds : Holds spool flush input handling) (settled : spool.settled ⊆ next.settled)
    (sent : spool.sent ⊆ next.sent) (now : spool.now ≤ next.now) :
    Holds next flush input handling where
  made := settled holds.made
  named := holds.named
  taken unlinking := sent (holds.taken unlinking)
  old expiring := by
    have old := holds.old expiring
    omega

theorem Holds.still {flush : Flush Body} {input : Settlement Body} {handling : Handling}
    (holds : Holds spool flush input handling) (settled : next.settled = spool.settled)
    (sent : next.sent = spool.sent) (now : next.now = spool.now) :
    Holds next flush input handling :=
  holds.keep (by rw [settled]; exact List.Subset.refl _) (by rw [sent]; exact List.Subset.refl _)
    (Int.le_of_eq now.symm)

/-- The calls and the files stay as they are. -/
theorem Lawful.still (lawful : Lawful spool) (files : next.files = spool.files)
    (settled : next.settled = spool.settled) (calls : next.calls = spool.calls)
    (interrupted : next.interrupted = spool.interrupted) (taken : spool.sent ⊆ next.sent)
    (old : spool.expired ⊆ next.expired) (reported : spool.unavailable ⊆ next.unavailable)
    (held : ∀ process flush input handling, next.flushes process = some flush →
      flush.held = some (input, handling) → Holds next flush input handling)
    (sent : ∀ input ∈ next.sent, input ∈ spool.settled)
    (expired : ∀ input ∈ next.expired, input ∈ spool.settled ∧
      REPLAY_WINDOW_MS < next.now - input.startedAt) : Lawful next where
  files := by
    rw [files, settled]
    exact lawful.files
  drafts := by
    rw [files, settled]
    exact lawful.drafts
  drafted := by
    rw [files, settled, calls]
    exact lawful.drafted
  held := held
  sent := by
    rw [settled]
    exact sent
  expired := by
    rw [settled]
    exact expired
  accounted call input made := by
    rw [settled] at made
    exact (lawful.accounted call input made).keep
      (fun running => .underWay (by rw [calls]; exact running))
      (fun file => .stored (by rw [files]; exact file)) taken old reported
      (fun ended => by rw [interrupted]; exact ended) settled

theorem Lawful.elapse (lawful : Lawful spool) (span : Nat) :
    Lawful { spool with now := spool.now + span } := by
  refine lawful.still rfl rfl rfl rfl (List.Subset.refl _) (List.Subset.refl _)
    (List.Subset.refl _) (fun process flush input handling running holding => ?_) lawful.sent
    fun input listed => ?_
  · exact (lawful.held process flush input handling running holding).keep (List.Subset.refl _)
      (List.Subset.refl _) (Int.le_add_of_nonneg_right (Int.natCast_nonneg span))
  · have old := lawful.expired input listed
    refine ⟨old.1, ?_⟩
    simp only
    omega

theorem Repeated.more {settled : List (Settlement Body)} {call : Nat} {input : Settlement Body}
    (repeated : Repeated settled call input) (new : Settlement Body) :
    Repeated (settled ++ [new]) call input := by
  obtain ⟨other, again, apart, made, same⟩ := repeated
  have within := (List.getElem?_eq_some_iff.mp made).1
  exact ⟨other, again, apart, by rw [List.getElem?_append_left within]; exact made, same⟩

theorem Lawful.settle (lawful : Lawful spool) (process : Process) (new : Settlement Body) :
    Lawful (spool.settle process new) where
  files name input stored := (lawful.files name input stored).imp (List.mem_append_left _) id
  drafts name input stored := (lawful.drafts name input stored).imp (List.mem_append_left _) id
  drafted call owner input running made := by
    simp only [Spool.settle] at running made
    by_cases last : call = spool.settled.length
    · rw [last, Function.update_self] at running
      cases running
    · rw [Function.update_of_ne last] at running
      have within : call < spool.settled.length := by
        have bound := (List.getElem?_eq_some_iff.mp made).1
        rw [List.length_append, List.length_singleton] at bound
        omega
      rw [List.getElem?_append_left within] at made
      exact (lawful.drafted call owner input running made).imp_right fun again => again.more new
  held owner flush input handling running holding :=
    (lawful.held owner flush input handling running holding).keep
      (List.subset_append_left _ _) (List.Subset.refl _) (Int.le_refl _)
  sent input taken := List.mem_append_left _ (lawful.sent input taken)
  expired input old := (lawful.expired input old).imp (List.mem_append_left _) id
  accounted call input made := by
    by_cases last : call = spool.settled.length
    · exact .underWay (by simp [Spool.settle, last])
    · have within : call < spool.settled.length := by
        have bound := (List.getElem?_eq_some_iff.mp made).1
        simp only [Spool.settle, List.length_append, List.length_singleton] at bound
        omega
      simp only [Spool.settle, List.getElem?_append_left within] at made
      cases lawful.accounted call input made with
      | underWay running =>
          refine .underWay ?_
          simp only [Spool.settle, Function.update_of_ne last]
          exact running
      | stored file => exact .stored file
      | sent taken => exact .sent taken
      | expired old => exact .expired old
      | unavailable reported => exact .unavailable reported
      | interrupted ended => exact .interrupted ended
      | repeated again => exact .repeated (again.more new)

theorem Lawful.goOn (lawful : Lawful spool) {call : Nat} {process : Process} {phase : Phase}
    (drafted : phase = .renaming → ∀ input, spool.settled[call]? = some input →
      spool.files.lookup (.temporary input.modelCallId) = some (some input)) :
    Lawful (spool.goOn call process phase) where
  files := lawful.files
  drafts := lawful.drafts
  drafted other owner input running made := by
    simp only [Spool.goOn] at running made
    by_cases same : other = call
    · rw [same, Function.update_self, Option.some.injEq, Prod.mk.injEq] at running
      exact .inl (drafted running.2 input (same ▸ made))
    · rw [Function.update_of_ne same] at running
      exact lawful.drafted other owner input running made
  held owner flush input handling running holding :=
    (lawful.held owner flush input handling running holding).still rfl rfl rfl
  sent := lawful.sent
  expired := lawful.expired
  accounted other input made := by
    refine (lawful.accounted other input made).keep (fun running => .underWay ?_)
      (fun file => .stored file) (List.Subset.refl _) (List.Subset.refl _) (List.Subset.refl _) id
      rfl
    by_cases same : other = call
    · simp [Spool.goOn, same]
    · simp only [Spool.goOn, Function.update_of_ne same]
      exact running

/-- A call drafts its file, whole or torn. -/
theorem Lawful.draft (lawful : Lawful spool) {call : Nat} {process : Process}
    (writing : spool.calls call = some (process, .writing)) {input : Settlement Body}
    (made : spool.settled[call]? = some input) {content : Option (Settlement Body)}
    (whole : ∀ written, content = some written → written = input) :
    Lawful { spool with files := spool.files.store (.temporary input.modelCallId) content } where
  files name other stored := by
    rw [lookup_store_other (by simp)] at stored
    exact lawful.files name other stored
  drafts name other stored := by
    by_cases same : name = input.modelCallId
    · rw [same, lookup_store, Option.some.injEq] at stored
      rw [whole other stored, same]
      exact ⟨List.mem_of_getElem? made, rfl⟩
    · rw [lookup_store_other (by simpa using same)] at stored
      exact lawful.drafts name other stored
  drafted other owner written running there := by
    have apart : call ≠ other := by
      rintro rfl
      rw [writing] at running
      cases running
    by_cases same : written.modelCallId = input.modelCallId
    · exact .inr ⟨call, input, apart, made, same.symm⟩
    · rw [lookup_store_other (by simpa using same)]
      exact lawful.drafted other owner written running there
  held owner flush input handling running holding :=
    (lawful.held owner flush input handling running holding).still rfl rfl rfl
  sent := lawful.sent
  expired := lawful.expired
  accounted other written there := by
    refine (lawful.accounted other written there).keep (fun running => .underWay running)
      (fun file => .stored ?_) (List.Subset.refl _) (List.Subset.refl _) (List.Subset.refl _) id rfl
    rw [lookup_store_other (by simp)]
    exact file

theorem Lawful.done (lawful : Lawful spool) {call : Nat}
    (fate : ∀ input, spool.settled[call]? = some input → Accounted (spool.done call) call input) :
    Lawful (spool.done call) where
  files := lawful.files
  drafts := lawful.drafts
  drafted other owner input running made := by
    simp only [Spool.done] at running
    by_cases same : other = call
    · rw [same, Function.update_self] at running
      cases running
    · rw [Function.update_of_ne same] at running
      exact lawful.drafted other owner input running made
  held owner flush input handling running holding :=
    (lawful.held owner flush input handling running holding).still rfl rfl rfl
  sent := lawful.sent
  expired := lawful.expired
  accounted other input made := by
    by_cases same : other = call
    · rw [same]
      exact fate input (same ▸ made)
    · refine (lawful.accounted other input made).keep (fun running => .underWay ?_)
        (fun file => .stored file) (List.Subset.refl _) (List.Subset.refl _) (List.Subset.refl _) id
        rfl
      simp only [Spool.done, Function.update_of_ne same]
      exact running

theorem Lawful.taken (lawful : Lawful spool) {input : Settlement Body}
    (made : input ∈ spool.settled) : Lawful { spool with sent := spool.sent ++ [input] } := by
  refine lawful.still rfl rfl rfl rfl (List.subset_append_left _ _) (List.Subset.refl _)
    (List.Subset.refl _) (fun owner flush other handling running holding => ?_)
    (fun other listed => ?_) lawful.expired
  · exact (lawful.held owner flush other handling running holding).keep (List.Subset.refl _)
      (List.subset_append_left _ _) (Int.le_refl _)
  · rcases List.mem_append.mp listed with before | new
    · exact lawful.sent other before
    · rw [List.mem_singleton.mp new]
      exact made

theorem Lawful.reported (lawful : Lawful spool) (call : Nat) :
    Lawful { spool with unavailable := spool.unavailable ++ [call] } :=
  lawful.still rfl rfl rfl rfl (List.Subset.refl _) (List.Subset.refl _)
    (List.subset_append_left _ _)
    (fun owner flush input handling running holding =>
      (lawful.held owner flush input handling running holding).still rfl rfl rfl)
    lawful.sent lawful.expired

/-- A call renames its draft and is over. -/
theorem Lawful.renamed (lawful : Lawful spool) {call : Nat} {process : Process}
    (drafting : spool.calls call = some (process, .renaming)) {input : Settlement Body}
    (made : spool.settled[call]? = some input) {content : Option (Settlement Body)}
    (draft : spool.files.lookup (.temporary input.modelCallId) = some content) :
    Lawful { spool.done call with
      files := (spool.files.unlink (.temporary input.modelCallId)).store
        (.settled input.modelCallId) content } where
  files name other stored := by
    by_cases same : name = input.modelCallId
    · rw [same, lookup_store, Option.some.injEq] at stored
      rw [same]
      exact lawful.drafts _ other (draft.trans (congrArg some stored))
    · rw [lookup_store_other (by simpa using same), lookup_unlink (by simp)] at stored
      exact lawful.files name other stored
  drafts name other stored := by
    rw [lookup_store_other (by simp)] at stored
    by_cases same : name = input.modelCallId
    · rw [same, lookup_unlink_self] at stored
      cases stored
    · rw [lookup_unlink (by simpa using same)] at stored
      exact lawful.drafts name other stored
  drafted other owner written running there := by
    simp only [Spool.done] at running there
    by_cases here : other = call
    · rw [here, Function.update_self] at running
      cases running
    · rw [Function.update_of_ne here] at running
      by_cases same : written.modelCallId = input.modelCallId
      · exact .inr ⟨call, input, Ne.symm here, made, same.symm⟩
      · rw [lookup_store_other (by simp), lookup_unlink (by simpa using same)]
        exact lawful.drafted other owner written running there
  held owner flush other handling running holding :=
    (lawful.held owner flush other handling running holding).still rfl rfl rfl
  sent := lawful.sent
  expired := lawful.expired
  accounted other written there := by
    simp only [Spool.done] at there
    by_cases here : other = call
    · subst here
      obtain rfl := Option.some.inj (made.symm.trans there)
      rcases lawful.drafted other process input drafting made with whole | again
      · refine .stored ?_
        rw [lookup_store]
        exact draft.symm.trans whole
      · exact .repeated again
    · refine (lawful.accounted other written there).keep (fun running => .underWay ?_)
        (fun file => ?_) (List.Subset.refl _) (List.Subset.refl _) (List.Subset.refl _) id rfl
      · simp only [Spool.done, Function.update_of_ne here]
        exact running
      · by_cases same : written.modelCallId = input.modelCallId
        · exact .repeated ⟨call, input, Ne.symm here, made, same.symm⟩
        · refine .stored ?_
          rw [lookup_store_other (by simpa using same), lookup_unlink (by simp)]
          exact file

theorem Lawful.unlinked (lawful : Lawful spool) {flush : Flush Body} {name : String}
    (named : flush.names.head? = some name) {input : Settlement Body} {handling : Handling}
    (holds : Holds spool flush input handling) (handled : handling ≠ .sending) :
    Lawful { spool with
      files := spool.files.unlink (.settled name)
      expired := if handling = .expiring then spool.expired ++ [input] else spool.expired } where
  files other written stored := by
    by_cases same : other = name
    · rw [same, lookup_unlink_self] at stored
      cases stored
    · rw [lookup_unlink (by simpa using same)] at stored
      exact lawful.files other written stored
  drafts other written stored := by
    rw [lookup_unlink (by simp)] at stored
    exact lawful.drafts other written stored
  drafted call owner written running made := by
    rw [lookup_unlink (by simp)]
    exact lawful.drafted call owner written running made
  held owner other written doing running holding :=
    (lawful.held owner other written doing running holding).still rfl rfl rfl
  sent := lawful.sent
  expired written listed := by
    split at listed
    next expiring =>
      rcases List.mem_append.mp listed with before | new
      · exact lawful.expired written before
      · rw [List.mem_singleton.mp new]
        exact ⟨holds.made, holds.old expiring⟩
    next => exact lawful.expired written listed
  accounted call written made := by
    have grows : spool.expired ⊆
        if handling = .expiring then spool.expired ++ [input] else spool.expired := by
      split
      · exact List.subset_append_left _ _
      · exact List.Subset.refl _
    refine (lawful.accounted call written made).keep (fun running => .underWay running)
      (fun file => ?_) (List.Subset.refl _) grows (List.Subset.refl _) id rfl
    by_cases same : written.modelCallId = name
    · -- The file may have been replaced since it was read, but only by one of the same call.
      have here : input.modelCallId = written.modelCallId :=
        (Option.some.inj (holds.named.symm.trans named)).trans same.symm
      rcases repeated_or_same made holds.made here with again | rfl
      · exact .repeated again
      · cases handling with
        | sending => exact absurd rfl handled
        | unlinking => exact .sent (holds.taken rfl)
        | expiring => exact .expired (List.mem_append_right _ (List.mem_singleton_self _))
    · refine .stored ?_
      rw [lookup_unlink (by simpa using same)]
      exact file

theorem Lawful.look (lawful : Lawful spool) (call : Nat) (succeeds : Bool) :
    Lawful (spool.look call succeeds) := by
  unfold Spool.look
  split
  · split
    · exact lawful.goOn nofun
    · exact lawful.goOn nofun
  · exact lawful

theorem Lawful.write (lawful : Lawful spool) (call : Nat) (succeeds torn : Bool) :
    Lawful (spool.write call succeeds torn) := by
  unfold Spool.write
  split
  next process input writing made =>
    simp only
    split
    · refine (lawful.draft writing made fun written same => (Option.some.inj same).symm).goOn
        fun _ other there => ?_
      rw [← Option.some.inj (made.symm.trans there)]
      exact lookup_store _ _ _
    · split
      · have cutOff : Lawful { spool with
            files := spool.files.store (.temporary input.modelCallId) none } :=
          lawful.draft writing made nofun
        exact cutOff.goOn nofun
      · exact lawful.goOn nofun
  next => exact lawful

theorem Lawful.rename (lawful : Lawful spool) (call : Nat) (succeeds : Bool) :
    Lawful (spool.rename call succeeds) := by
  unfold Spool.rename
  split
  next process input drafting made =>
    split
    next content draft => exact lawful.renamed drafting made draft
    next => exact lawful.goOn nofun
  next => exact lawful

theorem Lawful.send (lawful : Lawful spool) (call : Nat) (succeeds : Bool) :
    Lawful (spool.send call succeeds) := by
  unfold Spool.send
  split
  next process input sending made =>
    split
    · refine (lawful.taken (List.mem_of_getElem? made)).done fun other there => .sent ?_
      rw [← Option.some.inj (made.symm.trans there)]
      exact List.mem_append_right _ (List.mem_singleton_self _)
    · exact (lawful.reported call).done fun other there =>
        .unavailable (List.mem_append_right _ (List.mem_singleton_self _))
  next => exact lawful

variable [DecidableEq Process]

theorem Lawful.setFlush (lawful : Lawful spool) {process : Process} {flush : Flush Body}
    (fits : ∀ input handling, flush.held = some (input, handling) →
      Holds spool flush input handling) : Lawful (spool.setFlush process flush) := by
  refine lawful.still rfl rfl rfl rfl (List.Subset.refl _) (List.Subset.refl _)
    (List.Subset.refl _) (fun owner other input handling running holding => ?_) lawful.sent
    lawful.expired
  simp only [Spool.setFlush] at running
  by_cases same : owner = process
  · rw [same, Function.update_self, Option.some.injEq] at running
    subst running
    exact (fits input handling holding).still rfl rfl rfl
  · rw [Function.update_of_ne same] at running
    exact (lawful.held owner other input handling running holding).still rfl rfl rfl

theorem Lawful.ended (lawful : Lawful spool) (process : Process) :
    Lawful { spool with flushes := Function.update spool.flushes process none } := by
  refine lawful.still rfl rfl rfl rfl (List.Subset.refl _) (List.Subset.refl _)
    (List.Subset.refl _) (fun owner flush input handling running holding => ?_) lawful.sent
    lawful.expired
  simp only at running
  by_cases same : owner = process
  · rw [same, Function.update_self] at running
    cases running
  · rw [Function.update_of_ne same] at running
    exact (lawful.held owner flush input handling running holding).still rfl rfl rfl

theorem Lawful.crash (lawful : Lawful spool) (process : Process) :
    Lawful (spool.crash process) where
  files := lawful.files
  drafts := lawful.drafts
  drafted call owner input running made :=
    lawful.drafted call owner input (Option.filter_eq_some_iff.mp running).1 made
  held owner flush input handling running holding :=
    ((lawful.ended process).held owner flush input handling running holding).still rfl rfl rfl
  sent := lawful.sent
  expired := lawful.expired
  accounted call input made := by
    refine (lawful.accounted call input made).keep (fun running => ?_) (fun file => .stored file)
      (List.Subset.refl _) (List.Subset.refl _) (List.Subset.refl _) (fun ended => ?_) rfl
    · obtain ⟨owned, here⟩ := Option.isSome_iff_exists.mp running
      by_cases same : owned.1 = process
      · exact .interrupted (by simp [Spool.crash, here, same])
      · exact .underWay (by simp [Spool.crash, here, same])
    · simp [Spool.crash, ended]

theorem Lawful.flush (lawful : Lawful spool) (process : Process) (listing : List FileName) :
    Lawful (spool.flush process listing) := by
  unfold Spool.flush
  split
  · exact lawful
  · exact lawful.setFlush nofun

theorem Lawful.read (lawful : Lawful spool) (process : Process) (succeeds : Bool) :
    Lawful (spool.read process succeeds) := by
  unfold Spool.read
  split
  · exact lawful.ended process
  next name rest running =>
    split
    next input file =>
      obtain ⟨made, named⟩ := lawful.files name input file
      have first : (name :: rest).head? = some input.modelCallId := congrArg some named.symm
      split
      next old =>
        refine lawful.setFlush fun other handling holding => ?_
        cases holding
        exact ⟨made, first, nofun, fun _ => old⟩
      next =>
        refine lawful.setFlush fun other handling holding => ?_
        cases holding
        exact ⟨made, first, nofun, nofun⟩
    next => exact lawful.setFlush nofun
  · exact lawful

theorem Lawful.replay (lawful : Lawful spool) (process : Process) (succeeds : Bool) :
    Lawful (spool.replay process succeeds) := by
  unfold Spool.replay
  split
  next names input running =>
    have holds := lawful.held process _ input .sending running rfl
    split
    · refine (lawful.taken holds.made).setFlush fun other handling holding => ?_
      cases holding
      exact ⟨holds.made, holds.named,
        fun _ => List.mem_append_right _ (List.mem_singleton_self _), nofun⟩
    · exact lawful.setFlush nofun
  · exact lawful

theorem Lawful.unlinkNext (lawful : Lawful spool) (process : Process) (succeeds : Bool) :
    Lawful (spool.unlinkNext process succeeds) := by
  unfold Spool.unlinkNext
  split
  next name rest input handling running =>
    have holds := lawful.held process _ input handling running rfl
    split
    · exact lawful
    next handled =>
      split
      · exact (lawful.unlinked rfl holds handled).setFlush nofun
      · exact lawful.setFlush nofun
  · exact lawful

theorem step_lawful (lawful : Lawful spool) (move : Move Process Body) :
    Lawful (step spool move) := by
  cases move with
  | elapse span => exact lawful.elapse span
  | settle process input => exact lawful.settle process input
  | look call succeeds => exact lawful.look call succeeds
  | write call succeeds torn => exact lawful.write call succeeds torn
  | rename call succeeds => exact lawful.rename call succeeds
  | send call succeeds => exact lawful.send call succeeds
  | flush process listing => exact lawful.flush process listing
  | read process succeeds => exact lawful.read process succeeds
  | replay process succeeds => exact lawful.replay process succeeds
  | unlink process succeeds => exact lawful.unlinkNext process succeeds
  | crash process => exact lawful.crash process

theorem reached_lawful (moves : List (Move Process Body)) (now : Int) :
    Lawful (reached moves now) := by
  induction moves using List.reverseRecOn with
  | nil => exact ⟨nofun, nofun, nofun, nofun, nofun, nofun, nofun⟩
  | append_singleton moves move ih =>
      rw [reached, List.foldl_append]
      exact step_lawful ih move

/-- After any moves of any processes: every settlement is still being stored, waits in its own
    file, was taken by the control plane or grew old, unless the failure was reported, the
    process ended during its call, or its model call was settled twice.  What was taken or grew
    old had been settled, and no settlement younger than the replay window grew old. -/
theorem settlements_kept (moves : List (Move Process Body)) (now : Int) :
    (∀ call input, (reached moves now).settled[call]? = some input →
      Accounted (reached moves now) call input) ∧
    (∀ input ∈ (reached moves now).sent, input ∈ (reached moves now).settled) ∧
    ∀ input ∈ (reached moves now).expired, input ∈ (reached moves now).settled ∧
      REPLAY_WINDOW_MS < (reached moves now).now - input.startedAt :=
  ⟨(reached_lawful moves now).accounted, (reached_lawful moves now).sent,
    (reached_lawful moves now).expired⟩

/-- A settlement that could not be sent is replayed after a restart. -/
example :
    let input : Settlement Unit := { modelCallId := "call", startedAt := 0, rest := () }
    let spool := reached [.settle true input, .look 0 true, .write 0 true false, .rename 0 true,
      .flush true [.settled "call"], .read true true, .replay true false, .crash true,
      .flush false [.settled "call"], .read false true, .replay false true, .unlink false true,
      .read false true] 10
    spool.sent = [input] ∧ spool.files = [] ∧ spool.flushes false = none :=
  ⟨rfl, rfl, rfl⟩

end TelemetrySpool

end Devproof
