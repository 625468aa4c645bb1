import Devproof.ModelContext.RequestBudget

/-!
What trimming a request leaves of it.
-/

namespace Devproof.RequestBudget

open Parsing Schemas OperationSummary

def Delivers (page : Option Value) (item : Record) : Prop :=
  ∃ candidate ∈ delivered (pageRecord page), ∃ observationId cursor text,
    textAt "observationId" item = some observationId ∧ numberAt "cursor" item = some cursor ∧
    textAt "observationId" candidate = some observationId ∧
    numberAt "cursor" candidate = some cursor ∧ textAt "content" candidate = some text

structure Presents (page : Option Value) (shows : Value → Value) : Prop where
  items : ∀ items, shows (.arr items) = .arr (items.map shows)
  record : ∀ item, ∃ shown, shows (.obj item) = .obj shown ∧
    ∀ name, name ≠ word "refState" → name ≠ word "contentInCurrentPage" →
      shown.lookup name = (item.lookup name).map shows ∨
        (name = word "content" ∧ Delivers page item)
  other : ∀ value, (∀ items, value ≠ .arr items) → (∀ item, value ≠ .obj item) →
    shows value = value

theorem presentItems_eq (page : Record) (items : List Value) :
    presentItems page items = items.map (present page) := by
  induction items with
  | nil => rfl
  | cons item rest ih => rw [presentItems, ih, List.map_cons]

theorem lookup_presentMembers (page : Record) (drops : Bool) (item : Record) (name : Text) :
    (presentMembers page drops item).lookup name =
      if drops && name == word "content" then none
      else (item.lookup name).map (present page) := by
  induction item with
  | nil =>
      rw [presentMembers]
      split <;> rfl
  | cons entry rest ih =>
      obtain ⟨first, child⟩ := entry
      rw [presentMembers]
      by_cases same : name = first
      · subst same
        split
        next dropped => rw [ih, if_pos dropped]
        next => simp
      · split
        next dropped => rw [ih, lookup_cons_eq, if_neg same]
        next kept => rw [lookup_cons_eq, lookup_cons_eq, if_neg same, if_neg same, ih]

theorem lookup_marked (page item shown : Record) {name : Text} (state : name ≠ word "refState")
    (pointer : name ≠ word "contentInCurrentPage") :
    (marked page item shown).lookup name = shown.lookup name := by
  unfold marked
  split <;> split <;> simp [lookup_setMember, state, pointer]

theorem pinned_delivers {page : Option Value} {item : Record}
    (held : pinned (pageRecord page) item = true) : Delivers page item := by
  simp only [pinned, isPage, Bool.and_eq_true, List.any_eq_true, beq_iff_eq,
    Option.isSome_iff_exists] at held
  obtain ⟨⟨⟨⟨observationId, named⟩, ⟨cursor, placed⟩⟩, -⟩, candidate, member,
    ⟨sameName, samePlace⟩, text, content⟩ := held
  exact ⟨candidate, member, observationId, cursor, text, named, placed, sameName.trans named,
    samePlace.trans placed, content⟩

theorem present_presents (page : Option Value) : Presents page (present (pageRecord page)) where
  items := fun items => by rw [present, presentItems_eq]
  record := fun item => by
    refine ⟨_, by rw [present], fun name state pointer => ?_⟩
    rw [lookup_marked _ _ _ state pointer, lookup_presentMembers]
    split
    next dropped =>
      obtain ⟨held, content⟩ := Bool.and_eq_true_iff.mp dropped
      exact .inr ⟨beq_iff_eq.mp content, pinned_delivers held⟩
    next => exact .inl rfl
  other := fun value list record => by
    cases value with
    | arr items => exact absurd rfl (list items)
    | obj item => exact absurd rfl (record item)
    | _ => rfl

/-! What one kind of cut makes of a projection. -/

def Tallied (kind : Trimmed) (count : Nat) (before after : Projection) : Prop :=
  ∀ other, amount after.truncations other =
    amount before.truncations other + if other = kind then (count : Int) else 0

theorem tallied_none (kind : Trimmed) (projection : Projection) :
    Tallied kind 0 projection projection := by
  intro other
  simp

theorem Tallied.trimmed {kind : Trimmed} {count : Nat} {before after : Projection}
    (tallied : Tallied kind count before after) :
    Tallied kind (count + 1) before (after.trimmed kind) := by
  intro other
  rw [Projection.trimmed, amount_setEntry]
  split
  next same =>
    subst same
    rw [tallied other]
    simp
    omega
  next apart => rw [tallied other, if_neg apart]

/-- The first turns are left out. -/
theorem shifts (count : Nat) (start : Projection) :
    ∃ final, (List.range count).foldl (fun now _ => Projection.shift now) start = final ∧
      final.history = start.history.drop count ∧ final.page = start.page ∧
      final.state = start.state ∧ Tallied .olderSummary count start final := by
  induction count with
  | zero => exact ⟨start, rfl, rfl, rfl, rfl, tallied_none _ start⟩
  | succ count ih =>
      obtain ⟨final, made, history, page, state, tallied⟩ := ih
      refine ⟨final.shift, by rw [List.range_succ, List.foldl_append, made]; rfl, ?_, page, state,
        ?_⟩
      · rw [Projection.shift, Projection.trimmed, history, List.drop_drop]
      · exact Tallied.trimmed tallied

variable {platform : Platform}

structure Cut (part : Part) (count : Nat) (before after : Record) : Prop where
  bounded : count ≤ (part.items before).length
  items : part.items after = (part.items before).take ((part.items before).length - count)
  omitted : ∀ number, part.omitted before = .num number →
    part.omitted after = .num (plus number count)
  others : ∀ name, name ≠ part.list → name ≠ part.counter →
    (part.members after).lookup name = (part.members before).lookup name
  outside : ∀ name, name ≠ part.record → after.lookup name = before.lookup name

theorem plus_zero (number : Number) : plus number 0 = number := by
  cases number <;> rfl

theorem cut_none (part : Part) (state : Record) : Cut part 0 state state where
  bounded := Nat.zero_le _
  items := by rw [Nat.sub_zero, List.take_length]
  omitted := fun number known => by rw [known, plus_zero]
  others := fun _ _ _ => rfl
  outside := fun _ _ => rfl

theorem members_cut (part : Part) (count : Nat) (state : Record) :
    part.members (part.cut platform count state) =
      setMember
        (setMember (part.members state)
          (part.list, .arr ((part.items state).take ((part.items state).length - count))))
        (part.counter, part.counted platform count state) := by
  rw [Part.members, Part.cut, lookup_setMember, if_pos rfl]

theorem cut_cut {part : Part} (apart : part.list ≠ part.counter) {count : Nat} {state : Record}
    (bounded : count ≤ (part.items state).length) :
    Cut part count state (part.cut platform count state) where
  bounded := bounded
  items := by
    rw [Part.items, members_cut, lookup_setMember, if_neg apart, lookup_setMember, if_pos rfl]
  omitted := fun number known => by
    rw [Part.omitted, members_cut, lookup_setMember, if_pos rfl]
    simp only [Part.counted, known]
  others := fun name list counter => by
    rw [members_cut, lookup_setMember, if_neg counter, lookup_setMember, if_neg list]
  outside := fun name record => by
    rw [Part.cut, lookup_setMember, if_neg record]

theorem trims_part (part : Part) (count : Nat) (start : Projection) :
    ∃ final, (List.range count).foldl (fun now index =>
        { now with state := part.cut platform (index + 1) start.state }.trimmed part.trimmed)
        start = final ∧
      final.history = start.history ∧ final.page = start.page ∧
      final.state = (if count = 0 then start.state else part.cut platform count start.state) ∧
      Tallied part.trimmed count start final := by
  induction count with
  | zero => exact ⟨start, rfl, rfl, rfl, rfl, tallied_none _ start⟩
  | succ count ih =>
      obtain ⟨final, made, history, page, -, tallied⟩ := ih
      refine ⟨({ final with state := part.cut platform (count + 1) start.state } :
        Projection).trimmed part.trimmed, by rw [List.range_succ, List.foldl_append, made]; rfl,
        history, page, rfl, ?_⟩
      exact Tallied.trimmed
        tallied

section Stages

variable {big : Projection → Bool}

theorem cutWhile_range {cut : Nat → Projection → Projection} (most : Nat) (start : Projection) :
    ∃ count ≤ most, cutWhile big cut (List.range most) start =
      (List.range count).foldl (fun now index => cut index now) start := by
  obtain ⟨count, bounded, made⟩ := @cutWhile_take _ _ big cut (List.range most) start
  rw [List.length_range] at bounded
  refine ⟨count, bounded, ?_⟩
  rw [made, List.take_range, Nat.min_eq_left bounded]

theorem dropTurns_spec (kept : Nat) (start : Projection) :
    ∃ count ≤ start.history.length - kept,
      (dropTurns big kept start).history = start.history.drop count ∧
      (dropTurns big kept start).page = start.page ∧
      (dropTurns big kept start).state = start.state ∧
      Tallied .olderSummary count start (dropTurns big kept start) := by
  obtain ⟨count, bounded, made⟩ := @cutWhile_range big (fun _ => Projection.shift)
    (start.history.length - kept) start
  obtain ⟨final, final_eq, spec⟩ := shifts count start
  refine ⟨count, bounded, ?_⟩
  rw [dropTurns, made, final_eq]
  exact spec

theorem trimPart_spec {part : Part} (apart : part.list ≠ part.counter) (start : Projection) :
    ∃ count, Cut part count start.state (trimPart platform big part start).state ∧
      (trimPart platform big part start).history = start.history ∧
      (trimPart platform big part start).page = start.page ∧
      Tallied part.trimmed count start (trimPart platform big part start) := by
  obtain ⟨count, bounded, made⟩ := @cutWhile_range big
    (fun index now => ({ now with state := part.cut platform (index + 1) start.state } :
      Projection).trimmed part.trimmed) (part.items start.state).length start
  obtain ⟨final, final_eq, history, page, state, tallied⟩ := @trims_part platform part count start
  refine ⟨count, ?_⟩
  rw [trimPart, made, final_eq]
  refine ⟨?_, history, page, tallied⟩
  rw [state]
  split
  next none =>
    rw [none]
    exact cut_none part start.state
  next => exact cut_cut apart bounded

def SameTurn (turn shown : Turn) : Prop :=
  shown.summary = turn.summary ∧ (shown.detailed = turn.detailed ∨ shown.detailed = none)

theorem sameTurn_refl (turn : Turn) : SameTurn turn turn :=
  ⟨rfl, .inl rfl⟩

theorem SameTurn.trans {turn between shown : Turn} (first : SameTurn turn between)
    (second : SameTurn between shown) : SameTurn turn shown := by
  refine ⟨second.1.trans first.1, ?_⟩
  rcases second.2 with kept | gone
  · rcases first.2 with whole | gone
    · exact .inl (kept.trans whole)
    · exact .inr (kept.trans gone)
  · exact .inr gone

theorem sameTurns_trans {turns between shown : List Turn}
    (first : List.Forall₂ SameTurn turns between) (second : List.Forall₂ SameTurn between shown) :
    List.Forall₂ SameTurn turns shown := by
  induction first generalizing shown with
  | nil => exact second
  | cons same rest ih =>
      cases second with
      | cons next later => exact .cons (same.trans next) (ih later)

structure Summarized (before after : Projection) : Prop where
  history : List.Forall₂ SameTurn before.history after.history
  page : after.page = before.page
  state : after.state = before.state
  counts : ∀ kind, kind ≠ .detailToSummary →
    amount after.truncations kind = amount before.truncations kind

theorem summarized_refl (projection : Projection) : Summarized projection projection where
  history := List.forall₂_same.mpr fun turn _ => sameTurn_refl turn
  page := rfl
  state := rfl
  counts := fun _ _ => rfl

theorem Summarized.summarize {before after : Projection} (held : Summarized before after)
    (index : Nat) : Summarized before (after.summarize index) := by
  unfold Projection.summarize
  split
  next summary detailed found =>
    refine ⟨?_, held.page, held.state, fun kind other => ?_⟩
    · obtain ⟨same, each⟩ := List.forall₂_iff_get.mp held.history
      refine List.forall₂_iff_get.mpr ⟨by simpa [Projection.trimmed] using same, ?_⟩
      intro place first second
      have known := each place first (by simpa [Projection.trimmed] using second)
      simp only [Projection.trimmed, List.get_eq_getElem, List.getElem_set] at known ⊢
      split
      next here =>
        subst here
        obtain ⟨bound, value⟩ := List.getElem?_eq_some_iff.mp found
        rw [value] at known
        exact ⟨known.1, .inr rfl⟩
      next => exact known
    · rw [Projection.trimmed, amount_setEntry, if_neg other]
      exact held.counts kind other
  next => exact held

theorem cutWhile_summarized (indices : List Nat) (start : Projection) :
    Summarized start (cutWhile big Projection.summarize indices start) :=
  cutWhile_kept (fun index _ _ held => held.summarize index) (summarized_refl start)

theorem turnPage_spec (fallback : Option Value) (start : Projection) :
    (turnPage big fallback start).history = start.history ∧
      (turnPage big fallback start).state = start.state ∧
      ((turnPage big fallback start).page = start.page ∨
        ∃ page, fallback = some page ∧ (turnPage big fallback start).page = some page) ∧
      ∀ kind, kind ≠ .paginated → amount (turnPage big fallback start).truncations kind =
        amount start.truncations kind := by
  cases fallback with
  | none => exact ⟨rfl, rfl, .inl rfl, fun _ _ => rfl⟩
  | some page =>
      simp only [turnPage, cutWhile]
      split
      · refine ⟨rfl, rfl, .inr ⟨page, rfl, rfl⟩, fun kind other => ?_⟩
        rw [Projection.paginate, Projection.trimmed, amount_setEntry, if_neg other]
      · exact ⟨rfl, rfl, .inl rfl, fun _ _ => rfl⟩

end Stages

structure Left (part : Part) (count : Nat) (before after : Record) : Prop where
  bounded : count ≤ (part.items before).length
  items : part.items after = (part.items before).take ((part.items before).length - count)
  omitted : ∀ number, part.omitted before = .num number →
    part.omitted after = .num (plus number count)

theorem Cut.left {part : Part} {count : Nat} {before after : Record}
    (cut : Cut part count before after) : Left part count before after :=
  ⟨cut.bounded, cut.items, cut.omitted⟩

def Apart (part other : Part) : Prop :=
  other.record ≠ part.record ∨
    (other.list ≠ part.list ∧ other.list ≠ part.counter) ∧
      other.counter ≠ part.list ∧ other.counter ≠ part.counter

instance (part other : Part) : Decidable (Apart part other) :=
  inferInstanceAs (Decidable (_ ∨ _))

theorem Cut.members_same {part : Part} {count : Nat} {before after : Record}
    (cut : Cut part count before after) {other : Part} {name : Text}
    (apart : other.record ≠ part.record ∨ name ≠ part.list ∧ name ≠ part.counter) :
    (other.members after).lookup name = (other.members before).lookup name := by
  by_cases same : other.record = part.record
  · obtain ⟨list, counter⟩ := apart.resolve_left (not_not_intro same)
    have known := cut.others name list counter
    unfold Part.members at known ⊢
    rwa [same]
  · unfold Part.members
    rw [cut.outside _ same]

theorem Cut.kept {part : Part} {count : Nat} {before after : Record}
    (cut : Cut part count before after) {other : Part} (apart : Apart part other) :
    other.items after = other.items before ∧ other.omitted after = other.omitted before := by
  have list := @Cut.members_same part count before after cut other other.list
    (apart.imp_right And.left)
  have counter := @Cut.members_same part count before after cut other other.counter
    (apart.imp_right And.right)
  unfold Part.items Part.omitted
  rw [list, counter]
  exact ⟨rfl, rfl⟩

/-- A cut of another part before or after changes nothing of what is left. -/
theorem Left.before {part other : Part} {count cuts : Nat} {first second third : Record}
    (left : Left part count second third) (cut : Cut other cuts first second)
    (apart : Apart other part) : Left part count first third := by
  obtain ⟨items, omitted⟩ := cut.kept apart
  obtain ⟨bounded, shown, counted⟩ := left
  rw [items] at bounded shown
  rw [omitted] at counted
  exact ⟨bounded, shown, counted⟩

theorem Left.after {part other : Part} {count cuts : Nat} {first second third : Record}
    (left : Left part count first second) (cut : Cut other cuts second third)
    (apart : Apart other part) : Left part count first third := by
  obtain ⟨items, omitted⟩ := cut.kept apart
  exact ⟨left.bounded, items.trans left.items, fun number known =>
    omitted.trans (left.omitted number known)⟩

structure Losses where
  turns : Nat
  observations : Nat
  comparisons : Nat
  bindings : Nat
  targets : Nat

def partNames : List Text :=
  [word "savedCriterionObservations", word "objectEvidence"]

def objectNames : List Text :=
  ["comparisons", "omittedComparisons", "bindings", "omittedBindings", "coverage",
    "omittedTargets"].map word

structure Shows (turns : List Turn) (state : Record) (current fallback : Option Value)
    (losses : Losses) (final : Projection) : Prop where
  turns : losses.turns ≤ turns.length ∧
    List.Forall₂ SameTurn (turns.drop losses.turns) final.history
  page : final.page = current ∨ ∃ page, fallback = some page ∧ final.page = some page
  observations : Left savedObservations losses.observations state final.state
  comparisons : Left comparisons losses.comparisons state final.state
  bindings : Left bindings losses.bindings state final.state
  targets : Left coverage losses.targets state final.state
  others : ∀ name, name ∉ partNames → final.state.lookup name = state.lookup name
  savedOthers : ∀ name, name ≠ word "observations" → name ≠ word "omitted" →
    (savedObservations.members final.state).lookup name =
      (savedObservations.members state).lookup name
  objectOthers : ∀ name, name ∉ objectNames →
    (RequestBudget.comparisons.members final.state).lookup name =
      (RequestBudget.comparisons.members state).lookup name
  countedTurns : amount final.truncations .olderSummary = losses.turns
  countedObservations : amount final.truncations .savedObservation = losses.observations
  countedObjects : amount final.truncations .object =
    losses.comparisons + losses.bindings + losses.targets

section Trim

variable {big : Projection → Bool} (context : ModelContext)

/-- The state after the four parts. -/
theorem trimParts_spec (start : Projection) :
    ∃ saved compared bound covered : Nat, ∃ first second third : Record,
      let final := trimPart platform big coverage (trimPart platform big bindings
        (trimPart platform big comparisons (trimPart platform big savedObservations start)))
      Cut savedObservations saved start.state first ∧ Cut comparisons compared first second ∧
      Cut bindings bound second third ∧ Cut coverage covered third final.state ∧
      final.history = start.history ∧ final.page = start.page ∧
      ∀ kind, amount final.truncations kind = amount start.truncations kind +
        (if kind = .savedObservation then (saved : Int) else 0) +
        (if kind = .object then (compared + bound + covered : Int) else 0) := by
  obtain ⟨saved, cut₁, history₁, page₁, tally₁⟩ :=
    @trimPart_spec platform big savedObservations (by decide) start
  obtain ⟨compared, cut₂, history₂, page₂, tally₂⟩ := @trimPart_spec platform big comparisons
    (by decide) (trimPart platform big savedObservations start)
  obtain ⟨bound, cut₃, history₃, page₃, tally₃⟩ := @trimPart_spec platform big bindings
    (by decide) (trimPart platform big comparisons
      (trimPart platform big savedObservations start))
  obtain ⟨covered, cut₄, history₄, page₄, tally₄⟩ := @trimPart_spec platform big coverage
    (by decide) (trimPart platform big bindings
      (trimPart platform big comparisons (trimPart platform big savedObservations start)))
  refine ⟨saved, compared, bound, covered, _, _, _, cut₁, cut₂, cut₃, cut₄,
    by rw [history₄, history₃, history₂, history₁], by rw [page₄, page₃, page₂, page₁],
    fun kind => ?_⟩
  rw [tally₄ kind, tally₃ kind, tally₂ kind, tally₁ kind]
  cases kind <;> simp [savedObservations, comparisons, bindings, coverage]
  omega

theorem trim_shows (state : Record) (current fallback : Option Value) :
    ∃ losses, Shows context.summaries state current fallback losses
      (trim platform context big fallback (startOf context state current)) := by
  set start := startOf context state current with start_eq
  obtain ⟨older, olderBound, history₁, page₁, state₁, tally₁⟩ :=
    @dropTurns_spec big context.detailedTurns start
  set recent := dropTurns big context.detailedTurns start with recent_eq
  obtain ⟨second, second_eq, summarized⟩ : ∃ second, summarizeTurns big recent = second ∧
      Summarized recent second := ⟨_, rfl, cutWhile_summarized _ recent⟩
  obtain ⟨history₃, state₃, page₃, tally₃⟩ := @turnPage_spec big fallback
    (summarizeTurns big recent)
  set turned := turnPage big fallback (summarizeTurns big recent) with turned_eq
  obtain ⟨more, moreBound, history₄, page₄, state₄, tally₄⟩ := @dropTurns_spec big 1 turned
  obtain ⟨saved, compared, bound, covered, firstState, secondState, thirdState, cut₁, cut₂, cut₃,
    cut₄, history₅, page₅, tally₅⟩ := @trimParts_spec platform big (dropTurns big 1 turned)
  set parted := trimPart platform big coverage (trimPart platform big bindings
    (trimPart platform big comparisons
      (trimPart platform big savedObservations (dropTurns big 1 turned)))) with parted_eq
  obtain ⟨final, final_eq, last⟩ : ∃ final, trim platform context big fallback start = final ∧
      Summarized parted final := ⟨_, rfl, cutWhile_summarized [0] parted⟩
  rw [second_eq] at history₃ state₃ page₃ tally₃
  rw [final_eq]
  have whole : (dropTurns big 1 turned).state = state := by
    rw [state₄, state₃, summarized.state, state₁]
    rfl
  rw [whole] at cut₁
  refine ⟨⟨older + more, saved, compared, bound, covered⟩, ?_⟩
  refine ⟨⟨?_, ?_⟩, ?_, ?_, ?_, ?_, ?_, fun name apart => ?_, fun name list counter => ?_,
    fun name apart => ?_, ?_, ?_, ?_⟩
  · have size := summarized.history.length_eq
    rw [history₁, List.length_drop] at size
    rw [history₃, ← size] at moreBound
    have total : start.history = context.summaries := rfl
    rw [total] at olderBound moreBound
    simp only
    omega
  · have kept := List.forall₂_drop more summarized.history
    rw [history₁, List.drop_drop] at kept
    refine sameTurns_trans kept ?_
    have shown := last.history
    rwa [history₅, history₄, history₃] at shown
  · rw [last.page, page₅, page₄]
    rcases page₃ with same | ⟨page, given, turned⟩
    · exact .inl (by rw [same, summarized.page, page₁]; rfl)
    · exact .inr ⟨page, given, turned⟩
  · rw [last.state]
    exact ((cut₁.left.after cut₂ (by decide)).after cut₃ (by decide)).after cut₄ (by decide)
  · rw [last.state]
    exact ((cut₂.left.before cut₁ (by decide)).after cut₃ (by decide)).after cut₄ (by decide)
  · rw [last.state]
    exact ((cut₃.left.before cut₂ (by decide)).before cut₁ (by decide)).after cut₄ (by decide)
  · rw [last.state]
    exact ((cut₄.left.before cut₃ (by decide)).before cut₂ (by decide)).before cut₁ (by decide)
  · simp only [partNames, List.mem_cons, List.not_mem_nil, or_false, not_or] at apart
    rw [last.state, cut₄.outside name apart.2, cut₃.outside name apart.2,
      cut₂.outside name apart.2, cut₁.outside name apart.1]
  · rw [last.state, cut₄.members_same (.inl (by decide)), cut₃.members_same (.inl (by decide)),
      cut₂.members_same (.inl (by decide)), cut₁.others name list counter]
  · simp only [objectNames, List.map_cons, List.map_nil, List.mem_cons, List.not_mem_nil, or_false,
      not_or] at apart
    obtain ⟨comparison, compareCount, binding, bindCount, target, targetCount⟩ := apart
    rw [last.state, cut₄.members_same (.inr ⟨target, targetCount⟩),
      cut₃.members_same (.inr ⟨binding, bindCount⟩), cut₂.others name comparison compareCount,
      cut₁.members_same (.inl (by decide))]
  · rw [last.counts _ (by decide), tally₅, tally₄, tally₃ _ (by decide),
      summarized.counts _ (by decide), tally₁]
    simp [start, startOf]
  · rw [last.counts _ (by decide), tally₅, tally₄, tally₃ _ (by decide),
      summarized.counts _ (by decide), tally₁]
    simp [start, startOf]
  · rw [last.counts _ (by decide), tally₅, tally₄, tally₃ _ (by decide),
      summarized.counts _ (by decide), tally₁]
    simp [start, startOf]

end Trim

/-! The form that is too large when everything is trimmed. -/

section Exceeded

variable (platform)

def Part.emptied (part : Part) (state : Record) : Record :=
  if (part.items state).length = 0 then state
  else part.cut platform (part.items state).length state

def lastSummary (turns : List Turn) : List Turn :=
  (turns.drop (turns.length - 1)).map fun turn => { turn with detailed := none }

def fullyTrimmed (turns : List Turn) (state : Record) (current fallback : Option Value) :
    Projection where
  history := lastSummary turns
  page := fallback.or current
  state := coverage.emptied platform (bindings.emptied platform
    (comparisons.emptied platform (savedObservations.emptied platform state)))
  truncations := []

variable {platform} {big : Projection → Bool}

theorem dropTurns_over {kept : Nat} {start : Projection}
    (large : big (dropTurns big kept start) = true) :
    big start = true ∧
      (dropTurns big kept start).history = start.history.drop (start.history.length - kept) ∧
      (dropTurns big kept start).page = start.page ∧
      (dropTurns big kept start).state = start.state := by
  have made := cutWhile_over large
  obtain ⟨final, final_eq, history, page, state, -⟩ :=
    shifts (start.history.length - kept) start
  rw [final_eq] at made
  refine ⟨over_cutWhile large, ?_⟩
  rw [dropTurns, made]
  exact ⟨history, page, state⟩

theorem trimPart_over {part : Part} {start : Projection}
    (large : big (trimPart platform big part start) = true) :
    big start = true ∧
      (trimPart platform big part start).history = start.history ∧
      (trimPart platform big part start).page = start.page ∧
      (trimPart platform big part start).state = part.emptied platform start.state := by
  have made := cutWhile_over large
  obtain ⟨final, final_eq, history, page, state, -⟩ :=
    @trims_part platform part (part.items start.state).length start
  rw [final_eq] at made
  refine ⟨over_cutWhile large, ?_⟩
  rw [trimPart, made]
  exact ⟨history, page, state⟩

theorem turnPage_over {fallback : Option Value} {start : Projection}
    (large : big (turnPage big fallback start) = true) :
    big start = true ∧ (turnPage big fallback start).history = start.history ∧
      (turnPage big fallback start).page = fallback.or start.page ∧
      (turnPage big fallback start).state = start.state := by
  cases fallback with
  | none => exact ⟨large, rfl, rfl, rfl⟩
  | some page =>
      have made := cutWhile_over large
      refine ⟨over_cutWhile large, ?_⟩
      rw [turnPage, made]
      exact ⟨rfl, rfl, rfl⟩

theorem summarizeLast_over {start : Projection} (large : big (summarizeLast big start) = true) :
    big start = true ∧ summarizeLast big start = start.summarize 0 :=
  ⟨over_cutWhile large, cutWhile_over large⟩

/-- The only turn that is left loses its details. -/
theorem summarize_last {turns : List Turn} {projection : Projection}
    (same : List.Forall₂ SameTurn turns projection.history) (single : turns.length ≤ 1) :
    (projection.summarize 0).history = turns.map fun turn => { turn with detailed := none } := by
  obtain ⟨history, page, state, truncations⟩ := projection
  cases same with
  | nil => rfl
  | @cons turn shown rest others known later =>
      obtain rfl : rest = [] := List.length_eq_zero_iff.mp (by simpa using single)
      cases later
      obtain ⟨summary, detailed⟩ := shown
      obtain rfl : summary = turn.summary := known.1
      cases detailed <;> rfl

theorem trim_eq (context : ModelContext) (fallback : Option Value) (start : Projection) :
    trim platform context big fallback start =
      summarizeLast big (trimPart platform big coverage (trimPart platform big bindings
        (trimPart platform big comparisons (trimPart platform big savedObservations
          (dropTurns big 1 (turnPage big fallback
            (summarizeTurns big (dropTurns big context.detailedTurns start)))))))) :=
  rfl

/-- A request that is still too large is as small as it gets. -/
theorem trim_over {context : ModelContext} {state : Record} {current fallback : Option Value}
    (large : big (trim platform context big fallback (startOf context state current)) = true) :
    (trim platform context big fallback (startOf context state current)).history =
        lastSummary context.summaries ∧
      (trim platform context big fallback (startOf context state current)).page =
        fallback.or current ∧
      (trim platform context big fallback (startOf context state current)).state =
        coverage.emptied platform (bindings.emptied platform
          (comparisons.emptied platform (savedObservations.emptied platform state))) := by
  rw [trim_eq] at large ⊢
  obtain ⟨largeParts, last⟩ := summarizeLast_over large
  rw [last]
  clear last large
  have total : (startOf context state current).history = context.summaries := rfl
  have pages : (startOf context state current).page = current := rfl
  have states : (startOf context state current).state = state := rfl
  generalize startOf context state current = start at *
  obtain ⟨largeBound, history₈, page₈, state₈⟩ := trimPart_over largeParts
  obtain ⟨largeCompared, history₇, page₇, state₇⟩ := trimPart_over largeBound
  obtain ⟨largeSaved, history₆, page₆, state₆⟩ := trimPart_over largeCompared
  obtain ⟨largeSingle, history₅, page₅, state₅⟩ := trimPart_over largeSaved
  obtain ⟨largeTurned, history₄, page₄, state₄⟩ := dropTurns_over largeSingle
  obtain ⟨largeSecond, history₃, page₃, state₃⟩ := turnPage_over largeTurned
  have largeRecent := over_cutWhile largeSecond
  obtain ⟨-, history₁, page₁, state₁⟩ := dropTurns_over largeRecent
  obtain ⟨second, second_eq, summarized⟩ :
      ∃ second, summarizeTurns big (dropTurns big context.detailedTurns start) = second ∧
        Summarized (dropTurns big context.detailedTurns start) second :=
    ⟨_, rfl, cutWhile_summarized _ _⟩
  have history := history₈.trans (history₇.trans (history₆.trans (history₅.trans history₄)))
  rw [history₃, second_eq] at history
  have page := page₈.trans (page₇.trans (page₆.trans (page₅.trans page₄)))
  rw [page₃, second_eq, summarized.page, page₁] at page
  rw [state₇, state₆, state₅, state₄, state₃, second_eq, summarized.state, state₁] at state₈
  obtain ⟨parted, parted_eq⟩ : ∃ parted, trimPart platform big coverage
      (trimPart platform big bindings (trimPart platform big comparisons
        (trimPart platform big savedObservations
          (dropTurns big 1 (turnPage big fallback second))))) = parted :=
    ⟨_, rfl⟩
  rw [parted_eq] at history page state₈
  rw [second_eq, parted_eq]
  have size := summarized.history.length_eq
  rw [history₁, List.length_drop, total] at size
  have place : context.summaries.length - context.detailedTurns + (second.history.length - 1) =
      context.summaries.length - 1 := by
    have retains := context.retains
    omega
  have recent := List.forall₂_drop (second.history.length - 1) summarized.history
  rw [history₁, total, List.drop_drop, place, ← history] at recent
  have same := (summarized_refl parted).summarize 0
  rw [pages] at page
  rw [states] at state₈
  refine ⟨summarize_last recent ?_, same.page.trans page, same.state.trans state₈⟩
  rw [List.length_drop]
  omega

end Exceeded

section Build

variable (platform)

variable (context : ModelContext) (base state : Record) (image : Option Record)
  (currentPage fallbackPage : Option Value) (referenceImages : List Record)

def imagesOf : List Record :=
  if referenceImages.isEmpty then image.toList else referenceImages

/-- What a request says, and what was left out of it. -/
structure Delivered (imageMessages : List Value) (request : Request) (losses : Losses)
    (final : Projection) (shows : Value → Value) : Prop where
  fits : (requestTextBytes platform base request.messages : Rat) ≤
    context.limit base (imagesOf image referenceImages).length
  measured : request.textRequestBytes = requestTextBytes platform base request.messages
  images : (imagesOf image referenceImages).mapM (imageMessage platform) = some imageMessages
  messages : request.messages = context.initial ++
    [document platform "browser_working_state" "data" (shownState context final.state),
      document platform "recent_operations" "turns"
        (shows (.arr (final.history.map Turn.shown))),
      document platform "current_browser_page" "data" (final.page.getD .null)] ++ imageMessages
  page : request.currentPage = final.page
  presents : Presents final.page shows
  shown : Shows context.summaries state currentPage fallbackPage losses final
  droppedTurns : request.droppedTurns = losses.turns
  truncations : request.truncations = final.truncations
  omittedObservations : request.omittedObservations = savedObservations.omitted final.state
  omittedComparisons : request.omittedComparisons = comparisons.omitted final.state
  omittedBindings : request.omittedBindings = bindings.omitted final.state
  omittedTargets : request.omittedTargets = coverage.omitted final.state

def Builds : Except Failure Request → Prop
  | .ok request => ∃ imageMessages losses final shows,
      Delivered platform context base state image currentPage fallbackPage referenceImages
        imageMessages request losses final shows
  | .error (.contextBudgetExceeded bytes limit) => ∃ imageMessages,
      (imagesOf image referenceImages).mapM (imageMessage platform) = some imageMessages ∧
      limit = context.limit base (imagesOf image referenceImages).length ∧
      bytes = bytesOf platform context base imageMessages
        (fullyTrimmed platform context.summaries state currentPage fallbackPage) ∧
      limit < bytes
  | .error .tooManyImages => 2 < referenceImages.length
  | .error .image =>
      (imagesOf image referenceImages).mapM (imageMessage platform) = none

theorem build_builds :
    Builds platform context base state image currentPage fallbackPage referenceImages
      (build platform context base state image currentPage fallbackPage referenceImages) := by
  unfold build
  split
  next many => exact many
  next =>
    have images : (if referenceImages.isEmpty then image.toList else referenceImages) =
        imagesOf image referenceImages := rfl
    simp only [images]
    cases found : (imagesOf image referenceImages).mapM (imageMessage platform) with
    | none => exact found
    | some imageMessages =>
        simp only
        obtain ⟨losses, shown⟩ := @trim_shows platform (exceeds platform context base imageMessages
          (context.limit base (imagesOf image referenceImages).length)) context state currentPage
          fallbackPage
        have least := @trim_over platform (exceeds platform context base imageMessages
          (context.limit base (imagesOf image referenceImages).length)) context state currentPage
          fallbackPage
        generalize trim platform context _ fallbackPage (startOf context state currentPage) = final
          at shown least ⊢
        by_cases large : exceeds platform context base imageMessages
            (context.limit base (imagesOf image referenceImages).length) final = true
        · rw [if_pos large]
          obtain ⟨history, page, working⟩ := least large
          have same : bytesOf platform context base imageMessages final =
              bytesOf platform context base imageMessages
                (fullyTrimmed platform context.summaries state currentPage fallbackPage) := by
            simp only [bytesOf, messages, operationsOf, fullyTrimmed, history, page, working]
          have exceeded : context.limit base (imagesOf image referenceImages).length <
              bytesOf platform context base imageMessages final := by
            simpa [exceeds] using large
          exact ⟨imageMessages, found, rfl, same, exceeded⟩
        · rw [if_neg large]
          refine ⟨imageMessages, losses, final, present (pageRecord final.page), ?_⟩
          have fits : ¬context.limit base (imagesOf image referenceImages).length <
              bytesOf platform context base imageMessages final := by
            simpa [exceeds] using large
          refine { fits := not_lt.mp fits, measured := rfl, images := found, messages := rfl,
                   page := rfl, presents := present_presents final.page, shown := shown,
                   droppedTurns := ?_, truncations := rfl, omittedObservations := rfl,
                   omittedComparisons := rfl, omittedBindings := rfl, omittedTargets := rfl }
          have size := shown.turns.2.length_eq
          rw [List.length_drop] at size
          have bounded := shown.turns.1
          change context.summaries.length - final.history.length = losses.turns
          omega

end Build

def plainPlatform : Platform where
  formatNumber := fun _ => []
  numberOf := fun _ => none
  isUuid := fun _ => false
  isDateTime := fun _ => false

def pageOf (content : String) : Value :=
  .obj [(word "observationId", literal "o1"), (word "cursor", .num (.finite 0)),
    (word "content", literal content)]

def rewritten : ModelContext where
  initial := []
  summaries := [⟨.arr [pageOf "old"], none⟩]
  memory := .null
  maxBytes := 4096
  detailedTurns := 2
  retains := Nat.two_pos
  modelIds := none
  modelLimits := []

set_option maxRecDepth 20000 in
/-- The reference is to the page of that observation and cursor, whatever its text is. -/
theorem build_points_elsewhere :
    ∃ request,
      build plainPlatform rewritten [] [] none
        (some (.obj [(word "snapshot", pageOf "new")])) none [] = .ok request ∧
      request.currentPage = some (.obj [(word "snapshot", pageOf "new")]) ∧
      request.messages = [
        document plainPlatform "browser_working_state" "data"
          (.obj [(word "executionMemory", .null)]),
        document plainPlatform "recent_operations" "turns" (.arr [.arr [.obj [
          (word "observationId", literal "o1"), (word "cursor", .num (.finite 0)),
          (word "contentInCurrentPage", .bool true)]]]),
        document plainPlatform "current_browser_page" "data"
          (.obj [(word "snapshot", pageOf "new")])] ∧
      literal "old" ≠ literal "new" :=
  ⟨_, rfl, rfl, rfl, by simp [literal]; decide⟩

end Devproof.RequestBudget
