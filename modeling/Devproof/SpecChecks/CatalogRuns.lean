import Devproof.SpecChecks.Definitions

/-!
Definitions over whole runs of a catalog.
-/

namespace Devproof

namespace SpecChecks

structure Sound (base : List (String × Check)) (loop : Loop) : Prop where
  numbered : Numbered loop.checks
  bound : loop.checks.length ≤ 500
  follows : ∀ id old, stored id base = some old → ∃ next, stored id loop.checks = some next ∧
    next.requirementId = old.requirementId ∧ (contracted old = true → contracted next = true) ∧
      (next ≠ old → ∃ saved ∈ loop.accepted, saved.checkId = id)
  fixed : ∀ id, id ∉ loop.updated → stored id loop.checks = stored id base
  same : loop.changed = false → loop.checks = base
  differs : loop.changed = true → ∃ id ∈ loop.updated, ∃ check,
    stored id loop.checks = some check ∧ stored id base ≠ some check

section Loops

variable {base : List (String × Check)} {loop next : Loop} {id : String} {check : Check}

theorem sound_start (numbered : Numbered base) (bound : base.length ≤ 500) :
    Sound base { checks := base } where
  numbered := numbered
  bound := bound
  follows _ old found := ⟨old, found, rfl, fun before => before, fun differs => absurd rfl differs⟩
  fixed _ _ := rfl
  same _ := rfl
  differs changed := by cases changed

theorem sound_leaves (sound : Sound base loop) (grows : Grows loop next)
    (leaves : Leaves loop next) : Sound base next where
  numbered := by
    rw [leaves.1]
    exact sound.numbered
  bound := by
    rw [leaves.1]
    exact sound.bound
  follows id old found := by
    obtain ⟨now, here, requirement, bound, reported⟩ := sound.follows id old found
    refine ⟨now, by rw [leaves.1, here], requirement, bound, fun differs => ?_⟩
    obtain ⟨saved, member, same⟩ := reported differs
    exact ⟨saved, grows.accepted saved member, same⟩
  fixed id absent := by
    rw [leaves.1]
    exact sound.fixed id fun member => absent (grows.updated id member)
  same changed := by
    rw [leaves.1]
    exact sound.same (leaves.2.symm.trans changed)
  differs changed := by
    obtain ⟨id, member, check, found, other⟩ := sound.differs (leaves.2.symm.trans changed)
    exact ⟨id, grows.updated id member, check, by rw [leaves.1, found], other⟩

theorem writes_numbered (sound : Sound base loop) (writes : Writes loop next id check) :
    Numbered next.checks ∧ next.checks.length ≤ 500 := by
  rw [writes.checks]
  rcases writes.key with ⟨old, found, _⟩ | ⟨absent, name, room⟩
  · have present : stored id loop.checks ≠ none := by
      rw [found]
      exact Option.some_ne_none old
    refine ⟨store_numbered sound.numbered (.inl present), ?_⟩
    have size := congrArg List.length (@store_keys _ _ check present)
    rw [List.length_map, List.length_map] at size
    rw [size]
    exact sound.bound
  · refine ⟨store_numbered sound.numbered (.inr name), ?_⟩
    rw [store_append absent, List.length_append, List.length_singleton]
    exact room

theorem sound_writes (sound : Sound base loop) (grows : Grows loop next)
    (writes : Writes loop next id check) : Sound base next := by
  obtain ⟨numbered, bound⟩ := writes_numbered sound writes
  have nodup := numbered.nodup
  rw [writes.checks] at nodup
  have here : stored id next.checks = some check := by
    rw [writes.checks]
    exact stored_store_same nodup
  have there : ∀ other, other ≠ id → stored other next.checks = stored other loop.checks := by
    intro other distinct
    rw [writes.checks]
    exact stored_store_other sound.numbered.nodup nodup distinct
  -- what the item writes is not what the catalog had
  have fresh : stored id base ≠ some check := by
    rcases writes.key with ⟨old, _, unwritten, _⟩ | ⟨absent, _⟩
    · rw [← sound.fixed id unwritten]
      exact writes.differs
    · intro known
      obtain ⟨_, found, _⟩ := sound.follows id check known
      rw [absent] at found
      cases found
  refine ⟨numbered, bound, ?_, ?_, ?_, ?_⟩
  · intro other old known
    obtain ⟨now, found, requirement, bound, reported⟩ := sound.follows other old known
    by_cases target : other = id
    · subst target
      rcases writes.key with ⟨current, current', _, requirement', bound'⟩ | ⟨absent, _⟩
      · obtain rfl : current = now := Option.some.inj (current'.symm.trans found)
        exact ⟨check, here, requirement'.trans requirement, fun before => bound' (bound before),
          fun _ => writes.saved⟩
      · rw [absent] at found
        cases found
    · refine ⟨now, (there other target).trans found, requirement, bound, fun differs => ?_⟩
      obtain ⟨saved, member, same⟩ := reported differs
      exact ⟨saved, grows.accepted saved member, same⟩
  · intro other absent
    rw [writes.updated, List.mem_append, List.mem_singleton, not_or] at absent
    rw [there other absent.2]
    exact sound.fixed other absent.1
  · intro unchanged
    rw [writes.changed] at unchanged
    cases unchanged
  · intro _
    refine ⟨id, ?_, check, here, fresh⟩
    rw [writes.updated]
    exact List.mem_append_right _ (List.mem_singleton_self id)

end Loops

section Batches

variable {Item : Type} (host : Host Item) (businessChecksEnabled : Bool)
  (requirements : List SpecRequirement) (sources : List (String × String))

def Expandable (index : Nat) (item : Item) (loop : Loop) : Prop :=
  ∀ checkId check requirement, host.parse item = .ok (checkId, check) →
    refusal businessChecksEnabled requirements loop checkId check = none →
    requirementOf requirements check.requirementId = some requirement →
    ∃ criterion, expandSpecCheck check requirement
      (checkId.getD ("input-" ++ toString index)) = .ok criterion

def AllExpandable : Nat → List Item → Loop → Prop
  | _, [], _ => True
  | index, item :: rest, loop =>
      Expandable host businessChecksEnabled requirements index item loop ∧
        ∀ next, defineItem host businessChecksEnabled requirements sources index item loop =
          .ok next → AllExpandable (index + 1) rest next

variable {host businessChecksEnabled requirements sources} {base : List (String × Check)}
  {loop : Loop} {index : Nat} {item : Item}

theorem expandable_iff :
    Expandable host businessChecksEnabled requirements index item loop ↔
      ∃ next, defineItem host businessChecksEnabled requirements sources index item loop =
        .ok next := by
  constructor
  · intro expands
    rw [defineItem]
    cases parsed : host.parse item with
    | error issues => exact ⟨_, rfl⟩
    | ok pair =>
        obtain ⟨checkId, check⟩ := pair
        dsimp only
        split
        · exact ⟨_, rfl⟩
        · rename_i passes
          split
          · exact ⟨_, rfl⟩
          · rename_i requirement required
            obtain ⟨criterion, expanded⟩ := expands _ _ _ parsed passes required
            rw [expanded]
            dsimp only
            split
            · exact ⟨_, rfl⟩
            · exact ⟨_, rfl⟩
  · rintro ⟨next, ran⟩ checkId check requirement parsed passes required
    rw [defineItem, parsed] at ran
    dsimp only at ran
    rw [passes] at ran
    dsimp only at ran
    rw [required] at ran
    dsimp only at ran
    split at ran
    · cases ran
    · rename_i criterion expanded
      exact ⟨criterion, expanded⟩

theorem defineItems_thrown (items : List Item) :
    (defineItems host businessChecksEnabled requirements sources index items loop).2 = none ↔
      AllExpandable host businessChecksEnabled requirements sources index items loop := by
  induction items generalizing index loop with
  | nil => exact ⟨fun _ => trivial, fun _ => rfl⟩
  | cons item rest ih =>
      rw [defineItems, AllExpandable, @expandable_iff _ _ _ _ sources]
      cases ran : defineItem host businessChecksEnabled requirements sources index item loop with
      | error thrown => exact ⟨nofun, fun all => nomatch all.1⟩
      | ok next =>
          refine ih.trans ⟨fun all => ⟨⟨next, rfl⟩, ?_⟩, fun all => all.2 next rfl⟩
          rintro _ ⟨⟩
          exact all

theorem defineItems_sound (items : List Item) (sound : Sound base loop) :
    let result := defineItems host businessChecksEnabled requirements sources index items loop
    Sound base result.1 ∧ Grows loop result.1 ∧
      (result.2 = none → ∀ place < items.length, Handled (index + place) result.1) := by
  induction items generalizing index loop with
  | nil =>
      refine ⟨sound, ⟨fun _ member => member, fun _ member => member, fun _ member => member⟩, ?_⟩
      intro _ place bound
      exact absurd bound (Nat.not_lt_zero place)
  | cons item rest ih =>
      intro result
      cases ran : defineItem host businessChecksEnabled requirements sources index item loop with
      | error thrown =>
          have stops : result = (loop, some thrown) := by
            simp only [result, defineItems, ran]
          rw [stops]
          exact ⟨sound, ⟨fun _ member => member, fun _ member => member,
            fun _ member => member⟩, nofun⟩
      | ok next =>
          obtain ⟨grows, handled, effect⟩ := defineItem_cases sound.numbered ran
          have onward : Sound base next := by
            rcases effect with leaves | ⟨id, check, writes⟩
            · exact sound_leaves sound grows leaves
            · exact sound_writes sound grows writes
          have goes : result = defineItems host businessChecksEnabled requirements sources
              (index + 1) rest next := by
            simp only [result, defineItems, ran]
          rw [goes]
          obtain ⟨final, further, all⟩ := @ih next (index + 1) onward
          refine ⟨final, ⟨fun saved member => further.accepted saved (grows.accepted saved member),
            fun issue member => further.issues issue (grows.issues issue member),
            fun id member => further.updated id (grows.updated id member)⟩, ?_⟩
          intro quiet place bound
          cases place with
          | zero =>
              rcases handled with ⟨saved, member, same⟩ | ⟨issue, member, same⟩
              · exact .inl ⟨saved, further.accepted saved member, same⟩
              · exact .inr ⟨issue, further.issues issue member, same⟩
          | succ place =>
              have later := all quiet place (Nat.lt_of_succ_lt_succ bound)
              rwa [Nat.add_right_comm] at later

end Batches

structure Request (Item : Type) where
  batch : Batch Item
  requirements : List SpecRequirement
  sources : List (String × String)

section Calls

variable {Item : Type} (host : Host Item) (businessChecksEnabled : Bool)

def call (request : Request Item) (catalog : Catalog) : Catalog × Except Thrown Answer :=
  define host businessChecksEnabled request.requirements request.sources request.batch catalog

def defineAll (requests : List (Request Item)) (catalog : Catalog) : Catalog :=
  requests.foldl (fun current request => (call host businessChecksEnabled request current).1)
    catalog

def Faulty (batch : Batch Item) (catalog : Catalog) : Prop :=
  (∀ items, batch.items = some items → filled 100 items = false) ∨
    batch.expectedRevision ≠ catalog.revision

def Expands (request : Request Item) (catalog : Catalog) : Prop :=
  Faulty request.batch catalog ∨ ∀ items, request.batch.items = some items →
    AllExpandable host businessChecksEnabled request.requirements request.sources 0 items
      { checks := catalog.checks }

/-- The item may get to its expansion: apart from its identifier nothing is wrong with it, and the
identifier is that of a check with the same requirement, or one an earlier item may have got. -/
def Attempted (request : Request Item) (catalog : Catalog) (index : Nat)
    (checkId : Option String) (check : Check) : Prop :=
  refusal businessChecksEnabled request.requirements { checks := catalog.checks } none check =
      none ∧
    ∀ id, checkId = some id →
      match stored id catalog.checks with
      | some old => check.requirementId = old.requirementId ∧
          (contracted old = true → contracted check = true)
      | none => ∃ earlier < index,
          id = "check-" ++ toString (catalog.checks.length + earlier + 1)

/-- The batch is at fault, or the items that may get to their expansion can be expanded. -/
def BatchExpands (request : Request Item) (catalog : Catalog) : Prop :=
  Faulty request.batch catalog ∨ ∀ items, request.batch.items = some items →
    ∀ index item checkId check requirement, items[index]? = some item →
      host.parse item = .ok (checkId, check) →
      Attempted businessChecksEnabled request catalog index checkId check →
      requirementOf request.requirements check.requirementId = some requirement →
      ∃ criterion, expandSpecCheck check requirement
        (checkId.getD ("input-" ++ toString index)) = .ok criterion

structure Meets (request : Request Item) (catalog after : Catalog)
    (result : Except Thrown Answer) : Prop where
  thrown : ∀ failure, result = .error failure → Faulty request.batch catalog ∧ after = catalog
  kept : ∀ id old, stored id catalog.checks = some old →
    ∃ next, stored id after.checks = some next ∧ next.requirementId = old.requirementId ∧
      (contracted old = true → contracted next = true) ∧
      (next ≠ old → ∃ answer, result = .ok answer ∧
        ∃ saved ∈ answer.saved, saved.checkId = id)
  revision : after.revision =
    if after.checks = catalog.checks then catalog.revision else catalog.revision + 1
  handled : ∀ answer items, result = .ok answer → request.batch.items = some items →
    ∀ index < items.length, (∃ saved ∈ answer.saved, saved.inputIndex = index) ∨
      ∃ issue ∈ answer.issues, issue.inputIndex = index

structure Orderly (catalog : Catalog) : Prop where
  numbered : Numbered catalog.checks
  bound : catalog.checks.length ≤ 500

variable {host businessChecksEnabled} {request : Request Item} {catalog : Catalog}

theorem meets_refused {failure : Thrown} (faulty : Faulty request.batch catalog) :
    Meets request catalog catalog (.error failure) where
  thrown _ _ := ⟨faulty, rfl⟩
  kept _ old found := ⟨old, found, rfl, fun before => before, fun differs => absurd rfl differs⟩
  revision := (if_pos rfl).symm
  handled _ _ answered := by cases answered

/-- Either the batch is at fault and nothing happens, or its items are defined. -/
theorem call_cases (request : Request Item) (catalog : Catalog) :
    (Faulty request.batch catalog ∧ ∃ failure,
      call host businessChecksEnabled request catalog = (catalog, .error failure)) ∨
    (¬ Faulty request.batch catalog ∧ ∃ items, request.batch.items = some items ∧
      let result := defineItems host businessChecksEnabled request.requirements request.sources 0
        items { checks := catalog.checks }
      (∀ thrown, result.2 = some thrown →
        call host businessChecksEnabled request catalog =
          ({ catalog with checks := result.1.checks }, .error thrown)) ∧
      (result.2 = none →
        let revision := if result.1.changed then catalog.revision + 1 else catalog.revision
        call host businessChecksEnabled request catalog =
          ({ checks := result.1.checks, revision }, .ok
            { accepted := result.1.issues.isEmpty, revision, saved := result.1.accepted
              issues := result.1.issues }))) := by
  rw [call, define]
  cases batch : request.batch.items with
  | none =>
      refine .inl ⟨.inl ?_, .batch, rfl⟩
      rw [batch]
      exact nofun
  | some items =>
      dsimp only
      cases size : filled 100 items with
      | false =>
          refine .inl ⟨.inl ?_, .batch, rfl⟩
          rw [batch]
          rintro _ ⟨⟩
          exact size
      | true =>
          simp only [Bool.not_true, Bool.false_eq_true, if_false]
          by_cases current : request.batch.expectedRevision = catalog.revision
          · rw [if_neg (not_not.mpr current)]
            refine .inr ⟨?_, items, rfl, ?_, ?_⟩
            · rintro (malformed | stale)
              · have empty := malformed items batch
                rw [size] at empty
                cases empty
              · exact stale current
            · intro thrown here
              split
              · rename_i loop failure ran
                rw [ran] at here ⊢
                cases here
                rfl
              · rename_i loop ran
                rw [ran] at here
                cases here
            · intro quiet
              split
              · rename_i loop failure ran
                rw [ran] at quiet
                cases quiet
              · rename_i loop ran
                rw [ran]
          · rw [if_pos current]
            exact .inl ⟨.inr current, _, rfl⟩

theorem call_orderly (orderly : Orderly catalog) (request : Request Item) :
    Orderly (call host businessChecksEnabled request catalog).1 := by
  rcases @call_cases _ host businessChecksEnabled request catalog with
    ⟨_, failure, same⟩ | ⟨_, items, _, threw, quiet⟩
  · rw [same]
    exact orderly
  · obtain ⟨sound, -⟩ := @defineItems_sound _ host businessChecksEnabled request.requirements
      request.sources _ _ 0 items (sound_start orderly.numbered orderly.bound)
    cases result : (defineItems host businessChecksEnabled request.requirements request.sources 0
        items { checks := catalog.checks }).2 with
    | some thrown =>
        rw [threw thrown result]
        exact ⟨sound.numbered, sound.bound⟩
    | none =>
        rw [quiet result]
        exact ⟨sound.numbered, sound.bound⟩

theorem call_meets (orderly : Orderly catalog)
    (expands : Expands host businessChecksEnabled request catalog) :
    Meets request catalog (call host businessChecksEnabled request catalog).1
      (call host businessChecksEnabled request catalog).2 := by
  rcases @call_cases _ host businessChecksEnabled request catalog with
    ⟨faulty, failure, same⟩ | ⟨sane, items, batch, _, quiet⟩
  · rw [same]
    exact meets_refused faulty
  · have all := (expands.resolve_left sane) items batch
    have silent := (defineItems_thrown items).mpr all
    obtain ⟨sound, _, handled⟩ := @defineItems_sound _ host businessChecksEnabled
      request.requirements request.sources _ _ 0 items
      (sound_start orderly.numbered orderly.bound)
    rw [quiet silent]
    refine ⟨nofun, ?_, ?_, ?_⟩
    · intro id old found
      obtain ⟨next, here, requirement, bound, reported⟩ := sound.follows id old found
      exact ⟨next, here, requirement, bound, fun differs => ⟨_, rfl, reported differs⟩⟩
    · dsimp only
      split
      · rename_i changed
        rw [if_neg]
        intro same
        obtain ⟨id, _, check, here, other⟩ := sound.differs changed
        exact other (same ▸ here)
      · rename_i unchanged
        rw [if_pos (sound.same (Bool.eq_false_of_not_eq_true unchanged))]
    · rintro _ others ⟨⟩ batch' index bound
      obtain rfl : items = others := Option.some.inj (batch.symm.trans batch')
      have here := handled silent index bound
      rwa [Nat.zero_add] at here

theorem expands_of_meets
    (meets : Meets request catalog (call host businessChecksEnabled request catalog).1
      (call host businessChecksEnabled request catalog).2) :
    Expands host businessChecksEnabled request catalog := by
  rcases @call_cases _ host businessChecksEnabled request catalog with
    ⟨faulty, _⟩ | ⟨sane, items, batch, threw, _⟩
  · exact .inl faulty
  · right
    intro others batch'
    obtain rfl : items = others := Option.some.inj (batch.symm.trans batch')
    refine (defineItems_thrown items).mp ?_
    cases result : (defineItems host businessChecksEnabled request.requirements request.sources 0
        items { checks := catalog.checks }).2 with
    | none => rfl
    | some thrown =>
        have failed := threw thrown result
        rw [failed] at meets
        exact absurd (meets.thrown thrown rfl).1 sane

theorem refusal_unnamed {requirements : List SpecRequirement} {loop other : Loop}
    {checkId : Option String} {check : Check}
    (passes : refusal businessChecksEnabled requirements loop checkId check = none) :
    refusal businessChecksEnabled requirements other none check = none := by
  unfold refusal at passes ⊢
  dsimp only at passes
  split at passes
  · cases passes
  · split at passes
    · cases passes
    · rename_i format
      split at passes
      · cases passes
      · rename_i required
        split at passes
        · cases passes
        · split at passes
          · cases passes
          · split at passes
            · cases passes
            · rename_i conflict
              simp only [Option.any_none, Bool.false_eq_true, if_false, Option.bind_none, format,
                required, conflict]

theorem defineItem_length {requirements : List SpecRequirement} {sources : List (String × String)}
    {loop next : Loop} {index : Nat} {item : Item} (numbered : Numbered loop.checks)
    (ran : defineItem host businessChecksEnabled requirements sources index item loop = .ok next) :
    next.checks.length ≤ loop.checks.length + 1 := by
  obtain ⟨-, -, leaves | ⟨id, check, writes⟩⟩ := defineItem_cases numbered ran
  · rw [leaves.1]
    exact Nat.le_succ _
  · rw [writes.checks]
    by_cases absent : stored id loop.checks = none
    · rw [store_append absent, List.length_append, List.length_singleton]
    · have keys := congrArg List.length (@store_keys _ _ check absent)
      rw [List.length_map, List.length_map] at keys
      omega

theorem attempted_of_refusal (orderly : Orderly catalog) {loop : Loop}
    (sound : Sound catalog.checks loop) {index : Nat}
    (grown : loop.checks.length ≤ catalog.checks.length + index) {checkId : Option String}
    {check : Check}
    (passes : refusal businessChecksEnabled request.requirements loop checkId check = none) :
    Attempted businessChecksEnabled request catalog index checkId check := by
  refine ⟨refusal_unnamed passes, fun id named => ?_⟩
  obtain ⟨now, here, -, requirement, bound⟩ := (admitted_of_refusal passes).1.known id named
  cases found : stored id catalog.checks with
  | some old =>
      obtain ⟨next, there, requirement', bound', -⟩ := sound.follows id old found
      obtain rfl : now = next := Option.some.inj (here.symm.trans there)
      exact ⟨requirement.trans requirement', fun before => bound (bound' before)⟩
  | none =>
      have listed : id ∈ loop.checks.map Prod.fst := by
        by_contra absent
        rw [stored_none.mpr absent] at here
        cases here
      have unlisted := stored_none.mp found
      rw [sound.numbered] at listed
      rw [orderly.numbered] at unlisted
      obtain ⟨place, inside, rfl⟩ := List.mem_map.mp listed
      rw [List.mem_range] at inside
      have beyond : catalog.checks.length ≤ place := by
        by_contra before
        exact unlisted (List.mem_map.mpr ⟨place, List.mem_range.mpr (by omega), rfl⟩)
      refine ⟨place - catalog.checks.length, by omega, ?_⟩
      rw [show catalog.checks.length + (place - catalog.checks.length) = place by omega]

theorem allExpandable_of_attempted (orderly : Orderly catalog) {items : List Item} {loop : Loop}
    {index : Nat} (sound : Sound catalog.checks loop)
    (grown : loop.checks.length ≤ catalog.checks.length + index)
    (expands : ∀ place item checkId check requirement, items[place]? = some item →
      host.parse item = .ok (checkId, check) →
      Attempted businessChecksEnabled request catalog (index + place) checkId check →
      requirementOf request.requirements check.requirementId = some requirement →
      ∃ criterion, expandSpecCheck check requirement
        (checkId.getD ("input-" ++ toString (index + place))) = .ok criterion) :
    AllExpandable host businessChecksEnabled request.requirements request.sources index items
      loop := by
  induction items generalizing index loop with
  | nil => trivial
  | cons item rest ih =>
      refine ⟨fun checkId check requirement parsed passes required =>
        expands 0 item checkId check requirement rfl parsed
          (attempted_of_refusal orderly sound grown passes) required, fun next ran => ?_⟩
      obtain ⟨grows, -, effect⟩ := defineItem_cases sound.numbered ran
      have onward : Sound catalog.checks next := by
        rcases effect with leaves | ⟨id, check, writes⟩
        · exact sound_leaves sound grows leaves
        · exact sound_writes sound grows writes
      have longer := defineItem_length sound.numbered ran
      refine ih onward (by omega) ?_
      intro place other checkId check requirement found
      rw [show index + 1 + place = index + (place + 1) by omega]
      exact expands (place + 1) other checkId check requirement found

theorem expands_of_batch (orderly : Orderly catalog)
    (expands : BatchExpands host businessChecksEnabled request catalog) :
    Expands host businessChecksEnabled request catalog := by
  refine expands.imp_right fun all items batch => ?_
  refine allExpandable_of_attempted orderly (sound_start orderly.numbered orderly.bound)
    (Nat.le_refl _) ?_
  intro place item checkId check requirement found parsed attempted required
  rw [Nat.zero_add] at attempted ⊢
  exact all items batch place item checkId check requirement found parsed attempted required

/-- A new check that nothing else is wrong with gets to its expansion. -/
theorem expandable_new {items : List Item} {loop : Loop} {index place : Nat} {item : Item}
    {check : Check} {requirement : SpecRequirement}
    (all : AllExpandable host businessChecksEnabled request.requirements request.sources index
      items loop)
    (found : items[place]? = some item) (parsed : host.parse item = .ok (none, check))
    (passes : refusal businessChecksEnabled request.requirements loop none check = none)
    (required : requirementOf request.requirements check.requirementId = some requirement) :
    ∃ criterion, expandSpecCheck check requirement ("input-" ++ toString (index + place)) =
      .ok criterion := by
  induction items generalizing index place loop with
  | nil => simp at found
  | cons first rest ih =>
      cases place with
      | zero =>
          obtain rfl : first = item := by simpa using found
          exact all.1 none check requirement parsed passes required
      | succ place =>
          obtain ⟨next, ran⟩ := (@expandable_iff _ _ _ _ request.sources _ _ _).mp all.1
          have later := ih (all.2 next ran) (by simpa using found) (refusal_unnamed passes)
          rw [show index + (place + 1) = index + 1 + place by omega]
          exact later

theorem defineAll_orderly (orderly : Orderly catalog) (requests : List (Request Item)) :
    Orderly (defineAll host businessChecksEnabled requests catalog) :=
  foldl_invariant Orderly orderly fun _ request _ current => call_orderly current request

theorem opened_orderly : Orderly {} :=
  ⟨rfl, Nat.zero_le 500⟩

end Calls

section Examples

def exampleHost : Host (Option String × Check) where
  parse item := .ok item
  criterionIssues _ _ := []
  reports _ _ refused := by cases refused

def exampleRequest : Request (Option String × Check) where
  batch :=
    { expectedRevision := 0
      items := some [
        (none, { requirementId := "requirement-1", description := "保存按钮可用。"
                 observationTargets := some [{ label := "保存", expectedText := "保存" }] }),
        (none, { requirementId := "requirement-1", description := "取消按钮可用。" })] }
  requirements := [{ id := "requirement-1", sourceRef := "issue", quote := "保存" }]
  sources := [("issue", "保存")]

end Examples

end SpecChecks

end Devproof
