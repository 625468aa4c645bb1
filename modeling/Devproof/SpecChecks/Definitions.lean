import Devproof.SpecChecks.Catalog

/-!
What a batch of definitions leaves of the catalog, and when it reaches its end.
-/

namespace Devproof

namespace SpecChecks

section Tables

variable {checks : List (String × Check)} {id other : String} {check : Check}

def Numbered (checks : List (String × Check)) : Prop :=
  checks.map Prod.fst = (List.range checks.length).map fun index =>
    "check-" ++ toString (index + 1)

theorem checkName_injective {first second : Nat}
    (same : "check-" ++ toString (first + 1) = "check-" ++ toString (second + 1)) :
    first = second :=
  Nat.succ.inj (toString_injective (append_left_injective _ same))

theorem Numbered.nodup (numbered : Numbered checks) : (checks.map Prod.fst).Nodup := by
  rw [numbered]
  exact List.Nodup.map (fun _ _ => checkName_injective) List.nodup_range

theorem Numbered.fresh (numbered : Numbered checks) :
    "check-" ++ toString (checks.length + 1) ∉ checks.map Prod.fst := by
  rw [numbered]
  intro member
  obtain ⟨index, bound, same⟩ := List.mem_map.mp member
  have equal := checkName_injective same
  rw [equal, List.mem_range] at bound
  exact lt_irrefl _ bound

theorem stored_mem (found : stored id checks = some check) : (id, check) ∈ checks := by
  obtain ⟨entry, here, rfl⟩ := Option.map_eq_some_iff.mp found
  have key := List.find?_some here
  rw [beq_iff_eq] at key
  rw [← key]
  exact List.mem_of_find?_eq_some here

theorem stored_none : stored id checks = none ↔ id ∉ checks.map Prod.fst := by
  rw [stored, Option.map_eq_none_iff, List.find?_eq_none, List.mem_map]
  constructor
  · rintro absent ⟨entry, member, same⟩
    exact absent entry member (beq_iff_eq.mpr same)
  · intro absent entry member same
    exact absent ⟨entry, member, beq_iff_eq.mp same⟩

theorem stored_of_mem (nodup : (checks.map Prod.fst).Nodup) (member : (id, check) ∈ checks) :
    stored id checks = some check := by
  cases found : stored id checks with
  | none => exact absurd (List.mem_map_of_mem member) (stored_none.mp found)
  | some old =>
      have same := List.inj_on_of_nodup_map nodup (stored_mem found) member rfl
      exact congrArg some (Prod.mk.inj same).2

theorem any_key : (checks.any fun entry => entry.1 == id) = true ↔ stored id checks ≠ none := by
  rw [ne_eq, stored_none, not_not, List.any_eq_true, List.mem_map]
  constructor
  · rintro ⟨entry, member, same⟩
    exact ⟨entry, member, beq_iff_eq.mp same⟩
  · rintro ⟨entry, member, same⟩
    exact ⟨entry, member, beq_iff_eq.mpr same⟩

theorem store_keys (present : stored id checks ≠ none) :
    (store id check checks).map Prod.fst = checks.map Prod.fst := by
  rw [store, if_pos (any_key.mpr present), List.map_map]
  apply List.map_congr_left
  intro entry _
  simp only [Function.comp_apply]
  split
  · rename_i same
    exact (beq_iff_eq.mp same).symm
  · rfl

theorem store_append (absent : stored id checks = none) :
    store id check checks = checks ++ [(id, check)] := by
  rw [store, if_neg]
  intro present
  exact any_key.mp present absent

theorem mem_store {entry : String × Check} :
    entry ∈ store id check checks ↔
      entry = (id, check) ∨ (entry ∈ checks ∧ entry.1 ≠ id) := by
  by_cases absent : stored id checks = none
  · rw [store_append absent, List.mem_append, List.mem_singleton]
    constructor
    · rintro (member | same)
      · refine .inr ⟨member, fun key => ?_⟩
        exact stored_none.mp absent (List.mem_map.mpr ⟨entry, member, key⟩)
      · exact .inl same
    · rintro (same | ⟨member, _⟩)
      · exact .inr same
      · exact .inl member
  · rw [store, if_pos (any_key.mpr absent), List.mem_map]
    constructor
    · rintro ⟨old, member, rfl⟩
      split
      · exact .inl rfl
      · rename_i distinct
        rw [beq_iff_eq] at distinct
        exact .inr ⟨member, distinct⟩
    · rintro (rfl | ⟨member, distinct⟩)
      · obtain ⟨old, member, same⟩ := List.any_eq_true.mp (any_key.mpr absent)
        exact ⟨old, member, if_pos same⟩
      · refine ⟨entry, member, if_neg ?_⟩
        rw [beq_iff_eq]
        exact distinct

theorem store_numbered (numbered : Numbered checks)
    (key : stored id checks ≠ none ∨ id = "check-" ++ toString (checks.length + 1)) :
    Numbered (store id check checks) := by
  by_cases absent : stored id checks = none
  · obtain rfl := key.resolve_left (not_not.mpr absent)
    rw [store_append absent, Numbered, List.map_append, numbered, List.length_append,
      List.length_singleton, List.range_succ, List.map_append]
    rfl
  · have size : (store id check checks).length = checks.length := by
      have keys := congrArg List.length (@store_keys _ _ check absent)
      rwa [List.length_map, List.length_map] at keys
    rw [Numbered, store_keys absent, size]
    exact numbered

theorem stored_store_same (nodup : ((store id check checks).map Prod.fst).Nodup) :
    stored id (store id check checks) = some check :=
  stored_of_mem nodup (mem_store.mpr (.inl rfl))

theorem stored_store_other (nodup : (checks.map Prod.fst).Nodup)
    (nodup' : ((store id check checks).map Prod.fst).Nodup) (distinct : other ≠ id) :
    stored other (store id check checks) = stored other checks := by
  cases found : stored other checks with
  | some old => exact stored_of_mem nodup' (mem_store.mpr (.inr ⟨stored_mem found, distinct⟩))
  | none =>
      cases found' : stored other (store id check checks) with
      | none => rfl
      | some next =>
          rcases mem_store.mp (stored_mem found') with same | ⟨member, _⟩
          · exact absurd (congrArg Prod.fst same) distinct
          · rw [stored_of_mem nodup member] at found
            cases found

end Tables

def Handled (index : Nat) (loop : Loop) : Prop :=
  (∃ saved ∈ loop.accepted, saved.inputIndex = index) ∨
    ∃ issue ∈ loop.issues, issue.inputIndex = index

structure Grows (loop next : Loop) : Prop where
  accepted : ∀ saved ∈ loop.accepted, saved ∈ next.accepted
  issues : ∀ issue ∈ loop.issues, issue ∈ next.issues
  updated : ∀ id ∈ loop.updated, id ∈ next.updated

structure Writes (loop next : Loop) (id : String) (check : Check) : Prop where
  checks : next.checks = store id check loop.checks
  changed : next.changed = true
  updated : next.updated = loop.updated ++ [id]
  saved : ∃ saved ∈ next.accepted, saved.checkId = id
  differs : stored id loop.checks ≠ some check
  key : (∃ old, stored id loop.checks = some old ∧ id ∉ loop.updated ∧
      check.requirementId = old.requirementId ∧
        (contracted old = true → contracted check = true)) ∨
    (stored id loop.checks = none ∧ id = "check-" ++ toString (loop.checks.length + 1) ∧
      loop.checks.length < 500)

def Leaves (loop next : Loop) : Prop :=
  next.checks = loop.checks ∧ next.changed = loop.changed

section Items

variable {Item : Type} {host : Host Item} {businessChecksEnabled : Bool}
  {requirements : List SpecRequirement} {sources : List (String × String)}
  {loop next : Loop} {index : Nat} {item : Item} {checkId : Option String} {check : Check}

structure Admitted (loop : Loop) (checkId : Option String) (check : Check) : Prop where
  known : ∀ id, checkId = some id → ∃ old, stored id loop.checks = some old ∧
    id ∉ loop.updated ∧ check.requirementId = old.requirementId ∧
      (contracted old = true → contracted check = true)

theorem admitted_of_refusal
    (passes : refusal businessChecksEnabled requirements loop checkId check = none) :
    Admitted loop checkId check ∧ ∃ requirement,
      requirementOf requirements check.requirementId = some requirement := by
  rw [refusal] at passes
  split at passes
  · cases passes
  · rename_i valid
    split at passes
    · cases passes
    · split at passes
      · cases passes
      · rename_i required
        split at passes
        · cases passes
        · rename_i mapped
          split at passes
          · cases passes
          · rename_i bound
            refine ⟨⟨?_⟩, Option.ne_none_iff_exists'.mp fun none => ?_⟩
            · rintro id rfl
              rw [Option.any_some, Bool.not_eq_true, Bool.or_eq_false_iff] at valid
              cases found : stored id loop.checks with
              | none =>
                  rw [found] at valid
                  cases valid.1
              | some old =>
                  refine ⟨old, rfl, fun member => ?_, ?_, fun before => ?_⟩
                  · rw [List.contains_iff_mem.mpr member] at valid
                    cases valid.2
                  · rw [Option.bind_some, found, Option.any_some, bne_iff_ne, ne_eq,
                      not_not] at mapped
                    exact mapped.symm
                  · rw [Option.bind_some, found, Option.any_some, before, Bool.true_and,
                      Bool.not_eq_true', Bool.not_eq_false] at bound
                    exact bound
            · rw [none] at required
              exact required rfl

theorem save_cases (numbered : Numbered loop.checks) (admitted : Admitted loop checkId check) :
    Grows loop (save index checkId check loop) ∧ Handled index (save index checkId check loop) ∧
      (Leaves loop (save index checkId check loop) ∨
        ∃ id, Writes loop (save index checkId check loop) id check) := by
  rw [save]
  dsimp only
  split
  · refine ⟨⟨fun _ member => member, fun _ member => List.mem_append_left _ member,
      fun _ member => member⟩, .inr ⟨_, List.mem_append_right _ (List.mem_singleton_self _), rfl⟩,
      .inl ⟨rfl, rfl⟩⟩
  · rename_i room
    refine ⟨⟨fun _ member => List.mem_append_left _ member, fun _ member => member,
      fun _ member => List.mem_append_left _ member⟩,
      .inl ⟨_, List.mem_append_right _ (List.mem_singleton_self _), rfl⟩, ?_⟩
    by_cases differs : stored ((checkId.or ((loop.checks.find? fun entry =>
        entry.2 == check).map Prod.fst)).getD
          ("check-" ++ toString (loop.checks.length + 1))) loop.checks = some check
    · left
      rw [Leaves, differs]
      simp
    · right
      refine ⟨_, ?_, ?_, rfl, ⟨_, List.mem_append_right _ (List.mem_singleton_self _), rfl⟩,
        differs, ?_⟩
      · exact if_pos (bne_iff_ne.mpr differs)
      · show (loop.changed || _) = true
        rw [bne_iff_ne.mpr differs, Bool.or_true]
      · cases given : checkId with
        | some id => exact .inl (admitted.known id given)
        | none =>
            rw [given] at room differs
            cases identical : loop.checks.find? fun entry => entry.2 == check with
            | some entry =>
                -- an identical check is found under its own identifier
                rw [identical] at differs
                have same := List.find?_some identical
                rw [beq_iff_eq] at same
                have member := List.mem_of_find?_eq_some identical
                have found := stored_of_mem numbered.nodup
                  (show (entry.1, entry.2) ∈ loop.checks from member)
                rw [same] at found
                exact absurd found differs
            | none =>
                rw [identical] at room
                refine .inr ⟨stored_none.mpr numbered.fresh, rfl, ?_⟩
                simpa using room

theorem defineItem_cases (numbered : Numbered loop.checks)
    (ran : defineItem host businessChecksEnabled requirements sources index item loop =
      .ok next) :
    Grows loop next ∧ Handled index next ∧
      (Leaves loop next ∨ ∃ id check, Writes loop next id check) := by
  have reported : ∀ issues : List CatalogIssue,
      Grows loop { loop with issues := loop.issues ++ issues } := by
    intro issues
    exact ⟨fun _ member => member, fun _ member => List.mem_append_left _ member,
      fun _ member => member⟩
  rw [defineItem] at ran
  split at ran
  · rename_i issues refused
    cases ran
    refine ⟨reported _, .inr ?_, .inl ⟨rfl, rfl⟩⟩
    obtain ⟨issue, rest, rfl⟩ := List.exists_cons_of_ne_nil (host.reports item issues refused)
    exact ⟨complain index none none issue,
      List.mem_append_right _ (List.mem_map_of_mem (List.mem_cons_self ..)), rfl⟩
  · rename_i checkId check parsed
    split at ran
    · cases ran
      exact ⟨reported _, .inr ⟨_, List.mem_append_right _ (List.mem_singleton_self _), rfl⟩,
        .inl ⟨rfl, rfl⟩⟩
    · rename_i passes
      obtain ⟨admitted, requirement, required⟩ := admitted_of_refusal passes
      rw [required] at ran
      dsimp only at ran
      split at ran
      · cases ran
      · split at ran
        · cases ran
          obtain ⟨grows, handled, leaves | ⟨id, writes⟩⟩ :=
            @save_cases _ index _ _ numbered admitted
          · exact ⟨grows, handled, .inl leaves⟩
          · exact ⟨grows, handled, .inr ⟨id, check, writes⟩⟩
        · rename_i issues filled
          cases ran
          refine ⟨reported _, .inr ?_, .inl ⟨rfl, rfl⟩⟩
          obtain ⟨issue, rest, same⟩ := List.exists_cons_of_ne_nil filled
          refine ⟨complain index checkId (some check.requirementId) issue,
            List.mem_append_right _ (List.mem_map_of_mem ?_), rfl⟩
          rw [same]
          exact List.mem_cons_self ..

theorem defineItem_identical (parsed : host.parse item = .ok (none, check)) {id : String}
    (member : (id, check) ∈ loop.checks) (numbered : Numbered loop.checks)
    (ran : defineItem host businessChecksEnabled requirements sources index item loop =
      .ok next) :
    next.checks = loop.checks ∧ ∀ saved ∈ next.accepted, saved ∈ loop.accepted ∨
      (saved.inputIndex = index ∧ (saved.checkId, check) ∈ loop.checks) := by
  rw [defineItem, parsed] at ran
  dsimp only at ran
  split at ran
  · cases ran
    exact ⟨rfl, fun _ known => .inl known⟩
  · split at ran
    · cases ran
      exact ⟨rfl, fun _ known => .inl known⟩
    · split at ran
      · cases ran
      · split at ran
        · cases ran
          cases identical : loop.checks.find? fun entry => entry.2 == check with
          | none =>
              exact absurd (beq_self_eq_true check) (List.find?_eq_none.mp identical _ member)
          | some entry =>
              have same := List.find?_some identical
              rw [beq_iff_eq] at same
              have present := List.mem_of_find?_eq_some identical
              have own : (entry.1, check) ∈ loop.checks := same ▸ present
              have found := stored_of_mem numbered.nodup own
              rw [save, identical]
              simp only [Option.none_or, Option.map_some, Option.isNone_some, Bool.false_and,
                Bool.false_eq_true, if_false, Option.getD_some, found, bne_self_eq_false]
              refine ⟨trivial, fun saved reported => ?_⟩
              rcases List.mem_append.mp reported with known | added
              · exact .inl known
              · rw [List.mem_singleton.mp added]
                exact .inr ⟨rfl, own⟩
        · cases ran
          exact ⟨rfl, fun _ known => .inl known⟩

end Items

end SpecChecks

end Devproof
