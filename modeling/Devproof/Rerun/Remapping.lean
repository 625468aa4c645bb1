import Devproof.Rerun.LegacyRequirements

/-!
What renaming source references leaves of a canonical text, and what remapping that reports no
missing source does.
-/

namespace Devproof.CaseRerun

open Parsing Schemas Patterns

section Digests

variable (platform : Platform)

theorem sortEntries_map {α β : Type} (change : α → β) (members : List (Text × α)) :
    (sortEntries platform members).map (Prod.map id change) =
      sortEntries platform (members.map (Prod.map id change)) := by
  rw [sortEntries, ofMembers_map, ← byName_map, sortEntries]

theorem mem_sortEntries {α : Type} {members : List (Text × α)} {entry : Text × α}
    (member : entry ∈ sortEntries platform members) : entry ∈ members :=
  (byName_perm members).mem_iff.mp (mem_ofMembers member)

theorem sortJson_well {value : Value} (well : value.Well Number.Readable fun _ => True) :
    (sortJson platform value).Well Number.Readable fun _ => True := by
  induction well with
  | null => exact .null
  | bool value => exact .bool value
  | num held => exact .num held
  | str value => exact .str value
  | arr held ih =>
      simp only [sortJson, Value.transform, transformItems_eq]
      exact .arr (by simpa [sortJson] using ih)
  | obj named held ih =>
      simp only [sortJson, Value.transform, transformMembers_eq]
      refine .obj trivial fun entry member => ?_
      obtain ⟨known, inside, rfl⟩ := List.mem_map.mp (mem_sortEntries platform member)
      exact ih known inside

theorem stringify_sorted (value : Value) :
    stringify platform.formatNumber (value.transform Number.written (sortEntries platform)) =
      canonicalJson platform value := by
  rw [canonicalJson, sortJson]
  induction value using Value.induct with
  | null | bool | str => rfl
  | num number => cases number <;> rfl
  | arr items ih =>
      simp only [Value.transform, transformItems_eq, stringify, Parsing.itemTexts_eq, List.map_map]
      exact congrArg (fun texts => code '[' :: (Parsing.joined texts ++ [code ']']))
        (List.map_congr_left ih)
  | obj members ih =>
      simp only [Value.transform, transformMembers_eq, stringify, Parsing.memberTexts_eq,
        sortEntries_map]
      refine congrArg (fun texts => code '\x7b' ::
        (Parsing.joined ((sortEntries platform texts).map Parsing.memberText) ++ [code '\x7d'])) ?_
      rw [List.map_map, List.map_map]
      refine List.map_congr_left ?_
      intro entry member
      exact Prod.ext rfl (ih entry member)

theorem readBack_sorted (value : Value) :
    (sortJson platform value).readBack = value.transform Number.written (sortEntries platform) := by
  have sorted : (ofMembers ∘ sortEntries platform : List (Text × Value) → _) =
      sortEntries platform :=
    funext fun members => ofMembers_ofMembers _
  have merged := @transform_transform Value.num Number.written Number.written ofMembers
    (sortEntries platform) (fun _ => rfl) (fun change => sortEntries_map platform change) value
  rwa [sorted] at merged

theorem canonicalJson_mapText (numbers : Parsing.NumberTexts platform.formatNumber)
    (change : Text → Text) {left right : Value}
    (first : left.Well Number.Readable fun _ => True)
    (second : right.Well Number.Readable fun _ => True)
    (same : canonicalJson platform left = canonicalJson platform right) :
    canonicalJson platform (mapText change left) =
      canonicalJson platform (mapText change right) := by
  have parsed := parse_stringify numbers (sortJson_well platform first)
  rw [← canonicalJson, same, canonicalJson, parse_stringify numbers (sortJson_well platform second),
    Option.some.injEq, readBack_sorted, readBack_sorted] at parsed
  have moved : ∀ value : Value,
      mapText change (value.transform Number.written (sortEntries platform)) =
        (mapText change value).transform Number.written (sortEntries platform) :=
    mapText_transform change (fun known => by cases known <;> rfl)
      fun change => sortEntries_map platform change
  have renamed := congrArg (mapText change) parsed
  rw [moved, moved] at renamed
  rw [← stringify_sorted, ← stringify_sorted, renamed]

end Digests

/-! Remapping without a missing source. -/

section Remap

variable {references : SourceMap}

def Known (references : SourceMap) (text : Text) : Prop :=
  sourcePrefix <+: text → (references.entries.lookup text).isSome

theorem bind_eq_ok {α β : Type} {first : Except Failure α} {next : α → Except Failure β}
    {result : β} (ran : first.bind next = .ok result) :
    ∃ value, first = .ok value ∧ next value = .ok result := by
  cases first with
  | error failure => cases ran
  | ok value => exact ⟨value, rfl, ran⟩

theorem map_eq_ok {α β : Type} {first : Except Failure α} {next : α → β} {result : β}
    (ran : first.map next = .ok result) : ∃ value, first = .ok value ∧ next value = result := by
  cases first with
  | error failure => cases ran
  | ok value => exact ⟨value, rfl, Except.ok.inj ran⟩

theorem bind_eq_error {α β : Type} {first : Except Failure α} {next : α → Except Failure β}
    {failure : Failure} (ran : first.bind next = .error failure) :
    first = .error failure ∨ ∃ value, first = .ok value ∧ next value = .error failure := by
  cases first with
  | error known => exact Or.inl (congrArg Except.error (Except.error.inj ran))
  | ok value => exact Or.inr ⟨value, rfl, ran⟩

theorem map_eq_error {α β : Type} {first : Except Failure α} {next : α → β} {failure : Failure}
    (ran : first.map next = .error failure) : first = .error failure := by
  cases first with
  | error known => exact congrArg Except.error (Except.error.inj ran)
  | ok value => cases ran

theorem remap_known {value : Value} (held : Strings (Known references) value) :
    remapSourceReferences references value = .ok (mapText (rename references) value) := by
  induction held with
  | null | bool | num => rfl
  | @str text known =>
      simp only [remapSourceReferences, mapText, rename]
      cases found : references.entries.lookup text with
      | some reference => rfl
      | none =>
          have plain : ¬sourcePrefix.isPrefixOf text = true := by
            intro starts
            have present := known (List.isPrefixOf_iff_prefix.mp starts)
            rw [found] at present
            cases present
          rw [if_neg plain]
          rfl
  | @arr items held ih =>
      have each : remapItems references items = .ok (items.map (mapText (rename references))) := by
        clear held
        induction items with
        | nil => rfl
        | cons item rest more =>
            rw [remapItems, ih item List.mem_cons_self,
              more fun item member => ih item (List.mem_cons_of_mem _ member)]
            rfl
      rw [remapSourceReferences, each, mapText, mapItems_eq]
      rfl
  | @obj members held ih =>
      have each : remapMembers references members =
          .ok (members.map (Prod.map id (mapText (rename references)))) := by
        clear held
        induction members with
        | nil => rfl
        | cons entry rest more =>
            obtain ⟨name, value⟩ := entry
            rw [remapMembers, ih (name, value) List.mem_cons_self,
              more fun entry member => ih entry (List.mem_cons_of_mem _ member)]
            rfl
      rw [remapSourceReferences, each, mapText, mapMembers_eq]
      rfl

theorem known_of_remap {value result : Value}
    (ran : remapSourceReferences references value = .ok result) :
    Strings (Known references) value := by
  induction value using Value.induct generalizing result with
  | null => exact .null
  | bool value => exact .bool value
  | num value => exact .num value
  | str text =>
      refine .str fun starts => ?_
      by_contra missing
      have absent : references.entries.lookup text = none := Option.not_isSome_iff_eq_none.mp missing
      simp [remapSourceReferences, absent, List.isPrefixOf_iff_prefix.mpr starts] at ran
  | arr items ih =>
      obtain ⟨read, each, -⟩ := map_eq_ok ran
      refine .arr ?_
      clear ran
      induction items generalizing read with
      | nil => simp
      | cons item rest more =>
          obtain ⟨first, here, later⟩ := bind_eq_ok each
          obtain ⟨others, there, -⟩ := map_eq_ok later
          intro known member
          rcases List.mem_cons.mp member with rfl | member
          · exact ih known List.mem_cons_self here
          · exact more (fun item member => ih item (List.mem_cons_of_mem _ member)) others there
              known member
  | obj members ih =>
      obtain ⟨read, each, -⟩ := map_eq_ok ran
      refine .obj ?_
      clear ran
      induction members generalizing read with
      | nil => simp
      | cons entry rest more =>
          obtain ⟨name, value⟩ := entry
          obtain ⟨first, here, later⟩ := bind_eq_ok each
          obtain ⟨others, there, -⟩ := map_eq_ok later
          intro known member
          rcases List.mem_cons.mp member with rfl | member
          · exact ih _ List.mem_cons_self here
          · exact more (fun entry member => ih entry (List.mem_cons_of_mem _ member)) others there
              known member

/-- Remapping fails on a missing source only. -/
theorem remap_error {value : Value} {failure : Failure}
    (ran : remapSourceReferences references value = .error failure) : failure = missingSource := by
  induction value using Value.induct with
  | null | bool | num => cases ran
  | str text =>
      simp only [remapSourceReferences] at ran
      split at ran
      next => cases ran
      next =>
        split at ran
        next => exact (Except.error.inj ran).symm
        next => cases ran
  | arr items ih =>
      replace ran := map_eq_error ran
      induction items with
      | nil => cases ran
      | cons item rest more =>
          rw [remapItems] at ran
          rcases bind_eq_error ran with here | ⟨first, -, later⟩
          · exact ih item List.mem_cons_self here
          · exact more (fun item member => ih item (List.mem_cons_of_mem _ member))
              (map_eq_error later)
  | obj members ih =>
      replace ran := map_eq_error ran
      induction members with
      | nil => cases ran
      | cons entry rest more =>
          obtain ⟨name, value⟩ := entry
          rw [remapMembers] at ran
          rcases bind_eq_error ran with here | ⟨first, -, later⟩
          · exact ih _ List.mem_cons_self here
          · exact more (fun entry member => ih entry (List.mem_cons_of_mem _ member))
              (map_eq_error later)

/-- Remapping that reports no missing source renames the references throughout. -/
theorem remap_eq_ok {value result : Value}
    (ran : remapSourceReferences references value = .ok result) :
    Strings (Known references) value ∧ result = mapText (rename references) value := by
  have held := known_of_remap ran
  rw [remap_known held] at ran
  exact ⟨held, (Except.ok.inj ran).symm⟩

def Unpadded (text : Text) : Prop :=
  sourcePrefix <+: text.dropWhile isWhiteSpace → sourcePrefix <+: text

instance (text : Text) : Decidable (Unpadded text) :=
  inferInstanceAs (Decidable (_ → _))

theorem sheltered_of_known {text : Text} (unpadded : Unpadded text) (known : Known references text) :
    Sheltered text := by
  intro count reference
  have front : sourcePrefix <+: (text.take count).dropWhile isWhiteSpace :=
    reference.starts.trans (List.rdropWhile_prefix _ _)
  have whole : sourcePrefix <+: text.dropWhile isWhiteSpace := by
    refine front.trans ?_
    conv_rhs => rw [← List.take_append_drop count text]
    rw [List.dropWhile_append]
    split
    next empty =>
      rw [List.isEmpty_iff.mp empty] at front
      exact absurd (List.prefix_nil.mp front) (by decide)
    next => exact List.prefix_append _ _
  rcases @rename_cases references text with ⟨absent, -⟩ | ⟨present, -⟩
  · have found := known (unpadded whole)
    rw [absent] at found
    cases found
  · have long : text.length ≤ count := by
      have shorter : (trimWhite (text.take count)).length ≤ (text.take count).length :=
        ((List.rdropWhile_prefix _ _).length_le).trans (List.dropWhile_suffix _).length_le
      rw [reference.length, List.length_take] at shorter
      rw [present.length]
      omega
    rw [List.take_of_length_le long, trim_inert present.inert]

end Remap

end Devproof.CaseRerun
