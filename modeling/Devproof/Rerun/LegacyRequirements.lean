import Devproof.Rerun.Renaming

/-!
Renaming source references commutes with finding the account requirements of a definition.
-/

namespace Devproof.CaseRerun

open Parsing Schemas Patterns

/-! Texts that differ in references only look the same to the patterns. -/

theorem not_upper {unit : UInt16} (inert : isInert unit = true) : isUpper unit = false := by
  have range := isInert_range inert
  by_contra upper
  simp only [Bool.not_eq_false, isUpper, Bool.and_eq_true, decide_eq_true_eq,
    UInt16.le_iff_toNat_le] at upper
  simp [code] at upper
  omega

theorem blind_declinesAccounts : Blind isInert isUpper declinesAccounts :=
  blind_occurs (blind_anyOf (by decide) blind_anything)

theorem blind_startsUpper : Blind isInert isUpper startsUpper := by
  intro left right alike
  cases alike with
  | nil => rfl
  | same next rest => rfl
  | inert first second rest =>
      simp only [startsUpper, List.head?_cons, Option.any_some, not_upper first, not_upper second]

theorem blind_mentionsAccounts : Blind isInert isUpper mentionsAccounts := by
  refine blind_occurs (blind_or (blind_anyOf (by decide) blind_anything) (blind_or ?_ ?_))
  · exact blind_literal (by decide)
      (quiet.upTo (blind_literal (by decide) blind_anything) 8)
  · exact blind_literal (by decide) blind_startsUpper

theorem blind_mentionsReading : Blind isInert isUpper mentionsReading :=
  blind_occurs (blind_anyOf (by decide) blind_anything)

theorem blind_roleAt : Blind isInert isUpper roleAt := by
  intro left right alike
  have later := @after_alike isInert isUpper (key "账号") (active_of_all (by decide)) left right alike
  simp only [roleAt]
  revert later
  generalize after (key "账号") left = before
  generalize after (key "账号") right = behind
  intro later
  cases later with
  | none => rfl
  | some later =>
      simp only [Option.bind_some]
      have dropped := quiet.dropWhile_space later
      revert dropped
      generalize List.dropWhile isWhiteSpace _ = one
      generalize List.dropWhile isWhiteSpace _ = other
      intro dropped
      cases dropped with
      | nil => rfl
      | @same unit one other next rest =>
          cases upper : isUpper unit with
          | false => simp [upper]
          | true => simp [upper, next upper]
      | inert first second rest => simp [not_upper first, not_upper second]

theorem occurrences_mem {found : Text → Option Text} {text known : Text}
    (member : known ∈ occurrences found text) : ∃ place, found place = some known := by
  induction text with
  | nil => cases member
  | cons unit rest ih =>
      rcases List.mem_append.mp member with here | there
      · exact ⟨_, by simpa using here⟩
      · exact ih there

theorem roleAt_eq_some {text role : Text} (found : roleAt text = some role) :
    ∃ unit, role = key "账号" ++ [unit] := by
  obtain ⟨rest, -, found⟩ := Option.bind_eq_some_iff.mp found
  cases shape : rest.dropWhile isWhiteSpace with
  | nil => simp [shape] at found
  | cons unit later =>
      simp only [shape] at found
      split at found
      next => exact ⟨unit, (Option.some.inj found).symm⟩
      next => cases found

theorem legacyLabel_head (text : Text) :
    (legacyLabel (legacyRoles text)).head? = some (code '账') ∨
      (legacyLabel (legacyRoles text)).head? = some (code '业') := by
  cases roles : legacyRoles text with
  | nil => exact Or.inr (by decide)
  | cons role others =>
      have member : role ∈ occurrences roleAt text := by
        rw [← List.mem_eraseDups, ← legacyRoles, roles]
        exact List.mem_cons_self
      obtain ⟨place, found⟩ := occurrences_mem member
      obtain ⟨unit, rfl⟩ := roleAt_eq_some found
      refine Or.inl ?_
      cases others <;> simp [legacyLabel, key]

section Renaming

variable {references : SourceMap} (platform : Platform)

theorem stringOf_alike (value : Value) :
    Option.Rel (Alike isInert isUpper) (stringOf platform value)
      (stringOf platform (mapText (rename references) value)) := by
  have same : ∀ text : Option Text, Option.Rel (Alike isInert isUpper) text text := by
    rintro (_ | text)
    · exact .none
    · exact .some (.refl text)
  induction value using Value.induct with
  | null | bool | num => exact same _
  | str text => exact .some (rename_alike text)
  | arr items ih =>
      have joins : Option.Rel (List.Forall₂ (Alike isInert isUpper)) (joinedStrings platform items)
          (joinedStrings platform (items.map (mapText (rename references)))) := by
        induction items with
        | nil => exact .some .nil
        | cons item rest more =>
            have later := more fun item member => ih item (List.mem_cons_of_mem _ member)
            have first := ih item List.mem_cons_self
            have step : Option.Rel (List.Forall₂ (Alike isInert isUpper))
                ((stringOf platform item).bind fun text =>
                  (joinedStrings platform rest).map (text :: ·))
                ((stringOf platform (mapText (rename references) item)).bind fun text =>
                  (joinedStrings platform (rest.map (mapText (rename references)))).map
                    (text :: ·)) := by
              revert first later
              generalize stringOf platform item = one
              generalize stringOf platform (mapText (rename references) item) = other
              generalize joinedStrings platform rest = known
              generalize joinedStrings platform (rest.map (mapText (rename references))) = renamed
              rintro (later | _) (first | _)
              · exact .some (.cons first later)
              all_goals exact .none
            cases item with
            | null =>
                simp only [List.map_cons, mapText, joinedStrings]
                revert later
                generalize joinedStrings platform rest = known
                generalize joinedStrings platform (rest.map (mapText (rename references))) = renamed
                rintro (later | _)
                · exact .some (.cons .nil later)
                · exact .none
            | bool | num | str | arr | obj => exact step
      simp only [mapText, mapItems_eq, stringOf]
      revert joins
      generalize joinedStrings platform items = known
      generalize joinedStrings platform (items.map (mapText (rename references))) = renamed
      rintro (joins | _)
      · exact .some (quiet.joined joins)
      · exact .none
  | obj members ih =>
      simp only [mapText, mapMembers_eq, stringOf, map_names]
      exact same _

def renamed (references : SourceMap) (definition : List (Text × Value)) : List (Text × Value) :=
  definition.map (Prod.map id (mapText (rename references)))

theorem lookup_renamed (definition : List (Text × Value)) (name : Text) :
    (renamed references definition).lookup name =
      (definition.lookup name).map (mapText (rename references)) :=
  lookup_map definition name _

theorem legacyText_alike (definition : List (Text × Value)) :
    Alike isInert isUpper (legacyText platform definition)
      (legacyText platform (renamed references definition)) := by
  have alike := @Quiet.stringify _ _ quiet platform.formatNumber _ (@rename_quoted references)
    (.arr (["name", "preconditions", "testData", "steps"].map
      fun name => (definition.lookup (key name)).getD .null))
  rw [mapText, mapItems_eq, List.map_map] at alike
  have same : ∀ name, mapText (rename references) ((definition.lookup (key name)).getD .null) =
      ((renamed references definition).lookup (key name)).getD .null := by
    intro name
    rw [lookup_renamed]
    cases definition.lookup (key name) <;> rfl
  simpa only [legacyText, Function.comp_def, same] using alike

/-- No beginning of the text is a reference among white space unless it is the whole text. -/
def Sheltered (text : Text) : Prop :=
  ∀ count, Reference (trimWhite (text.take count)) → trimWhite (text.take count) = text

theorem Sheltered.clean {text : Text} (sheltered : Sheltered text) (count : Nat) :
    Clean (text.take count) := by
  intro reference
  have whole := sheltered count reference
  have long : text.length ≤ count := by
    have shorter : (trimWhite (text.take count)).length ≤ (text.take count).length :=
      ((List.rdropWhile_prefix _ _).length_le).trans (List.dropWhile_suffix _).length_le
    rw [whole, List.length_take] at shorter
    omega
  rw [List.take_of_length_le long] at whole ⊢
  exact whole

theorem Sheltered.self {text : Text} (sheltered : Sheltered text) : Clean text := by
  have clean := sheltered.clean text.length
  rwa [List.take_length] at clean

theorem Sheltered.rename_take {text : Text} (sheltered : Sheltered text) {count : Nat}
    (long : 91 ≤ count) :
    rename references (text.take count) = (rename references text).take count := by
  rcases @rename_cases references text with ⟨-, same⟩ | ⟨first, second⟩
  · rw [same]
    rcases @rename_cases references (text.take count) with ⟨-, kept⟩ | ⟨reference, -⟩
    · exact kept
    · have solid := trim_inert reference.inert
      have whole := sheltered count (by rwa [solid])
      rw [solid] at whole
      rw [whole, same]
  · rw [List.take_of_length_le (by rw [first.length]; exact long),
      List.take_of_length_le (by rw [second.length]; exact long)]

theorem clean_of_short {text : Text} (short : text.length < 91) : Clean text := by
  intro reference
  have shorter : (trimWhite text).length ≤ text.length :=
    ((List.rdropWhile_prefix _ _).length_le).trans (List.dropWhile_suffix _).length_le
  rw [reference.length] at shorter
  omega

theorem rename_short {text : Text} (short : text.length < 91) : rename references text = text :=
  rename_of_not fun reference => by
    rw [reference.length] at short
    omega

theorem clean_of_head {text : Text} {unit : UInt16} (head : text.head? = some unit)
    (active : isInert unit = false) (solid : isWhiteSpace unit = false) :
    Clean text ∧ rename references text = text := by
  cases text with
  | nil => cases head
  | cons first rest =>
      obtain rfl := Option.some.inj head
      have member : first ∈ trimWhite (first :: rest) := by
        rw [trimWhite, List.dropWhile_cons_of_neg (by simp [solid])]
        obtain ⟨tail, split⟩ := List.rdropWhile_prefix isWhiteSpace (first :: rest)
        cases kept : (first :: rest).rdropWhile isWhiteSpace with
        | nil =>
            have spaces := List.rdropWhile_eq_nil_iff.mp kept first List.mem_cons_self
            simp [solid] at spaces
        | cons known others =>
            rw [kept] at split
            obtain ⟨rfl, -⟩ := List.cons.inj split
            exact List.mem_cons_self
      refine ⟨fun reference => ?_, rename_of_not fun reference => ?_⟩
      · simp [reference.inert first member] at active
      · simp [reference.inert first List.mem_cons_self] at active

theorem legacyLabel_clean (text : Text) : Clean (legacyLabel (legacyRoles text)) ∧
    rename references (legacyLabel (legacyRoles text)) = legacyLabel (legacyRoles text) := by
  rcases legacyLabel_head text with head | head
  · exact clean_of_head head (by decide) (by decide)
  · exact clean_of_head head (by decide) (by decide)

/-! Requirements that were not declared. -/

theorem mapText_legacy (text : Text) (readsOnly : Bool) (constraints : List Text) :
    mapText (rename references)
      (legacyRequirement (legacyRoles text) readsOnly constraints) =
      legacyRequirement (legacyRoles text) readsOnly (constraints.map (rename references)) := by
  have usage : rename references (key (if readsOnly then "READ_EXISTING" else "CREATE_OR_MODIFY")) =
      key (if readsOnly then "READ_EXISTING" else "CREATE_OR_MODIFY") := by
    cases readsOnly <;> exact rename_short (by decide)
  simp only [legacyRequirement, mapText, mapMembers_eq, mapItems_eq, List.map_cons, List.map_nil,
    Prod.map_apply, id_eq, usage, (legacyLabel_clean text).2, List.map_map]
  rw [rename_short (by decide : (key "test_subject").length < 91),
    rename_short (by decide : (key "历史 Spec 声明的业务测试账号；执行前核对其用途和数据前置条件。").length < 91)]
  rfl

theorem clean_legacy (text : Text) (readsOnly : Bool) {constraints : List Text}
    (clean : ∀ constraint ∈ constraints, Clean constraint) :
    Strings Clean (legacyRequirement (legacyRoles text) readsOnly constraints) := by
  have usage : Clean (key (if readsOnly then "READ_EXISTING" else "CREATE_OR_MODIFY")) := by
    cases readsOnly <;> exact clean_of_short (by decide)
  refine .obj ?_
  simp only [List.forall_mem_cons]
  refine ⟨.str (clean_of_short (by decide)), .str (@legacyLabel_clean ⟨[], by simp⟩ text).1,
    .num _, .str usage, .arr (by simp), .arr ?_, .str (clean_of_short (by decide)), by simp⟩
  intro item member
  obtain ⟨constraint, known, rfl⟩ := List.mem_map.mp member
  exact .str (clean constraint known)

theorem strings_lookup {held : Text → Prop} {definition : List (Text × Value)} {name : Text}
    {value : Value} (known : Strings held (.obj definition))
    (found : definition.lookup name = some value) : Strings held value := by
  cases known with
  | obj known => exact known (name, value) (mem_of_lookup found)

theorem legacyConstraints_renamed {definition : List (Text × Value)}
    (sheltered : Strings Sheltered (.obj definition)) :
    legacyConstraints (renamed references definition) =
        (legacyConstraints definition).map (rename references) ∧
      ∀ constraint ∈ legacyConstraints definition, Clean constraint := by
  simp only [legacyConstraints, lookup_renamed]
  cases found : definition.lookup (key "testData") with
  | none => exact ⟨rfl, by simp⟩
  | some value =>
      have inner := strings_lookup sheltered found
      cases value with
      | arr items =>
          cases inner with
          | arr inner =>
              simp only [Option.map_some, mapText, mapItems_eq]
              constructor
              · rw [List.map_take, List.map_map, List.filterMap_map, List.map_filterMap,
                  List.map_filterMap]
                congr 1
                refine List.filterMap_congr fun item member => ?_
                cases inner item member with
                | str known =>
                    exact congrArg some (known.rename_take (by decide)).symm
                | null | bool | num | arr | obj => rfl
              · intro constraint member
                obtain ⟨text, listed, rfl⟩ := List.mem_map.mp (List.mem_of_mem_take member)
                obtain ⟨item, member, same⟩ := List.mem_filterMap.mp listed
                cases inner item member with
                | str known =>
                    obtain rfl := Option.some.inj same
                    exact known.clean 1000
                | null | bool | num | arr | obj => cases same
      | null | bool | num | str | obj => exact ⟨rfl, by simp⟩

theorem nameText_renamed {definition : List (Text × Value)} {name : Text}
    (named : nameText platform definition = some name) :
    ∃ other, Alike isInert isUpper name other ∧
      nameText platform (renamed references definition) = some other := by
  simp only [nameText] at named ⊢
  rw [lookup_renamed]
  cases found : definition.lookup (key "name") with
  | none =>
      rw [found] at named
      cases named
      exact ⟨_, .refl _, rfl⟩
  | some value =>
      simp only [found] at named
      have rel := @stringOf_alike references platform value
      rw [named] at rel
      revert rel
      simp only [Option.map_some]
      generalize stringOf platform (mapText (rename references) value) = result
      rintro (alike | _)
      exact ⟨_, alike, rfl⟩

theorem legacyRequirements_renamed {definition : List (Text × Value)}
    (sheltered : Strings Sheltered (.obj definition)) {items : List Value}
    (read : legacyRequirements platform definition = some items) :
    legacyRequirements platform (renamed references definition) =
      some (items.map (mapText (rename references))) := by
  have alike := @legacyText_alike references platform definition
  have declines := blind_declinesAccounts _ _ alike
  have mentions := blind_mentionsAccounts _ _ alike
  have roles : legacyRoles (legacyText platform definition) =
      legacyRoles (legacyText platform (renamed references definition)) :=
    congrArg List.eraseDups (blind_occurrences blind_roleAt _ _ alike)
  obtain ⟨constraints, clean⟩ := @legacyConstraints_renamed references definition sheltered
  simp only [legacyRequirements] at read ⊢
  rw [← declines, ← mentions, ← roles, constraints]
  split at read
  next declined =>
    cases read
    rw [if_pos declined]
    rfl
  next asked =>
    rw [if_neg asked]
    split at read
    next silent =>
      cases read
      rw [if_pos silent]
      rfl
    next asks =>
      rw [if_neg asks]
      obtain ⟨name, named, read⟩ := Option.bind_eq_some_iff.mp read
      have follows := @requirements_rename references _ _ read
        (.arr (by simpa using clean_legacy _ _ clean))
      rw [mapText, mapItems_eq, List.map_cons, List.map_nil, mapText_legacy] at follows
      obtain ⟨other, alike, renames⟩ := @nameText_renamed references platform definition _ named
      rw [renames, Option.bind_some, ← blind_mentionsReading _ _ alike]
      exact follows

theorem isTwo_mapText (change : Text → Text) (value : Option Value) :
    isTwo (value.map (mapText change)) = isTwo value := by
  cases value with
  | none => rfl
  | some known => cases known <;> rfl

theorem caseAccountRequirements_renamed {definition : List (Text × Value)}
    (sheltered : Strings Sheltered (.obj definition)) {items : List Value}
    (read : caseAccountRequirements platform definition = some items) :
    caseAccountRequirements platform (renamed references definition) =
      some (items.map (mapText (rename references))) := by
  have clean : ∀ {name value}, definition.lookup (key name) = some value → Strings Clean value :=
    fun found => (strings_lookup sheltered found).imp fun _ => Sheltered.self
  simp only [caseAccountRequirements] at read ⊢
  rw [lookup_renamed, isTwo_mapText, lookup_renamed]
  split at read
  next declared =>
    rw [if_pos declared]
    cases found : definition.lookup (key "accountRequirements") with
    | none => simp [itemsOf, found] at read
    | some value =>
        rw [found] at read
        exact requirements_rename read (clean found)
  next older =>
    rw [if_neg older]
    cases found : definition.lookup (key "accountRequirements") with
    | none =>
        rw [found] at read
        exact legacyRequirements_renamed platform sheltered read
    | some value =>
        rw [found] at read
        obtain ⟨all, known, rfl⟩ := Option.map_eq_some_iff.mp read
        simp only [Option.map_some, requirements_rename known (clean found)]
        rw [List.filter_map]
        refine congrArg some (congrArg _ (List.filter_congr fun item _ => ?_))
        simp [isLoginOnly_rename]

end Renaming

end Devproof.CaseRerun
