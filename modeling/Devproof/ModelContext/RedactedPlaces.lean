import Devproof.Evidence.Quotation
import Devproof.ModelContext.Redaction

/-!
When redaction keeps its promise: two places whose paths are spelled alike are one to the set
of paths, and the later one may be written back as it was.
-/

namespace Devproof.Redaction

open Parsing

theorem weight_pos (value : Value) : 0 < value.weight := by
  cases value <;> simp [Value.weight]

theorem exposed_changed {paths : List Text} {value : Value} (exposed : Exposed value)
    (path : Text) : ¬ Redacted paths path value value := by
  induction exposed generalizing path with
  | item member _ ih =>
      rintro (_ | _)
      rename_i same inside
      obtain ⟨index, here⟩ := List.mem_iff_getElem?.mp member
      exact ih _ (inside index _ _ here here)
  | secret member secret shown =>
      rintro (_ | _)
      rename_i names hidden inside
      obtain ⟨index, here⟩ := List.mem_iff_getElem?.mp member
      exact shown (hidden index _ _ here here secret).1
  | member member other _ ih =>
      rintro (_ | _)
      rename_i names hidden inside
      obtain ⟨index, here⟩ := List.mem_iff_getElem?.mp member
      exact ih _ (inside index _ _ here here other)
  | text plain json _ ih =>
      intro redacted
      cases redacted with
      | image image => simp [plain] at image
      | leaf _ prose => simp [json] at prose
      | text _ json' reads inside =>
          obtain rfl := Option.some.inj (json.symm.trans json')
          obtain rfl := Option.some.inj ((jsonIn_parse json).symm.trans reads)
          exact ih _ inside

theorem redacted_self {paths : List Text} {fuel : Nat} {value : Value}
    (heavy : value.weight ≤ fuel) (hidden : ¬ Exposed value) (path : Text) :
    Redacted paths path value value := by
  induction fuel generalizing value path with
  | zero => exact absurd (weight_pos value) (by omega)
  | succ fuel ih =>
      cases value with
      | null => exact .null
      | bool value => exact .bool value
      | num number => exact .num number
      | arr items =>
          refine .arr rfl fun index item result here found => ?_
          obtain rfl := Option.some.inj (here.symm.trans found)
          have member := List.mem_of_getElem? here
          have light := weight_le_items member
          rw [Value.weight] at heavy
          exact ih (by omega) (fun inside => hidden (.item member inside)) _
      | obj members =>
          refine .obj rfl (fun index entry result here found secret => ?_)
            fun index entry result here found other => ?_
          · obtain rfl := Option.some.inj (here.symm.trans found)
            have shown : entry.2 = .str redactedText := by
              by_contra shown
              exact hidden (.secret (List.mem_of_getElem? here) secret shown)
            exact ⟨shown, fun other => absurd shown other⟩
          · obtain rfl := Option.some.inj (here.symm.trans found)
            have member := List.mem_of_getElem? here
            have light := weight_le_members member
            rw [Value.weight] at heavy
            exact ih (by omega) (fun inside => hidden (.member member other inside)) _
      | str text =>
          cases image : isImage text with
          | true => exact .image image
          | false =>
              cases json : jsonIn text with
              | none => exact .leaf image json fun changed => absurd rfl changed
              | some value =>
                  have inner := fun inside => hidden (.text image json inside)
                  exact .text image json (jsonIn_parse json) (ih (jsonIn_weight json heavy) inner _)

theorem changes_at {redactText : Text → Text} {fuel : Nat} {items : List Value} {item : Value}
    {index : Nat} {path : Text} (here : items[index]? = some item) {change : Text}
    (member : change ∈ changes redactText fuel item (itemPath path index)) :
    change ∈ changes redactText (fuel + 1) (.arr items) path := by
  rw [changes, List.mem_flatMap]
  exact ⟨(item, index), List.mk_mem_zipIdx_iff_getElem?.mpr here, member⟩

theorem changes_in {redactText : Text → Text} {fuel : Nat} {members : List (Text × Value)}
    {entry : Text × Value} {path change : Text} (known : entry ∈ members)
    (member : change ∈ memberChanges (changes redactText fuel) path entry) :
    change ∈ changes redactText (fuel + 1) (.obj members) path := by
  rw [changes, List.mem_flatMap]
  exact ⟨entry, known, member⟩

/-- Where nothing new changes, it is enough that nothing is exposed. -/
theorem noticed_of_hidden {redactText : Text → Text} {fuel : Nat} {value : Value} {path : Text}
    {earlier : List Text} (hidden : ¬ Exposed value)
    (stuck : ∀ change ∈ changes redactText fuel value path, change ∈ earlier) :
    Noticed redactText fuel value path earlier := by
  induction fuel generalizing value path earlier with
  | zero => trivial
  | succ fuel ih =>
      cases value with
      | arr items =>
          intro index item here
          refine ih (fun inside => hidden (.item (List.mem_of_getElem? here) inside)) ?_
          exact fun change member => List.mem_append_left _ (stuck change (changes_at here member))
      | obj members =>
          intro index entry here other
          have known := List.mem_of_getElem? here
          refine ih (fun inside => hidden (.member known other inside)) fun change member => ?_
          refine List.mem_append_left _ (stuck change (changes_in known ?_))
          rwa [memberChanges, if_neg (by simp [other])]
      | str text =>
          intro value plain json
          have inner : ¬ Exposed value := fun inside => hidden (.text plain json inside)
          simp only [changes, plain, Bool.false_eq_true, if_false, json] at stuck
          refine ⟨fun inside => absurd inside inner, ?_, ih inner stuck⟩
          rintro ⟨change, member, new⟩
          exact absurd (stuck change member) new
      | _ => trivial

section Kept

variable {redactText : Text → Text} {formatNumber : Rat → Text}

theorem visitMember_name (visit : Value → Text → List Text → Value × List Text) (path : Text)
    (entry : Text × Value) (paths : List Text) :
    (visitMember visit path entry paths).1.1 = entry.1 := by
  rw [visitMember]
  split <;> rfl

theorem visit_well {number : Number → Prop} {names : List Text → Prop} {value : Value}
    (well : value.Well number names) (fuel : Nat) (path : Text) (paths : List Text) :
    (visit redactText formatNumber fuel value path paths).1.Well number names := by
  induction fuel generalizing value path paths with
  | zero => exact well
  | succ fuel ih =>
      cases well with
      | null => exact .null
      | bool value => exact .bool value
      | num held => exact .num held
      | str text =>
          rw [visit]
          split
          · exact .str _
          · split
            · simp only
              split <;> exact .str _
            · exact .str _
      | arr held =>
          rw [visit]
          refine .arr fun result member => ?_
          obtain ⟨place, known, before, rfl⟩ := mem_threaded member
          exact ih (held _ (List.fst_mem_of_mem_zipIdx known)) _ _
      | obj named held =>
          rw [visit]
          refine .obj ?_ fun result member => ?_
          · rw [threaded_map (visitMember_name (visit redactText formatNumber fuel) path)]
            exact named
          · obtain ⟨entry, known, before, rfl⟩ := mem_threaded member
            rw [visitMember]
            split
            · exact .str _
            · exact ih (held entry known) _ _

end Kept

/-! The condition under which redaction keeps its promise. -/

section Promise

variable {redactText : Text → Text} {formatNumber : Rat → Text} {paths : List Text}

theorem redacted_arr_iff {path : Text} {items results : List Value} :
    Redacted paths path (.arr items) (.arr results) ↔ results.length = items.length ∧
      ∀ (index : Nat) item result, items[index]? = some item → results[index]? = some result →
        Redacted paths (itemPath path index) item result := by
  constructor
  · rintro (_ | _)
    rename_i same inside
    exact ⟨same, inside⟩
  · rintro ⟨same, inside⟩
    exact .arr same inside

theorem redacted_obj_iff {path : Text} {members results : List (Text × Value)} :
    Redacted paths path (.obj members) (.obj results) ↔
      results.map Prod.fst = members.map Prod.fst ∧
        (∀ (index : Nat) entry result, members[index]? = some entry →
          results[index]? = some result → isSecret entry = true → result.2 = .str redactedText ∧
            (entry.2 ≠ .str redactedText → memberPath path entry.1 ∈ paths)) ∧
        ∀ (index : Nat) entry result, members[index]? = some entry →
          results[index]? = some result → isSecret entry = false →
            Redacted paths (memberPath path entry.1) entry.2 result.2 := by
  constructor
  · rintro (_ | _)
    rename_i names secret inside
    exact ⟨names, secret, inside⟩
  · rintro ⟨names, secret, inside⟩
    exact .obj names secret inside

theorem threaded_mem {α β : Type} {step : α → List Text → β × List Text} {notes : α → List Text}
    (files : ∀ item store, (step item store).2 = (notes item).foldl addPath store)
    (items : List α) {before earlier : List Text} (same : ∀ known, known ∈ before ↔ known ∈ earlier)
    (known : Text) :
    known ∈ (threaded step items before).2 ↔ known ∈ earlier ++ items.flatMap notes := by
  rw [threaded_store files, mem_addPaths, List.mem_append, same]

theorem isSecret_text {entry : Text × Value} (secret : isSecret entry = true) :
    ∃ text, entry.2 = .str text := by
  unfold isSecret at secret
  split at secret
  · exact ⟨_, by assumption⟩
  · cases secret

theorem writable_iff {path : Text} (number : Number) :
    Redacted paths path (.num number) number.written ↔ Writable number := by
  cases number with
  | finite value => exact ⟨fun _ negative => by simp, fun _ => .num _⟩
  | negativeZero => exact ⟨fun _ negative => by simp, fun _ => .zero⟩
  | infinite negative => exact ⟨fun redacted => (nomatch redacted), fun held => absurd rfl (held _)⟩

section Judged

variable (redactText formatNumber paths) (number : Number → Value) (good : Number → Prop)

/-- A visited value, with its numbers as `number` gives them, is redacted exactly when its
strings of JSON are noticed and its numbers are `good`. -/
def Judged (fuel : Nat) (item : Value) : Prop :=
  ∀ path before earlier, (∀ known, known ∈ before ↔ known ∈ earlier) →
    (∀ change ∈ changes redactText fuel item path, change ∈ paths) →
      (Redacted paths path item
          ((visit redactText formatNumber fuel item path before).1.transform number id) ↔
        Noticed redactText fuel item path earlier ∧ item.Well good fun _ => True)

variable {redactText formatNumber paths number good}

theorem items_judged {fuel : Nat} {items : List Value}
    (judged : ∀ item ∈ items, Judged redactText formatNumber paths number good fuel item) :
    Judged redactText formatNumber paths number good (fuel + 1) (.arr items) := by
  intro path before earlier same listed
  rw [visit, Value.transform, transformItems_eq, redacted_arr_iff]
  have each : ∀ (index : Nat) item, items[index]? = some item → ∃ result,
      ((threaded (fun place => visit redactText formatNumber fuel place.1
        (itemPath path place.2)) items.zipIdx before).1.map
          (Value.transform number id))[index]? = some result ∧
      (Redacted paths (itemPath path index) item result ↔
        Noticed redactText fuel item (itemPath path index) (earlier ++
          (items.zipIdx.take index).flatMap fun place =>
            changes redactText fuel place.1 (itemPath path place.2)) ∧
        item.Well good fun _ => True) := by
    intro index item here
    have place : items.zipIdx[index]? = some (item, index) := by
      rw [List.getElem?_zipIdx, here]
      simp
    rw [List.getElem?_map, threaded_getElem? place]
    refine ⟨_, rfl, judged item (List.mem_of_getElem? here) _ _ _
      (threaded_mem (fun _ _ => ?_) _ same) ?_⟩
    · exact visit_paths redactText formatNumber _ _ _ _
    · exact fun change member => listed change (changes_at here member)
  choose result found agrees using each
  constructor
  · rintro ⟨-, inside⟩
    have held := fun (index : Nat) item here =>
      (agrees index item here).mp (inside index item _ here (found index item here))
    refine ⟨fun index item here => (held index item here).1, .arr fun item member => ?_⟩
    obtain ⟨index, here⟩ := List.mem_iff_getElem?.mp member
    exact (held index item here).2
  · rintro ⟨noticed, well⟩
    refine ⟨by simp [threaded_length], fun index item result here found' => ?_⟩
    obtain rfl := Option.some.inj ((found index item here).symm.trans found')
    exact (agrees index item here).mpr ⟨noticed index item here,
      well_arr_iff.mp well item (List.mem_of_getElem? here)⟩

theorem members_judged {fuel : Nat} {members : List (Text × Value)}
    (judged : ∀ entry ∈ members, Judged redactText formatNumber paths number good fuel entry.2) :
    Judged redactText formatNumber paths number good (fuel + 1) (.obj members) := by
  intro path before earlier same listed
  rw [visit, Value.transform, transformMembers_eq, redacted_obj_iff]
  have files := visit_paths redactText formatNumber fuel
  have each : ∀ (index : Nat) entry, members[index]? = some entry → ∃ store,
      ((threaded (visitMember (visit redactText formatNumber fuel) path) members
        before).1.map (Prod.map id (Value.transform number id)))[index]? =
          some (Prod.map id (Value.transform number id)
            (visitMember (visit redactText formatNumber fuel) path entry store).1) ∧
      ∀ known, known ∈ store ↔ known ∈ earlier ++ (members.take index).flatMap
        (memberChanges (changes redactText fuel) path) := by
    intro index entry here
    rw [List.getElem?_map, threaded_getElem? here]
    exact ⟨_, rfl, threaded_mem (visitMember_paths files path) _ same⟩
  have agrees : ∀ {entry : Text × Value} {store others : List Text}, entry ∈ members →
      isSecret entry = false → (∀ known, known ∈ store ↔ known ∈ others) →
      (Redacted paths (memberPath path entry.1) entry.2 (Value.transform number id
          (visitMember (visit redactText formatNumber fuel) path entry store).1.2) ↔
        Noticed redactText fuel entry.2 (memberPath path entry.1) others ∧
          entry.2.Well good fun _ => True) := by
    intro entry store others known other agree
    have plain : ¬ isSecret entry = true := by simp [other]
    rw [visitMember, if_neg plain]
    refine judged entry known _ _ _ agree fun change member => listed change (changes_in known ?_)
    rwa [memberChanges, if_neg plain]
  choose store found agree using each
  constructor
  · rintro ⟨-, -, inside⟩
    have held := fun (index : Nat) entry here other =>
      (agrees (List.mem_of_getElem? here) other (agree index entry here)).mp
        (inside index entry _ here (found index entry here) other)
    refine ⟨fun index entry here other => (held index entry here other).1,
      .obj trivial fun entry member => ?_⟩
    obtain ⟨index, here⟩ := List.mem_iff_getElem?.mp member
    cases other : isSecret entry with
    | false => exact (held index entry here other).2
    | true =>
        obtain ⟨text, known⟩ := isSecret_text other
        exact known ▸ .str text
  · rintro ⟨noticed, well⟩
    refine ⟨?_, fun index entry result here found' secret => ?_,
      fun index entry result here found' other => ?_⟩
    · rw [id_eq, map_names, threaded_map (visitMember_name _ path)]
    · obtain rfl := Option.some.inj ((found index entry here).symm.trans found')
      rw [visitMember, if_pos secret]
      refine ⟨rfl, fun _ => listed _ (changes_in (List.mem_of_getElem? here) ?_)⟩
      rw [memberChanges, if_pos secret]
      exact List.mem_singleton_self _
    · obtain rfl := Option.some.inj ((found index entry here).symm.trans found')
      have member := List.mem_of_getElem? here
      exact (agrees member other (agree index entry here)).mpr
        ⟨noticed index entry here other, (well_obj_iff.mp well).2 entry member⟩

theorem text_judged (numbers : Parsing.NumberTexts formatNumber) {fuel : Nat} {text : Text}
    (heavy : (Value.str text).weight ≤ fuel + 1)
    (judged : ∀ value, jsonIn text = some value →
      Judged redactText formatNumber paths Number.written Writable fuel value) :
    Judged redactText formatNumber paths number good (fuel + 1) (.str text) := by
  intro path before earlier same listed
  refine Iff.trans ?_ (and_iff_left (Value.Well.str text)).symm
  cases image : isImage text with
  | true =>
      rw [visit, if_pos image]
      exact ⟨fun _ value plain => absurd (image.symm.trans plain) (by decide),
        fun _ => .image image⟩
  | false =>
      have plain : ¬ isImage text = true := by simp [image]
      rw [changes, if_neg plain] at listed
      rw [visit, if_neg plain]
      cases json : jsonIn text with
      | none =>
          simp only [json] at listed ⊢
          refine ⟨fun _ value _ found => absurd (json.symm.trans found) (by simp),
            fun _ => .leaf image json fun changed => ?_⟩
          exact listed path (by simp [changed])
      | some value =>
          simp only [json] at listed ⊢
          have stays : (visit redactText formatNumber fuel value path before).2.length =
              before.length ↔
                ∀ change ∈ changes redactText fuel value path, change ∈ before := by
            rw [visit_paths]
            exact length_addPaths_eq
          by_cases stuck : ∀ change ∈ changes redactText fuel value path, change ∈ before
          · rw [if_pos (stays.mpr stuck)]
            constructor
            · intro redacted
              have hidden := fun exposed => exposed_changed exposed path redacted
              refine noticed_of_hidden hidden fun change member => ?_
              rw [changes, if_neg plain, json] at member
              exact (same change).mp (stuck change member)
            · intro noticed
              refine redacted_self heavy ?_ path
              rintro (_ | _ | _ | ⟨_, json', inside⟩)
              obtain rfl := Option.some.inj (json.symm.trans json')
              obtain ⟨change, member, new⟩ := (noticed value image json).1 inside
              exact new ((same change).mp (stuck change member))
          · rw [if_neg fun size => stuck (stays.mp size)]
            have well := @visit_well redactText formatNumber _ _ _
              (parse_inOrder (jsonIn_parse json)) fuel path before
            have reads := parse_stringify numbers well
            rw [readBack_inOrder well] at reads
            have inner := judged value json path before earlier same listed
            simp only [not_forall, exists_prop] at stuck
            obtain ⟨change, member, new⟩ := stuck
            have noted : ∃ change ∈ changes redactText fuel value path, change ∉ earlier :=
              ⟨change, member, fun known => new ((same change).mpr known)⟩
            constructor
            · intro redacted value' _ json'
              obtain rfl := Option.some.inj (json.symm.trans json')
              cases redacted with
              | image known => exact absurd known plain
              | leaf _ prose => exact absurd (json.symm.trans prose) (by simp)
              | text _ json' reads' inside =>
                  obtain rfl := Option.some.inj (json.symm.trans json')
                  obtain rfl := Option.some.inj (reads.symm.trans reads')
                  obtain ⟨noticed, well⟩ := inner.mp inside
                  exact ⟨fun _ => noted, fun _ => well, noticed⟩
            · intro noticed
              obtain ⟨-, well, noticed⟩ := noticed value image json
              exact .text image json reads (inner.mpr ⟨noticed, well noted⟩)

theorem visit_judged (numbers : Parsing.NumberTexts formatNumber)
    (kept : ∀ path known, Redacted paths path (.num known) (number known) ↔ good known) {fuel : Nat}
    {item : Value} (heavy : item.weight ≤ fuel) :
    Judged redactText formatNumber paths number good fuel item := by
  induction fuel generalizing number good item with
  | zero => exact absurd (weight_pos item) (by omega)
  | succ fuel ih =>
      cases item with
      | null => exact fun _ _ _ _ _ => ⟨fun _ => ⟨trivial, .null⟩, fun _ => .null⟩
      | bool value => exact fun _ _ _ _ _ => ⟨fun _ => ⟨trivial, .bool value⟩, fun _ => .bool value⟩
      | num value =>
          intro path _ _ _ _
          refine (kept path value).trans ⟨fun held => ⟨trivial, .num held⟩, ?_⟩
          rintro ⟨-, _ | _⟩
          assumption
      | arr items =>
          rw [Value.weight] at heavy
          refine items_judged fun item member => ih kept ?_
          have light := weight_le_items member
          omega
      | obj members =>
          rw [Value.weight] at heavy
          refine members_judged fun entry member => ih kept ?_
          have light := weight_le_members member
          omega
      | str text =>
          exact text_judged numbers heavy fun value json =>
            ih (fun _ => writable_iff) (jsonIn_weight json heavy)

end Judged

theorem changes_listed (redactText : Text → Text) (formatNumber : Rat → Text) (value : Value)
    {change : Text}
    (member : change ∈ changes redactText value.weight value [code '$']) :
    change ∈ (redactContext redactText formatNumber value).2 := by
  rw [redactContext, visit_paths, mem_addPaths]
  exact Or.inr member

theorem num_redacted (path : Text) (number : Number) :
    Redacted paths path (.num number) (.num number) ↔ True :=
  iff_true_intro (.num number)

/-- Redaction keeps its promise exactly when every string of JSON that shows a secret changes
at a path of its own: a place that shares its path with an earlier one is written back as it is. -/
theorem redacted_iff_noticed (numbers : Parsing.NumberTexts formatNumber) (value : Value) :
    Redacted (redactContext redactText formatNumber value).2 [code '$'] value
        (redactContext redactText formatNumber value).1 ↔
      Noticed redactText value.weight value [code '$'] [] := by
  have whole := visit_judged numbers num_redacted (le_refl value.weight) [code '$'] [] []
    (fun _ => Iff.rfl) fun _ => changes_listed redactText formatNumber value
  rw [transform_id] at whole
  exact whole.trans (and_iff_left (well_any value))

end Promise

/-! Two texts whose paths are spelled alike. -/

def tokenKey : Text :=
  "token".toList.map code

def tokenText (secret : Text) : Text :=
  code '\x7b' :: (Parsing.quoted tokenKey ++ [code ':'] ++ Parsing.quoted secret ++ [code '\x7d'])

theorem tokenKey_secret : isSecretKey tokenKey = true := by
  have listed : "token".toList ∈ secretNames :=
    List.mem_append_left _ (List.mem_map_of_mem (by simp [secretWords]))
  have folds : tokenKey.map ModelHealth.fold = "token".toList.map code := by decide
  rw [isSecretKey, List.contains_iff_mem, folds]
  exact List.mem_map_of_mem listed

theorem tokenText_plain (secret : Text) : isImage (tokenText secret) = false := by
  have apart : (code 'd' == code '\x7b') = false := by decide
  simp [isImage, tokenText, List.isPrefixOf, apart]

theorem tokenText_json (secret : Text) :
    jsonIn (tokenText secret) = some (.obj [(tokenKey, .str secret)]) := by
  have spells := Spells.obj
    (.lastMember (quoted_names tokenKey) blank_nil (.str (escaped_quotes secret)) blank_nil)
  have alone : InOrder ([(tokenKey, Value.str secret)].map Prod.fst) :=
    ⟨List.nodup_singleton _, List.pairwise_singleton _ _⟩
  rw [ofMembers_inOrder alone] at spells
  have opens : Schemas.isWhiteSpace (code '\x7b') = false := by decide
  have parsed := parse_spells spells
  simpa [jsonIn, tokenText, Parsing.quoted, opens] using parsed

theorem tokenText_exposed {secret : Text} (shown : secret ≠ redactedText) :
    Exposed (.obj [(tokenKey, .str secret)]) :=
  .secret (List.mem_singleton_self _) tokenKey_secret fun same => shown (Value.str.inj same)

theorem token_changes (redactText : Text → Text) (fuel : Nat) (secret path : Text) :
    changes redactText (fuel + 1) (.obj [(tokenKey, .str secret)]) path =
      [memberPath path tokenKey] := by
  simp [changes, memberChanges, isSecret, tokenKey_secret]

theorem tokenText_changes (redactText : Text → Text) (fuel : Nat) (secret path : Text) :
    changes redactText (fuel + 2) (.str (tokenText secret)) path = [memberPath path tokenKey] := by
  simp [changes, tokenText_plain, tokenText_json, memberChanges, isSecret, tokenKey_secret]

def collided : Value :=
  .obj [([code 'a'], .arr [.arr [.str (tokenText [code '1'])]]),
    ([code 'a', code '[', code '0', code ']'], .arr [.str (tokenText [code '2'])])]

theorem collided_unredacted :
    ¬ Redacted (redactContext id ObservedValue.writtenNumber collided).2 [code '$'] collided
      (redactContext id ObservedValue.writtenNumber collided).1 := by
  intro redacted
  have deep : 5 ≤ collided.weight := by
    simp only [collided, Value.weight, membersWeight, itemsWeight, tokenText, List.length_cons]
    omega
  obtain ⟨fuel, size⟩ := Nat.exists_eq_add_of_le' deep
  have noticed : Noticed id (fuel + 5) collided [code '$'] [] := by
    rw [← size]
    refine ((visit_judged ObservedValue.writtenNumber_texts num_redacted (le_refl _) [code '$'] []
      [] (fun _ => Iff.rfl)
      fun _ => changes_listed id ObservedValue.writtenNumber collided).mp ?_).1
    rwa [transform_id]
  -- The second list comes after the first text, at the path of the first text.
  have second := noticed 1 _ rfl rfl 0 _ rfl _ (tokenText_plain _) (tokenText_json _)
  obtain ⟨change, member, new⟩ := second.1 (tokenText_exposed (by decide))
  rw [token_changes, List.mem_singleton] at member
  have alike : itemPath (memberPath [code '$'] [code 'a', code '[', code '0', code ']']) 0 =
      itemPath (itemPath (memberPath [code '$'] [code 'a']) 0) 0 := by
    decide
  have first : change ∈ changes id (fuel + 4) (.arr [.arr [.str (tokenText [code '1'])]])
      (memberPath [code '$'] [code 'a']) := by
    refine @changes_at id _ _ _ 0 _ rfl _ (@changes_at id _ _ _ 0 _ rfl _ ?_)
    rw [tokenText_changes, ← alike, member]
    exact List.mem_singleton_self _
  refine new (List.mem_append_left _ (List.mem_append_right _ ?_))
  simpa [memberChanges, isSecret] using first

def lone : Value :=
  .arr [.str (tokenText [code '1'])]

theorem lone_redacted :
    Redacted (redactContext id ObservedValue.writtenNumber lone).2 [code '$'] lone
      (redactContext id ObservedValue.writtenNumber lone).1 := by
  refine (redacted_iff_noticed ObservedValue.writtenNumber_texts lone).mpr ?_
  have deep : 4 ≤ lone.weight := by
    simp only [lone, Value.weight, itemsWeight, tokenText, Parsing.quoted, List.length_cons,
      List.length_append]
    omega
  obtain ⟨fuel, size⟩ := Nat.exists_eq_add_of_le' deep
  rw [size]
  rintro (_ | _) item here
  · obtain rfl := Option.some.inj here
    intro value _ json
    obtain rfl := Option.some.inj ((tokenText_json _).symm.trans json)
    refine ⟨fun _ => ⟨memberPath (itemPath [code '$'] 0) tokenKey, ?_, List.not_mem_nil⟩,
      fun _ => .obj trivial (by simp [Value.Well.str]), ?_⟩
    · rw [token_changes]
      exact List.mem_singleton_self _
    · rintro (_ | _) entry here other
      · obtain rfl := Option.some.inj here
        exact absurd (tokenKey_secret.symm.trans other) (by decide)
      · simp at here
  · simp at here

end Devproof.Redaction
