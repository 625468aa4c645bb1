import Devproof.Observation.FocusedView

/-!
What the model has been shown by a chain of views, each derived with the one before as baseline.
-/

namespace Devproof.FocusedView

open Parsing

theorem lined_cons_cons (first second : Text) (rest : List Text) :
    lined (first :: second :: rest) = first ++ code '\n' :: lined (second :: rest) := by
  simp [lined, List.intercalate_cons_cons]

theorem line_inside {lines : List Text} {line : Text} (member : line ∈ lines) :
    line <:+: lined lines := by
  induction lines with
  | nil => cases member
  | cons first rest ih =>
      cases rest with
      | nil =>
          rw [List.mem_singleton.mp member]
          simp [lined]
      | cons second rest =>
          rw [lined_cons_cons]
          rcases List.mem_cons.mp member with rfl | later
          · exact List.prefix_append _ _ |>.isInfix
          · refine (ih later).trans ?_
            exact ((List.suffix_cons _ _).trans (List.suffix_append _ _)).isInfix

theorem line_mem {observation : StructuredObservation} {nodes : List ObservedNode}
    {node : ObservedNode} (member : node ∈ nodes) (line : hasLine node = true) :
    slice observation.renderedText node.textLocation ∈ linesOf observation nodes :=
  List.mem_map_of_mem (List.mem_filter.mpr ⟨member, line⟩)

theorem popupFrom_mem {nodes : List ObservedNode} {depth : Nat} {start root : ObservedNode}
    (member : start ∈ nodes) (found : popupFrom nodes depth start = some root) : root ∈ nodes := by
  induction depth generalizing start with
  | zero => simp [popupFrom] at found
  | succ depth ih =>
      rw [popupFrom] at found
      split at found
      next => cases found
      next =>
        dsimp only at found
        split at found
        next => cases found
        next =>
          split at found
          next => exact Option.some.inj found ▸ member
          next =>
            obtain ⟨parent, above, further⟩ := Option.bind_eq_some_iff.mp found
            exact ih (nodeById_mem above) further

theorem popupOf_mem {nodes : List ObservedNode} {owner root : ObservedNode} {id : String}
    (found : popupOf nodes owner id = some root) : root ∈ nodes := by
  unfold popupOf at found
  split at found
  next start matched =>
    have listed := List.mem_singleton_self start
    rw [← matched] at listed
    exact popupFrom_mem (List.mem_of_mem_filter listed) found
  next => cases found

theorem mapM_mem {nodes : List ObservedNode} {owner : ObservedNode} {ids : List String}
    {popups : List ObservedNode} (found : ids.mapM (popupOf nodes owner) = some popups) :
    ∀ root ∈ popups, root ∈ nodes := by
  induction ids generalizing popups with
  | nil =>
      obtain rfl : popups = [] := by simpa using found.symm
      exact fun root member => absurd member List.not_mem_nil
  | cons id rest ih =>
      rw [List.mapM_cons] at found
      obtain ⟨first, here, found⟩ := Option.bind_eq_some_iff.mp found
      obtain ⟨others, later, found⟩ := Option.bind_eq_some_iff.mp found
      obtain rfl := Option.some.inj found
      intro root member
      rcases List.mem_cons.mp member with rfl | further
      · exact popupOf_mem here
      · exact ih later root further

theorem roots_mem {observation : StructuredObservation} {focus : Focus}
    (found : focusOf observation = some focus) :
    ∀ root ∈ focus.roots, root ∈ observation.nodes := by
  have dialogs : ∀ root ∈ dialogsOf observation, root ∈ observation.nodes :=
    fun root member => List.mem_of_mem_filter member
  unfold focusOf at found
  dsimp only at found
  split at found
  next => cases found
  next =>
    split at found
    next =>
      split at found
      next => cases found
      next =>
        obtain rfl := Option.some.inj found
        exact dialogs
    next owner _ =>
      split at found
      next => cases found
      next =>
        obtain ⟨popups, owned, rfl⟩ := Option.map_eq_some_iff.mp found
        intro root member
        rcases List.mem_append.mp member with dialog | popup
        · exact dialogs root dialog
        · exact mapM_mem owned root popup

def Inside (observation : StructuredObservation) (focus : Focus) (node : ObservedNode) : Prop :=
  focus.owner = some node ∨ ∃ root ∈ focus.roots, LiesIn observation.nodes node root

theorem inside_iff {observation : StructuredObservation} {focus : Focus}
    (distinct : (observation.nodes.map (·.nodeId)).Nodup)
    (found : focusOf observation = some focus) {node : ObservedNode}
    (member : node ∈ observation.nodes) :
    inside observation.nodes focus node = true ↔ Inside observation focus node := by
  simp only [inside, Bool.or_eq_true, beq_iff_eq, List.any_eq_true, Inside]
  refine or_congr Iff.rfl (exists_congr fun root => and_congr_right fun rooted => ?_)
  exact within_iff distinct member (roots_mem found root rooted)

theorem mem_scopeNodes {observation : StructuredObservation} {focus : Focus}
    (distinct : (observation.nodes.map (·.nodeId)).Nodup)
    (found : focusOf observation = some focus) {node : ObservedNode} :
    node ∈ scopeNodes observation focus ↔ node ∈ observation.nodes ∧ node.visible = true ∧
      (Inside observation focus node ∨ labels focus node = true) := by
  rw [scopeNodes, List.mem_filter, Bool.and_eq_true, Bool.or_eq_true]
  constructor
  · rintro ⟨member, visible, scope⟩
    exact ⟨member, visible, scope.imp_left (inside_iff distinct found member).mp⟩
  · rintro ⟨member, visible, scope⟩
    exact ⟨member, visible, scope.imp_left (inside_iff distinct found member).mpr⟩

theorem derived_cases {observation : StructuredObservation} {baseline : Option View} {view : View}
    (derived : focusedObservation observation baseline = some view) :
    ∃ focus, focusOf observation = some focus ∧ view = viewOf observation focus baseline ∧
      byteLength view.content < byteLength (utf16 observation.renderedText) := by
  unfold focusedObservation at derived
  split at derived
  next => cases derived
  next =>
    obtain ⟨focus, found, derived⟩ := Option.bind_eq_some_iff.mp derived
    dsimp only at derived
    split at derived
    next => cases derived
    next =>
      split at derived
      next => cases derived
      next short =>
        obtain rfl := Option.some.inj derived
        exact ⟨focus, found, rfl, not_le.mp short⟩

theorem derived_of {observation : StructuredObservation} {focus : Focus} {baseline : Option View}
    (complete : (observation.coverage.truncated || !observation.coverage.completeWithinScope ||
      !observation.coverage.unavailableFrames.isEmpty) = false)
    (found : focusOf observation = some focus)
    (lines : linesOf observation (retained focus
      (previousOf baseline (scopeIdentity observation focus)) (scopeNodes observation focus)) ≠ [])
    (shorter : byteLength (viewOf observation focus baseline).content <
      byteLength (utf16 observation.renderedText)) :
    focusedObservation observation baseline = some (viewOf observation focus baseline) := by
  rw [focusedObservation, if_neg (by simp [complete]), found, Option.bind_some]
  dsimp only
  rw [if_neg, if_neg (not_le.mpr shorter)]
  exact lines

theorem kept_or_same {focus : Focus} {previous : Option View} {nodes : List ObservedNode}
    {node : ObservedNode} (member : node ∈ nodes) :
    node ∈ retained focus previous nodes ∨ ∃ view, previous = some view ∧
      ∃ earlier ∈ view.nodes, earlier.nodeId = node.nodeId ∧ semantic earlier = semantic node := by
  cases previous with
  | none => exact Or.inl member
  | some view =>
      by_cases kept : keeps focus view node = true
      · exact Or.inl (List.mem_filter.mpr ⟨member, kept⟩)
      · refine Or.inr ⟨view, rfl, ?_⟩
        simp only [keeps, Bool.or_eq_true, not_or] at kept
        obtain ⟨-, same⟩ := kept
        cases known : nodeById view.nodes (some node.nodeId) with
        | none => simp [known] at same
        | some earlier =>
            refine ⟨earlier, nodeById_mem known, ?_, ?_⟩
            · simpa [nodeById] using List.find?_some known
            · simp only [known, decide_eq_true_eq, not_not] at same
              exact same.symm

theorem kept_of_current {focus : Focus} {previous : Option View} {nodes : List ObservedNode}
    {node : ObservedNode} (member : node ∈ nodes)
    (current : (∃ root ∈ focus.roots, node.nodeId = root.nodeId) ∨ interactive node = true ∨
      ∀ view, previous = some view → ∀ earlier ∈ view.nodes, earlier.nodeId = node.nodeId →
        semantic earlier ≠ semantic node) :
    node ∈ retained focus previous nodes := by
  cases previous with
  | none => exact member
  | some view =>
      refine List.mem_filter.mpr ⟨member, ?_⟩
      simp only [keeps, Bool.or_eq_true, List.any_eq_true, beq_iff_eq]
      rcases current with root | control | changed
      · exact Or.inl (Or.inl root)
      · exact Or.inl (Or.inr control)
      · refine Or.inr ?_
        cases known : nodeById view.nodes (some node.nodeId) with
        | none => rfl
        | some earlier =>
            have named : earlier.nodeId = node.nodeId := by
              simpa [nodeById] using List.find?_some known
            have differs := changed view rfl earlier (nodeById_mem known) named
            simpa using fun same => differs same.symm

theorem content_split (observation : StructuredObservation) (focus : Focus)
    (baseline : Option View) : ∃ front, (viewOf observation focus baseline).content =
      front ++ lined (linesOf observation (retained focus
        (previousOf baseline (scopeIdentity observation focus)) (scopeNodes observation focus))) :=
  ⟨_, rfl⟩

theorem retained_sub {focus : Focus} {previous : Option View} {nodes : List ObservedNode} :
    retained focus previous nodes ⊆ nodes := by
  cases previous with
  | none => exact List.Subset.refl _
  | some view => exact List.filter_sublist.subset

abbrev Step :=
  StructuredObservation × View

inductive Chain : List Step → Prop
  | nil : Chain []
  | cons {older : List Step} (chain : Chain older) {observation : StructuredObservation}
      {view : View}
      (derived : focusedObservation observation (older.head?.map Prod.snd) = some view) :
      Chain ((observation, view) :: older)

def sinceRegion : List Step → List Step
  | [] => []
  | step :: older => if step.2.mode = .region then [step] else step :: sinceRegion older

theorem mem_sinceRegion (step : Step) (older : List Step) : step ∈ sinceRegion (step :: older) := by
  rw [sinceRegion]
  split
  · exact List.mem_singleton_self _
  · exact List.mem_cons_self

theorem chain_shown {steps : List Step} (chain : Chain steps) :
    ∀ step older, steps = step :: older → ∀ node ∈ step.2.nodes,
      ∃ shown ∈ sinceRegion steps, ∃ earlier ∈ shown.2.nodes, earlier.nodeId = node.nodeId ∧
        semantic earlier = semantic node ∧ (hasLine earlier = true →
          slice shown.1.renderedText earlier.textLocation <:+: shown.2.content) := by
  induction chain with
  | nil =>
      intro step older shape
      cases shape
  | @cons older chain observation view derived ih =>
      rintro step rest shape node member
      obtain ⟨rfl, rfl⟩ := List.cons.inj shape
      obtain ⟨focus, found, rfl, -⟩ := derived_cases derived
      rcases @kept_or_same focus (previousOf (older.head?.map Prod.snd)
          (scopeIdentity observation focus)) _ node member with
        kept | ⟨view, previous, earlier, known, named, same⟩
      · refine ⟨_, mem_sinceRegion _ _, node, member, rfl, rfl, fun line => ?_⟩
        obtain ⟨front, content⟩ := content_split observation focus (older.head?.map Prod.snd)
        rw [content]
        exact (line_inside (line_mem kept line)).trans (List.suffix_append _ _).isInfix
      · have given : older.head?.map Prod.snd = some view :=
          (Option.filter_eq_some_iff.mp previous).1
        have delta : (viewOf observation focus (older.head?.map Prod.snd)).mode = .delta := by
          simp only [viewOf, previous, Option.isSome_some, if_true]
        cases older with
        | nil => cases given
        | cons last before =>
            obtain rfl : last.2 = view := Option.some.inj given
            obtain ⟨shown, recent, first, inside, sameId, sameFields, line⟩ :=
              ih last before rfl earlier known
            refine ⟨shown, ?_, first, inside, sameId.trans named, sameFields.trans same, line⟩
            rw [sinceRegion, if_neg (by rw [delta]; simp)]
            exact List.mem_cons_of_mem _ recent

structure Printed (observation : StructuredObservation) (view : View) (older : List Step)
    (focus : Focus) : Prop where
  content : ∃ between lines,
    view.content = heading observation focus ++ between ++ lined lines ∧
    (∀ line ∈ lines, ∃ node ∈ observation.nodes, node.visible = true ∧
      (Inside observation focus node ∨ labels focus node = true) ∧ hasLine node = true ∧
      line = slice observation.renderedText node.textLocation) ∧
    (view.mode = .region ∧ between = [] ∨ view.mode = .delta ∧ ∃ last before,
      older = last :: before ∧ ∃ removed, between = deltaLine last.2 removed ∧
        ∀ node ∈ last.2.nodes, (∀ other ∈ view.nodes, other.nodeId ≠ node.nodeId) →
          node.nodeId ∈ removed)
  shorter : byteLength view.content < byteLength (utf16 observation.renderedText)

theorem view_printed {observation : StructuredObservation} {view : View} {older : List Step}
    (distinct : (observation.nodes.map (·.nodeId)).Nodup)
    (derived : focusedObservation observation (older.head?.map Prod.snd) = some view) :
    ∃ focus, focusOf observation = some focus ∧ Printed observation view older focus := by
  obtain ⟨focus, found, rfl, shorter⟩ := derived_cases derived
  refine ⟨focus, found, ⟨_, _, rfl, ?_, ?_⟩, shorter⟩
  · intro line member
    obtain ⟨node, printed, rfl⟩ := List.mem_map.mp member
    obtain ⟨kept, lineHeld⟩ := List.mem_filter.mp printed
    obtain ⟨inside, visible, scope⟩ := (mem_scopeNodes distinct found).mp (retained_sub kept)
    exact ⟨node, inside, visible, scope, lineHeld, rfl⟩
  · cases previous : previousOf (older.head?.map Prod.snd) (scopeIdentity observation focus) with
    | none => exact Or.inl ⟨by simp [viewOf, previous], rfl⟩
    | some last =>
        refine Or.inr ⟨by simp [viewOf, previous], ?_⟩
        have given := (Option.filter_eq_some_iff.mp previous).1
        cases older with
        | nil => cases given
        | cons step before =>
            obtain rfl : step.2 = last := Option.some.inj given
            refine ⟨step, before, rfl, _, rfl, fun node member gone => ?_⟩
            refine List.mem_filter.mpr ⟨mem_uniq.mpr (List.mem_map_of_mem member), ?_⟩
            simp only [Bool.not_eq_true', List.any_eq_false, beq_iff_eq]
            exact gone

/-- What the newest view of any chain shows of its scope. -/
theorem chain_views {observation : StructuredObservation} {view : View} {older : List Step}
    (chain : Chain ((observation, view) :: older))
    (distinct : (observation.nodes.map (·.nodeId)).Nodup) :
    ∃ focus, focusOf observation = some focus ∧ Printed observation view older focus ∧
      (∀ node ∈ observation.nodes, node.visible = true → Inside observation focus node →
        hasLine node = true →
        ((∃ root ∈ focus.roots, node.nodeId = root.nodeId) ∨ interactive node = true ∨
          ∀ last before, older = last :: before → last.2.scopeIdentity = view.scopeIdentity →
            ∀ earlier ∈ last.2.nodes, earlier.nodeId = node.nodeId →
              semantic earlier ≠ semantic node) →
        slice observation.renderedText node.textLocation <:+: view.content) ∧
      ∀ node ∈ observation.nodes, node.visible = true → Inside observation focus node →
        ∃ shown ∈ sinceRegion ((observation, view) :: older), ∃ earlier ∈ shown.2.nodes,
          earlier.nodeId = node.nodeId ∧ semantic earlier = semantic node ∧
          (hasLine earlier = true →
            slice shown.1.renderedText earlier.textLocation <:+: shown.2.content) := by
  cases chain with
  | cons rest derived =>
    have chain : Chain ((observation, view) :: older) := .cons rest derived
    obtain ⟨focus, found, printed⟩ := view_printed distinct derived
    refine ⟨focus, found, printed, ?_, ?_⟩
    · intro node member visible scope line current
      obtain ⟨other, sameFocus, rfl, -⟩ := derived_cases derived
      obtain rfl : other = focus := Option.some.inj (sameFocus.symm.trans found)
      have inScope := (mem_scopeNodes distinct found).mpr ⟨member, visible, Or.inl scope⟩
      have kept : node ∈ retained other (previousOf (older.head?.map Prod.snd)
          (scopeIdentity observation other)) (scopeNodes observation other) := by
        refine kept_of_current inScope (current.imp_right fun rest => rest.imp_right ?_)
        intro changed last previous
        obtain ⟨given, same⟩ := Option.filter_eq_some_iff.mp previous
        cases older with
        | nil => cases given
        | cons step before =>
            obtain rfl : step.2 = last := Option.some.inj given
            exact changed step before rfl (beq_iff_eq.mp same)
      obtain ⟨front, content⟩ := content_split observation other (older.head?.map Prod.snd)
      rw [content]
      exact (line_inside (line_mem kept line)).trans (List.suffix_append _ _).isInfix
    · intro node member visible scope
      obtain ⟨other, sameFocus, rfl, -⟩ := derived_cases derived
      obtain rfl : other = focus := Option.some.inj (sameFocus.symm.trans found)
      exact chain_shown chain _ older rfl node
        ((mem_scopeNodes distinct found).mpr ⟨member, visible, Or.inl scope⟩)

/-! A dialog with one field, and what follows it. -/

theorem utf16_append (front rest : String) : utf16 (front ++ rest) = utf16 front ++ utf16 rest := by
  rw [utf16, String.toList_append, List.flatMap_append, utf16, utf16]

theorem slice_append {front : String} (rest : String) {place : TextLocation}
    (within_front : place.finish.toNat ≤ (utf16 front).length) :
    slice (front ++ rest) place = slice front place := by
  rw [slice, utf16_append, List.take_append_of_le_length within_front, slice]

theorem content_front {observation : StructuredObservation} {front rest : String}
    (text : observation.renderedText = front ++ rest)
    (within_front : ∀ node ∈ observation.nodes,
      node.textLocation.finish.toNat ≤ (utf16 front).length)
    (focus : Focus) (baseline : Option View) :
    (viewOf observation focus baseline).content =
      (viewOf { observation with renderedText := front } focus baseline).content := by
  have lines : ∀ nodes ⊆ observation.nodes,
      linesOf observation nodes = linesOf { observation with renderedText := front } nodes := by
    intro nodes sub
    refine List.map_congr_left fun node member => ?_
    rw [text, slice_append rest (within_front node (sub (List.mem_of_mem_filter member)))]
  have shown := lines (retained focus (previousOf baseline (scopeIdentity observation focus))
    (scopeNodes observation focus)) (List.Subset.trans retained_sub List.filter_sublist.subset)
  simp only [viewOf, contentOf, shown]
  rfl

def pageNode (id : String) (parentId : Option String) (tag ref text : String) (start finish : Int) :
    ObservedNode :=
  { nodeId := id, parentId, frameId := "f", documentEpoch := "e", tag, ref := some ref
    text := some text, visible := true, textLocation := { start, finish } }

def pageFront : String :=
  "dialog [ref=e1]\nfield [ref=e2]\n"

def background : String :=
  String.ofList (List.replicate 400 'p')

def pageOf (captureId : String) (nodes : List ObservedNode) : StructuredObservation where
  captureId
  capturedFrom := "2026-01-01T00:00:00.000Z"
  capturedUntil := "2026-01-01T00:00:01.000Z"
  pageIdentity := "https://site.test/"
  nodes
  renderedText := pageFront ++ background
  consistency := .verified
  coverage := { scope := .viewport, completeWithinScope := true, truncated := false }

theorem replicate_units (count : Nat) :
    (List.replicate count 'p').flatMap charText = List.replicate count (code 'p') := by
  induction count with
  | zero => rfl
  | succ count ih =>
      rw [List.replicate_succ, List.flatMap_cons, ih]
      rfl

theorem page_bytes : 400 ≤ byteLength (utf16 (pageFront ++ background)) := by
  have letters : utf16 background = List.replicate 400 (code 'p') :=
    (congrArg (List.flatMap charText) String.toList_ofList).trans (replicate_units 400)
  have front : Whole (utf16 pageFront) := by
    have held : ((utf16 pageFront).all fun unit => !isHigh unit && !isLow unit) = true := by
      decide
    intro unit member
    simpa using List.all_eq_true.mp held unit member
  rw [utf16_append, letters, byteLength_whole front]
  refine Nat.le_add_left_of_le ?_
  decide +kernel

def firstPage : StructuredObservation :=
  pageOf "7f1c2d3e-0000-4000-8000-000000000001"
    [pageNode "d1" none "dialog" "e1" "Order" 0 15, pageNode "n1" (some "d1") "p" "e2" "Open" 16 30]

def firstView : View :=
  viewOf firstPage { owner := none, roots := dialogsOf firstPage } none

def otherPage : StructuredObservation :=
  pageOf "7f1c2d3e-0000-4000-8000-000000000003"
    [pageNode "d2" none "dialog" "e1" "Order" 0 15, pageNode "n2" (some "d2") "p" "e2" "Open" 16 30]

def otherView : View :=
  viewOf otherPage { owner := none, roots := dialogsOf otherPage } (some firstView)

theorem firstChain : Chain [(firstPage, firstView)] := by
  refine .cons .nil (derived_of rfl rfl (by simp [linesOf, retained]; decide) ?_)
  refine lt_of_lt_of_le ?_ page_bytes
  rw [@content_front _ pageFront background rfl (by decide)]
  decide +kernel

theorem otherChain : Chain [(otherPage, otherView), (firstPage, firstView)] := by
  refine .cons firstChain (derived_of rfl rfl (by simp [linesOf, retained]; decide) ?_)
  refine lt_of_lt_of_le ?_ page_bytes
  rw [@content_front _ pageFront background rfl (by decide)]
  decide +kernel

/-- A view of another scope lists no node of the view before it as removed. -/
theorem removed_unlisted : Chain [(otherPage, otherView), (firstPage, firstView)] ∧
    ∃ node ∈ firstView.nodes, (∀ other ∈ otherView.nodes, other.nodeId ≠ node.nodeId) ∧
      ¬ utf16 node.nodeId <:+: otherView.content := by
  refine ⟨otherChain, pageNode "n1" (some "d1") "p" "e2" "Open" 16 30, ?_, ?_, ?_⟩
  · decide
  · decide
  · have content := @content_front otherPage pageFront background rfl (by decide)
      { owner := none, roots := dialogsOf otherPage }
      (some firstView)
    rw [otherView, content]
    decide +kernel

theorem chain_views_first : ∃ focus, focusOf otherPage = some focus ∧
    Printed otherPage otherView [(firstPage, firstView)] focus := by
  obtain ⟨focus, found, printed, -⟩ := chain_views otherChain (by decide)
  exact ⟨focus, found, printed⟩

end Devproof.FocusedView
