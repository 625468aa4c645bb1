import Devproof.Observation.Verdict

/-!
The scope test of an evaluation decides reachability through parent links, whatever the links are.
-/

namespace Devproof

section Walk

variable {nodes : List ObservedNode}

def atScope (target : String) (current : ObservedNode) : Option Bool :=
  if current.nodeId = target then some true else none

/-- Where a walk stands: it has passed distinct nodes, none of them the target, and the parent of
each is one of them or the current node. -/
structure Walk (nodes : List ObservedNode) (target : String) (seen : List String)
    (current : ObservedNode) : Prop where
  distinct : seen.Nodup
  known : ∀ id ∈ seen, id ∈ nodes.map (·.nodeId)
  missed : target ∉ seen
  closed : ∀ node ∈ nodes, node.nodeId ∈ seen → ∀ parent,
    nodeById nodes node.parentId = some parent → parent.nodeId ∈ current.nodeId :: seen

theorem Walk.short {target : String} {seen : List String} {current : ObservedNode}
    (walk : Walk nodes target seen current) : seen.length ≤ nodes.length := by
  have bound := (List.subperm_of_subset walk.distinct walk.known).length_le
  rwa [List.length_map] at bound

theorem walk_start (target : String) (node : ObservedNode) : Walk nodes target [] node where
  distinct := List.nodup_nil
  known := fun _ member => absurd member List.not_mem_nil
  missed := List.not_mem_nil
  closed := fun _ _ member => absurd member List.not_mem_nil

/-- The walk goes on from a new node that is not the target. -/
theorem Walk.step (distinct : (nodes.map (·.nodeId)).Nodup) {target : String} {seen : List String}
    {current parent : ObservedNode} (walk : Walk nodes target seen current)
    (member : current ∈ nodes) (fresh : current.nodeId ∉ seen) (other : current.nodeId ≠ target)
    (above : nodeById nodes current.parentId = some parent) :
    Walk nodes target (current.nodeId :: seen) parent where
  distinct := List.nodup_cons.mpr ⟨fresh, walk.distinct⟩
  known := List.forall_mem_cons.mpr ⟨List.mem_map_of_mem member, walk.known⟩
  missed := by
    rw [List.mem_cons, not_or]
    exact ⟨other.symm, walk.missed⟩
  closed := by
    intro node inside visited next link
    rcases List.mem_cons.mp visited with here | earlier
    · have same := eq_of_nodeId distinct inside member here
      subst same
      rw [above] at link
      rw [Option.some.inj link]
      exact List.mem_cons_self
    · exact List.mem_cons_of_mem _ (walk.closed node inside earlier next link)

def Closed (nodes : List ObservedNode) (ids : List String) : Prop :=
  ∀ node ∈ nodes, node.nodeId ∈ ids → ∀ parent,
    nodeById nodes node.parentId = some parent → parent.nodeId ∈ ids

theorem Closed.chain {ids : List String} (closed : Closed nodes ids) {node root : ObservedNode}
    (chain : ParentChain nodes node root) (member : node ∈ nodes) (inside : node.nodeId ∈ ids) :
    root.nodeId ∈ ids := by
  induction chain with
  | here node => exact inside
  | up link _ ih => exact ih (nodeById_mem link) (closed _ member inside _ link)

theorem climb_closed (distinct : (nodes.map (·.nodeId)).Nodup) {target : String} (fuel : Nat)
    {seen : List String} {current : ObservedNode} (walk : Walk nodes target seen current)
    (member : current ∈ nodes) (enough : nodes.length < fuel + seen.length)
    (failed : climb nodes (atScope target) fuel seen current ≠ some true) :
    ∃ ids, Closed nodes ids ∧ target ∉ ids ∧ current.nodeId ∈ ids ∧ seen ⊆ ids := by
  induction fuel generalizing seen current with
  | zero =>
      have short := walk.short
      omega
  | succ fuel ih =>
      unfold climb at failed
      by_cases visited : current.nodeId ∈ seen
      · refine ⟨seen, fun node inside passed parent link => ?_, walk.missed, visited,
          List.Subset.refl seen⟩
        rcases List.mem_cons.mp (walk.closed node inside passed parent link) with here | earlier
        · exact here ▸ visited
        · exact earlier
      · rw [if_neg (by simpa using visited)] at failed
        by_cases arrived : current.nodeId = target
        · simp [atScope, arrived] at failed
        · simp only [atScope, if_neg arrived] at failed
          cases above : nodeById nodes current.parentId with
          | none =>
              refine ⟨current.nodeId :: seen, fun node inside passed parent link => ?_, ?_,
                List.mem_cons_self, List.subset_cons_self _ _⟩
              · rcases List.mem_cons.mp passed with here | earlier
                · have same := eq_of_nodeId distinct inside member here
                  rw [same, above] at link
                  cases link
                · exact walk.closed node inside earlier parent link
              · rw [List.mem_cons, not_or]
                exact ⟨Ne.symm arrived, walk.missed⟩
          | some parent =>
              simp only [above] at failed
              obtain ⟨ids, closed, missed, -, passed⟩ := ih
                (walk.step distinct member visited arrived above) (nodeById_mem above)
                (by rw [List.length_cons]; omega) failed
              exact ⟨ids, closed, missed, passed List.mem_cons_self,
                fun id inside => passed (List.mem_cons_of_mem _ inside)⟩

/-- The walk has ended after as many steps as there are nodes: more steps change nothing. -/
theorem climb_ends (distinct : (nodes.map (·.nodeId)).Nodup) {target : String} (fuel more : Nat)
    {seen : List String} {current : ObservedNode} (walk : Walk nodes target seen current)
    (member : current ∈ nodes) (enough : nodes.length < fuel + seen.length) :
    climb nodes (atScope target) (fuel + more) seen current =
      climb nodes (atScope target) fuel seen current := by
  induction fuel generalizing seen current with
  | zero =>
      have short := walk.short
      omega
  | succ fuel ih =>
      rw [Nat.succ_add]
      unfold climb
      by_cases visited : current.nodeId ∈ seen
      · rw [if_pos (by simpa using visited), if_pos (by simpa using visited)]
      · rw [if_neg (by simpa using visited), if_neg (by simpa using visited)]
        by_cases arrived : current.nodeId = target
        · simp [atScope, arrived]
        · simp only [atScope, if_neg arrived]
          cases above : nodeById nodes current.parentId with
          | none => rfl
          | some parent =>
              exact ih (walk.step distinct member visited arrived above) (nodeById_mem above)
                (by rw [List.length_cons]; omega)

end Walk

theorem liesIn_refl (nodes : List ObservedNode) (node : ObservedNode) : LiesIn nodes node node :=
  ⟨rfl, rfl, .here node⟩

theorem ParentChain.trans {nodes : List ObservedNode} {node between root : ObservedNode}
    (first : ParentChain nodes node between) (second : ParentChain nodes between root) :
    ParentChain nodes node root := by
  induction first with
  | here _ => exact second
  | up link _ ih => exact .up link (ih second)

theorem LiesIn.trans {nodes : List ObservedNode} {node between root : ObservedNode}
    (first : LiesIn nodes node between) (second : LiesIn nodes between root) :
    LiesIn nodes node root :=
  ⟨first.sameFrame.trans second.sameFrame, first.sameEpoch.trans second.sameEpoch,
    first.chain.trans second.chain⟩

theorem within_iff {nodes : List ObservedNode} (distinct : (nodes.map (·.nodeId)).Nodup)
    {node scope : ObservedNode} (member : node ∈ nodes) (scopeMember : scope ∈ nodes) :
    within nodes node scope = true ↔ LiesIn nodes node scope := by
  constructor
  · exact within_liesIn distinct member scopeMember
  · intro inside
    have reached : climb nodes (atScope scope.nodeId) (nodes.length + 1) [] node = some true := by
      by_contra failed
      obtain ⟨ids, closed, missed, start, -⟩ := climb_closed distinct (nodes.length + 1)
        (walk_start scope.nodeId node) member (Nat.lt_succ_self _) failed
      exact missed (closed.chain inside.chain member start)
    simp only [within, reaches, inside.sameFrame, inside.sameEpoch, beq_self_eq_true,
      Bool.true_and]
    exact beq_iff_eq.mpr reached

/-- The scope test ends, decides reachability and is reflexive and transitive. -/
theorem within_scope (nodes : List ObservedNode) (distinct : (nodes.map (·.nodeId)).Nodup) :
    (∀ node ∈ nodes, ∀ scope ∈ nodes,
      (∀ more, climb nodes (atScope scope.nodeId) (nodes.length + 1 + more) [] node =
        climb nodes (atScope scope.nodeId) (nodes.length + 1) [] node) ∧
      (within nodes node scope = true ↔ LiesIn nodes node scope)) ∧
    (∀ node ∈ nodes, within nodes node node = true) ∧
    ∀ node ∈ nodes, ∀ between ∈ nodes, ∀ scope ∈ nodes, within nodes node between = true →
      within nodes between scope = true → within nodes node scope = true := by
  refine ⟨fun node member scope scopeMember => ⟨fun more => ?_,
    within_iff distinct member scopeMember⟩, fun node member => ?_,
    fun node member between betweenMember scope scopeMember first second => ?_⟩
  · exact climb_ends distinct _ more (walk_start scope.nodeId node) member (Nat.lt_succ_self _)
  · exact (within_iff distinct member member).mpr (liesIn_refl nodes node)
  · have below := (within_iff distinct member betweenMember).mp first
    have above := (within_iff distinct betweenMember scopeMember).mp second
    exact (within_iff distinct member scopeMember).mpr (below.trans above)

def plainNode (id : String) (parentId : Option String) (frameId : String) : ObservedNode :=
  { nodeId := id, parentId, frameId, documentEpoch := "d1", tag := "div", visible := true }

def cyclic : List ObservedNode :=
  [plainNode "a" (some "b") "f", plainNode "b" (some "a") "f", plainNode "c" (some "gone") "f"]

theorem within_scope_cyclic :
    within cyclic (plainNode "a" (some "b") "f") (plainNode "b" (some "a") "f") = true ↔
      LiesIn cyclic (plainNode "a" (some "b") "f") (plainNode "b" (some "a") "f") :=
  ((within_scope cyclic (by decide)).1 (plainNode "a" (some "b") "f") (by decide)
    (plainNode "b" (some "a") "f") (by decide)).2

/-- The parent of the first node lies in another frame, the scope above it in the first again. -/
def crossed : List ObservedNode :=
  [plainNode "a" (some "b") "f", plainNode "b" (some "s") "g", plainNode "s" none "f"]

/-- Only the ends of the walk are compared. -/
theorem within_crossed :
    within crossed (plainNode "a" (some "b") "f") (plainNode "s" none "f") = true ∧
      nodeById crossed (plainNode "a" (some "b") "f").parentId =
        some (plainNode "b" (some "s") "g") ∧
      (plainNode "b" (some "s") "g").frameId ≠ (plainNode "s" none "f").frameId := by
  decide

end Devproof
