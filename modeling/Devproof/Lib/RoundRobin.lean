import Mathlib.Algebra.GroupWithZero.Nat
import Mathlib.Data.List.Perm.Basic
import Mathlib.Data.List.Nodup
import Mathlib.Data.List.Pairwise

/-!
Serving groups in rounds.  Each round takes the first item of every group that
has one, so no group is more than one item ahead of another that still waits.
-/

namespace Devproof.RoundRobin

variable {α κ : Type}

def flatten (groups : List (κ × List α)) : List α :=
  groups.flatMap Prod.snd

structure Keyed (key : α → κ) (groups : List (κ × List α)) : Prop where
  distinct : (groups.map Prod.fst).Nodup
  nonempty : ∀ group ∈ groups, group.2 ≠ []
  own : ∀ group ∈ groups, ∀ item ∈ group.2, key item = group.1

theorem Keyed.nil {key : α → κ} : Keyed key [] :=
  ⟨List.nodup_nil, by simp, by simp⟩

theorem keyed_cons_iff {key : α → κ} {name : κ} {group : List α} {groups : List (κ × List α)} :
    Keyed key ((name, group) :: groups) ↔ (name ∉ groups.map Prod.fst ∧ group ≠ [] ∧
      ∀ item ∈ group, key item = name) ∧ Keyed key groups := by
  constructor
  · rintro ⟨distinct, nonempty, own⟩
    rw [List.map_cons, List.nodup_cons] at distinct
    rw [List.forall_mem_cons] at nonempty own
    exact ⟨⟨distinct.1, nonempty.1, own.1⟩, distinct.2, nonempty.2, own.2⟩
  · rintro ⟨⟨fresh, solid, own⟩, distinct, nonempty, others⟩
    exact ⟨List.nodup_cons.mpr ⟨fresh, distinct⟩, List.forall_mem_cons.mpr ⟨solid, nonempty⟩,
      List.forall_mem_cons.mpr ⟨own, others⟩⟩

def serve : List (κ × List α) → List α × List (κ × List α)
  | [] => ([], [])
  | (_, []) :: rest => serve rest
  | (_, [item]) :: rest => (item :: (serve rest).1, (serve rest).2)
  | (key, item :: next :: more) :: rest =>
      (item :: (serve rest).1, (key, next :: more) :: (serve rest).2)

def waiting (groups : List (κ × List α)) : Nat :=
  (groups.map fun group => group.2.length + 1).sum

theorem serve_waiting (groups : List (κ × List α)) :
    waiting (serve groups).2 + groups.length ≤ waiting groups := by
  fun_induction serve groups with
  | case1 => exact Nat.le_refl _
  | case2 key rest ih =>
      simp only [waiting, List.map_cons, List.sum_cons, List.length_cons, List.length_nil] at ih ⊢
      omega
  | case3 key item rest ih =>
      simp only [waiting, List.map_cons, List.sum_cons, List.length_cons, List.length_nil] at ih ⊢
      omega
  | case4 key item next more rest ih =>
      simp only [waiting, List.map_cons, List.sum_cons, List.length_cons] at ih ⊢
      omega

def roundRobin : List (κ × List α) → List α
  | [] => []
  | group :: rest => (serve (group :: rest)).1 ++ roundRobin (serve (group :: rest)).2
termination_by groups => waiting groups
decreasing_by
  have less := serve_waiting (group :: rest)
  simp only [List.length_cons] at less
  omega

theorem serve_perm (groups : List (κ × List α)) :
    ((serve groups).1 ++ flatten (serve groups).2).Perm (flatten groups) := by
  fun_induction serve groups with
  | case1 => exact .refl _
  | case2 key rest ih => simpa [flatten] using ih
  | case3 key item rest ih =>
      simp only [flatten, List.flatMap_cons, List.cons_append, List.nil_append] at ih ⊢
      exact ih.cons item
  | case4 key item next more rest ih =>
      simp only [flatten, List.flatMap_cons, List.cons_append] at ih ⊢
      refine .cons item ?_
      refine List.perm_middle.trans (.cons next ?_)
      refine (List.perm_append_comm_assoc _ _ _).trans ?_
      exact ih.append_left more

theorem roundRobin_perm (groups : List (κ × List α)) :
    (roundRobin groups).Perm (flatten groups) := by
  fun_induction roundRobin groups with
  | case1 => exact .refl _
  | case2 group rest ih => exact (ih.append_left _).trans (serve_perm _)

section Keyed

variable {key : α → κ} {groups : List (κ × List α)}

theorem serve_keys (groups : List (κ × List α)) :
    ((serve groups).2.map Prod.fst).Sublist (groups.map Prod.fst) := by
  fun_induction serve groups with
  | case1 => exact .refl _
  | case2 key rest ih | case3 key item rest ih => exact ih.cons key
  | case4 key item next more rest ih => exact ih.cons_cons key

theorem Keyed.serve (keyed : Keyed key groups) : Keyed key (serve groups).2 := by
  fun_induction RoundRobin.serve groups with
  | case1 => exact .nil
  | case2 name rest ih | case3 name item rest ih => exact ih (keyed_cons_iff.mp keyed).2
  | case4 name item next more rest ih =>
      obtain ⟨⟨fresh, -, own⟩, later⟩ := keyed_cons_iff.mp keyed
      refine keyed_cons_iff.mpr ⟨⟨fun inside => fresh ((serve_keys rest).subset inside), by simp,
        fun other member => own other (List.mem_cons_of_mem _ member)⟩, ih later⟩

/-- A round has one item of every group. -/
theorem Keyed.serve_map (keyed : Keyed key groups) :
    (RoundRobin.serve groups).1.map key = groups.map Prod.fst := by
  fun_induction RoundRobin.serve groups with
  | case1 => rfl
  | case2 name rest => exact absurd rfl (keyed_cons_iff.mp keyed).1.2.1
  | case3 name item rest ih =>
      obtain ⟨⟨-, -, own⟩, later⟩ := keyed_cons_iff.mp keyed
      rw [List.map_cons, List.map_cons, ih later, own item (List.mem_cons_self ..)]
  | case4 name item next more rest ih =>
      obtain ⟨⟨-, -, own⟩, later⟩ := keyed_cons_iff.mp keyed
      rw [List.map_cons, List.map_cons, ih later, own item (List.mem_cons_self ..)]

theorem Keyed.flatten_key (keyed : Keyed key groups) {item : α} (member : item ∈ flatten groups) :
    key item ∈ groups.map Prod.fst := by
  obtain ⟨group, inside, here⟩ := List.mem_flatMap.mp member
  rw [keyed.own group inside item here]
  exact List.mem_map_of_mem inside

/-- Reordering the items inside the groups. -/
theorem Keyed.map {order : List α → List α} (keyed : Keyed key groups)
    (perm : ∀ items, (order items).Perm items) :
    Keyed key (groups.map fun group => (group.1, order group.2)) := by
  refine ⟨by simpa [Function.comp_def] using keyed.distinct, ?_, ?_⟩
  · intro group member
    obtain ⟨known, inside, rfl⟩ := List.mem_map.mp member
    exact fun none => keyed.nonempty known inside
      (List.Perm.nil_eq ((none ▸ perm known.2 : [].Perm known.2))).symm
  · intro group member item here
    obtain ⟨known, inside, rfl⟩ := List.mem_map.mp member
    exact keyed.own known inside item ((perm known.2).subset here)

variable [DecidableEq κ]

theorem Keyed.filter_absent (keyed : Keyed key groups) {name : κ}
    (absent : name ∉ groups.map Prod.fst) {items : List α} (inside : items ⊆ flatten groups) :
    items.filter (fun item => key item = name) = [] := by
  refine List.filter_eq_nil_iff.mpr fun item member => ?_
  simp only [decide_eq_true_eq]
  rintro rfl
  exact absent (keyed.flatten_key (inside member))

theorem Keyed.serve_filter (keyed : Keyed key groups) (name : κ) :
    ((RoundRobin.serve groups).1 ++ flatten (RoundRobin.serve groups).2).filter
        (fun item => key item = name) =
      (flatten groups).filter fun item => key item = name := by
  fun_induction RoundRobin.serve groups with
  | case1 => rfl
  | case2 known rest => exact absurd rfl (keyed_cons_iff.mp keyed).1.2.1
  | case3 known item rest ih =>
      have shown := ih (keyed_cons_iff.mp keyed).2
      simp only [flatten, List.flatMap_cons, List.cons_append, List.nil_append,
        List.filter_cons] at shown ⊢
      rw [shown]
  | case4 known item next more rest ih =>
      obtain ⟨⟨fresh, -, own⟩, later⟩ := keyed_cons_iff.mp keyed
      have shown := ih later
      have perm := serve_perm rest
      have whole : flatten ((known, item :: next :: more) :: rest) =
          (item :: next :: more) ++ flatten rest := rfl
      have split : flatten ((known, next :: more) :: (RoundRobin.serve rest).2) =
          (next :: more) ++ flatten (RoundRobin.serve rest).2 := rfl
      rw [List.filter_append] at shown
      rw [whole, split, List.filter_append, List.filter_append, List.filter_append]
      by_cases here : known = name
      · -- no other group has the key
        have absent : ∀ {items : List α}, items ⊆ flatten rest →
            items.filter (fun item => key item = name) = [] :=
          fun inside => later.filter_absent (here ▸ fresh) inside
        have served := absent fun other member => perm.subset (List.mem_append_left _ member)
        have left := absent fun other member => perm.subset (List.mem_append_right _ member)
        have mine : decide (key item = name) = true := by
          simp [own item (List.mem_cons_self ..), here]
        have kept : (item :: (RoundRobin.serve rest).1).filter (fun item => key item = name) =
            [item] := by
          rw [List.filter_cons, if_pos mine, served]
        rw [left, absent (List.Subset.refl _), List.append_nil, List.append_nil, kept]
        exact (List.filter_append [item] (next :: more)).symm ▸ by simp [mine]
      · have mine : ∀ {items : List α}, items ⊆ item :: next :: more →
            items.filter (fun item => key item = name) = [] := by
          intro items inside
          refine List.filter_eq_nil_iff.mpr fun other member => ?_
          simpa [own other (inside member)] using here
        have first := mine (List.Subset.refl _)
        have others := mine (List.subset_cons_self item (next :: more))
        have skipped : (item :: (RoundRobin.serve rest).1).filter (fun item => key item = name) =
            (RoundRobin.serve rest).1.filter fun item => key item = name :=
          List.filter_cons_of_neg (by simpa [own item (List.mem_cons_self ..)] using here)
        rw [first, others, skipped, List.nil_append, List.nil_append, shown]

theorem Keyed.roundRobin_filter (keyed : Keyed key groups) (name : κ) :
    (roundRobin groups).filter (fun item => key item = name) =
      (flatten groups).filter fun item => key item = name := by
  fun_induction roundRobin groups with
  | case1 => rfl
  | case2 group rest ih =>
      rw [List.filter_append, ih keyed.serve, ← List.filter_append, keyed.serve_filter]

def ranksFrom (key : α → κ) (before : List α) : List α → List Nat
  | [] => []
  | item :: rest =>
      before.countP (fun other => key other = key item) :: ranksFrom key (before ++ [item]) rest

theorem ranksFrom_append (key : α → κ) (before first second : List α) :
    ranksFrom key before (first ++ second) =
      ranksFrom key before first ++ ranksFrom key (before ++ first) second := by
  induction first generalizing before with
  | nil => simp [ranksFrom]
  | cons item rest ih => simp [ranksFrom, ih]

theorem ranksFrom_shift {first before items : List α}
    (once : ∀ item ∈ items, first.countP (fun other => key other = key item) = 1) :
    ranksFrom key (first ++ before) items = (ranksFrom key before items).map (1 + ·) := by
  induction items generalizing before with
  | nil => rfl
  | cons item rest ih =>
      obtain ⟨here, later⟩ := List.forall_mem_cons.mp once
      rw [ranksFrom, ranksFrom, List.map_cons, List.countP_append, here, List.append_assoc, ih later]

theorem ranksFrom_distinct {before items : List α}
    (distinct : ((before ++ items).map key).Nodup) :
    ∀ rank ∈ ranksFrom key before items, rank = 0 := by
  induction items generalizing before with
  | nil => simp [ranksFrom]
  | cons item rest ih =>
      rw [ranksFrom, List.forall_mem_cons]
      refine ⟨?_, ih (by simpa using distinct)⟩
      rw [List.countP_eq_zero]
      intro other member
      rw [List.map_append, List.nodup_append] at distinct
      simpa using distinct.2.2 _ (List.mem_map_of_mem member) (key item) (by simp)

theorem Keyed.served_once (keyed : Keyed key groups) {name : κ}
    (named : name ∈ groups.map Prod.fst) :
    (RoundRobin.serve groups).1.countP (fun other => key other = name) = 1 := by
  have counted : (RoundRobin.serve groups).1.countP (fun other => key other = name) =
      ((RoundRobin.serve groups).1.map key).count name := by
    rw [List.count, List.countP_map]
    refine List.countP_congr fun other _ => ?_
    simp
  rw [counted, keyed.serve_map]
  exact List.count_eq_one_of_mem keyed.distinct named

/-- The ranks of a round robin never go down. -/
theorem Keyed.ranks_sorted (keyed : Keyed key groups) :
    (ranksFrom key [] (roundRobin groups)).Pairwise (· ≤ ·) := by
  fun_induction roundRobin groups with
  | case1 => exact .nil
  | case2 group rest ih =>
      have zero : ∀ rank ∈ ranksFrom key [] (RoundRobin.serve (group :: rest)).1, rank = 0 :=
        ranksFrom_distinct (by rw [List.nil_append, keyed.serve_map]; exact keyed.distinct)
      have shifted : ranksFrom key (RoundRobin.serve (group :: rest)).1
            (roundRobin (RoundRobin.serve (group :: rest)).2) =
          (ranksFrom key [] (roundRobin (RoundRobin.serve (group :: rest)).2)).map (1 + ·) := by
        have moved := @ranksFrom_shift _ _ key _ (RoundRobin.serve (group :: rest)).1 []
          (roundRobin (RoundRobin.serve (group :: rest)).2)
        rw [List.append_nil] at moved
        refine moved fun item member => keyed.served_once ?_
        have inside := (roundRobin_perm _).mem_iff.mp member
        exact (serve_keys _).subset (keyed.serve.flatten_key inside)
      rw [ranksFrom_append, List.nil_append, shifted]
      refine List.pairwise_append.mpr ⟨?_, ?_, ?_⟩
      · exact List.pairwise_of_forall_mem_list fun first inFirst second inSecond => by
          rw [zero first inFirst]
          exact Nat.zero_le _
      · exact (ih keyed.serve).map _ fun first second below => Nat.add_le_add_left below 1
      · intro first inFirst second _
        rw [zero first inFirst]
        exact Nat.zero_le _

def rank (key : α → κ) (items : List α) (position : Fin items.length) : Nat :=
  (items.take position).countP fun other => key other = key items[position]

def Fair (key : α → κ) (items : List α) : Prop :=
  ∀ first second, rank key items first < rank key items second → first < second

theorem ranksFrom_length (key : α → κ) (before items : List α) :
    (ranksFrom key before items).length = items.length := by
  induction items generalizing before with
  | nil => rfl
  | cons item rest ih => rw [ranksFrom, List.length_cons, List.length_cons, ih]

theorem ranksFrom_getElem {key : α → κ} {before items : List α} {position : Nat}
    (inside : position < items.length) :
    (ranksFrom key before items).get ⟨position, by rwa [ranksFrom_length]⟩ =
      (before ++ items.take position).countP fun other => key other = key items[position] := by
  induction items generalizing before position with
  | nil => simp at inside
  | cons item rest ih =>
      cases position with
      | zero => simp [ranksFrom]
      | succ position =>
          have later := @ih (before ++ [item]) position (Nat.lt_of_succ_lt_succ inside)
          rw [List.append_assoc, List.singleton_append] at later
          rw [List.take_succ_cons]
          exact later

theorem fair_of_sorted {items : List α} (sorted : (ranksFrom key [] items).Pairwise (· ≤ ·)) :
    Fair key items := by
  have ranked : ∀ position : Fin items.length, rank key items position =
      (ranksFrom key [] items).get ⟨position, by rw [ranksFrom_length]; exact position.isLt⟩ :=
    fun position => (@ranksFrom_getElem _ _ _ key [] items position position.isLt).symm
  intro first second less
  by_contra after
  rcases Nat.lt_or_eq_of_le (Nat.le_of_not_lt after) with before | same
  · have ordered := List.pairwise_iff_getElem.mp sorted second first
      (by rw [ranksFrom_length]; exact second.isLt) (by rw [ranksFrom_length]; exact first.isLt)
      before
    rw [ranked, ranked] at less
    exact absurd less (Nat.not_lt.mpr ordered)
  · rw [Fin.ext same] at less
    exact Nat.lt_irrefl _ less

theorem Keyed.fair (keyed : Keyed key groups) : Fair key (roundRobin groups) :=
  fair_of_sorted keyed.ranks_sorted

theorem exists_rank {items : List α} {name : κ} {behind position : Nat}
    (inside : position ≤ items.length)
    (many : behind < (items.take position).countP fun other => key other = name) :
    ∃ earlier : Fin items.length, earlier < position ∧ key items[earlier] = name ∧
      rank key items earlier = behind := by
  induction position with
  | zero => simp at many
  | succ position ih =>
      rw [List.take_succ_eq_append_getElem inside, List.countP_append] at many
      by_cases here : behind < (items.take position).countP fun other => key other = name
      · obtain ⟨earlier, before, named, ranked⟩ := ih (Nat.le_of_succ_le inside) here
        exact ⟨earlier, Nat.lt_succ_of_lt before, named, ranked⟩
      · have named : key items[position] = name := by
          by_contra other
          simp [other, here] at many
        have counted : (items.take position).countP (fun other => key other = name) = behind := by
          simp only [List.countP_singleton, named, decide_true, if_true] at many
          omega
        exact ⟨⟨position, inside⟩, Nat.lt_succ_self _, named, by rw [← counted, ← named]; rfl⟩

theorem Fair.delay {items : List α} (fair : Fair key items) (position : Fin items.length)
    (name : κ) :
    (items.take position).countP (fun other => key other = name) ≤ rank key items position + 1 := by
  by_contra many
  obtain ⟨earlier, before, -, ranked⟩ :=
    exists_rank (Nat.le_of_lt position.isLt) (Nat.lt_of_not_le many)
  have after := fair position earlier (by rw [ranked]; exact Nat.lt_succ_self _)
  exact Nat.lt_asymm before after

theorem Keyed.flatten_filter (keyed : Keyed key groups) {name : κ} {group : List α}
    (inside : (name, group) ∈ groups) :
    (flatten groups).filter (fun item => key item = name) = group := by
  induction groups with
  | nil => cases inside
  | cons known rest ih =>
      obtain ⟨known, items⟩ := known
      obtain ⟨⟨fresh, -, own⟩, later⟩ := keyed_cons_iff.mp keyed
      have whole : flatten ((known, items) :: rest) = items ++ flatten rest := rfl
      rw [whole, List.filter_append]
      rcases List.mem_cons.mp inside with here | there
      · obtain ⟨rfl, rfl⟩ := Prod.mk.inj here
        rw [later.filter_absent fresh (List.Subset.refl _), List.append_nil]
        exact List.filter_eq_self.mpr fun item member => by simp [own item member]
      · have other : known ≠ name := by
          rintro rfl
          exact fresh (List.mem_map_of_mem there)
        have skipped : items.filter (fun item => key item = name) = [] :=
          List.filter_eq_nil_iff.mpr fun item member => by simp [own item member, other]
        rw [ih later there, skipped, List.nil_append]

end Keyed

theorem flatten_map_perm {order : List α → List α} (groups : List (κ × List α))
    (perm : ∀ items, (order items).Perm items) :
    (flatten (groups.map fun group => (group.1, order group.2))).Perm (flatten groups) := by
  induction groups with
  | nil => exact .refl _
  | cons group rest ih => exact (perm group.2).append ih

section Enqueue

variable [DecidableEq κ]

/-! Groups in the order of their first items. -/

def enqueue (key : κ) (item : α) : List (κ × List α) → List (κ × List α)
  | [] => [(key, [item])]
  | (known, group) :: rest =>
      if known = key then (known, group ++ [item]) :: rest
      else (known, group) :: enqueue key item rest

def grouped (key : α → κ) (items : List α) : List (κ × List α) :=
  items.foldl (fun groups item => enqueue (key item) item groups) []

theorem enqueue_keys (key : κ) (item : α) (groups : List (κ × List α)) :
    (enqueue key item groups).map Prod.fst =
      if key ∈ groups.map Prod.fst then groups.map Prod.fst else groups.map Prod.fst ++ [key] := by
  induction groups with
  | nil => rfl
  | cons group rest ih =>
      obtain ⟨known, items⟩ := group
      rw [enqueue]
      by_cases same : known = key
      · simp [same]
      · simp only [if_neg same, List.map_cons, ih, List.mem_cons, Ne.symm same, false_or]
        split <;> rfl

theorem Keyed.enqueue {key : α → κ} {groups : List (κ × List α)} (keyed : Keyed key groups)
    (item : α) : Keyed key (enqueue (key item) item groups) := by
  induction groups with
  | nil => exact keyed_cons_iff.mpr ⟨⟨by simp, by simp, by simp⟩, .nil⟩
  | cons group rest ih =>
      obtain ⟨known, items⟩ := group
      obtain ⟨⟨fresh, solid, own⟩, later⟩ := keyed_cons_iff.mp keyed
      rw [RoundRobin.enqueue]
      split
      · rename_i same
        refine keyed_cons_iff.mpr ⟨⟨fresh, by simp, fun other member => ?_⟩, later⟩
        rcases List.mem_append.mp member with inside | new
        · exact own other inside
        · rw [List.mem_singleton.mp new, same]
      · rename_i other
        refine keyed_cons_iff.mpr ⟨⟨?_, solid, own⟩, ih later⟩
        rw [enqueue_keys]
        split
        · exact fresh
        · simp [fresh, other]

theorem flatten_enqueue (key : κ) (item : α) (groups : List (κ × List α)) :
    (flatten (enqueue key item groups)).Perm (flatten groups ++ [item]) := by
  induction groups with
  | nil => exact .refl _
  | cons group rest ih =>
      obtain ⟨known, items⟩ := group
      rw [enqueue]
      split
      · simp only [flatten, List.flatMap_cons, List.append_assoc]
        exact (List.perm_append_comm).append_left items
      · simp only [flatten, List.flatMap_cons, List.append_assoc] at ih ⊢
        exact ih.append_left items

theorem enqueue_filter {key : α → κ} {groups : List (κ × List α)} (keyed : Keyed key groups)
    (item : α) (name : κ) :
    (flatten (enqueue (key item) item groups)).filter (fun other => key other = name) =
      (flatten groups ++ [item]).filter fun other => key other = name := by
  induction groups with
  | nil => rfl
  | cons group rest ih =>
      obtain ⟨known, items⟩ := group
      obtain ⟨⟨fresh, solid, own⟩, later⟩ := keyed_cons_iff.mp keyed
      rw [enqueue]
      split
      · rename_i same
        have absent : name = key item → (flatten rest).filter (fun other => key other = name) = [] := by
          rintro rfl
          refine List.filter_eq_nil_iff.mpr fun other member => ?_
          obtain ⟨group, inside, here⟩ := List.mem_flatMap.mp member
          simp only [decide_eq_true_eq]
          intro equal
          exact fresh (same ▸ equal ▸ later.own group inside other here ▸ List.mem_map_of_mem inside)
        simp only [flatten, List.flatMap_cons, List.filter_append] at absent ⊢
        by_cases here : name = key item
        · rw [absent here, List.append_nil, List.append_nil]
        · have apart : [item].filter (fun other => key other = name) = [] := by
            simp [Ne.symm here]
          rw [apart, List.append_nil, List.append_nil]
      · simp only [flatten, List.flatMap_cons, List.append_assoc, List.filter_append] at ih ⊢
        rw [ih later]

theorem grouped_from (key : α → κ) (items : List α) {groups : List (κ × List α)}
    (keyed : Keyed key groups) :
    Keyed key (items.foldl (fun groups item => enqueue (key item) item groups) groups) ∧
      (flatten (items.foldl (fun groups item => enqueue (key item) item groups) groups)).Perm
        (flatten groups ++ items) ∧
      ∀ name, (flatten (items.foldl (fun groups item => enqueue (key item) item groups)
          groups)).filter (fun other => key other = name) =
        (flatten groups ++ items).filter fun other => key other = name := by
  induction items generalizing groups with
  | nil => exact ⟨keyed, by simp, by simp⟩
  | cons item rest ih =>
      obtain ⟨kept, perm, filters⟩ := ih (keyed.enqueue item)
      refine ⟨kept, perm.trans ?_, fun name => ?_⟩
      · have moved := (flatten_enqueue (key item) item groups).append_right rest
        simpa using moved
      · rw [List.foldl_cons, filters, List.filter_append, enqueue_filter keyed, ← List.filter_append,
          List.append_assoc, List.singleton_append]

theorem grouped_keyed (key : α → κ) (items : List α) : Keyed key (grouped key items) :=
  (grouped_from key items .nil).1

theorem grouped_perm (key : α → κ) (items : List α) : (flatten (grouped key items)).Perm items :=
  (grouped_from key items .nil).2.1

theorem grouped_filter (key : α → κ) (items : List α) (name : κ) :
    (flatten (grouped key items)).filter (fun other => key other = name) =
      items.filter fun other => key other = name :=
  (grouped_from key items .nil).2.2 name

end Enqueue

end Devproof.RoundRobin
