import Devproof.Browser.ObservationPages

/-!
When the pages of an observation deliver its content, and when reading it does
not come to an end.
-/

namespace Devproof.ObservationPages

open Parsing

theorem jsonBytes_eq (text : Text) : jsonBytes text = cost text + 2 :=
  quoted_bytes text

theorem newline_cost : isHigh newline = false ∧ isLow newline = false ∧ unitCost newline = 2 := by
  decide

theorem high_not_low {unit : UInt16} (high : isHigh unit = true) : isLow unit = false := by
  simp only [isHigh, isLow, Bool.and_eq_true, decide_eq_true_eq, Bool.and_eq_false_iff,
    decide_eq_false_iff_not] at high ⊢
  refine .inl fun low => ?_
  have above := UInt16.le_trans low high.2
  exact absurd above (by decide)

/-- Where a page ends: at the end of the rest, before a last first half, or where more than the
    page's size would follow. -/
inductive Ends (rest : Text) (low : Nat) : Prop
  | whole (all : low = rest.length) (last : endsHigh rest = false)
  | lastHalf (here : low + 1 = rest.length) (last : endsHigh rest = true)
      (fits : jsonBytes rest ≤ PAGE_BYTES)
  | full {tried : Nat} (inside : tried < rest.length)
      (exceeds : PAGE_BYTES < jsonBytes (rest.take (tried + 1)))
      (near : low = tried ∨ (low + 1 = tried ∧ endsHigh (rest.take tried) = true))

theorem endsHigh_snoc {text : Text} (high : endsHigh text = true) :
    ∃ start unit, text = start ++ [unit] ∧ isHigh unit = true := by
  rcases List.eq_nil_or_concat text with rfl | ⟨start, unit, rfl⟩
  · cases high
  · exact ⟨start, unit, List.concat_eq_append, by simpa [endsHigh] using high⟩

theorem pageEnd_spec (rest : Text) :
    pageEnd rest ≤ rest.length ∧ jsonBytes (rest.take (pageEnd rest)) ≤ PAGE_BYTES ∧
      Ends rest (pageEnd rest) := by
  obtain ⟨-, upper, kept, stopped⟩ := search_spec (fits rest) 0 rest.length (Nat.zero_le _)
  have small : jsonBytes (rest.take (search (fits rest) 0 rest.length)) ≤ PAGE_BYTES := by
    rcases kept with zero | passed
    · rw [zero, List.take_zero]
      decide
    · exact of_decide_eq_true passed
  have exceeds : search (fits rest) 0 rest.length < rest.length →
      PAGE_BYTES < jsonBytes (rest.take (search (fits rest) 0 rest.length + 1)) := by
    intro short
    have failed := stopped.resolve_left (Nat.ne_of_lt short)
    exact Nat.lt_of_not_le (of_decide_eq_false failed)
  unfold pageEnd
  generalize search (fits rest) 0 rest.length = low at upper small exceeds
  simp only
  split_ifs with back
  · obtain ⟨positive, high⟩ := back
    obtain ⟨start, unit, split, first⟩ := endsHigh_snoc high
    have length : start.length = low - 1 := by
      have total := congrArg List.length split
      simp only [List.length_take, List.length_append, List.length_singleton] at total
      omega
    have before : rest.take (low - 1) = start := by
      have shorter : rest.take (low - 1) = (rest.take low).take (low - 1) := by
        rw [List.take_take, Nat.min_eq_left (Nat.sub_le _ _)]
      rw [shorter, split, ← length, List.take_left']
      rfl
    refine ⟨by omega, ?_, ?_⟩
    · rw [before]
      rw [split, jsonBytes_eq, cost_snoc start (high_not_low first)] at small
      rw [jsonBytes_eq]
      omega
    · rcases Nat.lt_or_eq_of_le upper with short | all
      · exact .full short (exceeds short) (.inr ⟨Nat.sub_add_cancel positive, high⟩)
      · rw [all, List.take_length] at high small
        exact .lastHalf (by omega) high small
  · refine ⟨upper, small, ?_⟩
    rcases Nat.lt_or_eq_of_le upper with short | all
    · exact .full short (exceeds short) (.inl rfl)
    · refine .whole all ?_
      rw [all, List.take_length] at back
      by_contra high
      have nonempty : 0 < rest.length := by
        refine List.length_pos_iff.mpr fun none => ?_
        rw [none] at high
        exact high rfl
      exact back ⟨nonempty, Bool.eq_true_of_not_eq_false high⟩

/-- A page that is not the last is long. -/
theorem pageEnd_long {rest : Text} {low tried : Nat}
    (exceeds : PAGE_BYTES < jsonBytes (rest.take (tried + 1)))
    (near : low = tried ∨ (low + 1 = tried ∧ endsHigh (rest.take tried) = true)) : 2 ≤ low := by
  have bound := cost_le (rest.take (tried + 1))
  rw [jsonBytes_eq] at exceeds
  have page : PAGE_BYTES = 12288 := rfl
  have length := List.length_take_le (tried + 1) rest
  rcases near with same | before <;> omega

theorem newline_cases (text : Text) :
    newline ∉ text ∨ ∃ line after, newline ∉ line ∧ text = line ++ newline :: after := by
  induction text with
  | nil => exact .inl List.not_mem_nil
  | cons unit rest ih =>
      by_cases here : unit = newline
      · exact .inr ⟨[], rest, List.not_mem_nil, by rw [here]; rfl⟩
      · rcases ih with plain | ⟨line, after, plain, rfl⟩
        · exact .inl fun inside => (List.mem_cons.mp inside).elim (fun same => here same.symm) plain
        · exact .inr ⟨unit :: line, after,
            fun inside => (List.mem_cons.mp inside).elim (fun same => here same.symm) plain, rfl⟩

theorem split_line {line : Text} (plain : newline ∉ line) (after : Text) :
    (line ++ newline :: after).takeWhile (· ≠ newline) = line ∧
      (line ++ newline :: after).dropWhile (· ≠ newline) = newline :: after := by
  induction line with
  | nil => simp
  | cons unit line ih =>
      have other : unit ≠ newline := fun same => plain (same ▸ List.mem_cons_self ..)
      have rest := ih fun inside => plain (List.mem_cons_of_mem _ inside)
      simpa [other] using rest

theorem plain_line {line : Text} (plain : newline ∉ line) :
    line.takeWhile (· ≠ newline) = line := by
  refine List.takeWhile_eq_self_iff.mpr fun unit inside => ?_
  simpa using fun same : unit = newline => plain (same ▸ inside)

theorem throughLastLine_spec {text : Text} (ended : newline ∈ text) :
    ∃ before after, newline ∉ after ∧ text = (before ++ [newline]) ++ after ∧
      throughLastLine text = before ++ [newline] := by
  rcases newline_cases text.reverse with plain | ⟨line, before, plain, split⟩
  · exact absurd (List.mem_reverse.mpr ended) plain
  · refine ⟨before.reverse, line.reverse, fun inside => plain (List.mem_reverse.mp inside), ?_, ?_⟩
    · have whole := congrArg List.reverse split
      rw [List.reverse_reverse, List.reverse_append, List.reverse_cons] at whole
      exact whole
    · rw [throughLastLine, split, (split_line plain before).2, List.reverse_cons]

theorem firstLine_spec (rest : Text) :
    (newline ∉ rest ∧ firstLine rest = rest) ∨
      ∃ line after, newline ∉ line ∧ rest = line ++ newline :: after ∧
        firstLine rest = line ++ [newline] := by
  rcases newline_cases rest with plain | ⟨line, after, plain, rfl⟩
  · refine .inl ⟨plain, ?_⟩
    rw [firstLine, plain_line plain, List.take_of_length_le (Nat.le_succ _)]
  · refine .inr ⟨line, after, plain, rfl, ?_⟩
    rw [firstLine, (split_line plain after).1, List.take_append,
      List.take_of_length_le (Nat.le_succ _), Nat.add_sub_cancel_left]
    rfl

/-- A line that the search does not come to the end of is too long, unless it is the last one. -/
theorem firstLine_long {rest : Text} {tried : Nat}
    (exceeds : PAGE_BYTES < jsonBytes (rest.take (tried + 1))) (plain : newline ∉ rest.take tried)
    (ended : newline ∈ rest) : PAGE_BYTES < jsonBytes (firstLine rest) := by
  rcases firstLine_spec rest with ⟨unended, -⟩ | ⟨line, after, clean, rfl, shown⟩
  · exact absurd ended unended
  · have long : tried ≤ line.length := by
      by_contra short
      refine plain ?_
      rw [List.take_append]
      refine List.mem_append_right _ ?_
      have more : tried - line.length = (tried - line.length - 1) + 1 := by omega
      rw [more, List.take_succ_cons]
      exact List.mem_cons_self ..
    rw [shown, jsonBytes_eq, cost_snoc line newline_cost.2.1, newline_cost.2.2]
    rw [jsonBytes_eq] at exceeds
    rcases Nat.lt_or_eq_of_le long with inside | same
    · have within : tried + 1 ≤ line.length := inside
      rw [List.take_append_of_le_length within] at exceeds
      have more := cost_append_le (line.take (tried + 1)) (line.drop (tried + 1))
      rw [List.take_append_drop] at more
      rcases Nat.eq_zero_or_pos (line.drop (tried + 1)).length with none | some
      · rw [List.eq_nil_of_length_eq_zero none] at more
        have all : line.take (tried + 1) = line := by
          refine List.take_of_length_le ?_
          rw [List.length_drop] at none
          omega
        rw [all] at exceeds
        omega
      · omega
    · subst same
      have taken : (line ++ newline :: after).take (line.length + 1) = line ++ [newline] := by
        rw [List.take_append, List.take_of_length_le (Nat.le_succ _), Nat.add_sub_cancel_left]
        rfl
      rw [taken, cost_snoc line newline_cost.2.1, newline_cost.2.2] at exceeds
      exact exceeds

theorem prefix_fits {line : Text} (small : jsonBytes line ≤ PAGE_BYTES) {count : Nat}
    (early : count + 3 ≤ line.length) : jsonBytes (line.take count) ≤ PAGE_BYTES := by
  have more := cost_append_le (line.take count) (line.drop count)
  rw [List.take_append_drop, List.length_drop] at more
  rw [jsonBytes_eq] at small ⊢
  omega

theorem search_line {line : Text} (small : jsonBytes line ≤ PAGE_BYTES) :
    search (fits line) 0 line.length = line.length ↔
      jsonBytes (line.take (line.length - 1)) ≤ PAGE_BYTES ∧
        (jsonBytes (line.take (line.length - 2)) ≤ PAGE_BYTES ∨
          halvesToThree line.length = true) := by
  have start : jsonBytes (line.take 0) ≤ PAGE_BYTES := by
    rw [List.take_zero]
    decide
  have last : fits line line.length = true := by
    rw [fits, List.take_length]
    exact decide_eq_true small
  by_cases first : jsonBytes (line.take (line.length - 1)) ≤ PAGE_BYTES
  · rw [and_iff_right first]
    have others : ∀ count ≤ line.length, count ≠ line.length - 2 → fits line count = true := by
      intro count inside other
      rcases Nat.lt_trichotomy count (line.length - 1) with early | same | after
      · exact decide_eq_true (prefix_fits small (by omega))
      · rw [same]
        exact decide_eq_true first
      · have all : count = line.length := by omega
        rw [all, last]
    by_cases second : jsonBytes (line.take (line.length - 2)) ≤ PAGE_BYTES
    · refine iff_of_true (search_all (Nat.zero_le _) fun count _ inside => ?_) (.inl second)
      by_cases here : count = line.length - 2
      · rw [here]
        exact decide_eq_true second
      · exact others count inside here
    · rw [or_iff_right second]
      have long : 0 + 2 < line.length := by
        by_contra short
        have zero : line.length - 2 = 0 := by omega
        rw [zero] at second
        exact second start
      exact search_gap long (decide_eq_false second) fun count _ inside other =>
        others count inside other
  · refine iff_of_false (search_last ?_ (decide_eq_false first)) fun both => first both.1
    by_contra short
    have zero : line.length - 1 = 0 := by omega
    rw [zero] at first
    exact first start

/-- A last line that fits is delivered in one page exactly when the search can come to its end. -/
theorem pageEnd_line {line : Text} (small : jsonBytes line ≤ PAGE_BYTES) (solid : line ≠ []) :
    pageEnd line = line.length ↔ Reachable line := by
  have positive := List.length_pos_iff.mpr solid
  unfold pageEnd Reachable
  rw [← search_line small]
  have upper := (search_spec (fits line) 0 line.length (Nat.zero_le _)).2.1
  simp only
  constructor
  · intro whole
    split_ifs at whole with back
    · omega
    · refine ⟨?_, whole⟩
      rw [whole, List.take_length] at back
      by_contra high
      exact back ⟨positive, Bool.eq_true_of_not_eq_false high⟩
  · rintro ⟨last, whole⟩
    rw [whole, List.take_length, if_neg (by rw [last]; simp)]

theorem notice_small : jsonBytes notice ≤ PAGE_BYTES := by
  rw [jsonBytes_eq]
  have bound := cost_le notice
  have length : notice.length ≤ 100 := by decide
  have page : PAGE_BYTES = 12288 := rfl
  omega

structure CutWell (rest : Text) (shown : Cut) : Prop where
  inside : shown.consumed ≤ rest.length
  small : jsonBytes shown.content ≤ PAGE_BYTES
  kept : shown.omittedLine = false → shown.content = rest.take shown.consumed
  positive : shown.consumed < rest.length → 0 < shown.consumed

theorem cut_plain (rest : Text) (readable : endsHigh rest = false) :
    CutWell rest (cut false rest) := by
  obtain ⟨inside, small, ends⟩ := pageEnd_spec rest
  unfold cut
  rw [if_neg (by simp)]
  refine ⟨inside, small, fun _ => rfl, fun short => ?_⟩
  cases ends with
  | whole all last => exact absurd all (Nat.ne_of_lt short)
  | lastHalf here last fits =>
      rw [readable] at last
      cases last
  | full inside exceeds near =>
      have long := pageEnd_long exceeds near
      exact Nat.lt_of_lt_of_le Nat.zero_lt_two long

/-- A snapshot's page: lines that fit, or one line left out. -/
structure LinesCut (rest : Text) (shown : Cut) : Prop extends CutWell rest shown where
  ended : shown.consumed = rest.length ∨
    ∃ before, rest.take shown.consumed = before ++ [newline]
  omitted : shown.omittedLine = true → rest.take shown.consumed = firstLine rest ∧
    (newline ∈ rest → PAGE_BYTES < jsonBytes (firstLine rest))
  whole : newline ∉ rest → shown.omittedLine = decide (pageEnd rest < rest.length)
  all : shown.omittedLine = false → shown.consumed = rest.length → pageEnd rest = rest.length

theorem newline_before {start text : Text} {unit : UInt16} (split : text = start ++ [unit])
    (high : isHigh unit = true) (ended : newline ∈ text) : newline ∈ start := by
  rw [split] at ended
  rcases List.mem_append.mp ended with early | late
  · exact early
  · have same := newline_cost.1
    rw [List.mem_singleton.mp late, high] at same
    cases same

theorem cut_lines (rest : Text) : LinesCut rest (cut true rest) := by
  obtain ⟨inside, small, ends⟩ := pageEnd_spec rest
  unfold cut
  simp only [true_and]
  by_cases short : pageEnd rest < rest.length
  · rw [if_pos short]
    by_cases ended : newline ∈ rest.take (pageEnd rest)
    · rw [if_pos ended]
      obtain ⟨before, after, -, split, shown⟩ := throughLastLine_spec ended
      have length : (before ++ [newline]).length ≤ pageEnd rest := by
        have total := congrArg List.length split
        rw [List.length_take, @List.length_append _ _ after] at total
        omega
      have taken : rest.take (before ++ [newline]).length = before ++ [newline] := by
        have shorter : rest.take (before ++ [newline]).length =
            (rest.take (pageEnd rest)).take (before ++ [newline]).length := by
          rw [List.take_take, Nat.min_eq_left length]
        rw [shorter, split, List.take_left]
      have fits : jsonBytes (before ++ [newline]) ≤ PAGE_BYTES := by
        rw [split, jsonBytes_eq, List.append_assoc, List.singleton_append,
          cost_split before newline_cost.1] at small
        rw [jsonBytes_eq]
        omega
      rw [shown]
      exact ⟨⟨length.trans inside, fits, fun _ => taken.symm, fun _ => by simp⟩,
        .inr ⟨before, taken⟩, nofun, fun plain => absurd (List.mem_of_mem_take ended) plain,
        fun _ all => absurd (all ▸ length) (Nat.not_le.mpr short)⟩
    · rw [if_neg ended]
      have shown : rest.take (firstLine rest).length = firstLine rest := by
        rw [firstLine, List.length_take, ← List.take_eq_take_min]
      have line : (firstLine rest).length ≤ rest.length := by
        rw [firstLine, List.length_take]
        exact Nat.min_le_right _ _
      have positive : 0 < (firstLine rest).length := by
        rw [firstLine, List.length_take]
        omega
      have long : newline ∈ rest → PAGE_BYTES < jsonBytes (firstLine rest) := by
        intro within
        cases ends with
        | whole all last => exact absurd all (Nat.ne_of_lt short)
        | lastHalf here last fits =>
            obtain ⟨start, unit, split, high⟩ := endsHigh_snoc last
            have start_eq : rest.take (pageEnd rest) = start := by
              have length : pageEnd rest = start.length := by
                have total := congrArg List.length split
                rw [List.length_append, List.length_singleton] at total
                omega
              rw [length, split, List.take_left]
            exact absurd (start_eq ▸ newline_before split high within) ended
        | @full tried tried_inside exceeds near =>
            refine firstLine_long exceeds (fun early => ?_) within
            rcases near with same | ⟨next, last⟩
            · exact ended (same ▸ early)
            · obtain ⟨start, unit, split, high⟩ := endsHigh_snoc last
              have start_eq : rest.take (pageEnd rest) = start := by
                have length : pageEnd rest = start.length := by
                  have total := congrArg List.length split
                  rw [List.length_take, List.length_append, List.length_singleton] at total
                  omega
                have shorter : rest.take start.length = (rest.take tried).take start.length := by
                  rw [List.take_take, Nat.min_eq_left (by omega)]
                rw [length, shorter, split, List.take_left]
              exact ended (start_eq ▸ newline_before split high early)
      refine ⟨⟨line, notice_small, nofun, fun _ => positive⟩, ?_, fun _ => ⟨shown, long⟩,
        fun _ => by simp [short], nofun⟩
      rcases firstLine_spec rest with ⟨plain, whole⟩ | ⟨before, after, plain, split, whole⟩
      · exact .inl (by rw [whole])
      · exact .inr ⟨before, by rw [shown, whole]⟩
  · rw [if_neg short]
    have all : pageEnd rest = rest.length := Nat.le_antisymm inside (Nat.le_of_not_lt short)
    exact ⟨⟨inside, small, fun _ => rfl, fun later => absurd later short⟩, .inl all, nofun,
      fun _ => by simp [short], fun _ _ => all⟩

section Reading

variable {snapshot : Bool} {content : Text}

theorem page_next {cursor next : Nat}
    (shown : (page snapshot content cursor).nextCursor = some next) :
    next = cursor + (cut snapshot (content.drop cursor)).consumed ∧ next < content.length := by
  unfold page at shown
  simp only at shown
  split_ifs at shown with more
  obtain rfl := Option.some.inj shown
  exact ⟨rfl, more⟩

theorem page_last {cursor : Nat} (shown : (page snapshot content cursor).nextCursor = none) :
    content.length ≤ cursor + (cut snapshot (content.drop cursor)).consumed := by
  unfold page at shown
  simp only at shown
  split_ifs at shown with more
  exact Nat.le_of_not_lt more

theorem reached_inside {cursor : Nat} (reached : Reached snapshot content cursor) :
    cursor = 0 ∨ cursor < content.length := by
  cases reached with
  | start => exact .inl rfl
  | next here shown => exact .inr (page_next shown).2

theorem page_range {cursor : Nat} (inside : cursor ≤ content.length)
    (cutInside : (cut snapshot (content.drop cursor)).consumed ≤ (content.drop cursor).length) :
    range snapshot content cursor =
      (content.drop cursor).take (cut snapshot (content.drop cursor)).consumed := by
  unfold range
  rw [List.length_drop] at cutInside
  cases shown : (page snapshot content cursor).nextCursor with
  | some next =>
      obtain ⟨equal, -⟩ := page_next shown
      rw [Option.getD_some, equal, Nat.add_sub_cancel_left]
  | none =>
      have last := page_last shown
      have all : content.length - cursor = (cut snapshot (content.drop cursor)).consumed := by omega
      rw [Option.getD_none, all]

theorem page_progress {cursor next : Nat} (cutWell : CutWell (content.drop cursor)
    (cut snapshot (content.drop cursor)))
    (shown : (page snapshot content cursor).nextCursor = some next) : cursor < next := by
  obtain ⟨equal, inside⟩ := page_next shown
  have positive := cutWell.positive
  rw [List.length_drop] at positive
  omega

theorem pages_exist (progress : ∀ cursor, Reached snapshot content cursor →
    ∀ next, (page snapshot content cursor).nextCursor = some next → cursor < next)
    {cursor : Nat} (reached : Reached snapshot content cursor) :
    ∃ pages, PagesFrom snapshot content cursor pages := by
  induction left : content.length - cursor using Nat.strongRecOn generalizing cursor with
  | ind left' ih =>
      cases shown : (page snapshot content cursor).nextCursor with
      | none => exact ⟨_, .last shown⟩
      | some next =>
          have later := progress cursor reached next shown
          have inside := (page_next shown).2
          obtain ⟨pages, rest⟩ := ih (content.length - next) (by omega) (reached.next shown) rfl
          exact ⟨_, .more shown rest⟩

theorem pages_last {cursor : Nat} {pages : List Page}
    (shown : PagesFrom snapshot content cursor pages) (reached : Reached snapshot content cursor) :
    ∃ last, Reached snapshot content last ∧ (page snapshot content last).nextCursor = none := by
  induction shown with
  | last shown => exact ⟨_, reached, shown⟩
  | more shown later ih => exact ih (reached.next shown)

/-- The pages of a text put together. -/
theorem pages_text (kept : ∀ cursor, Reached snapshot content cursor →
    CutWell (content.drop cursor) (cut snapshot (content.drop cursor)) ∧
      (cut snapshot (content.drop cursor)).omittedLine = false)
    {cursor : Nat} {pages : List Page} (shown : PagesFrom snapshot content cursor pages)
    (reached : Reached snapshot content cursor) :
    pages.flatMap Page.content = content.drop cursor := by
  induction shown with
  | @last cursor shown =>
      obtain ⟨well, plain⟩ := kept cursor reached
      have all := page_last shown
      rw [List.flatMap_cons, List.flatMap_nil, List.append_nil]
      change (cut snapshot (content.drop cursor)).content = _
      rw [well.kept plain]
      refine List.take_of_length_le ?_
      rw [List.length_drop]
      omega
  | @more cursor next pages shown later ih =>
      obtain ⟨well, plain⟩ := kept cursor reached
      rw [List.flatMap_cons, ih (reached.next shown)]
      change (cut snapshot (content.drop cursor)).content ++ _ = _
      rw [well.kept plain, (page_next shown).1, ← List.drop_drop, List.take_append_drop]

structure Own (snapshot : Bool) (content : Text) (entry : Entry) : Prop where
  cursors : ∀ cursor ∈ entry.cursors, Reached snapshot content cursor
  pages : ∀ known ∈ entry.readPages, known.2 = none ∨
    (Reached snapshot content known.1 ∧ known.2 = (page snapshot content known.1).nextCursor)

theorem Own.view {entry : Entry} (own : Own snapshot content entry) {cursor : Nat}
    (reached : Reached snapshot content cursor) :
    Own snapshot content (entry.view snapshot content cursor) := by
  refine ⟨fun known member => ?_, own.pages⟩
  rcases List.mem_append.mp member with new | old
  · exact reached.next (Option.mem_toList.mp new)
  · exact own.cursors known old

theorem Own.mark {entry : Entry} (own : Own snapshot content entry) {cursor : Nat}
    {next : Option Nat} (shown : next = none ∨ (Reached snapshot content cursor ∧
      next = (page snapshot content cursor).nextCursor)) :
    Own snapshot content (entry.mark cursor next) := by
  refine ⟨own.cursors, fun known member => ?_⟩
  rcases List.mem_cons.mp member with rfl | old
  · exact shown
  · exact own.pages known (List.mem_filter.mp old).1

theorem Own.deliverPage {entry : Entry} (own : Own snapshot content entry) (given : Page) :
    Own snapshot content (entry.deliverPage snapshot content given) := by
  unfold Entry.deliverPage
  split_ifs with known complete other
  · have marked := own.mark (.inl rfl : (none : Option Nat) = none ∨ (Reached snapshot content 0 ∧
      none = (page snapshot content 0).nextCursor))
    exact ⟨marked.cursors, marked.pages⟩
  · exact own.view (own.cursors _ known)
  · have reached := own.cursors _ known
    have same := not_not.mp (not_or.mp other).2
    have marked := (own.view reached).mark (.inr ⟨reached, same.symm⟩)
    exact ⟨marked.cursors, marked.pages⟩
  · exact own

theorem Own.step {entry after : Entry} (own : Own snapshot content entry)
    (step : Step snapshot content entry after) : Own snapshot content after := by
  cases step with
  | read cursor =>
      unfold Entry.read
      split_ifs with known
      · exact (own.view (own.cursors _ known)).deliverPage _
      · exact own
  | deliver given => exact own.deliverPage given
  | view reached => exact own.view reached
  | inherit reached => exact own.mark (.inr ⟨reached, rfl⟩)
  | inheritComplete =>
      have marked := own.mark (.inl rfl : (none : Option Nat) = none ∨ (Reached snapshot content 0 ∧
        none = (page snapshot content 0).nextCursor))
      exact ⟨marked.cursors, marked.pages⟩

theorem Own.run {entry : Entry}
    (run : Relation.ReflTransGen (Step snapshot content) {} entry) : Own snapshot content entry := by
  induction run with
  | refl =>
      refine ⟨fun cursor member => ?_, by simp⟩
      rw [List.mem_singleton.mp member]
      exact .start
  | tail _ step ih => exact ih.step step

theorem unread_ends {entry : Entry} (own : Own snapshot content entry)
    (progress : ∀ cursor, Reached snapshot content cursor →
      ∀ next, (page snapshot content cursor).nextCursor = some next → cursor < next)
    (cursor : Nat) : ∃ result, UnreadFrom entry.readPages cursor result := by
  induction left : content.length - cursor using Nat.strongRecOn generalizing cursor with
  | ind left' ih =>
      cases read : entry.readPages.lookup cursor with
      | none => exact ⟨_, .unread read⟩
      | some link =>
          cases link with
          | none => exact ⟨_, .all read⟩
          | some next =>
              obtain ⟨before, after, split, -⟩ := List.lookup_eq_some_iff.mp read
              have inside : (cursor, some next) ∈ entry.readPages := by rw [split]; simp
              rcases own.pages _ inside with none | ⟨reached, shown⟩
              · cases none
              · have later := progress cursor reached next shown.symm
                have bound := (page_next shown.symm).2
                obtain ⟨result, rest⟩ := ih (content.length - next) (by omega) next rfl
                exact ⟨result, .next read rest⟩

theorem lastLine_plain {text : Text} (plain : newline ∉ text) : lastLine text = text := by
  rw [lastLine, plain_line fun inside => plain (List.mem_reverse.mp inside), List.reverse_reverse]

theorem lastLine_after {before line : Text} (plain : newline ∉ line) :
    lastLine (before ++ newline :: line) = line := by
  have turned : (before ++ newline :: line).reverse = line.reverse ++ newline :: before.reverse := by
    simp
  rw [lastLine, turned, (split_line (fun inside => plain (List.mem_reverse.mp inside)) _).1,
    List.reverse_reverse]

theorem lastLine_rest {cursor : Nat} (starts : LineStart content cursor)
    (plain : newline ∉ content.drop cursor) : lastLine content = content.drop cursor := by
  rcases starts with rfl | ended
  · rw [List.drop_zero] at plain ⊢
    exact lastLine_plain plain
  · obtain ⟨inside, unit⟩ := List.getElem?_eq_some_iff.mp ended
    by_cases zero : cursor = 0
    · rw [zero, List.drop_zero] at plain ⊢
      exact lastLine_plain plain
    · have split : content = content.take (cursor - 1) ++ newline :: content.drop cursor := by
        conv_lhs => rw [← List.take_append_drop (cursor - 1) content]
        rw [List.drop_eq_getElem_cons inside, unit, Nat.sub_add_cancel (by omega)]
      conv_lhs => rw [split]
      exact lastLine_after plain

theorem cut_starts {cursor next : Nat} (inside : cursor ≤ content.length)
    (lines : LinesCut (content.drop cursor) (cut true (content.drop cursor)))
    (shown : (page true content cursor).nextCursor = some next) : LineStart content next := by
  obtain ⟨equal, less⟩ := page_next shown
  rcases lines.ended with all | ⟨before, taken⟩
  · rw [List.length_drop] at all
    omega
  · refine .inr ?_
    have length := congrArg List.length taken
    have within := lines.inside
    rw [List.length_take, List.length_append, List.length_singleton] at length
    have unit : (content.drop cursor)[before.length]? = some newline := by
      have inner : ((content.drop cursor).take
          (cut true (content.drop cursor)).consumed)[before.length]? = some newline := by
        rw [taken, List.getElem?_append_right (Nat.le_refl _), Nat.sub_self]
        rfl
      rw [List.getElem?_take] at inner
      split_ifs at inner
      exact inner
    rw [List.getElem?_drop] at unit
    have place : next - 1 = cursor + before.length := by omega
    rw [place]
    exact unit

theorem reached_starts {cursor : Nat} (reached : Reached true content cursor) :
    LineStart content cursor := by
  cases reached with
  | start => exact .inl rfl
  | next here shown =>
      refine cut_starts ?_ (cut_lines _) shown
      rcases reached_inside here with zero | inside <;> omega

theorem reached_le {cursor : Nat} (reached : Reached snapshot content cursor) :
    cursor ≤ content.length := by
  rcases reached_inside reached with zero | inside <;> omega

theorem omitted_last {cursor : Nat} (readable : Readable true content)
    (reached : Reached true content cursor) (plain : newline ∉ content.drop cursor)
    (omitted : (cut true (content.drop cursor)).omittedLine = true) :
    PAGE_BYTES < jsonBytes (content.drop cursor) := by
  have line := lastLine_rest (reached_starts reached) plain
  have whole := (cut_lines (content.drop cursor)).whole plain
  rw [omitted] at whole
  have short : pageEnd (content.drop cursor) < (content.drop cursor).length :=
    of_decide_eq_true whole.symm
  rw [Readable, if_pos rfl, line] at readable
  rcases readable with empty | long | reachable
  · rw [empty] at short
    exact absurd short (Nat.not_lt_zero _)
  · exact long
  · by_contra small
    have solid : content.drop cursor ≠ [] := by
      intro empty
      rw [empty] at short
      exact Nat.not_lt_zero _ short
    exact Nat.ne_of_lt short ((pageEnd_line (Nat.le_of_not_lt small) solid).mpr reachable)

theorem wholeLines {cursor : Nat} (readable : Readable true content)
    (reached : Reached true content cursor) : WholeLines true content cursor := by
  have lines := cut_lines (content.drop cursor)
  have shown := @page_range true _ _ (reached_le reached) lines.inside
  refine ⟨reached_starts reached, fun next => cut_starts (reached_le reached) lines,
    fun plain => shown ▸ lines.kept plain, fun omitted => ?_⟩
  obtain ⟨taken, long⟩ := lines.omitted omitted
  rw [shown, taken]
  rcases firstLine_spec (content.drop cursor) with ⟨plain, whole⟩ | ⟨line, after, plain, split, whole⟩
  · rw [whole]
    exact ⟨fun inside => plain (List.dropLast_subset _ inside),
      omitted_last readable reached plain omitted⟩
  · refine ⟨?_, long (by rw [split]; simp)⟩
    rw [whole, List.dropLast_concat]
    exact plain

theorem endsHigh_append {before after : Text} (solid : after ≠ []) :
    endsHigh (before ++ after) = endsHigh after := by
  rw [endsHigh, endsHigh, List.getLast?_append_of_ne_nil _ solid]

theorem endsHigh_drop {cursor : Nat} (inside : cursor < content.length) :
    endsHigh (content.drop cursor) = endsHigh content := by
  have solid : content.drop cursor ≠ [] := by
    rw [ne_eq, List.drop_eq_nil_iff]
    exact Nat.not_le.mpr inside
  conv_rhs => rw [← List.take_append_drop cursor content]
  exact (endsHigh_append solid).symm

theorem cutWell_reached {cursor : Nat} (readable : Readable snapshot content)
    (reached : Reached snapshot content cursor) :
    CutWell (content.drop cursor) (cut snapshot (content.drop cursor)) := by
  cases snapshot with
  | true => exact (cut_lines _).toCutWell
  | false =>
      refine cut_plain _ ?_
      rw [Readable, if_neg Bool.false_ne_true] at readable
      rcases reached_inside reached with rfl | inside
      · exact readable
      · rw [endsHigh_drop inside]
        exact readable

/-- Readable contents are delivered. -/
theorem readable_delivers (readable : Readable snapshot content) : Delivers snapshot content := by
  have progress : ∀ cursor, Reached snapshot content cursor →
      ∀ next, (page snapshot content cursor).nextCursor = some next → cursor < next :=
    fun cursor reached next => page_progress (cutWell_reached readable reached)
  refine ⟨progress, fun cursor reached => (cutWell_reached readable reached).small, ?_,
    ?_, fun entry run => unread_ends (Own.run run) progress 0⟩
  · obtain ⟨pages, shown⟩ := pages_exist progress .start
    refine ⟨pages, shown, fun text => ?_⟩
    subst text
    exact pages_text (fun cursor reached => ⟨cutWell_reached readable reached, rfl⟩) shown .start
  · rintro rfl cursor reached
    exact wholeLines readable reached

/-- The page after which nothing is left to read. -/
theorem Delivers.last (delivers : Delivers snapshot content) :
    ∃ cursor, Reached snapshot content cursor ∧
      (page snapshot content cursor).nextCursor = none := by
  obtain ⟨pages, shown, -⟩ := delivers.reading
  exact pages_last shown .start

theorem delivers_text (delivers : Delivers false content) : endsHigh content = false := by
  by_contra high
  have last := Bool.eq_true_of_not_eq_false high
  obtain ⟨cursor, reached, done⟩ := delivers.last
  have solid : 0 < content.length := by
    refine List.length_pos_iff.mpr fun empty => ?_
    rw [empty] at last
    cases last
  have inside : cursor < content.length := by
    rcases reached_inside reached with zero | inside <;> omega
  have all := page_last done
  change content.length ≤ cursor + pageEnd (content.drop cursor) at all
  have restHigh := (endsHigh_drop inside).trans last
  have length : (content.drop cursor).length = content.length - cursor := List.length_drop
  cases (pageEnd_spec (content.drop cursor)).2.2 with
  | whole all low =>
      rw [restHigh] at low
      cases low
  | lastHalf here last fits => omega
  | full tried_inside exceeds near => rcases near with same | ⟨next, last⟩ <;> omega

theorem unreachable_long {before line : Text}
    (small : jsonBytes (before ++ newline :: line) ≤ PAGE_BYTES) (last : endsHigh line = false) :
    Reachable line := by
  have shorter : ∀ count, jsonBytes (line.take count) ≤ PAGE_BYTES := by
    intro count
    have more := cost_append_le (line.take count) (line.drop count)
    rw [List.take_append_drop] at more
    rw [jsonBytes_eq, cost_split before newline_cost.1, cost_snoc before newline_cost.2.1,
      newline_cost.2.2] at small
    rw [jsonBytes_eq]
    rcases Nat.eq_zero_or_pos (line.drop count).length with none | some
    · have whole : line.take count = line := by
        refine List.take_of_length_le ?_
        rw [List.length_drop] at none
        omega
      rw [whole]
      omega
    · omega
  exact ⟨last, shorter _, .inl (shorter _)⟩

theorem delivers_lines (delivers : Delivers true content) : Readable true content := by
  rw [Readable, if_pos rfl]
  by_contra none
  simp only [not_or, Nat.not_lt] at none
  obtain ⟨solid, small, unreachable⟩ := none
  obtain ⟨cursor, reached, done⟩ := delivers.last
  have lines := cut_lines (content.drop cursor)
  have shown := @page_range true _ _ (reached_le reached) lines.inside
  have consumed : (cut true (content.drop cursor)).consumed = (content.drop cursor).length := by
    have last := page_last done
    have inside := lines.inside
    rw [List.length_drop] at inside ⊢
    omega
  rw [consumed, List.take_length] at shown
  by_cases ended : newline ∈ content.drop cursor
  · obtain ⟨before, after, plain, split, -⟩ := throughLastLine_spec ended
    rw [List.append_assoc, List.singleton_append] at split
    have line : lastLine content = after := by
      conv_lhs => rw [← List.take_append_drop cursor content, split, ← List.append_assoc]
      exact lastLine_after plain
    rw [line] at solid small unreachable
    cases omitted : (cut true (content.drop cursor)).omittedLine with
    | true =>
        obtain ⟨taken, -⟩ := lines.omitted omitted
        rw [consumed, List.take_length] at taken
        rcases firstLine_spec (content.drop cursor) with ⟨unended, -⟩ | ⟨first, -, -, -, whole⟩
        · exact unended ended
        · rw [whole] at taken
          have twice := congrArg lastLine (split.symm.trans taken)
          rw [lastLine_after plain, lastLine_after List.not_mem_nil] at twice
          exact solid twice
    | false =>
        have all := lines.all omitted consumed
        have fits := lines.small
        rw [lines.kept omitted, consumed, List.take_length, split] at fits
        refine unreachable (unreachable_long fits ?_)
        cases (pageEnd_spec (content.drop cursor)).2.2 with
        | whole same last =>
            rw [split] at last
            have suffix := @endsHigh_append (before ++ [newline]) after solid
            rw [List.append_assoc, List.singleton_append] at suffix
            exact suffix.symm.trans last
        | lastHalf here last fits => omega
        | full tried_inside exceeds near => rcases near with same | ⟨next, last⟩ <;> omega
  · have line := lastLine_rest (reached_starts reached) ended
    rw [line] at solid small unreachable
    have short : pageEnd (content.drop cursor) < (content.drop cursor).length :=
      Nat.lt_of_le_of_ne (pageEnd_spec _).1 fun all => unreachable ((pageEnd_line small solid).mp all)
    have omitted : (page true content cursor).omittedLine = true :=
      (lines.whole ended).trans (decide_eq_true short)
    have long := ((delivers.lines rfl cursor reached).omitted omitted).2
    rw [shown] at long
    exact absurd small (Nat.not_le.mpr long)

/-- The pages deliver the content exactly when it is readable. -/
theorem delivers_iff (snapshot : Bool) (content : Text) :
    Delivers snapshot content ↔ Readable snapshot content := by
  refine ⟨fun delivers => ?_, readable_delivers⟩
  cases snapshot with
  | true => exact delivers_lines delivers
  | false => rw [Readable, if_neg Bool.false_ne_true]; exact delivers_text delivers

/-- A text that is the first half of a surrogate pair is read for ever. -/
theorem half_undelivered : ¬Delivers false [0xD83D] := by
  intro delivers
  exact absurd (delivers_text delivers) (by decide)

end Reading

end Devproof.ObservationPages
