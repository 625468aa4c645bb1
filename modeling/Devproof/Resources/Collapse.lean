import Devproof.ExecutionCleanup

/-!
Collapsing a resource URL twice.  A path is a list of segments; each rewrite of
`executionResourceUrl` drops some of the last ones.
-/

namespace Devproof

def joinSegments : List (List Char) → List Char
  | [] => []
  | segment :: before => joinSegments before ++ '/' :: segment

def SlashFree (segments : List (List Char)) : Prop :=
  ∀ segment ∈ segments, '/' ∉ segment

def PlainSegment (segment : List Char) : Prop :=
  segment ≠ [] ∧ segment ≠ "list".toList ∧ isPathId segment = false

/-- Read from its end, the path is an optional `list` segment, with or without a slash after it,
    an optional numeric or UUID segment, an optional empty one, and before these nothing or a
    segment that is none of them. -/
def SettledSegments (segments : List (List Char)) : Prop :=
  ∃ list id slash front, segments = list ++ id ++ slash ++ front ∧
    (list = [] ∨ list = ["list".toList] ∨ list = [[], "list".toList]) ∧
    (id = [] ∨ ∃ segment, id = [segment] ∧ isPathId segment = true) ∧
    (slash = [] ∨ slash = [[]]) ∧
    ∀ segment, front.head? = some segment → PlainSegment segment

def segmentsOf (path : List Char) : List (List Char) :=
  (path.splitOn '/').tail.reverse

def SettledPath (path : String) : Prop :=
  SettledSegments (segmentsOf path.toList)

theorem joinSegments_last {segments : List (List Char)} {segment : List Char}
    (free : SlashFree (segment :: segments)) :
    (joinSegments (segment :: segments)).rtakeWhile (· != '/') = segment ∧
      (joinSegments (segment :: segments)).rdropWhile (· != '/') =
        joinSegments segments ++ ['/'] := by
  have plain : ∀ char ∈ segment.reverse, (char != '/') = true := by
    intro char member
    simp only [bne_iff_ne, ne_eq]
    rintro rfl
    exact free segment (List.mem_cons_self ..) (List.mem_reverse.mp member)
  have shape : (joinSegments (segment :: segments)).reverse =
      segment.reverse ++ '/' :: (joinSegments segments).reverse := by
    simp [joinSegments]
  constructor
  · rw [List.rtakeWhile, shape, List.takeWhile_append_of_pos plain]
    simp
  · rw [List.rdropWhile, shape, List.dropWhile_append_of_pos plain]
    simp

theorem joinSegments_split {segments : List (List Char)} {before segment : List Char}
    (free : SlashFree segments) (bare : '/' ∉ segment)
    (same : joinSegments segments = before ++ '/' :: segment) :
    ∃ rest, segments = segment :: rest ∧ joinSegments rest = before := by
  cases segments with
  | nil => simp [joinSegments] at same
  | cons last rest =>
      have plain : ∀ char ∈ segment.reverse, (char != '/') = true := by
        intro char member
        simp only [bne_iff_ne, ne_eq]
        rintro rfl
        exact bare (List.mem_reverse.mp member)
      have shape : (before ++ '/' :: segment).reverse =
          segment.reverse ++ '/' :: before.reverse := by simp
      obtain ⟨names, rests⟩ := joinSegments_last free
      rw [same, List.rtakeWhile, shape, List.takeWhile_append_of_pos plain] at names
      rw [same, List.rdropWhile, shape, List.dropWhile_append_of_pos plain] at rests
      simp only [List.takeWhile_cons, List.reverse_append, List.reverse_reverse] at names
      simp only [List.dropWhile_cons, bne_self_eq_false, Bool.false_eq_true, if_false,
        List.reverse_cons, List.reverse_reverse] at rests
      refine ⟨rest, ?_, (List.append_inj' rests rfl).1.symm⟩
      simpa using names.symm

theorem joinSegments_append (first second : List (List Char)) :
    joinSegments (first ++ second) = joinSegments second ++ joinSegments first := by
  induction first with
  | nil => simp [joinSegments]
  | cons segment rest ih => simp [joinSegments, ih]

theorem joinSegments_reverse (segments : List (List Char)) :
    joinSegments segments.reverse = segments.flatMap ('/' :: ·) := by
  induction segments with
  | nil => rfl
  | cons segment rest ih => simp [joinSegments_append, ih, joinSegments]

theorem splitOn_slashes (text : List Char) :
    (text.splitOn '/').flatMap ('/' :: ·) = '/' :: text ∧ SlashFree (text.splitOn '/') := by
  induction text with
  | nil => simp [SlashFree]
  | cons char rest ih =>
      rw [List.splitOn_cons_eq_if_modifyHead]
      obtain ⟨joined, free⟩ := ih
      split
      · rename_i slash
        obtain rfl : char = '/' := by simpa using slash
        refine ⟨by simp [joined], ?_⟩
        intro segment member
        rcases List.mem_cons.mp member with here | later
        · simp [here]
        · exact free segment later
      · rename_i other
        have apart : '/' ≠ char := by
          rintro rfl
          exact other (beq_self_eq_true '/')
        cases split : rest.splitOn '/' with
        | nil => exact absurd split (List.splitOn_ne_nil '/' rest)
        | cons first later =>
            rw [split] at joined free
            simp only [List.flatMap_cons, List.cons_append, List.cons.injEq, true_and] at joined
            refine ⟨by simp [joined], ?_⟩
            intro segment member
            simp only [List.modifyHead_cons] at member
            rcases List.mem_cons.mp member with here | after
            · rw [here, List.mem_cons, not_or]
              exact ⟨apart, free first (List.mem_cons_self ..)⟩
            · exact free segment (List.mem_cons_of_mem _ after)

theorem joinSegments_segmentsOf {path : List Char} (rooted : path.head? = some '/') :
    joinSegments (segmentsOf path) = path ∧ SlashFree (segmentsOf path) := by
  cases path with
  | nil => cases rooted
  | cons first rest =>
      obtain rfl : first = '/' := by simpa using rooted
      obtain ⟨joined, free⟩ := splitOn_slashes rest
      have tail : segmentsOf ('/' :: rest) = (rest.splitOn '/').reverse := by
        rw [segmentsOf, List.splitOn_cons_eq_if_modifyHead]
        simp
      rw [tail, joinSegments_reverse]
      refine ⟨joined, ?_⟩
      intro segment member
      exact free segment (List.mem_reverse.mp member)

def trimList : List (List Char) → List (List Char)
  | [] => []
  | [segment] => if segment = "list".toList then [] else [segment]
  | segment :: next :: rest =>
      if segment = "list".toList then next :: rest
      else if segment = [] ∧ next = "list".toList then rest
      else segment :: next :: rest

def trimId : List (List Char) → List (List Char)
  | segment :: rest => if isPathId segment then rest else segment :: rest
  | [] => []

def trimSlash : List (List Char) → List (List Char)
  | [] :: rest => rest
  | segments => segments

def trimSegments (segments : List (List Char)) : List (List Char) :=
  trimSlash (trimId (trimList segments))

theorem dropSuffix_eq (suffix chars : List Char) :
    (∃ before, chars = before ++ suffix ∧ dropSuffix suffix chars = some before) ∨
      (¬suffix <:+ chars ∧ dropSuffix suffix chars = none) := by
  unfold dropSuffix
  by_cases ends : suffix <:+ chars
  · obtain ⟨before, whole⟩ := ends
    left
    refine ⟨before, whole.symm, ?_⟩
    rw [if_pos (List.isSuffixOf_iff_suffix.mpr ⟨before, whole⟩), ← whole]
    simp
  · right
    exact ⟨ends, if_neg fun found => ends (List.isSuffixOf_iff_suffix.mp found)⟩

theorem dropList_join {segments : List (List Char)} (free : SlashFree segments) :
    dropList (joinSegments segments) = joinSegments (trimList segments) := by
  have bare : '/' ∉ "list".toList := by decide
  have free' : ∀ {segment rest}, segments = segment :: rest → SlashFree rest := by
    rintro segment rest rfl other member
    exact free other (List.mem_cons_of_mem _ member)
  unfold dropList
  rcases dropSuffix_eq "/list/".toList (joinSegments segments) with
    ⟨before, whole, found⟩ | ⟨without, missing⟩
  · rw [found]
    have shape : joinSegments segments = (before ++ '/' :: "list".toList) ++ '/' :: [] := by
      rw [whole]
      simp
    obtain ⟨rest, rfl, joined⟩ := joinSegments_split free List.not_mem_nil shape
    obtain ⟨rest', rfl, joined'⟩ := joinSegments_split (free' rfl) bare joined
    simp [trimList, joined']
  · rcases dropSuffix_eq "/list".toList (joinSegments segments) with
      ⟨before, whole, found⟩ | ⟨without', missing'⟩
    · rw [missing, found]
      have shape : joinSegments segments = before ++ '/' :: "list".toList := by
        rw [whole]
        rfl
      obtain ⟨rest, rfl, joined⟩ := joinSegments_split free bare shape
      cases rest <;> simp [trimList, ← joined]
    · rw [missing, missing']
      match segments with
      | [] => rfl
      | [segment] =>
          have other : segment ≠ "list".toList := by
            rintro rfl
            exact without' ⟨[], rfl⟩
          rw [trimList, if_neg other]
      | segment :: next :: rest =>
          have other : segment ≠ "list".toList := by
            rintro rfl
            exact without' ⟨joinSegments (next :: rest), rfl⟩
          have other' : ¬(segment = [] ∧ next = "list".toList) := by
            rintro ⟨rfl, rfl⟩
            exact without ⟨joinSegments rest, by simp [joinSegments]⟩
          rw [trimList, if_neg other, if_neg other']

theorem isPathId_ne_nil {segment : List Char} (id : isPathId segment = true) : segment ≠ [] := by
  rintro rfl
  exact absurd id (by decide)

theorem dropPathId_join {segments : List (List Char)} (free : SlashFree segments) :
    dropPathId (joinSegments segments) = joinSegments (trimId segments) := by
  cases segments with
  | nil => rfl
  | cons segment rest =>
      obtain ⟨last, before⟩ := joinSegments_last free
      unfold dropPathId
      rw [last, before]
      simp only [List.getLast?_append, List.getLast?_singleton, Option.some_or,
        List.dropLast_append_of_ne_nil (List.cons_ne_nil _ _)]
      cases id : isPathId segment with
      | true => simp [trimId, id, isPathId_ne_nil id]
      | false => simp [trimId, id]

theorem dropSlash_join {segments : List (List Char)} (free : SlashFree segments) :
    dropSlash (joinSegments segments) = joinSegments (trimSlash segments) := by
  match segments with
  | [] => rfl
  | [] :: rest => simp [dropSlash, trimSlash, joinSegments]
  | (first :: chars) :: rest =>
      have last : (joinSegments ((first :: chars) :: rest)).getLast? ≠ some '/' := by
        rw [joinSegments, List.getLast?_append]
        simp only [List.getLast?_cons_cons]
        intro ends
        cases found : (first :: chars).getLast? with
        | none => simp at found
        | some char =>
            rw [found] at ends
            simp only [Option.some_or, Option.some.injEq] at ends
            exact free _ (List.mem_cons_self ..) (ends ▸ List.mem_of_getLast? found)
      rw [dropSlash, if_neg last, trimSlash]
      exact fun rest' same => by cases same

theorem trim_suffix (segments : List (List Char)) :
    trimList segments <:+ segments ∧ trimId segments <:+ segments ∧
      trimSlash segments <:+ segments := by
  refine ⟨?_, ?_, ?_⟩
  · unfold trimList
    split
    · exact List.suffix_refl _
    · split
      · exact List.nil_suffix
      · exact List.suffix_refl _
    · split
      · exact List.suffix_cons ..
      · split
        · exact (List.suffix_cons ..).trans (List.suffix_cons ..)
        · exact List.suffix_refl _
  · unfold trimId
    split
    · split
      · exact List.suffix_cons ..
      · exact List.suffix_refl _
    · exact List.suffix_refl _
  · unfold trimSlash
    split
    · exact List.suffix_cons ..
    · exact List.suffix_refl _

theorem SlashFree.suffix {segments rest : List (List Char)} (free : SlashFree segments)
    (ends : rest <:+ segments) : SlashFree rest :=
  fun segment member => free segment (ends.subset member)

theorem collapse_join {segments : List (List Char)} (free : SlashFree segments) :
    dropSlash (dropPathId (dropList (joinSegments segments))) =
      joinSegments (trimSegments segments) := by
  have free' := free.suffix (trim_suffix segments).1
  rw [dropList_join free, dropPathId_join free',
    dropSlash_join (free'.suffix (trim_suffix _).2.1), trimSegments]

/-- The last segment of a trimmed path, if there is one, is not dropped by another pass. -/
def Ends (segments : List (List Char)) : Prop :=
  ∀ segment, segments.head? = some segment → PlainSegment segment

theorem ends_trim {segments : List (List Char)} (plain : Ends segments) :
    trimSegments segments = segments := by
  match segments with
  | [] => rfl
  | segment :: rest =>
      obtain ⟨nonempty, other, id⟩ := plain segment rfl
      have list : trimList (segment :: rest) = segment :: rest := by
        cases rest with
        | nil => rw [trimList, if_neg other]
        | cons next rest => rw [trimList, if_neg other, if_neg fun both => nonempty both.1]
      have ids : trimId (segment :: rest) = segment :: rest := by
        rw [trimId, id]
        rfl
      rw [trimSegments, list, ids, trimSlash]
      exact fun rest' same => nonempty (List.cons.inj same).1

theorem trim_shortens {segments : List (List Char)} {segment : List Char} {rest : List (List Char)}
    (shape : segments = segment :: rest) (other : ¬PlainSegment segment) :
    (trimSegments segments).length < segments.length := by
  have list := (trim_suffix segments).1.length_le
  have ids := (trim_suffix (trimList segments)).2.1.length_le
  have slash := (trim_suffix (trimId (trimList segments))).2.2.length_le
  have whole : (trimSegments segments).length =
      (trimSlash (trimId (trimList segments))).length := rfl
  by_cases kept : trimList segments = segments
  · rw [kept] at ids slash whole
    subst shape
    by_cases id : isPathId segment = true
    · have shorter : trimId (segment :: rest) = rest := by rw [trimId, if_pos id]
      rw [shorter] at ids slash whole
      simp only [List.length_cons] at *
      omega
    · have ids' : trimId (segment :: rest) = segment :: rest := by rw [trimId, if_neg id]
      rw [ids'] at slash whole
      by_cases empty : segment = []
      · subst empty
        simp only [trimSlash, List.length_cons] at *
        omega
      · exfalso
        refine other ⟨empty, ?_, by simpa using id⟩
        rintro rfl
        cases rest with
        | nil => simp [trimList] at kept
        | cons next rest => simp [trimList] at kept
  · have shorter : (trimList segments).length ≠ segments.length := fun same =>
      kept ((trim_suffix segments).1.eq_of_length same)
    omega

/-- What each rewrite drops. -/
theorem trimList_cases (segments : List (List Char)) :
    ∃ list, segments = list ++ trimList segments ∧
      (list = [] ∨ list = ["list".toList] ∨ list = [[], "list".toList]) := by
  unfold trimList
  split
  · exact ⟨[], rfl, .inl rfl⟩
  · split
    · rename_i same
      exact ⟨["list".toList], by rw [same]; rfl, .inr (.inl rfl)⟩
    · exact ⟨[], rfl, .inl rfl⟩
  · split
    · rename_i same
      exact ⟨["list".toList], by rw [same]; rfl, .inr (.inl rfl)⟩
    · split
      · rename_i both
        exact ⟨[[], "list".toList], by rw [both.1, both.2]; rfl, .inr (.inr rfl)⟩
      · exact ⟨[], rfl, .inl rfl⟩

theorem trimId_cases (segments : List (List Char)) :
    ∃ id, segments = id ++ trimId segments ∧
      (id = [] ∨ ∃ segment, id = [segment] ∧ isPathId segment = true) := by
  unfold trimId
  split
  · split
    · rename_i segment rest id
      exact ⟨[segment], rfl, .inr ⟨segment, rfl, id⟩⟩
    · exact ⟨[], rfl, .inl rfl⟩
  · exact ⟨[], rfl, .inl rfl⟩

theorem trimSlash_cases (segments : List (List Char)) :
    ∃ slash, segments = slash ++ trimSlash segments ∧ (slash = [] ∨ slash = [[]]) := by
  unfold trimSlash
  split
  · exact ⟨[[]], rfl, .inr rfl⟩
  · exact ⟨[], rfl, .inl rfl⟩

theorem list_not_id : isPathId "list".toList = false := by decide

theorem settled_trims {list id slash front : List (List Char)}
    (lists : list = [] ∨ list = ["list".toList] ∨ list = [[], "list".toList])
    (ids : id = [] ∨ ∃ segment, id = [segment] ∧ isPathId segment = true)
    (slashes : slash = [] ∨ slash = [[]]) (plain : Ends front) :
    trimSegments (list ++ id ++ slash ++ front) = front := by
  have last : trimSlash (slash ++ front) = front := by
    rcases slashes with rfl | rfl
    · cases front with
      | nil => rfl
      | cons segment rest =>
          rw [List.nil_append, trimSlash]
          exact fun rest' same => (plain segment rfl).1 (List.cons.inj same).1
    · rfl
  have middle : trimId (id ++ slash ++ front) = slash ++ front := by
    rcases ids with rfl | ⟨segment, rfl, found⟩
    · rcases slashes with rfl | rfl
      · cases front with
        | nil => rfl
        | cons segment rest => simp [trimId, (plain segment rfl).2.2]
      · rfl
    · simp [trimId, found]
  have first : trimList (list ++ id ++ slash ++ front) = id ++ slash ++ front := by
    rcases lists with rfl | rfl | rfl
    · rcases ids with rfl | ⟨segment, rfl, found⟩
      · rcases slashes with rfl | rfl
        · cases front with
          | nil => rfl
          | cons segment rest =>
              obtain ⟨nonempty, other, -⟩ := plain segment rfl
              cases rest with
              | nil => exact if_neg other
              | cons next rest =>
                  simp only [List.nil_append, trimList]
                  rw [if_neg other, if_neg fun both => nonempty both.1]
        · cases front with
          | nil => rfl
          | cons segment rest =>
              simp only [List.nil_append, List.cons_append, trimList]
              rw [if_neg (by decide), if_neg fun both => (plain segment rfl).2.1 both.2]
      · have other : segment ≠ "list".toList := by
          rintro rfl
          rw [list_not_id] at found
          cases found
        have nonempty := isPathId_ne_nil found
        simp only [List.nil_append, List.cons_append]
        match rest : slash ++ front with
        | [] => exact if_neg other
        | next :: rest =>
            rw [trimList, if_neg other, if_neg fun both => nonempty both.1]
    · simp only [List.cons_append, List.nil_append, List.append_assoc]
      match id ++ (slash ++ front) with
      | [] => rw [trimList, if_pos rfl]
      | next :: rest => rw [trimList, if_pos rfl]
    · simp only [List.cons_append, List.nil_append, List.append_assoc, trimList]
      rw [if_neg (by decide)]
      simp
  rw [trimSegments, first, middle, last]

theorem settled_iff (segments : List (List Char)) :
    SettledSegments segments ↔ Ends (trimSegments segments) := by
  constructor
  · rintro ⟨list, id, slash, front, rfl, lists, ids, slashes, plain⟩
    rwa [settled_trims lists ids slashes plain]
  · intro plain
    obtain ⟨list, whole, lists⟩ := trimList_cases segments
    obtain ⟨id, middle, ids⟩ := trimId_cases (trimList segments)
    obtain ⟨slash, last, slashes⟩ := trimSlash_cases (trimId (trimList segments))
    refine ⟨list, id, slash, trimSegments segments, ?_, lists, ids, slashes, plain⟩
    rw [List.append_assoc, List.append_assoc, trimSegments, ← last, ← middle]
    exact whole

def Url.isWeb (url : Url) : Prop :=
  url.origin ≠ "null" ∧ url.pathname.toList.head? = some '/'

structure ReparsesWeb (host : Host) : Prop where
  empty : host.parseUrl "" = none
  reparses : ∀ text url path rest, host.parseUrl text = some url → url.isWeb →
    url.pathname.toList = path ++ rest → (rest = [] ∨ rest.head? = some '/') →
    host.parseUrl (url.origin ++ String.ofList path) =
      some { origin := url.origin
             pathname := if path = [] then "/" else String.ofList path
             searchParams := [] }

section Host

variable {host : Host}

theorem joinSegments_suffix {segments rest : List (List Char)} (ends : rest <:+ segments) :
    ∃ later, joinSegments segments = joinSegments rest ++ later ∧
      (later = [] ∨ later.head? = some '/') := by
  obtain ⟨dropped, rfl⟩ := ends
  induction dropped with
  | nil => exact ⟨[], by simp, .inl rfl⟩
  | cons segment before ih =>
      obtain ⟨later, joined, head⟩ := ih
      refine ⟨later ++ '/' :: segment, ?_, ?_⟩
      · simp [joinSegments, joined]
      · right
        rcases head with rfl | head
        · rfl
        · cases later with
          | nil => cases head
          | cons char tail => simpa using head

theorem trimSegments_suffix (segments : List (List Char)) : trimSegments segments <:+ segments :=
  ((trim_suffix _).2.2.trans (trim_suffix _).2.1).trans (trim_suffix segments).1

theorem joinSegments_length {segments rest : List (List Char)} (ends : rest <:+ segments)
    (same : joinSegments rest = joinSegments segments) : rest = segments := by
  obtain ⟨dropped, rfl⟩ := ends
  rw [joinSegments_append] at same
  cases dropped with
  | nil => rfl
  | cons segment before => simp [joinSegments] at same

/-- Collapsing a web URL twice is collapsing it once exactly when its path is settled. -/
theorem collapse_twice (law : ReparsesWeb host) {text : String} {url : Url}
    (parsed : host.parseUrl text = some url) (web : url.isWeb) :
    executionResourceUrl host (executionResourceUrl host text) = executionResourceUrl host text ↔
      SettledPath url.pathname := by
  obtain ⟨joined, free⟩ := joinSegments_segmentsOf web.2
  have collapsed : collapsePath url.pathname =
      String.ofList (joinSegments (trimSegments (segmentsOf url.pathname.toList))) := by
    rw [collapsePath]
    conv => lhs; rw [← joined]
    rw [collapse_join free]
  have once : executionResourceUrl host text = url.origin ++ collapsePath url.pathname := by
    rw [executionResourceUrl, parsed]
  obtain ⟨later, shape, boundary⟩ :=
    joinSegments_suffix (trimSegments_suffix (segmentsOf url.pathname.toList))
  rw [joined] at shape
  have again := law.reparses text url _ later parsed web shape boundary
  rw [← collapsed] at again
  have twice : executionResourceUrl host (url.origin ++ collapsePath url.pathname) =
      url.origin ++ collapsePath
        (if joinSegments (trimSegments (segmentsOf url.pathname.toList)) = [] then "/"
          else collapsePath url.pathname) := by
    rw [executionResourceUrl, again, collapsed]
  rw [once, twice, SettledPath, settled_iff]
  have cancel : ∀ first second : String,
      url.origin ++ first = url.origin ++ second ↔ first = second := by
    intro first second
    refine ⟨fun same => ?_, fun same => by rw [same]⟩
    have chars := congrArg String.toList same
    rw [String.toList_append, String.toList_append] at chars
    exact String.toList_injective (List.append_cancel_left chars)
  have kept := free.suffix (trimSegments_suffix (segmentsOf url.pathname.toList))
  rw [cancel, collapsed]
  cases settled : trimSegments (segmentsOf url.pathname.toList) with
  | nil =>
      have root : collapsePath "/" = "" := by decide
      simpa [joinSegments, Ends] using root
  | cons segment rest =>
      rw [settled] at kept
      have nonempty : joinSegments (segment :: rest) ≠ [] := by simp [joinSegments]
      rw [if_neg nonempty, collapsePath, String.toList_ofList, collapse_join kept]
      constructor
      · intro same ending first
        obtain rfl : segment = ending := by simpa using first
        by_contra other
        have unchanged := joinSegments_length (trimSegments_suffix (segment :: rest))
          (String.ofList_injective same)
        have shorter := @trim_shortens _ segment rest rfl other
        rw [unchanged] at shorter
        exact lt_irrefl _ shorter
      · intro plain
        rw [ends_trim plain]

/-- The collapsed URL of a request is the resource of the URL itself, and gives the same record
    keys, exactly when the path is settled. -/
theorem collapsed_resource_iff (law : ReparsesWeb host) (text : String)
    (web : ∀ url, host.parseUrl text = some url → url.isWeb) :
    (executionResourceUrl host (executionResourceUrl host text) = executionResourceUrl host text ∧
      ∀ id type, executionRecordKey host id type (some (executionResourceUrl host text)) =
        executionRecordKey host id type (some text)) ↔
      ∀ url, host.parseUrl text = some url → SettledPath url.pathname := by
  cases parsed : host.parseUrl text with
  | none =>
      have same : executionResourceUrl host text = text := by rw [executionResourceUrl, parsed]
      simp [same]
  | some url =>
      have settled := collapse_twice law parsed (web url parsed)
      have nonempty : text ≠ "" := by
        rintro rfl
        rw [law.empty] at parsed
        cases parsed
      constructor
      · rintro ⟨twice, -⟩ other found
        cases found
        exact settled.mp twice
      · intro all
        have twice := settled.mpr (all url rfl)
        refine ⟨twice, ?_⟩
        intro id type
        have resource : (if executionResourceUrl host text = "" then ""
            else executionResourceUrl host (executionResourceUrl host text)) =
            executionResourceUrl host text := by
          rw [twice]
          split
          · exact (‹_› : executionResourceUrl host text = "").symm
          · rfl
        simp only [executionRecordKey, if_neg nonempty, resource]

end Host

def siteParse (text : String) : Option Url :=
  match "https://x".toList.isPrefixOf text.toList, text.toList.drop 9 with
  | true, [] => some { origin := "https://x", pathname := "/", searchParams := [] }
  | true, '/' :: rest =>
      some { origin := "https://x", pathname := String.ofList ('/' :: rest), searchParams := [] }
  | _, _ => none

def siteHost : Host :=
  { Host.ofTables {} with parseUrl := siteParse }

theorem siteParse_path (path : List Char) :
    siteParse ("https://x" ++ String.ofList ('/' :: path)) =
      some { origin := "https://x", pathname := String.ofList ('/' :: path), searchParams := [] } := by
  simp [siteParse]

theorem site_reparses : ReparsesWeb siteHost := by
  refine ⟨rfl, ?_⟩
  intro text url path rest found web shape boundary
  have origin : url.origin = "https://x" := by
    have found : siteParse text = some url := found
    unfold siteParse at found
    split at found <;> cases found <;> rfl
  show siteParse (url.origin ++ String.ofList path) = _
  rw [origin]
  cases path with
  | nil => rfl
  | cons char path =>
      have rooted := web.2
      rw [shape] at rooted
      obtain rfl : char = '/' := by simpa using rooted
      rw [siteParse_path, if_neg (List.cons_ne_nil _ _)]

theorem order_resource_iff :
    (executionResourceUrl siteHost (executionResourceUrl siteHost "https://x/orders/7") =
        executionResourceUrl siteHost "https://x/orders/7" ∧
      ∀ id type, executionRecordKey siteHost id type
          (some (executionResourceUrl siteHost "https://x/orders/7")) =
        executionRecordKey siteHost id type (some "https://x/orders/7")) ↔
      ∀ url, siteHost.parseUrl "https://x/orders/7" = some url → SettledPath url.pathname :=
  collapsed_resource_iff site_reparses _ fun url found => by
    cases found
    exact ⟨by decide, by decide⟩

/-- The second numeric segment goes in the second pass only. -/
theorem nested_id_collapses_again :
    ¬∀ text, executionResourceUrl siteHost (executionResourceUrl siteHost text) =
      executionResourceUrl siteHost text := by
  intro all
  have same := all "https://x/orders/7/3"
  exact absurd same (by decide)

end Devproof
