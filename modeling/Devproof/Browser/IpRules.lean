import Devproof.Lib.Schema

/-!
The screening of a host before a connection is made to it (`ip-rules.ts`).
-/

namespace Devproof.IpRules

open Parsing

def text (name : String) : Text :=
  name.toList.map code

inductive Address where
  | ipv4 (bits : BitVec 32)
  | ipv6 (bits : BitVec 128)
  deriving DecidableEq

/-- What the code takes from the language, `node:net` and `ipaddr.js`. -/
structure Platform where
  toLowerCase : Text → Text
  /-- `isIP`: 4, 6, or 0 for anything else. -/
  isIP : Text → Nat
  /-- `ipaddr.parse`; `none` where `ipaddr.isValid` is false. -/
  parse : Text → Option Address
  isIPv4MappedAddress : BitVec 128 → Bool
  toIPv4Address : BitVec 128 → BitVec 32
  range : Address → String

section Rules

variable (platform : Platform)

def bracketed (host : Text) : Bool :=
  host.head? == some (code '[') && host.getLast? == some (code ']')

def withoutDot (host : Text) : Text :=
  if host.getLast? = some (code '.') then host.dropLast else host

def normalizedHost (host : Text) : Text :=
  let stripped := if bracketed host then host.tail.dropLast else host
  withoutDot (platform.toLowerCase stripped)

def isNameUnit (unit : UInt16) : Bool :=
  (code 'a' ≤ unit && unit ≤ code 'z') || Parsing.isDigit unit

/-- `/^[a-z0-9](?:[a-z0-9-]*[a-z0-9])?$/u`. -/
def isLabel : Text → Bool
  | [] => false
  | first :: rest =>
      isNameUnit first &&
        (rest.isEmpty ||
          (rest.all fun unit => isNameUnit unit || unit == code '-') &&
            rest.getLast?.any isNameUnit)

def isValidHostname (hostname : Text) : Bool :=
  if hostname.length = 0 ∨ hostname.length > 253 then false
  else
    let labels := hostname.splitOn (code '.')
    decide (labels.length ≥ 2) &&
      labels.all fun label =>
        decide (label.length ≥ 1) && decide (label.length ≤ 63) && isLabel label

def wild : Text :=
  text "*."

def refused (entry : Text) : Bool :=
  if platform.isIP entry ≠ 0 then false
  else
    let hostname := if wild <+: entry then entry.drop 2 else entry
    entry.contains (code '/') || entry.contains (code ':') ||
      (entry.contains (code '*') && !decide (wild <+: entry)) || !isValidHostname hostname

def parseHostAllowlist (value : Option Text) : Except Text (List Text) :=
  let entries := (((value.getD []).splitOn (code ',')).map fun item =>
    normalizedHost platform (Schemas.trimWhite item)).filter fun entry => !entry.isEmpty
  match entries.find? (refused platform) with
  | some entry =>
      .error (text ("Runtime network allowlist only accepts exact hostnames, IP addresses, " ++
        "or wildcard subdomains such as *.corp.example: ") ++ entry)
  | none => .ok entries.eraseDups

inductive MatchKind where
  | exact
  | wildcard
  deriving Repr, DecidableEq

structure AllowlistMatch where
  entry : Text
  kind : MatchKind

def allowlistMatch (hostname : Text) (allowlist : List Text) : Option AllowlistMatch :=
  if hostname ∈ allowlist then some { entry := hostname, kind := .exact }
  else if platform.isIP hostname ≠ 0 then none
  else
    (allowlist.find? fun entry =>
      decide (wild <+: entry) && decide (entry.drop 1 <:+ hostname) &&
        decide (hostname.length > (entry.drop 1).length)).map fun entry =>
      { entry, kind := .wildcard }

/-! Addresses and names that are not connected to. -/

def unmapped : Address → Address
  | .ipv6 bits =>
      if platform.isIPv4MappedAddress bits then .ipv4 (platform.toIPv4Address bits) else .ipv6 bits
  | address => address

def isBlockedIp (ip : Text) : Bool :=
  match platform.parse ip with
  | none => true
  | some parsed => platform.range (unmapped platform parsed) != "unicast"

def isWildcardSafeIp (ip : Text) : Bool :=
  match platform.parse ip with
  | none => false
  | some parsed => ["private", "unicast"].contains (platform.range (unmapped platform parsed))

def blockedHostNames : List Text :=
  [text "localhost"]

def blockedHostSuffixes : List Text :=
  [text ".localhost", text ".internal"]

def isBlockedHostname (host : Text) : Bool :=
  let name := normalizedHost platform host
  blockedHostNames.contains name || blockedHostSuffixes.any fun suffix => decide (suffix <:+ name)

def resolveSafeAddress (lookup : Text → Option (List Text)) (host : Text) (allowlist : List Text) :
    Option Text :=
  let name := normalizedHost platform host
  let kind := (allowlistMatch platform name allowlist).map (·.kind)
  let explicitlyAllowed := kind == some .exact
  let wildcardAllowed := kind == some .wildcard
  if !explicitlyAllowed && isBlockedHostname platform name then none
  else if platform.isIP name ≠ 0 then
    if explicitlyAllowed || !isBlockedIp platform name then some name else none
  else
    match lookup name with
    | none => none
    | some results =>
        if results.length = 0 then none
        else if !explicitlyAllowed && results.any fun address =>
            if wildcardAllowed then !isWildcardSafeIp platform address
            else isBlockedIp platform address then none
        else results.head?

def asciiLower (unit : UInt16) : UInt16 :=
  if code 'A' ≤ unit ∧ unit ≤ code 'Z' then unit + 32 else unit

def isLiteralUnit (unit : UInt16) : Bool :=
  Parsing.isDigit unit || (code 'a' ≤ unit && unit ≤ code 'f') ||
    (code 'A' ≤ unit && unit ≤ code 'F') || unit == code ':'

def SameLetters (first second : Text) : Prop :=
  first.map asciiLower = second.map asciiLower

structure Lowers (toLowerCase : Text → Text) : Prop where
  again : ∀ host, toLowerCase (toLowerCase host) = toLowerCase host
  letters : ∀ first second, SameLetters first second → toLowerCase first = toLowerCase second
  dot : ∀ host, toLowerCase (host ++ [code '.']) = toLowerCase host ++ [code '.']
  dotted : ∀ host, (toLowerCase host).getLast? = some (code '.') → host.getLast? = some (code '.')
  brackets : ∀ host, toLowerCase (code '[' :: (host ++ [code ']'])) =
    code '[' :: (toLowerCase host ++ [code ']'])
  opened : ∀ host, (toLowerCase host).head? = some (code '[') → host.head? = some (code '[')
  closed : ∀ host, (toLowerCase host).getLast? = some (code ']') → host.getLast? = some (code ']')

structure Platform.Documented : Prop where
  lowers : Lowers platform.toLowerCase
  /-- An address begins with a hexadecimal digit or a colon. -/
  literal : ∀ ip, platform.isIP ip ≠ 0 →
    ∃ first rest, ip = first :: rest ∧ isLiteralUnit first = true
  /-- The mapped addresses are `::ffff:0:0/96`. -/
  mapped : ∀ bits, platform.isIPv4MappedAddress bits = true ↔ bits.extractLsb' 32 96 = 0xffff#96
  embedded : ∀ bits, platform.isIPv4MappedAddress bits = true →
    platform.toIPv4Address bits = bits.extractLsb' 0 32

/-- An address that stands for an IPv4 address is judged as that address. -/
def judged : Address → Address
  | .ipv6 bits =>
      if bits.extractLsb' 32 96 = 0xffff#96 then .ipv4 (bits.extractLsb' 0 32) else .ipv6 bits
  | .ipv4 bits => .ipv4 bits

def Public (ip : Text) : Prop :=
  ∃ address, platform.parse ip = some address ∧ platform.range (judged address) = "unicast"

def PublicOrPrivate (ip : Text) : Prop :=
  ∃ address, platform.parse ip = some address ∧
    (platform.range (judged address) = "private" ∨ platform.range (judged address) = "unicast")

def BlockedName (name : Text) : Prop :=
  name = text "localhost" ∨ text ".localhost" <:+ name ∨ text ".internal" <:+ name

def addresses (lookup : Text → Option (List Text)) (name : Text) : Option (List Text) :=
  if platform.isIP name ≠ 0 then some [name] else lookup name

inductive Permitted (allowlist : List Text) (name : Text) (answers : List Text) : Prop where
  | listed (member : name ∈ allowlist)
  | outside (unblocked : ¬ BlockedName name) (each : ∀ answer ∈ answers, Public platform answer)
  | subdomain (label domain : Text) (member : wild ++ domain ∈ allowlist)
      (valid : isValidHostname domain = true) (name_eq : name = label ++ code '.' :: domain)
      (proper : label ≠ []) (unblocked : ¬ BlockedName name)
      (each : ∀ answer ∈ answers, PublicOrPrivate platform answer)

def Screened (lookup : Text → Option (List Text)) (allowlist : List Text) (name address : Text) :
    Prop :=
  ∃ answers, addresses platform lookup name = some answers ∧ answers.head? = some address ∧
    Permitted platform allowlist name answers

variable {platform}

theorem bracketed_iff {host : Text} :
    bracketed host = true ↔ ∃ inner, host = code '[' :: (inner ++ [code ']']) := by
  constructor
  · intro held
    simp only [bracketed, Bool.and_eq_true, beq_iff_eq] at held
    obtain ⟨first, last⟩ := held
    obtain ⟨rest, rfl⟩ := List.head?_eq_some_iff.mp first
    rcases List.eq_nil_or_concat rest with rfl | ⟨inner, unit, rfl⟩
    · simp [code] at last
    · rw [List.concat_eq_append, ← List.cons_append, List.getLast?_concat, Option.some_inj] at last
      exact ⟨inner, by rw [last, List.concat_eq_append]⟩
  · rintro ⟨inner, rfl⟩
    have last : (code '[' :: (inner ++ [code ']'])).getLast? = some (code ']') := by
      rw [← List.cons_append, List.getLast?_concat]
    simp [bracketed, last]

theorem withoutDot_concat (host : Text) : withoutDot (host ++ [code '.']) = host := by
  simp [withoutDot]

theorem withoutDot_eq {host : Text} (undotted : host.getLast? ≠ some (code '.')) :
    withoutDot host = host :=
  if_neg undotted

theorem normalizedHost_brackets (inner : Text) :
    normalizedHost platform (code '[' :: (inner ++ [code ']'])) =
      withoutDot (platform.toLowerCase inner) := by
  rw [normalizedHost, if_pos (bracketed_iff.mpr ⟨inner, rfl⟩)]
  simp

theorem normalizedHost_plain {host : Text} (plain : bracketed host = false) :
    normalizedHost platform host = withoutDot (platform.toLowerCase host) := by
  rw [normalizedHost, if_neg (by simp [plain])]

/-- A normalised name is in lower case. -/
theorem lower_name (lowers : Lowers platform.toLowerCase) (host : Text) :
    platform.toLowerCase (normalizedHost platform host) = normalizedHost platform host := by
  rw [normalizedHost]
  generalize (if bracketed host then host.tail.dropLast else host) = stripped
  by_cases dotted : (platform.toLowerCase stripped).getLast? = some (code '.')
  · obtain ⟨name, shape⟩ := List.getLast?_eq_some_iff.mp dotted
    have lowered := lowers.again stripped
    rw [shape, lowers.dot] at lowered
    rw [shape, withoutDot_concat]
    exact List.append_cancel_right lowered
  · rw [withoutDot_eq dotted, lowers.again]

theorem isBlockedHostname_of_blocked {name : Text} (lower : platform.toLowerCase name = name)
    (blocked : BlockedName name) : isBlockedHostname platform name = true := by
  have last : name.getLast? = some (code 't') ∨ name.getLast? = some (code 'l') := by
    rcases blocked with rfl | ⟨front, rfl⟩ | ⟨front, rfl⟩
    · exact Or.inl rfl
    · exact Or.inl (by rw [List.getLast?_append]; rfl)
    · exact Or.inr (by rw [List.getLast?_append]; rfl)
  have plain : bracketed name = false := by
    rcases last with last | last <;> simp [bracketed, last, code]
  have undotted : name.getLast? ≠ some (code '.') := by
    rcases last with last | last <;> simp [last, code]
  rw [isBlockedHostname, normalizedHost_plain plain, lower, withoutDot_eq undotted]
  rcases blocked with rfl | suffix | suffix
  · rfl
  · simp [blockedHostSuffixes, suffix]
  · simp [blockedHostSuffixes, suffix]

/-- Case does not reach a normalised name. -/
theorem normalizedHost_congr (lowers : Lowers platform.toLowerCase) {host other : Text}
    (same : platform.toLowerCase other = platform.toLowerCase host) :
    normalizedHost platform other = normalizedHost platform host := by
  have turned : ∀ {first second : Text},
      platform.toLowerCase first = platform.toLowerCase second →
        bracketed first = true → bracketed second = true := by
    intro first second same held
    obtain ⟨inner, rfl⟩ := bracketed_iff.mp held
    rw [lowers.brackets] at same
    simp only [bracketed, Bool.and_eq_true, beq_iff_eq]
    constructor
    · exact lowers.opened second (by rw [← same]; rfl)
    · exact lowers.closed second (by rw [← same, ← List.cons_append, List.getLast?_concat])
  by_cases held : bracketed host = true
  · obtain ⟨inner, rfl⟩ := bracketed_iff.mp held
    obtain ⟨within, rfl⟩ := bracketed_iff.mp (turned same.symm held)
    rw [lowers.brackets, lowers.brackets] at same
    rw [normalizedHost_brackets, normalizedHost_brackets,
      List.append_cancel_right (List.cons.inj same).2]
  · have plain : bracketed other = false := by
      simpa using fun inside => held (turned same inside)
    rw [normalizedHost_plain plain, normalizedHost_plain (by simpa using held), same]

theorem normalizedHost_dot (lowers : Lowers platform.toLowerCase) {host : Text}
    (undotted : host.getLast? ≠ some (code '.')) (plain : bracketed host = false) :
    normalizedHost platform (host ++ [code '.']) = normalizedHost platform host := by
  have dotted : bracketed (host ++ [code '.']) = false := by
    simp [bracketed, code]
  rw [normalizedHost_plain dotted, normalizedHost_plain plain, lowers.dot, withoutDot_concat,
    withoutDot_eq fun last => undotted (lowers.dotted host last)]

theorem normalizedHost_literal (documented : platform.Documented) {host : Text}
    (literal : platform.isIP host ≠ 0) :
    normalizedHost platform (code '[' :: (host ++ [code ']'])) = normalizedHost platform host := by
  obtain ⟨first, rest, rfl, start⟩ := documented.literal host literal
  have plain : bracketed (first :: rest) = false := by
    have other : first ≠ code '[' := by
      rintro rfl
      exact absurd start (by decide)
    simp [bracketed, other]
  rw [normalizedHost_brackets, normalizedHost_plain plain]

theorem parse_members {value : Option Text} {allowlist : List Text}
    (accepted : parseHostAllowlist platform value = .ok allowlist) :
    ∀ entry ∈ allowlist, refused platform entry = false := by
  intro entry member
  simp only [parseHostAllowlist] at accepted
  split at accepted
  · exact absurd accepted (by simp)
  · next none_refused =>
      obtain rfl := Except.ok.inj accepted
      have inside := List.mem_eraseDups.mp member
      simpa using List.find?_eq_none.mp none_refused entry inside

theorem wildcard_valid (documented : platform.Documented) {domain : Text}
    (kept : refused platform (wild ++ domain) = false) : isValidHostname domain = true := by
  have plain : platform.isIP (wild ++ domain) = 0 := by
    by_contra literal
    obtain ⟨first, rest, shape, start⟩ := documented.literal _ literal
    obtain rfl : code '*' = first := (List.cons.inj shape).1
    exact absurd start (by decide)
  have drop : (wild ++ domain).drop 2 = domain := rfl
  simp only [refused, plain, ne_eq, not_true_eq_false, if_false, List.prefix_append, if_true, drop,
    Bool.or_eq_false_iff, Bool.not_eq_false'] at kept
  exact kept.2

theorem match_cases {name : Text} {allowlist : List Text} {found : AllowlistMatch}
    (matched : allowlistMatch platform name allowlist = some found) :
    (found.kind = .exact ∧ name ∈ allowlist) ∨
      (found.kind = .wildcard ∧ name ∉ allowlist ∧ platform.isIP name = 0 ∧
        ∃ label domain, wild ++ domain ∈ allowlist ∧ name = label ++ code '.' :: domain ∧
          label ≠ []) := by
  unfold allowlistMatch at matched
  split at matched
  next member =>
    obtain rfl := Option.some.inj matched
    exact Or.inl ⟨rfl, member⟩
  next absent =>
    split at matched
    next => exact absurd matched (by simp)
    next plain =>
      obtain ⟨entry, search, rfl⟩ := Option.map_eq_some_iff.mp matched
      have member := List.mem_of_find?_eq_some search
      have held := List.find?_some search
      simp only [Bool.and_eq_true, decide_eq_true_eq] at held
      obtain ⟨⟨⟨domain, rfl⟩, ⟨label, name_eq⟩⟩, longer⟩ := held
      have drop : (wild ++ domain).drop 1 = code '.' :: domain := rfl
      rw [drop] at name_eq longer
      refine Or.inr ⟨rfl, absent, by simpa using plain, label, domain, member, name_eq.symm, ?_⟩
      rintro rfl
      rw [← name_eq] at longer
      exact absurd longer (by simp)

theorem unmapped_eq (documented : platform.Documented) (address : Address) :
    unmapped platform address = judged address := by
  cases address with
  | ipv4 bits => rfl
  | ipv6 bits =>
      by_cases held : platform.isIPv4MappedAddress bits = true
      · rw [unmapped, judged, if_pos held, if_pos ((documented.mapped bits).mp held),
          documented.embedded bits held]
      · rw [unmapped, judged, if_neg held,
          if_neg fun high => held ((documented.mapped bits).mpr high)]

theorem public_of_unblocked (documented : platform.Documented) {ip : Text}
    (unblocked : isBlockedIp platform ip = false) : Public platform ip := by
  unfold isBlockedIp at unblocked
  split at unblocked
  next => exact absurd unblocked (by simp)
  next address parsed =>
    rw [unmapped_eq documented] at unblocked
    exact ⟨address, parsed, by simpa using unblocked⟩

theorem reachable_of_safe (documented : platform.Documented) {ip : Text}
    (safe : isWildcardSafeIp platform ip = true) : PublicOrPrivate platform ip := by
  unfold isWildcardSafeIp at safe
  split at safe
  next => exact absurd safe (by simp)
  next address parsed =>
    rw [unmapped_eq documented] at safe
    exact ⟨address, parsed, by simpa using safe⟩

theorem resolve_checked {lookup : Text → Option (List Text)} {host : Text} {allowlist : List Text}
    {address name : Text} (name_eq : normalizedHost platform host = name)
    (found : resolveSafeAddress platform lookup host allowlist = some address) :
    ∃ answers, addresses platform lookup name = some answers ∧ answers.head? = some address ∧
      ((allowlistMatch platform name allowlist).map (·.kind) = some .exact ∨
        isBlockedHostname platform name = false ∧
          ((∀ answer ∈ answers, isBlockedIp platform answer = false) ∨
            (allowlistMatch platform name allowlist).map (·.kind) = some .wildcard ∧
              ∀ answer ∈ answers, isWildcardSafeIp platform answer = true)) := by
  simp only [resolveSafeAddress, name_eq] at found
  generalize (allowlistMatch platform name allowlist).map (·.kind) = kind at found ⊢
  split at found
  next => exact absurd found (by simp)
  next unblocked =>
    simp only [Bool.and_eq_true, Bool.not_eq_true', not_and, beq_eq_false_iff_ne,
      Bool.not_eq_true] at unblocked
    by_cases literal : platform.isIP name = 0
    · rw [if_neg (by simp [literal])] at found
      cases answered : lookup name with
      | none => simp [answered] at found
      | some results =>
          simp only [answered] at found
          split at found
          next => exact absurd found (by simp)
          next =>
            have shown : addresses platform lookup name = some results := by
              simp [addresses, literal, answered]
            rcases kind with _ | _ | _
            · simp only [Option.none_beq_some, Bool.not_false, Bool.true_and, Bool.false_eq_true,
                if_false] at found
              split at found
              next => exact absurd found (by simp)
              next screened =>
                refine ⟨results, shown, found, Or.inr ⟨unblocked (by simp), Or.inl ?_⟩⟩
                simpa using screened
            · exact ⟨results, shown, by simpa using found, Or.inl rfl⟩
            · have other : (some MatchKind.wildcard == some MatchKind.exact) = false := rfl
              simp only [other, beq_self_eq_true, Bool.not_false, Bool.true_and, if_true] at found
              split at found
              next => exact absurd found (by simp)
              next screened =>
                refine ⟨results, shown, found, Or.inr ⟨unblocked (by simp), Or.inr ⟨rfl, ?_⟩⟩⟩
                simpa using screened
    · rw [if_pos literal] at found
      split at found
      next allowed =>
        refine ⟨[name], if_pos literal, found, ?_⟩
        simp only [Bool.or_eq_true, beq_iff_eq, Bool.not_eq_true'] at allowed
        by_cases listed : kind = some .exact
        · exact Or.inl listed
        · refine Or.inr ⟨unblocked listed, Or.inl fun answer member => ?_⟩
          rw [List.mem_singleton.mp member]
          exact allowed.resolve_left listed
      next => exact absurd found (by simp)

theorem resolve_congr {host other : Text}
    (same : normalizedHost platform other = normalizedHost platform host)
    (lookup : Text → Option (List Text)) (allowlist : List Text) :
    resolveSafeAddress platform lookup other allowlist =
      resolveSafeAddress platform lookup host allowlist := by
  rw [resolveSafeAddress, resolveSafeAddress, same]

theorem resolve_permitted (documented : platform.Documented) {value : Option Text}
    {allowlist : List Text} (accepted : parseHostAllowlist platform value = .ok allowlist)
    {lookup : Text → Option (List Text)} {host address : Text}
    (found : resolveSafeAddress platform lookup host allowlist = some address) :
    Screened platform lookup allowlist (normalizedHost platform host) address := by
  obtain ⟨answers, answered, first, checked⟩ := resolve_checked rfl found
  refine ⟨answers, answered, first, ?_⟩
  have unblocked : isBlockedHostname platform (normalizedHost platform host) = false →
      ¬ BlockedName (normalizedHost platform host) := by
    intro passed blocked
    rw [isBlockedHostname_of_blocked (lower_name documented.lowers host) blocked] at passed
    exact absurd passed (by simp)
  rcases checked with listed | ⟨passed, each | ⟨wildcard, each⟩⟩
  · obtain ⟨found, matched, kind⟩ := Option.map_eq_some_iff.mp listed
    rcases match_cases matched with ⟨-, member⟩ | ⟨other, -⟩
    · exact .listed member
    · exact absurd (kind.symm.trans other) (by simp)
  · exact .outside (unblocked passed) fun answer member =>
      public_of_unblocked documented (each answer member)
  · obtain ⟨found, matched, kind⟩ := Option.map_eq_some_iff.mp wildcard
    rcases match_cases matched with ⟨other, -⟩ | ⟨-, -, -, label, domain, member, name_eq, proper⟩
    · exact absurd (kind.symm.trans other) (by simp)
    · exact .subdomain label domain member
        (wildcard_valid documented (parse_members accepted _ member)) name_eq proper
        (unblocked passed) fun answer inside => reachable_of_safe documented (each answer inside)

/-- An address is returned only where the connection may go, for every spelling of the host. -/
theorem host_screened (documented : platform.Documented) {value : Option Text}
    {allowlist : List Text} (accepted : parseHostAllowlist platform value = .ok allowlist)
    (lookup : Text → Option (List Text)) (host : Text) :
    (∀ address, resolveSafeAddress platform lookup host allowlist = some address →
      Screened platform lookup allowlist (normalizedHost platform host) address) ∧
    (∀ other, SameLetters other host ∨ platform.toLowerCase other = platform.toLowerCase host →
      resolveSafeAddress platform lookup other allowlist =
        resolveSafeAddress platform lookup host allowlist) ∧
    (host.getLast? ≠ some (code '.') → bracketed host = false →
      resolveSafeAddress platform lookup (host ++ [code '.']) allowlist =
        resolveSafeAddress platform lookup host allowlist) ∧
    (platform.isIP host = 6 →
      resolveSafeAddress platform lookup (code '[' :: (host ++ [code ']'])) allowlist =
        resolveSafeAddress platform lookup host allowlist) := by
  refine ⟨fun address found => resolve_permitted documented accepted found, ?_, ?_, ?_⟩
  · intro other same
    have lowered := same.elim (documented.lowers.letters other host) id
    exact resolve_congr (normalizedHost_congr documented.lowers lowered) lookup allowlist
  · intro undotted plain
    exact resolve_congr (normalizedHost_dot documented.lowers undotted plain) lookup allowlist
  · intro literal
    exact resolve_congr (normalizedHost_literal documented (by simp [literal])) lookup allowlist

end Rules

/-! A platform for host names in ASCII. -/

theorem asciiLower_cases (unit : UInt16) :
    asciiLower unit = unit ∨
      (97 ≤ (asciiLower unit).toNat ∧ (asciiLower unit).toNat ≤ 122) := by
  unfold asciiLower
  split
  next upper =>
    refine Or.inr ?_
    simp only [UInt16.le_iff_toNat_le, code] at upper
    simp at upper
    rw [UInt16.toNat_add]
    simp
    omega
  next => exact Or.inl rfl

theorem asciiLower_again (unit : UInt16) : asciiLower (asciiLower unit) = asciiLower unit := by
  rcases asciiLower_cases unit with same | ⟨low, high⟩
  · rw [same, same]
  · refine if_neg fun upper => ?_
    simp only [UInt16.le_iff_toNat_le, code] at upper
    simp at upper
    omega

theorem asciiLower_mark {unit mark : UInt16} (outside : mark.toNat < 97)
    (lowered : asciiLower unit = mark) : unit = mark := by
  rcases asciiLower_cases unit with same | ⟨low, -⟩
  · exact same.symm.trans lowered
  · rw [lowered] at low
    omega

def asciiPlatform : Platform where
  toLowerCase host := host.map asciiLower
  isIP ip := if ip = text "10.0.0.5" then 4 else if ip = text "2606:4700::1" then 6 else 0
  parse ip :=
    if ip = text "10.0.0.5" then some (.ipv4 0x0a000005#32)
    else if ip = text "::ffff:10.0.0.5" then some (.ipv6 0xffff0a000005#128)
    else if ip = text "2606:4700::1" then some (.ipv6 0x26064700000000000000000000000001#128)
    else none
  isIPv4MappedAddress bits := bits.extractLsb' 32 96 == 0xffff#96
  toIPv4Address bits := bits.extractLsb' 0 32
  range address :=
    match address with
    | .ipv4 bits => if bits.extractLsb' 24 8 = 10#8 then "private" else "unicast"
    | .ipv6 _ => "unicast"

theorem ascii_lowers : Lowers (List.map asciiLower) where
  again host := by simp [asciiLower_again]
  letters first second same := same
  dot host := by simp [asciiLower, code]
  dotted host last := by
    rw [List.getLast?_map] at last
    obtain ⟨unit, found, lowered⟩ := Option.map_eq_some_iff.mp last
    rw [found, asciiLower_mark (by decide) lowered]
  brackets host := by simp [asciiLower, code]
  opened host first := by
    rw [List.head?_map] at first
    obtain ⟨unit, found, lowered⟩ := Option.map_eq_some_iff.mp first
    rw [found, asciiLower_mark (by decide) lowered]
  closed host last := by
    rw [List.getLast?_map] at last
    obtain ⟨unit, found, lowered⟩ := Option.map_eq_some_iff.mp last
    rw [found, asciiLower_mark (by decide) lowered]

theorem ascii_documented : asciiPlatform.Documented where
  lowers := ascii_lowers
  literal ip held := by
    simp only [asciiPlatform] at held
    split at held
    next same => exact ⟨_, _, same, by decide⟩
    next =>
      split at held
      next same => exact ⟨_, _, same, by decide⟩
      next => exact absurd rfl held
  mapped bits := by simp [asciiPlatform]
  embedded bits _ := rfl

/-- A private address behind a wildcard, mapped into IPv6, and the same host with a dot. -/
theorem host_screened_wildcard :
    resolveSafeAddress asciiPlatform (fun _ => some [text "::ffff:10.0.0.5"])
        (text "Api.Corp.Example") [text "*.corp.example"] = some (text "::ffff:10.0.0.5") ∧
      Screened asciiPlatform (fun _ => some [text "::ffff:10.0.0.5"]) [text "*.corp.example"]
        (text "api.corp.example") (text "::ffff:10.0.0.5") ∧
      resolveSafeAddress asciiPlatform (fun _ => some [text "::ffff:10.0.0.5"])
        (text "Api.Corp.Example.") [text "*.corp.example"] = some (text "::ffff:10.0.0.5") := by
  have accepted : parseHostAllowlist asciiPlatform (some (text " *.CORP.example,")) =
      .ok [text "*.corp.example"] := by rfl
  have screened := host_screened ascii_documented accepted
    (fun _ => some [text "::ffff:10.0.0.5"]) (text "Api.Corp.Example")
  have resolved : resolveSafeAddress asciiPlatform (fun _ => some [text "::ffff:10.0.0.5"])
      (text "Api.Corp.Example") [text "*.corp.example"] = some (text "::ffff:10.0.0.5") := by rfl
  exact ⟨resolved, screened.1 _ resolved,
    (screened.2.2.1 (by decide) (by decide)).trans resolved⟩

end Devproof.IpRules
