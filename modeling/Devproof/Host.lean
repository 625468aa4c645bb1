import Devproof.Lib.Json

/-!
The JavaScript runtime and the third-party predicates the code calls.  Every
theorem holds for every host; a concrete run supplies the values the real host
returns on its own inputs.
-/

namespace Devproof

structure Url where
  origin : String
  pathname : String
  searchParams : List (String × String)
  deriving Repr, DecidableEq

namespace Url

def getAll (url : Url) (name : String) : List String :=
  (url.searchParams.filter fun entry => entry.1 == name).map Prod.snd

def get (url : Url) (name : String) : Option String :=
  (url.getAll name).head?

def has (url : Url) (name : String) : Bool :=
  url.searchParams.any fun entry => entry.1 == name

def keys (url : Url) : List String :=
  url.searchParams.map Prod.fst

end Url

structure Host where
  /-- `JSON.parse`; `none` where it throws. -/
  parseJson : String → Option Json
  /-- `JSON.stringify`. -/
  stringify : Json → String
  /-- `String(number)`. -/
  formatNumber : Rat → String
  /-- `Number(text)`; `none` is `NaN`. -/
  parseNumber : String → Option Rat
  /-- `new URL(text)`; `none` where it throws. -/
  parseUrl : String → Option Url
  /-- `Date.parse`; `none` is `NaN`. -/
  parseDate : String → Option Int
  /-- `createHash("sha256").update(text).digest("hex")`. -/
  sha256 : String → String
  /-- The Unicode classes `\p{L}` and `\p{N}`. -/
  isLetterOrNumber : Char → Bool
  /-- The script class `\p{Script=Han}`. -/
  isHan : Char → Bool
  /-- The string formats of `z.string().uuid()` and `z.string().datetime()`. -/
  isUuid : String → Bool
  isDatetime : String → Bool

namespace Host

variable (host : Host)

mutual
def textOf : Json → String
  | .null => "null"
  | .bool true => "true"
  | .bool false => "false"
  | .num number => host.formatNumber number
  | .str text => text
  | .arr items => ",".intercalate (itemTexts items)
  | .obj _ => "[object Object]"

def itemTexts : List Json → List String
  | [] => []
  | .null :: rest => "" :: itemTexts rest
  | item :: rest => textOf item :: itemTexts rest
end

def text (value : Option Json) : String :=
  match value with
  | none => "undefined"
  | some json => host.textOf json

def toNumber (value : Json) : Option Rat :=
  match value with
  | .null => some 0
  | .bool true => some 1
  | .bool false => some 0
  | .num number => some number
  | .str text => host.parseNumber text
  | .arr items => host.parseNumber (host.textOf (.arr items))
  | .obj _ => none

/-- The helper `parse`: strings are read as JSON, other values are returned as they are. -/
def parse (value : Option Json) : Option Json :=
  match value with
  | some (.str text) => host.parseJson text
  | other => other

def parseText (text : Option String) : Option Json :=
  text.bind host.parseJson

def parsedOr (value : Json) : Json :=
  match host.parse (some value) with
  | none => value
  | some .null => value
  | some json => json

def parsedText (text : String) : Json :=
  host.parsedOr (.str text)

def before (left right : String) : Bool :=
  match host.parseDate left, host.parseDate right with
  | some first, some second => first < second
  | _, _ => false

def notBefore (left right : String) : Bool :=
  match host.parseDate left, host.parseDate right with
  | some first, some second => second ≤ first
  | _, _ => false

end Host

def truthy (text : Option String) : Option String :=
  text.filter fun value => value != ""

/-! `BigInt(text)`. -/

def digitValue (radix : Nat) (char : Char) : Option Nat :=
  let value :=
    if '0' ≤ char ∧ char ≤ '9' then some (char.toNat - 48)
    else if 'a' ≤ char ∧ char ≤ 'f' then some (char.toNat - 87)
    else if 'A' ≤ char ∧ char ≤ 'F' then some (char.toNat - 55)
    else none
  value.filter (· < radix)

def numeral (radix : Nat) (digits : List Char) : Option Int :=
  if digits = [] then none
  else do
    let values ← digits.mapM (digitValue radix)
    return values.foldl (fun total value => total * radix + value) (0 : Nat)

def bigInt (text : String) : Option Int :=
  match (trim text).toList with
  | [] => some 0
  | '0' :: 'x' :: digits => numeral 16 digits
  | '0' :: 'X' :: digits => numeral 16 digits
  | '0' :: 'o' :: digits => numeral 8 digits
  | '0' :: 'O' :: digits => numeral 8 digits
  | '0' :: 'b' :: digits => numeral 2 digits
  | '0' :: 'B' :: digits => numeral 2 digits
  | '-' :: digits => (numeral 10 digits).map (-·)
  | '+' :: digits => numeral 10 digits
  | digits => numeral 10 digits

/-- Distinct numbers have distinct decimals. -/
theorem toString_injective {first second : Nat} (same : toString first = toString second) :
    first = second := by
  have digits := congrArg String.toList same
  simp only [Nat.toString_eq_repr, Nat.toList_repr] at digits
  calc first = Nat.ofDigitChars 10 (Nat.toDigits 10 first) 0 := Nat.ofDigitChars_ten_toDigits.symm
    _ = Nat.ofDigitChars 10 (Nat.toDigits 10 second) 0 := by rw [digits]
    _ = second := Nat.ofDigitChars_ten_toDigits

/-! A host that knows finitely many inputs. -/

def escaped (char : Char) : List Char :=
  if char = '"' then ['\\', '"']
  else if char = '\\' then ['\\', '\\']
  else [char]

mutual
def render : Json → List Char
  | .null => "null".toList
  | .bool true => "true".toList
  | .bool false => "false".toList
  | .num number => (toString number.num).toList
  | .str text => ['"'] ++ text.toList.flatMap escaped ++ ['"']
  | .arr items => ['['] ++ [','].intercalate (renderItems items) ++ [']']
  | .obj members => ['{'] ++ [','].intercalate (renderMembers members) ++ ['}']

def renderItems : List Json → List (List Char)
  | [] => []
  | item :: rest => render item :: renderItems rest

def renderMembers : List (String × Json) → List (List Char)
  | [] => []
  | (name, child) :: rest =>
      (['"'] ++ name.toList.flatMap escaped ++ ['"', ':'] ++ render child) :: renderMembers rest
end

structure Tables where
  values : List Json := []
  numbers : List (String × Rat) := []
  urls : List (String × Url) := []
  dates : List (String × Int) := []
  digests : List (String × String) := []
  uuids : List String := []

def Host.ofTables (tables : Tables) : Host where
  parseJson text := tables.values.find? fun value => String.ofList (render value) == text
  stringify value := String.ofList (render value)
  formatNumber number := toString number.num
  parseNumber text := tables.numbers.lookup text
  parseUrl text := tables.urls.lookup text
  parseDate text := tables.dates.lookup text
  sha256 text := (tables.digests.lookup text).getD ""
  isLetterOrNumber char := char.isAlphanum
  isHan char := 0x4E00 ≤ char.toNat && char.toNat ≤ 0x9FFF
  isUuid text := tables.uuids.contains text
  isDatetime text := (tables.dates.lookup text).isSome

def stamp (timestamp : Option String) : Option String :=
  timestamp.filter fun text => text != ""

end Devproof
