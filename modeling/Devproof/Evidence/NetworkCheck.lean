import Devproof.Lib.JsonOrder

/-!
Structured assertions about one recorded request (`network-check.ts`).
-/

namespace Devproof.NetworkCheck

open Parsing

inductive Method where
  | get
  | post
  | put
  | patch
  | delete
  deriving Repr, DecidableEq

def Method.text : Method → Text
  | .get => "GET".toList.map code
  | .post => "POST".toList.map code
  | .put => "PUT".toList.map code
  | .patch => "PATCH".toList.map code
  | .delete => "DELETE".toList.map code

inductive Part where
  | query
  | requestBody
  | responseBody
  deriving Repr, DecidableEq

inductive Encoding where
  | native
  | jsonString
  deriving Repr, DecidableEq

inductive Scalar where
  | str (value : Text)
  | bool (value : Bool)
  | num (value : Number)
  | null
  deriving Repr, DecidableEq

structure Condition where
  part : Part
  field : Text
  equals : Scalar

structure Check where
  method : Method
  path : Text
  part : Part
  field : Text
  equals : Scalar
  encoding : Encoding
  conditions : List Condition

structure Url where
  pathname : Text
  searchParams : List (Text × Text)

structure Platform where
  /-- `String(number)`. -/
  formatNumber : Rat → Text
  /-- `new URL(text)`, unless it throws. -/
  newUrl : Text → Option Url

def sameNumber : Number → Number → Bool
  | .finite left, .finite right => left == right
  | .finite value, .negativeZero => value == 0
  | .negativeZero, .finite value => value == 0
  | .negativeZero, .negativeZero => true
  | .infinite left, .infinite right => left == right
  | _, _ => false

def equalsScalar : Value → Scalar → Bool
  | .str left, .str right => left == right
  | .bool left, .bool right => left == right
  | .num left, .num right => sameNumber left right
  | .null, .null => true
  | _, _ => false

section Platform

variable (platform : Platform)

/-! `String(value)`; an object with a member of that name has no `toString`. -/

def numberString : Number → Text
  | .finite value => platform.formatNumber value
  | .negativeZero => platform.formatNumber 0
  | .infinite false => "Infinity".toList.map code
  | .infinite true => "-Infinity".toList.map code

mutual
def stringOf : Value → Option Text
  | .null => some ("null".toList.map code)
  | .bool value => some ((if value then "true" else "false").toList.map code)
  | .num value => some (numberString platform value)
  | .str value => some value
  | .arr items => (joinedStrings items).map Parsing.joined
  | .obj members =>
      if "toString".toList.map code ∈ members.map Prod.fst then none
      else some ("[object Object]".toList.map code)

def joinedStrings : List Value → Option (List Text)
  | [] => some []
  | .null :: rest => (joinedStrings rest).map ([] :: ·)
  | item :: rest =>
      (stringOf item).bind fun text => (joinedStrings rest).map (text :: ·)
end

def urlOf (request : List (Text × Value)) : Option Url :=
  match request.lookup ("url".toList.map code) with
  | some value => (stringOf platform value).bind platform.newUrl
  | none => platform.newUrl ("undefined".toList.map code)

def bodyKey : Part → Text
  | .requestBody => "requestBody".toList.map code
  | _ => "responseBody".toList.map code

def splitDots : Text → List Text
  | [] => [[]]
  | unit :: rest =>
      if unit = code '.' then [] :: splitDots rest
      else
        match splitDots rest with
        | [] => [[unit]]
        | first :: others => (unit :: first) :: others

def step (value : Option Value) (name : Text) : Option Value :=
  match value with
  | some (.obj members) => members.lookup name
  | _ => none

def isTrue (value : Option Value) : Bool :=
  match value with
  | some (.bool true) => true
  | _ => false

def fieldValue (request : List (Text × Value)) (part : Part) (field : Text) : Option Value :=
  match part with
  | .query =>
      match urlOf platform request with
      | none => none
      | some url =>
          match url.searchParams.filter fun entry => entry.1 == field with
          | [entry] => some (.str entry.2)
          | _ => none
  | _ =>
      let key := bodyKey part
      if isTrue (request.lookup (key ++ "Truncated".toList.map code)) ||
          (request.lookup (key ++ "Omitted".toList.map code)).isSome ||
          (part == .responseBody && isTrue (request.lookup ("bodyPending".toList.map code))) then none
      else (splitDots field).foldl step (request.lookup key)

mutual
def canonical : Value → Option Text
  | .arr items => (canonicalItems items).map fun items => stringify platform.formatNumber (.arr items)
  | .obj members =>
      (canonicalMembers members).map fun members =>
        stringify platform.formatNumber (.obj (ofMembers (byName unitOrder members)))
  | .null => some (stringify platform.formatNumber .null)
  | .bool value => some (stringify platform.formatNumber (.bool value))
  | .num value => some (stringify platform.formatNumber (.num value))
  | .str value => some (stringify platform.formatNumber (.str value))

def canonicalItems : List Value → Option (List Value)
  | [] => some []
  | item :: rest =>
      ((canonical item).bind parse).bind fun value => (canonicalItems rest).map (value :: ·)

def canonicalMembers : List (Text × Value) → Option (List (Text × Value))
  | [] => some []
  | (name, value) :: rest =>
      ((canonical value).bind parse).bind fun value =>
        (canonicalMembers rest).map ((name, value) :: ·)
end

def fieldMatches (request : List (Text × Value)) (check : Check) : Bool :=
  match check.encoding with
  | .jsonString =>
      match fieldValue platform request check.part check.field, check.equals with
      | some (.str actual), .str expected =>
          match (parse actual).bind (canonical platform), (parse expected).bind (canonical platform) with
          | some left, some right => left == right
          | _, _ => false
      | _, _ => false
  | .native =>
      match fieldValue platform request check.part check.field with
      | some actual => equalsScalar actual check.equals
      | none => false

def structuredNetworkMatches (quote : Text) (check : Check) : Bool :=
  match parse quote with
  | some (.obj request) =>
      (match request.lookup ("method".toList.map code) with
        | some (.str method) => method == check.method.text
        | _ => false) &&
      (match urlOf platform request with
        | some url => url.pathname == check.path
        | none => false) &&
      (check.conditions.all fun condition =>
        match fieldValue platform request condition.part condition.field with
        | some actual => equalsScalar actual condition.equals
        | none => false) &&
      fieldMatches platform request check
  | _ => false

end Platform

end Devproof.NetworkCheck
