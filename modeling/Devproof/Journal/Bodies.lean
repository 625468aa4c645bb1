import Devproof.ExecutionCleanup

/-!
What the journal reads out of response bodies (`execution-journal.ts`, the
helpers above the class).
-/

namespace Devproof

section Host

variable (host : Host)

abbrev resource (url : String) : String := executionResourceUrl host url

abbrev recordKey (id : String) (type : Option String) (url : Option String) : String :=
  executionRecordKey host id type url

def stableRecordRef (resourceUrl type : Option String) (id : String) (account : Option String) :
    String :=
  let url :=
    match resourceUrl with
    | some url => if url = "" then "" else resource host url
    | none => ""
  "record:" ++ host.sha256
    (host.stringify (.arr [.str url, .str (type.getD ""), .str id, .str (account.getD "")]))

theorem stableRef_ne (resourceUrl type : Option String) (id : String) (account : Option String) :
    stableRecordRef host resourceUrl type id account ≠ "" := by
  intro empty
  have chars := congrArg String.toList empty
  simp [stableRecordRef] at chars

def ExecutionRecord.stableRef (record : ExecutionRecord) : String :=
  stableRecordRef host record.resourceUrl record.type record.id record.account

def listMembers : List String := ["data", "list", "items", "records", "whitelists"]

def memberLists (members : Members) : List (List Json) :=
  listMembers.filterMap fun name => arrayOf (members.get name)

def isPagingParam (name : String) : Bool :=
  ["page", "offset", "cursor", "limit", "size"].any fun word =>
    includesChars (folded name) word.toList

def completeRows (url : String) (members : Members) (rows : List Json) : Option Bool :=
  if 100 < rows.length then some false
  else
    match nullish (nullish (members.get "total") (members.get "totalCount"))
        (members.get "total_count") with
    | some total => some (host.toNumber total == some (rows.length : Rat))
    | none =>
        match host.parseUrl url with
        | some parsed => some !(parsed.keys.any isPagingParam)
        | none => none

mutual
def completeListJson (url : String) : Json → Option Bool
  | .arr rows => completeRows host url [] rows
  | .obj members =>
      match memberLists members with
      | [rows] => completeRows host url members rows
      | _ :: _ :: _ => some false
      | [] =>
          match completeMember url "data" members with
          | some false => completeMember url "result" members
          | decided => decided
  | _ => some false

def completeMember (url name : String) : List (String × Json) → Option Bool
  | [] => some false
  | (key, child) :: rest =>
      if key = name then completeListJson url child else completeMember url name rest
end

def completeList (body : Option Json) (url : String) : Option Bool :=
  match body with
  | some json => completeListJson host url json
  | none => some false

/-- Unlike `records`, this also accounts for malformed rows: an unparseable row
in a complete list must never prove a type absent. -/
def listRows : Nat → Option Json → Option (List Json)
  | 0, _ => none
  | fuel + 1, body =>
      match body with
      | some (.arr rows) => some rows
      | _ =>
          match memberLists (object body) with
          | [rows] => some rows
          | _ :: _ :: _ => none
          | [] =>
              match ["data", "result"].filterMap
                fun name => listRows fuel ((object body).get name) with
              | [rows] => some rows
              | _ => none

def isIdentifier (value : Option Json) : Bool :=
  (stringOf value).isSome || (numberOf value).isSome

def records : Nat → Json → List Members
  | 0, _ => []
  | fuel + 1, .arr items => (items.take 100).flatMap (records fuel)
  | fuel + 1, .obj members =>
      let row : Members := members
      let nested := members.flatMap fun member => records fuel member.2
      if isIdentifier (row.get "id") && (stringOf (row.get "type")).isSome &&
          (row.get "account").isSome then
        [row]
      else
        match row.get "id", stringOf (row.get "name") with
        | some id, some name =>
            if isIdentifier (some id) && 0 < units (host.textOf id) && units (host.textOf id) ≤ 500 &&
                0 < units (trim name) && units name ≤ 500 && (row.get "account").isNone then
              [[("id", id), ("type", .str "NAMED_RESOURCE"), ("resourceName", .str name),
                ("config", .obj members)]]
            else nested
        | _, _ => nested
  | _ + 1, _ => []

def recordsOf (body : Option Json) : List Members :=
  match body with
  | some json => records host 9 json
  | none => []

mutual
def emptyListJson : Json → Bool
  | .arr items => items.isEmpty
  | .obj members => emptyMembers members
  | _ => false

def emptyMembers : List (String × Json) → Bool
  | [] => false
  | (name, child) :: rest =>
      (listMembers.contains name && emptyListJson child) || emptyMembers rest
end

def emptyList (body : Option Json) : Bool :=
  match body with
  | some json => emptyListJson json
  | none => false

/-- Business responses may contain empty or malformed optional identity fields;
they must never become shared aliases. -/
def accountAliases (values : List (Option Json)) : List String :=
  uniq (values.filterMap fun value =>
    value.bind (businessTestAccountSchema host).read)

def rowAliases (row : Members) : List String :=
  let user := object (row.get "user")
  accountAliases host [row.get "account", user.get "uuid", user.get "phone", user.get "email"]

def rowId (row : Members) : String := host.text (row.get "id")

def rowType (row : Members) : String := host.text (row.get "type")

def rowKey (row : Members) (url : String) : String :=
  recordKey host (rowId host row) (some (rowType host row)) (some url)

def configText (config : Json) : String :=
  host.stringify (host.parsedOr config)

def writeSuccessful (write : Write) : Bool :=
  successfulExecutionWrite write.status (host.parseText write.response)

def rejectedWrite (write : Write) : Bool :=
  [400, 401, 403, 404, 405, 409, 415, 422].contains (write.status.getD 0) ||
    (write.confirmed && write.status.any (fun status => 200 ≤ status && status < 300) &&
      !writeSuccessful host write)

def confirmedSuccess (write : Write) : Bool :=
  write.confirmed && writeSuccessful host write

def mayHaveSucceeded (write : Write) : Bool :=
  !write.confirmed || writeSuccessful host write

def absenceKey (resource type account : String) : String :=
  resource ++ ":" ++ type ++ ":" ++ account

end Host

end Devproof
