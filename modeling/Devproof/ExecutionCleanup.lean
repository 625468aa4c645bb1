import Devproof.ExecutionState

/-!
The matching rules both sides of the control plane share (`execution-cleanup.ts`):
collapsed resource URLs, record keys, request identities, and which reads and
writes speak about a record.
-/

namespace Devproof

def readQueryFields : List String :=
  ["account", "type", "page", "pageSize", "pageNum", "pageIndex", "page_size", "page_num",
    "page_index", "limit", "offset"]

def isUuidChars (chars : List Char) : Bool :=
  let hex := chars.map isHexDigit
  let dash := chars.map (· == '-')
  chars.length == 36 &&
    (List.range 36).all fun index =>
      if index == 8 || index == 13 || index == 18 || index == 23 then dash.getD index false
      else hex.getD index false

/-- `/^(?:\d+|[a-f\d]{8}(?:-[a-f\d]{4}){3}-[a-f\d]{12})$/iu`. -/
def isPathId (segment : List Char) : Bool :=
  (segment != [] && segment.all isDigit) || isUuidChars segment

def dropSuffix (suffix chars : List Char) : Option (List Char) :=
  if suffix.isSuffixOf chars then some (chars.take (chars.length - suffix.length)) else none

def dropList (path : List Char) : List Char :=
  match dropSuffix "/list/".toList path, dropSuffix "/list".toList path with
  | some rest, _ => rest
  | none, some rest => rest
  | none, none => path

def dropPathId (path : List Char) : List Char :=
  let segment := path.rtakeWhile (· != '/')
  let rest := path.rdropWhile (· != '/')
  match rest.getLast? with
  | some _ => if segment != [] && isPathId segment then rest.dropLast else path
  | none => path

def dropSlash (path : List Char) : List Char :=
  if path.getLast? = some '/' then path.dropLast else path

def collapsePath (path : String) : String :=
  String.ofList (dropSlash (dropPathId (dropList path.toList)))

section Host

variable (host : Host)

def executionResourceUrl (url : String) : String :=
  match host.parseUrl url with
  | some parsed => parsed.origin ++ collapsePath parsed.pathname
  | none => url

def executionRecordKey (id : String) (type : Option String) (url : Option String) : String :=
  let resource :=
    match url with
    | some url => if url = "" then "" else executionResourceUrl host url
    | none => ""
  resource ++ ":" ++ type.getD "" ++ ":" ++ id

structure RequestedId where
  id : Option String
  conflict : Bool
  deriving Repr, DecidableEq

def lastSegment (pathname : String) : Option (List Char) :=
  ((pathname.toList.splitOn '/').filter fun segment => segment != []).getLast?

def requestedRecordId (url : String) (request : Members) : RequestedId :=
  match host.parseUrl url with
  | none => { id := none, conflict := true }
  | some parsed =>
      let body :=
        match request.get "id" with
        | none => []
        | some .null => []
        | some value => [host.textOf value]
      let path :=
        match lastSegment parsed.pathname with
        | some tail => if isPathId tail then [String.ofList tail] else []
        | none => []
      let ids := body ++ parsed.getAll "id" ++ path
      { id := ids.head?
        conflict := 1 < (uniq ids).length || 1 < (parsed.getAll "id").length }

def responseRecordId (response : Option Json) : Option String :=
  let body := object response
  let id := nullish (nullish (body.get "id") ((object (body.get "data")).get "id"))
    ((object (body.get "result")).get "id")
  match id with
  | some (.str value) => some value
  | some (.num value) => some (host.formatNumber value)
  | _ => none

def ownedBy (account : Option String) (aliases : List String) (value : String) : Bool :=
  account == some value || aliases.contains value

def completeReadCoversRecord (read : ReadReceipt) (record : ExecutionRecord) : Bool :=
  match record.resourceUrl, host.parseUrl read.url with
  | some resourceUrl, some parsed =>
      let identity := requestedRecordId host read.url []
      read.complete && read.identitiesComplete && resourceUrl != "" &&
        executionResourceUrl host read.url == executionResourceUrl host resourceUrl &&
        !identity.conflict && (identity.id == none || identity.id == some record.id) &&
        !(["id", "type", "account"].any fun field => 1 < (parsed.getAll field).length) &&
        (!parsed.has "id" || parsed.get "id" == some record.id) &&
        (!parsed.has "name" ||
          ((parsed.getAll "name").length == 1 && parsed.get "name" == record.resourceName)) &&
        (!parsed.has "type" || parsed.get "type" == record.type) &&
        (!parsed.has "account" ||
          ((parsed.get "account").any (ownedBy record.account record.accountAliases))) &&
        parsed.keys.all fun field =>
          field == "id" || (field == "name" && record.resourceName.any (· != "")) ||
            readQueryFields.contains field
  | _, _ => false

def writeRequest (write : Write) : Members :=
  object (host.parseText write.request)

def absentOr (request : Members) (name : String) (value : Option String) : Bool :=
  match request.get name with
  | none => true
  | some json => (stringOf (some json)).isSome && stringOf (some json) == value

def writeMatchesRecord (write : Write) (record : ExecutionRecord) : Bool :=
  match record.resourceUrl with
  | none => false
  | some resourceUrl =>
      if resourceUrl = "" ∨ executionResourceUrl host write.url ≠ executionResourceUrl host resourceUrl then
        false
      else
        let request := writeRequest host write
        let identity := requestedRecordId host write.url request
        let createdId := responseRecordId host (host.parseText write.response)
        if identity.conflict then false
        else if write.method = .post ∧ createdId ≠ none ∧ createdId ≠ some record.id then false
        else if write.method = .post ∧ (record.creationWriteKey.getD "") ≠ "" then
          record.creationWriteKey = some write.key
        else if identity.id ≠ none then
          identity.id = some record.id && absentOr request "type" record.type &&
            (match request.get "account" with
              | none => true
              | some account => ownedBy record.account record.accountAliases (host.textOf account))
        else
          (match request.get "type" with
            | none => record.type == none
            | some value => (stringOf (some value)).isSome && stringOf (some value) == record.type) &&
            match stringOf (request.get "account") with
            | some account => ownedBy record.account record.accountAliases account
            | none => false

def successfulExecutionWrite (status : Option Rat) (body : Option Json) : Bool :=
  let parsed := object body
  match status with
  | none => false
  | some status =>
      200 ≤ status && status < 300 && !isFalse (parsed.get "success") &&
        match parsed.get "code" with
        | none => true
        | some (.num code) => code == 0 || code == 200
        | some (.str code) => ["0", "200", "OK", "SUCCESS"].contains code
        | some _ => false

end Host

end Devproof
