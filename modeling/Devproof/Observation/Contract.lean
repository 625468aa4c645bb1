import Devproof.StructuredObservation

/-!
Observation contracts, the bindings made for them and the reviews of visual
comparisons (`observation-contract.ts`), with the text comparisons of
`observed-value.ts`.
-/

namespace Devproof

inductive MatchMode where
  | exact
  | displayText
  deriving Repr, DecidableEq

inductive ScopeKind where
  | page
  | dialog
  | form
  | tableRow
  | popover
  deriving Repr, DecidableEq

inductive ControlKind where
  | select
  | field
  | row
  deriving Repr, DecidableEq

inductive SubjectKind where
  | switch
  | field
  | control
  deriving Repr, DecidableEq

inductive TargetPhase where
  | current
  | initialAfterOpen
  | afterAction
  | reopened
  deriving Repr, DecidableEq

inductive EvidenceKind where
  | dom
  | screenshot
  deriving Repr, DecidableEq

def EvidenceKind.name : EvidenceKind → String
  | .dom => "DOM"
  | .screenshot => "SCREENSHOT"

inductive Property where
  | checked
  | visible
  | enabled
  | value
  | text
  | selectedLabel
  deriving Repr, DecidableEq

inductive EntityProperty where
  | selectedLabel
  | value
  | text
  deriving Repr, DecidableEq

inductive Expected where
  | flag (value : Bool)
  | text (value : String)
  | oneOf (values : List String)
  deriving Repr, DecidableEq

structure Subject where
  kind : SubjectKind
  label : String
  deriving Repr, DecidableEq

inductive FlagProperty where
  | checked
  | visible
  | enabled
  deriving Repr, DecidableEq

inductive TextProperty where
  | value
  | text
  deriving Repr, DecidableEq

inductive ExpectationV2 where
  | flag (property : FlagProperty) (expected : Bool)
  | equals (property : TextProperty) (expected : String)
  | oneOf (property : TextProperty) (expected : List String)
  deriving Repr, DecidableEq

structure AssertionV2 where
  assertionId : String
  subject : Subject
  expectation : ExpectationV2
  deriving Repr, DecidableEq

inductive PropertyV3 where
  | text
  | checked
  | value
  | visible
  deriving Repr, DecidableEq

inductive ExpectedV3 where
  | flag (value : Bool)
  | text (value : String)
  deriving Repr, DecidableEq

structure AssertionV3 where
  assertionId : String
  property : Option PropertyV3 := none
  matchMode : Option MatchMode := none
  label : String
  expected : Option ExpectedV3 := none
  deriving Repr, DecidableEq

structure TargetScope where
  kind : ScopeKind
  names : List String
  deriving Repr, DecidableEq

structure TargetEntity where
  controlKind : ControlKind
  label : String
  property : EntityProperty
  oneOf : List String
  deriving Repr, DecidableEq

structure TargetIdentity where
  text : String
  matchMode : Option MatchMode := none
  deriving Repr, DecidableEq

structure TargetV2 where
  targetId : String
  label : String
  scope : TargetScope
  entity : TargetEntity
  phase : TargetPhase
  assertions : List AssertionV2
  requiredEvidenceKinds : List EvidenceKind
  deriving Repr, DecidableEq

structure TargetV3 where
  targetId : String
  label : String
  identity : TargetIdentity
  phase : TargetPhase
  assertions : List AssertionV3
  requiredEvidenceKinds : List EvidenceKind
  deriving Repr, DecidableEq

inductive ObservationTarget where
  | v2 (target : TargetV2)
  | v3 (target : TargetV3)
  deriving Repr, DecidableEq

inductive Assertion where
  | v2 (assertion : AssertionV2)
  | v3 (assertion : AssertionV3)
  deriving Repr, DecidableEq

def FlagProperty.property : FlagProperty → Property
  | .checked => .checked
  | .visible => .visible
  | .enabled => .enabled

def TextProperty.property : TextProperty → Property
  | .value => .value
  | .text => .text

def PropertyV3.property : PropertyV3 → Property
  | .text => .text
  | .checked => .checked
  | .value => .value
  | .visible => .visible

def ExpectedV3.expected : ExpectedV3 → Expected
  | .flag value => .flag value
  | .text value => .text value

namespace Assertion

def assertionId : Assertion → String
  | .v2 assertion => assertion.assertionId
  | .v3 assertion => assertion.assertionId

def label : Assertion → String
  | .v2 assertion => assertion.subject.label
  | .v3 assertion => assertion.label

def modern : Assertion → Bool
  | .v2 _ => false
  | .v3 _ => true

def property : Assertion → Option Property
  | .v2 assertion =>
      match assertion.expectation with
      | .flag property _ => some property.property
      | .equals property _ => some property.property
      | .oneOf property _ => some property.property
  | .v3 assertion => assertion.property.map PropertyV3.property

def expected : Assertion → Option Expected
  | .v2 assertion =>
      match assertion.expectation with
      | .flag _ expected => some (.flag expected)
      | .equals _ expected => some (.text expected)
      | .oneOf _ expected => some (.oneOf expected)
  | .v3 assertion => assertion.expected.map ExpectedV3.expected

def matchMode : Assertion → Option MatchMode
  | .v2 _ => none
  | .v3 assertion => assertion.matchMode

end Assertion

namespace ObservationTarget

def targetId : ObservationTarget → String
  | .v2 target => target.targetId
  | .v3 target => target.targetId

def label : ObservationTarget → String
  | .v2 target => target.label
  | .v3 target => target.label

def phase : ObservationTarget → TargetPhase
  | .v2 target => target.phase
  | .v3 target => target.phase

def assertions : ObservationTarget → List Assertion
  | .v2 target => target.assertions.map .v2
  | .v3 target => target.assertions.map .v3

def requiredEvidenceKinds : ObservationTarget → List EvidenceKind
  | .v2 target => target.requiredEvidenceKinds
  | .v3 target => target.requiredEvidenceKinds

def business : ObservationTarget → Bool
  | .v2 _ => false
  | .v3 _ => true

end ObservationTarget

structure VisualComparison where
  comparisonId : String
  subjectTargetId : String
  referenceTargetId : String
  deriving Repr, DecidableEq

structure ObservationContract where
  targets : List ObservationTarget
  comparisons : List VisualComparison
  distinctTargets : (targets.map ObservationTarget.targetId).Nodup := by decide

inductive Evaluation where
  | matched
  | mismatched
  | unknown
  deriving Repr, DecidableEq

inductive Readiness where
  | partly
  | ready
  deriving Repr, DecidableEq

inductive FactValue where
  | flag (value : Bool)
  | text (value : String)
  deriving Repr, DecidableEq

structure Fact where
  assertionId : String
  nodeId : String
  property : Property
  actual : Option FactValue
  evaluation : Evaluation
  deriving Repr, DecidableEq

structure BindingEvaluation where
  targetId : String
  scopeIdentity : String
  entityKey : String
  phase : TargetPhase
  phaseProven : Bool
  regionEpoch : Option String
  facts : List Fact
  evaluation : Evaluation
  readiness : Readiness
  reasons : List String
  deriving Repr, DecidableEq

structure ObservationBinding extends BindingEvaluation where
  id : String
  criterionId : String
  contractDigest : String
  deriving Repr, DecidableEq

inductive ReviewVerdict where
  | equivalent
  | different
  | unknown
  deriving Repr, DecidableEq

structure VisualComparisonReview where
  id : String
  criterionId : String
  contractDigest : String
  comparisonId : String
  bindingIds : List String
  verdict : ReviewVerdict
  supersedesReviewId : Option String := none
  deriving Repr, DecidableEq

def collapseSpace : Bool → List Char → List Char
  | _, [] => []
  | gap, char :: rest =>
      if isSpace char then (if gap then [] else [' ']) ++ collapseSpace true rest
      else char :: collapseSpace false rest

def normalize (text : String) : String :=
  trim (String.ofList (collapseSpace false text.toList))

def same (actual : Option String) (expected : String) : Bool :=
  match actual with
  | some actual => normalize actual == normalize expected
  | none => false

def isBlank (char : Char) : Bool := char == ' ' || char == '\t' || char == '\u00A0'

def isWord (char : Char) : Bool := char.isAlphanum || char == '_'

def clock : List Char → Option (List Char × List Char)
  | a :: b :: colon :: c :: d :: rest =>
      if isDigit a && isDigit b && colon == ':' && isDigit c && isDigit d then
        some ([a, b, colon, c, d], rest)
      else none
  | _ => none

def isDash (char : Char) : Bool := char == '–' || char == '—' || char == '-'

def clockRange (chars : List Char) : Option (List Char × List Char) :=
  match clock chars with
  | none => none
  | some (first, rest) =>
      match rest.dropWhile isBlank with
      | dash :: others =>
          let next := others.dropWhile isBlank
          match clock next with
          | some (_, after) =>
              if isDash dash && !(after.head?.any isWord) then some (first ++ [dash], next)
              else none
          | none => none
      | [] => none

/-- Replace the separators from left to right; `word` tells whether the previous
character is a word character, and one step per character is enough. -/
def tightenRanges : Nat → Bool → List Char → List Char
  | 0, _, chars => chars
  | _ + 1, _, [] => []
  | fuel + 1, word, char :: rest =>
      match if word then none else clockRange (char :: rest) with
      | some (range, next) => range ++ tightenRanges fuel false next
      | none => char :: tightenRanges fuel (isWord char) rest

def collapseBlank : Bool → List Char → List Char
  | _, [] => []
  | gap, char :: rest =>
      if isBlank char then (if gap then [] else [' ']) ++ collapseBlank true rest
      else char :: collapseBlank false rest

section Host

variable (host : Host)

def dropHanGaps : Bool → List Char → List Char
  | _, [] => []
  | before, char :: rest =>
      if isBlank char then
        if before && (rest.find? fun next => !isBlank next).any host.isHan then
          dropHanGaps before rest
        else char :: dropHanGaps before rest
      else char :: dropHanGaps (host.isHan char) rest

def normalizeDisplayText (value : String) : String :=
  let chars := dropHanGaps host false value.toList
  trim (String.ofList (collapseBlank false (tightenRanges chars.length false chars)))

end Host

end Devproof
