import Clearinghouse.Fact.Copyright
import Clearinghouse.Fact.FileName
import Clearinghouse.Fact.Identifier
import Clearinghouse.Fact.Status
import Clearinghouse.License.Basic

/-!
# Facts

A fact is a value of one of the fifteen kinds. Two facts of one kind meet under a merge rule,
which says whether the incoming fact is stored, dropped or refused. Main statement: what is
stored is of the same kind as what came in (`kind_of_mergeWith_eq_replace`).
-/

namespace Clearinghouse

inductive Fact
  | declaredLicense (license : LicenseTree)
  | observedLicense (license : LicenseTree)
  | overriddenLicense (license : LicenseTree)
  | configuredLicense (license : LicenseTree)
  | sourceUrl (url : String)
  | releaseTagUrl (url : String)
  | softwareHeritageId (id : SoftwareHeritageId)
  | clearingState (state : ClearingState)
  | changeStatus (status : ChangeStatus)
  | cpe (name : Cpe)
  | filename (file : FileName)
  | sourceFile (path : Path)
  | copyright (statement : Copyright)
  | matchingMetadata (state : MatchState)
  | clearingDocument (path : Path)
  deriving Repr, Inhabited, BEq

namespace Fact

def kind : Fact → FactKind
  | declaredLicense _ => .declaredLicense
  | observedLicense _ => .observedLicense
  | overriddenLicense _ => .overriddenLicense
  | configuredLicense _ => .configuredLicense
  | sourceUrl _ => .sourceUrl
  | releaseTagUrl _ => .releaseTagUrl
  | softwareHeritageId _ => .softwareHeritageId
  | clearingState _ => .clearingState
  | changeStatus _ => .changeStatus
  | cpe _ => .cpe
  | filename _ => .filename
  | sourceFile _ => .sourceFile
  | copyright _ => .copyright
  | matchingMetadata _ => .matchingMetadata
  | clearingDocument _ => .clearingDocument

/-- The license that a license fact holds. -/
def license? : Fact → Option LicenseTree
  | declaredLicense t | observedLicense t | overriddenLicense t | configuredLicense t => some t
  | _ => none

def copyright? : Fact → Option Copyright
  | copyright c => some c
  | _ => none

def clearingState? : Fact → Option ClearingState
  | clearingState s => some s
  | _ => none

def filename? : Fact → Option FileName
  | filename f => some f
  | _ => none

/-- The fact as messages show it. -/
def toText : Fact → String
  | declaredLicense t | observedLicense t | overriddenLicense t | configuredLicense t => t.evaluate
  | sourceUrl url | releaseTagUrl url => url
  | softwareHeritageId id => id.text
  | clearingState state => state.name
  | changeStatus status => status.name
  | cpe name => name.text
  | filename file => file.toText
  | sourceFile path | clearingDocument path => path.text
  | copyright statement => statement.toText
  | matchingMetadata state => state.name

instance : ToString Fact := ⟨toText⟩

/-! ## Meeting -/

/-- What becomes of an incoming fact. -/
inductive MergeOutcome
  /-- Store this fact in place of the existing one. -/
  | replace (fact : Fact)
  /-- Keep the existing fact. -/
  | keep
  /-- Keep the existing fact and report the incoming one. -/
  | conflict (incoming : Fact)
  deriving Repr

/-- The incoming clearing state is the lower one of two. -/
def isLowerThan (incoming existing : Fact) : Bool :=
  match incoming, existing with
  | clearingState s, clearingState t => s < t
  | _, _ => false

/-- The lines of both, if both facts are copyright statements; else the incoming fact. -/
def unite (incoming existing : Fact) : Fact :=
  match incoming, existing with
  | copyright c, copyright d => copyright (d.union c)
  | _, _ => incoming

/-- An incoming fact meets the stored one of its kind. -/
def mergeWith (incoming existing : Fact) (rule : MergeRule) : MergeOutcome :=
  if incoming.kind ≠ existing.kind then .replace incoming
  else
    match rule with
    | .overwrite => .replace incoming
    | .keepExisting => .keep
    | .rejectOnConflict => if incoming == existing then .keep else .conflict incoming
    | .keepHigher => if incoming.isLowerThan existing then .keep else .replace incoming
    | .union => .replace (incoming.unite existing)

theorem kind_unite (incoming existing : Fact) : (incoming.unite existing).kind = incoming.kind := by
  unfold unite; split <;> rfl

theorem kind_of_mergeWith_eq_replace {incoming existing fact : Fact} {rule : MergeRule}
    (h : incoming.mergeWith existing rule = .replace fact) : fact.kind = incoming.kind := by
  unfold mergeWith at h
  split at h
  · cases h; rfl
  · split at h
    · cases h; rfl
    · cases h
    · split at h <;> cases h
    · split at h <;> cases h; rfl
    · cases h; exact kind_unite _ _

end Fact

end Clearinghouse
