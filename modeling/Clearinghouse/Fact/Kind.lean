/-!
# Kinds of facts

A fact says one thing about an artifact; its kind says what. The kind also decides what becomes
of a fact when another one of the same kind arrives. Main statement: every kind is found by its
key (`ofKey?_key`).
-/

namespace Clearinghouse

inductive FactKind
  | declaredLicense
  | observedLicense
  | overriddenLicense
  | configuredLicense
  | sourceUrl
  | releaseTagUrl
  | softwareHeritageId
  | clearingState
  | changeStatus
  | cpe
  | filename
  | sourceFile
  | copyright
  | matchingMetadata
  | clearingDocument
  deriving DecidableEq, Repr, Inhabited

/-- What becomes of a stored fact when another one of its kind arrives. -/
inductive MergeRule
  | overwrite
  | keepExisting
  | union
  | keepHigher
  | rejectOnConflict
  deriving DecidableEq, Repr

/-- How an artifact treats facts of a kind that holds only one. -/
inductive MergePolicy
  | overwrite
  | keepExisting
  | strict
  deriving DecidableEq, Repr, Inhabited

namespace FactKind

def all : List FactKind :=
  [declaredLicense, observedLicense, overriddenLicense, configuredLicense, sourceUrl,
    releaseTagUrl, softwareHeritageId, clearingState, changeStatus, cpe, filename, sourceFile,
    copyright, matchingMetadata, clearingDocument]

theorem mem_all (k : FactKind) : k ∈ all := by cases k <;> decide

/-- The name that readers see. -/
def name : FactKind → String
  | declaredLicense => "Declared License"
  | observedLicense => "Observed License"
  | overriddenLicense => "Overridden License"
  | configuredLicense => "Configured License"
  | sourceUrl => "Source URL"
  | releaseTagUrl => "Release Tag URL"
  | softwareHeritageId => "Software Heritage ID"
  | clearingState => "Clearing State"
  | changeStatus => "Change Status"
  | cpe => "CPE"
  | filename => "File Name"
  | sourceFile => "Source File"
  | copyright => "Copyrights"
  | matchingMetadata => "Matching Metadata"
  | clearingDocument => "Clearing Document"

/-- The name in structured data. -/
def key : FactKind → String
  | declaredLicense => "declared_license"
  | observedLicense => "observed_license"
  | overriddenLicense => "overridden_license"
  | configuredLicense => "configured_license"
  | sourceUrl => "source_url"
  | releaseTagUrl => "release_tag_url"
  | softwareHeritageId => "software_heritage_id"
  | clearingState => "clearing_state"
  | changeStatus => "change_status"
  | cpe => "cpe"
  | filename => "filename"
  | sourceFile => "source_file"
  | copyright => "copyright"
  | matchingMetadata => "matching_metadata"
  | clearingDocument => "clearing_document"

def ofKey? (s : String) : Option FactKind := all.find? (·.key == s)

theorem ofKey?_key (k : FactKind) : ofKey? k.key = some k := by cases k <;> decide +kernel

/-- The rule of the kind itself, which holds under the policy `overwrite`. -/
def mergeRule : FactKind → MergeRule
  | clearingState => .keepHigher
  | copyright | filename => .union
  | _ => .overwrite

/-- An artifact may hold several facts of this kind. -/
def isMultiValued (k : FactKind) : Bool := k == filename

def isLicense : FactKind → Bool
  | declaredLicense | observedLicense | overriddenLicense | configuredLicense => true
  | _ => false

end FactKind

namespace MergePolicy

/-- The rule for a kind: a policy bears only on kinds that would be overwritten. -/
def ruleFor (policy : MergePolicy) (k : FactKind) : MergeRule :=
  match k.mergeRule, policy with
  | .overwrite, keepExisting => .keepExisting
  | .overwrite, strict => .rejectOnConflict
  | rule, _ => rule

def name : MergePolicy → String
  | overwrite => "overwrite"
  | keepExisting => "keep-existing"
  | strict => "strict"

def all : List MergePolicy := [overwrite, keepExisting, strict]

def ofName? (s : String) : Option MergePolicy := all.find? (·.name == s)

theorem ruleFor_overwrite (k : FactKind) : overwrite.ruleFor k = k.mergeRule := by
  cases k <;> rfl

theorem ruleFor_of_mergeRule_ne (policy : MergePolicy) {k : FactKind}
    (h : k.mergeRule ≠ .overwrite) : policy.ruleFor k = k.mergeRule := by
  cases k <;> cases policy <;> first | rfl | exact absurd rfl h

end MergePolicy

end Clearinghouse
