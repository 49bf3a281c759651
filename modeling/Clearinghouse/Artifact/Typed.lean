import Clearinghouse.Artifact.Basic

/-!
# Asking for values

Every kind of facts has values of its own type, and an artifact is asked for the value of a kind.
Main statement: a fact has a value of a kind if it is of this kind (`isSome_as?_iff`), and then it
is the fact with this value (`as?_eq_some_iff`).
-/

namespace Clearinghouse

/-- The values that facts of a kind hold. -/
def FactKind.Value : FactKind → Type
  | declaredLicense | observedLicense | overriddenLicense | configuredLicense => LicenseTree
  | sourceUrl | releaseTagUrl => String
  | softwareHeritageId => SoftwareHeritageId
  | clearingState => ClearingState
  | changeStatus => ChangeStatus
  | cpe => Cpe
  | filename => FileName
  | sourceFile | clearingDocument => Path
  | copyright => Copyright
  | matchingMetadata => MatchState

namespace Fact

/-- The fact of a kind with a value. -/
def ofValue : (k : FactKind) → k.Value → Fact
  | .declaredLicense => declaredLicense
  | .observedLicense => observedLicense
  | .overriddenLicense => overriddenLicense
  | .configuredLicense => configuredLicense
  | .sourceUrl => sourceUrl
  | .releaseTagUrl => releaseTagUrl
  | .softwareHeritageId => softwareHeritageId
  | .clearingState => clearingState
  | .changeStatus => changeStatus
  | .cpe => cpe
  | .filename => filename
  | .sourceFile => sourceFile
  | .copyright => copyright
  | .matchingMetadata => matchingMetadata
  | .clearingDocument => clearingDocument

/-- The value of the fact, if the fact is of the kind. -/
def as? : (k : FactKind) → Fact → Option k.Value
  | .declaredLicense, declaredLicense t => some t
  | .observedLicense, observedLicense t => some t
  | .overriddenLicense, overriddenLicense t => some t
  | .configuredLicense, configuredLicense t => some t
  | .sourceUrl, sourceUrl url => some url
  | .releaseTagUrl, releaseTagUrl url => some url
  | .softwareHeritageId, softwareHeritageId id => some id
  | .clearingState, clearingState state => some state
  | .changeStatus, changeStatus status => some status
  | .cpe, cpe name => some name
  | .filename, filename file => some file
  | .sourceFile, sourceFile path => some path
  | .copyright, copyright statement => some statement
  | .matchingMetadata, matchingMetadata state => some state
  | .clearingDocument, clearingDocument path => some path
  | _, _ => none

theorem as?_ofValue (k : FactKind) (v : k.Value) : (ofValue k v).as? k = some v := by
  cases k <;> rfl

/-- A fact of a kind is the fact with some value. -/
theorem exists_ofValue {f : Fact} {k : FactKind} (h : f.kind = k) : ∃ v, f = ofValue k v := by
  subst h
  cases f <;> exact ⟨_, rfl⟩

theorem as?_of_kind_ne {f : Fact} {k : FactKind} (h : f.kind ≠ k) : f.as? k = none := by
  cases k <;> cases f <;> first | rfl | exact absurd rfl h

/-- A fact has a value of a kind if it is of this kind. -/
theorem isSome_as?_iff {f : Fact} {k : FactKind} : (f.as? k).isSome ↔ f.kind = k := by
  by_cases h : f.kind = k
  · obtain ⟨v, rfl⟩ := exists_ofValue h
    simp [as?_ofValue, h]
  · simp [as?_of_kind_ne h, h]

/-- The value of a fact makes the fact again. -/
theorem as?_eq_some_iff {f : Fact} {k : FactKind} {v : k.Value} :
    f.as? k = some v ↔ f = ofValue k v := by
  constructor
  · intro h
    obtain ⟨w, rfl⟩ := exists_ofValue (isSome_as?_iff.1 (Option.isSome_of_eq_some h))
    rw [as?_ofValue, Option.some.injEq] at h
    rw [h]
  · rintro rfl
    exact as?_ofValue k v

theorem filename?_eq_as? (f : Fact) : f.filename? = f.as? .filename := by cases f <;> rfl

theorem clearingState?_eq_as? (f : Fact) : f.clearingState? = f.as? .clearingState := by
  cases f <;> rfl

end Fact

namespace Artifact

/-- The value of a kind, or the first one if there are several. -/
def ask? (a : Artifact) (k : FactKind) : Option k.Value := (a.fact? k).bind (Fact.as? k)

/-- The values of a kind. -/
def askAll (a : Artifact) (k : FactKind) : List k.Value := (a.factsOf k).filterMap (Fact.as? k)

end Artifact

end Clearinghouse
