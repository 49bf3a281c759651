import Clearinghouse.Error
import Clearinghouse.Text.Blank
import Clearinghouse.Text.Case

/-!
# Clearing state, change status and match state

Three closed lists of names. The clearing states are ordered by how far the clearing of an
artifact has come. Names are read whatever their letter case and the blanks around them.
-/

namespace Clearinghouse

/-- The name `s`, as it is compared with names in upper case. -/
def canonicalName (s : String) : String := Text.upper (Text.trim s)

/-! ## Clearing state -/

inductive ClearingState
  | initial
  | workInProgress
  | externalSource
  | autoExtract
  | projectApproved
  | osmApproved
  deriving DecidableEq, Repr, Inhabited

namespace ClearingState

def all : List ClearingState :=
  [initial, workInProgress, externalSource, autoExtract, projectApproved, osmApproved]

/-- How far the clearing has come. -/
def rank : ClearingState → Nat
  | initial => 0
  | workInProgress => 1
  | externalSource => 2
  | autoExtract => 3
  | projectApproved => 4
  | osmApproved => 5

instance : LE ClearingState := ⟨fun s t => s.rank ≤ t.rank⟩

instance : LT ClearingState := ⟨fun s t => s.rank < t.rank⟩

instance (s t : ClearingState) : Decidable (s ≤ t) := Nat.decLe s.rank t.rank

instance (s t : ClearingState) : Decidable (s < t) := Nat.decLt s.rank t.rank

theorem rank_injective {s t : ClearingState} (h : s.rank = t.rank) : s = t := by
  cases s <;> cases t <;> first | rfl | cases h

def name : ClearingState → String
  | initial => "INITIAL"
  | workInProgress => "WORK_IN_PROGRESS"
  | externalSource => "EXTERNAL_SOURCE"
  | autoExtract => "AUTO_EXTRACT"
  | projectApproved => "PROJECT_APPROVED"
  | osmApproved => "OSM_APPROVED"

instance : ToString ClearingState := ⟨name⟩

/-- The state with exactly this name. -/
def ofName? (s : String) : Option ClearingState := all.find? (·.name == s)

theorem ofName?_name (s : ClearingState) : ofName? s.name = some s := by cases s <;> decide +kernel

def parse (s : String) : Except Error ClearingState :=
  match ofName? (canonicalName s) with
  | some state => .ok state
  | none => .error (.badValue "clearing state" s)

end ClearingState

/-! ## Change status -/

inductive ChangeStatus
  | asIs
  | changed
  deriving DecidableEq, Repr, Inhabited

namespace ChangeStatus

def all : List ChangeStatus := [asIs, changed]

def name : ChangeStatus → String
  | asIs => "AS_IS"
  | changed => "CHANGED"

instance : ToString ChangeStatus := ⟨name⟩

def ofName? (s : String) : Option ChangeStatus := all.find? (·.name == s)

theorem ofName?_name (s : ChangeStatus) : ofName? s.name = some s := by cases s <;> decide +kernel

def parse (s : String) : Except Error ChangeStatus :=
  match ofName? (canonicalName s) with
  | some status => .ok status
  | none => .error (.badValue "change status" s)

end ChangeStatus

/-! ## Match state -/

/-- How certain it is that the data at hand are about the artifact. -/
inductive MatchState
  | exact
  | similar
  | unknown
  deriving DecidableEq, Repr, Inhabited

namespace MatchState

def all : List MatchState := [exact, similar, unknown]

def name : MatchState → String
  | exact => "EXACT"
  | similar => "SIMILAR"
  | unknown => "UNKNOWN"

instance : ToString MatchState := ⟨name⟩

def ofName? (s : String) : Option MatchState := all.find? (·.name == s)

end MatchState

end Clearinghouse
