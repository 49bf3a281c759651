import Clearinghouse.Coordinate.PackageType
import Clearinghouse.Error
import Clearinghouse.PackageUrl

/-!
# Coordinates

A coordinate is the identity of a package: ecosystem, namespace, name and version. Of an
ecosystem without a name here the spelling is kept, and its letters identify the coordinate
whatever their case. Main statement: two coordinates are `==` if they agree in what identifies
them (`beq_iff_key_eq`), so `==` is an equivalence.
-/

namespace Clearinghouse

open Text

structure Coordinate where
  packageType : PackageType
  /-- The spelling of an ecosystem that is not known by name. -/
  rawType : Option String
  /-- The namespace; empty when there is none. -/
  ns : String
  name : String
  version : String
  deriving Repr, Inhabited

namespace Coordinate

/-! ## Identity -/

/-- What identifies a coordinate: all fields, the spelling of the type in lower case. -/
def key (c : Coordinate) : PackageType × Option String × String × String × String :=
  (c.packageType, c.rawType.map lowerAscii, c.ns, c.name, c.version)

instance : BEq Coordinate := ⟨fun c d => decide (c.key = d.key)⟩

theorem beq_iff_key_eq {c d : Coordinate} : (c == d) = true ↔ c.key = d.key :=
  decide_eq_true_iff

instance : EquivBEq Coordinate where
  rfl := beq_iff_key_eq.2 rfl
  symm h := beq_iff_key_eq.2 (beq_iff_key_eq.1 h).symm
  trans h k := beq_iff_key_eq.2 ((beq_iff_key_eq.1 h).trans (beq_iff_key_eq.1 k))

/-! ## Making one -/

/-- A coordinate of a known ecosystem. -/
def ofKnown (t : PackageType) (ns name version : String) : Coordinate :=
  ⟨t, none, ns, name, version⟩

/-- A coordinate of the ecosystem that `type` names; any other text is kept as the spelling of
a generic type, unless it is blank. -/
def of (type ns name version : String) : Coordinate :=
  match PackageType.ofText? type with
  | some t => ofKnown t ns name version
  | none => ⟨.generic, trimmed? type, ns, name, version⟩

/-- A coordinate of the ecosystem that `type` names. -/
def ofStrict (type ns name version : String) : Except Error Coordinate :=
  match PackageType.ofText? type with
  | some t => .ok (ofKnown t ns name version)
  | none => .error (.parse "coordinate type" (.packageType type))

/-! ## Text form -/

/-- The ecosystem as it is printed. -/
def type (c : Coordinate) : String := c.rawType.getD c.packageType.name

/-- The coordinate as a package URL. Nothing is encoded. -/
def toPurl (c : Coordinate) : String :=
  let ns := if c.ns.isEmpty then "" else c.ns ++ "/"
  let version := if c.version.isEmpty then "" else "@" ++ c.version
  s!"pkg:{c.type}/" ++ ns ++ c.name ++ version

instance : ToString Coordinate := ⟨toPurl⟩

/-- The identity that a package URL gives. -/
def ofPurl (p : PackageUrl) : Coordinate :=
  of p.type (p.ns?.getD "") p.name (p.version?.getD "")

/-- The package URL that `s` writes, in full or in the short form `type:rest`. -/
def purlText? (s : String) : Option String :=
  let cs := trimChars s.toList
  if (stripStart? ['p', 'k', 'g', ':'] cs).isSome then some (.ofList cs)
  else (cutFirst? (· == ':') cs).map fun (type, rest) =>
    "pkg:" ++ .ofList type ++ "/" ++ .ofList rest

/-- Read `pkg:type/namespace/name@version` or `type:namespace/name@version`. -/
def parse (s : String) : Except Error Coordinate :=
  match purlText? s with
  | none =>
    .error (.parse "coordinate" (.coordinate s "expected 'pkg:' prefix or 'type:' prefix"))
  | some purl =>
    match PackageUrl.parse purl with
    | .ok p => .ok (ofPurl p)
    | .error fault => .error (.parse "coordinate" (.coordinate s fault.message))

/-- Add `c` at the end, unless it is there already. -/
def insert (c : Coordinate) (cs : List Coordinate) : List Coordinate :=
  if cs.contains c then cs else cs ++ [c]

/-- The first appearances, in order. -/
def distinct (cs : List Coordinate) : List Coordinate := cs.foldl (fun seen c => insert c seen) []

end Coordinate

end Clearinghouse
