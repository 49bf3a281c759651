import Clearinghouse.Text.Blank
import Clearinghouse.Text.Case

/-!
# Package types

The package ecosystems that are known by name, their aliases, and reading one from text. Main
statement: a type is read back from its own name (`ofText?_name`).
-/

namespace Clearinghouse

inductive PackageType
  | maven
  | npm
  | nuget
  | p2
  | pypi
  | golang
  | cargo
  | gem
  | github
  | generic
  deriving DecidableEq, Repr, Inhabited

namespace PackageType

/-- Every package type. -/
def all : List PackageType :=
  [maven, npm, nuget, p2, pypi, golang, cargo, gem, github, generic]

theorem mem_all (t : PackageType) : t ∈ all := by cases t <;> decide

/-- The type of a package URL of this ecosystem. -/
def name : PackageType → String
  | maven => "maven"
  | npm => "npm"
  | nuget => "nuget"
  | p2 => "p2"
  | pypi => "pypi"
  | golang => "golang"
  | cargo => "cargo"
  | gem => "gem"
  | github => "github"
  | generic => "generic"

/-- Other names of the ecosystem, in lower case. -/
def aliases : PackageType → List String
  | maven => ["mvn"]
  | npm => ["javascript"]
  | nuget => ["dotnet"]
  | p2 => ["bundle"]
  | pypi => ["python"]
  | golang => ["go"]
  | cargo | gem | github | generic => []

/-- Whether the lower case text `s` names the ecosystem. -/
def isNamed (s : String) (t : PackageType) : Bool := s == t.name || t.aliases.contains s

/-- The ecosystem that `s` names, whatever the letter case and the blanks around it. -/
def ofText? (s : String) : Option PackageType := all.find? (isNamed (Text.lower (Text.trim s)))

theorem ofText?_name (t : PackageType) : ofText? t.name = some t := by
  cases t <;> decide +kernel

end PackageType

end Clearinghouse
