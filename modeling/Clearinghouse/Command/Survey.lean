import Clearinghouse.Command.Ending

/-!
# The paths that a run asks about

They become known in three rounds: the files that may configure the run, then the inputs and the
directory that a configuration names, then the files that are named in the inputs.
-/

namespace Clearinghouse

/-- The paths in the rows of a table, with relative ones seen from `baseDir`. -/
def Table.mentioned (baseDir : Path) : List RawRecord → List Path
  | [] => []
  | header :: raws =>
    match decodeRecord 0 header with
    | .error _ => []
    | .ok header =>
      raws.flatMap fun raw =>
        match decodeRecord 0 raw with
        | .error _ => []
        | .ok cells =>
          let row : Row := ⟨header, cells, 0⟩
          [Column.clearingDocument, Column.fileName].flatMap fun c =>
            (row.get? c).toList.map fun text => baseDir.join ⟨text⟩

namespace Invocation

def inputs (i : Invocation) : List Path :=
  match i.command with
  | .merge inputs _ => inputs
  | .check inputs _ _ => inputs
  | _ => []

/-- The configuration files that are looked for. -/
def configPlaces (s : Surroundings) (i : Invocation) : List Path := Config.places s i.config

/-- The inputs, and the directory that the configuration names. -/
def inputPlaces (s : Surroundings) (i : Invocation) : List Path :=
  let baseDir := (Ending.chosenConfig s i).toOption.bind (·.table.baseDir)
  baseDir.toList ++ i.inputs

/-- The files that are named in an input. -/
def placesIn (s : Surroundings) (f : TableFormat) (p : Path) : List Path :=
  let bytes := (s.read p).toOption.getD []
  Table.mentioned (f.baseDir.getD (TableFormat.directoryOf s p)) (Table.scan f.delimiter bytes)

/-- The files that are named in the inputs. -/
def mentionedPlaces (s : Surroundings) (i : Invocation) : List Path :=
  match (Ending.chosenConfig s i).toOption.bind fun c => (TableFormat.ofConfig c).toOption with
  | none => []
  | some f => i.inputs.flatMap (placesIn s f)

/-- The rounds of questions; what a round asks may depend on the answers to those before. -/
def rounds : List (Surroundings → Invocation → List Path) :=
  [configPlaces, inputPlaces, mentionedPlaces]

end Invocation

end Clearinghouse
