import Clearinghouse.Config.Basic
import Clearinghouse.Error
import Clearinghouse.Text.Quoted

/-!
# Table formats

What has to be known to read or write a table of artifacts.
-/

namespace Clearinghouse

open Text

structure TableFormat where
  delimiter : UInt8
  /-- Where relative file names are looked up, if not beside the table. -/
  baseDir : Option Path
  /-- Refuse rows of an ecosystem that is not known by name. -/
  strictTypes : Bool
  policy : MergePolicy
  deriving DecidableEq, Repr, Inhabited

namespace TableFormat

def standard : TableFormat := ⟨',' |>.toNat.toUInt8, none, false, .overwrite⟩

/-- The format that a configuration asks for; its delimiter has to be a single byte. -/
def ofConfig (c : Config) : Except Error TableFormat :=
  if c.table.delimiter.toNat < 256 then
    .ok ⟨c.table.delimiter.toNat.toUInt8, c.table.baseDir, c.merge.strictTypes, c.merge.policy⟩
  else .error (.config s!"CSV delimiter {quoteChar c.table.delimiter} is not a single byte")

end TableFormat

end Clearinghouse
