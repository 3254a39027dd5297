import ImageBuild.Change.Record
import ImageBuild.LineDiff
import ImageBuild.Text.Cut
import ImageBuild.Yaml.Printer

/-!
# Changes in a build log

A build log starts with the reasons of the build. For each change a block
follows, which compares the old and the new value line by line.
-/
namespace ImageBuild.BuildLog

/-- A text stands for itself, null for nothing, and other values for their YAML. -/
def valueText : Json → String
  | .null => ""
  | .str s => s
  | v => Yaml.print v

/-- The mark at the start of a line. -/
def mark : LineDiff.Entry String → String
  | .same _ => "\t  "
  | .removed _ => "\t- "
  | .added _ => "\t+ "

def entryText (e : LineDiff.Entry String) : String := mark e ++ e.line ++ "\n"

/-- The comparison of the two values of a record. -/
def entries (r : ChangeRecord) : List (LineDiff.Entry String) :=
  LineDiff.diff (Text.linesOf (valueText r.old)) (Text.linesOf (valueText r.new))

/-- The block of a record. -/
def block (r : ChangeRecord) : String :=
  r.reason.text ++ ":\n" ++ String.join ((entries r).map entryText)

/-- The header, and a block for each record after an empty line. -/
def render (reasons : String) (records : List ChangeRecord) : String :=
  "Build reason(s): " ++ reasons ++ "\n" ++ String.join (records.map fun r => "\n" ++ block r)

end ImageBuild.BuildLog
