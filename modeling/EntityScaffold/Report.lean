import EntityScaffold.Generator

/-!
What a command tells its user, item by item, and how a terminal shows it.
-/

namespace EntityScaffold

inductive ReportItem where
  | heading (name : String)
  | keyValue (key value : String)
  | added (text : String)
  | updated (text : String)
  | skipped (text : String)
  | warning (text : String)
  | divider (label : String)
  | preformatted (text : String)
  | newline
  deriving DecidableEq, Repr

namespace ReportItem

/-- The item as a terminal shows it among the results; warnings go elsewhere. -/
def shown : ReportItem → String
  | .heading name => name ++ ":\n"
  | .keyValue key value => key ++ ": " ++ value ++ "\n"
  | .added text => "  + " ++ text ++ "\n"
  | .updated text => "  ~ " ++ text ++ "\n"
  | .skipped text => "  = " ++ text ++ "\n"
  | .warning _ => ""
  | .divider label => "── " ++ label ++ " ──\n"
  | .preformatted text => text ++ "\n"
  | .newline => "\n"

/-- What a terminal shows of the item as a warning. -/
def warned : ReportItem → String
  | .warning text => "warning: " ++ text ++ "\n"
  | _ => ""

end ReportItem

/-- A file that was written, or kept because it existed. -/
def WrittenFile.item (file : WrittenFile) : ReportItem :=
  match file.outcome with
  | .created => .added file.path.text
  | .overwritten => .updated file.path.text
  | .skipped => .skipped (file.path.text ++ " (exists)")

/-- The files that a command made or would make. -/
inductive Generation where
  | written (files : List WrittenFile)
  | previewed (files : List Preview)
  deriving DecidableEq, Repr

structure GenerationReport where
  subject : String
  /-- The declarations of the fields, if the subject has fields. -/
  fields : Option (List String)
  warnings : List String
  result : Generation
  deriving DecidableEq, Repr

namespace GenerationReport

def title (report : GenerationReport) : String :=
  match report.fields with
  | none => report.subject
  | some [] => report.subject ++ " with no fields"
  | some fields => report.subject ++ " with fields " ++ ", ".intercalate fields

/-- The report's items: warnings, the subject, then the files. -/
def items (report : GenerationReport) : List ReportItem :=
  report.warnings.map .warning ++ [.preformatted report.title] ++
    match report.result with
    | .written files => files.map WrittenFile.item
    | .previewed files =>
      [.newline] ++
        (files.flatMap fun file => [.divider file.path.text, .preformatted file.content]) ++
        [.divider "Summary",
          .preformatted (toString files.length ++ " files would be generated")]

end GenerationReport

structure SetupReport where
  root : Path
  files : List WrittenFile
  deriving DecidableEq, Repr

/-- The report's items: the root, then the files. -/
def SetupReport.items (report : SetupReport) : List ReportItem :=
  [.keyValue "Initialized modelforge in" report.root.text, .heading "Files"] ++
    report.files.map WrittenFile.item

end EntityScaffold
