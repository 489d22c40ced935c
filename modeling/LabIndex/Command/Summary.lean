import LabIndex.Command.Amount
import LabIndex.Indexing.Report
import LabIndex.Json.Printer

/-!
# Reports for people and programs

What is printed about runs: a line for each and a warning where the reading stopped, or all
reports as one JSON list.
-/

namespace LabIndex.Command

/-- What a command prints: on its standard output, and as warnings on the other. -/
structure Output where
  stdout : String
  stderr : String
deriving DecidableEq, Repr, Inhabited

namespace Output

/-- Nothing is printed. -/
def none : Output := ⟨"", ""⟩

/-- A line of output. -/
def line (s : String) : Output := ⟨s ++ "\n", ""⟩

/-- A warning. -/
def warning (s : String) : Output := ⟨"", "Warning: " ++ s ++ "\n"⟩

/-- One output after another. -/
def append (a b : Output) : Output := ⟨a.stdout ++ b.stdout, a.stderr ++ b.stderr⟩

/-- Outputs one after another. -/
def concat (outputs : List Output) : Output := outputs.foldl append none

end Output

/-- How results are printed. -/
inductive Format where
  | human
  | json
deriving DecidableEq, Repr, Inhabited

/-- A text with blanks behind it up to a width. -/
def padRight (width : Nat) (s : String) : String :=
  s ++ String.ofList (List.replicate (width - s.length) ' ')

/-- A report, and the time that its run took in milliseconds if a clock was read. -/
structure TimedReport where
  report : Report
  durationMs : Option Nat
deriving DecidableEq, Repr

namespace TimedReport

/-- A report in one line. -/
def line (t : TimedReport) : String :=
  let r := t.report
  padRight 9 r.kind.label ++ " " ++ toString r.total ++ " read, " ++ toString r.committed ++
    " committed in " ++ toString r.batches.length ++ " batch(es), " ++
    toString r.failedIds.length ++ " failed (" ++ (t.durationMs.map durationText).getD "" ++
    ") [" ++ (if r.isComplete then "ok" else "incomplete") ++ "]"

/-- A report for people. -/
def output (t : TimedReport) : Output :=
  match t.report.cursorError with
  | some f =>
    (Output.line t.line).append
      (.warning (t.report.kind.label ++ " read stopped early: " ++ f.message))
  | none => .line t.line

/-- A report for programs; a time that was not taken counts as none at all. -/
def toJson (t : TimedReport) : Json := t.report.toJson (t.durationMs.getD 0)

end TimedReport

/-- Reports in a format. -/
def reportsOutput (format : Format) (reports : List TimedReport) : Output :=
  match format with
  | .human => Output.concat (reports.map TimedReport.output)
  | .json => .line (Json.arr (reports.map TimedReport.toJson)).pretty

end LabIndex.Command
