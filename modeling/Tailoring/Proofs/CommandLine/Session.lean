import Tailoring.Markup.Document
import Tailoring.Proofs.CommandLine.Calls

/-!
# Sessions

In a session calls follow one another, each finding what those before it have
left. No call writes where something is, so whatever a call finds stays as it is
to the end of the session.
-/

set_option autoImplicit false

namespace Tailoring.CommandLine

namespace Call

variable {parse : Markup.Parser} {call : Call} {disk : Disk}

theorem Comes.new {outcome : Outcome} (comes : call.Comes parse disk outcome) :
    disk.New outcome.written := by
  cases comes with
  | refused => exact .nil disk
  | unreported => exact .nil disk
  | helped => exact .nil disk
  | stopped => exact .nil disk
  | printed => exact .nil disk
  | saved _ _ _ _ saving => exact saving.new
  | unwritten _ _ _ saving => exact saving.new

theorem Comes.saves {outcome : Outcome} {arguments : Arguments}
    (comes : call.Comes parse disk outcome)
    (parsed : Arguments.parse call.defaults call.words = .ok (.convert arguments))
    (toFiles : arguments.toStdout = false) (success : outcome.exitCode = 0) :
    ∃ products output,
      arguments.products parse disk call.directory = .ok products ∧
      arguments.outputDirectory disk call.directory = .ok output ∧
      disk.isDirectory output = true ∧
      Saves disk output products outcome.written := by
  cases comes with
  | refused => cases success
  | unreported => cases success
  | helped helped => cases helped.symm.trans parsed
  | stopped => cases success
  | printed asks _ toStdout =>
      cases asks.1.symm.trans parsed
      cases toStdout.symm.trans toFiles
  | @saved _ products output _ _ asks made _ place saving =>
      cases asks.1.symm.trans parsed
      obtain ⟨_, _, _, _, _, _, _, -, -, place', present, -⟩ :=
        Arguments.products_eq_ok_iff.mp made
      cases place.symm.trans place'
      refine ⟨products, output, made, place, ?_, saving.saves⟩
      simpa [toFiles] using present
  | unwritten => cases success

end Call

namespace Disk

variable {parse : Markup.Parser} {disk : Disk}

/-- The disk after calls, one after the other. -/
def after (parse : Markup.Parser) (disk : Disk) (calls : List Call) : Disk :=
  calls.foldl (fun disk call => call.leave parse disk) disk

end Disk

end Tailoring.CommandLine
