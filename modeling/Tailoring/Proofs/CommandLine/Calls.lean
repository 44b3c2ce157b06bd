import Tailoring.Proofs.CommandLine.Saving
import Tailoring.Proofs.Outcome

/-!
# Calls of the program

A call makes all its products before it prints or saves the first of them. Whether
it can make them, and what they are, is a matter of the disk and the arguments
alone; where they go comes afterwards.
-/

set_option autoImplicit false

namespace Tailoring.CommandLine

/-! ## Making the products -/

theorem resolveNewline_eq_ok_iff {style newline : Text} :
    resolveNewline style = .ok newline ↔ newlineOf? style = some newline := by
  unfold resolveNewline
  cases newlineOf? style with
  | none => simp
  | some found => simp

/-- The products that are asked for, or why they cannot be made. -/
def Arguments.products (parse : Markup.Parser) (disk : Disk) (directory : Path)
    (arguments : Arguments) : Except Stop (List Product) := do
  let job ← Job.prepare disk directory arguments
  job.products parse

namespace Job

section Preparation

variable {disk : Disk} {directory : Path} {arguments : Arguments}

theorem prepare_of_astray {stop : Stop} (astray : arguments.input disk directory = .error stop) :
    prepare disk directory arguments = .error stop := by
  rw [prepare, astray]
  rfl

theorem prepare_of_missing {input : Path} (located : arguments.input disk directory = .ok input)
    (missing : disk.read? input = none) :
    prepare disk directory arguments = .error (.fileMissing input) := by
  rw [prepare, located]
  simp only [bind, Except.bind, missing]
  rfl

theorem prepare_of_read {input : Path} {source : Bytes}
    (located : arguments.input disk directory = .ok input)
    (read : disk.read? input = some source) :
    prepare disk directory arguments = do
      let output ← arguments.outputDirectory disk directory
      if !arguments.toStdout && !disk.isDirectory output then .error (.directoryMissing output)
      else do
        let formats ← parseFormats arguments.formats
        let newline ← resolveNewline arguments.newline
        return {
          input := input
          source := source
          outputDirectory := output
          collationType := arguments.collationType
          formats := formats
          newline := newline } := by
  rw [prepare, located]
  simp only [bind, Except.bind, read]
  rfl

theorem prepare_eq_ok_iff {job : Job} :
    prepare disk directory arguments = .ok job ↔
      ∃ input source output formats newline,
        arguments.input disk directory = .ok input ∧
        disk.read? input = some source ∧
        arguments.outputDirectory disk directory = .ok output ∧
        (arguments.toStdout = true ∨ disk.isDirectory output = true) ∧
        parseFormats arguments.formats = .ok formats ∧
        newlineOf? arguments.newline = some newline ∧
        { input := input
          source := source
          outputDirectory := output
          collationType := arguments.collationType
          formats := formats
          newline := newline } = job := by
  cases located : arguments.input disk directory with
  | error stop => simp [prepare_of_astray located]
  | ok input =>
      cases read : disk.read? input with
      | none => simp [prepare_of_missing located read, read]
      | some source =>
          rw [prepare_of_read located read, Outcome.bind_eq_ok_iff]
          constructor
          · intro prepared
            obtain ⟨output, place, prepared⟩ := prepared
            split at prepared
            · cases prepared
            · next present =>
                have either : arguments.toStdout = true ∨ disk.isDirectory output = true := by
                  simpa [or_iff_not_imp_left] using present
                obtain ⟨formats, known, prepared⟩ := Outcome.bind_eq_ok_iff.mp prepared
                obtain ⟨newline, style, prepared⟩ := Outcome.bind_eq_ok_iff.mp prepared
                exact ⟨input, source, output, formats, newline, rfl, read, place, either, known,
                  resolveNewline_eq_ok_iff.mp style, Outcome.pure_eq_ok_iff.mp prepared⟩
          · intro possible
            obtain ⟨_, _, output, formats, newline, located', read', place, either, known, style,
              rfl⟩ := possible
            cases located'
            cases read.symm.trans read'
            refine ⟨output, place, ?_⟩
            rw [if_neg (by simpa [or_iff_not_imp_left] using either), known,
              resolveNewline_eq_ok_iff.mpr style]
            rfl

/-- Where there is a place for files, it is all the same to be asked for printing. -/
theorem prepare_toStdout {output : Path}
    (place : arguments.outputDirectory disk directory = .ok output)
    (present : disk.isDirectory output = true) :
    prepare disk directory { arguments with toStdout := true } =
      prepare disk directory arguments := by
  have input : ({ arguments with toStdout := true } : Arguments).input disk directory =
      arguments.input disk directory := rfl
  have output : ({ arguments with toStdout := true } : Arguments).outputDirectory disk directory =
      arguments.outputDirectory disk directory := rfl
  cases located : arguments.input disk directory with
  | error stop => rw [prepare_of_astray located, prepare_of_astray (input.trans located)]
  | ok path =>
      cases read : disk.read? path with
      | none =>
          rw [prepare_of_missing located read, prepare_of_missing (input.trans located) read]
      | some source =>
          rw [prepare_of_read located read, prepare_of_read (input.trans located) read, output,
            place]
          simp only [bind, Except.bind, present, Bool.not_true, Bool.and_false]

end Preparation

variable {parse : Markup.Parser}

theorem collation_eq_ok_iff {job : Job} {collation : Collation} :
    job.collation parse = .ok collation ↔
      Ldml.load parse job.collationType job.input.render job.source = .ok collation := by
  unfold Job.collation
  split
  · next loaded => simp [loaded]
  · next fault rejected => simp [rejected]
  · next rejected => simp [rejected]
  · next rejected => simp [rejected]

theorem format_eq_ok_iff {job : Job} {collation : Collation} {format : Format}
    {products : List Product} :
    job.format collation format = .ok products ↔
      format.products job.newline collation = .ok products := by
  unfold Job.format
  cases format.products job.newline collation with
  | error fault => simp
  | ok made => simp

theorem products_eq_ok_iff {job : Job} {products : List Product} :
    job.products parse = .ok products ↔
      ∃ collation parts,
        Ldml.load parse job.collationType job.input.render job.source = .ok collation ∧
        List.Forall₂ (fun format part => format.products job.newline collation = .ok part)
          job.formats parts ∧
        parts.flatten = products := by
  simp only [Job.products, Outcome.bind_eq_ok_iff, Outcome.pure_eq_ok_iff,
    Outcome.mapM_eq_ok_iff, collation_eq_ok_iff, format_eq_ok_iff]
  constructor
  · intro made
    obtain ⟨collation, loaded, parts, formatted, joined⟩ := made
    exact ⟨collation, parts, loaded, formatted, joined⟩
  · intro made
    obtain ⟨collation, parts, loaded, formatted, joined⟩ := made
    exact ⟨collation, loaded, parts, formatted, joined⟩

end Job

section Conversion

variable {parse : Markup.Parser} {disk : Disk} {directory : Path} {arguments : Arguments}
  {products : List Product}

/-- Products can be made exactly if the document can be read, there is a place for
them, what is asked for is known, and the collation of the document has rules in
every format. -/
theorem Arguments.products_eq_ok_iff :
    arguments.products parse disk directory = .ok products ↔
      ∃ input source output formats newline collation parts,
        arguments.input disk directory = .ok input ∧
        disk.read? input = some source ∧
        arguments.outputDirectory disk directory = .ok output ∧
        (arguments.toStdout = true ∨ disk.isDirectory output = true) ∧
        parseFormats arguments.formats = .ok formats ∧
        newlineOf? arguments.newline = some newline ∧
        Ldml.load parse arguments.collationType input.render source = .ok collation ∧
        List.Forall₂ (fun format part => format.products newline collation = .ok part)
          formats parts ∧
        parts.flatten = products := by
  rw [Arguments.products, Outcome.bind_eq_ok_iff]
  constructor
  · intro made
    obtain ⟨job, prepared, made⟩ := made
    obtain ⟨input, source, output, formats, newline, located, read, place, present, known, style,
      rfl⟩ := Job.prepare_eq_ok_iff.mp prepared
    obtain ⟨collation, parts, loaded, formatted, joined⟩ := Job.products_eq_ok_iff.mp made
    exact ⟨input, source, output, formats, newline, collation, parts, located, read, place, present,
      known, style, loaded, formatted, joined⟩
  · intro possible
    obtain ⟨input, source, output, formats, newline, collation, parts, located, read, place,
      present, known, style, loaded, formatted, joined⟩ := possible
    refine ⟨_, Job.prepare_eq_ok_iff.mpr ⟨input, source, output, formats, newline, located, read,
      place, present, known, style, rfl⟩, ?_⟩
    exact Job.products_eq_ok_iff.mpr ⟨collation, parts, loaded, formatted, joined⟩

/-! ## What becomes of the products -/

/-- Products as they are printed. -/
def printed (products : List Product) : Text :=
  products.flatMap fun product => product.content ++ [lineFeed]

theorem convert_of_stop {stop : Stop}
    (stopped : arguments.products parse disk directory = .error stop) :
    ∃ messages, convert parse disk directory arguments =
      { exitCode := 1, messages, breakdown := stop.breakdown? } := by
  rw [Arguments.products, Outcome.bind_eq_error_iff] at stopped
  unfold convert
  rcases stopped with unprepared | ⟨job, prepared, unmade⟩
  · rw [unprepared]
    exact ⟨_, rfl⟩
  · rw [prepared]
    simp only [unmade]
    exact ⟨_, rfl⟩

theorem convert_of_printing (made : arguments.products parse disk directory = .ok products)
    (toStdout : arguments.toStdout = true) :
    ∃ messages, convert parse disk directory arguments =
      { exitCode := 0, output := printed products, messages } := by
  rw [Arguments.products, Outcome.bind_eq_ok_iff] at made
  obtain ⟨job, prepared, made⟩ := made
  unfold convert
  rw [prepared]
  simp only [made, if_pos toStdout]
  exact ⟨_, rfl⟩

/-- Saving goes well, or breaks off at a product that cannot be written. -/
theorem convert_of_saving (made : arguments.products parse disk directory = .ok products)
    (toFiles : arguments.toStdout = false) :
    ∃ output, arguments.outputDirectory disk directory = .ok output ∧
      ((∃ files messages, Saving output disk products files ∧
          convert parse disk directory arguments = { exitCode := 0, messages, written := files }) ∨
        ∃ begun files path messages, Saving output disk begun files ∧
          Unwritable disk path products ∧
          convert parse disk directory arguments =
            { exitCode := 1, messages, written := files, unwritten := some path }) := by
  rw [Arguments.products, Outcome.bind_eq_ok_iff] at made
  obtain ⟨job, prepared, made⟩ := made
  unfold convert
  rw [prepared]
  simp only [made, toFiles]
  obtain ⟨input, source, output, formats, newline, -, -, place, -, -, -, rfl⟩ :=
    Job.prepare_eq_ok_iff.mp prepared
  refine ⟨output, place, ?_⟩
  obtain ⟨begun, saving, complete⟩ :=
    Job.save_saving output (Path.stemOf input.name) disk products
  cases ended : (Job.save output (Path.stemOf input.name) disk products).2 with
  | none =>
      obtain rfl := complete ended
      exact .inl ⟨_, _, saving, rfl⟩
  | some path =>
      exact .inr ⟨begun, _, path, _, saving, Job.unwritable_of_save ended, rfl⟩

end Conversion

/-- One call of the program: what holds where its words say nothing, the working
directory, and the words. -/
structure Call where
  defaults : Defaults
  directory : Path
  words : List Text

namespace Call

/-- What a call comes to. -/
def result (parse : Markup.Parser) (call : Call) (disk : Disk) : Outcome :=
  run parse call.defaults disk call.directory call.words

/-- The disk after a call. -/
def leave (parse : Markup.Parser) (call : Call) (disk : Disk) : Disk :=
  disk.writeAll (call.result parse disk).written

/-- The call is to convert a collation as the arguments say. -/
def Asks (call : Call) (arguments : Arguments) : Prop :=
  Arguments.parse call.defaults call.words = .ok (.convert arguments) ∧
    LevelFault.ofLevel? arguments.logLevel = none

/-- All that a call can come to. -/
inductive Comes (parse : Markup.Parser) (call : Call) (disk : Disk) : Outcome → Prop where
  | refused {refusal messages} :
      Arguments.parse call.defaults call.words = .error refusal →
      Comes parse call disk { exitCode := 2, messages }
  | unreported {arguments fault messages breakdown} :
      Arguments.parse call.defaults call.words = .ok (.convert arguments) →
      LevelFault.ofLevel? arguments.logLevel = some fault →
      Comes parse call disk { exitCode := 1, messages, breakdown }
  | helped :
      Arguments.parse call.defaults call.words = .ok .help →
      Comes parse call disk { exitCode := 0, output := usage }
  | stopped {arguments stop messages breakdown} :
      call.Asks arguments → arguments.products parse disk call.directory = .error stop →
      Comes parse call disk { exitCode := 1, messages, breakdown }
  | printed {arguments products messages} :
      call.Asks arguments → arguments.products parse disk call.directory = .ok products →
      arguments.toStdout = true →
      Comes parse call disk { exitCode := 0, output := CommandLine.printed products, messages }
  | saved {arguments products output files messages} :
      call.Asks arguments → arguments.products parse disk call.directory = .ok products →
      arguments.toStdout = false → arguments.outputDirectory disk call.directory = .ok output →
      Saving output disk products files →
      Comes parse call disk { exitCode := 0, messages, written := files }
  | unwritten {arguments products output begun files path messages} :
      call.Asks arguments → arguments.products parse disk call.directory = .ok products →
      arguments.toStdout = false → Saving output disk begun files →
      Unwritable disk path products →
      Comes parse call disk { exitCode := 1, messages, written := files, unwritten := some path }

variable {parse : Markup.Parser} {call : Call} {arguments : Arguments}

theorem result_of_refusal {refusal : Refusal}
    (refused : Arguments.parse call.defaults call.words = .error refusal) (disk : Disk) :
    call.result parse disk = .refused refusal := by
  simp [result, run, refused]

theorem result_of_level {fault : LevelFault}
    (parsed : Arguments.parse call.defaults call.words = .ok (.convert arguments))
    (level : LevelFault.ofLevel? arguments.logLevel = some fault) (disk : Disk) :
    call.result parse disk = .stopped false [] (.broken (.level fault)) := by
  simp [result, run, parsed, level]

theorem result_of_asks (asks : call.Asks arguments) (disk : Disk) :
    call.result parse disk = convert parse disk call.directory arguments := by
  simp [result, run, asks.1, asks.2]

theorem comes_of_asks (asks : call.Asks arguments) (disk : Disk) :
    call.Comes parse disk (call.result parse disk) := by
  rw [result_of_asks asks]
  cases made : arguments.products parse disk call.directory with
  | error stop =>
      obtain ⟨messages, converted⟩ := convert_of_stop made
      rw [converted]
      exact .stopped asks made
  | ok products =>
      cases mode : arguments.toStdout with
      | true =>
          obtain ⟨messages, converted⟩ := convert_of_printing made mode
          rw [converted]
          exact .printed asks made mode
      | false =>
          obtain ⟨output, place, ends⟩ := convert_of_saving made mode
          rcases ends with ⟨files, messages, saving, converted⟩ |
            ⟨begun, files, path, messages, saving, reason, converted⟩
          · rw [converted]
            exact .saved asks made mode place saving
          · rw [converted]
            exact .unwritten asks made mode saving reason

theorem comes_result (parse : Markup.Parser) (call : Call) (disk : Disk) :
    call.Comes parse disk (call.result parse disk) := by
  cases parsed : Arguments.parse call.defaults call.words with
  | error refusal =>
      rw [result_of_refusal parsed]
      exact .refused parsed
  | ok request =>
      cases request with
      | help =>
          have helped : call.result parse disk = { exitCode := 0, output := usage } := by
            simp [result, run, parsed]
          rw [helped]
          exact .helped parsed
      | convert arguments =>
          cases level : LevelFault.ofLevel? arguments.logLevel with
          | none => exact comes_of_asks ⟨parsed, level⟩ disk
          | some fault =>
              rw [result_of_level parsed level]
              exact .unreported parsed level

end Call

end Tailoring.CommandLine
