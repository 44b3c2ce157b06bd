import Tailoring.Markup.Document
import Tailoring.Proofs.CommandLine.Calls

/-!
# All or nothing

A call that fails has written no file and printed no result, whatever the obstacle
that it met and however many products it had made by then. A call that succeeds
prints its products or saves them, and makes the same ones for either.
-/

set_option autoImplicit false

namespace Tailoring.CommandLine

/-! ## Obstacles -/

/-- The keys of the formats that are asked for. -/
def formatKeys (keys : Text) : List Text :=
  ((Text.splitOn ',' keys).map Text.trim).filter (· ≠ [])

theorem parseFormats_eq_ok_iff {keys : Text} {formats : List Format} :
    parseFormats keys = .ok formats ↔
      formatKeys keys ≠ [] ∧
        List.Forall₂ (fun key format => Format.ofKey? key = some format) (formatKeys keys)
          formats := by
  unfold parseFormats
  simp only [← formatKeys.eq_1]
  split
  · next none => simp [none]
  · next some =>
      rw [Outcome.mapM_eq_ok_iff, and_iff_right some]
      constructor
      · intro read
        refine read.imp fun key format found => ?_
        split at found
        · next known =>
            cases found
            exact known
        · cases found
      · intro read
        refine read.imp fun key format found => ?_
        simp only [found]

/-- What keeps a conversion from its products. -/
inductive Obstacle (parse : Markup.Parser) (disk : Disk) (directory : Path)
    (arguments : Arguments) : Prop where
  | inputAstray {stop} :
      arguments.input disk directory = .error stop → Obstacle parse disk directory arguments
  | fileMissing {input} :
      arguments.input disk directory = .ok input → disk.read? input = none →
      Obstacle parse disk directory arguments
  | outputAstray {stop} :
      arguments.outputDirectory disk directory = .error stop →
      Obstacle parse disk directory arguments
  | directoryMissing {output} :
      arguments.toStdout = false → arguments.outputDirectory disk directory = .ok output →
      disk.isDirectory output = false → Obstacle parse disk directory arguments
  | noFormats : formatKeys arguments.formats = [] → Obstacle parse disk directory arguments
  | unknownFormat {key} :
      key ∈ formatKeys arguments.formats → Format.ofKey? key = none →
      Obstacle parse disk directory arguments
  | unknownNewline :
      newlineOf? arguments.newline = none → Obstacle parse disk directory arguments
  /-- The document is not well formed, or has no such collation, or a faulty one. -/
  | document {input source rejection} :
      arguments.input disk directory = .ok input → disk.read? input = some source →
      Ldml.load parse arguments.collationType input.render source = .error rejection →
      Obstacle parse disk directory arguments
  /-- The collation has no rules in one of the formats. -/
  | rules {input source collation newline key format fault} :
      arguments.input disk directory = .ok input → disk.read? input = some source →
      Ldml.load parse arguments.collationType input.render source = .ok collation →
      newlineOf? arguments.newline = some newline →
      key ∈ formatKeys arguments.formats → Format.ofKey? key = some format →
      format.products newline collation = .error fault →
      Obstacle parse disk directory arguments

theorem exists_formats {keys : Text} (asked : formatKeys keys ≠ [])
    (known : ∀ key ∈ formatKeys keys, Format.ofKey? key ≠ none) :
    ∃ formats, parseFormats keys = .ok formats := by
  cases read : parseFormats keys with
  | ok formats => exact ⟨formats, rfl⟩
  | error stop =>
      unfold parseFormats at read
      simp only [← formatKeys.eq_1, if_neg asked] at read
      obtain ⟨key, member, unknown⟩ := Outcome.exists_error_of_mapM read
      split at unknown
      · cases unknown
      · next absent => exact absurd absent (known key member)

section Obstacles

variable {parse : Markup.Parser} {disk : Disk} {directory : Path} {arguments : Arguments}

theorem exists_products (clear : ¬Obstacle parse disk directory arguments) :
    ∃ products, arguments.products parse disk directory = .ok products := by
  obtain ⟨input, located⟩ : ∃ input, arguments.input disk directory = .ok input :=
    Outcome.exists_ok_of_not_error fun _ astray => clear (.inputAstray astray)
  obtain ⟨source, read⟩ : ∃ source, disk.read? input = some source :=
    Option.ne_none_iff_exists'.mp fun missing => clear (.fileMissing located missing)
  obtain ⟨output, place⟩ : ∃ output, arguments.outputDirectory disk directory = .ok output :=
    Outcome.exists_ok_of_not_error fun _ astray => clear (.outputAstray astray)
  have present : arguments.toStdout = true ∨ disk.isDirectory output = true := by
    by_contra neither
    rw [not_or, Bool.not_eq_true, Bool.not_eq_true] at neither
    exact clear (.directoryMissing neither.1 place neither.2)
  obtain ⟨newline, style⟩ : ∃ newline, newlineOf? arguments.newline = some newline :=
    Option.ne_none_iff_exists'.mp fun unknown => clear (.unknownNewline unknown)
  obtain ⟨formats, asked⟩ : ∃ formats, parseFormats arguments.formats = .ok formats :=
    exists_formats (fun none => clear (.noFormats none))
      fun key member unknown => clear (.unknownFormat member unknown)
  obtain ⟨collation, loaded⟩ : ∃ collation,
      Ldml.load parse arguments.collationType input.render source = .ok collation :=
    Outcome.exists_ok_of_not_error fun _ rejected => clear (.document located read rejected)
  cases formatted : formats.mapM (Format.products newline collation) with
  | error fault =>
      obtain ⟨format, listed, faulty⟩ := Outcome.exists_error_of_mapM formatted
      obtain ⟨key, member, found⟩ :=
        Outcome.exists_related (parseFormats_eq_ok_iff.mp asked).2 listed
      exact absurd (.rules located read loaded style member found faulty) clear
  | ok parts =>
      exact ⟨parts.flatten, Arguments.products_eq_ok_iff.mpr ⟨input, source, output, formats,
        newline, collation, parts, located, read, place, present, asked, style, loaded,
        Outcome.mapM_eq_ok_iff.mp formatted, rfl⟩⟩

/-- No product is made if there is an obstacle to one. -/
theorem Obstacle.not_made (obstacle : Obstacle parse disk directory arguments)
    (products : List Product) : arguments.products parse disk directory ≠ .ok products := by
  intro made
  obtain ⟨input, source, output, formats, newline, collation, parts, located, read, place, present,
    asked, style, loaded, formatted, -⟩ := Arguments.products_eq_ok_iff.mp made
  obtain ⟨some, known⟩ := parseFormats_eq_ok_iff.mp asked
  cases obstacle with
  | inputAstray astray => cases located.symm.trans astray
  | fileMissing located' missing =>
      cases located.symm.trans located'
      cases read.symm.trans missing
  | outputAstray astray => cases place.symm.trans astray
  | directoryMissing toFiles place' missing =>
      cases place.symm.trans place'
      simp [toFiles, missing] at present
  | noFormats none => exact some none
  | unknownFormat member unknown =>
      obtain ⟨format, -, found⟩ := Outcome.exists_related_of_mem known member
      simp [unknown] at found
  | unknownNewline unknown => simp [unknown] at style
  | document located' read' rejected =>
      cases located.symm.trans located'
      cases read.symm.trans read'
      cases loaded.symm.trans rejected
  | rules located' read' loaded' style' member found faulty =>
      cases located.symm.trans located'
      cases read.symm.trans read'
      cases loaded.symm.trans loaded'
      cases style.symm.trans style'
      obtain ⟨format, listed, found'⟩ := Outcome.exists_related_of_mem known member
      cases found.symm.trans found'
      obtain ⟨part, -, made'⟩ := Outcome.exists_related_of_mem formatted listed
      cases faulty.symm.trans made'

end Obstacles

/-! ## Calls that fail -/

namespace Call

variable {parse : Markup.Parser} {call : Call} {disk : Disk} {outcome : Outcome}

/-- Why a call fails before it writes anything. -/
inductive Fails (parse : Markup.Parser) (call : Call) (disk : Disk) : Prop where
  | refused {refusal} :
      Arguments.parse call.defaults call.words = .error refusal → Fails parse call disk
  | unreported {arguments fault} :
      Arguments.parse call.defaults call.words = .ok (.convert arguments) →
      LevelFault.ofLevel? arguments.logLevel = some fault → Fails parse call disk
  | obstructed {arguments} :
      call.Asks arguments → Obstacle parse disk call.directory arguments → Fails parse call disk

theorem Comes.fails (comes : call.Comes parse disk outcome) (writable : outcome.unwritten = none)
    (failure : outcome.exitCode ≠ 0) : call.Fails parse disk := by
  cases comes with
  | refused refused => exact .refused refused
  | unreported parsed level => exact .unreported parsed level
  | helped => exact absurd rfl failure
  | stopped asks stopped =>
      refine .obstructed asks ?_
      by_contra clear
      obtain ⟨products, made⟩ := exists_products clear
      cases stopped.symm.trans made
  | printed => exact absurd rfl failure
  | saved => exact absurd rfl failure
  | unwritten => cases writable

theorem Comes.silent (comes : call.Comes parse disk outcome) (writable : outcome.unwritten = none)
    (failure : outcome.exitCode ≠ 0) : outcome.written = [] ∧ outcome.output = [] := by
  cases comes with
  | refused => exact ⟨rfl, rfl⟩
  | unreported => exact ⟨rfl, rfl⟩
  | helped => exact absurd rfl failure
  | stopped => exact ⟨rfl, rfl⟩
  | printed => exact absurd rfl failure
  | saved => exact absurd rfl failure
  | unwritten => cases writable

/-- Only when all products are made can it turn out that one cannot be written. -/
theorem Comes.unwritable (comes : call.Comes parse disk outcome) {path : Path}
    (unwritten : outcome.unwritten = some path) :
    ∃ arguments products, call.Asks arguments ∧ arguments.toStdout = false ∧
      arguments.products parse disk call.directory = .ok products ∧
      Unwritable disk path products := by
  cases comes with
  | refused => cases unwritten
  | unreported => cases unwritten
  | helped => cases unwritten
  | stopped => cases unwritten
  | printed => cases unwritten
  | saved => cases unwritten
  | unwritten asks made toFiles _ reason =>
      cases unwritten
      exact ⟨_, _, asks, toFiles, made, reason⟩

theorem Fails.exitCode_ne_zero (fails : call.Fails parse disk) :
    (call.result parse disk).exitCode ≠ 0 := by
  cases fails with
  | refused refused => simp [result_of_refusal refused, Outcome.refused]
  | unreported parsed level => simp [result_of_level parsed level, Outcome.stopped]
  | @obstructed arguments asks obstacle =>
      rw [result_of_asks asks]
      cases made : arguments.products parse disk call.directory with
      | error stop =>
          obtain ⟨messages, converted⟩ := convert_of_stop made
          simp [converted]
      | ok products => exact absurd made (obstacle.not_made products)

theorem leave_of_written (none : (call.result parse disk).written = []) :
    call.leave parse disk = disk := by
  rw [leave, none]
  rfl

end Call

/-! ## Printing and saving -/

/-- Where there is a place for files, the same products are made for printing. -/
theorem products_toStdout {parse : Markup.Parser} {disk : Disk} {directory output : Path}
    {arguments : Arguments} (place : arguments.outputDirectory disk directory = .ok output)
    (present : disk.isDirectory output = true) :
    ({ arguments with toStdout := true } : Arguments).products parse disk directory =
      arguments.products parse disk directory := by
  rw [Arguments.products, Job.prepare_toStdout place present, Arguments.products]

theorem printed_of_contents {products : List Product} {contents : List String}
    (same : products.map Product.content = contents.map Text.ofString) :
    printed products = contents.flatMap fun content => Text.ofString content ++ [lineFeed] := by
  calc
    printed products = (products.map Product.content).flatMap (· ++ [lineFeed]) := by
      rw [printed, List.flatMap_map]
    _ = (contents.map Text.ofString).flatMap (· ++ [lineFeed]) := by rw [same]
    _ = _ := List.flatMap_map ..

/-- A call that prints beside one that saves. -/
theorem Call.result_toStdout {parse : Markup.Parser} {disk : Disk} {call printing : Call}
    {arguments : Arguments} {output : Path}
    (parsed : Arguments.parse call.defaults call.words = .ok (.convert arguments))
    (toFiles : arguments.toStdout = false)
    (parsed' : Arguments.parse printing.defaults printing.words =
      .ok (.convert { arguments with toStdout := true }))
    (together : printing.directory = call.directory)
    (place : arguments.outputDirectory disk call.directory = .ok output)
    (present : disk.isDirectory output = true)
    (writable : (call.result parse disk).unwritten = none) :
    (printing.result parse disk).exitCode = (call.result parse disk).exitCode ∧
      ((call.result parse disk).exitCode = 0 →
        (printing.result parse disk).written = [] ∧
        ∃ contents : List String,
          (call.result parse disk).written.map NewFile.content =
            contents.map (·.toUTF8.data.toList) ∧
          (printing.result parse disk).output =
            contents.flatMap fun content => Text.ofString content ++ [lineFeed]) := by
  cases level : LevelFault.ofLevel? arguments.logLevel with
  | some fault =>
      rw [result_of_level parsed level, result_of_level parsed' level]
      exact ⟨rfl, nofun⟩
  | none =>
      rw [result_of_asks ⟨parsed, level⟩] at writable
      rw [result_of_asks ⟨parsed, level⟩, result_of_asks ⟨parsed', level⟩, together]
      have same := @products_toStdout parse disk call.directory output arguments place present
      cases made : arguments.products parse disk call.directory with
      | error stop =>
          obtain ⟨messages, stops⟩ := convert_of_stop made
          obtain ⟨messages', stops'⟩ := convert_of_stop (same.trans made)
          rw [stops, stops']
          exact ⟨rfl, nofun⟩
      | ok products =>
          obtain ⟨messages', prints⟩ := convert_of_printing (same.trans made) rfl
          obtain ⟨_, _, ends⟩ := convert_of_saving made toFiles
          rcases ends with ⟨files, messages, saving, saves⟩ | ⟨_, _, _, _, _, _, breaks⟩
          · obtain ⟨contents, products, files⟩ := saving.contents
            rw [prints, saves]
            exact ⟨rfl, fun _ => ⟨rfl, contents, files, printed_of_contents products⟩⟩
          · rw [breaks] at writable
            cases writable

/-- Unless a file cannot be written, a call fails exactly for one of the reasons there
are, and then no file is written and nothing is printed. A file cannot be written only
after all products are made, if its name leads nowhere or its text has a surrogate.
Two calls that differ only in where their products go, if they can go there, end alike;
if they succeed, the one that prints writes no file and prints what the other saves, in
order, each with a line feed after it. All this holds however documents are parsed. -/
theorem calls_all_or_nothing (parse : Markup.Parser) (disk : Disk) (call : Call) :
    ((call.result parse disk).unwritten = none →
      ((call.result parse disk).exitCode ≠ 0 ↔ call.Fails parse disk) ∧
      ((call.result parse disk).exitCode ≠ 0 →
        (call.result parse disk).written = [] ∧ call.leave parse disk = disk ∧
          (call.result parse disk).output = [])) ∧
    (∀ path, (call.result parse disk).unwritten = some path →
      ∃ arguments products, call.Asks arguments ∧ arguments.toStdout = false ∧
        arguments.products parse disk call.directory = .ok products ∧
        Unwritable disk path products) ∧
    (∀ (words : List Text) (arguments : Arguments) (output : Path),
      Arguments.parse call.defaults call.words = .ok (.convert arguments) →
      arguments.toStdout = false →
      Arguments.parse call.defaults words = .ok (.convert { arguments with toStdout := true }) →
      arguments.outputDirectory disk call.directory = .ok output →
      disk.isDirectory output = true →
      (call.result parse disk).unwritten = none →
        let printing : Call := { call with words }
        (printing.result parse disk).exitCode = (call.result parse disk).exitCode ∧
        ((call.result parse disk).exitCode = 0 →
          (printing.result parse disk).written = [] ∧ printing.leave parse disk = disk ∧
          ∃ contents : List String,
            (call.result parse disk).written.map NewFile.content =
              contents.map (·.toUTF8.data.toList) ∧
            (printing.result parse disk).output =
              contents.flatMap fun content => Text.ofString content ++ [lineFeed])) := by
  have comes := call.comes_result parse disk
  refine ⟨?_, ?_, ?_⟩
  · intro writable
    refine ⟨⟨comes.fails writable, Call.Fails.exitCode_ne_zero⟩, ?_⟩
    intro failure
    obtain ⟨unwritten, unprinted⟩ := comes.silent writable failure
    exact ⟨unwritten, Call.leave_of_written unwritten, unprinted⟩
  · intro path unwritten
    exact comes.unwritable unwritten
  · intro words arguments output parsed toFiles parsed' place present writable printing
    obtain ⟨alike, prints⟩ :=
      @Call.result_toStdout parse disk call printing arguments output parsed toFiles parsed' rfl
        place present writable
    refine ⟨alike, ?_⟩
    intro success
    obtain ⟨unwritten, contents, saved, printed⟩ := prints success
    exact ⟨unwritten, Call.leave_of_written unwritten, contents, saved, printed⟩

/-- Calls that fail: an empty item has simple rules but no ICU rules, a link leads to
itself, and the environment names no level of reporting. Without the empty item both
formats are printed as they are saved. -/
theorem calls_all_or_nothing_two_formats :
    let document (item : String) : Entry := .file
      ("<collation><rules><reset before='primary'><first_non_ignorable/></reset>" ++ item ++
        "</rules></collation>").toUTF8.data.toList
    let disk : Disk :=
      { entries := [(["d"], .directory), (["d", "a.xml"], document "<p/>"),
          (["d", "b.xml"], document "<p>b</p>"), (["d", "c.xml"], .link "c.xml")] }
    let unlevelled := Defaults.ofEnvironment [("LDML_COLLATION_LOG_LEVEL", "_styles")]
    let failing : List Call :=
      [⟨{}, ["d"], ["a.xml", "--formats=simple_rules,icu_rules", "--stdout"]⟩,
        ⟨{}, ["d"], ["c.xml"]⟩, ⟨unlevelled, ["d"], ["b.xml"]⟩]
    let saving : Call := ⟨{}, ["d"], ["b.xml", "--formats=simple_rules,icu_rules"]⟩
    let printing : Call := ⟨{}, ["d"], ["--std", "--formats", "simple_rules,icu_rules", "b.xml"]⟩
    let arguments : Arguments :=
      { inputFile := "b.xml"
        collationType := "standard"
        formats := "simple_rules,icu_rules"
        newline := "lf"
        outputDir := none
        toStdout := false
        logLevel := "WARNING" }
    Arguments.parse saving.defaults saving.words = .ok (.convert arguments) ∧
      Arguments.parse printing.defaults printing.words =
        .ok (.convert { arguments with toStdout := true }) ∧
      (∀ call ∈ failing, (call.result Markup.parse? disk).exitCode = 1 ∧
        call.Fails Markup.parse? disk ∧ call.leave Markup.parse? disk = disk ∧
        (call.result Markup.parse? disk).output = []) ∧
      (saving.result Markup.parse? disk).exitCode = 0 ∧
      (saving.result Markup.parse? disk).written.length = 2 ∧
      (printing.result Markup.parse? disk).exitCode = 0 ∧
      printing.leave Markup.parse? disk = disk ∧
      ∃ contents : List String,
        (saving.result Markup.parse? disk).written.map NewFile.content =
          contents.map (·.toUTF8.data.toList) ∧
        (printing.result Markup.parse? disk).output =
          contents.flatMap fun content => Text.ofString content ++ [lineFeed] := by
  intro document disk unlevelled failing saving printing arguments
  have evaluated :
      (∀ call ∈ failing, (call.result Markup.parse? disk).exitCode = 1 ∧
          (call.result Markup.parse? disk).unwritten = none) ∧
        (saving.result Markup.parse? disk).exitCode = 0 ∧
        (saving.result Markup.parse? disk).unwritten = none ∧
        (saving.result Markup.parse? disk).written.length = 2 ∧
        arguments.outputDirectory disk saving.directory = .ok ["d"] ∧
        disk.isDirectory ["d"] = true := by
    decide +kernel
  obtain ⟨failures, success, writable, both, place, present⟩ := evaluated
  have nothing : ∀ call ∈ failing, (call.result Markup.parse? disk).exitCode = 1 ∧
      call.Fails Markup.parse? disk ∧ call.leave Markup.parse? disk = disk ∧
      (call.result Markup.parse? disk).output = [] := by
    intro call member
    obtain ⟨failure, writable⟩ := failures call member
    have nonzero : (call.result Markup.parse? disk).exitCode ≠ 0 := by simp [failure]
    obtain ⟨fails, silent⟩ := (calls_all_or_nothing Markup.parse? disk call).1 writable
    obtain ⟨-, kept, unprinted⟩ := silent nonzero
    exact ⟨failure, fails.mp nonzero, kept, unprinted⟩
  obtain ⟨-, -, alike⟩ := calls_all_or_nothing Markup.parse? disk saving
  obtain ⟨ends, prints⟩ :=
    alike printing.words arguments ["d"] rfl rfl rfl place present writable
  obtain ⟨-, kept', contents, saved, printed⟩ := prints success
  exact ⟨rfl, rfl, nothing, success, both, ends.trans success, kept', contents, saved, printed⟩

end Tailoring.CommandLine
