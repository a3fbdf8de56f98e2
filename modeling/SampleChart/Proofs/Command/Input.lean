import SampleChart.Proofs.Command.Outcome

/-!
# What becomes of the input

The outputs of a run are named after the input, and nothing keeps an output from taking the place of
the input. This happens if the path of the output leads to the very file that was read, by the same
spelling or another one, through symbolic links or under a second name, and then it happens as soon
as there is an output. Otherwise the input holds after the run what it held before.

The plotting program is no part of a run. It is taken to write to no other file than the chart, and
there it may write what it likes.
-/

namespace SampleChart

namespace Options

variable {options : Options} {files : Files}

theorem exists_read_of_summarizes {summary : Summary}
    (summarizes : options.Summarizes files summary) :
    ∃ content, files.read options.input = .ok content := by
  rcases summarizes with ⟨table, _, read, _⟩
  rw [Files.readTable] at read
  split at read
  next content found => exact ⟨content, found⟩
  next => cases read

/-- A run changes no file, or it writes a summary. -/
theorem files_run (options : Options) (files : Files) (ending : Chart.Ending) :
    (options.run files ending).files = files ∧ (options.run files ending).script = none ∨
      ∃ summary, options.Summarizes files summary ∧
        files.write options.summaryPath summary.document.toUTF8 =
          .ok (options.run files ending).files ∧
        ((options.run files ending).script.isSome = true → options.noPlot = false) := by
  rcases options.stopsAt_or_summarizes files with ⟨_, _, stops⟩ | ⟨summary, summarizes⟩
  · rcases run_of_stopsAt stops ending with ⟨failure, stopped, _⟩
    rw [stopped]
    exact Or.inl ⟨rfl, rfl⟩
  · rw [run_of_summarizes summarizes]
    cases wrote : files.write options.summaryPath summary.document.toUTF8 with
    | error fault =>
        rw [Report.carryOut_of_unwritten (options.report summary) wrote]
        exact Or.inl ⟨rfl, rfl⟩
    | ok written =>
        rw [Report.carryOut_of_written (options.report summary) wrote]
        rcases Report.plot_outcome (options.report summary) written ending with
          ⟨_, kept, started, _⟩
        refine Or.inr ⟨summary, summarizes, by rw [kept]; exact wrote, fun sent => ?_⟩
        have charted := (started.mp sent).1
        simpa [report] using charted

/-- The input can still be read when the summary was written. -/
theorem exists_read_run {summary : Summary} (ending : Chart.Ending)
    (summarizes : options.Summarizes files summary)
    (wrote : files.write options.summaryPath summary.document.toUTF8 =
      .ok (options.run files ending).files) :
    ∃ content, (options.run files ending).files.read options.input = .ok content := by
  by_cases together : files.LeadTogether options.input options.summaryPath
  · exact ⟨_, Files.read_of_write_together together wrote⟩
  · rcases exists_read_of_summarizes summarizes with ⟨content, isFile⟩
    exact ⟨content, Files.read_of_write_elsewhere together wrote isFile⟩

/-- A summary that is written to the input is what the input holds afterwards. -/
theorem read_run_of_leadTogether {summary : Summary} (summarizes : options.Summarizes files summary)
    (together : files.LeadTogether options.input options.summaryPath) (ending : Chart.Ending) :
    (options.run files ending).files.read options.input = .ok summary.document.toUTF8 := by
  rcases exists_read_of_summarizes summarizes with ⟨content, isFile⟩
  rcases Files.exists_write_of_leadTogether isFile together summary.document.toUTF8 with
    ⟨written, success⟩
  rw [run_of_summarizes summarizes, Report.carryOut_of_written (options.report summary) success,
    (Report.plot_outcome (options.report summary) written ending).2.1]
  exact Files.read_of_write_together together success

end Options

/-- The input holds after a run what it held before, unless there is a summary whose path leads to
the very file that was read. Then the input holds this summary. From every path that leads elsewhere
the same is read after the run as before. A chart that is plotted afterwards takes the place of the
input only if its path leads to the input. -/
theorem input_after_run {arguments : List String} {options : Options}
    (accepted : Options.ofArguments arguments = .ok options) (files : Files)
    (ending : Chart.Ending) :
    ∃ outcome, run arguments files ending = .finished outcome ∧
      (outcome.files.read options.input = files.read options.input ∨
        (∃ summary, options.Summarizes files summary) ∧
          files.LeadTogether options.input options.summaryPath) ∧
      (∀ summary, options.Summarizes files summary →
        files.LeadTogether options.input options.summaryPath →
          outcome.files.read options.input = .ok summary.document.toUTF8) ∧
      (∀ path, ¬outcome.files.LeadTogether path options.summaryPath →
        ∀ content, outcome.files.read path = .ok content ↔ files.read path = .ok content) ∧
      ∀ chart after, outcome.script.isSome = true →
        outcome.files.write options.chartPath chart = .ok after →
          options.noPlot = false ∧
          (after.read options.input = outcome.files.read options.input ∨
            outcome.files.LeadTogether options.input options.chartPath) := by
  have finished : run arguments files ending = .finished (options.run files ending) := by
    rw [run, accepted]
  refine ⟨_, finished, ?_, ?_, ?_, ?_⟩
  · rcases options.files_run files ending with ⟨kept, _⟩ | ⟨summary, summarizes, wrote, _⟩
    · exact Or.inl (by rw [kept])
    · rcases Options.exists_read_of_summarizes summarizes with ⟨content, isFile⟩
      rcases Files.read_eq_or_leadTogether_of_write wrote isFile with same | together
      · exact Or.inl same
      · exact Or.inr ⟨⟨summary, summarizes⟩, together⟩
  · intro summary summarizes together
    exact Options.read_run_of_leadTogether summarizes together ending
  · intro path apart content
    rcases options.files_run files ending with ⟨kept, _⟩ | ⟨summary, _, wrote, _⟩
    · rw [kept]
    · exact Files.read_iff_of_write wrote apart
  · intro chart after sent success
    rcases options.files_run files ending with ⟨_, unsent⟩ | ⟨summary, summarizes, wrote, plotted⟩
    · simp [unsent] at sent
    · rcases Options.exists_read_run ending summarizes wrote with ⟨content, isFile⟩
      exact ⟨plotted sent, Files.read_eq_or_leadTogether_of_write success isFile⟩

/-- The input stays beside its summary. But where it is a link to the file that the summary goes to,
it is replaced like this. -/
theorem input_after_run_dat :
    (∃ (files : Files) (outcome : Outcome),
      files.read "r.dat" = .ok "# b native\n1\n".toUTF8 ∧
        run ["r.dat"] files (.exited 0) = .finished outcome ∧
        outcome.files.read "r.dat" = files.read "r.dat") ∧
    ∃ (files : Files) (outcome : Outcome) (summary : Summary),
      files.read "../work/r.dat" = .ok "# b native\n1\n".toUTF8 ∧
        run ["../work/r.dat", "--no-plot"] files (.exited 0) = .finished outcome ∧
        outcome.files.read "../work/r.dat" = .ok summary.document.toUTF8 := by
  constructor
  · have accepted : Options.ofArguments ["r.dat"] =
        .ok ⟨"r.dat", .auto, none, none, [], false, none, none, none, ".", false⟩ := rfl
    rcases input_after_run accepted
        ⟨[.directory 0 [("r.dat", 1)], .file "# b native\n1\n".toUTF8], 0, 0⟩ (.exited 0) with
      ⟨outcome, finished, kept, _⟩
    refine ⟨_, outcome, by decide +kernel, finished, ?_⟩
    rcases kept with same | ⟨_, _, _, isSummary⟩
    · exact same
    · cases isSummary
  · have inputs : ∃ (options : Options) (files : Files),
        Options.ofArguments ["../work/r.dat", "--no-plot"] = .ok options ∧
        options.input = "../work/r.dat" ∧
        files.read "../work/r.dat" = .ok "# b native\n1\n".toUTF8 ∧
        files.LeadTogether options.input options.summaryPath ∧
        (prepare options (files.readTable options.config.layout options.input)).toOption.map
          (·.summary.benchmarks) = some ["b"] :=
      ⟨⟨"../work/r.dat", .auto, none, none, [], false, none, none, none, ".", true⟩,
        ⟨[.directory 0 [("work", 1)], .directory 0 [("r.dat", 2), ("r.json", 3)], .link "r.json",
          .file "# b native\n1\n".toUTF8], 0, 1⟩,
        rfl, rfl, by decide +kernel, ⟨3, by decide +kernel, by decide +kernel⟩, by decide +kernel⟩
    rcases inputs with ⟨options, files, accepted, isInput, content, together, seen⟩
    rcases exists_ok_of_toOption_map seen with ⟨report, prepared, _⟩
    rcases Options.prepare_eq_ok_iff.mp prepared with ⟨summary, summarizes, _⟩
    rcases input_after_run accepted files (.exited 0) with ⟨outcome, finished, _, replaced, _⟩
    exact ⟨files, outcome, summary, content, finished,
      isInput ▸ replaced summary summarizes together⟩

theorem Summary.head?_document (summary : Summary) :
    summary.document.toList.head? = some '\x7b' := by
  rw [Summary.document, Json.Value.text, String.toList_ofList]
  rfl

/-- A results file with the name of its summary is replaced by it. -/
theorem not_input_after_run_json :
    ∃ (files : Files) (content : ByteArray) (outcome : Outcome),
      files.read "r.json" = .ok content ∧
        run ["r.json", "--no-plot"] files (.exited 0) = .finished outcome ∧
        outcome.files.read "r.json" ≠ .ok content := by
  have inputs : ∃ (options : Options) (files : Files),
      Options.ofArguments ["r.json", "--no-plot"] = .ok options ∧ options.input = "r.json" ∧
      files.read "r.json" = .ok "# b native\n1\n".toUTF8 ∧
      files.LeadTogether options.input options.summaryPath ∧
      (prepare options (files.readTable options.config.layout options.input)).toOption.map
        (·.summary.benchmarks) = some ["b"] :=
    ⟨⟨"r.json", .auto, none, none, [], false, none, none, none, ".", true⟩,
      ⟨[.directory 0 [("r.json", 1)], .file "# b native\n1\n".toUTF8], 0, 0⟩,
      rfl, rfl, by decide +kernel, ⟨1, by decide +kernel, by decide +kernel⟩, by decide +kernel⟩
  rcases inputs with ⟨options, files, accepted, isInput, content, together, seen⟩
  rcases exists_ok_of_toOption_map seen with ⟨report, prepared, _⟩
  rcases Options.prepare_eq_ok_iff.mp prepared with ⟨summary, summarizes, rfl⟩
  have finished : run ["r.json", "--no-plot"] files (.exited 0) =
      .finished (options.run files (.exited 0)) := by
    rw [run, accepted]
  have replaced := Options.read_run_of_leadTogether summarizes together (.exited 0)
  rw [isInput] at replaced
  refine ⟨files, _, _, content, finished, ?_⟩
  rw [replaced]
  intro same
  have equal : summary.document = "# b native\n1\n" :=
    String.toByteArray_inj.mp (Except.ok.inj same)
  have opened := summary.head?_document
  rw [equal] at opened
  revert opened
  decide

end SampleChart
