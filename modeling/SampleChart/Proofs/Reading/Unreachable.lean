import SampleChart.Proofs.Reading.Registers

/-!
# What no reading comes to

The readers have an answer for more than can happen to them. A marker or a sample is never read
while the layout is open; outside the keyed layout a marker that gave a benchmark gave a series with
it; and a sample there belongs to a series that is listed already. `liveContent?` reads a line
without these cases: it has no answer where one of them arises, and it lists no series outside the
keyed layout. Behind lines that could be read it reads every line as `readContent` does, which rests
on the registers alone (`Coherent`).
-/

namespace SampleChart.Reading

/-- Reads a marker, without an answer while the layout is open. -/
def liveMarker? (reading : Reading) (fields : List String) : Option (Except LineFault Reading) :=
  match reading.layout with
  | .auto => none
  | _ => some (reading.readMarker fields)

/-- Reads a sample, without an answer while the layout is open and behind a marker that lacks the
series which its layout asks for. -/
def liveSample? (reading : Reading) (content : String) : Option (Except LineFault Reading) :=
  match reading.layout, reading.benchmark, reading.series with
  | .auto, _, _ => none
  | .keyed, _, _ => some (reading.readSample content)
  | _, none, _ => some (.error .sampleBeforeMarker)
  | _, some _, none => none
  | _, some benchmark, some series =>
      some ((sampleValue content).map fun value =>
        { reading with table := reading.table.extend series benchmark [value] })

/-- Reads a line by the legend, `liveMarker?` and `liveSample?`. -/
def liveContent? (reading : Reading) (content : String) : Option (Except LineFault Reading) :=
  let fields := Text.fields content
  let reading := reading.settle fields
  if reading.layout = .headered ∧ reading.legendRead = false then some (reading.readLegend fields)
  else if fields.head? = some Layout.marker then reading.liveMarker? fields.tail
  else reading.liveSample? content

variable {layout : Layout} {reading result : Reading} {lines : List String}

theorem liveMarker?_eq_readMarker (settled : reading.layout ≠ .auto) (fields : List String) :
    reading.liveMarker? fields = some (reading.readMarker fields) := by
  rw [liveMarker?]
  split
  next isOpen => exact absurd isOpen settled
  next => rfl

/-- A sample goes to the group of the registers, which are both set or both unset. -/
theorem readSample_of_named (notKeyed : reading.layout ≠ .keyed) {benchmark series : String}
    (placed : reading.benchmark = some benchmark) (named : reading.series = some series)
    (known : reading.table.containsSeries series = true) (content : String) :
    reading.readSample content = (sampleValue content).map fun value =>
      { reading with table := reading.table.extend series benchmark [value] } := by
  have parts : reading.sampleParts content = .ok (series, content) :=
    (sampleParts_named_eq_ok_iff notKeyed).mpr ⟨named, rfl⟩
  simp only [readSample, placed, parts, bind, Except.bind, Table.addSeries_of_contains known]
  cases sampleValue content <;> rfl

theorem Coherent.liveSample?_eq_readSample (coherent : reading.Coherent)
    (settled : reading.layout ≠ .auto) (content : String) :
    reading.liveSample? content = some (reading.readSample content) := by
  rw [liveSample?]
  split
  next isOpen => exact absurd isOpen settled
  next => rfl
  next noBenchmark _ _ => simp [readSample, noBenchmark]
  next placed unnamed _ notKeyed =>
      have both := coherent.isSome_series notKeyed
      simp [placed, unnamed] at both
  next placed named _ notKeyed =>
      have listed := coherent.series_listed _ named
      have known := (coherent.table_wellFormed.agrees _).mpr listed
      rw [readSample_of_named notKeyed placed named known]

theorem Coherent.liveContent?_eq_readContent (coherent : reading.Coherent) (content : String) :
    reading.liveContent? content = some (reading.readContent content) := by
  have settled := layout_settle_ne_auto reading (Text.fields content)
  have stillCoherent := coherent.settle (Text.fields content)
  simp only [liveContent?, readContent]
  split_ifs
  · rfl
  · exact liveMarker?_eq_readMarker settled _
  · exact stillCoherent.liveSample?_eq_readSample settled content

theorem layout_ne_auto_of_readContents (some_line : lines ≠ [])
    (read : (start layout).readContents lines = .ok result) : result.layout ≠ .auto := by
  refine holds_of_readContents (fun earlier next => earlier ≠ [] → next.layout ≠ .auto) ?_
    (absurd rfl) read some_line
  intro earlier before line next _ step _
  rw [(readContent_eq_ok_iff.mp step).layout_eq]
  exact layout_settle_ne_auto before _

/-- A headered file of which the legend has been read, with these series. -/
structure BehindLegendOf (series : List String) (reading : Reading) : Prop where
  coherent : reading.Coherent
  layout_eq : reading.layout = .headered
  legendRead_eq : reading.legendRead = true
  series_eq : reading.table.series = series

/-- Behind the legend no line lists a series. -/
theorem BehindLegendOf.of_reads {series : List String} {line : String}
    (behind : reading.BehindLegendOf series) (reads : Reads reading line result) :
    result.BehindLegendOf series := by
  have layout_eq := behind.layout_eq
  have settled : reading.layout ≠ .auto := by simp [layout_eq]
  have coherent := reads.coherent settled behind.coherent
  cases reads with
  | legend awaits =>
      have legendRead := behind.legendRead_eq
      simp [awaits.2] at legendRead
  | keyedMarker keyed => simp [keyed] at layout_eq
  | keyedSample keyed => simp [keyed] at layout_eq
  | namedMarker notKeyed ready isMarker known =>
      exact ⟨coherent, layout_eq, behind.legendRead_eq, by simpa using behind.series_eq⟩
  | namedSample notKeyed ready isOther placed named isNumber finite =>
      have listed := behind.coherent.series_listed _ named
      refine ⟨coherent, layout_eq, behind.legendRead_eq, ?_⟩
      have agrees := behind.coherent.table_wellFormed.agrees
      simpa [agrees.addSeries_of_mem listed] using behind.series_eq

theorem BehindLegendOf.of_readContents {series : List String}
    (behind : reading.BehindLegendOf series) (read : reading.readContents lines = .ok result) :
    result.BehindLegendOf series := by
  refine holds_of_readContents (fun _ next => next.BehindLegendOf series) ?_ behind read
  intro earlier before line next behind step
  have reads := readContent_eq_ok_iff.mp step
  rw [settle_of_ne_auto (by simp [behind.layout_eq])] at reads
  exact behind.of_reads reads

theorem Coherent.benchmark_of_series (coherent : reading.Coherent) {series : String}
    (named : reading.series = some series) :
    ∃ benchmark, reading.benchmark = some benchmark ∧
      (reading.table.samples? series benchmark).isSome := by
  have notKeyed : reading.layout ≠ .keyed := by
    intro keyed
    simp [coherent.series_eq_none keyed] at named
  have placed : reading.benchmark.isSome := by
    simpa [named] using (coherent.isSome_series notKeyed).symm
  rcases Option.isSome_iff_exists.mp placed with ⟨benchmark, placed⟩
  exact ⟨benchmark, placed, coherent.group_declared series named benchmark placed⟩

/-- What the registers of a reading say behind lines that could be read, whatever their numbers. The
layout is settled by the first line that is not blank. Series and benchmark of the last marker are
set together, except that the keyed layout does without the series; what they name is listed and
declared. Before the legend a headered file knows nothing, and behind it its series stay as they
are. So every further line is read without a marker or a sample in an open layout, without a
benchmark that lacks its series, and without a new series outside the keyed layout. -/
theorem registers_of_readLines {number : Nat}
    (read : (start layout).readLines number (lines.map some) = .ok reading) :
    ((∃ line ∈ lines, Line.isBlank line = false) → reading.layout ≠ .auto) ∧
      (reading.layout = .keyed → reading.series = none) ∧
      (reading.layout = .headerless ∨ reading.layout = .headered →
        (reading.series.isSome = true ↔ reading.benchmark.isSome = true)) ∧
      (∀ benchmark, reading.benchmark = some benchmark → benchmark ∈ reading.table.benchmarks) ∧
      (∀ series, reading.series = some series → series ∈ reading.table.series ∧
        ∃ benchmark, reading.benchmark = some benchmark ∧
          (reading.table.samples? series benchmark).isSome = true) ∧
      (reading.layout = .headered → reading.legendRead = false →
        reading.benchmark = none ∧ reading.table.benchmarks = []) ∧
      (reading.layout = .headered → reading.legendRead = true →
        ∀ (number' : Nat) (later : List String) result,
          reading.readLines number' (later.map some) = .ok result →
            result.table.series = reading.table.series) ∧
      ∀ content, reading.liveContent? content = some (reading.readContent content) := by
  have contents := readLines_eq_ok_iff.mp read
  have coherent := coherent_of_readContents contents
  refine ⟨?_, coherent.series_eq_none, ?_, coherent.benchmark_listed, ?_, ?_, ?_,
    coherent.liveContent?_eq_readContent⟩
  · rintro ⟨line, present, written⟩
    refine layout_ne_auto_of_readContents (List.ne_nil_of_mem (a := line) ?_) contents
    simp [present, written]
  · intro named
    have notKeyed : reading.layout ≠ .keyed := by
      rcases named with headerless | headered <;> simp [*]
    rw [coherent.isSome_series notKeyed]
  · intro series named
    exact ⟨coherent.series_listed series named, coherent.benchmark_of_series named⟩
  · intro headered unread
    rcases coherent.untouched (Or.inr ⟨headered, unread⟩) with ⟨noTable, noBenchmark⟩
    exact ⟨noBenchmark, by rw [noTable]; rfl⟩
  · intro headered legendRead number' later result further
    have behind : reading.BehindLegendOf reading.table.series :=
      ⟨coherent, headered, legendRead, rfl⟩
    exact (behind.of_readContents (readLines_eq_ok_iff.mp further)).series_eq

/-- A detected legend fixes the series, and the lines behind it come to no other case. -/
theorem registers_of_detected_legend :
    ∃ reading, (start .auto).readLines 1 (["", "a b", "# x b"].map some) = .ok reading ∧
      reading.layout = .headered ∧ reading.benchmark = some "x" ∧ reading.series = some "b" ∧
      (∀ (number : Nat) (later : List String) result,
        reading.readLines number (later.map some) = .ok result →
          result.table.series = reading.table.series) ∧
      ∀ content, reading.liveContent? content = some (reading.readContent content) := by
  have shown :
      ((start .auto).readLines 1 (["", "a b", "# x b"].map some)).toOption.map (fun reading =>
        ((reading.layout, reading.legendRead), (reading.benchmark, reading.series))) =
      some ((.headered, true), (some "x", some "b")) := by decide +kernel
  rcases exists_ok_of_toOption_map shown with ⟨reading, read, seen⟩
  simp only [Prod.mk.injEq] at seen
  rcases seen with ⟨⟨headered, legendRead⟩, placed, named⟩
  rcases registers_of_readLines read with ⟨_, _, _, _, _, _, fixed, live⟩
  exact ⟨reading, read, headered, placed, named, fixed headered legendRead, live⟩

end SampleChart.Reading
