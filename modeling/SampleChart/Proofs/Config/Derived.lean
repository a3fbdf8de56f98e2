import SampleChart.Config.Derived
import SampleChart.Proofs.Text.Cuts
import SampleChart.Proofs.Text.Trimming

/-!
# The grammar of derived series

A text is a derived series if it is rendered from names that are not blank, of which the first holds
no equals sign and the others no plus sign. Parsing cuts the text into these names again, and the
series that it answers has them without the blanks around them. When this series is rendered, it
needs no trimming any more and is parsed to itself.
-/

namespace SampleChart.DerivedSeries

open Text (Trimmed Written)

/-- All names of a derived series, its own name first. -/
def names (derived : DerivedSeries) : List String :=
  derived.name :: derived.parts

/-- The names of the series without the blanks around them. -/
def trimmed (derived : DerivedSeries) : DerivedSeries :=
  ⟨Text.trim derived.name, derived.parts.map Text.trim⟩

/-- Where the series is rendered, the first equals sign ends its name and every plus sign behind it
ends a part. -/
structure Separated (derived : DerivedSeries) : Prop where
  name_unmarked : '=' ∉ derived.name.toList
  parts_nonempty : derived.parts ≠ []
  parts_unmarked : ∀ part ∈ derived.parts, '+' ∉ part.toList

/-- No name needs to be trimmed, and none is empty. -/
structure Canonical (derived : DerivedSeries) : Prop extends derived.Separated where
  names_trimmed : ∀ name ∈ derived.names, Trimmed name
  names_nonempty : ∀ name ∈ derived.names, name ≠ ""

variable {derived raw : DerivedSeries}

theorem toList_render (derived : DerivedSeries) :
    derived.render.toList =
      derived.name.toList ++ '=' :: List.intercalate ['+'] (derived.parts.map String.toList) := by
  rw [render, String.toList_append, String.toList_append, String.toList_intercalate,
    List.append_assoc]
  rfl

theorem cutBetween_parts (separated : derived.Separated) :
    Text.cutBetween '+' (List.intercalate ['+'] (derived.parts.map String.toList)) =
      derived.parts.map String.toList := by
  apply Text.cutBetween_intercalate
  · simpa using separated.parts_nonempty
  · rw [List.forall_mem_map]
    exact separated.parts_unmarked

/-- Every text with an equals sign is rendered from a series, whose names may be blank. -/
theorem exists_separated {text : String} (marked : '=' ∈ text.toList) :
    ∃ raw : DerivedSeries, raw.Separated ∧ raw.render = text := by
  obtain ⟨⟨before, after⟩, cut⟩ := Option.ne_none_iff_exists'.mp
    (mt Text.cutAtFirst_eq_none_iff.mp (not_not_intro marked))
  obtain ⟨whole, unmarked⟩ := Text.eq_append_of_cutAtFirst cut
  refine ⟨⟨String.ofList before, (Text.cutBetween '+' after).map String.ofList⟩, ⟨?_, ?_, ?_⟩, ?_⟩
  · simpa using unmarked
  · simpa using Text.cutBetween_ne_nil '+' after
  · intro part listed
    obtain ⟨piece, isPiece, rfl⟩ := List.mem_map.mp listed
    simpa using Text.not_mem_of_mem_cutBetween after piece isPiece
  · rw [← String.toList_inj, toList_render, whole]
    simp [Function.comp_def, Text.intercalate_cutBetween]

theorem trimmed_separated (separated : raw.Separated) : raw.trimmed.Separated := by
  refine ⟨Text.not_mem_trim separated.name_unmarked, ?_, ?_⟩
  · simpa [trimmed] using separated.parts_nonempty
  · intro part listed
    obtain ⟨piece, isPiece, rfl⟩ := List.mem_map.mp listed
    exact Text.not_mem_trim (separated.parts_unmarked piece isPiece)

theorem names_trimmed_eq (derived : DerivedSeries) :
    derived.trimmed.names = derived.names.map Text.trim :=
  rfl

theorem trimmed_canonical (separated : raw.Separated)
    (written : ∀ name ∈ raw.names, Written name) : raw.trimmed.Canonical := by
  refine ⟨trimmed_separated separated, ?_, ?_⟩
  · rw [names_trimmed_eq, List.forall_mem_map]
    intro name _
    exact Text.trimmed_trim name
  · rw [names_trimmed_eq, List.forall_mem_map]
    intro name listed nothing
    exact Text.trim_eq_empty_iff.mp nothing (written name listed)

theorem Canonical.trimmed_eq (canonical : derived.Canonical) : derived.trimmed = derived := by
  have kept (name : String) (listed : name ∈ derived.names) : Text.trim name = name :=
    Text.trim_eq_self_iff.mpr (canonical.names_trimmed name listed)
  have parts : derived.parts.map Text.trim = derived.parts := by
    rw [List.map_congr_left fun part listed => kept part (List.mem_cons_of_mem _ listed)]
    exact List.map_id' _
  rw [trimmed, parts, kept derived.name List.mem_cons_self]

theorem Canonical.written (canonical : derived.Canonical) :
    ∀ name ∈ derived.names, Written name := by
  intro name listed
  by_contra blank
  have nothing := Text.trim_eq_empty_iff.mpr blank
  rw [Text.trim_eq_self_iff.mpr (canonical.names_trimmed name listed)] at nothing
  exact canonical.names_nonempty name listed nothing

/-- Parsing cuts a text as it was rendered and asks only whether a name is empty. -/
theorem parse_render_separated (separated : raw.Separated) :
    parse raw.render =
      if "" ∈ raw.trimmed.names then .error (.emptyName raw.render)
      else .ok raw.trimmed := by
  rw [parse, toList_render, Text.cutAtFirst_append separated.name_unmarked]
  simp only [cutBetween_parts separated]
  have series : (⟨String.ofList (Text.Characters.trim raw.name.toList),
      ((raw.parts.map String.toList).map Text.Characters.trim).map String.ofList⟩ :
        DerivedSeries) = raw.trimmed := by
    simp [trimmed, Text.trim, Function.comp_def]
  have empty : ((Text.Characters.trim raw.name.toList).isEmpty ||
      ((raw.parts.map String.toList).map Text.Characters.trim).any List.isEmpty) = true ↔
        "" ∈ raw.trimmed.names := by
    simp [names, trimmed, Text.trim, @eq_comm String ""]
  rw [series, if_congr empty rfl rfl]

theorem parse_render_of_written (separated : raw.Separated)
    (written : ∀ name ∈ raw.names, Written name) : parse raw.render = .ok raw.trimmed := by
  rw [parse_render_separated separated, if_neg]
  intro empty
  exact (trimmed_canonical separated written).names_nonempty "" empty rfl

theorem parse_render_of_blank (separated : raw.Separated) {name : String}
    (listed : name ∈ raw.names) (blank : ¬Written name) :
    parse raw.render = .error (.emptyName raw.render) := by
  have empty : Text.trim name ∈ raw.trimmed.names := List.mem_map_of_mem listed
  rw [Text.trim_eq_empty_iff.mpr blank] at empty
  rw [parse_render_separated separated, if_pos empty]

theorem parse_unmarked {text : String} (unmarked : '=' ∉ text.toList) :
    parse text = .error (.noEqualsSign text) := by
  rw [parse, Text.cutAtFirst_eq_none_iff.mpr unmarked]

/-- What is parsed is rendered from names that are not blank, and these names are the answer. -/
theorem parse_eq_ok_iff {text : String} :
    parse text = .ok derived ↔
      ∃ raw : DerivedSeries, raw.Separated ∧ raw.render = text ∧
        (∀ name ∈ raw.names, Written name) ∧ raw.trimmed = derived := by
  constructor
  · intro parsed
    by_cases marked : '=' ∈ text.toList
    · obtain ⟨raw, separated, rfl⟩ := exists_separated marked
      have written : ∀ name ∈ raw.names, Written name := by
        intro name listed
        by_contra blank
        rw [parse_render_of_blank separated listed blank] at parsed
        cases parsed
      rw [parse_render_of_written separated written] at parsed
      exact ⟨raw, separated, rfl, written, Except.ok.inj parsed⟩
    · rw [parse_unmarked marked] at parsed
      cases parsed
  · rintro ⟨raw, separated, rfl, written, rfl⟩
    exact parse_render_of_written separated written

theorem parse_render_canonical (canonical : derived.Canonical) :
    parse derived.render = .ok derived := by
  rw [parse_render_of_written canonical.toSeparated canonical.written, canonical.trimmed_eq]

theorem canonical_of_parse {text : String} (parsed : parse text = .ok derived) :
    derived.Canonical := by
  obtain ⟨raw, separated, -, written, rfl⟩ := parse_eq_ok_iff.mp parsed
  exact trimmed_canonical separated written

/-- Parsing accepts the grammar and nothing else. Its answers are canonical and are parsed again
from their rendering, as every canonical series is. -/
theorem parse_accepts_grammar (text : String) :
    ((∃ derived, parse text = .ok derived) ↔
        ∃ raw : DerivedSeries, raw.Separated ∧ raw.render = text ∧
          ∀ name ∈ raw.names, Written name) ∧
      (∀ raw : DerivedSeries, raw.Separated → raw.render = text →
        (∀ name ∈ raw.names, Written name) → parse text = .ok raw.trimmed) ∧
      (∀ derived, parse text = .ok derived →
        derived.Canonical ∧ parse derived.render = .ok derived) ∧
      ∀ derived : DerivedSeries, derived.Canonical → parse derived.render = .ok derived := by
  refine ⟨⟨?_, ?_⟩, ?_, ?_, ?_⟩
  · rintro ⟨derived, parsed⟩
    obtain ⟨raw, separated, rendered, written, -⟩ := parse_eq_ok_iff.mp parsed
    exact ⟨raw, separated, rendered, written⟩
  · rintro ⟨raw, separated, rendered, written⟩
    exact ⟨raw.trimmed, parse_eq_ok_iff.mpr ⟨raw, separated, rendered, written, rfl⟩⟩
  · intro raw separated rendered written
    exact parse_eq_ok_iff.mpr ⟨raw, separated, rendered, written, rfl⟩
  · intro derived parsed
    have canonical := canonical_of_parse parsed
    exact ⟨canonical, parse_render_canonical canonical⟩
  · intro derived canonical
    exact parse_render_canonical canonical

/-- A part may hold an equals sign and may be named twice. -/
theorem parse_accepts_grammar_of_repeated_part :
    Separated ⟨"t ", [" a=b ", "c ", "\ta=b"]⟩ ∧
      (∀ name ∈ names ⟨"t ", [" a=b ", "c ", "\ta=b"]⟩, Written name) ∧
      parse "t = a=b +c +\ta=b" = .ok ⟨"t", ["a=b", "c", "a=b"]⟩ ∧
      Canonical ⟨"t", ["a=b", "c", "a=b"]⟩ ∧
      parse "t=a=b+c+a=b" = .ok ⟨"t", ["a=b", "c", "a=b"]⟩ := by
  obtain ⟨-, accepted, answered, -⟩ := parse_accepts_grammar "t = a=b +c +\ta=b"
  have separated : Separated ⟨"t ", [" a=b ", "c ", "\ta=b"]⟩ :=
    ⟨by decide, by decide, by decide⟩
  have written : ∀ name ∈ names ⟨"t ", [" a=b ", "c ", "\ta=b"]⟩, Written name := by decide
  have parsed := accepted _ separated (by decide) written
  have ⟨canonical, again⟩ := answered _ parsed
  exact ⟨separated, written, parsed, canonical, again⟩

/-- Behind a last plus sign there is one more part. -/
example : parse "t=a+" = .error (.emptyName "t=a+") := by decide

end SampleChart.DerivedSeries
