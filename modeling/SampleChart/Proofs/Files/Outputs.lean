import SampleChart.Proofs.Files.Names

/-!
# Where outputs go

An output is a single name inside the directory of the outputs, whatever the input is called and
wherever it lies. Its name is the stem of the input with an extension, and the stem is told here
from the text of a path alone (`EndsIn`, `IsStemOf`): the last name of the path, in front of any
slashes and single dots, up to its last dot. Names inside one directory are apart as paths as soon
as they are apart as texts (`IsInside.same_iff`), so that summaries and charts never meet and two
inputs share an output exactly if they share their stem.
-/

namespace SampleChart.Path

/-- The stem of a name: what stands before its last dot if that is not nothing, and otherwise the
name, which then has no dot but a leading one. -/
inductive IsStemOf : List Char → List Char → Prop
  | before {stem extension : List Char} (present : stem ≠ []) (undotted : '.' ∉ extension) :
      IsStemOf stem (stem ++ '.' :: extension)
  | whole {name : List Char} (undotted : '.' ∉ name.tail) : IsStemOf name name

/-- Slashes, of which each may have a single dot behind it. -/
inductive IsTrailing : List Char → Prop
  | nothing : IsTrailing []
  | slash {rest : List Char} (trailing : IsTrailing rest) : IsTrailing ('/' :: rest)
  | dot {rest : List Char} (trailing : IsTrailing rest) : IsTrailing ('/' :: '.' :: rest)

/-- A text without slashes that names something. -/
def IsSingle (name : List Char) : Prop :=
  IsName name ∧ '/' ∉ name

/-- A path ends in a name, in front of which is nothing or a directory with its slash. -/
def EndsIn (path : String) (name : List Char) : Prop :=
  ∃ front trailing, path.toList = front ++ name ++ trailing ∧
    (front = [] ∨ front.getLast? = some '/') ∧ IsSingle name ∧ IsTrailing trailing

/-- A path that is a directory with a single name behind it. -/
structure IsInside (path directory name : String) : Prop where
  isSingle : IsSingle name.toList
  text_eq : path = directory ++ name ∧ (directory = "" ∨ directory.toList.getLast? = some '/') ∨
    path = directory ++ "/" ++ name
  components_eq : components path = components directory ++ [name.toList]
  isAbsolute_eq : isAbsolute path = isAbsolute directory

/-- Two texts are one path: they have the same components and begin at the same place. -/
def Same (left right : String) : Prop :=
  isAbsolute left = isAbsolute right ∧ components left = components right

/-- A name with nothing in front of its last dot has no dot but the leading one. -/
theorem isStemOf_stemOf (name : List Char) : IsStemOf (stemOf name) name := by
  rw [stemOf]
  cases cut : Text.cutAtLast '.' name with
  | none =>
      have undotted := Text.cutAtLast_eq_none_iff.mp cut
      exact .whole fun dotted => undotted (List.mem_of_mem_tail dotted)
  | some parts =>
      rcases parts with ⟨front, extension⟩
      rcases Text.eq_append_of_cutAtLast cut with ⟨rfl, undotted⟩
      dsimp only
      split_ifs with isEmpty
      · rw [List.isEmpty_iff.mp isEmpty]
        exact .whole undotted
      · exact .before (by simpa using isEmpty) undotted

theorem IsStemOf.dot_mem_tail {stem extension : List Char} (present : stem ≠ []) :
    '.' ∈ (stem ++ '.' :: extension).tail := by
  rw [List.tail_append_of_ne_nil present]
  simp

theorem IsStemOf.unique {stem other name : List Char} (isStem : IsStemOf stem name)
    (isOther : IsStemOf other name) : stem = other := by
  cases isStem with
  | before present undotted =>
      generalize cut : stem ++ '.' :: _ = name at isOther
      cases isOther with
      | before _ otherUndotted =>
          have cutAtDot := Text.cutAtLast_append undotted stem
          rw [cut, Text.cutAtLast_append otherUndotted] at cutAtDot
          exact (Prod.mk.inj (Option.some.inj cutAtDot)).1.symm
      | whole undottedTail => exact absurd (cut ▸ dot_mem_tail present) undottedTail
  | whole undottedTail =>
      cases isOther with
      | before present => exact absurd (dot_mem_tail present) undottedTail
      | whole => rfl

theorem stemOf_eq_iff {stem name : List Char} : stemOf name = stem ↔ IsStemOf stem name := by
  constructor
  · rintro rfl
    exact isStemOf_stemOf name
  · exact (isStemOf_stemOf name).unique

/-- The pieces of a path that are components. -/
def componentsAmong (pieces : List (List Char)) : List (List Char) :=
  pieces.filter fun component => !component.isEmpty && component != ['.']

/-- The components in a part of a path. -/
def componentsOf (text : List Char) : List (List Char) :=
  componentsAmong (Text.cutBetween '/' text)

theorem componentsOf_append (before after : List Char) :
    componentsOf (before ++ '/' :: after) = componentsOf before ++ componentsOf after := by
  rw [componentsOf, Text.cutBetween_append, componentsAmong, List.filter_append]
  rfl

theorem componentsOf_single {name : List Char} (single : IsSingle name) :
    componentsOf name = [name] := by
  rcases single with ⟨⟨nonempty, noDot, _⟩, unslashed⟩
  rw [componentsOf, Text.cutBetween_of_not_mem unslashed]
  simp [componentsAmong, nonempty, noDot]

/-- What trails behind a name adds no component. -/
theorem componentsOf_trailing {trailing : List Char} (isTrailing : IsTrailing trailing)
    (text : List Char) : componentsOf (text ++ trailing) = componentsOf text := by
  induction isTrailing generalizing text with
  | nothing => rw [List.append_nil]
  | slash _ ih =>
      have nothing_behind := ih []
      rw [List.nil_append] at nothing_behind
      rw [componentsOf_append, nothing_behind]
      simp [componentsOf, componentsAmong, Text.cutBetween]
  | @dot rest _ ih =>
      have nothing_behind := ih ['.']
      rw [List.singleton_append] at nothing_behind
      rw [componentsOf_append, nothing_behind]
      simp [componentsOf, componentsAmong, Text.cutBetween]

/-- A name behind nothing or behind a slash is a component. -/
theorem componentsOf_behind {front name : List Char}
    (behind : front = [] ∨ front.getLast? = some '/') (single : IsSingle name) :
    componentsOf (front ++ name) = componentsOf front ++ [name] := by
  rcases behind with rfl | slash
  · rw [List.nil_append, componentsOf_single single]
    rfl
  · rcases List.getLast?_eq_some_iff.mp slash with ⟨before, rfl⟩
    rw [List.append_assoc, List.singleton_append, componentsOf_append, componentsOf_append,
      componentsOf_single single]
    simp [componentsOf, componentsAmong, Text.cutBetween]

theorem fileName?_of_endsIn {path : String} {name : List Char} (ends : EndsIn path name) :
    fileName? path = some name := by
  rcases ends with ⟨front, trailing, cut, behind, single, isTrailing⟩
  have last : (components path).getLast? = some name := by
    change (componentsOf path.toList).getLast? = some name
    rw [cut, componentsOf_trailing isTrailing, componentsOf_behind behind single]
    simp
  rw [fileName?, last]
  exact if_neg single.1.2.2

theorem componentsAmong_cons (piece : List Char) (rest : List (List Char)) :
    componentsAmong (piece :: rest) =
      if piece = [] ∨ piece = ['.'] then componentsAmong rest
      else piece :: componentsAmong rest := by
  by_cases nothing : piece = [] ∨ piece = ['.']
  · rw [if_pos nothing, componentsAmong, List.filter_cons_of_neg]
    · rfl
    · simpa [or_iff_not_imp_left] using nothing
  · rw [if_neg nothing, componentsAmong, List.filter_cons_of_pos]
    · rfl
    · simpa using nothing

/-- The last component is one of the further pieces, unless there is none among them. -/
theorem last_component_cases {piece name : List Char} {rest : List (List Char)}
    (last : (componentsAmong (piece :: rest)).getLast? = some name) :
    componentsAmong rest = [] ∧ piece = name ∨ (componentsAmong rest).getLast? = some name := by
  rw [componentsAmong_cons] at last
  split_ifs at last
  · exact Or.inr last
  · by_cases noOthers : componentsAmong rest = []
    · rw [noOthers] at last
      exact Or.inl ⟨noOthers, Option.some.inj last⟩
    · rw [List.getLast?_cons_of_ne_nil noOthers] at last
      exact Or.inr last

/-- Pieces that each stand behind a slash. -/
def slashed (pieces : List (List Char)) : List Char :=
  pieces.flatMap fun piece => '/' :: piece

theorem intercalate_eq_slashed (first : List Char) (rest : List (List Char)) :
    List.intercalate ['/'] (first :: rest) = first ++ slashed rest := by
  induction rest generalizing first with
  | nil => simp [slashed]
  | cons next others ih =>
      rw [List.intercalate_cons_cons, ih next]
      simp [slashed]

theorem isTrailing_slashed {pieces : List (List Char)}
    (noComponents : componentsAmong pieces = []) : IsTrailing (slashed pieces) := by
  induction pieces with
  | nil => exact .nothing
  | cons piece rest ih =>
      rw [componentsAmong_cons] at noComponents
      split_ifs at noComponents with nothing
      rcases nothing with rfl | rfl
      · exact .slash (ih noComponents)
      · exact .dot (ih noComponents)

/-- Behind the last component only slashes and single dots are left. -/
theorem exists_cut_slashed {pieces : List (List Char)} {name : List Char}
    (last : (componentsAmong pieces).getLast? = some name) :
    ∃ front trailing, slashed pieces = front ++ name ++ trailing ∧
      front.getLast? = some '/' ∧ IsTrailing trailing := by
  induction pieces with
  | nil => cases last
  | cons piece rest ih =>
      have cut : slashed (piece :: rest) = '/' :: piece ++ slashed rest := rfl
      rcases last_component_cases last with ⟨noOthers, rfl⟩ | lastOfRest
      · exact ⟨['/'], slashed rest, cut, rfl, isTrailing_slashed noOthers⟩
      · rcases ih lastOfRest with ⟨front, trailing, cutRest, slash, isTrailing⟩
        refine ⟨'/' :: piece ++ front, trailing, ?_, ?_, isTrailing⟩
        · rw [cut, cutRest]
          simp
        · rw [List.getLast?_append, slash]
          rfl

theorem isSingle_of_fileName? {path : String} {name : List Char}
    (isName : fileName? path = some name) : IsSingle name := by
  refine ⟨?_, slash_not_mem_fileName isName⟩
  rw [fileName?] at isName
  split at isName
  next found isLast =>
      split_ifs at isName with goesUp
      rcases Option.some.inj isName with rfl
      have kept := (List.mem_filter.mp (List.mem_of_getLast? isLast)).2
      simp only [Bool.and_eq_true, Bool.not_eq_true', List.isEmpty_eq_false_iff, bne_iff_ne] at kept
      exact ⟨kept.1, kept.2, goesUp⟩
  next => cases isName

theorem getLast?_components_of_fileName? {path : String} {name : List Char}
    (isName : fileName? path = some name) : (components path).getLast? = some name := by
  rw [fileName?] at isName
  split at isName
  next found isLast =>
      split_ifs at isName
      rw [isLast, isName]
  next => cases isName

/-- The name of a path is what its text ends in, however it goes on behind it. -/
theorem fileName?_eq_some_iff {path : String} {name : List Char} :
    fileName? path = some name ↔ EndsIn path name := by
  refine ⟨fun isName => ?_, fileName?_of_endsIn⟩
  have single := isSingle_of_fileName? isName
  have last : (componentsOf path.toList).getLast? = some name :=
    getLast?_components_of_fileName? isName
  have joined := Text.intercalate_cutBetween '/' path.toList
  rw [componentsOf] at last
  rcases pieces : Text.cutBetween '/' path.toList with _ | ⟨first, rest⟩
  · exact absurd pieces (Text.cutBetween_ne_nil _ _)
  · rw [pieces] at last joined
    rw [intercalate_eq_slashed] at joined
    rcases last_component_cases last with ⟨noOthers, rfl⟩ | lastOfRest
    · exact ⟨[], slashed rest, joined.symm, Or.inl rfl, single, isTrailing_slashed noOthers⟩
    · rcases exists_cut_slashed lastOfRest with ⟨front, trailing, cut, slash, isTrailing⟩
      refine ⟨first ++ front, trailing, ?_, Or.inr ?_, single, isTrailing⟩
      · rw [← joined, cut]
        simp
      · rw [List.getLast?_append, slash]
        rfl

theorem stem?_eq_some_iff {path stem : String} :
    stem? path = some stem ↔ ∃ name, EndsIn path name ∧ IsStemOf stem.toList name := by
  simp only [stem?, Option.map_eq_some_iff, fileName?_eq_some_iff, ← stemOf_eq_iff]
  refine exists_congr fun name => and_congr_right fun _ => ?_
  constructor
  · rintro rfl
    rw [String.toList_ofList]
  · intro isStem
    rw [isStem, String.ofList_toList]

theorem slash_not_mem_stem {path stem : String} (named : stem? path = some stem) :
    '/' ∉ stem.toList := by
  rcases Option.map_eq_some_iff.mp named with ⟨name, isName, rfl⟩
  rw [String.toList_ofList]
  exact fun slash => slash_not_mem_fileName isName (stemOf_subset name slash)

theorem isSingle_output {extension path stem : String} (isExtension : IsExtension extension)
    (named : stem? path = some stem) : IsSingle (stem ++ "." ++ extension).toList := by
  have letters : (stem ++ "." ++ extension).toList = stem.toList ++ '.' :: extension.toList := by
    simp
  rw [letters]
  refine ⟨isName_append isExtension stem.toList, ?_⟩
  simp [slash_not_mem_stem named, isExtension.2.1]

theorem isAbsolute_append {directory : String} (nonempty : directory ≠ "") (rest : String) :
    isAbsolute (directory ++ rest) = isAbsolute directory := by
  have some_letter : directory.toList ≠ [] := fun none_left =>
    nonempty (String.toList_eq_nil_iff.mp none_left)
  rw [isAbsolute, isAbsolute, String.toList_append, List.head?_append_of_ne_nil _ some_letter]

theorem isAbsolute_of_single {name : String} (single : IsSingle name.toList) :
    isAbsolute name = false := by
  rw [isAbsolute, beq_eq_false_iff_ne]
  exact fun slash => single.2 (List.mem_of_head? slash)

/-- A name behind a directory that needs no slash. -/
theorem isInside_append {directory name : String}
    (behind : directory = "" ∨ directory.toList.getLast? = some '/')
    (single : IsSingle name.toList) : IsInside (directory ++ name) directory name where
  isSingle := single
  text_eq := Or.inl ⟨rfl, behind⟩
  components_eq := by
    have letters : directory.toList = [] ∨ directory.toList.getLast? = some '/' :=
      behind.imp_left String.toList_eq_nil_iff.mpr
    have parts := componentsOf_behind letters single
    rw [← String.toList_append] at parts
    exact parts
  isAbsolute_eq := by
    by_cases empty : directory = ""
    · rw [empty, String.empty_append, isAbsolute_of_single single]
      rfl
    · exact isAbsolute_append empty name

theorem isInside_slash {directory name : String} (nonempty : directory ≠ "")
    (single : IsSingle name.toList) : IsInside (directory ++ "/" ++ name) directory name where
  isSingle := single
  text_eq := Or.inr rfl
  components_eq := by
    have letters : (directory ++ "/" ++ name).toList = directory.toList ++ '/' :: name.toList := by
      simp
    have parts := componentsOf_append directory.toList name.toList
    rw [← letters, componentsOf_single single] at parts
    exact parts
  isAbsolute_eq := by
    rw [String.append_assoc]
    exact isAbsolute_append nonempty ("/" ++ name)

/-- A single name is joined to a directory and stays inside it. -/
theorem isInside_join (directory : String) {name : String} (single : IsSingle name.toList) :
    IsInside (join directory name) directory name := by
  rw [join, isAbsolute_of_single single, if_neg Bool.false_ne_true]
  split_ifs with plain
  · refine isInside_append ?_ single
    simpa using plain
  · refine isInside_slash ?_ single
    rintro rfl
    simp at plain

/-- The output of an input with a stem is this stem with the extension, inside the directory. -/
theorem isInside_output {extension input stem : String} (isExtension : IsExtension extension)
    (named : stem? input = some stem) (directory : String) :
    IsInside (output extension input directory) directory (stem ++ "." ++ extension) := by
  rw [output, named, Option.getD_some]
  exact isInside_join directory (isSingle_output isExtension named)

/-- Inside one directory, names make the same path only if they are the same. -/
theorem IsInside.same_iff {path other directory name otherName : String}
    (inside : IsInside path directory name) (otherInside : IsInside other directory otherName) :
    Same path other ↔ name = otherName := by
  rw [Same, inside.isAbsolute_eq, otherInside.isAbsolute_eq, inside.components_eq,
    otherInside.components_eq]
  simp [String.toList_inj]

/-- Two inputs share an output of one kind exactly if they share their stem, whether outputs are
compared as paths or as texts. -/
theorem output_same_iff {extension input stem other otherStem : String}
    (isExtension : IsExtension extension) (named : stem? input = some stem)
    (otherNamed : stem? other = some otherStem) (directory : String) :
    (Same (output extension input directory) (output extension other directory) ↔
        stem = otherStem) ∧
      (output extension input directory = output extension other directory ↔
        stem = otherStem) := by
  have same_iff : Same (output extension input directory) (output extension other directory) ↔
      stem = otherStem := by
    rw [(isInside_output isExtension named directory).same_iff
      (isInside_output isExtension otherNamed directory)]
    simp
  refine ⟨same_iff, fun equal => same_iff.mp (equal ▸ ⟨rfl, rfl⟩), ?_⟩
  rintro rfl
  rw [output, output, named, otherNamed, Option.getD_some, Option.getD_some]

/-- The outputs of an input that has a name. Its stem is the text that `EndsIn` and `IsStemOf` tell,
and no other. Summary and chart are the stem with their extensions inside the directory of the
outputs, as single names that keep the directory where it begins, and they are two paths. Other
inputs have the same summary, and the same chart, exactly if they have the same stem. -/
theorem outputs_inside {input stem : String} (named : stem? input = some stem)
    (directory : String) :
    (∀ text : String, (∃ name, EndsIn input name ∧ IsStemOf text.toList name) ↔ text = stem) ∧
      IsInside (summary input directory) directory (stem ++ ".json") ∧
      IsInside (chart input directory) directory (stem ++ ".svg") ∧
      ¬Same (summary input directory) (chart input directory) ∧
      ∀ other otherStem, stem? other = some otherStem →
        ((Same (summary input directory) (summary other directory) ↔ stem = otherStem) ∧
          (summary input directory = summary other directory ↔ stem = otherStem)) ∧
        ((Same (chart input directory) (chart other directory) ↔ stem = otherStem) ∧
          (chart input directory = chart other directory ↔ stem = otherStem)) := by
  have summaryInside : IsInside (summary input directory) directory (stem ++ ".json") := by
    have inside := isInside_output isExtension_json named directory
    rwa [String.append_assoc, show "." ++ "json" = ".json" by decide] at inside
  have chartInside : IsInside (chart input directory) directory (stem ++ ".svg") := by
    have inside := isInside_output isExtension_svg named directory
    rwa [String.append_assoc, show "." ++ "svg" = ".svg" by decide] at inside
  refine ⟨?_, summaryInside, chartInside, ?_, ?_⟩
  · intro text
    rw [← stem?_eq_some_iff, named, Option.some.injEq, eq_comm]
  · rw [summaryInside.same_iff chartInside, String.append_right_inj]
    decide
  · intro other otherStem otherNamed
    exact ⟨output_same_iff isExtension_json named otherNamed directory,
      output_same_iff isExtension_svg named otherNamed directory⟩

/-- Dots, doubled slashes and what trails behind the name do not lead out of the directory. -/
theorem outputs_inside_of_trailing_dot :
    stem? "/data//..run.2024.txt/./" = some "..run.2024" ∧
      IsInside (summary "/data//..run.2024.txt/./" "out") "out" "..run.2024.json" ∧
      stem? "../.run" = some ".run" ∧
      ¬Same (chart "/data//..run.2024.txt/./" "out") (chart "../.run" "out") := by
  have named : stem? "/data//..run.2024.txt/./" = some "..run.2024" := by decide
  have otherNamed : stem? "../.run" = some ".run" := by decide
  rcases outputs_inside named "out" with ⟨_, summaryInside, _, _, apart⟩
  refine ⟨named, summaryInside, otherNamed, ?_⟩
  rw [(apart _ _ otherNamed).2.1]
  decide

end SampleChart.Path
