import SampleChart.Command.Arguments
import SampleChart.Proofs.Stages
import SampleChart.Proofs.Text.Cuts

/-!
# The words of a command line

What a command line says does not depend on the way in which it is read. `Spells` is the grammar:
an option with its value in one argument or in two, a flag, an input, and behind two dashes nothing
but inputs. Arguments that are accepted are spelled, and a draft holds what the words say that were
taken: `Draft.Holds` tells each of its fields by them. One step takes one word, and the run over all
arguments is an induction on how they are spelled.
-/

namespace SampleChart

/-- The name of an option, which stands behind two dashes. -/
def Setting.name : Setting → String
  | layout => "layout"
  | baseline => "baseline"
  | dispersion => "dispersion"
  | sum => "sum"
  | title => "title"
  | xLabel => "x-label"
  | yLabel => "y-label"
  | outputDirectory => "output-dir"

/-- The name of a flag, which stands behind two dashes. -/
def Flag.name : Flag → String
  | logScale => "log-scale"
  | noPlot => "no-plot"
  | help => "help"
  | version => "version"

/-- What one argument says, or an option and the argument behind it. -/
inductive Word where
  | setting (setting : Setting) (value : String)
  | flag (flag : Flag)
  | input (path : String)
  deriving DecidableEq

namespace Word

/-- The values that an option is given, in their order. -/
def given (setting : Setting) (words : List Word) : List String :=
  words.filterMap fun
    | .setting other value => if other = setting then some value else none
    | _ => none

def inputs (words : List Word) : List String :=
  words.filterMap fun
    | .input path => some path
    | _ => none

variable {setting other : Setting} {value : String} {flag : Flag} {path : String}
  {words later : List Word}

/-- What is given for a setting is collected from the words in their order. -/
@[simp] theorem given_append :
    given setting (words ++ later) = given setting words ++ given setting later :=
  List.filterMap_append

@[simp] theorem inputs_append : inputs (words ++ later) = inputs words ++ inputs later :=
  List.filterMap_append

@[simp] theorem given_setting :
    given setting [.setting other value] = if other = setting then [value] else [] := by
  simp only [given, List.filterMap_cons, List.filterMap_nil]
  split_ifs <;> rfl

@[simp] theorem given_flag : given setting [.flag flag] = [] := rfl

@[simp] theorem given_input : given setting [.input path] = [] := rfl

@[simp] theorem inputs_setting : inputs [.setting setting value] = [] := rfl

@[simp] theorem inputs_flag : inputs [.flag flag] = [] := rfl

@[simp] theorem inputs_input : inputs [.input path] = [path] := rfl

/-- A value is given for a setting exactly if some word gives it. -/
theorem mem_given_iff : value ∈ given setting words ↔ .setting setting value ∈ words := by
  simp only [given, List.mem_filterMap]
  constructor
  · rintro ⟨word, present, isValue⟩
    split at isValue
    next other text =>
      split_ifs at isValue with same
      rcases same with rfl
      rcases Option.some.inj isValue with rfl
      exact present
    next => cases isValue
  · intro present
    exact ⟨_, present, if_pos rfl⟩

theorem given_eq_nil_iff : given setting words = [] ↔ ∀ value, .setting setting value ∉ words := by
  simp only [List.eq_nil_iff_forall_not_mem, mem_given_iff]

end Word

/-- Whether an argument is no option. A single dash is none. -/
def IsPlain (argument : String) : Prop :=
  argument.toList.head? ≠ some '-' ∨ argument = "-"

instance : DecidablePred IsPlain := fun _ => inferInstanceAs (Decidable (_ ∨ _))

/-- The arguments spell the words. -/
inductive Spells : List String → List Word → Prop
  | nothing : Spells [] []
  | separator (paths : List String) : Spells ("--" :: paths) (paths.map .input)
  | input {path : String} {arguments : List String} {words : List Word} (plain : IsPlain path)
      (rest : Spells arguments words) : Spells (path :: arguments) (.input path :: words)
  | joined {setting : Setting} {value : String} {arguments : List String} {words : List Word}
      (rest : Spells arguments words) :
      Spells (("--" ++ setting.name ++ "=" ++ value) :: arguments) (.setting setting value :: words)
  | apart {setting : Setting} {value : String} {arguments : List String} {words : List Word}
      (plain : IsPlain value) (rest : Spells arguments words) :
      Spells (("--" ++ setting.name) :: value :: arguments) (.setting setting value :: words)
  | flag {flag : Flag} {arguments : List String} {words : List Word}
      (rest : Spells arguments words) :
      Spells (("--" ++ flag.name) :: arguments) (.flag flag :: words)

/-- A setting is found by its own name. -/
theorem Setting.ofName?_name (setting : Setting) : ofName? setting.name = some setting := by
  cases setting <;> rfl

theorem Flag.ofName?_name (flag : Flag) : ofName? flag.name = some flag := by
  cases flag <;> rfl

/-- No flag has the name of an option with a value. -/
theorem Setting.ofName?_flag (flag : Flag) : ofName? flag.name = none := by
  cases flag <;> rfl

/-- No other name than its own leads to a setting. -/
theorem Setting.eq_name_of_ofName? {name : String} {setting : Setting}
    (found : ofName? name = some setting) : name = setting.name := by
  unfold ofName? at found
  split at found <;> cases found <;> rfl

theorem Flag.eq_name_of_ofName? {name : String} {flag : Flag}
    (found : ofName? name = some flag) : name = flag.name := by
  unfold ofName? at found
  split at found <;> cases found <;> rfl

/-- The name of a setting ends where its value begins: it has no equals sign in it. -/
theorem Setting.name_unmarked (setting : Setting) : '=' ∉ setting.name.toList := by
  cases setting <;> decide

theorem Setting.name_nonempty (setting : Setting) : setting.name ≠ "" := by
  cases setting <;> decide

theorem Flag.name_unmarked (flag : Flag) : '=' ∉ flag.name.toList := by
  cases flag <;> decide

theorem Flag.name_nonempty (flag : Flag) : flag.name ≠ "" := by
  cases flag <;> decide

namespace Argument

variable {text name value : String}

/-- An argument behind two dashes is cut at its first equals sign, if it has one. -/
theorem ofText_of_dashes {rest : List Char} (letters : text.toList = '-' :: '-' :: rest)
    (nonempty : rest ≠ []) :
    ofText text =
      match Text.cutAtFirst '=' rest with
      | some (name, value) => .long (String.ofList name) (some (String.ofList value))
      | none => .long (String.ofList rest) none := by
  rw [ofText, letters]
  cases rest with
  | nil => exact absurd rfl nonempty
  | cons letter rest => rfl

/-- A name and a value with an equals sign between them are read as these, whatever is in the value.
-/
theorem ofText_joined (unmarked : '=' ∉ name.toList) (value : String) :
    ofText ("--" ++ name ++ "=" ++ value) = .long name (some value) := by
  have letters : ("--" ++ name ++ "=" ++ value).toList =
      '-' :: '-' :: (name.toList ++ '=' :: value.toList) := by simp
  rw [ofText_of_dashes letters (by simp), Text.cutAtFirst_append unmarked]
  simp

theorem ofText_alone (unmarked : '=' ∉ name.toList) (nonempty : name ≠ "") :
    ofText ("--" ++ name) = .long name none := by
  have letters : ("--" ++ name).toList = '-' :: '-' :: name.toList := by simp
  rw [ofText_of_dashes letters (by simpa using nonempty),
    Text.cutAtFirst_eq_none_iff.mpr unmarked]
  simp

/-- How an argument is written that is read in some way. -/
inductive IsWritten : String → Argument → Prop
  | separator : IsWritten "--" .separator
  | joined (name value : String) :
      IsWritten ("--" ++ name ++ "=" ++ value) (.long name (some value))
  | alone (name : String) : IsWritten ("--" ++ name) (.long name none)
  | short (text : String) (letters : List Char) : IsWritten text (.short letters)
  | plain {text : String} (isPlain : IsPlain text) : IsWritten text .plain

/-- Every argument is written in the form that it is read as. -/
theorem isWritten_ofText (text : String) : IsWritten text (ofText text) := by
  unfold ofText
  split
  next letters =>
    have written : text = "--" := String.toList_inj.mp letters
    rw [written]
    exact .separator
  next rest _ letters =>
    split
    next name value cut =>
      have written : text = "--" ++ String.ofList name ++ "=" ++ String.ofList value := by
        apply String.toList_inj.mp
        simp [letters, (Text.eq_append_of_cutAtFirst cut).1]
      rw [written]
      exact .joined _ _
    next =>
      have written : text = "--" ++ String.ofList rest := by
        apply String.toList_inj.mp
        simp [letters]
      rw [written]
      exact .alone _
  next letters => exact .plain (Or.inr (String.toList_inj.mp letters))
  next => exact .short text _
  next noDash =>
    apply IsWritten.plain
    left
    rw [Ne, List.head?_eq_some_iff]
    rintro ⟨letters, dashed⟩
    exact noDash letters dashed

/-- An argument that is read in some form is written in that form. -/
theorem isWritten_of_ofText {argument : Argument} (form : ofText text = argument) :
    IsWritten text argument :=
  form ▸ isWritten_ofText text

/-- Plain is what does not begin with a dash, and the single dash. -/
theorem ofText_eq_plain_iff : ofText text = .plain ↔ IsPlain text := by
  constructor
  · intro form
    cases isWritten_of_ofText form with
    | plain isPlain => exact isPlain
  · rintro (undashed | rfl)
    · rw [Ne, List.head?_eq_some_iff] at undashed
      unfold ofText
      split <;> simp_all
    · rfl

end Argument

namespace Draft

/-- The draft holds what the words say, each once except the sums. -/
structure Holds (draft : Draft) (words : List Word) : Prop where
  input : Word.inputs words = draft.input.toList
  layout : (Word.given .layout words).map (Named.ofName? false) = draft.layout.toList.map some
  baseline : Word.given .baseline words = draft.baseline.toList
  dispersion :
    (Word.given .dispersion words).map (Named.ofName? false) = draft.dispersion.toList.map some
  sums : (Word.given .sum words).map DerivedSeries.parse = draft.sums.map .ok
  logScale : draft.logScale = true ↔ .flag .logScale ∈ words
  title : Word.given .title words = draft.title.toList
  xLabel : Word.given .xLabel words = draft.xLabel.toList
  yLabel : Word.given .yLabel words = draft.yLabel.toList
  outputDirectory : Word.given .outputDirectory words = draft.outputDirectory.toList
  noPlot : draft.noPlot = true ↔ .flag .noPlot ∈ words

variable {draft next result : Draft} {argument text : String} {arguments : List String}
  {before words : List Word}

/-- A setting takes a value only if it has none yet. -/
theorem once_eq_ok_iff {α : Type} {old new : Option α} {value : α} :
    once argument old value = .ok new ↔ old = none ∧ some value = new := by
  cases old <;> simp [once]

/-- A value counts if it can be read, and then as what it is read as. -/
theorem valid_eq_ok_iff {α : Type} {read : Option α} {value : α} :
    valid argument text read = .ok value ↔ read = some value := by
  cases read <;> simp [valid]

/-- Every text but the empty one counts as a path. -/
theorem path_eq_ok_iff {value : String} :
    path argument text = .ok value ↔ text ≠ "" ∧ text = value := by
  rw [path, valid_eq_ok_iff]
  split_ifs with empty <;> simp_all

theorem toOption_eq_some_iff {ε α : Type} {read : Except ε α} {value : α} :
    read.toOption = some value ↔ read = .ok value := by
  cases read <;> simp [Except.toOption]

theorem holds_nothing : Holds {} [] := by
  constructor <;> simp [Word.given, Word.inputs]

/-- An option changes its own field, which was empty before, and its word is for no other field. -/
theorem Holds.set {setting : Setting} (holds : draft.Holds before)
    (taken : draft.set argument setting text = .ok next) :
    next.Holds (before ++ [.setting setting text]) := by
  rcases holds with ⟨input, layout, baseline, dispersion, sums, logScale, title, xLabel, yLabel,
    outputDirectory, noPlot⟩
  cases setting
  all_goals
    simp only [Draft.set, bind_eq_ok_iff, once_eq_ok_iff, valid_eq_ok_iff, path_eq_ok_iff,
      toOption_eq_some_iff, pure, Except.pure, Except.ok.injEq] at taken
  case layout | dispersion =>
    rcases taken with ⟨value, read, _, ⟨fresh, rfl⟩, rfl⟩
    constructor <;> simp [*]
  case baseline | title | xLabel | yLabel =>
    rcases taken with ⟨_, ⟨fresh, rfl⟩, rfl⟩
    constructor <;> simp [*]
  case sum =>
    rcases taken with ⟨value, read, rfl⟩
    constructor <;> simp [*]
  case outputDirectory =>
    rcases taken with ⟨_, ⟨_, rfl⟩, _, ⟨fresh, rfl⟩, rfl⟩
    constructor <;> simp [*]

/-- A flag that is raised is one more word that the draft holds. -/
theorem Holds.raise {flag : Flag} (holds : draft.Holds before)
    (taken : draft.raise argument flag = .ok next) : next.Holds (before ++ [.flag flag]) := by
  rcases holds with ⟨input, layout, baseline, dispersion, sums, logScale, title, xLabel, yLabel,
    outputDirectory, noPlot⟩
  cases flag
  case logScale | noPlot =>
    rw [Draft.raise] at taken
    split_ifs at taken
    cases taken
    constructor <;> simp [*]
  case help | version => cases taken

/-- A path that is taken is one more word that the draft holds. -/
theorem Holds.take {path : String} (holds : draft.Holds before)
    (taken : draft.take path = .ok next) : next.Holds (before ++ [.input path]) := by
  rcases holds with ⟨input, layout, baseline, dispersion, sums, logScale, title, xLabel, yLabel,
    outputDirectory, noPlot⟩
  rw [Draft.take] at taken
  split at taken
  next => cases taken
  next fresh =>
    simp only [bind_eq_ok_iff, path_eq_ok_iff, pure, Except.pure, Except.ok.injEq] at taken
    rcases taken with ⟨_, ⟨_, rfl⟩, rfl⟩
    constructor <;> simp [*]

theorem Holds.takeAll {paths : List String} (holds : draft.Holds before)
    (taken : draft.takeAll paths = .ok result) :
    result.Holds (before ++ paths.map .input) := by
  induction paths generalizing draft before with
  | nil =>
      cases taken
      simpa using holds
  | cons path rest ih =>
      rw [Draft.takeAll, bind_eq_ok_iff] at taken
      rcases taken with ⟨next, first, others⟩
      simpa using ih (holds.take first) others

/-- A plain argument is taken as a path, and the rest is read after it. -/
theorem takeArguments_input (plain : IsPlain text) :
    draft.takeArguments (text :: arguments) =
      draft.take text >>= fun next => next.takeArguments arguments := by
  rw [takeArguments, Argument.ofText_eq_plain_iff.mpr plain]

/-- A setting with its value in the same argument is set before the rest is read. -/
theorem takeArguments_joined (setting : Setting) :
    draft.takeArguments (("--" ++ setting.name ++ "=" ++ text) :: arguments) =
      draft.set ("--" ++ setting.name ++ "=" ++ text) setting text >>=
        fun next => next.takeArguments arguments := by
  simp only [takeArguments, Argument.ofText_joined setting.name_unmarked, setting.ofName?_name]

/-- A setting takes its value from the next argument, if this is plain. -/
theorem takeArguments_apart (setting : Setting) (plain : IsPlain text) :
    draft.takeArguments (("--" ++ setting.name) :: text :: arguments) =
      draft.set ("--" ++ setting.name) setting text >>=
        fun next => next.takeArguments arguments := by
  simp only [takeArguments, Argument.ofText_alone setting.name_unmarked setting.name_nonempty,
    setting.ofName?_name, Argument.ofText_eq_plain_iff.mpr plain, if_true]

theorem takeArguments_flag (flag : Flag) :
    draft.takeArguments (("--" ++ flag.name) :: arguments) =
      draft.raise ("--" ++ flag.name) flag >>= fun next => next.takeArguments arguments := by
  simp only [takeArguments, Argument.ofText_alone flag.name_unmarked flag.name_nonempty,
    Setting.ofName?_flag, flag.ofName?_name]

/-- The draft that is made of arguments holds all of what they say. -/
theorem Holds.takeArguments (spells : Spells arguments words) (holds : draft.Holds before)
    (taken : draft.takeArguments arguments = .ok result) : result.Holds (before ++ words) := by
  induction spells generalizing draft before with
  | nothing =>
      cases taken
      simpa using holds
  | separator paths => exact holds.takeAll taken
  | input plain _ ih =>
      rw [takeArguments_input plain, bind_eq_ok_iff] at taken
      rcases taken with ⟨next, first, others⟩
      simpa using ih (holds.take first) others
  | joined _ ih =>
      rw [takeArguments_joined, bind_eq_ok_iff] at taken
      rcases taken with ⟨next, first, others⟩
      simpa using ih (holds.set first) others
  | apart plain _ ih =>
      rw [takeArguments_apart _ plain, bind_eq_ok_iff] at taken
      rcases taken with ⟨next, first, others⟩
      simpa using ih (holds.set first) others
  | flag _ ih =>
      rw [takeArguments_flag, bind_eq_ok_iff] at taken
      rcases taken with ⟨next, first, others⟩
      simpa using ih (holds.raise first) others

/-- Arguments that are accepted are spelled. -/
theorem exists_spells (taken : draft.takeArguments arguments = .ok result) :
    ∃ words, Spells arguments words := by
  induction draft, arguments using takeArguments.induct with
  | case1 => exact ⟨_, .nothing⟩
  | case2 draft argument rest form =>
      cases Argument.isWritten_of_ofText form
      exact ⟨_, .separator rest⟩
  | case3 draft argument rest letters form =>
      rw [takeArguments, form] at taken
      cases taken
  | case4 draft argument rest form ih =>
      have plain := Argument.ofText_eq_plain_iff.mp form
      rw [takeArguments_input plain, bind_eq_ok_iff] at taken
      rcases taken with ⟨next, _, others⟩
      rcases ih next others with ⟨words, spells⟩
      exact ⟨_, .input plain spells⟩
  | case5 draft argument rest name setting value found form ih =>
      rcases Setting.eq_name_of_ofName? found with rfl
      cases Argument.isWritten_of_ofText form
      rw [takeArguments_joined, bind_eq_ok_iff] at taken
      rcases taken with ⟨next, _, others⟩
      rcases ih next others with ⟨words, spells⟩
      exact ⟨_, .joined spells⟩
  | case6 draft argument name setting found form =>
      simp only [takeArguments, form, found, reduceCtorEq] at taken
  | case7 draft argument name setting found value rest valueForm form ih =>
      have plain := Argument.ofText_eq_plain_iff.mp valueForm
      rcases Setting.eq_name_of_ofName? found with rfl
      cases Argument.isWritten_of_ofText form
      rw [takeArguments_apart _ plain, bind_eq_ok_iff] at taken
      rcases taken with ⟨next, _, others⟩
      rcases ih next others with ⟨words, spells⟩
      exact ⟨_, .apart plain spells⟩
  | case8 draft argument name setting found value rest notPlain form =>
      simp only [takeArguments, form, found, if_neg notPlain, reduceCtorEq] at taken
  | case9 draft argument rest name flag found _ form ih =>
      rcases Flag.eq_name_of_ofName? found with rfl
      cases Argument.isWritten_of_ofText form
      rw [takeArguments_flag, bind_eq_ok_iff] at taken
      rcases taken with ⟨next, _, others⟩
      rcases ih next others with ⟨words, spells⟩
      exact ⟨_, .flag spells⟩
  | case10 draft argument rest name flag value found noSetting form =>
      simp only [takeArguments, form, found, noSetting, reduceCtorEq] at taken
  | case11 draft argument rest name value form noFlag noSetting =>
      simp only [takeArguments, form, noFlag, noSetting, reduceCtorEq] at taken

end Draft

end SampleChart
