import SampleChart.Command.Options
import SampleChart.Text.Lines

/-!
# Arguments

Arguments are read from left to right, and the first one that asks for help or the version, or that
cannot be read, decides. An option has its value behind an equals sign or as the next argument,
which then may not begin with a dash unless it is a single one. Options have no short forms and
cannot be abbreviated; only sums may be given more than once. Two dashes end the options, and
everything behind them is an input, of which there has to be exactly one.
-/

namespace SampleChart

/-- Why arguments cannot be read. -/
inductive UsageFault where
  /-- There is no such option. -/
  | unknownOption (argument : String)
  /-- An option or a flag stands twice. -/
  | repeated (argument : String)
  /-- An option stands without its value. -/
  | missingValue (argument : String)
  /-- A flag stands with a value. -/
  | unexpectedValue (argument : String)
  /-- An option has a value that it cannot have. -/
  | invalidValue (argument value : String)
  /-- There is an input already. -/
  | secondInput (argument : String)
  /-- There is no input. -/
  | missingInput
  deriving DecidableEq, Repr

/-- Why no run follows from some arguments. -/
inductive Refusal where
  /-- Help is asked for. -/
  | help
  /-- The version is asked for. -/
  | version
  /-- The arguments cannot be read. -/
  | usage (fault : UsageFault)
  deriving DecidableEq, Repr

/-- The options that have a value. -/
inductive Setting where
  | layout
  | baseline
  | dispersion
  | sum
  | title
  | xLabel
  | yLabel
  | outputDirectory
  deriving DecidableEq, Repr

/-- The options that have none. -/
inductive Flag where
  | logScale
  | noPlot
  | help
  | version
  deriving DecidableEq, Repr

namespace Setting

/-- The options with a value by their names. -/
def ofName? : String → Option Setting
  | "layout" => some layout
  | "baseline" => some baseline
  | "dispersion" => some dispersion
  | "sum" => some sum
  | "title" => some title
  | "x-label" => some xLabel
  | "y-label" => some yLabel
  | "output-dir" => some outputDirectory
  | _ => none

end Setting

namespace Flag

/-- The options without a value by their names. -/
def ofName? : String → Option Flag
  | "log-scale" => some logScale
  | "no-plot" => some noPlot
  | "help" => some help
  | "version" => some version
  | _ => none

end Flag

/-- What the arguments so far ask for. -/
structure Draft where
  input : Option String := none
  layout : Option Layout := none
  baseline : Option String := none
  dispersion : Option Dispersion := none
  sums : List DerivedSeries := []
  logScale : Bool := false
  title : Option String := none
  xLabel : Option String := none
  yLabel : Option String := none
  outputDirectory : Option String := none
  noPlot : Bool := false
  deriving DecidableEq, Repr

namespace Draft

/-- Gives an option its value, once. -/
def once {α : Type} (argument : String) (old : Option α) (value : α) :
    Except Refusal (Option α) :=
  match old with
  | none => .ok (some value)
  | some _ => .error (.usage (.repeated argument))

/-- The value of an option, if its text is one. -/
def valid {α : Type} (argument text : String) : Option α → Except Refusal α
  | some value => .ok value
  | none => .error (.usage (.invalidValue argument text))

/-- The text of a path, which may not be empty. -/
def path (argument text : String) : Except Refusal String :=
  valid argument text (if text.isEmpty then none else some text)

def set (draft : Draft) (argument : String) (setting : Setting) (text : String) :
    Except Refusal Draft := do
  match setting with
  | .layout =>
      let value ← valid argument text (Named.ofName? false text)
      return { draft with layout := ← once argument draft.layout value }
  | .baseline => return { draft with baseline := ← once argument draft.baseline text }
  | .dispersion =>
      let value ← valid argument text (Named.ofName? false text)
      return { draft with dispersion := ← once argument draft.dispersion value }
  | .sum =>
      let value ← valid argument text (DerivedSeries.parse text).toOption
      return { draft with sums := draft.sums ++ [value] }
  | .title => return { draft with title := ← once argument draft.title text }
  | .xLabel => return { draft with xLabel := ← once argument draft.xLabel text }
  | .yLabel => return { draft with yLabel := ← once argument draft.yLabel text }
  | .outputDirectory =>
      let value ← path argument text
      return { draft with outputDirectory := ← once argument draft.outputDirectory value }

def raise (draft : Draft) (argument : String) : Flag → Except Refusal Draft
  | .logScale =>
      if draft.logScale then .error (.usage (.repeated argument))
      else .ok { draft with logScale := true }
  | .noPlot =>
      if draft.noPlot then .error (.usage (.repeated argument))
      else .ok { draft with noPlot := true }
  | .help => .error .help
  | .version => .error .version

/-- Takes an argument that is no option. -/
def take (draft : Draft) (argument : String) : Except Refusal Draft :=
  match draft.input with
  | some _ => .error (.usage (.secondInput argument))
  | none => do return { draft with input := some (← path argument argument) }

/-- What short options ask for, of which only those for help and the version exist. -/
def short (argument : String) : List Char → Refusal
  | 'h' :: _ => .help
  | 'V' :: _ => .version
  | _ => .usage (.unknownOption argument)

/-- Takes the arguments behind two dashes. -/
def takeAll (draft : Draft) : List String → Except Refusal Draft
  | [] => .ok draft
  | argument :: rest => do
      let draft ← draft.take argument
      draft.takeAll rest

/-- The options that a draft amounts to. -/
def finish (draft : Draft) : Except Refusal Options :=
  match draft.input with
  | none => .error (.usage .missingInput)
  | some input =>
      .ok
        { input
          layout := draft.layout.getD .auto
          baseline := draft.baseline
          dispersion := draft.dispersion
          sums := draft.sums
          logScale := draft.logScale
          title := draft.title
          xLabel := draft.xLabel
          yLabel := draft.yLabel
          outputDirectory := draft.outputDirectory.getD "."
          noPlot := draft.noPlot }

end Draft

/-- What an argument is by its form. -/
inductive Argument where
  /-- Two dashes. -/
  | separator
  /-- An option by its name, with the value behind an equals sign. -/
  | long (name : String) (value : Option String)
  /-- Short options, without their dash. -/
  | short (letters : List Char)
  /-- No option; a single dash is one of these. -/
  | plain
  deriving DecidableEq, Repr

def Argument.ofText (text : String) : Argument :=
  match text.toList with
  | ['-', '-'] => separator
  | '-' :: '-' :: rest =>
      match Text.cutAtFirst '=' rest with
      | some (name, value) => long (String.ofList name) (some (String.ofList value))
      | none => long (String.ofList rest) none
  | ['-'] => plain
  | '-' :: letters => short letters
  | _ => plain

/-- Takes arguments from left to right. -/
def Draft.takeArguments (draft : Draft) : List String → Except Refusal Draft
  | [] => .ok draft
  | argument :: rest =>
      match Argument.ofText argument with
      | .separator => draft.takeAll rest
      | .short letters => .error (short argument letters)
      | .plain => do
          let draft ← draft.take argument
          draft.takeArguments rest
      | .long name value =>
          match Setting.ofName? name, Flag.ofName? name, value with
          | some setting, _, some value => do
              let draft ← draft.set argument setting value
              draft.takeArguments rest
          | some setting, _, none =>
              match rest with
              | [] => .error (.usage (.missingValue argument))
              | value :: rest =>
                  if Argument.ofText value = .plain then do
                    let draft ← draft.set argument setting value
                    draft.takeArguments rest
                  else .error (.usage (.missingValue argument))
          | none, some flag, none => do
              let draft ← draft.raise argument flag
              draft.takeArguments rest
          | none, some _, some _ => .error (.usage (.unexpectedValue argument))
          | none, none, _ => .error (.usage (.unknownOption argument))

/-- The options that some arguments ask for. -/
def Options.ofArguments (arguments : List String) : Except Refusal Options := do
  let draft ← Draft.takeArguments {} arguments
  draft.finish

end SampleChart
