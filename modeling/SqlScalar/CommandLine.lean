import SqlScalar.Demo

/-! # Command line

The options of the command line and what is done for them: the report on the sample
expressions is written under the mode that was asked for. An option may be given once, a
value stands behind its option or is joined to it by an equals sign, and nothing but
options is understood.
-/

namespace SqlScalar.CommandLine

/-- What the arguments ask for. An option that is not given has no value. -/
structure Settings where
  modeName : Option String
  nullConcatIsNull : Option Bool
  plusConcatenates : Bool
  forceDecimal : Bool
  debug : Bool

/-- The options that take a value. -/
inductive ValueOption where
  | mode
  | nullConcatIsNull

/-- The options that are raised by being given. -/
inductive Flag where
  | plusConcatenates
  | forceDecimal
  | debug

/-- What is known of the arguments after some of them. -/
structure Reading where
  settings : Settings
  /-- The option that still needs a value. -/
  pending : Option ValueOption
  /-- Whether the end of the options has been marked. -/
  ended : Bool

namespace Settings

/-- Without arguments nothing is asked for. -/
def initial : Settings :=
  ⟨none, none, false, false, false⟩

/-- The settings with a value given to an option, unless it has one or cannot have this
one. -/
def give? (settings : Settings) (option : ValueOption) (value : String) : Option Settings :=
  match option with
  | .mode =>
      if settings.modeName.isSome then none else some { settings with modeName := some value }
  | .nullConcatIsNull =>
      if settings.nullConcatIsNull.isSome then none
      else if value = "true" then some { settings with nullConcatIsNull := some true }
      else if value = "false" then some { settings with nullConcatIsNull := some false }
      else none

/-- The settings with a flag set, unless it is set already. -/
def raise? (settings : Settings) (flag : Flag) : Option Settings :=
  match flag with
  | .plusConcatenates =>
      if settings.plusConcatenates then none else some { settings with plusConcatenates := true }
  | .forceDecimal =>
      if settings.forceDecimal then none else some { settings with forceDecimal := true }
  | .debug => if settings.debug then none else some { settings with debug := true }

/-- The mode the settings ask for, if its name is that of a mode. -/
def mode? (settings : Settings) : Option Mode := do
  let mode ← Mode.named? (settings.modeName.getD "REGULAR")
  some { mode with
    nullConcatIsNull := settings.nullConcatIsNull.getD mode.nullConcatIsNull
    plusConcatenates := settings.plusConcatenates || mode.plusConcatenates
    forceDecimal := settings.forceDecimal || mode.forceDecimal }

end Settings

namespace Reading

/-- Before the first argument nothing has been read. -/
def initial : Reading :=
  ⟨.initial, none, false⟩

/-- The option that was waiting for a value gets it. -/
def give? (reading : Reading) (option : ValueOption) (value : String) : Option Reading := do
  let settings ← reading.settings.give? option value
  some { reading with settings := settings, pending := none }

/-- A flag can be raised in any place where an option can stand. -/
def raise? (reading : Reading) (flag : Flag) : Option Reading := do
  let settings ← reading.settings.raise? flag
  some { reading with settings := settings }

/-- The reading after an option that takes a value, which may be joined to it. -/
def demand? (reading : Reading) (option : ValueOption) (joined : Option String) :
    Option Reading :=
  match joined with
  | some value => reading.give? option value
  | none => some { reading with pending := some option }

/-- Reads an option written out in full, with the value joined to it if there is one. -/
def long? (reading : Reading) (name : String) (joined : Option String) : Option Reading :=
  match name, joined with
  | "mode", joined => reading.demand? .mode joined
  | "null-concat-is-null", joined => reading.demand? .nullConcatIsNull joined
  | "plus-concat", none => reading.raise? .plusConcatenates
  | "force-decimal", none => reading.raise? .forceDecimal
  | "debug", none => reading.raise? .debug
  | _, _ => none

/-- Reads options written as single letters. The rest behind an option that takes a value
is its value. -/
def short? (reading : Reading) : List Char → Option Reading
  | [] => some reading
  | 'd' :: rest => do
      let reading ← reading.raise? .debug
      reading.short? rest
  | ['m'] => reading.demand? .mode none
  | 'm' :: '=' :: value => reading.give? .mode (String.ofList value)
  | 'm' :: value => reading.give? .mode (String.ofList value)
  | _ => none

/-- The name of an option and the value joined to it, if there is one. -/
def splitJoined (text : List Char) : String × Option String :=
  let (name, rest) := text.span (· != '=')
  match rest with
  | [] => (String.ofList name, none)
  | _ :: value => (String.ofList name, some (String.ofList value))

/-- The reading after one more argument. A value has no hyphen in front, other than a hyphen
alone, and behind the end of the options nothing is taken. -/
def take? (reading : Reading) (argument : String) : Option Reading :=
  if reading.ended then none
  else
    match reading.pending, argument.toList with
    | some _, '-' :: _ :: _ => none
    | some option, _ => reading.give? option argument
    | none, ['-', '-'] => some { reading with ended := true }
    | none, '-' :: '-' :: text =>
        let (name, joined) := splitJoined text
        reading.long? name joined
    | none, '-' :: letter :: letters => reading.short? (letter :: letters)
    | none, _ => none

end Reading

/-- What the arguments of a command line ask for, if they can be understood. -/
def settings? (arguments : List String) : Option Settings := do
  let reading ← arguments.foldlM Reading.take? .initial
  if reading.pending.isSome then none else some reading.settings

/-- What the program does with its arguments. -/
inductive Response where
  | rejected
  | unknownMode (name : String)
  | report (lines : List String)

namespace Response

/-- A failure shows in the code the program ends with. -/
def exitCode : Response → UInt32
  | rejected => 2
  | unknownMode _ => 1
  | report _ => 0

/-- The lines the program prints. -/
def output : Response → List String
  | report lines => lines
  | _ => []

/-- What the program prints to the error stream, if it fails. -/
def complaint : Response → String
  | rejected => "error: the arguments could not be understood"
  | unknownMode name => "Error: Unknown compatibility mode: " ++ name
  | report _ => ""

end Response

/-- The answer to some arguments. The mode is settled before the report is made. -/
def respond (arguments : List String) : Response :=
  match settings? arguments with
  | none => .rejected
  | some settings =>
      match settings.mode? with
      | none => .unknownMode (settings.modeName.getD "REGULAR")
      | some mode => .report (Demo.report mode)

end SqlScalar.CommandLine
