import Mandate.Scalar.Text

/-!
# Command line arguments

What the arguments of the command line ask for. Options may stand before and after the name of the
command; those that every command has may be given on either side, and the one after the name
counts.
-/

namespace Mandate.CommandLine

variable {F : Type}

/-! ## What is asked for -/

/-- What determines a mode of governance and the factors beside it. -/
structure GovernanceArguments (F : Type) where
  mode : Option String
  /-- The frame to take the mode from. -/
  frame : Option String
  epistemic : F
  aleatoric : F
  ece : F
  vocabulary : Option Nat

inductive Command (F : Type) where
  | parse (frame : String)
  | resolve (frame : String) (tool : Option String)
  | validate (frames : List String) (parent : Option String)
  | thresholds (governance : GovernanceArguments F)
  | gate (name : String) (observed : F) (governance : GovernanceArguments F)
      (content : Option String) (conflict : F)
  | checkConfig

/-- A command with the files that it works with. -/
structure Arguments (F : Type) where
  config : Option String
  ontology : Option String
  overlay : Option String
  command : Command F

/-- What is done instead of a command. -/
inductive Stop where
  /-- The arguments make no sense. -/
  | misuse
  | help
  | version
deriving DecidableEq

/-! ## Options and their values -/

/-- An option that takes a value. -/
structure OptionSpec where
  name : String
  short : Option Char
  /-- Whether a text will do for a value. -/
  accepts : String → Bool

/-- The arguments on one side of a command's name. -/
structure Taken where
  options : List (String × String)
  positionals : List String

namespace Taken

/-- Nothing is taken yet. -/
def blank : Taken :=
  ⟨[], []⟩

def get? (t : Taken) (name : String) : Option String :=
  t.options.lookup name

/-- Takes the value of an option, which must not be repeated. -/
def option (t : Taken) (spec : OptionSpec) (value : String) : Except Stop Taken :=
  if (t.get? spec.name).isSome ∨ spec.accepts value = false then .error .misuse
  else .ok { t with options := t.options ++ [(spec.name, value)] }

end Taken

/-- A count: digits, perhaps behind a plus sign, of a number of 64 bits. -/
def count? (s : String) : Option Nat :=
  let ds := match s.toList with
    | '+' :: cs => cs
    | cs => cs
  let n := Decimal.digitsValue ds
  if ds ≠ [] ∧ ds.all Char.isDigit ∧ n < UInt64.size then some n else none

def textOption (name : String) : OptionSpec :=
  ⟨name, none, fun _ => true⟩

def pathOption (name : String) (short : Option Char) : OptionSpec :=
  ⟨name, short, fun s => s ≠ ""⟩

def numberOption (name : String) : OptionSpec :=
  ⟨name, none, fun s => (Decimal.Numeral.read? s).isSome⟩

def countOption (name : String) : OptionSpec :=
  ⟨name, none, fun s => (count? s).isSome⟩

def commonOptions : List OptionSpec :=
  [pathOption "config" (some 'c'), pathOption "ontology" none, pathOption "overlay" none]

/-- The options that determine a mode of governance. -/
def governanceOptions : List OptionSpec :=
  [textOption "mode", textOption "frame", numberOption "epistemic", numberOption "aleatoric",
    numberOption "ece", countOption "vocabulary"]

/-! ## Taking arguments -/

/-- How an argument reads while options are still looked for. -/
inductive Shape where
  /-- Two hyphens alone: all that follows is positional. -/
  | escape
  | long (name : String) (value : Option String)
  | short (flag : Char) (value : Option String)
  | plain

/-- What follows the first equals sign, and what stands before it. -/
def splitValue (cs : List Char) : String × Option String :=
  let name := String.ofList (cs.takeWhile (· ≠ '='))
  match cs.dropWhile (· ≠ '=') with
  | _ :: value => (name, some (String.ofList value))
  | [] => (name, none)

/-- The value that is attached to a short flag, with or without an equals sign. -/
def attached : List Char → Option String
  | [] => none
  | '=' :: cs => some (String.ofList cs)
  | cs => some (String.ofList cs)

/-- How an argument reads. A hyphen alone is plain. -/
def shape (arg : String) : Shape :=
  match arg.toList with
  | ['-', '-'] => .escape
  | '-' :: '-' :: cs => .long (splitValue cs).1 (splitValue cs).2
  | '-' :: c :: cs => .short c (attached cs)
  | _ => .plain

/-- Whether an argument may be the value of the option before it. -/
def isPlain (arg : String) : Bool :=
  match shape arg with
  | .plain => true
  | _ => false

inductive Flag where
  | option (spec : OptionSpec)
  | stop (s : Stop)

/-- The arguments that are understood on one side of a command's name. -/
structure Level where
  options : List OptionSpec
  hasVersion : Bool

namespace Level

def long? (l : Level) (name : String) : Option Flag :=
  if name = "help" then some (.stop .help)
  else if name = "version" ∧ l.hasVersion then some (.stop .version)
  else (l.options.find? fun o => o.name = name).map .option

def short? (l : Level) (c : Char) : Option Flag :=
  if c = 'h' then some (.stop .help)
  else if c = 'V' ∧ l.hasVersion then some (.stop .version)
  else (l.options.find? fun o => o.short = some c).map .option

/-- What an argument that reads as a flag stands for, with the value attached to it. -/
def flag? (l : Level) : Shape → Option (Flag × Option String)
  | .long name value =>
    match l.long? name, value with
    | some (.stop _), some _ => none
    | flag, value => flag.map (·, value)
  | .short c value => (l.short? c).map (·, value)
  | _ => none

/-- Takes the arguments on one side of a command's name. On the first side `isName` picks out the
name, at which the taking ends; on the second side nothing does. -/
def take (l : Level) (isName : Option (String → Bool)) :
    Taken → List String → Except Stop (Taken × List String)
  | t, [] => .ok (t, [])
  | t, arg :: args =>
    match shape arg with
    | .plain =>
      match isName with
      | some isName => if isName arg then .ok (t, arg :: args) else .error .misuse
      | none => l.take isName { t with positionals := t.positionals ++ [arg] } args
    | .escape =>
      if isName.isSome ∧ args ≠ [] then .error .misuse
      else .ok ({ t with positionals := t.positionals ++ args }, [])
    | s =>
      match l.flag? s with
      | none => .error .misuse
      | some (.stop s, _) => .error s
      | some (.option spec, some value) => do
        let t ← t.option spec value
        l.take isName t args
      | some (.option spec, none) =>
        match args with
        | value :: args => do
          if !isPlain value then .error .misuse
          let t ← t.option spec value
          l.take isName t args
        | [] => .error .misuse

end Level

/-! ## Commands -/

/-- The names of the commands with the options of each. -/
def commands : List (String × List OptionSpec) :=
  [("parse", []),
    ("resolve", [textOption "tool"]),
    ("validate", [textOption "parent"]),
    ("thresholds", governanceOptions),
    ("gate", governanceOptions ++ [textOption "content", numberOption "conflict"]),
    ("check-config", [])]

variable [Scalar F]

/-- The number that an option gives, zero if it is missing. -/
def Taken.number (t : Taken) (name : String) : F :=
  ((t.get? name).bind Scalar.ofText?).getD 0.0

/-- What determines a mode of governance; a mode and a frame exclude each other. -/
def Taken.governance (t : Taken) : Except Stop (GovernanceArguments F) :=
  let mode := t.get? "mode"
  let frame := t.get? "frame"
  if mode.isSome ∧ frame.isSome then .error .misuse
  else
    .ok
      { mode
        frame
        epistemic := t.number "epistemic"
        aleatoric := t.number "aleatoric"
        ece := t.number "ece"
        vocabulary := (t.get? "vocabulary").bind count? }

/-- The command of a name with what was taken after it. -/
def Taken.command (t : Taken) (name : String) : Except Stop (Command F) :=
  match name, t.positionals with
  | "parse", [frame] => .ok (.parse frame)
  | "resolve", [frame] => .ok (.resolve frame (t.get? "tool"))
  | "validate", frame :: frames => .ok (.validate (frame :: frames) (t.get? "parent"))
  | "thresholds", [] => do return .thresholds (← t.governance)
  | "gate", [gate, observed] =>
    match Scalar.ofText? observed with
    | some observed => do
      return .gate gate observed (← t.governance) (t.get? "content") (t.number "conflict")
    | none => .error .misuse
  | "check-config", [] => .ok .checkConfig
  | _, _ => .error .misuse

/-- Whether an argument names a command, the command for help included. -/
def isCommandName (arg : String) : Bool :=
  arg = "help" || (commands.lookup arg).isSome

def Arguments.ofList (args : List String) : Except Stop (Arguments F) := do
  let (before, rest) ← Level.take ⟨commonOptions, true⟩ (some isCommandName) .blank args
  match rest with
  | [] => .error .misuse
  | "help" :: names =>
    if names.take 1 |>.all isCommandName then .error .help else .error .misuse
  | name :: args =>
    let options := commonOptions ++ (commands.lookup name).getD []
    let (t, _) ← Level.take ⟨options, false⟩ none .blank args
    let common (option : String) := t.get? option <|> before.get? option
    return { config := common "config", ontology := common "ontology", overlay := common "overlay",
             command := ← t.command name }

end Mandate.CommandLine
