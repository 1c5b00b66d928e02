import Mandate.CommandLine.Arguments
import Mandate.Engine
import Mandate.Json.Printer
import Mandate.Load
import Mandate.Ontology.Standard

/-!
# Sessions of the command line

What one use of the command line reads from files, writes and ends with, as a function of its
arguments and of what the files hold.
-/

namespace Mandate.CommandLine

variable {F : Type} [Scalar F]

structure Ending where
  status : Nat
  /-- What is written for the user. -/
  output : String
  /-- Why the session failed. -/
  error : Option String
deriving DecidableEq

def Ending.success (output : String) : Ending :=
  ⟨0, output, none⟩

def Ending.failure (reason : String) : Ending :=
  ⟨1, "", some reason⟩

/-- The name and version of the program. -/
def versionLine : String :=
  "framegate-cli 0.1.0\n"

/-- How the program is used. -/
def usage : String :=
  "Usage: framegate [--config FILE] [--ontology FILE] [--overlay FILE] COMMAND\n\n"
    ++ "Commands: " ++ ", ".intercalate (commands.map (·.1)) ++ "\n"

/-- A value tree as indented JSON on lines of its own. -/
def shown (d : Datum F) : String :=
  Json.pretty 0 d ++ "\n"

/-- The reason that a frame cannot be read. -/
def unreadable (raw : String) : String :=
  "no recognized symbols in " ++ Text.quoted raw

/-- A value of the engine's parts, or the wording of the failure. -/
def orMessage {α : Type} : Except (Failure F) α → Except String α
  | .ok a => .ok a
  | .error e => .error e.message

/-- The engine with the parts that the arguments name. -/
def engine (files : Files) (a : Arguments F) (settings : Settings F) :
    Except (Failure F) (Engine F) := do
  let ontology ← match a.ontology with
    | some path => Ontology.load files path
    | none => .ok .standard
  let overlay ← match a.overlay with
    | some path => (Overlay.load files path).map some
    | none => .ok none
  Engine.build settings ontology overlay

def governanceMode (e : Engine F) (g : GovernanceArguments F) : Except String GovernanceMode :=
  match g.frame with
  | some raw =>
    match e.governanceMode? raw with
    | some mode => .ok mode
    | none => .error (unreadable raw)
  | none =>
    match g.mode with
    | some text =>
      match GovernanceMode.read? text with
      | some mode => .ok mode
      | none => .error ("unknown mode " ++ Text.quoted text)
    | none => .ok .standard

def GovernanceArguments.uncertainty (g : GovernanceArguments F) : Uncertainty F :=
  .ofComponents g.epistemic g.aleatoric "cli"

/-- The reports on frames, or on a single frame beside its parent. -/
def reports (e : Engine F) (now : Instant) (frames : List String) (parent : Option String) :
    Except String (List Report) :=
  match frames, parent with
  | [frame], parent => .ok [e.validate now frame parent]
  | _, some _ => .error "--parent applies to a single frame; list the chain instead"
  | frames, none => .ok (e.validator.validateChain now frames)

/-- The reason that a gate is not known. -/
def unknownGate (name : String) : String :=
  "unknown gate " ++ Text.quoted name ++ "; expected one of "
    ++ ", ".intercalate (Gate.all.map Gate.name)

/-- Carries out a command. -/
def perform (e : Engine F) (stamp : Stamp) : Command F → Except String Ending
  | .parse raw =>
    match e.parse? raw with
    | some f => .ok (.success (shown f.toDatum))
    | none => .error (unreadable raw)
  | .resolve raw tool =>
    match e.resolve? raw, tool with
    | none, _ => .error (unreadable raw)
    | some r, some tool =>
      let answer := [("tool", .text tool), ("allowed", .bool (r.allowsTool tool))]
      .ok (.success (shown (F := F) (.record answer)))
    | some r, none => .ok (.success (shown r.toDatum))
  | .validate frames parent => do
    let rs ← reports e stamp.now frames parent
    let output := shown (F := F) (.ofList Report.toDatum rs)
    return ⟨if rs.all (·.valid) then 0 else 1, output, none⟩
  | .thresholds g => do
    let mode ← governanceMode e g
    let calibration := Calibration.ofError g.ece stamp.now
    let ms := e.settings.governance.modulateAll mode g.uncertainty calibration g.vocabulary
    return .success (shown (thresholdsDatum ms stamp.now))
  | .gate name observed g content conflict => do
    let gate ← match Gate.named? name with
      | some gate => .ok gate
      | none => .error (unknownGate name)
    let mode ← governanceMode e g
    let request : GateRequest F :=
      { gate, observed, mode, agent := none, uncertainty := g.uncertainty,
        calibration := .ofError g.ece stamp.now, vocabulary := g.vocabulary, content, conflict }
    return .success (shown (e.evaluateGate stamp request .blank).result.toDatum)
  | .checkConfig => .ok (.success "")

/-- What the arguments ask for once they are understood. Settings are shown before anything else is
read. -/
def carryOut (files : Files) (stamp : Stamp) (a : Arguments F) : Except String Ending := do
  let settings ← match a.config with
    | some path => orMessage (Settings.load files path)
    | none => .ok .default
  match a.command with
  | .checkConfig => return .success (← orMessage settings.toToml)
  | command =>
    let e ← orMessage (engine files a settings)
    perform e stamp command

/-- The files that the arguments name. -/
def paths (F : Type) [Scalar F] (args : List String) : List String :=
  match Arguments.ofList (F := F) args with
  | .ok a => [a.config, a.ontology, a.overlay].filterMap id
  | .error _ => []

/-- One use of the command line. -/
def session (F : Type) [Scalar F] (files : Files) (stamp : Stamp) (args : List String) : Ending :=
  match Arguments.ofList (F := F) args with
  | .error .misuse => ⟨2, "", none⟩
  | .error .help => .success usage
  | .error .version => .success versionLine
  | .ok a =>
    match carryOut files stamp a with
    | .ok ending => ending
    | .error reason => .failure reason

end Mandate.CommandLine
