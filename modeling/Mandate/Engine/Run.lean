import Mandate.Engine

/-!
# Runs of the engine

A call names an operation with its arguments; a run is a list of calls that are made one after the
other. The trail of a run lists all records that it leaves, and `trail_append` says that it grows
call by call.
-/

namespace Mandate

variable {F : Type}

/-- An operation with its arguments. -/
inductive Call (F : Type) where
  | recordBaseline (agent raw interpretation : String) (behaviors : List String)
  | compare (agent raw interpretation : String) (behaviors : List String)
  | operation (agent raw label : String) (success : Bool)
  | failure (agent reason : String)
  | drift (agent : String) (score : F) (reason : String)
  | halt (agent reason : String)
  | resume (agent : String)
  | recalibrate (agent : String)
  | floor (signals : Signals F)
  | gate (request : GateRequest F)
  | tripwires (agent : String) (interpreter : Interpreter) (draws : Nat → Draw)

inductive Reply (F : Type) where
  | records (n : Option Nat)
  | comparison (c : Option (Comparison F))
  | operation (r : OperationReport F)
  | transition (t : Option Transition)
  | verdict (v : FloorVerdict)
  | decision (d : Decision F)
  | probes (r : ProbeRun F)

/-- The effect with its result changed. -/
def Effect.map {α β : Type} (f : α → β) (r : Effect F α) : Effect F β :=
  ⟨f r.result, r.standing, r.records⟩

namespace Engine

variable [Scalar F]

/-- Makes a call. -/
def perform (e : Engine F) (stamp : Stamp) (s : Standing F) : Call F → Effect F (Reply F)
  | .recordBaseline agent raw interpretation behaviors =>
    (e.recordBaseline stamp.now agent raw interpretation behaviors s).map .records
  | .compare agent raw interpretation behaviors =>
    (e.compare agent raw interpretation behaviors s).map .comparison
  | .operation agent raw label success =>
    (e.recordOperation stamp.now agent raw label success s).map .operation
  | .failure agent reason => (e.recordFailure stamp.now agent reason s).map .transition
  | .drift agent score reason => (e.recordDrift stamp.now agent score reason s).map .transition
  | .halt agent reason => (e.halt stamp.now agent reason s).map .transition
  | .resume agent => (e.resume stamp.now agent s).map .transition
  | .recalibrate agent => (e.recalibrate stamp.now agent s).map .transition
  | .floor signals => (e.checkFloor stamp.now signals s).map .verdict
  | .gate request => (e.evaluateGate stamp request s).map .decision
  | .tripwires agent interpreter draws =>
    (e.runTripwires stamp agent interpreter draws s).map .probes

/-- The standing after some calls, each with the stamp of its moment. -/
def run (e : Engine F) (s : Standing F) (calls : List (Stamp × Call F)) : Standing F :=
  calls.foldl (fun s c => (e.perform c.1 s c.2).standing) s

/-- All records that some calls leave, in order. -/
def trail (e : Engine F) : Standing F → List (Stamp × Call F) → List (AuditRecord F)
  | _, [] => []
  | s, c :: cs =>
    let r := e.perform c.1 s c.2
    r.records ++ e.trail r.standing cs

theorem run_append (e : Engine F) (s : Standing F) (cs ds : List (Stamp × Call F)) :
    e.run s (cs ++ ds) = e.run (e.run s cs) ds :=
  List.foldl_append

theorem trail_append (e : Engine F) (s : Standing F) (cs ds : List (Stamp × Call F)) :
    e.trail s (cs ++ ds) = e.trail s cs ++ e.trail (e.run s cs) ds := by
  induction cs generalizing s with
  | nil => rfl
  | cons c cs ih => simp only [List.cons_append, trail, ih, List.append_assoc]; rfl

end Engine

/-- The log after some more records. -/
def AuditLog.addAll (log : AuditLog F) (rs : List (AuditRecord F)) : AuditLog F :=
  rs.foldl AuditLog.add log

end Mandate
