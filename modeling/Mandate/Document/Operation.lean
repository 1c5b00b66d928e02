import Mandate.Engine

/-!
# Operations as documents

The written form of the report of an operation.
-/

namespace Mandate

def OperationReport.toDatum {F : Type} [Scalar F] (r : OperationReport F) : Datum F :=
  .record
    [("agent", .text r.agent),
      ("success", .bool r.success),
      ("baseline_recorded", .bool r.baselineRecorded),
      ("comparison", .ofOption Comparison.toDatum r.comparison),
      ("transition", .ofOption Transition.toDatum r.transition),
      ("allowed", .bool r.allowed)]

end Mandate
