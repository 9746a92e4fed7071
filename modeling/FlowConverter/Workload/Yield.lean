import FlowConverter.Report

/-! What a workload yields. A fault in one part does not stop the others, so it is kept in its
place. -/
namespace FlowConverter.Workload

inductive Yield where
  | value (v : Value)
  | fault (f : Fault)
  | several (parts : List Yield)

namespace Yield

def text (s : String) : Yield := .value (.str s)

def ofOutcome {α : Type} (encode : α → Yield) : Except Fault α → Yield
  | .ok a => encode a
  | .error f => .fault f

def ofReport {α : Type} (encode : α → Yield) (r : Report α) : Yield := ofOutcome encode r.outcome

/-- The message of a fault where one is expected. -/
def message {α : Type} : Except Fault α → Yield
  | .ok _ => .value .null
  | .error f => .value (.ofText? f.message)

end Yield

end FlowConverter.Workload
