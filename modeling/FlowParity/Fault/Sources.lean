import FlowParity.Compare.Comparison
import FlowParity.Fault.Basic
/-!
# Faults of the parts

How the faults of the parts of the program become faults of a run. A measure that
occurs twice keeps its kind wherever it is found; all else about a rule file is a
matter of configuration, and all else about a rule a matter of that rule.
-/

namespace FlowParity

/-- The fault of a run for a flow file that cannot be loaded. -/
def LoadFault.toFault : LoadFault → Fault
  | notFound path => .fileNotFound path
  | unreadable path fault => .unreadable path fault.message
  | table path .missingHeader => .malformedFlow path 0 "missing header line"
  | table path (.malformed line fault) => .malformedFlow path line fault.message

/-- The fault of a run for a record that ends before it starts. -/
def ReversedRecord.toFault (fault : ReversedRecord) : Fault :=
  .reconciliation fault.message

/-- The fault of a run for a rule file that cannot be used. -/
def RuleFileFault.toFault (fault : RuleFileFault) : Fault :=
  match fault with
  | repeatedMeasure _ measure => .duplicateMetric measure.toText
  | _ => .configuration fault.message

/-- The fault of a run for a dataset that cannot be built. -/
def DatasetFault.toFault : DatasetFault → Fault
  | load fault => fault.toFault
  | reversed fault => fault.toFault

/-- The fault of a run for a rule that cannot be built or judged. -/
def RuleListFault.toFault (f : RuleListFault) : Fault :=
  match f.fault with
  | .repeatedMeasure measure => .duplicateMetric measure.toText
  | .tolerance fault => .toleranceOutOfRange fault.tolerance
  | .segment fault => .invalidRule (f.rule ++ ": " ++ fault.message)

/-- The fault of a run for a comparison that fails. -/
def ComparisonFault.toFault : ComparisonFault → Fault
  | dataset _ fault => fault.toFault
  | settings fault => fault.toFault
  | rule fault => fault.toFault

end FlowParity
