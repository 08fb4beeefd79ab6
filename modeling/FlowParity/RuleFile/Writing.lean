import FlowParity.Document.Basic
import FlowParity.RuleFile.Spec
/-!
# Rule files as data

The document of a rule file. What is absent is left out, so reading the document
back gives the same rule file.
-/

namespace FlowParity

/-- An instant as data. -/
def InstantSpec.toDocument : InstantSpec → Document
  | millis t => .integer t.ms
  | text s => .string s

/-- A number of seconds as data. -/
def secondsDocument (seconds : Counter) : Document := .nat seconds.toNat

/-- A scope as data. -/
def OffsetScope.toDocument (scope : OffsetScope) : Document := .string scope.toText

/-- The settings as data. -/
def ModelSpec.toDocument (m : ModelSpec) : Document :=
  .table (
    Document.optional "active_timeout" secondsDocument m.active ++
    Document.optional "inactive_timeout" secondsDocument m.inactive ++
    Document.optional "start_time" InstantSpec.toDocument m.startTime ++
    Document.optional "offset_scope" OffsetScope.toDocument m.scope)

/-- A metric as data. -/
def MetricSpec.toDocument (m : MetricSpec) : Document :=
  .table [("metric", .string m.measure.ruleText), ("tolerance", .float m.tolerance)]

/-- A segment as data. -/
def SegmentSpec.toDocument : SegmentSpec → Document
  | subnet source target bothWays =>
    .table [("subnet", .table (
      Document.optional "source" .string source ++
      Document.optional "dest" .string target ++
      [("bidir", .bool bothWays)]))]
  | time start finish =>
    .table [("time", .table (
      Document.optional "start" InstantSpec.toDocument start ++
      Document.optional "end" InstantSpec.toDocument finish))]

/-- A rule as data. -/
def RuleSpec.toDocument (r : RuleSpec) : Document :=
  .table (
    Document.optional "name" .string r.name ++
    [("metrics", .list (r.metrics.map MetricSpec.toDocument))] ++
    Document.optional "segment" SegmentSpec.toDocument r.segment)

/-- **The document of a rule file.** -/
def RuleFile.toDocument (f : RuleFile) : Document :=
  .table [("model", f.model.toDocument), ("rules", .list (f.rules.map RuleSpec.toDocument))]

end FlowParity
