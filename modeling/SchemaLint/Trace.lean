import SchemaLint.Record

/-! Traces: which request an answer belongs to, and how long its parts took, in milliseconds.
-/
namespace SchemaLint

structure Trace where
  requestId : Text
  timings : List (Text × Int)
  deriving DecidableEq, Repr

namespace Trace

private def checkTimings (location : List Text) : Json → Checked (List (Text × Int))
  | .object members =>
    Checked.all (members.map fun (name,value) =>
      (Record.integer (location ++ [name]) value).map fun milliseconds => (name,milliseconds))
  | _ => Checked.fail location .notObject

def ofParts (requestId timings : Json) : Checked Trace :=
  (Checked.both (Record.text ["request_id".toList] requestId)
    (checkTimings ["timings_ms".toList] timings)).map
    fun (requestId,timings) => { requestId, timings }

def toJson (trace : Trace) : Json :=
  .object
    [("request_id".toList,.text trace.requestId),
      ("timings_ms".toList,
        .object (trace.timings.map fun (name,milliseconds) => (name,.integer milliseconds)))]

end Trace
end SchemaLint
