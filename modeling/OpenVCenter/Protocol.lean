import OpenVCenter.Python

set_option relaxedAutoImplicit false
set_option autoImplicit false

/-!
# The agent protocol

The envelopes of `messaging/protocol.py`: a request the backend writes to `<host>.request`, and
a response it consumes from `<host>.response`. A value of `AgentResponse` is what
`AgentResponse.model_validate` has accepted; the agent-made objects inside it are arbitrary.

## Main definitions

* `OpenVCenter.AgentRequest`, `OpenVCenter.AgentResponse`, `OpenVCenter.ResponseResult`.
* `OpenVCenter.AgentRequest.modelDump`, `OpenVCenter.AgentResponse.modelDump` — the JSON of an
  envelope, as a task keeps it.
-/

namespace OpenVCenter

/-- `AgentRequest`; `issuedAt` is already rendered. -/
structure AgentRequest where
  id : String
  function : String
  params : Dict
  requestedBy : String
  issuedAt : String

/-- `model_dump(mode="json")`. -/
def AgentRequest.modelDump (req : AgentRequest) : Json :=
  .obj [("id", .str req.id), ("function", .str req.function),
    ("params", (Json.obj req.params).dump), ("requested_by", .str req.requestedBy),
    ("issued_at", .str req.issuedAt)]

/-- The field `result: dict[str, Any] | str | None`. -/
inductive ResponseResult where
  | none
  | text (s : String)
  | object (d : Dict)

namespace ResponseResult

/-- The Python value of the field. -/
def toJson : ResponseResult → Json
  | .none => .null
  | .text s => .str s
  | .object d => .obj d

/-- `result if isinstance(result, str) else None`. -/
def asText? : ResponseResult → Option String
  | .text s => some s
  | _ => Option.none

/-- `result if isinstance(result, dict) else None`. -/
def asDict? : ResponseResult → Option Dict
  | .object d => some d
  | _ => Option.none

end ResponseResult

/-- `AgentResponse`. `status` is a free string: `"running"`, `"succeeded"`, and anything else is
a failure. -/
structure AgentResponse where
  id : String
  function : String
  status : String
  progress : Option ℤ := none
  progressMessage : Option String := none
  result : ResponseResult := .none
  error : Option String := none
  vmId : Option String := none
  vmState : Option String := none
  vmStatus : Option Dict := none
  template : Option Dict := none
  finishedAt : Option String := none

/-- `model_dump(mode="json")`. -/
def AgentResponse.modelDump (resp : AgentResponse) : Json :=
  let dict : Option Dict → Json := fun d => match d with
    | some d => (Json.obj d).dump
    | none => .null
  .obj [("id", .str resp.id), ("function", .str resp.function), ("status", .str resp.status),
    ("progress", match resp.progress with
      | some n => .int n
      | none => .null),
    ("progress_message", .ofOption resp.progressMessage), ("result", resp.result.toJson.dump),
    ("error", .ofOption resp.error), ("vm_id", .ofOption resp.vmId),
    ("vm_state", .ofOption resp.vmState), ("vm_status", dict resp.vmStatus),
    ("template", dict resp.template), ("finished_at", .ofOption resp.finishedAt)]

end OpenVCenter
