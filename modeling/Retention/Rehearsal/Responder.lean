import Retention.Cluster.Store
import Retention.Json.Writer

/-!
# The responder

A service that answers the requests to a cluster with prepared responses, one after the other, and
keeps the requests.  Once the responses are used up, it says that it is exhausted.
-/

namespace Retention

structure Responder where
  /-- The responses that are left; a text is a failure of the service. -/
  responses : List (Except String Cluster.Response)
  now : Instant
  /-- The requests so far, the latest first. -/
  latestRequests : List Cluster.Request

namespace Responder

def requests (r : Responder) : List Cluster.Request := r.latestRequests.reverse

/-- The failure of a service without responses. -/
def exhausted : Json :=
  .object [("status", .string "Failure"), ("message", .string "no response left"),
    ("reason", .string "Exhausted"), ("code", .integer 503)]

def respond (request : Cluster.Request) : Call Responder (Option (Except String Cluster.Response)) :=
  fun r =>
    let kept := { r with latestRequests := request :: r.latestRequests }
    match r.responses with
    | [] => ⟨some (.ok ⟨503, exhausted.write⟩), kept, false, []⟩
    | response :: rest => ⟨some response, { kept with responses := rest }, false, []⟩

def service : Cluster.Service Responder := ⟨respond, .json⟩

/-- The state of a cluster behind the service of which nothing is known yet. -/
def cluster (responses : List (Except String Cluster.Response)) (now : Instant) :
    Cluster.State Responder :=
  ⟨[], ⟨responses, now, []⟩⟩

end Responder

end Retention
