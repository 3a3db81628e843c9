import Retention.Text.Quoted

/-!
# Errors of the cluster

What can go wrong between a request to the cluster and its answer.
-/

namespace Retention.Cluster

/-- The failure that the cluster reports for a request. -/
structure ApiFailure where
  status : String
  message : String
  reason : String
  code : Nat
  deriving DecidableEq, Repr

/-- Why a request has no usable answer. -/
inductive Error where
  | api (failure : ApiFailure)
  | undecodable
  /-- The request cannot be put together. -/
  | unbuildable
  | service (text : String)
  | unknownKind
  /-- The address of the group of types is malformed. -/
  | malformedAddress
  deriving DecidableEq, Repr

def Error.message : Error → String
  | api failure =>
    "ApiError: " ++ failure.message ++ ": " ++ failure.reason ++ " (ErrorResponse \x7b status: " ++
      Text.quoted failure.status ++ ", message: " ++ Text.quoted failure.message ++ ", reason: " ++
      Text.quoted failure.reason ++ ", code: " ++ toString failure.code ++ " \x7d)"
  | undecodable => "Error deserializing response"
  | unbuildable => "Failed to build request"
  | service text => "ServiceError: " ++ text
  | unknownKind => "Error from discovery"
  | malformedAddress => "HttpError"

end Retention.Cluster
