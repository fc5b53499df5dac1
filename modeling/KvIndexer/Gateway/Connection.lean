import KvIndexer.Lib.GoMap

/-!
The connection registry of the gateway (`internal/gateway/store.go`).

A connection is a kvindexer that the gateway federates, or a virtual cluster that the
gateway serves on its own.
-/

namespace KvIndexer.Gateway

def ConnectionKindBackend : String := "backend"

def ConnectionKindVirtual : String := "virtual"

/-- One kvindexer or virtual cluster of the registry. -/
structure Connection where
  id : String
  kind : String := ""
  cluster : String
  displayName : String := ""
  region : String := ""
  environment : String := ""
  labels : GoMap String String := ∅
  url : String := ""
  token : String := ""
  enabled : Bool := false
deriving DecidableEq

def Connection.kindOrDefault (c : Connection) : String :=
  if c.kind = "" then ConnectionKindBackend else c.kind

end KvIndexer.Gateway
