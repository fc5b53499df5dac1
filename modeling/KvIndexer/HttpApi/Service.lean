import KvIndexer.Config.Store
import KvIndexer.KvEvents.Listener

/-!
The service that ties store, index and listeners together
(`internal/httpapi/service.go`).

`resolveIngest` is what a listener asks before it ingests a batch, and
`streamFreshForEngines` is what admission asks before it trusts a miss. The first
reads the store, the second the listeners; nothing else connects the two.
-/

namespace KvIndexer.HttpApi

open Residency KvEvents Config

/-- Orders of the range loops over the store's profiles, one for each store. -/
abbrev RangeOrder := ∀ profiles : GoMap String ModelProfile, profiles.Order

noncomputable instance : Inhabited RangeOrder :=
  ⟨fun profiles =>
    ⟨profiles.entries.toList, Multiset.coe_toList _⟩⟩

/-- The shared state of the service. Of the event log only what was recorded is kept. -/
structure Service where
  store : Store
  index : Manager
  /-- keyed by engine id -/
  listeners : GoMap String Listener
  kvEvents : List KVEventRecord := []

/-- The index and namespace a model's events go to, with the seed of its request keys. -/
def resolveIngest (s : Service) (order : RangeOrder) (model _engineID : String) : Option Resolved :=
  (s.store.resolveProfile (order s.store.profiles) model).map fun prof =>
    { ns := prof.namespace
      seed := seedNamespace (prof.hashSeed ++ "|" ++ prof.namespace)
      blockSize := prof.blockSize.toInt }

/-- Events go to the namespace of the profile found. -/
theorem ns_resolveIngest (s : Service) (order : RangeOrder) (model engineID : String) :
    (resolveIngest s order model engineID).map Resolved.ns =
      (s.store.resolveProfile (order s.store.profiles) model).map ModelProfile.namespace := by
  rw [resolveIngest, Option.map_map]
  rfl

/-- At least one engine's listener is connected with no sequence gaps. -/
def streamFreshForEngines (listeners : GoMap String Listener) (engines : List Engine) : Bool :=
  engines.any fun e =>
    match listeners.lookup e.engineID with
    | none => false
    | some l => l.trusted

/-- A single engine's stream is fresh exactly when its listener is trusted. -/
theorem streamFreshForEngines_singleton {listeners : GoMap String Listener} {e : Engine} :
    streamFreshForEngines listeners [e] = true ↔
      ∃ l, listeners.lookup e.engineID = some l ∧ l.trusted = true := by
  rw [streamFreshForEngines, List.any_cons, List.any_nil, Bool.or_false]
  cases listeners.lookup e.engineID with
  | none => simp
  | some l => simp

end KvIndexer.HttpApi
