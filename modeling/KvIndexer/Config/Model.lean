import KvIndexer.Itoa

/-!
The configuration model (`internal/config/model.go`).

A profile's `Namespace` isolates the request keys computed under it. Among
profiles of one model it determines the version, the hash profile and the block
size (`namespace_inj`): only the hash profile can contain a slash, and it stands
between the two others. It says nothing about the other fields.
-/

namespace KvIndexer.Config

/-- The serving engine kind. Any string is accepted. -/
abbrev Framework := String

def FrameworkSGLang : Framework := "sglang"

/-- Where admission obtains prompt token ids. Any string is accepted. -/
abbrev TokenizerMode := String

def TokenizerModeRemote : TokenizerMode := "remote"

def TokenizerModeLocal : TokenizerMode := "local"

/-- A single worker (or dp group). Labels are left out. -/
structure Engine where
  engineID : String
  clusterID : String := ""
  framework : Framework := ""
  apiEndpoint : String := ""
  tokenizerEndpoint : String := ""
  kvEventEndpoint : String := ""
  replayEndpoint : String := ""
  topic : String := ""
  servedModels : List String := []
  dpRanks : Int64 := 0
  maxNumSeqs : Int64 := 0
  maxModelLen : Int64 := 0
  queueDepth : Int64 := 0
  healthy : Bool := false
  draining : Bool := false
  enabled : Bool := false
deriving DecidableEq, Repr

/-- Tokenization and hash semantics of a model. -/
structure ModelProfile where
  modelID : String
  aliases : List String := []
  framework : Framework := ""
  version : Int64 := 0
  tokenizerEndpoint : String := ""
  tokenizerMode : TokenizerMode := ""
  chatTemplateSHA256 : String := ""
  hashProfile : String := ""
  blockSize : Int64 := 0
  hashSeed : String := ""
  supportsLoRA : Bool := false
  supportsMultimodal : Bool := false
  supportsCacheSalt : Bool := false
deriving DecidableEq, Repr

/-- `Namespace`: the isolation key of request keys. -/
def ModelProfile.namespace (p : ModelProfile) : String :=
  p.modelID ++ "/v" ++ itoa p.version.toInt ++ "/" ++ p.hashProfile ++ "/" ++ itoa p.blockSize.toInt

/-- Records one configuration mutation. -/
structure AuditEntry where
  version : Int64 := 0
  timestamp : Int := 0
  action : String
  entity : String
  entityID : String
  versionBump : Bool := false
  detail : String := ""
deriving DecidableEq, Repr

/-! ### Reading a namespace -/

/-- A first separator splits a list in one way only. -/
theorem append_cons_inj_of_first {α : Type} {x : α} {front front' back back' : List α}
    (notIn : x ∉ front) (notIn' : x ∉ front') (same : front ++ x :: back = front' ++ x :: back') :
    front = front' ∧ back = back' := by
  induction front generalizing front' with
  | nil =>
      cases front' with
      | nil => exact ⟨rfl, List.tail_eq_of_cons_eq same⟩
      | cons y front' =>
          obtain rfl : x = y := List.head_eq_of_cons_eq same
          exact absurd List.mem_cons_self notIn'
  | cons y front ih =>
      cases front' with
      | nil =>
          obtain rfl : y = x := List.head_eq_of_cons_eq same
          exact absurd List.mem_cons_self notIn
      | cons y' front' =>
          obtain rfl : y = y' := List.head_eq_of_cons_eq same
          obtain ⟨rfl, rfl⟩ := ih (fun member => notIn (List.mem_cons_of_mem y member))
            (fun member => notIn' (List.mem_cons_of_mem y member)) (List.tail_eq_of_cons_eq same)
          exact ⟨rfl, rfl⟩

/-- So does a last one. -/
theorem append_cons_inj_of_last {α : Type} {x : α} {front front' back back' : List α}
    (notIn : x ∉ back) (notIn' : x ∉ back') (same : front ++ x :: back = front' ++ x :: back') :
    front = front' ∧ back = back' := by
  have mirrored : back.reverse ++ x :: front.reverse = back'.reverse ++ x :: front'.reverse := by
    simpa using congrArg List.reverse same
  obtain ⟨backs, fronts⟩ := append_cons_inj_of_first (by simpa using notIn) (by simpa using notIn')
    mirrored
  exact ⟨List.reverse_inj.mp fronts, List.reverse_inj.mp backs⟩

namespace ModelProfile

variable {p q : ModelProfile}

theorem namespace_congr (model : p.modelID = q.modelID) (version : p.version = q.version)
    (hashProfile : p.hashProfile = q.hashProfile) (blockSize : p.blockSize = q.blockSize) :
    p.namespace = q.namespace := by
  rw [ModelProfile.namespace, ModelProfile.namespace, model, version, hashProfile, blockSize]

/-- Among profiles of one model, a namespace names one version, hash profile and block
size. -/
theorem namespace_inj (model : p.modelID = q.modelID) (same : p.namespace = q.namespace) :
    p.version = q.version ∧ p.hashProfile = q.hashProfile ∧ p.blockSize = q.blockSize := by
  have chars := congrArg String.toList same
  simp only [ModelProfile.namespace, String.toList_append, List.append_assoc, model] at chars
  have rest := List.append_cancel_left (List.append_cancel_left chars)
  obtain ⟨versions, rest⟩ :=
    append_cons_inj_of_first (slash_notMem_itoa _) (slash_notMem_itoa _) rest
  obtain ⟨profiles, sizes⟩ :=
    append_cons_inj_of_last (slash_notMem_itoa _) (slash_notMem_itoa _) rest
  exact ⟨Int64.toInt_inj.mp (itoa_injective (String.toList_injective versions)),
    String.toList_injective profiles,
    Int64.toInt_inj.mp (itoa_injective (String.toList_injective sizes))⟩

end ModelProfile

end KvIndexer.Config
