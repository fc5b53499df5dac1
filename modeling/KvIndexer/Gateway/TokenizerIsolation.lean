import KvIndexer.Gateway.LocalTokenizer

/-!
Isolation of local tokenizers between clusters.

The cache and the assets have a slot for each cluster and model, the sidecar has one for
each model id. A registration can therefore serve a pair that is ready by another's
tokenizer in two ways: the sidecar loads over the tokenizer of another cluster, or it keeps
a tokenizer of another zip. `always_isolated_iff` says that runs without these two, and no
others, leave every pair that is ready with its own tokenizer.
-/

namespace KvIndexer.Gateway.LocalTokenizers

variable (env : SidecarEnv) (s : LocalTokenizers)

/-- The cache has the state of the pair's asset. -/
def Cached (cluster modelID : String) (asset : StoredAsset) : Prop :=
  s.getTokenizerAsset cluster modelID = some asset ∧
    s.localTokenizerLoaded cluster modelID (localStateFromAsset asset) = true

/-- A request for the pair would go out as things are: it is cached, or was just found
ready. -/
def Ready (cluster modelID : String) (asset : StoredAsset) : Prop :=
  s.getTokenizerAsset cluster modelID = some asset ∧
    (s.localTokenizerLoaded cluster modelID (localStateFromAsset asset) = true ∨
      s.ensured = some (cluster, modelID))

/-- Every pair that is ready is served by the tokenizer of its own asset. -/
def Isolated : Prop :=
  ∀ cluster modelID asset, s.Ready cluster modelID asset →
    s.sidecar.tokenizers.lookup modelID = some asset.tokenizer

/-- The sidecar accepts the registration. -/
def Accepts (modelID : String) (t : Tokenizer) : Prop :=
  env.extracts t.zip = true ∧
    (s.sidecar.keeps env modelID t.chatTemplate = true ∨ env.loads t = true)

/-- What the sidecar keeps is the tokenizer to be registered. -/
def KeepsSame (modelID : String) (t : Tokenizer) : Prop :=
  s.sidecar.keeps env modelID t.chatTemplate = true →
    s.sidecar.tokenizers.lookup modelID = some t

/-- A tokenizer that is loaded takes no other from a pair that is cached, but for the pair
under `key`. -/
def SparesOthers (key : Option String) (modelID : String) (t : Tokenizer) : Prop :=
  s.sidecar.keeps env modelID t.chatTemplate = false →
    ∀ cluster asset, some (localKey cluster modelID) ≠ key → s.Cached cluster modelID asset →
      asset.tokenizer = t

/-- Other models under the same key, which needs a zero character in a name, have the same
tokenizer. -/
def SparesKey (cluster modelID : String) (t : Tokenizer) : Prop :=
  ∀ cluster' modelID', modelID' ≠ modelID → localKey cluster' modelID' = localKey cluster modelID →
    s.sidecar.tokenizers.lookup modelID' = some t

/-- The template hash that the sidecar answers. -/
def reported (modelID : String) (t : Tokenizer) : String :=
  if s.sidecar.keeps env modelID t.chatTemplate then
    (s.sidecar.templateHashes.lookup modelID).getD ""
  else env.templateHash t.chatTemplate

/-- The asset that ensuring the pair registers. -/
def Due (cluster modelID : String) (asset : StoredAsset) : Prop :=
  s.getTokenizerAsset cluster modelID = some asset ∧ asset.zipFileID ≠ none ∧
    s.localTokenizerLoaded cluster modelID (localStateFromAsset asset) = false ∧
    asset.zipBytes ≠ []

/-- The step gives no pair that is ready the tokenizer of another. -/
def Separates : Step → Prop
  | .upload u =>
      (s.material u).zip ≠ [] → s.Accepts env u.modelID (s.material u) →
        if u.storeFails then s.SparesOthers env none u.modelID (s.material u)
        else
          (bsonTime u.now = u.now →
            s.KeepsSame env u.modelID (s.material u) ∧
              s.SparesKey u.cluster u.modelID (s.material u)) ∧
            s.SparesOthers env (some (localKey u.cluster u.modelID)) u.modelID (s.material u)
  | .ensure cluster modelID =>
      ∀ asset, s.Due cluster modelID asset → s.Accepts env modelID asset.tokenizer →
        s.KeepsSame env modelID asset.tokenizer ∧
          (s.reported env modelID asset.tokenizer = "" ∨
              s.reported env modelID asset.tokenizer = asset.chatTemplateSHA256 →
            s.SparesKey cluster modelID asset.tokenizer) ∧
          s.SparesOthers env (some (localKey cluster modelID)) modelID asset.tokenizer
  | .clear _ _ => True

variable {env} {s}

/-! ### One registration -/

section Register

variable {modelID : String} {t : Tokenizer} {sidecar : Sidecar} {hash : String}

/-- A registration that is not accepted changes nothing. -/
theorem register_eq_none :
    s.sidecar.register env modelID t = none ↔ ¬ s.Accepts env modelID t := by
  unfold Sidecar.register Accepts
  cases env.extracts t.zip with
  | false => simp
  | true =>
      cases s.sidecar.keeps env modelID t.chatTemplate with
      | true => simp
      | false =>
          cases env.loads t with
          | true => simp
          | false => simp

/-- What an accepted one leaves in the sidecar. -/
theorem register_eq_some (registered : s.sidecar.register env modelID t = some (sidecar, hash)) :
    s.Accepts env modelID t ∧ hash = s.reported env modelID t ∧
      ∀ id, sidecar.tokenizers.lookup id =
        if s.sidecar.keeps env modelID t.chatTemplate = false ∧ id = modelID then some t
        else s.sidecar.tokenizers.lookup id := by
  unfold Sidecar.register at registered
  unfold Accepts reported
  cases extracts : env.extracts t.zip with
  | false => simp [extracts] at registered
  | true =>
      cases keeps : s.sidecar.keeps env modelID t.chatTemplate with
      | true =>
          simp only [extracts, keeps, Bool.not_true, Bool.false_eq_true, if_false, if_true,
            Option.some.injEq, Prod.mk.injEq] at registered
          obtain ⟨rfl, rfl⟩ := registered
          simp
      | false =>
          cases loads : env.loads t with
          | false => simp [extracts, keeps, loads] at registered
          | true =>
              simp only [extracts, keeps, loads, Bool.not_true, Bool.false_eq_true, if_false,
                if_true, Option.some.injEq, Prod.mk.injEq] at registered
              obtain ⟨rfl, rfl⟩ := registered
              refine ⟨⟨rfl, Or.inr rfl⟩, by simp, fun id => ?_⟩
              rw [GoMap.lookup_insert_eq]
              simp

end Register

/-! ### One step -/

section Steps

variable {s' : LocalTokenizers} {cluster modelID : String} {t : Tokenizer}

/-- With nothing found ready, the pairs that are ready are those that are cached. -/
theorem isolated_iff_cached (none : s.ensured = none) :
    s.Isolated ↔ ∀ cluster modelID asset, s.Cached cluster modelID asset →
      s.sidecar.tokenizers.lookup modelID = some asset.tokenizer := by
  unfold Isolated Ready Cached
  rw [none]
  simp

theorem Isolated.cached (isolated : s.Isolated) {asset : StoredAsset}
    (cached : s.Cached cluster modelID asset) :
    s.sidecar.tokenizers.lookup modelID = some asset.tokenizer :=
  isolated cluster modelID asset ⟨cached.1, Or.inl cached.2⟩

/-- A step that caches nothing and leaves assets and sidecar alone keeps pairs apart. -/
theorem Isolated.mono (isolated : s.Isolated) (none : s'.ensured = none)
    (sidecar : s'.sidecar = s.sidecar)
    (cached : ∀ cluster modelID asset, s'.Cached cluster modelID asset →
      s.Cached cluster modelID asset) : s'.Isolated := by
  rw [isolated_iff_cached none, sidecar]
  intro cluster modelID asset here
  exact isolated.cached (cached cluster modelID asset here)

/-- A registration whose asset is not stored: what is cached stays. -/
theorem isolated_unstored (isolated : s.Isolated) (none : s'.ensured = none)
    (cached : ∀ cluster modelID asset, s'.Cached cluster modelID asset ↔
      s.Cached cluster modelID asset)
    (tokenizers : ∀ id, s'.sidecar.tokenizers.lookup id =
      if s.sidecar.keeps env modelID t.chatTemplate = false ∧ id = modelID then some t
      else s.sidecar.tokenizers.lookup id) :
    s'.Isolated ↔ s.SparesOthers env Option.none modelID t := by
  rw [isolated_iff_cached none]
  constructor
  · intro isolated' loads cluster asset _ here
    have own := isolated' cluster modelID asset ((cached _ _ _).mpr here)
    rw [tokenizers, if_pos ⟨loads, rfl⟩] at own
    exact (Option.some.inj own).symm
  · intro spares cluster id asset here
    rw [cached] at here
    rw [tokenizers]
    split
    · rename_i loads
      obtain ⟨loads, rfl⟩ := loads
      rw [spares loads cluster asset nofun here]
    · exact isolated.cached here

/-- What an accepted registration leaves: the asset of its pair, the state cached for it and
the tokenizer of its model. -/
structure Registered (env : SidecarEnv) (s s' : LocalTokenizers) (cluster modelID : String)
    (asset : StoredAsset) (state : LocalTokenizerState) : Prop where
  assets : ∀ key, s'.assets.lookup key =
    if key = localKey cluster modelID then some asset else s.assets.lookup key
  localModels : ∀ key, s'.localModels.lookup key =
    if key = localKey cluster modelID then some state else s.localModels.lookup key
  tokenizers : ∀ id, s'.sidecar.tokenizers.lookup id =
    if s.sidecar.keeps env modelID asset.chatTemplate = false ∧ id = modelID then
      some asset.tokenizer
    else s.sidecar.tokenizers.lookup id
  ensured : s'.ensured = none ∨ s'.ensured = some (cluster, modelID)

section Pair

variable {asset : StoredAsset} {state : LocalTokenizerState}
  (registered : Registered env s s' cluster modelID asset state)

include registered

theorem Registered.cached_iff {cluster' modelID' : String} {asset' : StoredAsset} :
    s'.Cached cluster' modelID' asset' ↔
      if localKey cluster' modelID' = localKey cluster modelID then
        asset' = asset ∧ state = localStateFromAsset asset
      else s.Cached cluster' modelID' asset' := by
  unfold Cached getTokenizerAsset localTokenizerLoaded
  rw [registered.assets, registered.localModels]
  split
  · rw [Option.some.injEq, decide_eq_true_iff, Option.some.injEq]
    constructor
    · rintro ⟨rfl, same⟩
      exact ⟨rfl, same⟩
    · rintro ⟨rfl, same⟩
      exact ⟨rfl, same⟩
  · rfl

/-- The pairs that are ready afterwards: the one registered, if it was found ready, and those
cached. -/
theorem Registered.ready_iff {cluster' modelID' : String} {asset' : StoredAsset} :
    s'.Ready cluster' modelID' asset' ↔
      (s'.ensured = some (cluster, modelID) ∧ cluster' = cluster ∧ modelID' = modelID ∧
        asset' = asset) ∨ s'.Cached cluster' modelID' asset' := by
  have own : ∀ asset', s'.getTokenizerAsset cluster modelID = some asset' ↔ asset' = asset := by
    intro asset'
    rw [getTokenizerAsset, registered.assets, if_pos rfl, Option.some.injEq, eq_comm]
  constructor
  · rintro ⟨found, loaded | ensured⟩
    · exact Or.inr ⟨found, loaded⟩
    · rcases registered.ensured with none | this
      · cases none.symm.trans ensured
      · obtain ⟨rfl, rfl⟩ := Prod.mk.inj (Option.some.inj (this.symm.trans ensured))
        exact Or.inl ⟨this, rfl, rfl, (own asset').mp found⟩
  · rintro (⟨ensured, rfl, rfl, rfl⟩ | ⟨found, loaded⟩)
    · exact ⟨(own asset').mpr rfl, Or.inr ensured⟩
    · exact ⟨found, Or.inl loaded⟩

/-- The pair itself is ready if its state is the asset's or it was found ready. -/
theorem Registered.own_ready_iff :
    s'.Ready cluster modelID asset ↔
      state = localStateFromAsset asset ∨ s'.ensured = some (cluster, modelID) := by
  rw [registered.ready_iff, registered.cached_iff, if_pos rfl, or_comm]
  simp

/-- A pair that is ready afterwards has the key of the registered one, and then its asset, or was
cached before. -/
theorem Registered.ready_cases {cluster' modelID' : String} {asset' : StoredAsset}
    (ready : s'.Ready cluster' modelID' asset') :
    (localKey cluster' modelID' = localKey cluster modelID ∧ asset' = asset ∧
        (state = localStateFromAsset asset ∨
          modelID' = modelID ∧ s'.ensured = some (cluster, modelID))) ∨
      localKey cluster' modelID' ≠ localKey cluster modelID ∧
        s.Cached cluster' modelID' asset' := by
  rcases registered.ready_iff.mp ready with ⟨ensured, rfl, rfl, own⟩ | cached
  · exact Or.inl ⟨rfl, own, Or.inr ⟨rfl, ensured⟩⟩
  · have before := registered.cached_iff.mp cached
    by_cases key : localKey cluster' modelID' = localKey cluster modelID
    · obtain ⟨own, current⟩ := (if_pos key).mp before
      exact Or.inl ⟨key, own, Or.inl current⟩
    · exact Or.inr ⟨key, (if_neg key).mp before⟩

/-- A registration leaves every pair with its own tokenizer exactly when what the sidecar
keeps is the one registered, if the pair is ready, what it loads is taken from no other pair,
and the pairs under the same key have it too. -/
theorem isolated_registered (isolated : s.Isolated) :
    s'.Isolated ↔
      (state = localStateFromAsset asset ∨ s'.ensured = some (cluster, modelID) →
          s.KeepsSame env modelID asset.tokenizer) ∧
        (state = localStateFromAsset asset → s.SparesKey cluster modelID asset.tokenizer) ∧
        s.SparesOthers env (some (localKey cluster modelID)) modelID asset.tokenizer := by
  have tokenizers := registered.tokenizers
  constructor
  · intro isolated'
    refine ⟨fun ready keeps => ?_, fun same cluster' modelID' other key => ?_,
      fun loads cluster' asset' other cached => ?_⟩
    · have own := isolated' cluster modelID asset (registered.own_ready_iff.mpr ready)
      rwa [tokenizers, if_neg (fun loads => Bool.false_ne_true (loads.1.symm.trans keeps))] at own
    · have own := isolated'.cached (registered.cached_iff.mpr ((if_pos key).mpr ⟨rfl, same⟩))
      rwa [tokenizers, if_neg (fun here => other here.2)] at own
    · have otherKey : localKey cluster' modelID ≠ localKey cluster modelID :=
        fun same => other (congrArg some same)
      have own := isolated'.cached (registered.cached_iff.mpr ((if_neg otherKey).mpr cached))
      rw [tokenizers, if_pos ⟨loads, rfl⟩] at own
      exact (Option.some.inj own).symm
  · rintro ⟨keepsSame, sparesKey, sparesOthers⟩ cluster' modelID' asset' ready
    rw [tokenizers]
    rcases registered.ready_cases ready with ⟨key, rfl, current⟩ | ⟨otherKey, cached⟩
    · by_cases same : modelID' = modelID
      · -- the pair itself
        subst same
        have own : state = localStateFromAsset asset' ∨ s'.ensured = some (cluster, modelID') :=
          current.imp_right And.right
        cases keeps : s.sidecar.keeps env modelID' asset'.chatTemplate with
        | false => rw [if_pos ⟨rfl, rfl⟩]
        | true =>
            rw [if_neg (fun loads => by simp at loads)]
            exact keepsSame own keeps
      · -- a pair of another model that shares the key
        rw [if_neg (fun loads => same loads.2)]
        have stored := current.resolve_right fun ensured => same ensured.1
        exact sparesKey stored cluster' modelID' same key
    · split
      · rename_i loads
        obtain ⟨loads, rfl⟩ := loads
        rw [sparesOthers loads cluster' asset' (fun here => otherKey (Option.some.inj here)) cached]
      · exact isolated.cached cached

end Pair

/-! ### Uploads -/

/-- An upload without a template takes the one stored, if any. -/
theorem templateOf_eq_of_material (u : Upload) (empty : (s.material u).chatTemplate = "") :
    templateOf (s.getTokenizerAsset u.cluster u.modelID) = "" := by
  unfold material at empty
  dsimp only at empty
  by_contra stored
  have own : (if u.chatTemplate = "" then
      templateOf (s.getTokenizerAsset u.cluster u.modelID) else u.chatTemplate) ≠ "" := by
    split
    · exact stored
    · assumption
  generalize (if u.chatTemplate = "" then
    templateOf (s.getTokenizerAsset u.cluster u.modelID)
    else u.chatTemplate) = template at own empty
  generalize (if u.tokenizerZip = [] then
    zipOf (s.getTokenizerAsset u.cluster u.modelID) else u.tokenizerZip) = zip at empty
  simp only [if_neg own] at empty
  split at empty
  · exact own empty
  · split at empty
    · exact own empty
    · split at empty
      · exact own empty
      · exact own empty

/-- The asset an upload writes once its tokenizer is registered. -/
def uploadedAsset (env : SidecarEnv) (s : LocalTokenizers) (u : Upload) : StoredAsset :=
  s.updatedStoredAsset env
    ⟨u.cluster, u.modelID, (s.material u).zip, (s.material u).chatTemplate,
      s.reported env u.modelID (s.material u)⟩
    u.now u.fileID

/-- What an upload stores is what it registered. -/
theorem tokenizer_uploadedAsset (u : Upload) (zip : (s.material u).zip ≠ []) :
    (s.uploadedAsset env u).tokenizer = s.material u := by
  have kept : ((s.getTokenizerAsset u.cluster u.modelID).getD {}).chatTemplate =
      templateOf (s.getTokenizerAsset u.cluster u.modelID) := by
    cases s.getTokenizerAsset u.cluster u.modelID with
    | none => rfl
    | some asset => rfl
  unfold uploadedAsset updatedStoredAsset StoredAsset.tokenizer updatedAsset
  dsimp only
  rw [if_pos zip, kept]
  split
  · rfl
  · rename_i empty
    have empty := not_not.mp empty
    rw [templateOf_eq_of_material u empty, ← empty]

/-- An upload that is stored is a registration of the asset as it is read back. -/
theorem registered_upload {u : Upload} (zip : (s.material u).zip ≠ [])
    (accepts : s.Accepts env u.modelID (s.material u)) (stored : u.storeFails = false) :
    Registered env s (s.step env (.upload u)) u.cluster u.modelID
        (s.uploadedAsset env u).readBack (localStateFromAsset (s.uploadedAsset env u)) ∧
      (s.step env (.upload u)).ensured = none := by
  cases answer : s.sidecar.register env u.modelID (s.material u) with
  | none => exact absurd accepts (register_eq_none.mp answer)
  | some result =>
      obtain ⟨sidecar, hash⟩ := result
      obtain ⟨-, rfl, tokenizers⟩ := register_eq_some answer
      rw [← @tokenizer_uploadedAsset env s u zip] at tokenizers
      have next : s.step env (.upload u) = { s.upload env u with ensured := none } := rfl
      rw [next, LocalTokenizers.upload]
      simp only [if_neg zip, answer, stored, Bool.false_eq_true, if_false]
      refine ⟨⟨fun key => ?_, fun key => ?_, tokenizers, Or.inl rfl⟩, trivial⟩
      · exact GoMap.lookup_insert_eq _ _ _ _
      · exact GoMap.lookup_insert_eq _ _ _ _

/-- The state an upload notes is that of the asset read back when its time is in whole
milliseconds. -/
theorem localStateFromAsset_readBack (asset : StoredAsset) :
    localStateFromAsset asset = localStateFromAsset asset.readBack ↔
      bsonTime asset.updatedAt = asset.updatedAt := by
  simp [localStateFromAsset, StoredAsset.readBack, eq_comm]

theorem isolated_upload_iff (isolated : s.Isolated) (u : Upload) :
    (s.step env (.upload u)).Isolated ↔ s.Separates env (.upload u) := by
  have next : s.step env (.upload u) = { s.upload env u with ensured := none } := rfl
  have unchanged : Isolated { s with ensured := none } :=
    isolated.mono rfl rfl fun _ _ _ cached => cached
  by_cases zip : (s.material u).zip = []
  · rw [next, LocalTokenizers.upload, if_pos zip]
    exact iff_of_true unchanged (fun some => absurd zip some)
  · by_cases accepts : s.Accepts env u.modelID (s.material u)
    · have applies : s.Separates env (.upload u) ↔
          if u.storeFails then s.SparesOthers env none u.modelID (s.material u)
          else
            (bsonTime u.now = u.now →
              s.KeepsSame env u.modelID (s.material u) ∧
                s.SparesKey u.cluster u.modelID (s.material u)) ∧
              s.SparesOthers env (some (localKey u.cluster u.modelID)) u.modelID (s.material u) :=
        ⟨fun separates => separates zip accepts, fun separates _ _ => separates⟩
      rw [applies]
      cases fails : u.storeFails with
      | false =>
          obtain ⟨registered, none⟩ := registered_upload zip accepts fails
          have now : (s.uploadedAsset env u).updatedAt = u.now := rfl
          rw [isolated_registered registered isolated, none, localStateFromAsset_readBack,
            StoredAsset.tokenizer_readBack, tokenizer_uploadedAsset u zip, now]
          simp only [reduceCtorEq, or_false, Bool.false_eq_true, if_false]
          rw [← and_assoc, ← imp_and]
      | true =>
          cases answer : s.sidecar.register env u.modelID (s.material u) with
          | none => exact absurd accepts (register_eq_none.mp answer)
          | some result =>
              rw [next, LocalTokenizers.upload]
              simp only [if_neg zip, answer, fails, if_true]
              exact isolated_unstored isolated rfl (fun _ _ _ => Iff.rfl)
                (register_eq_some answer).2.2
    · rw [next, LocalTokenizers.upload, if_neg zip, register_eq_none.mpr accepts]
      exact iff_of_true unchanged fun _ here => absurd here accepts

/-! ### Ensuring -/

/-- A pair found cached is served as before. -/
theorem Isolated.ensured (isolated : s.Isolated) {asset : StoredAsset}
    (cached : s.Cached cluster modelID asset) :
    Isolated { s with ensured := some (cluster, modelID) } := by
  rintro cluster' modelID' asset' ⟨found, loaded | ensured⟩
  · exact isolated.cached ⟨found, loaded⟩
  · obtain ⟨rfl, rfl⟩ := Prod.mk.inj (Option.some.inj ensured)
    obtain rfl := Option.some.inj (cached.1.symm.trans found)
    exact isolated.cached cached

/-- The state noted after a registration is the asset's when the hash answered is. -/
theorem noted_eq_iff (asset : StoredAsset) (hash : String) :
    (if hash ≠ "" then { localStateFromAsset asset with chatTemplateSHA256 := hash }
      else localStateFromAsset asset) = localStateFromAsset asset ↔
      hash = "" ∨ hash = asset.chatTemplateSHA256 := by
  by_cases empty : hash = ""
  · simp [empty]
  · simp [empty, localStateFromAsset]

/-- What ensuring a pair does: nothing, if there is nothing to register or the sidecar
refuses it; nothing, if the pair is cached; or a registration. -/
theorem ensureLocalTokenizer_cases (env : SidecarEnv) (s : LocalTokenizers)
    (cluster modelID : String) :
    (s.ensureLocalTokenizer env cluster modelID = (s, false) ∧
      ∀ asset, s.Due cluster modelID asset → ¬ s.Accepts env modelID asset.tokenizer) ∨
    (s.ensureLocalTokenizer env cluster modelID = (s, true) ∧
      ∃ asset, s.Cached cluster modelID asset) ∨
    ∃ asset sidecar hash, s.Due cluster modelID asset ∧
      s.sidecar.register env modelID asset.tokenizer = some (sidecar, hash) ∧
      s.ensureLocalTokenizer env cluster modelID =
        ({ s with
           sidecar := sidecar
           localModels := s.localModels.insert (localKey cluster modelID)
             (if hash ≠ "" then { localStateFromAsset asset with chatTemplateSHA256 := hash }
              else localStateFromAsset asset) }, true) := by
  unfold ensureLocalTokenizer Due
  cases found : s.getTokenizerAsset cluster modelID with
  | none => exact Or.inl ⟨rfl, nofun⟩
  | some asset =>
      dsimp only
      split
      · rename_i noZip
        refine Or.inl ⟨rfl, ?_⟩
        rintro _ ⟨same, zip, -⟩
        obtain rfl := Option.some.inj same
        exact absurd noZip zip
      · rename_i zip
        split
        · rename_i loaded
          exact Or.inr (Or.inl ⟨rfl, asset, found, loaded⟩)
        · rename_i notLoaded
          split
          · rename_i empty
            refine Or.inl ⟨rfl, ?_⟩
            rintro _ ⟨same, -, -, bytes⟩
            obtain rfl := Option.some.inj same
            exact absurd empty bytes
          · rename_i bytes
            cases answer : s.sidecar.register env modelID asset.tokenizer with
            | none =>
                refine Or.inl ⟨rfl, ?_⟩
                rintro _ ⟨same, -⟩
                obtain rfl := Option.some.inj same
                exact register_eq_none.mp answer
            | some result =>
                have due := Bool.eq_false_of_not_eq_true notLoaded
                exact Or.inr (Or.inr
                  ⟨asset, result.1, result.2, ⟨rfl, zip, due, bytes⟩, answer, rfl⟩)

theorem Due.unique {asset asset' : StoredAsset} (due : s.Due cluster modelID asset)
    (due' : s.Due cluster modelID asset') : asset' = asset :=
  Option.some.inj (due'.1.symm.trans due.1)

theorem step_ensure (cluster modelID : String) :
    s.step env (.ensure cluster modelID) =
      { (s.ensureLocalTokenizer env cluster modelID).1 with
        ensured := if (s.ensureLocalTokenizer env cluster modelID).2 then
          some (cluster, modelID) else none } := rfl

/-- Ensuring a pair registers the asset that is due, and the pair is found ready. -/
theorem registered_ensure {asset : StoredAsset} (due : s.Due cluster modelID asset)
    (accepts : s.Accepts env modelID asset.tokenizer) :
    ∃ state, Registered env s (s.step env (.ensure cluster modelID)) cluster modelID asset state ∧
      (s.step env (.ensure cluster modelID)).ensured = some (cluster, modelID) ∧
      (state = localStateFromAsset asset ↔
        s.reported env modelID asset.tokenizer = "" ∨
          s.reported env modelID asset.tokenizer = asset.chatTemplateSHA256) := by
  rw [step_ensure]
  rcases ensureLocalTokenizer_cases env s cluster modelID with
    ⟨-, refused⟩ | ⟨-, cachedAsset, cached⟩ | ⟨dueAsset, sidecar, hash, due', answer, result⟩
  · exact absurd accepts (refused asset due)
  · obtain rfl := Option.some.inj (cached.1.symm.trans due.1)
    cases due.2.2.1.symm.trans cached.2
  · obtain rfl := due.unique due'
    obtain ⟨-, rfl, tokenizers⟩ := register_eq_some answer
    rw [result]
    have assets (key : String) : s.assets.lookup key =
        if key = localKey cluster modelID then some dueAsset else s.assets.lookup key := by
      split
      · rename_i same
        rw [same]
        exact due.1
      · rfl
    exact ⟨_, ⟨assets, fun key => GoMap.lookup_insert_eq _ _ _ _, tokenizers, Or.inr rfl⟩, rfl,
      noted_eq_iff _ _⟩

theorem isolated_ensure_iff (isolated : s.Isolated) (cluster modelID : String) :
    (s.step env (.ensure cluster modelID)).Isolated ↔
      s.Separates env (.ensure cluster modelID) := by
  by_cases registers : ∃ asset, s.Due cluster modelID asset ∧ s.Accepts env modelID asset.tokenizer
  · obtain ⟨asset, due, accepts⟩ := registers
    obtain ⟨state, registered, ensured, current⟩ := registered_ensure due accepts
    have exact := isolated_registered registered isolated
    simp only [ensured, current, or_true, forall_const] at exact
    constructor
    · intro isolated' asset' due' _
      obtain rfl := due.unique due'
      exact exact.mp isolated'
    · intro separates
      exact exact.mpr (separates asset due accepts)
  · refine iff_of_true ?_ fun asset due accepts => absurd ⟨asset, due, accepts⟩ registers
    rw [step_ensure]
    rcases ensureLocalTokenizer_cases env s cluster modelID with
      ⟨result, -⟩ | ⟨result, asset, cached⟩ | ⟨asset, sidecar, hash, due, answer, -⟩
    · rw [result]
      exact isolated.mono rfl rfl fun _ _ _ cached => cached
    · rw [result]
      exact isolated.ensured cached
    · exact absurd ⟨asset, due, (register_eq_some answer).1⟩ registers

theorem isolated_clear (isolated : s.Isolated) (cluster modelID : String) :
    (s.step env (.clear cluster modelID)).Isolated := by
  refine isolated.mono rfl rfl fun cluster' modelID' asset cached => ⟨cached.1, ?_⟩
  have loaded := of_decide_eq_true cached.2
  have loaded : (s.localModels.erase (localKey cluster modelID)).lookup
      (localKey cluster' modelID') = some (localStateFromAsset asset) := loaded
  rw [GoMap.lookup_erase_eq] at loaded
  split at loaded
  · cases loaded
  · exact decide_eq_true loaded

theorem isolated_step_iff (isolated : s.Isolated) (op : Step) :
    (s.step env op).Isolated ↔ s.Separates env op := by
  cases op with
  | upload u => exact isolated_upload_iff isolated u
  | ensure cluster modelID => exact isolated_ensure_iff isolated cluster modelID
  | clear cluster modelID => exact iff_of_true (isolated_clear isolated cluster modelID) trivial

end Steps

/-! ### Runs -/

/-- In a run each pair is served by its own tokenizer whenever it is ready, exactly when
each step leaves the tokenizers of the pairs that are ready apart. -/
theorem always_isolated_iff (env : SidecarEnv) (ops : List Step) :
    (∀ pre post, ops = pre ++ post → (Run.run (step env) {} pre).Isolated) ↔
      Run.EachStep (step env) (Separates env) {} ops := by
  refine @Run.always_iff_eachStep _ _ (step env) (Separates env) (fun _ => True) Isolated
    (fun _ _ _ => trivial) (fun s op _ isolated => isolated_step_iff isolated op) {} trivial ?_ ops
  rintro cluster modelID asset ⟨found, -⟩
  rw [getTokenizerAsset, Finmap.lookup_empty] at found
  cases found

/-! ### Requests -/

section Requests

variable {α : Type} {answer : Tokenizer → Option α} {cluster modelID : String}

/-- A request takes the steps of one try or of two. -/
theorem tokenizeLocalChat_eq_run :
    ∃ ops ∈ [[Step.ensure cluster modelID],
        [.ensure cluster modelID, .clear cluster modelID, .ensure cluster modelID]],
      (s.tokenizeLocalChat env answer cluster modelID).1 = Run.run (step env) s ops := by
  unfold tokenizeLocalChat
  dsimp only
  split
  · exact ⟨_, List.mem_cons_self, rfl⟩
  · split
    · exact ⟨_, List.mem_cons_self, rfl⟩
    · refine ⟨_, List.mem_cons_of_mem _ List.mem_cons_self, ?_⟩
      split
      · rfl
      · rfl

theorem ensure_assets : (s.step env (.ensure cluster modelID)).assets = s.assets := by
  rw [step_ensure]
  rcases ensureLocalTokenizer_cases env s cluster modelID with
    ⟨result, -⟩ | ⟨result, -⟩ | ⟨asset, sidecar, hash, -, -, result⟩
  · rw [result]
  · rw [result]
  · rw [result]

/-- A pair that was just found ready has an asset, whose tokenizer answers if pairs are
kept apart. -/
theorem ask_ensured (isolated : (s.step env (.ensure cluster modelID)).Isolated)
    (ready : (s.step env (.ensure cluster modelID)).ensured ≠ none) :
    ∃ asset, s.getTokenizerAsset cluster modelID = some asset ∧
      (s.step env (.ensure cluster modelID)).ask answer modelID = answer asset.tokenizer := by
  have ensured : (s.step env (.ensure cluster modelID)).ensured = some (cluster, modelID) := by
    rw [step_ensure] at ready ⊢
    dsimp only at ready ⊢
    split
    · rfl
    · rename_i failed
      exact absurd (if_neg failed) ready
  have found : ∃ asset, s.getTokenizerAsset cluster modelID = some asset := by
    rcases ensureLocalTokenizer_cases env s cluster modelID with
      ⟨result, -⟩ | ⟨-, asset, cached⟩ | ⟨asset, -, -, due, -⟩
    · rw [step_ensure, result] at ready
      exact absurd rfl ready
    · exact ⟨asset, cached.1⟩
    · exact ⟨asset, due.1⟩
  obtain ⟨asset, found⟩ := found
  refine ⟨asset, found, ?_⟩
  rw [ask, isolated cluster modelID asset ⟨?_, Or.inr ensured⟩]
  · rfl
  · rw [getTokenizerAsset, ensure_assets]
    exact found

/-- A request that is answered is answered by the tokenizer of the pair's own asset, if
pairs are kept apart. -/
theorem tokenizeLocalChat_own {result : α}
    (isolated : (s.tokenizeLocalChat env answer cluster modelID).1.Isolated)
    (answered : (s.tokenizeLocalChat env answer cluster modelID).2 = some result) :
    ∃ asset, s.getTokenizerAsset cluster modelID = some asset ∧
      answer asset.tokenizer = some result := by
  unfold tokenizeLocalChat at isolated answered
  dsimp only at isolated answered
  split at answered
  · cases answered
  · rename_i ready
    rw [if_neg ready] at isolated
    cases first : (s.step env (.ensure cluster modelID)).ask answer modelID with
    | some own =>
        rw [first] at answered isolated
        obtain ⟨asset, found, same⟩ := @ask_ensured env s _ answer _ _ isolated ready
        exact ⟨asset, found, same.symm.trans (first.trans answered)⟩
    | none =>
        rw [first] at answered isolated
        dsimp only at answered isolated
        split at answered
        · cases answered
        · rename_i again
          rw [if_neg again] at isolated
          obtain ⟨asset, found, same⟩ := @ask_ensured env _ _ answer _ _ isolated again
          refine ⟨asset, ?_, same.symm.trans answered⟩
          rw [← found, getTokenizerAsset, getTokenizerAsset]
          exact congrArg (Finmap.lookup _) ensure_assets.symm

end Requests

/-! ### Two clusters, one model id -/

/-- Clusters that are cached for one model id have the same tokenizer. -/
theorem Isolated.tokenizer_eq (isolated : s.Isolated) {cluster cluster' modelID : String}
    {asset asset' : StoredAsset} (cached : s.Cached cluster modelID asset)
    (cached' : s.Cached cluster' modelID asset') : asset.tokenizer = asset'.tokenizer :=
  Option.some.inj ((isolated.cached cached).symm.trans (isolated.cached cached'))

/-- The asset of the pair can be registered, and the sidecar answers with the hash noted for
it. -/
structure Registrable (env : SidecarEnv) (s : LocalTokenizers) (cluster modelID : String)
    (asset : StoredAsset) : Prop where
  found : s.getTokenizerAsset cluster modelID = some asset
  file : asset.zipFileID ≠ none
  zip : asset.zipBytes ≠ []
  template : asset.chatTemplate ≠ ""
  hashed : asset.chatTemplateSHA256 = env.templateHash asset.chatTemplate
  extracts : env.extracts asset.zipBytes = true
  loads : env.loads asset.tokenizer = true

theorem reported_eq {modelID : String} {t : Tokenizer} (template : t.chatTemplate ≠ "") :
    s.reported env modelID t = env.templateHash t.chatTemplate := by
  unfold reported
  split
  · rename_i keeps
    unfold Sidecar.keeps at keeps
    simp only [Bool.and_eq_true, decide_eq_false template, Bool.false_or, decide_eq_true_iff]
      at keeps
    exact keeps.2
  · rfl

section Registrable

variable {cluster modelID : String} {asset : StoredAsset}

/-- Ensuring the pair leaves it cached. -/
theorem Registrable.cached_ensure (able : Registrable env s cluster modelID asset) :
    (s.step env (.ensure cluster modelID)).Cached cluster modelID asset := by
  cases loaded : s.localTokenizerLoaded cluster modelID (localStateFromAsset asset) with
  | true =>
      rw [step_ensure]
      unfold ensureLocalTokenizer
      simp only [able.found, able.file, loaded, if_false, if_true]
      exact ⟨able.found, loaded⟩
  | false =>
      obtain ⟨state, registered, -, current⟩ :=
        registered_ensure ⟨able.found, able.file, loaded, able.zip⟩
          ⟨able.extracts, Or.inr able.loads⟩
      rw [registered.cached_iff, if_pos rfl]
      exact ⟨rfl, current.mpr (Or.inr ((reported_eq able.template).trans able.hashed.symm))⟩

/-- Another pair stays as it is. -/
theorem cached_ensure_other {cluster' modelID' : String}
    (other : localKey cluster' modelID' ≠ localKey cluster modelID)
    (cached : s.Cached cluster' modelID' asset) :
    (s.step env (.ensure cluster modelID)).Cached cluster' modelID' asset := by
  rw [step_ensure]
  rcases ensureLocalTokenizer_cases env s cluster modelID with
    ⟨result, -⟩ | ⟨result, -⟩ | ⟨_, _, _, -, -, result⟩
  · rw [result]
    exact cached
  · rw [result]
    exact cached
  · rw [result]
    refine ⟨cached.1, ?_⟩
    unfold localTokenizerLoaded
    rw [GoMap.lookup_insert_eq, if_neg other]
    exact cached.2

theorem Registrable.ensure (able : Registrable env s cluster modelID asset)
    (cluster' modelID' : String) :
    Registrable env (s.step env (.ensure cluster' modelID')) cluster modelID asset :=
  { able with
    found := by
      rw [getTokenizerAsset, ensure_assets]
      exact able.found }

/-- An upload leaves its pair so. -/
theorem registrable_upload {u : Upload} (zip : (s.material u).zip ≠ [])
    (template : (s.material u).chatTemplate ≠ "")
    (extracts : env.extracts (s.material u).zip = true) (loads : env.loads (s.material u) = true)
    (stored : u.storeFails = false) :
    Registrable env (s.step env (.upload u)) u.cluster u.modelID
      (s.uploadedAsset env u).readBack := by
  have accepts : s.Accepts env u.modelID (s.material u) := ⟨extracts, Or.inr loads⟩
  obtain ⟨registered, -⟩ := registered_upload zip accepts stored
  have own := @tokenizer_uploadedAsset env s u zip
  have ownZip : (s.uploadedAsset env u).zipBytes = (s.material u).zip := congrArg Tokenizer.zip own
  have ownTemplate : (s.uploadedAsset env u).chatTemplate = (s.material u).chatTemplate :=
    congrArg Tokenizer.chatTemplate own
  refine ⟨(registered.assets _).trans (if_pos rfl), ?_, ?_, ?_, ?_, ?_, ?_⟩
  · simp [StoredAsset.readBack, uploadedAsset, updatedStoredAsset, updatedAsset, zip]
  · exact ownZip.trans_ne zip
  · exact ownTemplate.trans_ne template
  · change (s.uploadedAsset env u).chatTemplateSHA256 =
      env.templateHash (s.uploadedAsset env u).chatTemplate
    rw [ownTemplate]
    have hash : env.templateHash (s.material u).chatTemplate =
        sha256String env.sha256Bytes (s.material u).chatTemplate := if_neg template
    simp only [uploadedAsset, updatedStoredAsset, updatedAsset, reported_eq template, hash]
    split
    · rfl
    · rfl
  · exact (congrArg env.extracts ownZip).trans extracts
  · exact (congrArg env.loads own).trans loads

end Registrable

def firstUpload : Upload :=
  { cluster := "a", modelID := "m", tokenizerZip := [1], chatTemplate := "t", now := 1 }

def secondUpload : Upload :=
  { cluster := "b", modelID := "m", tokenizerZip := [2], chatTemplate := "u", now := 2 }

/-- Two clusters upload a tokenizer for the model id "m" and are asked in turn. Both count as
loaded then, and the sidecar has one of the two. -/
theorem not_always_isolated :
    ¬ ∃ sha256Bytes : Sha256,
      ∀ ops, (Run.run (step ⟨sha256Bytes, fun _ => true, fun _ => true⟩) {} ops).Isolated := by
  rintro ⟨sha256Bytes, always⟩
  set env : SidecarEnv := ⟨sha256Bytes, fun _ => true, fun _ => true⟩
  set s₁ : LocalTokenizers := step env {} (.upload firstUpload)
  set s₂ : LocalTokenizers := step env s₁ (.upload secondUpload)
  have material₁ : material {} firstUpload = ⟨[1], "t"⟩ := rfl
  have material₂ : s₁.material secondUpload = ⟨[2], "u"⟩ := rfl
  set a := (uploadedAsset env {} firstUpload).readBack
  set b := (s₁.uploadedAsset env secondUpload).readBack
  have ofA : a.tokenizer = ⟨[1], "t"⟩ :=
    (@tokenizer_uploadedAsset env {} firstUpload (by simp [material₁])).trans material₁
  have ofB : b.tokenizer = ⟨[2], "u"⟩ :=
    (@tokenizer_uploadedAsset env s₁ secondUpload (by simp [material₂])).trans material₂
  have ableB : Registrable env s₂ "b" "m" b :=
    registrable_upload (by simp [material₂]) (by simp [material₂]) rfl rfl rfl
  have ableA : Registrable env s₁ "a" "m" a :=
    registrable_upload (by simp [material₁]) (by simp [material₁]) rfl rfl rfl
  have apart : localKey "a" "m" ≠ localKey "b" "m" := by decide
  have ableA : Registrable env s₂ "a" "m" a :=
    { ableA with
      found := by
        have registered := (@registered_upload env s₁ secondUpload (by simp [material₂])
          ⟨rfl, Or.inr rfl⟩ rfl).1
        exact ((registered.assets _).trans (if_neg apart)).trans ableA.found }
  -- the first request of a and that of b
  have cachedB := (ableB.ensure "a" "m").cached_ensure
  have again := (ableA.ensure "a" "m").ensure "b" "m"
  have isolated := always [.upload firstUpload, .upload secondUpload, .ensure "a" "m",
    .ensure "b" "m", .ensure "a" "m"]
  have same := isolated.tokenizer_eq again.cached_ensure
    (cached_ensure_other apart.symm cachedB)
  rw [ofA, ofB] at same
  simp at same

end KvIndexer.Gateway.LocalTokenizers
