import KvIndexer.Gateway.TokenizerAsset

/-!
Integrity of tokenizer assets under interleaved puts.

File ids are never used twice, so a file that a record, or the record a call found, names
is either gone or the one it was (`Sound`). A step can leave a record without its file in
two ways only: a put without a zip writes back the name of a file that is gone, and a put
deletes a file that such a record names again. `always_intact_iff` says that a run without
these two keeps every record intact, and that no other run does.
-/

namespace KvIndexer.Gateway.AssetStore

variable (sha256Bytes : Sha256)

/-- The file of the record is not a future one, and if it is still there it has the hash. -/
def Known (s : AssetStore) (asset : TokenizerAsset) : Prop :=
  ∀ id, asset.zipFileID = some id → id < s.nextFileID ∧
    ∀ zip, s.bucket.lookup id = some zip → asset.zipSHA256 = sha256Bytes zip

/-- A record, or the record a call found, names the file. -/
def Named (s : AssetStore) (id : FileID) : Prop :=
  (∃ key asset, s.assets.lookup key = some asset ∧ asset.zipFileID = some id) ∨
    ∃ call c, s.calls.lookup call = some c ∧ c.existing.zipFileID = some id

/-- The call has uploaded the file and not yet replaced the record. -/
def Uploaded (s : AssetStore) (call : Nat) (c : PutCall) (id : FileID) : Prop :=
  s.calls.lookup call = some c ∧ c.phase = .uploaded id

/-- What holds in every run: names are known, and a file that was uploaded and is not named
yet is there and belongs to one call. -/
structure Sound (s : AssetStore) : Prop where
  assets : ∀ key asset, s.assets.lookup key = some asset → s.Known sha256Bytes asset
  existing : ∀ call c, s.calls.lookup call = some c → s.Known sha256Bytes c.existing
  fresh : ∀ call c id, s.Uploaded call c id → id < s.nextFileID ∧ ¬ s.Named id
  there : ∀ call c id, s.Uploaded call c id → s.bucket.lookup id = some c.input.tokenizerZip
  own : ∀ call c call' c' id, s.Uploaded call c id → s.Uploaded call' c' id → call = call'

/-- The step does neither of the two: it does not write back the name of a file that is
gone, and it does not delete a file that a record names. -/
def Spares (s : AssetStore) : PutStep → Prop
  | .find _ _ => True
  | .turn call _ =>
      match s.calls.lookup call with
      | none => True
      | some c =>
          match c.phase with
          | .found =>
              c.input.tokenizerZip = [] → ∀ id, c.existing.zipFileID = some id → id ∈ s.bucket
          | .replaced asset =>
              ∀ old, oldZip c asset = some old → ∀ key asset, s.assets.lookup key = some asset →
                asset.zipFileID ≠ some old
          | _ => True

variable {sha256Bytes} {s : AssetStore}

theorem Sound.start : Sound sha256Bytes {} where
  assets key asset found := by
    rw [Finmap.lookup_empty] at found
    cases found
  existing call c found := by
    rw [Finmap.lookup_empty] at found
    cases found
  fresh call c id uploaded := by
    rw [Uploaded, Finmap.lookup_empty] at uploaded
    cases uploaded.1
  there call c id uploaded := by
    rw [Uploaded, Finmap.lookup_empty] at uploaded
    cases uploaded.1
  own call c call' c' id uploaded := by
    rw [Uploaded, Finmap.lookup_empty] at uploaded
    cases uploaded.1

/-! ### One step -/

section Calls

variable {s' : AssetStore} {call : Nat} {c c' : PutCall}

/-- After a call changed, an upload is its own or one from before. -/
theorem Uploaded.cases (calls : s'.calls = s.calls.insert call c') {call' : Nat} {d : PutCall}
    {id : FileID} (uploaded : s'.Uploaded call' d id) :
    (call' = call ∧ d = c' ∧ c'.phase = .uploaded id) ∨
      (call' ≠ call ∧ s.Uploaded call' d id) := by
  obtain ⟨found, phase⟩ := uploaded
  rw [calls, GoMap.lookup_insert_eq] at found
  by_cases same : call' = call
  · rw [if_pos same] at found
    obtain rfl := Option.some.inj found
    exact Or.inl ⟨same, rfl, phase⟩
  · rw [if_neg same] at found
    exact Or.inr ⟨same, found, phase⟩

/-- A change of a call that keeps the record it found keeps what all calls found. -/
theorem exists_existing (calls : s'.calls = s.calls.insert call c')
    (here : s.calls.lookup call = some c) (kept : c'.existing = c.existing) {call' : Nat}
    {d : PutCall} (found : s'.calls.lookup call' = some d) :
    ∃ d', s.calls.lookup call' = some d' ∧ d.existing = d'.existing := by
  rw [calls, GoMap.lookup_insert_eq] at found
  by_cases same : call' = call
  · rw [if_pos same] at found
    obtain rfl := Option.some.inj found
    exact ⟨c, same ▸ here, kept⟩
  · rw [if_neg same] at found
    exact ⟨d, found, rfl⟩

/-- What the calls found stays known when all that was known does. -/
theorem Sound.existing_insert (sound : s.Sound sha256Bytes)
    (calls : s'.calls = s.calls.insert call c') (here : s.calls.lookup call = some c)
    (kept : c'.existing = c.existing)
    (known : ∀ asset, s.Known sha256Bytes asset → s'.Known sha256Bytes asset) {call' : Nat}
    {d : PutCall} (found : s'.calls.lookup call' = some d) :
    s'.Known sha256Bytes d.existing := by
  obtain ⟨d', found', same⟩ := exists_existing calls here kept found
  rw [same]
  exact known _ (sound.existing call' d' found')

/-- It names no new file, but for those of the records. -/
theorem Named.cases (calls : s'.calls = s.calls.insert call c')
    (here : s.calls.lookup call = some c) (kept : c'.existing = c.existing) {id : FileID}
    (named : s'.Named id) :
    (∃ key asset, s'.assets.lookup key = some asset ∧ asset.zipFileID = some id) ∨
      s.Named id := by
  rcases named with stored | ⟨call', d, found, name⟩
  · exact Or.inl stored
  · obtain ⟨d', found', same⟩ := exists_existing calls here kept found
    exact Or.inr (Or.inr ⟨call', d', found', same ▸ name⟩)

/-- A put finds its record. -/
theorem Sound.find (sound : s.Sound sha256Bytes) (call : Nat) (input : TokenizerAssetInput) :
    (s.find sha256Bytes call input).Sound sha256Bytes := by
  unfold AssetStore.find
  cases taken : s.calls.lookup call with
  | some c => exact sound
  | none =>
      dsimp only
      split
      · exact sound
      · set existing : TokenizerAsset := (s.assets.lookup
          (tokenizerAssetID sha256Bytes input.cluster input.modelID)).getD {} with stored
        have record : existing.zipFileID = none ∨
            ∃ key, s.assets.lookup key = some existing := by
          cases found : s.assets.lookup
              (tokenizerAssetID sha256Bytes input.cluster input.modelID) with
          | none =>
              left
              rw [stored, found]
              rfl
          | some asset =>
              right
              rw [stored, found]
              exact ⟨_, found⟩
        set s' : AssetStore := { s with calls := s.calls.insert call ⟨input, existing, .found⟩ }
        have calls : s'.calls = s.calls.insert call ⟨input, existing, .found⟩ := rfl
        have before : ∀ call' d id, s'.Uploaded call' d id → s.Uploaded call' d id := by
          intro call' d id uploaded
          rcases uploaded.cases calls with ⟨-, -, phase⟩ | ⟨-, before⟩
          · cases phase
          · exact before
        have named : ∀ id, s'.Named id → s.Named id := by
          rintro id (inAssets | ⟨call', d, found, name⟩)
          · exact Or.inl inAssets
          · rw [calls, GoMap.lookup_insert_eq] at found
            split at found
            · obtain rfl := Option.some.inj found
              rcases record with none | ⟨key, inAssets⟩
              · cases none.symm.trans name
              · exact Or.inl ⟨key, existing, inAssets, name⟩
            · exact Or.inr ⟨call', d, found, name⟩
        refine ⟨sound.assets, ?_, ?_, ?_, ?_⟩
        · intro call' d found
          rw [calls, GoMap.lookup_insert_eq] at found
          split at found
          · obtain rfl := Option.some.inj found
            rcases record with none | ⟨key, inAssets⟩
            · intro id name
              cases none.symm.trans name
            · exact sound.assets key existing inAssets
          · exact sound.existing call' d found
        · intro call' d id uploaded
          obtain ⟨less, unnamed⟩ := sound.fresh call' d id (before call' d id uploaded)
          exact ⟨less, fun name => unnamed (named id name)⟩
        · intro call' d id uploaded
          exact sound.there call' d id (before call' d id uploaded)
        · intro call₁ d₁ call₂ d₂ id uploaded₁ uploaded₂
          exact sound.own call₁ d₁ call₂ d₂ id (before _ _ _ uploaded₁) (before _ _ _ uploaded₂)

/-- A put uploads its zip. -/
theorem Sound.upload (sound : s.Sound sha256Bytes) (here : s.calls.lookup call = some c) :
    (s.upload call c).Sound sha256Bytes := by
  have calls : (s.upload call c).calls =
      s.calls.insert call { c with phase := .uploaded s.nextFileID } := rfl
  have known : ∀ asset, s.Known sha256Bytes asset → (s.upload call c).Known sha256Bytes asset := by
    intro asset known id name
    obtain ⟨old, hash⟩ := known id name
    refine ⟨Nat.lt_succ_of_lt old, fun zip found => hash zip ?_⟩
    exact (Finmap.lookup_insert_of_ne _ (Nat.ne_of_lt old)).symm.trans found
  have named : ∀ id, (s.upload call c).Named id → s.Named id := by
    intro id named
    rcases named.cases calls here rfl with inAssets | before
    · exact Or.inl inAssets
    · exact before
  have old : ∀ id, s.Named id → id < s.nextFileID := by
    rintro id (⟨key, asset, found, name⟩ | ⟨call', d, found, name⟩)
    · exact (sound.assets key asset found id name).1
    · exact (sound.existing call' d found id name).1
  refine ⟨fun key asset found => known asset (sound.assets key asset found), ?_, ?_, ?_, ?_⟩
  · intro call' d found
    exact sound.existing_insert calls here rfl known found
  · intro call' d id uploaded
    rcases uploaded.cases calls with ⟨-, -, phase⟩ | ⟨-, before⟩
    · obtain rfl := PutPhase.uploaded.inj phase
      exact ⟨Nat.lt_succ_self _, fun name => Nat.lt_irrefl _ (old _ (named _ name))⟩
    · obtain ⟨less, unnamed⟩ := sound.fresh call' d id before
      exact ⟨Nat.lt_succ_of_lt less, fun name => unnamed (named id name)⟩
  · intro call' d id uploaded
    rcases uploaded.cases calls with ⟨-, rfl, phase⟩ | ⟨-, before⟩
    · obtain rfl := PutPhase.uploaded.inj phase
      exact Finmap.lookup_insert _
    · have less := (sound.fresh call' d id before).1
      exact (Finmap.lookup_insert_of_ne _ (Nat.ne_of_lt less)).trans (sound.there call' d id before)
  · intro call₁ d₁ call₂ d₂ id uploaded₁ uploaded₂
    rcases uploaded₁.cases calls with ⟨rfl, -, phase⟩ | ⟨-, before₁⟩
    · rcases uploaded₂.cases calls with ⟨rfl, -, -⟩ | ⟨-, before₂⟩
      · rfl
      · obtain rfl := PutPhase.uploaded.inj phase
        exact absurd (sound.fresh call₂ d₂ _ before₂).1 (Nat.lt_irrefl _)
    · rcases uploaded₂.cases calls with ⟨rfl, -, phase⟩ | ⟨-, before₂⟩
      · obtain rfl := PutPhase.uploaded.inj phase
        exact absurd (sound.fresh call₁ d₁ _ before₁).1 (Nat.lt_irrefl _)
      · exact sound.own call₁ d₁ call₂ d₂ id before₁ before₂

/-- Once a call is past its upload, the uploads are those of the other calls. -/
theorem Uploaded.other (calls : s'.calls = s.calls.insert call c')
    (past : ∀ id, c'.phase ≠ .uploaded id) {call' : Nat} {d : PutCall} {id : FileID}
    (uploaded : s'.Uploaded call' d id) : call' ≠ call ∧ s.Uploaded call' d id := by
  rcases uploaded.cases calls with ⟨-, -, phase⟩ | before
  · exact absurd phase (past id)
  · exact before

/-- A put replaces the record, naming the file it uploaded or the one it found. -/
theorem Sound.replace (sound : s.Sound sha256Bytes) (here : s.calls.lookup call = some c)
    (now : Int) {uploaded : Option FileID}
    (own : ∀ id, uploaded = some id → s.Uploaded call c id) :
    (s.replace sha256Bytes call c now uploaded).Sound sha256Bytes := by
  set asset := updatedAsset sha256Bytes now c.existing c.input uploaded with written
  have calls : (s.replace sha256Bytes call c now uploaded).calls =
      s.calls.insert call { c with phase := .replaced asset } := rfl
  have assets : (s.replace sha256Bytes call c now uploaded).assets =
      s.assets.insert asset.id asset := rfl
  have known : s.Known sha256Bytes asset := by
    cases uploaded with
    | none => exact sound.existing call c here
    | some id =>
        intro id' name
        obtain rfl : id = id' := Option.some.inj name
        refine ⟨(sound.fresh call c id (own id rfl)).1, fun zip found => ?_⟩
        rw [sound.there call c id (own id rfl)] at found
        obtain rfl := Option.some.inj found
        rfl
  have named : ∀ id, (s.replace sha256Bytes call c now uploaded).Named id →
      asset.zipFileID = some id ∨ s.Named id := by
    intro id named
    rcases named.cases calls here rfl with ⟨key, asset', found, name⟩ | before
    · rw [assets, GoMap.lookup_insert_eq] at found
      split at found
      · obtain rfl := Option.some.inj found
        exact Or.inl name
      · exact Or.inr (Or.inl ⟨key, asset', found, name⟩)
    · exact Or.inr before
  refine ⟨?_, ?_, ?_, ?_, ?_⟩
  · intro key asset' found
    rw [assets, GoMap.lookup_insert_eq] at found
    split at found
    · obtain rfl := Option.some.inj found
      exact known
    · exact sound.assets key asset' found
  · intro call' d found
    exact sound.existing_insert calls here rfl (fun _ known => known) found
  · intro call' d id isUploaded
    obtain ⟨other, before⟩ := isUploaded.other calls (fun _ => nofun)
    obtain ⟨less, unnamed⟩ := sound.fresh call' d id before
    refine ⟨less, fun name => ?_⟩
    rcases named id name with ofAsset | stillNamed
    · cases uploaded with
      | none => exact unnamed (Or.inr ⟨call, c, here, ofAsset⟩)
      | some id' =>
          obtain rfl : id' = id := Option.some.inj ofAsset
          exact other (sound.own call' d call c id' before (own id' rfl))
    · exact unnamed stillNamed
  · intro call' d id isUploaded
    exact sound.there call' d id (isUploaded.other calls (fun _ => nofun)).2
  · intro call₁ d₁ call₂ d₂ id uploaded₁ uploaded₂
    exact sound.own call₁ d₁ call₂ d₂ id (uploaded₁.other calls (fun _ => nofun)).2
      (uploaded₂.other calls (fun _ => nofun)).2

theorem lookup_bucket_deleteOld (asset : TokenizerAsset) (id : FileID) :
    (s.deleteOld call c asset).bucket.lookup id =
      if oldZip c asset = some id then none else s.bucket.lookup id := by
  unfold AssetStore.deleteOld
  cases oldZip c asset with
  | none => rfl
  | some old =>
      dsimp only
      rw [GoMap.lookup_erase_eq]
      simp only [Option.some.injEq, eq_comm]

/-- A put deletes the file of the record it found. -/
theorem Sound.deleteOld (sound : s.Sound sha256Bytes) (here : s.calls.lookup call = some c)
    (asset : TokenizerAsset) : (s.deleteOld call c asset).Sound sha256Bytes := by
  have calls : (s.deleteOld call c asset).calls =
      s.calls.insert call { c with phase := .finished } := rfl
  have known : ∀ asset', s.Known sha256Bytes asset' →
      (s.deleteOld call c asset).Known sha256Bytes asset' := by
    intro asset' known id name
    refine ⟨(known id name).1, fun zip found => (known id name).2 zip ?_⟩
    rw [lookup_bucket_deleteOld] at found
    split at found
    · cases found
    · exact found
  refine ⟨fun key asset' found => known _ (sound.assets key asset' found), ?_, ?_, ?_, ?_⟩
  · intro call' d found
    exact sound.existing_insert calls here rfl known found
  · intro call' d id uploaded
    obtain ⟨less, unnamed⟩ := sound.fresh call' d id (uploaded.other calls (fun _ => nofun)).2
    refine ⟨less, fun named => unnamed ?_⟩
    rcases named.cases calls here rfl with inAssets | before
    · exact Or.inl inAssets
    · exact before
  · intro call' d id uploaded
    have before := (uploaded.other calls (fun _ => nofun)).2
    rw [lookup_bucket_deleteOld, if_neg, sound.there call' d id before]
    intro old
    have name : c.existing.zipFileID = some id := (Option.filter_eq_some_iff.mp old).1
    exact (sound.fresh call' d id before).2 (Or.inr ⟨call, c, here, name⟩)
  · intro call₁ d₁ call₂ d₂ id uploaded₁ uploaded₂
    exact sound.own call₁ d₁ call₂ d₂ id (uploaded₁.other calls (fun _ => nofun)).2
      (uploaded₂.other calls (fun _ => nofun)).2

end Calls

/-- Every step keeps names known and uploads apart. -/
theorem Sound.step (sound : s.Sound sha256Bytes) (op : PutStep) :
    (s.step sha256Bytes op).Sound sha256Bytes := by
  cases op with
  | find call input => exact sound.find call input
  | turn call now =>
      show (s.turn sha256Bytes call now).Sound sha256Bytes
      unfold turn
      cases here : s.calls.lookup call with
      | none => exact sound
      | some c =>
          dsimp only
          cases phase : c.phase with
          | found =>
              dsimp only
              split
              · exact sound.upload here
              · exact sound.replace here now (fun _ => nofun)
          | uploaded id =>
              refine sound.replace here now fun id' same => ?_
              obtain rfl := Option.some.inj same
              exact ⟨here, phase⟩
          | replaced asset => exact sound.deleteOld here asset
          | finished => exact sound

/-! ### Intact records -/

section Intact

variable {call : Nat} {c : PutCall}

/-- An upload touches no file that a record names. -/
theorem intact_upload (sound : s.Sound sha256Bytes) (intact : s.Intact sha256Bytes) :
    (s.upload call c).Intact sha256Bytes := by
  intro key asset found id name
  obtain ⟨zip, there, hash⟩ := intact key asset found id name
  have old : id < s.nextFileID := (sound.assets key asset found id name).1
  exact ⟨zip, (Finmap.lookup_insert_of_ne _ (Nat.ne_of_lt old)).trans there, hash⟩

/-- A replacement that names an upload keeps the records intact. -/
theorem intact_replace_uploaded (sound : s.Sound sha256Bytes) (intact : s.Intact sha256Bytes)
    (now : Int) {id : FileID} (uploaded : s.Uploaded call c id) :
    (s.replace sha256Bytes call c now (some id)).Intact sha256Bytes := by
  intro key asset found id' name
  have found : (s.assets.insert _
      (updatedAsset sha256Bytes now c.existing c.input (some id))).lookup key = some asset := found
  rw [GoMap.lookup_insert_eq] at found
  split at found
  · obtain rfl := Option.some.inj found
    obtain rfl : id = id' := Option.some.inj name
    exact ⟨c.input.tokenizerZip, sound.there call c id uploaded, rfl⟩
  · exact intact key asset found id' name

/-- One that names the file found before does so exactly when the file is still there. -/
theorem intact_replace_iff (sound : s.Sound sha256Bytes) (intact : s.Intact sha256Bytes)
    (here : s.calls.lookup call = some c) (now : Int) :
    (s.replace sha256Bytes call c now none).Intact sha256Bytes ↔
      ∀ id, c.existing.zipFileID = some id → id ∈ s.bucket := by
  set asset := updatedAsset sha256Bytes now c.existing c.input none with written
  have assets : (s.replace sha256Bytes call c now none).assets =
      s.assets.insert asset.id asset := rfl
  constructor
  · intro intact' id name
    obtain ⟨zip, there, -⟩ := intact' asset.id asset (by rw [assets, Finmap.lookup_insert]) id name
    exact Finmap.mem_of_lookup_eq_some there
  · intro there key asset' found id name
    rw [assets, GoMap.lookup_insert_eq] at found
    split at found
    · obtain rfl := Option.some.inj found
      obtain ⟨zip, found⟩ := Finmap.mem_iff.mp (there id name)
      exact ⟨zip, found, (sound.existing call c here id name).2 zip found⟩
    · exact intact key asset' found id name

/-- A deletion keeps the records intact exactly when none names the file. -/
theorem intact_deleteOld_iff (intact : s.Intact sha256Bytes) (asset : TokenizerAsset) :
    (s.deleteOld call c asset).Intact sha256Bytes ↔
      ∀ old, oldZip c asset = some old → ∀ key asset, s.assets.lookup key = some asset →
        asset.zipFileID ≠ some old := by
  constructor
  · intro intact' old deleted key asset' found name
    obtain ⟨zip, there, -⟩ := intact' key asset' found old name
    rw [lookup_bucket_deleteOld, if_pos deleted] at there
    cases there
  · intro spares key asset' found id name
    obtain ⟨zip, there, hash⟩ := intact key asset' found id name
    refine ⟨zip, ?_, hash⟩
    rw [lookup_bucket_deleteOld, if_neg, there]
    intro deleted
    exact spares id deleted key asset' found name

/-- A step keeps the records intact exactly when it spares the files they name. -/
theorem intact_step_iff (sound : s.Sound sha256Bytes) (intact : s.Intact sha256Bytes)
    (op : PutStep) : (s.step sha256Bytes op).Intact sha256Bytes ↔ s.Spares op := by
  cases op with
  | find call input =>
      refine iff_of_true ?_ trivial
      show (s.find sha256Bytes call input).Intact sha256Bytes
      unfold AssetStore.find
      split
      · exact intact
      · split
        · exact intact
        · exact intact
  | turn call now =>
      show (s.turn sha256Bytes call now).Intact sha256Bytes ↔ _
      simp only [turn, Spares]
      cases here : s.calls.lookup call with
      | none => exact iff_of_true intact trivial
      | some c =>
          dsimp only
          cases phase : c.phase with
          | found =>
              dsimp only
              by_cases zip : c.input.tokenizerZip = []
              · rw [if_neg (not_not_intro zip), intact_replace_iff sound intact here]
                exact ⟨fun there _ => there, fun there => there zip⟩
              · rw [if_pos zip]
                exact iff_of_true (intact_upload sound intact) (fun none => absurd none zip)
          | uploaded id =>
              exact iff_of_true (intact_replace_uploaded sound intact now ⟨here, phase⟩) trivial
          | replaced asset => exact intact_deleteOld_iff intact asset
          | finished => exact iff_of_true intact trivial

end Intact

/-- The records are intact in every state of a run exactly when every step spares the files
they name. -/
theorem always_intact_iff (sha256Bytes : Sha256) (ops : List PutStep) :
    (∀ pre post, ops = pre ++ post →
        (Run.run (AssetStore.step sha256Bytes) {} pre).Intact sha256Bytes) ↔
      Run.EachStep (AssetStore.step sha256Bytes) Spares {} ops :=
  @Run.always_iff_eachStep _ _ (AssetStore.step sha256Bytes) Spares (Sound sha256Bytes)
    (Intact sha256Bytes) (fun _ op sound => sound.step op)
    (fun _ op sound intact => intact_step_iff sound intact op) _ Sound.start
    (fun key asset found => by
      rw [Finmap.lookup_empty] at found
      cases found) ops

/-! A template-only put writes back the name of the zip that another put replaced and
deleted. -/

def firstZip : TokenizerAssetInput := { cluster := "c", modelID := "m", tokenizerZip := [1] }

def secondZip : TokenizerAssetInput := { cluster := "c", modelID := "m", tokenizerZip := [2] }

def template : TokenizerAssetInput := { cluster := "c", modelID := "m", chatTemplate := "t" }

def crossingPuts : List PutStep :=
  [.find 0 firstZip, .turn 0 0, .turn 0 0, .find 1 template, .find 2 secondZip, .turn 2 0,
    .turn 2 0, .turn 2 0, .turn 1 0]

/-- The record names a file that is gone. -/
theorem not_always_intact :
    ¬ ∃ sha256Bytes : Sha256,
      ∀ ops, (Run.run (AssetStore.step sha256Bytes) {} ops).Intact sha256Bytes := by
  rintro ⟨sha256Bytes, always⟩
  set s := Run.run (AssetStore.step sha256Bytes) {} crossingPuts with run
  have names : ∃ asset, s.assets.lookup (tokenizerAssetID sha256Bytes "c" "m") = some asset ∧
      asset.zipFileID = some 0 := by
    simp [run, crossingPuts, step, AssetStore.find, turn, upload, replace, deleteOld,
      updatedAsset, firstZip, secondZip, template]
  have gone : s.bucket.lookup 0 = none := by
    simp [run, crossingPuts, step, AssetStore.find, turn, upload, replace, deleteOld, oldZip,
      updatedAsset, firstZip, secondZip, template, Option.filter]
  obtain ⟨asset, found, name⟩ := names
  obtain ⟨zip, there, -⟩ := always crossingPuts _ asset found 0 name
  cases gone.symm.trans there

end KvIndexer.Gateway.AssetStore
