import KvIndexer.Residency.Refinement

/-!
Reclamation: what is left of an engine when it has removed all it stored.

The ghost state of this module is the set of outstanding placements, pairs of an
engine key and the resident it was stored at and not removed from since. Every
hold of an engine is backed by an outstanding placement under a bridged key
(`Backed`), so an engine without placements has no holds. The bridge is different:
an entry goes with the engine's last hold, so when several keys of an engine stand
for one block, the entries of the others can stay for ever. `reclaimed_iff` says
when they do.
-/

namespace KvIndexer.Residency

/-- The operation is not a clear. -/
def Op.noClear : Op → Prop
  | .storeEvent .. => True
  | .storeEventByEngineKeys .. => True
  | .removeEvent .. => True
  | .clearEngine .. => False

instance : DecidablePred Op.noClear
  | .storeEvent .. => .isTrue trivial
  | .storeEventByEngineKeys .. => .isTrue trivial
  | .removeEvent .. => .isTrue trivial
  | .clearEngine .. => .isFalse id

theorem Op.noClear.wholeClear {op : Op} (quiet : op.noClear) : op.wholeClear := by
  cases op with
  | storeEvent => trivial
  | storeEventByEngineKeys => trivial
  | removeEvent => trivial
  | clearEngine => cases quiet

/-- The operation, called on `ix`, stores engine key `ek` at `r`; a tokenless store
counts when it succeeds. -/
def Op.places (ix : Index) (r : Resident) (ek : EngineKey) : Op → Prop
  | .storeEvent e dp tier eks _ _ => r = ⟨e, dp, tier⟩ ∧ ek ∈ eks
  | .storeEventByEngineKeys e dp tier eks ts =>
      (ix.storeEventByEngineKeys e dp tier eks ts).2.isSome ∧ r = ⟨e, dp, tier⟩ ∧ ek ∈ eks
  | .removeEvent .. => False
  | .clearEngine .. => False

/-- The operation removes engine key `ek` from `r`. -/
def Op.takes (r : Resident) (ek : EngineKey) : Op → Prop
  | .removeEvent e dp tier eks => r = ⟨e, dp, tier⟩ ∧ ek ∈ eks
  | .storeEvent .. => False
  | .storeEventByEngineKeys .. => False
  | .clearEngine .. => False

/-- The operation is a removal by `e` that names `ek`. -/
def Op.names (e : String) (ek : EngineKey) : Op → Prop
  | .removeEvent e' _ _ eks => e' = e ∧ ek ∈ eks
  | .storeEvent .. => False
  | .storeEventByEngineKeys .. => False
  | .clearEngine .. => False

namespace Index

/-- Everything engine `e` stored was removed again from where it was stored: each
placement is followed by a removal of that key from that resident. -/
def AllRemoved (e : String) (ops : List Op) : Prop :=
  ∀ pre op post, ops = pre ++ op :: post → ∀ r ek, r.engineID = e → op.places (after pre) r ek →
    ∃ later ∈ post, later.takes r ek

/-- The index holds nothing of engine `e`: no hold, no key in its set, no bridge
entry. -/
structure NothingLeft (e : String) (ix : Index) : Prop where
  unheld : ∀ r rk, ix.Holds r rk → r.engineID ≠ e
  untracked : ix.keysOf e = ∅
  unbridged : ∀ ek, ix.lookupBridge e ek = none

/-- The last removal of each key of `e`, if the key is bridged then, finds an entry
for its block, and `e` holds the block nowhere but where it removes it. -/
def LastRemovalsRelease (e : String) (ops : List Op) : Prop :=
  ∀ pre dp tier ks ek ks' post,
    ops = pre ++ .removeEvent e dp tier (ks ++ ek :: ks') :: post →
    ek ∉ ks' → (∀ later ∈ post, ¬ later.names e ek) →
    ∀ rk, (Run.run (removeKey ⟨e, dp, tier⟩) (after pre) ks).lookupBridge e ek = some rk →
      (∃ r, (Run.run (removeKey ⟨e, dp, tier⟩) (after pre) ks).Holds r rk) ∧
      ∀ r, (Run.run (removeKey ⟨e, dp, tier⟩) (after pre) ks).Holds r rk →
        r.engineID = e → r = ⟨e, dp, tier⟩

/-! ### Holds are backed by placements -/

/-- Every hold is under a bridged key that is placed there. -/
def Backed (ix : Index) (out : EngineKey → Resident → Prop) : Prop :=
  ∀ r rk, ix.Holds r rk → ∃ ek, ix.lookupBridge r.engineID ek = some rk ∧ out ek r

/-- Bridged keys stand for what `den` says. -/
def Bound (den : Denotation) (ix : Index) : Prop :=
  ∀ e ek rk, ix.lookupBridge e ek = some rk → den e ek rk

section Steps

variable {ix : Index} {den : Denotation} {out : EngineKey → Resident → Prop}

theorem Backed.removeKey (backed : Backed ix out) (r : Resident) (ek : EngineKey) :
    Backed (removeKey r ix ek) fun ek' r' => out ek' r' ∧ ¬ (r' = r ∧ ek' = ek) := by
  intro r' rk holds
  obtain ⟨before, untouched⟩ := holds_removeKey.mp holds
  obtain ⟨ek', bridged, placed⟩ := backed r' rk before
  refine ⟨ek', ?_, placed, ?_⟩
  · rw [lookupBridge, lookup_bridge_removeKey, if_neg]
    · exact bridged
    · -- the entry is kept by the hold of `r'`
      rintro ⟨same, released⟩
      obtain ⟨owner, rfl⟩ := EngineBridgeKey.mk.inj same
      obtain ⟨rk', bridged', -, unkept⟩ := releases_iff.mp released
      rw [lookupBridge, owner] at bridged
      obtain rfl : rk = rk' := Option.some.inj (bridged.symm.trans bridged')
      have kept : ix.keepsHold r rk = true :=
        keepsHold_iff.mpr ⟨r', before, fun here => untouched ⟨bridged', here⟩, owner⟩
      rw [kept] at unkept
      cases unkept
  · rintro ⟨rfl, rfl⟩
    exact untouched ⟨bridged, rfl⟩

theorem Backed.removeEvent (backed : Backed ix out) (e : String) (dp : Int) (tier : String)
    (eks : List EngineKey) :
    Backed (ix.removeEvent e dp tier eks) fun ek r =>
      out ek r ∧ ¬ (Op.removeEvent e dp tier eks).takes r ek := by
  rw [removeEvent_eq_run]
  induction eks generalizing ix out with
  | nil => simpa [Op.takes] using backed
  | cons ek eks ih =>
      intro r rk holds
      obtain ⟨ek', bridged, ⟨placed, other⟩, later⟩ :=
        ih (backed.removeKey ⟨e, dp, tier⟩ ek) r rk holds
      refine ⟨ek', bridged, placed, ?_⟩
      rintro ⟨same, named⟩
      rcases List.mem_cons.mp named with rfl | inRest
      · exact other ⟨same, rfl⟩
      · exact later ⟨same, inRest⟩

/-- Bridge entries come from the stores that bind them. -/
theorem lookupBridge_apply {op : Op} (aligned : op.aligned) (whole : op.wholeClear) {e : String}
    {ek : EngineKey} {rk : RequestKey} (found : (ix.apply op).lookupBridge e ek = some rk) :
    ix.lookupBridge e ek = some rk ∨ (e, ek, rk) ∈ op.pairs := by
  cases op with
  | storeEvent e' dp tier eks rks ts =>
      have same : eks.length = rks.length := aligned
      rw [Index.apply, lookupBridge, lookup_bridge_storeEvent,
        tailAligned_of_length_eq same] at found
      by_cases owner : e = e'
      · rw [if_pos owner] at found
        rcases lookup_reverse_or found with ⟨rk', pair, here⟩ | ⟨-, kept⟩
        · obtain rfl : rk = rk' := Option.some.inj here
          exact Or.inr (mem_pairs_storeEvent.mpr ⟨owner, pair⟩)
        · exact Or.inl kept.symm
      · rw [if_neg owner] at found
        exact Or.inl found
  | storeEventByEngineKeys e' dp tier eks ts =>
      rw [Index.apply, lookupBridge, bridge_storeEventByEngineKeys] at found
      exact Or.inl found
  | removeEvent e' dp tier eks =>
      rw [Index.apply, lookupBridge, removeEvent_eq_run] at found
      rcases lookup_bridge_removeKeys ⟨e', dp, tier⟩ ix eks ⟨e, ek⟩ with gone | same
      · rw [gone] at found
        cases found
      · exact Or.inl (same.symm.trans found)
  | clearEngine e' tier =>
      obtain rfl : tier = "" := whole
      rw [Index.apply, lookupBridge, lookup_bridge_clearEngine] at found
      split at found
      · cases found
      · exact Or.inl found

theorem Bound.apply (bound : Bound den ix) {op : Op} (agrees : op.Agrees den) :
    Bound den (ix.apply op) := by
  intro e ek rk found
  rcases lookupBridge_apply agrees.aligned agrees.whole found with before | binds
  · exact bound e ek rk before
  · exact agrees.binds e ek rk binds

theorem Backed.apply (backed : Backed ix out) (bound : Bound den ix) (functional : den.Functional)
    {op : Op} (agrees : op.Agrees den) (quiet : op.noClear) :
    Backed (ix.apply op) fun ek r => op.places ix r ek ∨ (out ek r ∧ ¬ op.takes r ek) := by
  intro r rk holds
  cases op with
  | storeEvent e dp tier eks rks ts =>
      have same : eks.length = rks.length := agrees.aligned
      have pairs : ∀ ek rk, (ek, rk) ∈ eks.zip rks → den e ek rk := fun ek rk pair =>
        agrees.binds e ek rk (mem_pairs_storeEvent.mpr ⟨rfl, pair⟩)
      -- a key that stands for `rk` keeps that reading, whatever the event binds
      have reading : ∀ ek, den r.engineID ek rk →
          ((r.engineID = e ∧ ∃ rk', (ek, rk') ∈ eks.zip rks) ∨
            ix.lookupBridge r.engineID ek = some rk) →
          (ix.apply (.storeEvent e dp tier eks rks ts)).lookupBridge r.engineID ek = some rk := by
        intro ek means source
        rw [Index.apply, lookupBridge, lookup_bridge_storeEvent, tailAligned_of_length_eq same]
        by_cases owner : r.engineID = e
        · rw [if_pos owner]
          rcases lookup_reverse_or rfl with ⟨rk', pair, found⟩ | ⟨unpaired, kept⟩
          · have meansToo : den r.engineID ek rk' := owner ▸ pairs ek rk' pair
            rw [found, functional _ _ _ _ meansToo means]
          · rcases source with ⟨-, rk', pair⟩ | before
            · exact absurd pair (unpaired rk')
            · rw [kept]
              exact before
        · rw [if_neg owner]
          rcases source with ⟨mine, -⟩ | before
          · exact absurd mine owner
          · exact before
      rcases holds_storeEvent.mp holds with ⟨rfl, stored⟩ | before
      · obtain ⟨ek, pair⟩ := exists_pair_of_mem same stored
        exact ⟨ek, reading ek (pairs ek rk pair) (Or.inl ⟨rfl, rk, pair⟩),
          Or.inl ⟨rfl, (List.of_mem_zip pair).1⟩⟩
      · obtain ⟨ek, bridged, placed⟩ := backed r rk before
        exact ⟨ek, reading ek (bound _ _ _ bridged) (Or.inr bridged), Or.inr ⟨placed, id⟩⟩
  | storeEventByEngineKeys e dp tier eks ts =>
      simp only [Index.apply, lookupBridge, bridge_storeEventByEngineKeys]
      rcases holds_storeEventByEngineKeys.mp holds with ⟨success, rfl, ek, named, bridged⟩ | before
      · exact ⟨ek, bridged, Or.inl ⟨success, rfl, named⟩⟩
      · obtain ⟨ek, bridged, placed⟩ := backed r rk before
        exact ⟨ek, bridged, Or.inr ⟨placed, id⟩⟩
  | removeEvent e dp tier eks =>
      obtain ⟨ek, bridged, placed⟩ := backed.removeEvent e dp tier eks r rk holds
      exact ⟨ek, bridged, Or.inr placed⟩
  | clearEngine => cases quiet

end Steps

/-- The placements outstanding after a history. -/
def Outstanding (ops : List Op) (ek : EngineKey) (r : Resident) : Prop :=
  ∃ pre op post, ops = pre ++ op :: post ∧ op.places (after pre) r ek ∧
    ∀ later ∈ post, ¬ later.takes r ek

theorem outstanding_concat {ops : List Op} {op : Op} {ek : EngineKey} {r : Resident}
    (placed : op.places (after ops) r ek ∨ (Outstanding ops ek r ∧ ¬ op.takes r ek)) :
    Outstanding (ops ++ [op]) ek r := by
  rcases placed with now | ⟨⟨pre, op', post, rfl, placed, kept⟩, spared⟩
  · exact ⟨ops, op, [], rfl, now, by simp⟩
  · refine ⟨pre, op', post ++ [op], by simp, placed, fun later member => ?_⟩
    rcases List.mem_append.mp member with inPost | last
    · exact kept later inPost
    · obtain rfl : later = op := by simpa using last
      exact spared

theorem bound_after {den : Denotation} {ops : List Op} (agrees : ∀ op ∈ ops, op.Agrees den) :
    Bound den (after ops) := by
  have kept : ∀ (ix : Index) (op : Op), op.Agrees den → Bound den ix → Bound den (ix.apply op) :=
    fun _ _ agrees bound => bound.apply agrees
  have start : Bound den newIndex := by
    intro e ek rk found
    simp [lookupBridge, newIndex] at found
  exact Run.run_invariant kept start (Run.eachStep_forall.mpr agrees)

theorem backed_after {den : Denotation} {ops : List Op} (functional : den.Functional)
    (agrees : ∀ op ∈ ops, op.Agrees den) (quiet : ∀ op ∈ ops, op.noClear) :
    Backed (after ops) (Outstanding ops) := by
  induction ops using List.reverseRecOn with
  | nil => exact fun r rk holds => absurd holds Finmap.notMem_empty
  | append_singleton ops op ih =>
      have agreesBefore : ∀ op' ∈ ops, op'.Agrees den := fun op' member =>
        agrees op' (by simp [member])
      have before := ih agreesBefore fun op' member => quiet op' (by simp [member])
      intro r rk holds
      rw [after_concat] at holds ⊢
      obtain ⟨ek, bridged, placed⟩ := before.apply (bound_after agreesBefore) functional
        (agrees op (by simp)) (quiet op (by simp)) r rk holds
      exact ⟨ek, bridged, outstanding_concat placed⟩

/-- An engine that removed all it stored holds nothing. -/
theorem unheld_of_allRemoved {den : Denotation} {ops : List Op} (functional : den.Functional)
    (agrees : ∀ op ∈ ops, op.Agrees den) (quiet : ∀ op ∈ ops, op.noClear) {e : String}
    (removed : AllRemoved e ops) (r : Resident) (rk : RequestKey) (holds : (after ops).Holds r rk) :
    r.engineID ≠ e := by
  intro owner
  obtain ⟨ek, -, pre, op, post, split, placed, kept⟩ :=
    backed_after functional agrees quiet r rk holds
  obtain ⟨later, member, taken⟩ := removed pre op post split r ek owner placed
  exact kept later member taken

/-! ### The bridge -/

/-- Without a removal that names it, a key stays bridged. -/
theorem isSome_lookupBridge_apply {ix : Index} {op : Op} (quiet : op.noClear) {e : String}
    {ek : EngineKey} (spared : ¬ op.names e ek) (bridged : (ix.lookupBridge e ek).isSome) :
    ((ix.apply op).lookupBridge e ek).isSome := by
  cases op with
  | storeEvent e' dp tier eks rks ts =>
      rw [Index.apply, lookupBridge, lookup_bridge_storeEvent]
      split
      · rw [Option.isSome_or]
        exact Bool.or_eq_true_iff.mpr (Or.inr bridged)
      · exact bridged
  | storeEventByEngineKeys e' dp tier eks ts =>
      rw [Index.apply, lookupBridge, bridge_storeEventByEngineKeys]
      exact bridged
  | removeEvent e' dp tier eks =>
      have other : ¬ ((⟨e', dp, tier⟩ : Resident).engineID = e ∧ ek ∈ eks) := spared
      rw [Index.apply, removeEvent_eq_run, lookupBridge_removeKeys_other other]
      exact bridged
  | clearEngine => cases quiet

/-- A bridge entry present at the end of a run that does not bind it was there at
the start. -/
theorem lookupBridge_run_unbound {ops : List Op} (aligned : ∀ op ∈ ops, op.aligned)
    (whole : ∀ op ∈ ops, op.wholeClear) {e : String} {ek : EngineKey}
    (unbound : ∀ op ∈ ops, ∀ rk, (e, ek, rk) ∉ op.pairs) {ix : Index} {rk : RequestKey}
    (found : (Run.run apply ix ops).lookupBridge e ek = some rk) :
    ix.lookupBridge e ek = some rk := by
  induction ops generalizing ix with
  | nil => exact found
  | cons op ops ih =>
      have next := ih (fun op' member => aligned op' (List.mem_cons_of_mem _ member))
        (fun op' member => whole op' (List.mem_cons_of_mem _ member))
        (fun op' member => unbound op' (List.mem_cons_of_mem _ member)) found
      have here : op ∈ op :: ops := List.mem_cons_self
      rcases lookupBridge_apply (aligned op here) (whole op here) next with before | binds
      · exact before
      · exact absurd binds (unbound op here rk)

/-- The removal of a bridged key leaves it bridged exactly when it does not release
it. -/
theorem lookupBridge_removeKey_self (ix : Index) (r : Resident) (ek : EngineKey) :
    (removeKey r ix ek).lookupBridge r.engineID ek =
      if ix.releases r ek = true then none else ix.lookupBridge r.engineID ek := by
  rw [lookupBridge, lookup_bridge_removeKey]
  simp only [true_and]
  rfl

/-- A key that the engine removes completely is named by a removal after every store
that binds it. -/
theorem exists_names_of_allRemoved {ops : List Op} {e : String} (removed : AllRemoved e ops)
    {pre : List Op} {op : Op} {post : List Op} (split : ops = pre ++ op :: post) {ek : EngineKey}
    {rk : RequestKey} (binds : (e, ek, rk) ∈ op.pairs) : ∃ later ∈ post, later.names e ek := by
  cases op with
  | storeEventByEngineKeys => exact absurd binds List.not_mem_nil
  | removeEvent => exact absurd binds List.not_mem_nil
  | clearEngine => exact absurd binds List.not_mem_nil
  | storeEvent e' dp tier eks rks ts =>
      obtain ⟨rfl, pair⟩ := mem_pairs_storeEvent.mp binds
      obtain ⟨later, member, taken⟩ :=
        removed pre _ post split ⟨e, dp, tier⟩ ek rfl ⟨rfl, (List.of_mem_zip pair).1⟩
      refine ⟨later, member, ?_⟩
      cases later with
      | removeEvent e' dp' tier' eks' => exact ⟨(Resident.mk.inj taken.1).1.symm, taken.2⟩
      | storeEvent => cases taken
      | storeEventByEngineKeys => cases taken
      | clearEngine => cases taken

/-- Nothing left: the last removal of a bridged key released it, since nothing after
it could. -/
theorem lastRemovalsRelease_of_nothingLeft {ops : List Op} (quiet : ∀ op ∈ ops, op.noClear)
    {e : String} (nothing : NothingLeft e (after ops)) : LastRemovalsRelease e ops := by
  rintro pre dp tier ks ek ks' post rfl lastKey lastOp rk bridged
  set ix := Run.run (removeKey ⟨e, dp, tier⟩) (after pre) ks with ixDef
  have sound : Sound ix := by
    have before := sound_after fun op (member : op ∈ pre) =>
      (quiet op (by simp [member])).wholeClear
    exact before.removeEvent e dp tier ks
  by_contra unreleased
  have survives : (removeKey ⟨e, dp, tier⟩ ix ek).lookupBridge e ek = some rk := by
    have self := lookupBridge_removeKey_self ix ⟨e, dp, tier⟩ ek
    rw [self, if_neg, bridged]
    intro released
    obtain ⟨rk', bridged', present, unkept⟩ := releases_iff.mp released
    obtain rfl : rk = rk' := Option.some.inj (bridged.symm.trans bridged')
    refine unreleased ⟨sound.isSome_iff.mp present, fun r holds owner => ?_⟩
    by_contra elsewhere
    rw [keepsHold_iff.mpr ⟨r, holds, elsewhere, owner⟩] at unkept
    cases unkept
  have kept : ∀ (ix : Index) (op : Op), (op.noClear ∧ ¬ op.names e ek) →
      (ix.lookupBridge e ek).isSome → ((ix.apply op).lookupBridge e ek).isSome :=
    fun _ _ both bridged => isSome_lookupBridge_apply both.1 both.2 bridged
  have atEnd : ((after (pre ++ .removeEvent e dp tier (ks ++ ek :: ks') :: post)).lookupBridge
      e ek).isSome := by
    rw [after_append, Run.run_cons, Index.apply, removeEvent_eq_run, Run.run_append, ← ixDef]
    refine Run.run_invariant kept ?_ (Run.eachStep_forall.mpr fun op member =>
      ⟨quiet op (by simp [member]), lastOp op member⟩)
    rw [Run.run_cons, lookupBridge_removeKeys_other fun both => lastKey both.2, survives]
    rfl
  rw [nothing.unbridged ek] at atEnd
  cases atEnd

/-- If the last removals release, no bridge entry is left. -/
theorem unbridged_of_lastRemovalsRelease {ops : List Op} (aligned : ∀ op ∈ ops, op.aligned)
    (quiet : ∀ op ∈ ops, op.noClear) {e : String} (removed : AllRemoved e ops)
    (releases : LastRemovalsRelease e ops) (ek : EngineKey) :
    (after ops).lookupBridge e ek = none := by
  have whole : ∀ op ∈ ops, op.wholeClear := fun op member => (quiet op member).wholeClear
  by_contra stays
  obtain ⟨rk, bridged⟩ := Option.ne_none_iff_exists'.mp stays
  -- a store bound the key, so a removal names it; take the last one
  obtain ⟨op₀, member₀, binds₀⟩ :=
    List.mem_flatMap.mp (bound_after (agrees_denotes aligned whole) e ek rk bridged)
  obtain ⟨pre₀, post₀, split₀⟩ := List.append_of_mem member₀
  obtain ⟨later, inPost, namesLater⟩ := exists_names_of_allRemoved removed split₀ binds₀
  have inOps : later ∈ ops := by
    rw [split₀]
    simp [inPost]
  obtain ⟨pre, op, post, split, names, lastOp⟩ := Run.exists_last ⟨later, inOps, namesLater⟩
  cases op with
  | storeEvent => cases names
  | storeEventByEngineKeys => cases names
  | clearEngine => cases names
  | removeEvent e' dp tier eks =>
      obtain ⟨rfl, inKeys⟩ := names
      obtain ⟨ks, ek', ks', rfl, rfl, lastKey⟩ :=
        Run.exists_last (p := fun k => k = ek) ⟨ek, inKeys, rfl⟩
      set ix := Run.run (removeKey ⟨e', dp, tier⟩) (after pre) ks with ixDef
      -- no store binds the key after this removal, so the entry was there before it
      have unbound : ∀ op ∈ post, ∀ rk, (e', ek', rk) ∉ op.pairs := by
        intro op member rk binds
        obtain ⟨front, back, rfl⟩ := List.append_of_mem member
        have splitPost : ops = (pre ++ .removeEvent e' dp tier (ks ++ ek' :: ks') :: front) ++
            op :: back := by
          rw [split]
          simp
        obtain ⟨later, inBack, namesLater⟩ := exists_names_of_allRemoved removed splitPost binds
        exact lastOp later (by simp [inBack]) namesLater
      have inOps : ∀ op ∈ post, op ∈ ops := fun op member => by
        rw [split]
        simp [member]
      rw [split, after_append, Run.run_cons, apply, removeEvent_eq_run, Run.run_append,
        ← ixDef] at bridged
      have afterRemoval := lookupBridge_run_unbound (fun op member => aligned op (inOps op member))
        (fun op member => whole op (inOps op member)) unbound bridged
      have notLater : ek' ∉ ks' := fun member => lastKey ek' member rfl
      rw [Run.run_cons, lookupBridge_removeKeys_other fun both => notLater both.2,
        lookupBridge_removeKey_self ix ⟨e', dp, tier⟩ ek'] at afterRemoval
      split at afterRemoval
      · cases afterRemoval
      · rename_i unreleased
        obtain ⟨⟨r, holds⟩, alone⟩ :=
          releases pre dp tier ks ek' ks' post split notLater lastOp rk afterRemoval
        have sound : Sound ix := by
          have before := sound_after fun op (member : op ∈ pre) =>
            whole op (by simp [split, member])
          exact before.removeEvent e' dp tier ks
        refine unreleased (releases_iff.mpr ⟨rk, afterRemoval, sound.isSome_iff.mpr ⟨r, holds⟩, ?_⟩)
        rw [Bool.eq_false_iff, Ne, keepsHold_iff]
        rintro ⟨r', holds', elsewhere, owner⟩
        exact elsewhere (alone r' holds' owner)

/-- An engine that removed all it stored leaves nothing behind exactly when the last
removal of each of its keys releases that key's bridge entry, unless an earlier one
did. -/
theorem reclaimed_iff {ops : List Op} (aligned : ∀ op ∈ ops, op.aligned)
    (functional : (Denotes ops).Functional) (quiet : ∀ op ∈ ops, op.noClear) {e : String}
    (removed : AllRemoved e ops) :
    NothingLeft e (after ops) ↔ LastRemovalsRelease e ops := by
  have whole : ∀ op ∈ ops, op.wholeClear := fun op member => (quiet op member).wholeClear
  have unheld := unheld_of_allRemoved functional (agrees_denotes aligned whole) quiet removed
  constructor
  · exact lastRemovalsRelease_of_nothingLeft quiet
  · intro releases
    refine ⟨unheld, ?_, unbridged_of_lastRemovalsRelease aligned quiet removed releases⟩
    refine Finset.eq_empty_of_forall_notMem fun rk member => ?_
    obtain ⟨r, holds, owner⟩ := ((sound_after whole).tracked e rk).mp member
    exact unheld r rk holds owner

/-- One block under two keys of one engine, both removed. -/
def twoKeysHistory : List Op :=
  [.storeEvent "a" 0 "gpu" [1] [7] 10, .storeEvent "a" 0 "gpu" [2] [7] 11,
    .removeEvent "a" 0 "gpu" [1], .removeEvent "a" 0 "gpu" [2]]

/-- Reclamation fails: the first removal deletes the entry, and the second then
leaves key 2 bridged. -/
theorem not_reclaimed :
    ¬ ∀ ops : List Op, (∀ op ∈ ops, op.aligned) → (Denotes ops).Functional →
      (∀ op ∈ ops, op.noClear) → ∀ e, AllRemoved e ops → NothingLeft e (after ops) := by
  intro reclaimed
  have removed : AllRemoved "a" twoKeysHistory := by
    intro pre op post split r ek owner placed
    rcases pre with _ | ⟨_, _ | ⟨_, _ | ⟨_, _ | ⟨_, pre⟩⟩⟩⟩
    · obtain ⟨rfl, rfl⟩ := List.cons.inj split
      obtain ⟨rfl, named⟩ := placed
      exact ⟨.removeEvent "a" 0 "gpu" [1], by decide, rfl, named⟩
    · obtain ⟨-, rest⟩ := List.cons.inj split
      obtain ⟨rfl, rfl⟩ := List.cons.inj rest
      obtain ⟨rfl, named⟩ := placed
      exact ⟨.removeEvent "a" 0 "gpu" [2], by decide, rfl, named⟩
    all_goals
      simp only [twoKeysHistory, List.cons_append, List.nil_append, List.cons.injEq] at split
    · obtain ⟨-, -, rfl, -⟩ := split
      cases placed
    · obtain ⟨-, -, -, rfl, -⟩ := split
      cases placed
    · simp at split
  have nothing := reclaimed twoKeysHistory (by decide) (by decide) (by decide) "a" removed
  have reading := nothing.unbridged 2
  revert reading
  decide

/-- One block stored and removed. -/
def removedHistory : List Op :=
  [.storeEvent "a" 0 "gpu" [1] [7] 10, .removeEvent "a" 0 "gpu" [1]]

theorem removed_reclaimed :
    NothingLeft "a" (after removedHistory) ↔ LastRemovalsRelease "a" removedHistory := by
  refine reclaimed_iff (by decide) (by decide) (by decide) ?_
  intro pre op post split r ek owner placed
  rcases pre with _ | ⟨_, _ | ⟨_, pre⟩⟩
  · obtain ⟨rfl, rfl⟩ := List.cons.inj split
    obtain ⟨rfl, named⟩ := placed
    exact ⟨.removeEvent "a" 0 "gpu" [1], by decide, rfl, named⟩
  · simp only [removedHistory, List.cons_append, List.nil_append, List.cons.injEq] at split
    obtain ⟨-, rfl, -⟩ := split
    cases placed
  · simp [removedHistory] at split

end Index

end KvIndexer.Residency
