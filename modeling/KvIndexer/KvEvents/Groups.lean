import KvIndexer.KvEvents.Ingest
import KvIndexer.Residency.Settled
import KvIndexer.Lib.Run

/-!
Events of groups that are never indexed.

A hybrid model reports blocks of several KV-cache groups. Stores of a mamba-like
group are skipped by their spec kind, but a removal carries only a group index,
which ingest does not read: it goes through the hash-keyed bridge like any other.
`groups_isolated_iff` says when the events of such groups do leave the index alone:
when each hash their removals name is unbridged, or bridged to a block that is not
held at the removal's dp rank and tier and whose bridge entry stays.
-/

namespace KvIndexer.KvEvents

open Residency

/-- An event of the engine's stream, with what its batch and the clock add. -/
structure Arrival where
  dpRank : Int
  ts : Int
  ev : Event
deriving DecidableEq, Repr

section Groups

variable (rt : Runtime) (e : String) (res : Resolved)

/-- Ingest one event. -/
def arrive (ix : Index) (a : Arrival) : Index :=
  (ingestEvent rt e res a.dpRank a.ts ix a.ev).ix

/-- A removal in one of the groups `G`. -/
def removesIn (G : Int → Bool) (a : Arrival) : Prop := a.ev.kind = .blockRemoved ∧ G a.ev.groupIdx

instance (G : Int → Bool) (a : Arrival) : Decidable (removesIn G a) :=
  inferInstanceAs (Decidable (_ ∧ _))

/-- Not about a group in `G`: neither a store there of a kind that is not indexed, nor
a removal there. -/
def keeps (G : Int → Bool) (a : Arrival) : Bool :=
  !decide ((a.ev.kind = .blockStored ∧ ingestableSpecKind rt a.ev.specKind = false ∧
    G a.ev.groupIdx) ∨ removesIn G a)

/-- At every point of the history the index is what it would be without the events of
the groups in `G`. -/
def GroupsIsolated (G : Int → Bool) (ix : Index) (arrivals : List Arrival) : Prop :=
  ∀ pre post, arrivals = pre ++ post →
    Run.run (arrive rt e res) ix pre = Run.run (arrive rt e res) ix (pre.filter (keeps rt G))

/-- A removal in `G` finds nothing to do. -/
def harmless (G : Int → Bool) (ix : Index) (a : Arrival) : Prop :=
  removesIn G a →
    ∀ ek ∈ a.ev.blockHashes, Index.Untouched ix ⟨e, a.dpRank, mediumToTier rt a.ev.medium⟩ ek

-- over the listed hashes, not over all there are
instance (G : Int → Bool) (ix : Index) (a : Arrival) : Decidable (harmless rt e G ix a) :=
  have : Decidable (∀ ek ∈ a.ev.blockHashes,
      Index.Untouched ix ⟨e, a.dpRank, mediumToTier rt a.ev.medium⟩ ek) :=
    List.decidableBAll _ a.ev.blockHashes
  inferInstanceAs (Decidable (_ → _))

variable {rt e res}

theorem sound_arrive {ix : Index} (sound : ix.Sound) (a : Arrival) :
    (arrive rt e res ix a).Sound := by
  rw [arrive, ingestEvent_ix]
  cases called : eventOp rt e res a.dpRank a.ts ix a.ev with
  | none => exact sound
  | some op => exact sound.apply (eventOp_own rt called).2

theorem arrive_removed {ix : Index} {a : Arrival} (removed : a.ev.kind = .blockRemoved) :
    arrive rt e res ix a =
      ix.removeEvent e a.dpRank (mediumToTier rt a.ev.medium) a.ev.blockHashes := by
  simp only [arrive, ingestEvent, removed]

/-- A store of a kind that is not indexed changes nothing. -/
theorem arrive_not_ingestable {ix : Index} {a : Arrival} (stored : a.ev.kind = .blockStored)
    (skipped : ingestableSpecKind rt a.ev.specKind = false) : arrive rt e res ix a = ix := by
  simp [arrive, ingestEvent, stored, skipped]

theorem arrive_of_not_keeps {G : Int → Bool} {ix : Index} (sound : ix.Sound) {a : Arrival}
    (dropped : keeps rt G a = false) (fine : harmless rt e G ix a) : arrive rt e res ix a = ix := by
  rw [keeps, Bool.not_eq_false', decide_eq_true_eq] at dropped
  rcases dropped with ⟨stored, skipped, -⟩ | removes
  · exact arrive_not_ingestable stored skipped
  · rw [arrive_removed removes.1]
    exact Index.removeEvent_of_untouched sound (fine removes)

/-- The events of the groups in `G` leave no trace exactly when each of their removals
finds nothing to do. -/
theorem groups_isolated_iff {ix : Index} (sound : ix.Sound) (G : Int → Bool)
    (arrivals : List Arrival) :
    GroupsIsolated rt e res G ix arrivals ↔
      Run.EachStep (arrive rt e res) (harmless rt e G) ix arrivals := by
  constructor
  · intro isolated
    refine Run.eachStep_iff.mpr ?_
    rintro pre a post rfl removes
    have kept : ∀ (ix : Index) (a : Arrival), True → ix.Sound → (arrive rt e res ix a).Sound :=
      fun _ a _ sound => sound_arrive sound a
    have soundPre : (Run.run (arrive rt e res) ix pre).Sound :=
      Run.run_invariant kept sound (Run.eachStep_forall.mpr fun _ _ => trivial)
    have without := isolated pre (a :: post) rfl
    have with_ := isolated (pre ++ [a]) post (by simp)
    have dropped : keeps rt G a = false := by simp [keeps, removes]
    rw [List.filter_append, List.filter_cons_of_neg (by simp [dropped]), List.filter_nil,
      List.append_nil, ← without, Run.run_concat, arrive_removed removes.1] at with_
    refine (Index.removeEvent_same_iff soundPre e a.dpRank _ _).mp ?_
    rw [with_]
    exact .refl _
  · rintro fine pre post rfl
    have related : (fun s t : Index => s = t ∧ s.Sound) (Run.run (arrive rt e res) ix pre)
        (Run.run (arrive rt e res) ix (pre.filter (keeps rt G))) := by
      refine Run.run_simulation (R := fun s t : Index => s = t ∧ s.Sound) ?_ ?_ ⟨rfl, sound⟩
        (Run.eachStep_append.mp fine).1
      · rintro s _ a - - ⟨rfl, sound⟩
        exact ⟨rfl, sound_arrive sound a⟩
      · rintro s _ a dropped fine ⟨rfl, sound⟩
        rw [arrive_of_not_keeps sound dropped fine]
        exact ⟨rfl, sound⟩
    exact related.1

end Groups

/-! Blocks of an attention group 0 and a mamba group 1. -/

def attentionStore (h : UInt64) : Arrival :=
  ⟨0, 0, { kind := .blockStored, blockHashes := [h], tokenIDs := [5], blockSize := 1,
           specKind := "full_attention" }⟩

def mambaStore (h : UInt64) : Arrival :=
  ⟨0, 0, { kind := .blockStored, blockHashes := [h], groupIdx := 1, specKind := "mamba" }⟩

def mambaRemove (h : UInt64) : Arrival :=
  ⟨0, 0, { kind := .blockRemoved, blockHashes := [h], groupIdx := 1 }⟩

/-- With one hash in both groups, the mamba removal takes the attention block. -/
theorem not_groups_isolated :
    ¬ ∀ (rt : Runtime) (e : String) (res : Resolved) (G : Int → Bool) (arrivals : List Arrival),
      (∀ a ∈ arrivals, a.ev.kind = .blockStored →
        (ingestableSpecKind rt a.ev.specKind = false ↔ G a.ev.groupIdx)) →
      GroupsIsolated rt e res G newIndex arrivals := by
  intro isolated
  have leaves := isolated (tableRuntime []) "a" ⟨"ns", 9, 1⟩ (· = 1)
    [attentionStore 1, mambaStore 1, mambaRemove 1] (by decide) _ [] (List.append_nil _).symm
  have reading := congrArg (fun ix => ix.lookupBridge "a" 1) leaves
  revert reading
  decide

/-- With different hashes it does not. -/
theorem groups_isolated_distinct :
    GroupsIsolated (tableRuntime []) "a" ⟨"ns", 9, 1⟩ (· = 1) newIndex
      [attentionStore 1, mambaStore 2, mambaRemove 2] :=
  (groups_isolated_iff Index.sound_newIndex (· = 1) _).mpr (by decide +kernel)

end KvIndexer.KvEvents
