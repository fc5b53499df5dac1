import KvIndexer.KvEvents.Mirror
import KvIndexer.Lib.Interleave

/-!
The history of each engine, told by its own events.

The caches of different engines have nothing to do with one another. So each engine has a
history of its own, the changes of its cache (`Change`), and what its events say about it is
not affected by when the events of other engines come. `exists_mirrored` puts the histories
together: whatever interleaving of the events the index has seen, it mirrors caches in which
each engine is where its own history was after as many changes as events of its came through.
-/

namespace KvIndexer.KvEvents

open Residency Interleave

/-! ### The cache of one engine -/

namespace Caches

variable {s : Caches} {e : String}

/-- What the engine has. -/
def of (s : Caches) (e : String) : Caches := s.filter fun held => held.1.engineID = e

theorem has_of {p : Path} : (s.of e).Has e p ↔ s.Has e p := by
  constructor
  · rintro ⟨held, member, owner, same⟩
    exact ⟨held, (Finset.mem_filter.mp member).1, owner, same⟩
  · rintro ⟨held, member, owner, same⟩
    exact ⟨held, Finset.mem_filter.mpr ⟨member, owner⟩, owner, same⟩

theorem hasIn_of {tiers : List String} {p : Path} :
    (s.of e).HasIn e tiers p ↔ s.HasIn e tiers p := by
  constructor
  · rintro ⟨held, member, owner, found⟩
    exact ⟨held, (Finset.mem_filter.mp member).1, owner, found⟩
  · rintro ⟨held, member, owner, found⟩
    exact ⟨held, Finset.mem_filter.mpr ⟨member, owner⟩, owner, found⟩

theorem run_of (blocks : List Path) : (s.of e).run e blocks = s.run e blocks := by
  unfold run
  simp only [has_of]

theorem possible_of {blockSize : Int} {op : CacheOp} :
    (s.of e).Possible blockSize e op ↔ s.Possible blockSize e op := by
  cases op with
  | store parent new => simp only [Possible, has_of]
  | copy blocks => simp only [Possible, has_of]
  | evict blocks => exact Iff.rfl
  | reset => exact Iff.rfl
  | aside => exact Iff.rfl

theorem of_apply (s : Caches) (r : Resident) (op : CacheOp) :
    (s.apply r op).of r.engineID = (s.of r.engineID).apply r op := by
  have arrive : ∀ blocks : List Path, (s ∪ blocks.toFinset.image (Prod.mk r)).of r.engineID =
      s.of r.engineID ∪ blocks.toFinset.image (Prod.mk r) := by
    intro blocks
    rw [of, Finset.filter_union, Finset.filter_true_of_mem (s := blocks.toFinset.image _)]
    · rfl
    · intro held member
      obtain ⟨p, -, rfl⟩ := Finset.mem_image.mp member
      rfl
  cases op with
  | store parent new => exact arrive _
  | copy blocks => exact arrive _
  | evict blocks => exact Finset.filter_comm _ _ _
  | reset => exact Finset.filter_comm _ _ _
  | aside => rfl

theorem of_apply_other {r : Resident} (other : r.engineID ≠ e) (op : CacheOp) :
    (s.apply r op).of e = s.of e := by
  have arrive : ∀ blocks : List Path,
      (s ∪ blocks.toFinset.image (Prod.mk r)).of e = s.of e := by
    intro blocks
    rw [of, Finset.filter_union, Finset.filter_false_of_mem (s := blocks.toFinset.image _)]
    · exact Finset.union_empty _
    · intro held member
      obtain ⟨p, -, rfl⟩ := Finset.mem_image.mp member
      exact other
  have leave : ∀ gone : Resident × Path → Prop, ∀ [DecidablePred gone],
      (∀ held, gone held → held.1.engineID = r.engineID) →
        of (s.filter fun held => ¬ gone held) e = s.of e := by
    intro gone _ mine
    rw [of, Finset.filter_comm]
    refine Finset.filter_true_of_mem fun held member gone => other ?_
    rw [← mine held gone]
    exact (Finset.mem_filter.mp member).2
  cases op with
  | store parent new => exact arrive _
  | copy blocks => exact arrive _
  | evict blocks =>
      exact leave (fun held => held.1 = r ∧ held.2 ∈ blocks) fun held gone => by rw [gone.1]
  | reset => exact leave (fun held => held.1.engineID = r.engineID) fun held gone => gone
  | aside => rfl

end Caches

/-- A report is about the cache of its engine only. -/
theorem parted_perform (rt : Runtime) (ns : String) :
    Parted (fun report : Report => report.step.engineID) (fun e s => Caches.of s e)
      (Report.perform rt ns) (Report.perform rt ns) where
  mine s report := by
    rw [Report.perform, Report.perform]
    split
    · exact s.of_apply (report.step.resident rt) report.op
    · rfl
  others s report e other := by
    rw [Report.perform]
    split
    · exact Caches.of_apply_other other report.op
    · rfl

/-! ### Histories -/

/-- A change of an engine's cache, and the event that tells it. -/
structure Change where
  dpRank : Int
  ev : Event
  op : CacheOp

namespace Change

/-- What is told of the change. -/
def told (c : Change) : Int × Event := (c.dpRank, c.ev)

def perform (rt : Runtime) (e : String) (s : Caches) (c : Change) : Caches :=
  s.apply ⟨e, c.dpRank, mediumToTier rt c.ev.medium⟩ c.op

/-- The change could happen, and the event reports it. -/
structure Truthful (rt : Runtime) (h : Hashing) (e : String) (res : Resolved) (s : Caches)
    (c : Change) : Prop where
  possible : s.Possible h.blockSize e c.op
  reported : c.op.Reported rt h e res c.ev
  inPlay : ∀ p ∈ c.op.named, p ∈ h.inPlay

end Change

/-- What a pass is told. -/
def EventStep.told (pass : EventStep) : Int × Event := (pass.dpRank, pass.ev)

def Report.change (report : Report) : Change := ⟨report.step.dpRank, report.step.ev, report.op⟩

section Histories

variable {rt : Runtime} {h : Hashing} {e : String} {res : Resolved}

/-- Reports of one engine do what its changes do, and are truthful if these are. -/
theorem reports_of_changes (here : res.ns = h.ns) (seed : res.seed = h.seed)
    {reports : List Report}
    (mine : ∀ report ∈ reports, report.step.engineID = e ∧ report.step.res = res) {s : Caches}
    (truthful : Run.EachStep (Change.perform rt e) (Change.Truthful rt h e res) s
      (reports.map Report.change)) :
    Run.EachStep (Report.perform rt h.ns)
      (fun s report => report.step.res.ns = h.ns → report.Truthful rt h s) s reports ∧
    Run.run (Report.perform rt h.ns) s reports =
      Run.run (Change.perform rt e) s (reports.map Report.change) := by
  induction reports generalizing s with
  | nil => exact ⟨trivial, rfl⟩
  | cons report reports ih =>
      obtain ⟨⟨engine, resolved⟩, others⟩ := List.forall_mem_cons.mp mine
      obtain ⟨now, later⟩ := truthful
      have same : Report.perform rt h.ns s report = Change.perform rt e s report.change := by
        rw [Report.perform, resolved, if_pos here, EventStep.resident, engine]
        rfl
      rw [← same] at later
      obtain ⟨rest, final⟩ := ih others later
      refine ⟨⟨fun _ => ⟨?_, ?_, ?_, now.inPlay⟩, rest⟩, ?_⟩
      · rw [resolved]
        exact seed
      · rw [engine]
        exact now.possible
      · rw [engine, resolved]
        exact now.reported
      · rw [Run.run_cons, final, List.map_cons, Run.run_cons, same]

/-- The passes are reports of the changes: the label of a pass is the change it is told. -/
theorem exists_reports (tracked : String → Prop) [DecidablePred tracked]
    (changes : String → List Change) {schedule : List EventStep}
    (told : ∀ e, tracked e →
      (own EventStep.engineID e schedule).map EventStep.told <+: (changes e).map Change.told) :
    ∃ reports : List Report, reports.map Report.step = schedule ∧
      ∀ e, tracked e →
        (own (fun report : Report => report.step.engineID) e reports).map Report.change =
          (changes e).take (own EventStep.engineID e schedule).length := by
  -- an engine that is not tracked has no changes here
  let labels : String → List Change := fun e =>
    if tracked e then changes e
    else (own EventStep.engineID e schedule).map fun pass => ⟨pass.dpRank, pass.ev, .aside⟩
  have enough : ∀ e, (own EventStep.engineID e schedule).length ≤ (labels e).length := by
    intro e
    dsimp only [labels]
    split
    · rename_i here
      have within := (told e here).length_le
      rwa [List.length_map, List.length_map] at within
    · rw [List.length_map]
  obtain ⟨labelled, passes, ordered⟩ := exists_labels EventStep.engineID labels enough
  refine ⟨labelled.map fun l => ⟨l.1, l.2.op⟩, ?_, fun e here => ?_⟩
  · rw [← passes, List.map_map]
    rfl
  have label := ordered e
  dsimp only [labels] at label
  rw [if_pos here] at label
  have ofPasses : (own (fun l : EventStep × Change => l.1.engineID) e labelled).map Prod.fst =
      own EventStep.engineID e schedule := by
    rw [← passes, own_map]
  have tells : (own (fun l : EventStep × Change => l.1.engineID) e labelled).map
        (fun l => l.1.told) =
      (own (fun l : EventStep × Change => l.1.engineID) e labelled).map (fun l => l.2.told) := by
    have left := congrArg (List.map EventStep.told) ofPasses
    have right := congrArg (List.map Change.told) label
    rw [List.map_map] at left right
    refine left.trans (Eq.trans ?_ right.symm)
    rw [List.map_take, ← List.length_map EventStep.told]
    exact List.prefix_iff_eq_take.mp (told e here)
  rw [← label, own_map, List.map_map]
  refine List.map_congr_left fun l member => ?_
  have same := List.map_inj_left.mp tells l member
  obtain ⟨rank, ev⟩ := Prod.mk.inj same
  show Change.mk l.1.dpRank l.1.ev l.2.op = l.2
  rw [rank, ev]

/-- Reports that are truthful to the cache of their own engine are truthful. -/
theorem truthful_of_each {reports : List Report}
    (each : ∀ e, Run.EachStep (Report.perform rt h.ns)
      (fun s report => report.step.res.ns = h.ns → report.Truthful rt h s) ∅
      (own (fun report : Report => report.step.engineID) e reports)) :
    Run.EachStep (Report.perform rt h.ns)
      (fun s report => report.step.res.ns = h.ns → report.Truthful rt h s) ∅ reports := by
  have parts := (parted_perform rt h.ns).eachStep (s := ∅) each
  refine Run.eachStep_iff.mpr fun pre report post split there => ?_
  have part := Run.eachStep_iff.mp parts pre report post split there
  exact ⟨part.seed, Caches.possible_of.mp part.possible, part.reported, part.inPlay⟩

end Histories

/-- The index mirrors caches in which each engine is where its own history was after as many
changes as events of its have been applied. -/
theorem exists_mirrored (rt : Runtime) (h : Hashing) (res : String → Resolved)
    (changes : String → List Change)
    (truthful : ∀ e, (res e).ns = h.ns → (res e).seed = h.seed ∧
      Run.EachStep (Change.perform rt e) (Change.Truthful rt h e (res e)) ∅ (changes e))
    {schedule : List EventStep} (resolved : ∀ pass ∈ schedule, pass.res = res pass.engineID)
    (told : ∀ e, (res e).ns = h.ns →
      (own EventStep.engineID e schedule).map EventStep.told <+: (changes e).map Change.told) :
    ∃ s : Caches, Mirrors h ((Run.run (EventStep.perform rt) ∅ schedule).index h.ns) s ∧
      ∀ e, (res e).ns = h.ns → s.of e = Run.run (Change.perform rt e) ∅
        ((changes e).take (own EventStep.engineID e schedule).length) := by
  obtain ⟨reports, steps, history⟩ := exists_reports (fun e => (res e).ns = h.ns) changes told
  have mine : ∀ e, ∀ report ∈ own (fun report : Report => report.step.engineID) e reports,
      report.step.engineID = e ∧ report.step.res = res e := by
    intro e report member
    obtain ⟨here, engine⟩ := mem_own.mp member
    refine ⟨engine, ?_⟩
    rw [← engine]
    exact resolved _ (steps ▸ List.mem_map_of_mem here)
  -- an engine's reports are of the first of its changes
  have ofChanges : ∀ e, (res e).ns = h.ns →
      Run.EachStep (Change.perform rt e) (Change.Truthful rt h e (res e)) ∅
        ((own (fun report : Report => report.step.engineID) e reports).map Report.change) := by
    intro e here
    have whole := (truthful e here).2
    rw [← List.take_append_drop (own EventStep.engineID e schedule).length (changes e)] at whole
    rw [history e here]
    exact (Run.eachStep_append.mp whole).1
  have each : ∀ e, Run.EachStep (Report.perform rt h.ns)
      (fun s report => report.step.res.ns = h.ns → report.Truthful rt h s) ∅
      (own (fun report : Report => report.step.engineID) e reports) := by
    intro e
    by_cases here : (res e).ns = h.ns
    · exact (reports_of_changes here (truthful e here).1 (mine e) (ofChanges e here)).1
    · refine Run.eachStep_iff.mpr fun pre report post split there => absurd ?_ here
      have member : report ∈ own (fun report : Report => report.step.engineID) e reports := by
        rw [split]
        exact List.mem_append_right _ List.mem_cons_self
      rw [← (mine e report member).2]
      exact there
  have start : Mirrors h (Manager.index ∅ h.ns) ∅ := Mirrors.start h
  have mirrors := start.run (truthful_of_each each)
  rw [steps] at mirrors
  refine ⟨_, mirrors, fun e here => ?_⟩
  have final := (reports_of_changes here (truthful e here).1 (mine e) (ofChanges e here)).2
  rw [history e here] at final
  exact ((parted_perform rt h.ns).part_run ∅ reports e).trans final

end KvIndexer.KvEvents
