import KvIndexer.KvEvents.Listener
import KvIndexer.Lib.Run

/-!
What the gap counter sees.

A publisher numbers its batches from 0, and starts again at 0 when it restarts; a
run is one life of the publisher. `trackSeq` keeps the highest number it has seen
(`lastSeq_of_run`), so it counts a gap exactly when a number jumps over its
successor (`gaps_pos_iff`). After a restart the numbers stay below that mark for a
while, and what is lost there is not counted. `jump_iff_lossAboveMark` gives the
condition in terms of the lost batches.
-/

namespace KvIndexer.KvEvents

/-! ### Tracking a list of numbers -/

/-- Some number but the first is at least 2 above every number before it. -/
def Jump (seqs : List Int) : Prop :=
  ∃ pre seq post, seqs = pre ++ seq :: post ∧ pre ≠ [] ∧ ∀ earlier ∈ pre, earlier + 1 < seq

theorem jump_concat {seqs : List Int} {seq : Int} :
    Jump (seqs ++ [seq]) ↔ Jump seqs ∨ (seqs ≠ [] ∧ ∀ earlier ∈ seqs, earlier + 1 < seq) := by
  constructor
  · rintro ⟨pre, x, post, split, nonempty, above⟩
    rcases Run.split_concat split with ⟨rfl, rfl, rfl⟩ | ⟨front, rfl, rfl⟩
    · exact Or.inr ⟨nonempty, above⟩
    · exact Or.inl ⟨pre, x, front, rfl, nonempty, above⟩
  · rintro (⟨pre, x, post, rfl, nonempty, above⟩ | ⟨nonempty, above⟩)
    · exact ⟨pre, x, post ++ [seq], by simp, nonempty, above⟩
    · exact ⟨seqs, seq, [], rfl, nonempty, above⟩

section Track

variable {l : Listener} (fresh : l.hasSeq = false)
include fresh

/-- The last number tracked is the highest seen. -/
theorem lastSeq_of_run (seqs : List Int) :
    ((Run.run Listener.trackSeq l seqs).hasSeq = true ↔ seqs ≠ []) ∧
      (seqs ≠ [] → (Run.run Listener.trackSeq l seqs).lastSeq ∈ seqs) ∧
      ∀ seq ∈ seqs, seq ≤ (Run.run Listener.trackSeq l seqs).lastSeq := by
  induction seqs using List.reverseRecOn with
  | nil => simp [fresh]
  | append_singleton seqs seq ih =>
      obtain ⟨has, member, above⟩ := ih
      rw [Run.run_concat]
      set before := Run.run Listener.trackSeq l seqs
      unfold Listener.trackSeq
      by_cases old : before.hasSeq = true ∧ seq ≤ before.lastSeq
      · rw [if_pos old]
        have some := has.mp old.1
        refine ⟨by simp [old.1], fun _ => List.mem_append_left _ (member some), ?_⟩
        intro x inAll
        rcases List.mem_append.mp inAll with inSeqs | last
        · exact above x inSeqs
        · obtain rfl : x = seq := by simpa using last
          exact old.2
      · rw [if_neg old]
        refine ⟨by simp, by simp, fun x inAll => ?_⟩
        rcases List.mem_append.mp inAll with inSeqs | last
        · have some : seqs ≠ [] := List.ne_nil_of_mem inSeqs
          have higher : before.lastSeq < seq := not_le.mp fun low => old ⟨has.mpr some, low⟩
          exact (above x inSeqs).trans higher.le
        · obtain rfl : x = seq := by simpa using last
          exact le_refl x

/-- Gaps are counted exactly at jumps. -/
theorem gaps_pos_iff (noGaps : l.gaps = 0) (seqs : List Int) :
    0 < (Run.run Listener.trackSeq l seqs).gaps ↔ Jump seqs := by
  induction seqs using List.reverseRecOn with
  | nil => simp [noGaps, Jump]
  | append_singleton seqs seq ih =>
      obtain ⟨has, member, above⟩ := lastSeq_of_run fresh seqs
      rw [Run.run_concat, jump_concat, ← ih]
      set before := Run.run Listener.trackSeq l seqs
      have skips : (seqs ≠ [] ∧ ∀ earlier ∈ seqs, earlier + 1 < seq) ↔
          before.hasSeq = true ∧ seq > before.lastSeq + 1 := by
        rw [has]
        refine and_congr_right fun some => ?_
        constructor
        · intro higher
          exact higher _ (member some)
        · intro higher earlier inSeqs
          have := above earlier inSeqs
          omega
      rw [skips]
      unfold Listener.trackSeq
      by_cases old : before.hasSeq = true ∧ seq ≤ before.lastSeq
      · rw [if_pos old]
        refine (or_iff_left ?_).symm
        rintro ⟨-, higher⟩
        omega
      · rw [if_neg old]
        by_cases skip : before.hasSeq = true ∧ seq > before.lastSeq + 1
        · simp [skip]
        · simp [skip]

end Track

/-! ### Published and delivered batches -/

/-- A batch of the publisher: its life and its number there. -/
structure Sent where
  life : Nat
  seq : Nat
deriving DecidableEq, Repr

/-- Published earlier. -/
def Sent.before (x y : Sent) : Prop := x.life < y.life ∨ (x.life = y.life ∧ x.seq < y.seq)

instance (x y : Sent) : Decidable (x.before y) :=
  inferInstanceAs (Decidable (x.life < y.life ∨ (x.life = y.life ∧ x.seq < y.seq)))

/-- What a publisher sends whose lives have these numbers of batches. -/
def published (lives : List Nat) : List Sent :=
  (List.range lives.length).flatMap fun life =>
    (List.range (lives.getD life 0)).map fun seq => ⟨life, seq⟩

/-- A batch was lost after some batch of the stream was delivered and before some
later batch of its own life was. -/
def Lossy (lives : List Nat) (delivered : List Sent) : Prop :=
  ∃ lost ∈ published lives, lost ∉ delivered ∧
    (∃ earlier ∈ delivered, earlier.before lost) ∧
    ∃ later ∈ delivered, later.life = lost.life ∧ lost.seq < later.seq

/-- The sequence number as the listener compares it. -/
def Sent.number (x : Sent) : Int := int64 (UInt64.ofNat x.seq)

/-- The message of a batch on the wire. -/
def Sent.frames (topic : List UInt8) (payload : Sent → List UInt8) (x : Sent) :
    List (List UInt8) :=
  liveFrames topic x.seq (payload x)

/-! ### Jumps and losses -/

theorem mem_published {lives : List Nat} {x : Sent} :
    x ∈ published lives ↔ x.life < lives.length ∧ x.seq < lives.getD x.life 0 := by
  simp only [published, List.mem_flatMap, List.mem_range, List.mem_map]
  constructor
  · rintro ⟨life, inLives, seq, inLife, rfl⟩
    exact ⟨inLives, inLife⟩
  · rintro ⟨inLives, inLife⟩
    exact ⟨x.life, inLives, x.seq, inLife, rfl⟩

/-- Batches are published in order. -/
theorem pairwise_published (lives : List Nat) : (published lives).Pairwise Sent.before := by
  rw [published, List.pairwise_flatMap]
  refine ⟨fun life _ => ?_, ?_⟩
  · rw [List.pairwise_map]
    exact List.pairwise_lt_range.imp fun less => Or.inr ⟨rfl, less⟩
  · refine List.pairwise_lt_range.imp fun less x inFirst y inSecond => ?_
    obtain ⟨_, -, rfl⟩ := List.mem_map.mp inFirst
    obtain ⟨_, -, rfl⟩ := List.mem_map.mp inSecond
    exact Or.inl less

/-- A lost batch of that kind whose number is above every number delivered before
it. -/
def LossAboveMark (lives : List Nat) (delivered : List Sent) : Prop :=
  ∃ lost ∈ published lives, lost ∉ delivered ∧
    (∃ earlier ∈ delivered, earlier.before lost) ∧
    (∃ later ∈ delivered, later.life = lost.life ∧ lost.seq < later.seq) ∧
    ∀ earlier ∈ delivered, earlier.before lost → earlier.seq < lost.seq

section Marks

variable {lives : List Nat} {delivered : List Sent}

/-- The batch in front of a jump was lost above the mark. -/
theorem lossAboveMark_of_split (sub : delivered.Sublist (published lives)) {pre post : List Sent}
    {x : Sent} (split : delivered = pre ++ x :: post) (nonempty : pre ≠ [])
    (above : ∀ earlier ∈ pre, earlier.seq + 1 < x.seq) : LossAboveMark lives delivered := by
  have ordered : delivered.Pairwise Sent.before := (pairwise_published lives).sublist sub
  rw [split, List.pairwise_append] at ordered
  obtain ⟨-, fromX, across⟩ := ordered
  have beforeX : ∀ y ∈ pre, y.before x := fun y member => across y member x List.mem_cons_self
  have afterX : ∀ y ∈ post, x.before y := (List.pairwise_cons.mp fromX).1
  have inPre : ∀ y ∈ delivered, y.before x → y ∈ pre := by
    intro y member earlier
    rw [split] at member
    rcases List.mem_append.mp member with inPre | inRest
    · exact inPre
    · rcases List.mem_cons.mp inRest with rfl | inPost
      · unfold Sent.before at earlier
        omega
      · have later := afterX y inPost
        unfold Sent.before at earlier later
        omega
  obtain ⟨first, firstIn⟩ := List.exists_mem_of_ne_nil pre nonempty
  have high := above first firstIn
  obtain ⟨inLives, inLife⟩ := mem_published.mp (sub.subset (split ▸ by simp : x ∈ delivered))
  refine ⟨⟨x.life, x.seq - 1⟩, mem_published.mpr ⟨inLives, by dsimp only; omega⟩, fun arrived => ?_,
    ⟨first, by simp [split, firstIn], ?_⟩, ⟨x, by simp [split], rfl, by dsimp only; omega⟩,
    fun y member earlier => ?_⟩
  · have := above _ (inPre _ arrived (Or.inr ⟨rfl, by dsimp only; omega⟩))
    dsimp only at this
    omega
  · rcases beforeX first firstIn with life | ⟨same, -⟩
    · exact Or.inl life
    · exact Or.inr ⟨same, by dsimp only; omega⟩
  · have earlierX : y.before x := by
      unfold Sent.before at earlier ⊢
      dsimp only at earlier
      omega
    have := above y (inPre y member earlierX)
    dsimp only
    omega

/-- The first batch delivered after a loss above the mark jumps. -/
theorem split_of_lossAboveMark (sub : delivered.Sublist (published lives))
    (loss : LossAboveMark lives delivered) :
    ∃ pre x post, delivered = pre ++ x :: post ∧ pre ≠ [] ∧
      ∀ earlier ∈ pre, earlier.seq + 1 < x.seq := by
  obtain ⟨lost, -, missing, ⟨earlier, earlierIn, isBefore⟩, ⟨later, laterIn, sameLife, above⟩,
    mark⟩ := loss
  have ordered : delivered.Pairwise Sent.before := (pairwise_published lives).sublist sub
  -- the deliveries up to the loss, and the first one after it
  have fails : ¬ Run.EachStep (fun (u : Unit) (_ : Sent) => u) (fun _ y => y.before lost) ()
      delivered := by
    intro each
    have := Run.eachStep_forall.mp each later laterIn
    unfold Sent.before at this
    omega
  obtain ⟨pre, x, post, rfl, eachPre, notBefore⟩ := Run.exists_first_failure fails
  have inPre : ∀ y ∈ pre, y.before lost := Run.eachStep_forall.mp eachPre
  obtain ⟨-, fromX, -⟩ := List.pairwise_append.mp ordered
  have afterX : ∀ y ∈ post, x.before y := (List.pairwise_cons.mp fromX).1
  have different : x ≠ lost := fun same => missing (same ▸ by simp)
  have next : x.life = lost.life ∧ lost.seq < x.seq := by
    have notLost : ¬ (x.life = lost.life ∧ x.seq = lost.seq) := fun same =>
      different (by cases x; cases lost; simp_all)
    rcases List.mem_append.mp laterIn with early | inRest
    · have := inPre later early
      unfold Sent.before at this notBefore
      omega
    · rcases List.mem_cons.mp inRest with rfl | inPost
      · exact ⟨sameLife, above⟩
      · have := afterX later inPost
        unfold Sent.before at this notBefore
        omega
  refine ⟨pre, x, post, rfl, ?_, fun y member => ?_⟩
  · rintro rfl
    rcases List.mem_cons.mp earlierIn with rfl | inPost
    · exact notBefore isBefore
    · have := afterX earlier inPost
      unfold Sent.before at this notBefore isBefore
      omega
  · have low := mark y (by simp [member]) (inPre y member)
    omega

/-- In lives short enough for 64-bit numbers, a jump is a loss above the mark. -/
theorem jump_iff_lossAboveMark (short : ∀ n ∈ lives, n ≤ 2 ^ 63)
    (sub : delivered.Sublist (published lives)) :
    Jump (delivered.map Sent.number) ↔ LossAboveMark lives delivered := by
  have number : ∀ x ∈ delivered, x.number = x.seq := by
    intro x member
    obtain ⟨inLives, inLife⟩ := mem_published.mp (sub.subset member)
    have bound := short (lives.getD x.life 0) (by
      rw [List.getD_eq_getElem?_getD, List.getElem?_eq_getElem inLives]
      exact List.getElem_mem inLives)
    exact int64_ofNat_of_lt (by omega)
  constructor
  · rintro ⟨seqs, seq, seqs', split, nonempty, above⟩
    obtain ⟨pre, rest, rfl, rfl, tail⟩ := List.map_eq_append_iff.mp split
    obtain ⟨x, post, rfl, rfl, -⟩ := List.map_eq_cons_iff.mp tail
    refine lossAboveMark_of_split sub rfl (by simpa using nonempty) fun y member => ?_
    have high := above _ (List.mem_map_of_mem member)
    rw [number y (by simp [member]), number x (by simp)] at high
    omega
  · intro loss
    obtain ⟨pre, x, post, rfl, nonempty, above⟩ := split_of_lossAboveMark sub loss
    refine ⟨pre.map Sent.number, x.number, post.map Sent.number, by simp, by simpa using nonempty,
      fun seq member => ?_⟩
    obtain ⟨y, inPre, rfl⟩ := List.mem_map.mp member
    have high := above y inPre
    rw [number y (by simp [inPre]), number x (by simp)]
    omega

end Marks

/-! ### Delivered messages -/

section Delivered

variable {rt : Runtime} (topic : List UInt8) (payload : Sent → List UInt8)

/-- Well-formed messages never panic, and their numbers are tracked in order. -/
theorem handleAll_seqState (deliveries : List (Moment × Sent))
    (decodes : ∀ d ∈ deliveries, Decodes rt (payload d.2)) (s : State) :
    ∃ s', handleAll rt s (deliveries.map fun d => (d.1, d.2.frames topic payload)) = .ok s' ∧
      s'.listener.seqState =
        (Run.run Listener.trackSeq s.listener (deliveries.map fun d => d.2.number)).seqState := by
  have congr : ∀ (seqs : List Int) (l l' : Listener), l.seqState = l'.seqState →
      (Run.run Listener.trackSeq l seqs).seqState =
        (Run.run Listener.trackSeq l' seqs).seqState := by
    intro seqs
    induction seqs with
    | nil => exact fun _ _ same => same
    | cons seq seqs ih => exact fun l l' same => ih _ _ (Listener.seqState_trackSeq_congr same seq)
  induction deliveries generalizing s with
  | nil => exact ⟨s, rfl, rfl⟩
  | cons d deliveries ih =>
      have tracked := seqState_applyPayload (decodes d List.mem_cons_self) d.1 s
        (UInt64.ofNat d.2.seq)
      obtain ⟨s', handled, state⟩ := ih
        (fun d' member => decodes d' (List.mem_cons_of_mem _ member))
        (applyPayload rt d.1 s (UInt64.ofNat d.2.seq) (payload d.2))
      refine ⟨s', ?_, state.trans ?_⟩
      · rw [List.map_cons, handleAll, Sent.frames, handleFrames_live]
        exact handled
      · rw [List.map_cons, Run.run_cons]
        exact congr _ _ _ tracked

/-- A loss shows in the gap counter exactly when some delivered number jumps. -/
theorem gapsTotal_iff {s : State} (fresh : s.listener.hasSeq = false) (noGaps : s.listener.gaps = 0)
    (lives : List Nat) (deliveries : List (Moment × Sent))
    (decodes : ∀ d ∈ deliveries, Decodes rt (payload d.2)) :
    ∃ s', handleAll rt s (deliveries.map fun d => (d.1, d.2.frames topic payload)) = .ok s' ∧
      ((Lossy lives (deliveries.map Prod.snd) → 0 < s'.listener.gaps) ↔
        (Lossy lives (deliveries.map Prod.snd) → Jump (deliveries.map fun d => d.2.number))) := by
  obtain ⟨s', handled, state⟩ := handleAll_seqState topic payload deliveries decodes s
  have gaps : s'.listener.gaps =
      (Run.run Listener.trackSeq s.listener (deliveries.map fun d => d.2.number)).gaps :=
    congrArg (·.2.2) state
  exact ⟨s', handled, by rw [gaps, gaps_pos_iff fresh noGaps]⟩

end Delivered

/-! Two lives of a publisher; in the second, batch 1 is lost below the mark of the
first. -/

def quietMoment : Moment := ⟨none, ⟨0, fun _ => 0, fun _ => 0⟩⟩

def freshState : State := ⟨{ engineID := "a", model := "m", replayEndpoint := "" }, ∅, []⟩

def restartDeliveries : List (Moment × Sent) :=
  [⟨0, 0⟩, ⟨0, 1⟩, ⟨0, 2⟩, ⟨1, 0⟩, ⟨1, 2⟩].map fun x => (quietMoment, x)

/-- A loss after a restart goes unnoticed. -/
theorem not_gaps_of_lossy :
    ¬ ∀ (rt : Runtime) (topic : List UInt8) (payload : Sent → List UInt8) (s : State),
      s.listener.hasSeq = false → s.listener.gaps = 0 →
      ∀ (lives : List Nat) (deliveries : List (Moment × Sent)),
        (deliveries.map Prod.snd).Sublist (published lives) →
        (∀ d ∈ deliveries, Decodes rt (payload d.2)) → Lossy lives (deliveries.map Prod.snd) →
        ∀ s', handleAll rt s (deliveries.map fun d => (d.1, d.2.frames topic payload)) = .ok s' →
          0 < s'.listener.gaps := by
  intro detected
  have decodes : ∀ d ∈ restartDeliveries, Decodes emptyBatchRuntime [0x92, 0xc0, 0x90] :=
    fun _ _ => decodes_emptyBatch
  obtain ⟨s', handled, state⟩ := handleAll_seqState [] (fun _ => [0x92, 0xc0, 0x90])
    restartDeliveries decodes freshState
  have lossy : Lossy [3, 3] (restartDeliveries.map Prod.snd) :=
    ⟨⟨1, 1⟩, by decide, by decide, ⟨⟨0, 0⟩, by decide, by decide⟩, ⟨⟨1, 2⟩, by decide, by decide⟩⟩
  have counted := detected emptyBatchRuntime [] (fun _ => [0x92, 0xc0, 0x90]) freshState rfl rfl
    [3, 3] restartDeliveries (by decide) decodes lossy s' handled
  have none : s'.listener.gaps = 0 := congrArg (·.2.2) state
  omega

/-- A loss within one life is counted. -/
theorem single_life_gaps :
    ∃ s', handleAll emptyBatchRuntime freshState
        ([(quietMoment, ⟨0, 0⟩), (quietMoment, ⟨0, 2⟩)].map fun d : Moment × Sent =>
          (d.1, d.2.frames [] fun _ => [0x92, 0xc0, 0x90])) = .ok s' ∧
      ((Lossy [3] [⟨0, 0⟩, ⟨0, 2⟩] → 0 < s'.listener.gaps) ↔
        (Lossy [3] [⟨0, 0⟩, ⟨0, 2⟩] → Jump [0, 2])) :=
  gapsTotal_iff [] (fun _ => [0x92, 0xc0, 0x90]) rfl rfl [3]
    [(quietMoment, ⟨0, 0⟩), (quietMoment, ⟨0, 2⟩)] fun _ _ => decodes_emptyBatch

end KvIndexer.KvEvents
