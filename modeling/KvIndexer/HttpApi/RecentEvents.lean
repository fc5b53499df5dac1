import KvIndexer.Config.Model
import KvIndexer.KvEvents.Ingest
import KvIndexer.Lib.FirstSeen
import KvIndexer.Lib.RFC3339
import KvIndexer.Lib.Run
import KvIndexer.Lib.SortSlice

/-!
The recent events (`internal/httpapi/service.go`, `internal/mongostore/store.go`).

An event is kept in a ring in memory and in a log that keeps milliseconds. `recentKVEvents`
merges the two by a key in which the time of the event is written out, and returns at most 200
events, whatever limit is asked for. An event is recognized in both when the log leaves its key
as it is, and two events are told apart when their keys differ; this has to be so of the events
that are still read, as they are recorded (`TellsApart`). Up to the point where the limit cuts
events off, it is also needed (`always_faithful`).
-/

namespace KvIndexer.HttpApi

open KvEvents RFC3339

/-- An event with its time, of which the record has the instant. -/
structure ObservedEvent where
  record : KVEventRecord
  time : Timestamp
  observed : record.observedAt = time.absolute

/-- An event with the place at which it was recorded. The code does not see the place. -/
structure RecordedEvent where
  number : Nat
  event : ObservedEvent

def RecordedEvent.observedAt (ev : RecordedEvent) : Int := ev.event.record.observedAt

def kvEventKey (ev : ObservedEvent) : String :=
  ev.record.engineID ++ "/" ++ ev.record.seq ++ "/" ++ ev.record.kind ++ "/" ++ ev.time.format ++
    "/" ++ toString ev.record.groupIdx

/-! ### The persisted log -/

/-- How the log gives a time back: as milliseconds, in a zone of its own. -/
structure EventLog where
  stored : Timestamp → Timestamp
  truncates : ∀ time : Timestamp,
    (stored time).absolute = time.absolute - time.absolute % 1000000

/-- The event as it is read from the log. -/
def EventLog.write (log : EventLog) (ev : ObservedEvent) : ObservedEvent where
  record := { ev.record with observedAt := (log.stored ev.time).absolute }
  time := log.stored ev.time
  observed := rfl

def observedAfter (a b : RecordedEvent) : Bool := b.observedAt < a.observedAt

theorem observedAfter_eq (a b : RecordedEvent) :
    observedAfter a b =
      decide (OrderDual.toDual a.observedAt < OrderDual.toDual b.observedAt) := rfl

/-- A sort by time, newest first. Events of one time come in any order. -/
abbrev NewestFirst := SortSlice observedAfter

/-- `Store.RecentKVEvents` of the log. -/
def persistedKVEvents (query : NewestFirst) (docs : List RecordedEvent) (limit : Int) :
    List RecordedEvent :=
  if limit ≤ 0 then [] else ((query.sort docs).take limit.toNat).reverse

/-! ### The merge -/

def kvCap : Nat := 200

/-- The ring with one more event. -/
def recordKVEvent (kvEvents : List RecordedEvent) (rec : RecordedEvent) : List RecordedEvent :=
  (kvEvents ++ [rec]).rtake kvCap

def effectiveLimit (limit : Int) : Nat :=
  if limit ≤ 0 ∨ kvCap < limit then kvCap else limit.toNat

/-- `ObservedAt.Before` -/
def observedBefore (a b : RecordedEvent) : Bool := a.observedAt < b.observedAt

theorem observedBefore_eq (a b : RecordedEvent) :
    observedBefore a b = decide (a.observedAt < b.observedAt) := rfl

/-- `sort.SliceStable` by time. -/
def byObservedAt : SortSlice observedBefore := .byKey observedBefore_eq

section Recent

variable (eventLog : Int → Option (List RecordedEvent)) (kvEvents : List RecordedEvent)

/-- The persisted events and those of the ring. Without a log, or if it fails, the ring is
all there is. -/
def eventsRead (limit : Nat) : List RecordedEvent :=
  (eventLog limit).getD [] ++ kvEvents.rtake limit

def mergedEvents (limit : Nat) : List RecordedEvent :=
  firstSeen (fun ev => kvEventKey ev.event) ∅ (eventsRead eventLog kvEvents limit)

/-- `Service.RecentKVEvents` -/
def recentKVEvents (limit : Int) : List RecordedEvent :=
  let limit := effectiveLimit limit
  (byObservedAt.sort (mergedEvents eventLog kvEvents limit)).rtake limit

end Recent

/-! ### Recording -/

/-- The ring and the log, with all that was recorded. -/
structure Recording where
  kvEvents : List RecordedEvent := []
  docs : List RecordedEvent := []
  recorded : List ObservedEvent := []

namespace Recording

/-- An event goes to the ring and to the log. -/
def record (log : EventLog) (st : Recording) (ev : ObservedEvent) : Recording :=
  let number := st.recorded.length
  { kvEvents := recordKVEvent st.kvEvents ⟨number, ev⟩
    docs := st.docs ++ [⟨number, log.write ev⟩]
    recorded := st.recorded ++ [ev] }

variable (st : Recording) (query : NewestFirst) (limit : Int)

/-- The log answers. -/
def answer (limit : Int) : Option (List RecordedEvent) :=
  some (persistedKVEvents query st.docs limit)

def recent : List RecordedEvent := recentKVEvents (st.answer query) st.kvEvents limit

/-- The time at which an event was recorded. -/
def recordedAt (ev : RecordedEvent) : Int :=
  (st.recorded[ev.number]?.getD ev.event).record.observedAt

/-- Each event at most once, no two merged into one, and the newest ones in order of time: as
many as asked for, at most 200. -/
structure Faithful : Prop where
  once : ((st.recent query limit).map RecordedEvent.number).Nodup
  uncollapsed : ∀ ev ∈ eventsRead (st.answer query) st.kvEvents (effectiveLimit limit),
    ∃ ev' ∈ mergedEvents (st.answer query) st.kvEvents (effectiveLimit limit),
      ev'.number = ev.number
  bounded : (st.recent query limit).length ≤ effectiveLimit limit
  newest : ∀ ev ∈ st.docs ++ st.kvEvents, (∀ ev' ∈ st.recent query limit, ev'.number ≠ ev.number) →
    (st.recent query limit).length = effectiveLimit limit ∧
      ∀ ev' ∈ st.recent query limit, st.recordedAt ev ≤ st.recordedAt ev'
  ordered : (st.recent query limit).Pairwise fun a b => st.recordedAt a ≤ st.recordedAt b

/-- So many documents are newer that the log does not return one of this time. -/
def overtaken (time : Int) : Bool :=
  kvCap ≤ st.docs.countP fun doc => decide (time < doc.observedAt)

/-- The documents that the log can return. -/
def currentDocs : List RecordedEvent := st.docs.filter fun doc => !st.overtaken doc.observedAt

/-- What a query can read. -/
def visible : List RecordedEvent := st.currentDocs ++ st.kvEvents

/-- The log leaves the key of the event as it is, unless it will not return it, and no other
event that can be read once this one is in the ring has its key. -/
structure TellsApart (log : EventLog) (ev : ObservedEvent) : Prop where
  kept : st.overtaken (log.write ev).record.observedAt = false →
    kvEventKey (log.write ev) = kvEventKey ev
  apart : ∀ old ∈ st.currentDocs ++ st.kvEvents.rtake (kvCap - 1),
    kvEventKey old.event ≠ kvEventKey ev

end Recording

/-- As the events are recorded, and whatever is asked. -/
def AlwaysFaithful (log : EventLog) (events : List ObservedEvent) : Prop :=
  ∀ pre, pre <+: events →
    ∀ query limit, (Run.run (Recording.record log) {} pre).Faithful query limit

/-- Zones are whole minutes from UTC, and the log gives events of one time back with one
text. -/
structure PlainTimes (log : EventLog) (events : List ObservedEvent) : Prop where
  zone : ∀ ev ∈ events, ev.time.offset % 60 = 0
  storedZone : ∀ ev ∈ events, (log.stored ev.time).offset % 60 = 0
  sameText : ∀ a ∈ events, ∀ b ∈ events, a.time.absolute = b.time.absolute →
    (log.stored a.time).format = (log.stored b.time).format

/-! ### What the ring and the log hold -/

/-- Ring and log hold what was recorded, each event once, and the log has all of it. -/
structure Recording.Inv (log : EventLog) (st : Recording) : Prop where
  listed : st.docs.length = st.recorded.length
  bounded : st.kvEvents.length ≤ kvCap
  ring : ∀ ev ∈ st.kvEvents, st.recorded[ev.number]? = some ev.event
  docs : ∀ ev ∈ st.docs, ∃ original, st.recorded[ev.number]? = some original ∧
    ev.event = log.write original
  ringOnce : (st.kvEvents.map RecordedEvent.number).Nodup
  docsOnce : (st.docs.map RecordedEvent.number).Nodup
  covered : ∀ ev ∈ st.kvEvents, ev.number ∈ st.docs.map RecordedEvent.number

/-- What can be read has the key of the event it is, and different events have different
keys. -/
structure Recording.Apart (log : EventLog) (st : Recording) : Prop where
  kept : ∀ doc ∈ st.currentDocs, ∀ original, st.recorded[doc.number]? = some original →
    kvEventKey (log.write original) = kvEventKey original
  apart : ∀ a ∈ st.visible, ∀ b ∈ st.visible, kvEventKey a.event = kvEventKey b.event →
    a.number = b.number

theorem length_rtake {α : Type} (n : Nat) (xs : List α) :
    (xs.rtake n).length = min n xs.length := by
  unfold List.rtake
  rw [List.length_drop]
  omega

theorem rtake_of_length_le {α : Type} {n : Nat} {xs : List α} (le : xs.length ≤ n) :
    xs.rtake n = xs := by
  unfold List.rtake
  rw [Nat.sub_eq_zero_of_le le, List.drop_zero]

theorem recordKVEvent_sublist (kvEvents : List RecordedEvent) (rec : RecordedEvent) :
    (recordKVEvent kvEvents rec).Sublist (kvEvents ++ [rec]) := List.drop_sublist _ _

theorem mem_recordKVEvent {kvEvents : List RecordedEvent} {rec ev : RecordedEvent}
    (member : ev ∈ recordKVEvent kvEvents rec) : ev ∈ kvEvents ∨ ev = rec := by
  rcases List.mem_append.mp ((recordKVEvent_sublist kvEvents rec).mem member) with old | new
  · exact Or.inl old
  · exact Or.inr (List.mem_singleton.mp new)

theorem nodup_append_fresh {xs : List RecordedEvent} {y : RecordedEvent}
    (once : (xs.map RecordedEvent.number).Nodup) (fresh : ∀ x ∈ xs, x.number ≠ y.number) :
    ((xs ++ [y]).map RecordedEvent.number).Nodup := by
  rw [List.map_append, List.nodup_append]
  refine ⟨once, List.nodup_singleton _, fun number old number' new => ?_⟩
  obtain ⟨x, member, rfl⟩ := List.mem_map.mp old
  obtain rfl := List.mem_singleton.mp new
  exact fresh x member

section Step

variable {log : EventLog} {st : Recording}

theorem kvEvents_record (ev : ObservedEvent) :
    (st.record log ev).kvEvents =
      recordKVEvent st.kvEvents ⟨st.recorded.length, ev⟩ := by
  simp only [Recording.record]

theorem docs_record (ev : ObservedEvent) :
    (st.record log ev).docs = st.docs ++ [⟨st.recorded.length, log.write ev⟩] := by
  simp only [Recording.record]

theorem Recording.Inv.record (inv : st.Inv log) (ev : ObservedEvent) :
    (st.record log ev).Inv log := by
  have earlier : ∀ {number original}, st.recorded[number]? = some original →
      number < st.recorded.length ∧ (st.recorded ++ [ev])[number]? = some original := by
    intro number original found
    have bound := (List.getElem?_eq_some_iff.mp found).1
    exact ⟨bound, by rw [List.getElem?_append_left bound, found]⟩
  have last : (st.recorded ++ [ev])[st.recorded.length]? = some ev := List.getElem?_concat_length
  constructor
  case listed =>
    rw [docs_record, List.length_append, inv.listed]
    exact (@List.length_append _ st.recorded [ev]).symm
  case bounded =>
    rw [kvEvents_record, recordKVEvent, length_rtake]
    exact Nat.min_le_left _ _
  case ring =>
    intro kept member
    rw [kvEvents_record] at member
    rcases mem_recordKVEvent member with old | rfl
    · exact (earlier (inv.ring kept old)).2
    · exact last
  case docs =>
    intro doc member
    rcases List.mem_append.mp member with old | new
    · obtain ⟨original, found, stored⟩ := inv.docs doc old
      exact ⟨original, (earlier found).2, stored⟩
    · obtain rfl := List.mem_singleton.mp new
      exact ⟨ev, last, rfl⟩
  case ringOnce =>
    have once := nodup_append_fresh inv.ringOnce (y := ⟨st.recorded.length, ev⟩)
      fun x old => ne_of_lt (earlier (inv.ring x old)).1
    have kept := recordKVEvent_sublist st.kvEvents ⟨st.recorded.length, ev⟩
    rw [kvEvents_record]
    exact once.sublist (kept.map RecordedEvent.number)
  case docsOnce =>
    refine nodup_append_fresh inv.docsOnce fun x old => ?_
    obtain ⟨original, found, -⟩ := inv.docs x old
    exact ne_of_lt (earlier found).1
  case covered =>
    intro kept member
    rw [kvEvents_record] at member
    change kept.number ∈ List.map RecordedEvent.number
      (st.docs ++ [(⟨st.recorded.length, log.write ev⟩ : RecordedEvent)])
    rw [List.map_append, List.mem_append]
    rcases mem_recordKVEvent member with old | rfl
    · exact Or.inl (inv.covered kept old)
    · exact Or.inr List.mem_cons_self

theorem Recording.inv_empty : Recording.Inv log {} := by
  constructor
  case listed => rfl
  case bounded => exact Nat.zero_le _
  case ring => exact fun _ member => absurd member List.not_mem_nil
  case docs => exact fun _ member => absurd member List.not_mem_nil
  case ringOnce => exact List.nodup_nil
  case docsOnce => exact List.nodup_nil
  case covered => exact fun _ member => absurd member List.not_mem_nil

theorem Recording.apart_empty : Recording.Apart log {} := by
  constructor
  case kept => exact fun _ member => absurd member List.not_mem_nil
  case apart => exact fun _ member => absurd member List.not_mem_nil

theorem recorded_run (events : List ObservedEvent) :
    (Run.run (Recording.record log) st events).recorded = st.recorded ++ events := by
  induction events generalizing st with
  | nil => exact (List.append_nil _).symm
  | cons ev events ih =>
      rw [Run.run_cons, ih]
      exact List.append_assoc _ _ _

/-- What was overtaken stays so. -/
theorem overtaken_record (ev : ObservedEvent) {time : Int}
    (current : (st.record log ev).overtaken time = false) : st.overtaken time = false := by
  unfold Recording.overtaken at current ⊢
  rw [docs_record, List.countP_append, decide_eq_false_iff_not] at current
  rw [decide_eq_false_iff_not]
  omega

/-- What can be read after an event was recorded: the event, and what could be read before and
is still in the ring or in the log. -/
theorem mem_visible_record {ev : ObservedEvent} {entry : RecordedEvent}
    (member : entry ∈ (st.record log ev).visible) :
    entry ∈ st.currentDocs ++ st.kvEvents.rtake (kvCap - 1) ∨
      entry.number = st.recorded.length ∧
        (entry.event = ev ∨ entry.event = log.write ev ∧
          st.overtaken (log.write ev).record.observedAt = false) := by
  rcases List.mem_append.mp member with inLog | inRing
  · obtain ⟨listed, current⟩ := List.mem_filter.mp inLog
    have current := overtaken_record ev (Bool.not_eq_true' _ ▸ current)
    rw [docs_record] at listed
    rcases List.mem_append.mp listed with old | new
    · refine Or.inl (List.mem_append_left _ (List.mem_filter.mpr ⟨old, ?_⟩))
      rw [current]
      rfl
    · obtain rfl := List.mem_singleton.mp new
      exact Or.inr ⟨rfl, Or.inr ⟨rfl, current⟩⟩
  · rw [kvEvents_record, recordKVEvent, kvCap, List.rtake_concat_succ] at inRing
    rcases List.mem_append.mp inRing with old | new
    · exact Or.inl (List.mem_append_right _ old)
    · obtain rfl := List.mem_singleton.mp new
      exact Or.inr ⟨rfl, Or.inl rfl⟩

theorem visible_of_remaining {entry : RecordedEvent}
    (member : entry ∈ st.currentDocs ++ st.kvEvents.rtake (kvCap - 1)) : entry ∈ st.visible :=
  List.mem_append.mpr ((List.mem_append.mp member).imp_right List.mem_of_mem_drop)

/-- Recording an event that is told apart keeps events apart. -/
theorem Recording.Apart.record (apart : st.Apart log) (inv : st.Inv log) {ev : ObservedEvent}
    (tells : st.TellsApart log ev) : (st.record log ev).Apart log := by
  have newKey {entry : RecordedEvent} (new : entry.event = ev ∨ entry.event = log.write ev ∧
      st.overtaken (log.write ev).record.observedAt = false) :
      kvEventKey entry.event = kvEventKey ev := by
    rcases new with same | ⟨same, current⟩
    · rw [same]
    · rw [same, tells.kept current]
  constructor
  case kept =>
    intro doc member original found
    obtain ⟨listed, current⟩ := List.mem_filter.mp member
    have current := overtaken_record ev (Bool.not_eq_true' _ ▸ current)
    rw [docs_record] at listed
    rcases List.mem_append.mp listed with old | new
    · obtain ⟨original', found', -⟩ := inv.docs doc old
      have bound := (List.getElem?_eq_some_iff.mp found').1
      have found : (st.recorded ++ [ev])[doc.number]? = some original := found
      rw [List.getElem?_append_left bound] at found
      exact apart.kept doc (List.mem_filter.mpr ⟨old, by rw [current]; rfl⟩) original found
    · obtain rfl := List.mem_singleton.mp new
      have last : (st.recorded ++ [ev])[st.recorded.length]? = some ev :=
        List.getElem?_concat_length
      obtain rfl : ev = original := Option.some.inj (last.symm.trans found)
      exact tells.kept current
  case apart =>
    intro a memberA b memberB same
    rcases mem_visible_record memberA with oldA | ⟨numberA, newA⟩
    · rcases mem_visible_record memberB with oldB | ⟨-, newB⟩
      · exact apart.apart a (visible_of_remaining oldA) b (visible_of_remaining oldB) same
      · exact absurd (same.trans (newKey newB)) (tells.apart a oldA)
    · rcases mem_visible_record memberB with oldB | ⟨numberB, -⟩
      · exact absurd (same.symm.trans (newKey newA)) (tells.apart b oldB)
      · rw [numberA, numberB]

/-- A run of events that are told apart. -/
theorem Recording.apart_run {events : List ObservedEvent}
    (each : Run.EachStep (Recording.record log) (Recording.TellsApart · log) {} events) :
    (Run.run (Recording.record log) {} events).Inv log ∧
      (Run.run (Recording.record log) {} events).Apart log :=
  @Run.run_invariant _ _ _ _ (fun st => st.Inv log ∧ st.Apart log)
    (fun _ ev tells both => ⟨both.1.record ev, both.2.record both.1 tells⟩) _ _
    ⟨Recording.inv_empty, Recording.apart_empty⟩ each

end Step

/-! ### Where keys tell events apart -/

theorem effectiveLimit_pos (limit : Int) : 0 < effectiveLimit limit := by
  unfold effectiveLimit
  split
  · decide
  · omega

theorem effectiveLimit_le (limit : Int) : effectiveLimit limit ≤ kvCap := by
  unfold effectiveLimit
  split
  · exact Nat.le_refl _
  · omega

theorem effectiveLimit_zero : effectiveLimit 0 = kvCap := by decide

theorem format_eq_of_kvEventKey {log : EventLog} {ev : ObservedEvent}
    (same : kvEventKey (log.write ev) = kvEventKey ev) :
    (log.stored ev.time).format = ev.time.format := by
  have beforeGroup := (String.append_left_inj _).mp ((String.append_left_inj _).mp same)
  exact (String.append_right_inj _).mp beforeGroup

/-- A log that leaves the key as it is leaves the time as it is. -/
theorem absolute_stored {log : EventLog} {ev : ObservedEvent}
    (same : kvEventKey (log.write ev) = kvEventKey ev) :
    (log.stored ev.time).absolute = ev.time.absolute := by
  have truncated := log.truncates ev.time
  exact Timestamp.absolute_eq_of_format (format_eq_of_kvEventKey same) (by omega)

namespace Recording

section Read

variable {st : Recording} {query : NewestFirst} {limit : Nat} {ev : RecordedEvent}

theorem mem_answer (member : ev ∈ persistedKVEvents query st.docs limit) : ev ∈ st.docs := by
  unfold persistedKVEvents at member
  split at member
  · exact absurd member List.not_mem_nil
  · exact query.mem_sort.mp (List.mem_of_mem_take (List.mem_reverse.mp member))

/-- What the log returns has fewer newer documents than were asked for. -/
theorem countP_lt_of_answer (member : ev ∈ persistedKVEvents query st.docs limit) :
    st.docs.countP (fun doc => decide (ev.observedAt < doc.observedAt)) < limit := by
  unfold persistedKVEvents at member
  split at member
  · exact absurd member List.not_mem_nil
  · exact SortSlice.countP_lt_of_mem_take observedAfter_eq (List.mem_reverse.mp member)

theorem current_of_answer (few : limit ≤ kvCap)
    (member : ev ∈ persistedKVEvents query st.docs limit) : ev ∈ st.currentDocs := by
  have newer := countP_lt_of_answer member
  refine List.mem_filter.mpr ⟨mem_answer member, ?_⟩
  rw [overtaken, Bool.not_eq_true', decide_eq_false_iff_not]
  omega

theorem visible_of_read (few : limit ≤ kvCap)
    (member : ev ∈ eventsRead (st.answer query) st.kvEvents limit) : ev ∈ st.visible := by
  rcases List.mem_append.mp member with inLog | inRing
  · exact List.mem_append_left _ (current_of_answer few inLog)
  · exact List.mem_append_right _ (List.mem_of_mem_drop inRing)

theorem visible_of_merged (few : limit ≤ kvCap)
    (member : ev ∈ mergedEvents (st.answer query) st.kvEvents limit) : ev ∈ st.visible :=
  visible_of_read few (mem_of_mem_firstSeen member).1

/-- What is read stays under its key. -/
theorem exists_sameKey (member : ev ∈ eventsRead (st.answer query) st.kvEvents limit) :
    ∃ ev' ∈ mergedEvents (st.answer query) st.kvEvents limit,
      kvEventKey ev'.event = kvEventKey ev.event := by
  unfold mergedEvents
  exact exists_firstSeen member (Finset.notMem_empty _)

theorem visible_of_recent {limit : Int} (member : ev ∈ st.recent query limit) :
    ev ∈ st.visible :=
  visible_of_merged (effectiveLimit_le limit)
    (byObservedAt.mem_sort.mp (List.mem_of_mem_drop member))

theorem length_recent (limit : Int) :
    (st.recent query limit).length = min (effectiveLimit limit)
      (mergedEvents (st.answer query) st.kvEvents (effectiveLimit limit)).length := by
  unfold recent recentKVEvents
  rw [length_rtake, (byObservedAt.perm _).length_eq]

/-- Where no more is merged than is returned, all of it is. -/
theorem recent_of_length_le {limit : Int}
    (few : (mergedEvents (st.answer query) st.kvEvents (effectiveLimit limit)).length ≤
      effectiveLimit limit) :
    st.recent query limit =
      byObservedAt.sort (mergedEvents (st.answer query) st.kvEvents (effectiveLimit limit)) := by
  unfold recent recentKVEvents
  rw [rtake_of_length_le]
  rwa [(byObservedAt.perm _).length_eq]

theorem nodup_answer (once : (st.docs.map RecordedEvent.number).Nodup) :
    ((persistedKVEvents query st.docs limit).map RecordedEvent.number).Nodup := by
  unfold persistedKVEvents
  split
  · exact List.nodup_nil
  · rw [List.map_reverse, List.nodup_reverse]
    have sorted := ((query.perm st.docs).map RecordedEvent.number).nodup_iff.mpr once
    exact sorted.sublist ((List.take_sublist _ _).map _)

theorem known_of_visible (member : ev ∈ st.visible) : ev ∈ st.docs ++ st.kvEvents :=
  List.mem_append.mpr ((List.mem_append.mp member).imp_left fun inLog =>
    (List.mem_filter.mp inLog).1)

/-- What the log leaves out gave way to events that are not older. -/
theorem newest_answer (positive : 0 < limit) (listed : ev ∈ st.docs)
    (left : ev ∉ persistedKVEvents query st.docs limit) :
    (persistedKVEvents query st.docs limit).length = limit ∧
      ∀ ev' ∈ persistedKVEvents query st.docs limit,
        ev.observedAt ≤ ev'.observedAt := by
  unfold persistedKVEvents at left ⊢
  rw [if_neg (by omega)] at left ⊢
  rw [List.mem_reverse, Int.toNat_natCast] at left
  obtain ⟨many, later⟩ := SortSlice.le_of_notMem_take observedAfter_eq listed left
  refine ⟨?_, fun ev' taken => ?_⟩
  · rw [List.length_reverse, Int.toNat_natCast, List.length_take, (query.perm _).length_eq]
    exact Nat.min_eq_left many
  · rw [List.mem_reverse, Int.toNat_natCast] at taken
    exact later ev' taken

end Read

variable {log : EventLog} {st : Recording} (inv : st.Inv log) (apart : st.Apart log)
  {query : NewestFirst} {limit : Int}
include inv apart

/-- What can be read is a recorded event, with its key and its time. -/
theorem original_of_visible {ev : RecordedEvent} (member : ev ∈ st.visible) :
    ∃ original, st.recorded[ev.number]? = some original ∧
      kvEventKey ev.event = kvEventKey original ∧
      ev.observedAt = original.record.observedAt := by
  rcases List.mem_append.mp member with inLog | inRing
  · obtain ⟨original, found, stored⟩ := inv.docs ev (List.mem_filter.mp inLog).1
    have same := apart.kept ev inLog original found
    rw [RecordedEvent.observedAt, stored]
    refine ⟨original, found, same, ?_⟩
    rw [original.observed]
    exact absolute_stored same
  · exact ⟨ev.event, inv.ring ev inRing, rfl, rfl⟩

theorem kvEventKey_eq_iff {a b : RecordedEvent} (left : a ∈ st.visible) (right : b ∈ st.visible) :
    kvEventKey a.event = kvEventKey b.event ↔ a.number = b.number := by
  refine ⟨apart.apart a left b right, fun here => ?_⟩
  obtain ⟨original, found, keyA, -⟩ := original_of_visible inv apart left
  obtain ⟨original', found', keyB, -⟩ := original_of_visible inv apart right
  rw [here, found'] at found
  rw [keyA, keyB, Option.some.inj found]

theorem recordedAt_of_visible {ev : RecordedEvent} (member : ev ∈ st.visible) :
    st.recordedAt ev = ev.observedAt := by
  obtain ⟨original, found, -, time⟩ := original_of_visible inv apart member
  unfold recordedAt
  rw [found, time]
  rfl

omit apart in
/-- Every event that is held has a document. -/
theorem exists_doc {ev : RecordedEvent} (known : ev ∈ st.docs ++ st.kvEvents) :
    ∃ doc ∈ st.docs, doc.number = ev.number := by
  rcases List.mem_append.mp known with inLog | inRing
  · exact ⟨ev, inLog, rfl⟩
  · exact List.mem_map.mp (inv.covered ev inRing)

omit apart in
/-- Entries of one event are of one time. -/
theorem recordedAt_congr {a b : RecordedEvent} (left : a ∈ st.docs ++ st.kvEvents)
    (here : a.number = b.number) : st.recordedAt a = st.recordedAt b := by
  have known : ∃ original, st.recorded[a.number]? = some original := by
    rcases List.mem_append.mp left with inLog | inRing
    · obtain ⟨original, found, -⟩ := inv.docs a inLog
      exact ⟨original, found⟩
    · exact ⟨a.event, inv.ring a inRing⟩
  obtain ⟨original, found⟩ := known
  unfold recordedAt
  rw [← here, found]
  rfl

omit apart in
/-- The log cuts less than a millisecond off the time. -/
theorem recordedAt_of_listed {doc : RecordedEvent} (listed : doc ∈ st.docs) :
    doc.observedAt % 1000000 = 0 ∧ doc.observedAt ≤ st.recordedAt doc ∧
      st.recordedAt doc < doc.observedAt + 1000000 := by
  obtain ⟨original, found, stored⟩ := inv.docs doc listed
  have cut := log.truncates original.time
  have time : doc.observedAt = (log.stored original.time).absolute := by
    rw [RecordedEvent.observedAt, stored]
    rfl
  have recorded : st.recordedAt doc = original.time.absolute := by
    unfold recordedAt
    rw [found]
    exact original.observed
  omega

/-- Different events stay apart. -/
theorem once_merged (query : NewestFirst) {limit : Nat} (few : limit ≤ kvCap) :
    ((mergedEvents (st.answer query) st.kvEvents limit).map RecordedEvent.number).Nodup := by
  have once : ((mergedEvents (st.answer query) st.kvEvents limit).map fun ev =>
    kvEventKey ev.event).Nodup := nodup_firstSeen
  rw [List.Nodup, List.pairwise_map] at once ⊢
  refine once.imp_of_mem fun {a b} left right differ same => differ ?_
  exact (kvEventKey_eq_iff inv apart (visible_of_merged few left)
    (visible_of_merged few right)).mpr same

/-- One event stays. -/
theorem exists_merged {limit : Nat} (few : limit ≤ kvCap) {ev : RecordedEvent}
    (member : ev ∈ eventsRead (st.answer query) st.kvEvents limit) :
    ∃ ev' ∈ mergedEvents (st.answer query) st.kvEvents limit, ev'.number = ev.number := by
  obtain ⟨ev', merged, same⟩ := exists_sameKey member
  exact ⟨ev', merged, (kvEventKey_eq_iff inv apart (visible_of_merged few merged)
    (visible_of_read few member)).mp same⟩

/-- The answer of the log comes first and has no event twice. -/
theorem answer_isPrefix (query : NewestFirst) {limit : Nat} (few : limit ≤ kvCap) :
    persistedKVEvents query st.docs limit <+: mergedEvents (st.answer query) st.kvEvents limit := by
  refine prefix_firstSeen ?_ fun _ _ => Finset.notMem_empty _
  have once : ((persistedKVEvents query st.docs limit).map RecordedEvent.number).Nodup :=
    nodup_answer inv.docsOnce
  have current {ev : RecordedEvent} (member : ev ∈ persistedKVEvents query st.docs limit) :
      ev ∈ st.visible := List.mem_append_left _ (current_of_answer few member)
  rw [List.Nodup, List.pairwise_map] at once ⊢
  refine once.imp_of_mem fun {a b} left right differ same => differ ?_
  exact (kvEventKey_eq_iff inv apart (current left) (current right)).mp same

theorem ordered_recent :
    (st.recent query limit).Pairwise fun a b => st.recordedAt a ≤ st.recordedAt b := by
  have ordered := SortSlice.pairwise_sort observedBefore_eq byObservedAt
    (mergedEvents (st.answer query) st.kvEvents (effectiveLimit limit))
  refine (ordered.sublist (List.drop_sublist _ _)).imp_of_mem fun {a b} left right le => ?_
  rw [recordedAt_of_visible inv apart (visible_of_recent left),
    recordedAt_of_visible inv apart (visible_of_recent right)]
  exact le

/-- What the log leaves out gave way to events that were not recorded earlier. -/
theorem newest_answer_recorded {doc : RecordedEvent} (listed : doc ∈ st.docs)
    (left : doc ∉ persistedKVEvents query st.docs (effectiveLimit limit)) :
    (persistedKVEvents query st.docs (effectiveLimit limit)).length = effectiveLimit limit ∧
      ∀ ev ∈ persistedKVEvents query st.docs (effectiveLimit limit),
        st.recordedAt doc ≤ ev.observedAt := by
  obtain ⟨length, later⟩ := newest_answer (effectiveLimit_pos limit) listed left
  refine ⟨length, fun ev read => ?_⟩
  cases current : st.overtaken doc.observedAt with
  | false =>
      have visible : doc ∈ st.visible := by
        refine List.mem_append_left _ (List.mem_filter.mpr ⟨listed, ?_⟩)
        rw [current]
        rfl
      rw [recordedAt_of_visible inv apart visible]
      exact later ev read
  | true =>
      -- more documents are newer than are read, so all that are read are newer, by a millisecond
      have many := of_decide_eq_true current
      have fewer := countP_lt_of_answer read
      have few := effectiveLimit_le limit
      have newer : doc.observedAt < ev.observedAt := by
        by_contra notNewer
        have more : st.docs.countP (fun d => decide (doc.observedAt < d.observedAt)) ≤
            st.docs.countP fun d => decide (ev.observedAt < d.observedAt) := by
          refine List.countP_mono_left fun d _ after => ?_
          rw [decide_eq_true_eq] at after ⊢
          omega
        omega
      have whole := recordedAt_of_listed inv listed
      have whole' := recordedAt_of_listed inv (mem_answer read)
      omega

/-- What is not returned of the log gave way to events that were not recorded earlier. -/
theorem newest_of_log (query : NewestFirst) (limit : Int) {doc : RecordedEvent}
    (listed : doc ∈ st.docs)
    (missing : ∀ ev ∈ st.recent query limit, ev.number ≠ doc.number) :
    effectiveLimit limit ≤
        (mergedEvents (st.answer query) st.kvEvents (effectiveLimit limit)).length ∧
      ∀ ev ∈ st.recent query limit, st.recordedAt doc ≤ ev.observedAt := by
  have few := effectiveLimit_le limit
  by_cases answered : doc ∈ persistedKVEvents query st.docs (effectiveLimit limit)
  · -- it was read and is not among the last ones
    obtain ⟨ev, merged, here⟩ := exists_merged inv apart few
      (List.mem_append_left (st.kvEvents.rtake (effectiveLimit limit)) answered)
    obtain ⟨many, later⟩ := SortSlice.le_of_notMem_rtake observedBefore_eq (s := byObservedAt)
      merged fun returned => missing ev returned here
    refine ⟨many, fun ev' returned => ?_⟩
    have same := @recordedAt_congr log st inv doc ev (List.mem_append_left _ listed) here.symm
    rw [same, recordedAt_of_visible inv apart (visible_of_merged few merged)]
    exact later ev' returned
  · -- as many events that are not older were read instead
    obtain ⟨length, later⟩ := newest_answer_recorded inv apart listed answered
    have front := (answer_isPrefix inv apart query few).sublist
    have many : effectiveLimit limit ≤
        (mergedEvents (st.answer query) st.kvEvents (effectiveLimit limit)).countP
          fun ev => decide (st.recordedAt doc ≤ ev.observedAt) := by
      refine Nat.le_trans (Nat.le_of_eq ?_) front.countP_le
      rw [List.countP_eq_length.mpr fun ev read => decide_eq_true (later ev read), length]
    refine ⟨Nat.le_trans many List.countP_le_length, fun ev returned => ?_⟩
    exact SortSlice.le_of_mem_rtake observedBefore_eq many returned

/-- An event that is not returned gave way to events that were not recorded earlier. -/
theorem newest_recent {ev : RecordedEvent} (known : ev ∈ st.docs ++ st.kvEvents)
    (missing : ∀ ev' ∈ st.recent query limit, ev'.number ≠ ev.number) :
    (st.recent query limit).length = effectiveLimit limit ∧
      ∀ ev' ∈ st.recent query limit, st.recordedAt ev ≤ st.recordedAt ev' := by
  obtain ⟨doc, listed, here⟩ := exists_doc inv known
  obtain ⟨many, later⟩ := newest_of_log inv apart query limit listed (by rwa [here])
  refine ⟨?_, fun ev' returned => ?_⟩
  · rw [length_recent]
    exact Nat.min_eq_left many
  · rw [recordedAt_congr inv known here.symm,
      recordedAt_of_visible inv apart (visible_of_recent returned)]
    exact later ev' returned

theorem faithful : st.Faithful query limit := by
  constructor
  case once =>
    have once := once_merged inv apart query (effectiveLimit_le limit)
    have sorted := ((byObservedAt.perm _).map RecordedEvent.number).nodup_iff.mpr once
    exact sorted.sublist ((List.drop_sublist _ _).map _)
  case uncollapsed => exact fun ev read => exists_merged inv apart (effectiveLimit_le limit) read
  case bounded =>
    rw [length_recent]
    exact Nat.min_le_left _ _
  case newest => exact fun ev known missing => newest_recent inv apart known missing
  case ordered => exact ordered_recent inv apart

end Recording

/-! ### Where they do not -/

/-- The text of a key before the time. -/
def keyFront (ev : ObservedEvent) : String :=
  ev.record.engineID ++ "/" ++ ev.record.seq ++ "/" ++ ev.record.kind

theorem slash_notMem_int (i : Int) : '/' ∉ (toString i).toList := by
  have digits {n : Nat} : '/' ∉ (Nat.repr n).toList := fun member =>
    absurd (isDigit_of_mem_repr member) (by decide)
  cases i with
  | ofNat n => exact digits
  | negSucc n =>
      rw [show toString (Int.negSucc n) = "-" ++ Nat.repr (n + 1) from rfl, String.toList_append]
      intro member
      rcases List.mem_append.mp member with sign | digit
      · exact absurd sign (by decide)
      · exact digits digit

/-- A key falls into its parts. -/
theorem kvEventKey_inj {a b : ObservedEvent} (same : kvEventKey a = kvEventKey b) :
    keyFront a = keyFront b ∧ a.time.format = b.time.format ∧
      toString a.record.groupIdx = toString b.record.groupIdx := by
  have split (ev : ObservedEvent) : (kvEventKey ev).toList =
      ((keyFront ev).toList ++ '/' :: ev.time.format.toList) ++
        '/' :: (toString ev.record.groupIdx).toList := by
    unfold kvEventKey keyFront
    simp
  have texts := congrArg String.toList same
  rw [split, split] at texts
  obtain ⟨fronts, groups⟩ := Config.append_cons_inj_of_last (slash_notMem_int _)
    (slash_notMem_int _) texts
  obtain ⟨fronts, times⟩ := Config.append_cons_inj_of_last (Timestamp.slash_notMem_format _)
    (Timestamp.slash_notMem_format _) fronts
  exact ⟨String.toList_injective fronts, String.toList_injective times,
    String.toList_injective groups⟩

/-- Events with one key, in zones of whole minutes, have one key in the log. -/
theorem kvEventKey_write_congr {log : EventLog} {events : List ObservedEvent}
    (plain : PlainTimes log events) {a b : ObservedEvent} (memberA : a ∈ events)
    (memberB : b ∈ events) (same : kvEventKey a = kvEventKey b) :
    kvEventKey (log.write a) = kvEventKey (log.write b) := by
  obtain ⟨fronts, times, groups⟩ := kvEventKey_inj same
  have stored := plain.sameText a memberA b memberB
    (Timestamp.absolute_eq_of_format_of_minutes times (plain.zone a memberA) (plain.zone b memberB))
  have written (ev : ObservedEvent) : kvEventKey (log.write ev) =
      keyFront ev ++ "/" ++ (log.stored ev.time).format ++ "/" ++ toString ev.record.groupIdx := rfl
  rw [written, written, fronts, stored, groups]

/-- The sort that keeps the order of events of one time. -/
def newestFirst : NewestFirst :=
  .byKey observedAfter_eq

section Necessary

variable {log : EventLog} {st : Recording} {query : NewestFirst} {ev : ObservedEvent}

theorem eventsRead_all (few : st.docs.length ≤ kvCap) (fewInRing : st.kvEvents.length ≤ kvCap) :
    eventsRead (st.answer query) st.kvEvents kvCap =
      (query.sort st.docs).reverse ++ st.kvEvents := by
  have length : (query.sort st.docs).length ≤ kvCap := by rwa [(query.perm _).length_eq]
  unfold eventsRead Recording.answer persistedKVEvents
  rw [if_neg (by decide), Int.toNat_natCast, List.take_of_length_le length, Option.getD_some,
    rtake_of_length_le fewInRing]

/-- Of two documents of one time the log returns the later one first. -/
theorem exists_split_answer {docs : List RecordedEvent} {old new : RecordedEvent}
    (listed : old ∈ docs) (oneTime : old.observedAt = new.observedAt) :
    ∃ front middle, (newestFirst.sort (docs ++ [new])).reverse = front ++ new :: middle ∧
      old ∈ middle := by
  have inOrder : [old, new].Sublist (docs ++ [new]) :=
    (List.singleton_sublist.mpr listed).append (List.Sublist.refl [new])
  have sorted : [old, new].Sublist (newestFirst.sort (docs ++ [new])) := by
    refine List.pair_sublist_mergeSort (fun a b c ab bc => ?_) (fun a b => ?_) ?_ inOrder
    · rw [decide_eq_true_eq] at ab bc ⊢
      exact le_trans ab bc
    · simpa using le_total b.observedAt a.observedAt
    · simp [oneTime]
  have mirrored := sorted.reverse
  rw [List.reverse_cons, List.reverse_singleton, List.singleton_append,
    List.cons_sublist_iff] at mirrored
  obtain ⟨left, right, split, inLeft, inRight⟩ := mirrored
  obtain ⟨front, back, rfl⟩ := List.append_of_mem inLeft
  refine ⟨front, back ++ right, ?_, List.mem_append_right _ (List.singleton_sublist.mp inRight)⟩
  rw [split, List.append_assoc, List.cons_append]

/-- An entry with an earlier number is an earlier one. -/
theorem visible_of_number {entry : RecordedEvent} (member : entry ∈ (st.record log ev).visible)
    (other : entry.number ≠ st.recorded.length) : entry ∈ st.visible := by
  rcases mem_visible_record member with old | ⟨number, -⟩
  · exact visible_of_remaining old
  · exact absurd number other

/-- Each document is read once. -/
theorem nodup_docs_read (inv : st.Inv log) (query : NewestFirst) :
    ((query.sort (st.docs ++ [⟨st.recorded.length, log.write ev⟩])).reverse.map
      RecordedEvent.number).Nodup := by
  have once := (inv.record ev).docsOnce
  rw [docs_record] at once
  rw [List.map_reverse, List.nodup_reverse]
  exact ((query.perm _).map RecordedEvent.number).nodup_iff.mpr once

variable (inv : st.Inv log) (apart : st.Apart log) (few : st.recorded.length + 1 < kvCap)
include inv few

/-- As long as all documents are returned, none is overtaken. -/
theorem currentDocs_of_few : st.currentDocs = st.docs := by
  refine List.filter_eq_self.mpr fun doc _ => ?_
  have bound := List.countP_le_length (p := fun d => decide (doc.observedAt < d.observedAt))
    (l := st.docs)
  rw [inv.listed] at bound
  rw [Recording.overtaken, Bool.not_eq_true', decide_eq_false_iff_not]
  omega

/-- The document of what can be read can be read. -/
theorem exists_visible_doc {entry : RecordedEvent} (member : entry ∈ st.visible) :
    ∃ doc ∈ st.docs, doc.number = entry.number ∧ doc ∈ st.visible := by
  obtain ⟨doc, listed, here⟩ := Recording.exists_doc inv (Recording.known_of_visible member)
  refine ⟨doc, listed, here, List.mem_append_left _ ?_⟩
  rwa [currentDocs_of_few inv few]

theorem eventsRead_record (query : NewestFirst) :
    eventsRead ((st.record log ev).answer query) (st.record log ev).kvEvents (effectiveLimit 0) =
      (query.sort (st.docs ++ [⟨st.recorded.length, log.write ev⟩])).reverse ++
        (st.record log ev).kvEvents := by
  rw [effectiveLimit_zero, eventsRead_all ?_ (inv.record ev).bounded, docs_record]
  rw [(inv.record ev).listed]
  exact Nat.le_of_lt (List.length_append.trans_lt few)

/-- Where the log changes the key of the new event, its document and its entry in the ring are
both returned, if no earlier event has their keys. -/
theorem new_merged (differ : kvEventKey (log.write ev) ≠ kvEventKey ev)
    (freshWrite : ∀ old ∈ st.visible, kvEventKey old.event ≠ kvEventKey (log.write ev))
    (fresh : ∀ old ∈ st.visible, kvEventKey old.event ≠ kvEventKey ev) :
    ⟨st.recorded.length, log.write ev⟩ ∈ mergedEvents ((st.record log ev).answer newestFirst)
        (st.record log ev).kvEvents (effectiveLimit 0) ∧
      ⟨st.recorded.length, ev⟩ ∈ mergedEvents ((st.record log ev).answer newestFirst)
        (st.record log ev).kvEvents (effectiveLimit 0) := by
  have read := @eventsRead_record log st ev inv few newestFirst
  constructor
  · obtain ⟨kept, merged, key⟩ := @Recording.exists_sameKey (st.record log ev) newestFirst _
      ⟨st.recorded.length, log.write ev⟩ (by
        rw [read]
        refine List.mem_append_left _ (List.mem_reverse.mpr (newestFirst.mem_sort.mpr ?_))
        exact List.mem_append_right _ List.mem_cons_self)
    rcases mem_visible_record (Recording.visible_of_merged (effectiveLimit_le 0) merged) with
      old | ⟨number, same | ⟨same, -⟩⟩
    · exact absurd key (freshWrite kept (visible_of_remaining old))
    · rw [same] at key
      exact absurd key.symm differ
    · have new : kept = ⟨st.recorded.length, log.write ev⟩ := by rw [← number, ← same]
      rwa [new] at merged
  · obtain ⟨kept, merged, key⟩ := @Recording.exists_sameKey (st.record log ev) newestFirst _
      ⟨st.recorded.length, ev⟩ (by
        rw [read, kvEvents_record, recordKVEvent, kvCap, List.rtake_concat_succ]
        exact List.mem_append_right _ (List.mem_append_right _ List.mem_cons_self))
    rcases mem_visible_record (Recording.visible_of_merged (effectiveLimit_le 0) merged) with
      old | ⟨number, same | ⟨same, -⟩⟩
    · exact absurd key (fresh kept (visible_of_remaining old))
    · have new : kept = ⟨st.recorded.length, ev⟩ := by
        obtain ⟨keptNumber, keptEvent⟩ := kept
        rw [show keptNumber = _ from number, show keptEvent = _ from same]
      rwa [new] at merged
    · rw [same] at key
      exact absurd key differ

include apart

/-- What is read before the new document does not have the key of a document read after it. -/
theorem key_ne_of_read_before {query : NewestFirst} {front middle : List RecordedEvent}
    (split : (query.sort (st.docs ++ [⟨st.recorded.length, log.write ev⟩])).reverse =
      front ++ ⟨st.recorded.length, log.write ev⟩ :: middle)
    {doc earlier : RecordedEvent} (current : doc ∈ st.visible) (inMiddle : doc ∈ middle)
    (inFront : earlier ∈ front) : kvEventKey earlier.event ≠ kvEventKey doc.event := by
  have once := @nodup_docs_read log st ev inv query
  rw [split, List.map_append, List.map_cons, List.nodup_append] at once
  have number := List.mem_map_of_mem (f := RecordedEvent.number) inFront
  have notNew : earlier.number ≠ st.recorded.length := once.2.2 _ number _ List.mem_cons_self
  have notDoc : earlier.number ≠ doc.number :=
    once.2.2 _ number _ (List.mem_cons_of_mem _ (List.mem_map_of_mem inMiddle))
  have read : earlier ∈ st.docs ++ [⟨st.recorded.length, log.write ev⟩] := by
    rw [← query.mem_sort, ← List.mem_reverse, split]
    exact List.mem_append_left _ inFront
  have listed : earlier ∈ st.docs := by
    rcases List.mem_append.mp read with old | last
    · exact old
    · exact absurd (congrArg RecordedEvent.number (List.mem_singleton.mp last)) notNew
  have visible : earlier ∈ st.visible := by
    rw [Recording.visible, currentDocs_of_few inv few]
    exact List.mem_append_left _ listed
  exact fun keys => notDoc (apart.apart earlier visible doc current keys)

/-- The key of the new document is not that of an earlier event: the earlier one would be
merged into it. -/
theorem key_write_ne (plain : PlainTimes log (st.recorded ++ [ev]))
    (faithful : ∀ query, (st.record log ev).Faithful query 0) {old : RecordedEvent}
    (member : old ∈ st.visible) : kvEventKey old.event ≠ kvEventKey (log.write ev) := by
  intro same
  obtain ⟨doc, listed, here, current⟩ := exists_visible_doc inv few member
  have same : kvEventKey doc.event = kvEventKey (log.write ev) :=
    ((Recording.kvEventKey_eq_iff inv apart current member).mpr here).trans same
  obtain ⟨original, found, stored⟩ := inv.docs doc listed
  have bound := (List.getElem?_eq_some_iff.mp found).1
  have known := List.mem_append_left [ev] (List.mem_of_getElem? found)
  set new : RecordedEvent := ⟨st.recorded.length, log.write ev⟩ with newIs
  have oneTime : doc.observedAt = new.observedAt := by
    rw [stored] at same
    rw [RecordedEvent.observedAt, stored]
    exact Timestamp.absolute_eq_of_format_of_minutes (kvEventKey_inj same).2.1
      (plain.storedZone original known)
      (plain.storedZone ev (List.mem_append_right _ List.mem_cons_self))
  obtain ⟨front, middle, split, inMiddle⟩ := exists_split_answer listed oneTime
  have fresh : ∀ before ∈ front, kvEventKey before.event ≠ kvEventKey new.event :=
    fun _ inFront keys =>
      key_ne_of_read_before inv apart few split current inMiddle inFront (keys.trans same.symm)
  have read := @eventsRead_record log st ev inv few newestFirst
  rw [split] at read
  obtain ⟨kept, merged, number⟩ := (faithful newestFirst).uncollapsed doc (by
    rw [read, List.append_assoc, List.cons_append]
    exact List.mem_append_right _ (List.mem_cons_of_mem _ (List.mem_append_left _ inMiddle)))
  have visible := Recording.visible_of_merged (effectiveLimit_le 0) merged
  have earlier : kept.number ≠ st.recorded.length := by omega
  have keys := (Recording.kvEventKey_eq_iff inv apart
    (visible_of_number visible earlier) current).mpr number
  unfold mergedEvents at merged
  rw [read, List.append_assoc, List.cons_append] at merged
  obtain rfl := eq_of_mem_firstSeen fresh merged (keys.trans same)
  exact earlier rfl

/-- Nor is that of the new event, which would have the key of the other's document. -/
theorem key_ne (plain : PlainTimes log (st.recorded ++ [ev]))
    (faithful : ∀ query, (st.record log ev).Faithful query 0) {old : RecordedEvent}
    (member : old ∈ st.visible) : kvEventKey old.event ≠ kvEventKey ev := by
  intro same
  obtain ⟨doc, listed, here, -⟩ := exists_visible_doc inv few member
  obtain ⟨original, found, -⟩ := inv.docs doc listed
  have kept := apart.kept doc (by rwa [currentDocs_of_few inv few]) original found
  obtain ⟨original', found', key, -⟩ := Recording.original_of_visible inv apart member
  rw [← here, found] at found'
  obtain rfl := Option.some.inj found'
  have written := kvEventKey_write_congr plain
    (List.mem_append_left [ev] (List.mem_of_getElem? found))
    (List.mem_append_right _ List.mem_cons_self) (key.symm.trans same)
  exact key_write_ne inv apart few plain faithful member (key.trans (kept.symm.trans written))

/-- There is room for both. -/
theorem length_merged_record :
    (mergedEvents ((st.record log ev).answer newestFirst) (st.record log ev).kvEvents
      (effectiveLimit 0)).length ≤ kvCap := by
  have once : ((mergedEvents ((st.record log ev).answer newestFirst) (st.record log ev).kvEvents
    (effectiveLimit 0)).map fun kept => kvEventKey kept.event).Nodup := nodup_firstSeen
  have among : ((mergedEvents ((st.record log ev).answer newestFirst) (st.record log ev).kvEvents
      (effectiveLimit 0)).map fun kept => kvEventKey kept.event) ⊆
      kvEventKey ev :: kvEventKey (log.write ev) ::
        st.docs.map fun kept => kvEventKey kept.event := by
    intro key member
    obtain ⟨kept, merged, rfl⟩ := List.mem_map.mp member
    rcases mem_visible_record (Recording.visible_of_merged (effectiveLimit_le 0) merged) with
      old | ⟨-, same | ⟨same, -⟩⟩
    · have earlier := visible_of_remaining old
      obtain ⟨doc, listed, here, current⟩ := exists_visible_doc inv few earlier
      refine List.mem_cons_of_mem _ (List.mem_cons_of_mem _ (List.mem_map.mpr ⟨doc, listed, ?_⟩))
      exact (Recording.kvEventKey_eq_iff inv apart current earlier).mpr here
    · rw [same]
      exact List.mem_cons_self
    · rw [same]
      exact List.mem_cons_of_mem _ List.mem_cons_self
  have bound := (once.subperm among).length_le
  rw [List.length_map, List.length_cons, List.length_cons, List.length_map, inv.listed] at bound
  omega

/-- The log leaves the key of the new event: otherwise it would be returned twice. -/
theorem key_write_eq (plain : PlainTimes log (st.recorded ++ [ev]))
    (faithful : ∀ query, (st.record log ev).Faithful query 0) :
    kvEventKey (log.write ev) = kvEventKey ev := by
  by_contra differ
  obtain ⟨docMerged, entryMerged⟩ := new_merged inv few differ
    (fun old => key_write_ne inv apart few plain faithful)
    (fun old => key_ne inv apart few plain faithful)
  have room := @length_merged_record log st ev inv apart few
  rw [← effectiveLimit_zero] at room
  have once := (faithful newestFirst).once
  rw [Recording.recent_of_length_le room] at once
  have mergedOnce := ((byObservedAt.perm _).map RecordedEvent.number).nodup_iff.mp once
  have one := List.inj_on_of_nodup_map mergedOnce docMerged entryMerged rfl
  have event : log.write ev = ev := congrArg RecordedEvent.event one
  exact differ (by rw [event])

theorem tellsApart_of_faithful (plain : PlainTimes log (st.recorded ++ [ev]))
    (faithful : ∀ query, (st.record log ev).Faithful query 0) : st.TellsApart log ev where
  kept _ := key_write_eq inv apart few plain faithful
  apart _ member := key_ne inv apart few plain faithful (visible_of_remaining member)

end Necessary

/-- The recent events are returned once, apart and in order, whatever was recorded and is asked,
if each event is told apart from those that can still be read. As long as nothing is cut off,
this is needed. -/
theorem always_faithful (log : EventLog) (events : List ObservedEvent) :
    (Run.EachStep (Recording.record log) (Recording.TellsApart · log) {} events →
        AlwaysFaithful log events) ∧
      (events.length < kvCap → PlainTimes log events → AlwaysFaithful log events →
        Run.EachStep (Recording.record log) (Recording.TellsApart · log) {} events) := by
  constructor
  · rintro each pre ⟨rest, rfl⟩ query limit
    obtain ⟨inv, apart⟩ := Recording.apart_run (Run.eachStep_append.mp each).1
    exact Recording.faithful inv apart
  · intro few plain always
    by_contra fails
    obtain ⟨pre, ev, post, rfl, each, untold⟩ := Run.exists_first_failure fails
    obtain ⟨inv, apart⟩ := Recording.apart_run each
    have recorded : (Run.run (Recording.record log) {} pre).recorded = pre := recorded_run pre
    have earlier {other : ObservedEvent} (member : other ∈ pre ++ [ev]) :
        other ∈ pre ++ ev :: post := by
      rw [← List.singleton_append, ← List.append_assoc]
      exact List.mem_append_left _ member
    refine untold (tellsApart_of_faithful inv apart ?_ ?_ fun query => ?_)
    · rw [recorded]
      rw [List.length_append, List.length_cons] at few
      omega
    · rw [recorded]
      exact ⟨fun other member => plain.zone other (earlier member),
        fun other member => plain.storedZone other (earlier member),
        fun a memberA b memberB => plain.sameText a (earlier memberA) b (earlier memberB)⟩
    · have faithful := always (pre ++ [ev]) ⟨post, by simp⟩ query 0
      rwa [Run.run_concat] at faithful

/-! An event half a millisecond after a full second. -/

def betweenMillis : Timestamp where
  year := 2026
  month := 3
  day := 14
  hour := 9
  minute := 30
  second := 15
  nanosecond := 500000
  offset := 0
  year_lt := by decide
  month_pos := by decide
  month_le := by decide
  day_pos := by decide
  day_le := by decide
  hour_lt := by decide
  minute_lt := by decide
  second_lt := by decide
  nanosecond_lt := by decide
  offset_gt := utc_gt
  offset_lt := utc_lt

/-- `AllBlocksCleared` of engine e. -/
def clearedAt (seq : UInt64) (time : Timestamp) : ObservedEvent where
  record := recordEvent { engineID := "e", model := "m", replayEndpoint := "" } { seq := seq }
    time.absolute { kind := .allBlocksCleared } "ns" "" [] true ""
  time := time
  observed := rfl

def clearedEvent : ObservedEvent := clearedAt 1 betweenMillis

/-- The log cuts the fraction of a time and keeps its zone. -/
def truncating : EventLog where
  stored time :=
    { time with
      nanosecond := time.nanosecond / 1000000 * 1000000
      nanosecond_lt := by
        have bound := time.nanosecond_lt
        omega }
  truncates time := by
    simp only [Timestamp.absolute, Timestamp.localSeconds, Timestamp.days]
    omega

/-- The full second before it, as the log keeps it. -/
def fullSecond : Timestamp := truncating.stored betweenMillis

/-- Two events of one full second, of different batches. -/
def apartInSeq : List ObservedEvent := [clearedAt 1 fullSecond, clearedAt 2 fullSecond]

theorem always_faithful_apartInSeq :
    AlwaysFaithful truncating apartInSeq ∧
      Run.EachStep (Recording.record truncating) (Recording.TellsApart · truncating) {}
        apartInSeq := by
  have plain : PlainTimes truncating apartInSeq := by
    have zone : ∀ ev ∈ apartInSeq, ev.time = fullSecond := by
      intro ev member
      rcases List.mem_pair.mp member with rfl | rfl
      all_goals rfl
    constructor
    case zone => exact fun ev member => by rw [zone ev member]; rfl
    case storedZone => exact fun ev member => by rw [zone ev member]; rfl
    case sameText => exact fun a memberA b memberB _ => by rw [zone a memberA, zone b memberB]
  have faithful : AlwaysFaithful truncating apartInSeq := by
    refine (always_faithful truncating apartInSeq).1
      ⟨⟨fun _ => ?_, fun old member => ?_⟩, ⟨fun _ => ?_, fun old member => ?_⟩, trivial⟩
    · decide +kernel
    · exact absurd member List.not_mem_nil
    · decide +kernel
    · rcases List.mem_append.mp member with inLog | inRing
      · obtain rfl := List.mem_singleton.mp (List.mem_filter.mp inLog).1
        decide +kernel
      · obtain rfl := List.mem_singleton.mp (List.mem_of_mem_drop inRing)
        decide +kernel
  exact ⟨faithful, (always_faithful truncating apartInSeq).2 (by decide) plain faithful⟩

/-- It is in the log under another key, and returned twice. -/
theorem not_always_faithful : ¬ ∀ log events, AlwaysFaithful log events := by
  intro always
  have plain : PlainTimes truncating [clearedEvent] := by
    constructor
    all_goals
      intro ev member
      obtain rfl := List.mem_singleton.mp member
    case zone => rfl
    case storedZone => rfl
    case sameText =>
      intro other member' _
      rw [List.mem_singleton.mp member']
  have faithful (query : NewestFirst) :=
    always truncating [clearedEvent] [clearedEvent] List.prefix_rfl query 0
  have same := key_write_eq Recording.inv_empty Recording.apart_empty (by decide) plain faithful
  exact absurd same (by decide +kernel)

end KvIndexer.HttpApi
