import KvIndexer.Lib.Run

/-!
Processes that keep their state in memory and save it to a disk.

An operation changes the state in memory; if it did, the state is saved. A save may be
refused or break off, and the process may stop at any time and start again from what it
reads. The law of a sound machine is that a save is all or nothing: after it the disk holds
the new state, or what it held before. Then after every run the disk holds the state of
the last save that was taken (`Sound.run`), which is what a restart finds
(`Sound.load_run`); and as long as no save is refused, a restart loses nothing
(`Sound.run_current`).
-/

namespace KvIndexer.Durable

/-- How a process changes its state, saves it and loads it. Whether a save breaks off is up
to the `Fault`, what a load depends on besides the disk is its `Scan`. -/
structure Machine (σ ι Disk Fault Scan : Type) where
  /-- what a process has that loads nothing -/
  initial : σ
  /-- the state after an operation, and whether it is to be saved -/
  step : σ → ι → σ × Bool
  /-- the disk after a save, and whether it took the state -/
  save : Fault → ι → σ → Disk → Disk × Bool
  load : Scan → Disk → Option σ

inductive Event (ι Fault Scan : Type)
  | act (op : ι) (fault : Fault)
  /-- stop, and start again; without a scan the load fails -/
  | restart (scan : Option Scan)

/-- The state in memory, the disk, and the state last taken by it. -/
structure Running (σ Disk : Type) where
  live : σ
  disk : Disk
  committed : σ

variable {σ ι Disk Fault Scan : Type}

namespace Machine

variable (m : Machine σ ι Disk Fault Scan)

def happen (r : Running σ Disk) : Event ι Fault Scan → Running σ Disk
  | .act op fault =>
      let (live, changed) := m.step r.live op
      if changed then
        let (disk, taken) := m.save fault op live r.disk
        { live, disk, committed := if taken then live else r.committed }
      else { r with live }
  | .restart scan => { r with live := (scan.bind fun scan => m.load scan r.disk).getD m.initial }

/-- An operation that is saved. -/
theorem happen_act {m : Machine σ ι Disk Fault Scan} {r : Running σ Disk} {op : ι} {fault : Fault}
    {live : σ} {disk : Disk} {taken : Bool} (step : m.step r.live op = (live, true))
    (saved : m.save fault op live r.disk = (disk, taken)) :
    m.happen r (.act op fault) = ⟨live, disk, if taken then live else r.committed⟩ := by
  simp only [happen, step, saved, if_true]

/-- The save of this event is taken, its load succeeds. -/
def Unhindered (r : Running σ Disk) : Event ι Fault Scan → Prop
  | .act op fault =>
      (m.step r.live op).2 = true → (m.save fault op (m.step r.live op).1 r.disk).2 = true
  | .restart scan => scan.isSome

/-- A save is all or nothing. `Holds disk s` says that the disk holds `s`, which reads back as
`image s`; `Valid` is what a save relies on, and every operation allowed keeps. -/
structure Sound (Valid : σ → Prop) (Allowed : ι → Prop) (Holds : Disk → σ → Prop) (image : σ → σ) :
    Prop where
  initial : Valid m.initial
  step : ∀ {s op}, Valid s → Allowed op → Valid (m.step s op).1
  unchanged : ∀ {s op}, (m.step s op).2 = false → (m.step s op).1 = s
  taken : ∀ {fault op s disk}, Valid s → (m.save fault op s disk).2 = true →
    Holds (m.save fault op s disk).1 s
  refused : ∀ {fault op s disk held}, Holds disk held → (m.save fault op s disk).2 = false →
    Holds (m.save fault op s disk).1 held
  load : ∀ {scan disk s}, Holds disk s → m.load scan disk = some (image s)
  image_valid : ∀ {s}, Valid s → Valid (image s)
  image_image : ∀ {s}, Valid s → image (image s) = image s

end Machine

/-- The events whose operation is allowed. -/
def Event.Allowed (Allowed : ι → Prop) : Event ι Fault Scan → Prop
  | .act op _ => Allowed op
  | .restart _ => True

/-- What holds along a run. -/
structure Kept (Valid : σ → Prop) (Holds : Disk → σ → Prop) (r : Running σ Disk) : Prop where
  live : Valid r.live
  committed : Valid r.committed
  holds : Holds r.disk r.committed

section Sound

variable {m : Machine σ ι Disk Fault Scan} {Valid : σ → Prop} {Allowed : ι → Prop}
  {Holds : Disk → σ → Prop} {image : σ → σ} (sound : m.Sound Valid Allowed Holds image)
  {r : Running σ Disk}

include sound

/-- An event leaves memory and disk as they were, but for what it changes. -/
theorem Sound.happen (kept : Kept Valid Holds r) {event : Event ι Fault Scan}
    (allowed : event.Allowed Allowed) : Kept Valid Holds (m.happen r event) := by
  cases event with
  | restart scan =>
      refine { kept with live := ?_ }
      cases scan with
      | none => exact sound.initial
      | some scan =>
          show Valid ((m.load scan r.disk).getD m.initial)
          rw [sound.load kept.holds]
          exact sound.image_valid kept.committed
  | act op fault =>
      have valid : Valid (m.step r.live op).1 := sound.step kept.live allowed
      rw [Machine.happen]
      cases changed : (m.step r.live op).2 with
      | false =>
          simp only [changed, Bool.false_eq_true, if_false]
          exact { kept with live := valid }
      | true =>
          simp only [changed, if_true]
          cases taken : (m.save fault op (m.step r.live op).1 r.disk).2 with
          | true =>
              simp only [if_true]
              exact ⟨valid, valid, sound.taken valid taken⟩
          | false =>
              simp only [Bool.false_eq_true, if_false]
              exact ⟨valid, kept.committed, sound.refused kept.holds taken⟩

theorem Sound.run (start : Kept Valid Holds r) {events : List (Event ι Fault Scan)}
    (allowed : ∀ event ∈ events, event.Allowed Allowed) :
    Kept Valid Holds (Run.run m.happen r events) := by
  have each : Run.EachStep m.happen (fun _ event => event.Allowed Allowed) r events :=
    Run.eachStep_forall.mpr allowed
  have step : ∀ r event, event.Allowed Allowed → Kept Valid Holds r →
      Kept Valid Holds (m.happen r event) :=
    fun _ _ allowed kept => Sound.happen sound kept allowed
  exact Run.run_invariant step start each

/-- After every run a restart finds the state of the last save that was taken. -/
theorem Sound.load_run (start : Kept Valid Holds r) {events : List (Event ι Fault Scan)}
    (allowed : ∀ event ∈ events, event.Allowed Allowed) (scan : Scan) :
    m.load scan (Run.run m.happen r events).disk =
      some (image (Run.run m.happen r events).committed) :=
  sound.load (Sound.run sound start allowed).holds

/-- An event that goes unhindered leaves memory and disk in agreement. -/
theorem Sound.happen_current (kept : Kept Valid Holds r)
    (current : image r.live = image r.committed) {event : Event ι Fault Scan}
    (unhindered : m.Unhindered r event) :
    image (m.happen r event).live = image (m.happen r event).committed := by
  cases event with
  | restart scan =>
      obtain ⟨scan, rfl⟩ := Option.isSome_iff_exists.mp unhindered
      show image ((m.load scan r.disk).getD m.initial) = image r.committed
      rw [sound.load kept.holds]
      exact sound.image_image kept.committed
  | act op fault =>
      rw [Machine.happen]
      cases changed : (m.step r.live op).2 with
      | false =>
          simp only [changed, Bool.false_eq_true, if_false]
          rw [sound.unchanged changed, current]
      | true =>
          simp only [changed, if_true, unhindered changed]

/-- As long as every save is taken and every load succeeds, a restart would lose nothing. The
condition `C` is what it takes for that. -/
theorem Sound.run_current {C : Running σ Disk → Event ι Fault Scan → Prop}
    (enough : ∀ r event, Kept Valid Holds r → event.Allowed Allowed → C r event →
      m.Unhindered r event)
    (start : Kept Valid Holds r) (current : image r.live = image r.committed)
    {events : List (Event ι Fault Scan)} (allowed : ∀ event ∈ events, event.Allowed Allowed)
    (each : Run.EachStep m.happen C r events) :
    image (Run.run m.happen r events).live = image (Run.run m.happen r events).committed := by
  induction events generalizing r with
  | nil => exact current
  | cons event events ih =>
      obtain ⟨now, later⟩ := each
      obtain ⟨first, rest⟩ := List.forall_mem_cons.mp allowed
      have unhindered := enough r event start first now
      exact ih (Sound.happen sound start first)
        (Sound.happen_current sound start current unhindered) rest later

end Sound

end KvIndexer.Durable
