import KvIndexer.Gateway.VirtualConfig

/-!
Two mutations of one virtual config at the same time (`internal/gateway/store.go`).

On MongoDB nothing checks that the document to be replaced is still the one that was read.
When both mutations read before either writes, the second write drops the first
(`not_serializable_of_overtaken`), unless the first only changed an entry that the second
removes. `serializable_iff` says so for every schedule.
-/

namespace KvIndexer.Gateway

open Config ReadModifyWrite

/-- The entry that the one mutation changes is removed by the other. -/
def VirtualMutation.UndoneBy (m m' : VirtualMutation) : Prop :=
  ∃ e, m.needs = some e ∧ m'.drops = some e

section Race

variable (ms : Bool → VirtualMutation) (nows : Bool → Moment) (db : VirtualConfigs)
  (schedule : List Bool)

def transactions (who : Bool) : Transaction VirtualConfigs (Option VirtualConfig) :=
  (ms who).transaction (nows who)

/-- The snapshot stored in the end is that of a run of the one mutation after the other,
for some orders of the ranges. -/
def Serializable : Prop :=
  ∃ (first : Bool) (orders : Bool → MapOrders),
    storedSnapshot (final (transactions ms nows) db schedule) (ms true).backendID =
      storedSnapshot
        (serial (transactions ms fun who => { nows who with orders := orders who }) db first)
        (ms true).backendID

end Race

section Cases

variable {ms : Bool → VirtualMutation} {nows : Bool → Moment} {db : VirtualConfigs}
  {schedule : List Bool}

theorem backendID_eq (same : (ms false).backendID = (ms true).backendID) (who : Bool) :
    (ms who).backendID = (ms true).backendID := by
  cases who with
  | true => rfl
  | false => exact same

/-- One mutation after the other. -/
theorem storedSnapshot_serial (same : (ms false).backendID = (ms true).backendID) (first : Bool) :
    let stored := storedSnapshot db (ms true).backendID
    let between := ((ms first).next (nows first) stored).or stored
    storedSnapshot (serial (transactions ms nows) db first) (ms true).backendID =
      ((ms !first).next (nows !first) between).or between := by
  have second := (ms !first).storedSnapshot_write (nows !first)
    ((transactions ms nows first).run db) ((transactions ms nows first).run db)
  have before := (ms first).storedSnapshot_write (nows first) db db
  rw [backendID_eq same] at second before
  dsimp only
  rw [← before]
  exact second

/-- Two mutations that overlap, the first to write first. -/
theorem storedSnapshot_overtaken (same : (ms false).backendID = (ms true).backendID) {first : Bool}
    (complete : Complete schedule) (overlap : overtaken schedule = some first) :
    let stored := storedSnapshot db (ms true).backendID
    storedSnapshot (final (transactions ms nows) db schedule) (ms true).backendID =
      ((ms !first).next (nows !first) stored).or
        (((ms first).next (nows first) stored).or stored) := by
  have second := (ms !first).storedSnapshot_write (nows !first) db
    ((transactions ms nows first).run db)
  have before := (ms first).storedSnapshot_write (nows first) db db
  rw [backendID_eq same] at second before
  dsimp only
  rw [final_eq_overtaken complete overlap, ← before]
  exact second

end Cases

/-! ### The one after the other -/

namespace VirtualMutation

variable {now : Moment} {m m' : VirtualMutation} {stored : Option Snapshot} {snap : Snapshot}

theorem exists_next (now : Moment) (applies : m.Applies stored) :
    ∃ snap, m.next now stored = some snap :=
  ⟨_, (next_of_applies applies).2⟩

/-- After the write of another mutation, a mutation applies as before unless the other
removed its entry. -/
theorem applies_next (applies : m.Applies stored) (written : m'.next now stored = some snap) :
    m.Applies (some snap) ↔ ¬ m.UndoneBy m' := by
  have listed : ∀ e, m.needs = some e → e.ListedIn (stored.getD {}) := by
    intro e needed
    rcases applies with ⟨c, rfl⟩ | ⟨_, rfl, listed⟩
    · cases needed
    · exact listed e needed
  constructor
  · rintro (⟨c, rfl⟩ | ⟨snap', here, still⟩) ⟨e, needed, dropped⟩
    · cases needed
    · obtain rfl := Option.some.inj here
      exact (listedIn_next written (listed e needed)).mp (still e needed) dropped
  · intro apart
    refine Or.inr ⟨snap, rfl, fun e needed => ?_⟩
    exact (listedIn_next written (listed e needed)).mpr fun dropped => apart ⟨e, needed, dropped⟩

/-- Two writes leave two audit entries more. -/
theorem length_audit_next (written : m.next now stored = some snap) :
    snap.audit.length = (stored.getD {}).audit.length + 1 := by
  obtain ⟨a, audit, -⟩ := audit_next written
  rw [audit, List.length_append, List.length_singleton]

/-- Mutations that leave the same snapshot did the same. -/
theorem audited_eq {now' : Moment} (written : m.next now stored = some snap)
    (written' : m'.next now' stored = some snap) : m.audited = m'.audited := by
  obtain ⟨a, audit, tells⟩ := audit_next written
  obtain ⟨a', audit', tells'⟩ := audit_next written'
  obtain rfl := List.singleton_inj.mp (List.append_cancel_left (audit.symm.trans audit'))
  rw [← tells, ← tells']

end VirtualMutation

open VirtualMutation

section Serializable

variable {ms : Bool → VirtualMutation} {nows : Bool → Moment} {db : VirtualConfigs}
  {schedule : List Bool}

/-- If the one mutation after the other ends with one audit entry more, it was undone. -/
theorem undoneBy_of_length {m m' : VirtualMutation} {now now' : Moment}
    {stored : Option Snapshot} {snap between : Snapshot} (applies : m.Applies stored)
    (first : m'.next now' stored = some between)
    (ends : (m.next now (some between)).or (some between) = some snap)
    (one : snap.audit.length = (stored.getD {}).audit.length + 1) : m.UndoneBy m' := by
  by_contra apart
  obtain ⟨both, second⟩ := exists_next now ((applies_next applies first).mpr apart)
  rw [second, Option.some_or] at ends
  obtain rfl := Option.some.inj ends
  have before := length_audit_next first
  have after := length_audit_next second
  simp only [Option.getD_some] at after
  omega

/-- An undone mutation that comes second writes nothing. -/
theorem next_of_undoneBy {m m' : VirtualMutation} {now now' : Moment} {stored : Option Snapshot}
    {between : Snapshot} (applies : m.Applies stored) (first : m'.next now' stored = some between)
    (undone : m.UndoneBy m') : m.next now (some between) = none :=
  next_of_not_applies fun still => (applies_next applies first).mp still undone

/-- Two overlapping mutations that both write are not serializable unless the last writer
removes what the first changed. -/
theorem not_serializable_of_overtaken (same : (ms false).backendID = (ms true).backendID)
    (complete : Complete schedule) {first : Bool} (overlap : overtaken schedule = some first)
    (applies : (ms first).Applies (storedSnapshot db (ms true).backendID))
    (applies' : (ms !first).Applies (storedSnapshot db (ms true).backendID))
    (apart : ¬ (ms first).UndoneBy (ms !first)) : ¬ Serializable ms nows db schedule := by
  rintro ⟨who, orders, equal⟩
  rw [storedSnapshot_overtaken same complete overlap, storedSnapshot_serial same] at equal
  obtain ⟨snap, alone⟩ := exists_next (nows !first) applies'
  have one := length_audit_next alone
  rw [alone, Option.some_or] at equal
  rcases eq_or_eq_not first who with rfl | rfl
  · -- the last writer comes second: it found its entry gone, so both removed the same
    obtain ⟨between, before⟩ := exists_next { nows who with orders := orders who } applies
    rw [before, Option.some_or] at equal
    have undone := undoneBy_of_length applies' before equal.symm one
    rw [next_of_undoneBy applies' before undone, Option.none_or] at equal
    obtain rfl := Option.some.inj equal
    obtain ⟨e, -, dropped⟩ := undone
    exact apart ⟨e, needs_of_drops dropped,
      drops_eq_of_audited dropped (audited_eq alone before)⟩
  · obtain ⟨between, before⟩ :=
      exists_next { nows (!first) with orders := orders !first } applies'
    rw [before, Option.some_or, Bool.not_not] at equal
    exact apart (undoneBy_of_length applies before equal.symm one)

/-- Any two mutations of one config are serializable under a schedule exactly when they do
not overlap, or one of them writes nothing, or the last writer removes what the first
changed. -/
theorem serializable_iff (same : (ms false).backendID = (ms true).backendID)
    (complete : Complete schedule) :
    Serializable ms nows db schedule ↔
      ∀ first, overtaken schedule = some first →
        (ms first).Applies (storedSnapshot db (ms true).backendID) →
        (ms !first).Applies (storedSnapshot db (ms true).backendID) →
        (ms first).UndoneBy (ms !first) := by
  constructor
  · intro serializable first overlap applies applies'
    by_contra apart
    exact not_serializable_of_overtaken same complete overlap applies applies' apart serializable
  · intro undone
    cases overlap : overtaken schedule with
    | none =>
        obtain ⟨first, whole⟩ := final_eq_serial complete overlap
        exact ⟨first, fun who => (nows who).orders, congrArg (storedSnapshot · _) whole⟩
    | some first =>
        have ends := @storedSnapshot_overtaken ms nows db schedule same first complete overlap
        by_cases applies : (ms first).Applies (storedSnapshot db (ms true).backendID)
        · by_cases applies' : (ms !first).Applies (storedSnapshot db (ms true).backendID)
          · refine ⟨!first, fun who => (nows who).orders, ?_⟩
            obtain ⟨snap, alone⟩ := exists_next (nows !first) applies'
            rw [ends, storedSnapshot_serial same]
            dsimp only
            rw [alone, Option.some_or, Bool.not_not, Option.some_or, next_of_undoneBy applies alone
              (undone first overlap applies applies'), Option.none_or]
          · refine ⟨!first, fun who => (nows who).orders, ?_⟩
            rw [ends, storedSnapshot_serial same]
            dsimp only
            rw [next_of_not_applies applies', Option.none_or, Option.none_or, Bool.not_not]
        · refine ⟨first, fun who => (nows who).orders, ?_⟩
          rw [ends, storedSnapshot_serial same]
          dsimp only
          rw [next_of_not_applies applies, Option.none_or]

end Serializable

/-! The config of the virtual connection `v` holds one rule. Both mutations find it before
either replaces it. -/

def oneRule : VirtualConfigs :=
  Finmap.singleton "v" { snapshot := { version := 1, policies := [{ ruleID := "a" }] } }

def bothFindFirst : List Bool := [false, true, false, true]

noncomputable def epoch (_ : Bool) : Moment := ⟨0, 0, default⟩

def removePatched : Bool → VirtualMutation
  | false => .patchVirtualPolicy "v" "a" { ruleID := "", priority := 1 }
  | true => .removeVirtualPolicy "v" "a"

def addBoth : Bool → VirtualMutation
  | false => .upsertVirtualPolicy "v" { ruleID := "b" }
  | true => .upsertVirtualModelProfile "v" { modelID := "m" }

/-- A rule patched and then removed is as good as removed. -/
theorem serializable_removePatched : Serializable removePatched epoch oneRule bothFindFirst := by
  refine (serializable_iff rfl (by decide)).mpr fun first overlap _ _ => ?_
  obtain rfl : false = first := Option.some.inj overlap
  exact ⟨.policy "a", rfl, rfl⟩

/-- Of a rule and a profile added to it, the rule is lost. -/
theorem not_serializable :
    ¬ ∀ ms nows db schedule, (ms false).backendID = (ms true).backendID → Complete schedule →
      Serializable ms nows db schedule := by
  intro always
  have applies : ∀ who, (addBoth who).Applies (storedSnapshot oneRule "v") := by
    intro who
    refine Or.inr ⟨_, rfl, fun e needed => ?_⟩
    cases who with
    | false => cases needed
    | true => cases needed
  have apart : ¬ (addBoth false).UndoneBy (addBoth true) := by
    rintro ⟨e, needed, -⟩
    cases needed
  have complete : Complete bothFindFirst := by decide
  have lost : ¬ Serializable addBoth epoch oneRule bothFindFirst :=
    not_serializable_of_overtaken rfl complete rfl (applies false) (applies true) apart
  exact lost (always addBoth epoch oneRule bothFindFirst rfl complete)

end KvIndexer.Gateway
