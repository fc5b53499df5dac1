import KvIndexer.KvEvents.Listener
import Mathlib.Data.List.Forall2
import Mathlib.Data.List.GetD

/-!
Trailing fields that a publisher leaves out (`decodeEvent`,
`internal/kvevents/decode.go`).

A publisher drops the trailing fields of an event that have their default, down to
the number of fields its tag requires. `fieldAt` reads what is missing as nil, so
an event decodes alike with the fields left out and with nils in their place, and
a payload is applied alike (`omitted_null`).
-/

namespace KvIndexer.KvEvents

/-- The number of fields an event of this kind has at least. -/
def EventKind.minLength : EventKind → Nat
  | .blockStored => 5
  | .blockRemoved => 2
  | .allBlocksCleared => 1

/-- A missing field and a nil read the same. -/
theorem fieldAt_append_nil (fields : List Any) (k i : Nat) :
    fieldAt (fields ++ List.replicate k .nil) i = fieldAt fields i := by
  unfold fieldAt
  by_cases present : i < fields.length
  · rw [List.getD_append _ _ _ _ present]
  · have missing : fields.length ≤ i := Nat.le_of_not_lt present
    rw [List.getD_append_right _ _ _ _ missing, List.getD_eq_default _ _ missing]
    rcases Nat.lt_or_ge (i - fields.length) k with inside | beyond
    · rw [List.getD_replicate _ inside]
    · exact List.getD_eq_default _ _ (by rwa [List.length_replicate])

section Decode

variable {sprint : Any → String}

theorem decodeEvent_append_nil (kind : EventKind) {fields : List Any}
    (long : kind.minLength ≤ fields.length) (k : Nat) :
    decodeEvent sprint kind.tag (fields ++ List.replicate k .nil) =
      decodeEvent sprint kind.tag fields := by
  have length : (fields ++ List.replicate k Any.nil).length = fields.length + k := by
    rw [List.length_append, List.length_replicate]
  unfold decodeEvent
  simp only [fieldAt_append_nil, length]
  cases kind with
  | blockStored =>
      have enough : ¬ fields.length < 5 := Nat.not_lt.mpr long
      have enough' : ¬ fields.length + k < 5 := by omega
      rw [if_pos rfl, if_pos rfl, if_neg enough, if_neg enough']
  | blockRemoved =>
      have enough : ¬ fields.length < 2 := Nat.not_lt.mpr long
      have enough' : ¬ fields.length + k < 2 := by omega
      have other : EventKind.blockRemoved.tag ≠ EventKind.blockStored.tag := by decide
      rw [if_neg other, if_neg other, if_pos rfl, if_pos rfl, if_neg enough, if_neg enough']
  | allBlocksCleared => rfl

/-- `omitted` is the event array `full` without some of its trailing nils; what the tag
requires is there. -/
inductive OmitsNulls : Any → Any → Prop where
  | same (element : Any) : OmitsNulls element element
  | omitted (kind : EventKind) (fields : List Any) (k : Nat)
      (tagged : stringOf (fieldAt fields 0) = kind.tag) (long : kind.minLength ≤ fields.length) :
      OmitsNulls (.array (fields ++ List.replicate k .nil)) (.array fields)

theorem decodeRawEvent_omitsNulls {full omitted : Any} (omits : OmitsNulls full omitted) :
    decodeRawEvent sprint full = decodeRawEvent sprint omitted := by
  cases omits with
  | same element => rfl
  | omitted kind fields k tagged long =>
      cases fields with
      | nil => cases kind <;> exact absurd long (by decide)
      | cons tag rest =>
          have decoded := @decodeEvent_append_nil sprint kind (tag :: rest) long k
          rw [← tagged] at decoded
          exact decoded

/-- The events of the payload, each with or without its trailing nils. -/
structure OmitsEventNulls (full omitted : List Any) : Prop where
  timestamp : fieldAt full 0 = fieldAt omitted 0
  dpRank : fieldAt full 2 = fieldAt omitted 2
  length : full.length = omitted.length
  events : ∃ elements elements', fieldAt full 1 = .array elements ∧
    fieldAt omitted 1 = .array elements' ∧ List.Forall₂ OmitsNulls elements elements'

theorem decodeBatch_omitsNulls {full omitted : List Any} (omits : OmitsEventNulls full omitted)
    (seq : UInt64) : decodeBatch sprint seq full = decodeBatch sprint seq omitted := by
  obtain ⟨elements, elements', atFull, atOmitted, each⟩ := omits.events
  have events : elements.filterMap (decodeRawEvent sprint) =
      elements'.filterMap (decodeRawEvent sprint) := by
    clear atFull atOmitted
    induction each with
    | nil => rfl
    | cons omits _ ih => rw [List.filterMap_cons, List.filterMap_cons, ih,
        decodeRawEvent_omitsNulls omits]
  unfold decodeBatch
  rw [omits.length, omits.timestamp, omits.dpRank, atFull, atOmitted]
  dsimp only
  rw [events]

end Decode

/-- Nulls at the end of an event, and no fields there, decode alike, and the payload is
applied alike. -/
theorem omitted_null :
    (∀ (sprint : Any → String) (kind : EventKind) (fields : List Any) (k : Nat),
        kind.minLength ≤ fields.length →
        decodeEvent sprint kind.tag (fields ++ List.replicate k .nil) =
          decodeEvent sprint kind.tag fields) ∧
      ∀ (rt : Runtime) (full omitted : List UInt8) (fields fields' : List Any),
        rt.unmarshal full = .ok fields → rt.unmarshal omitted = .ok fields' →
        OmitsEventNulls fields fields' →
        ∀ (m : Moment) (s : State) (seq : UInt64),
          applyPayload rt m s seq full = applyPayload rt m s seq omitted := by
  refine ⟨fun sprint kind fields k long => decodeEvent_append_nil kind long k, ?_⟩
  intro rt full omitted fields fields' unpacked unpacked' omits m s seq
  unfold applyPayload
  rw [unpacked, unpacked']
  dsimp only
  rw [decodeBatch_omitsNulls omits]

end KvIndexer.KvEvents
