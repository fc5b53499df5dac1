import Mathlib.Data.List.Infix

/-!
Buffered channels whose sender does not wait.

A send to a full channel is dropped, as by `select { case ch <- x: default: }`. A channel is
kept with the history of its use: what was offered to it, what it refused and what was
received from it. `Consistent` says how the three fit together. What was accepted is a
sublist of what was offered, in order, and it is all of it exactly when nothing was refused
(`accepted_eq_offered_iff`).
-/

namespace KvIndexer

/-- A buffered channel, with its history. -/
structure Channel (α : Type) where
  buffer : List α := []
  received : List α := []
  offered : List α := []
  refused : List α := []
deriving DecidableEq, Repr

namespace Channel

variable {α : Type} (cap : Nat) (ch : Channel α)

/-- `select { case ch <- x: default: }` -/
def trySend (x : α) : Channel α :=
  if ch.buffer.length < cap then
    { ch with buffer := ch.buffer ++ [x], offered := ch.offered ++ [x] }
  else { ch with offered := ch.offered ++ [x], refused := ch.refused ++ [x] }

/-- `<-ch`, which waits while nothing is buffered. -/
def recv : Option (α × Channel α) :=
  match ch.buffer with
  | [] => none
  | x :: buffer => some (x, { ch with buffer, received := ch.received ++ [x] })

/-- What got into the channel. -/
def accepted : List α := ch.received ++ ch.buffer

structure Consistent : Prop where
  accepted : ch.accepted.Sublist ch.offered
  refused : ch.refused.Sublist ch.offered
  count : ch.accepted.length + ch.refused.length = ch.offered.length
  bounded : ch.buffer.length ≤ cap

variable {cap ch}

theorem consistent_new : Consistent cap ({} : Channel α) where
  accepted := List.Sublist.refl []
  refused := List.Sublist.refl []
  count := rfl
  bounded := Nat.zero_le cap

@[simp] theorem offered_trySend (x : α) : (ch.trySend cap x).offered = ch.offered ++ [x] := by
  unfold trySend
  split
  · rfl
  · rfl

theorem accepted_trySend (x : α) :
    (ch.trySend cap x).accepted =
      if ch.buffer.length < cap then ch.accepted ++ [x] else ch.accepted := by
  unfold trySend accepted
  split
  · exact (List.append_assoc _ _ _).symm
  · rfl

theorem refused_trySend (x : α) :
    (ch.trySend cap x).refused =
      if ch.buffer.length < cap then ch.refused else ch.refused ++ [x] := by
  unfold trySend
  split
  · rfl
  · rfl

theorem recv_eq_some {x : α} {next : Channel α} (taken : ch.recv = some (x, next)) :
    ch.buffer = x :: next.buffer ∧ next.received = ch.received ++ [x] ∧
      next.offered = ch.offered ∧ next.refused = ch.refused := by
  unfold recv at taken
  split at taken
  · cases taken
  · rename_i first
    cases taken
    exact ⟨first, rfl, rfl, rfl⟩

/-- Receiving accepts nothing and loses nothing. -/
theorem accepted_recv {x : α} {next : Channel α} (taken : ch.recv = some (x, next)) :
    next.accepted = ch.accepted := by
  obtain ⟨first, received, -, -⟩ := recv_eq_some taken
  rw [accepted, accepted, received, first, List.append_assoc]
  rfl

theorem Consistent.trySend (consistent : Consistent cap ch) (x : α) :
    Consistent cap (ch.trySend cap x) := by
  obtain ⟨accepted, refused, count, bounded⟩ := consistent
  by_cases room : ch.buffer.length < cap
  · refine ⟨?_, ?_, ?_, ?_⟩
    · rw [accepted_trySend, if_pos room, offered_trySend]
      exact accepted.append (List.Sublist.refl [x])
    · rw [refused_trySend, if_pos room, offered_trySend]
      exact refused.trans (List.sublist_append_left _ _)
    · rw [accepted_trySend, refused_trySend, if_pos room, if_pos room, offered_trySend,
        List.length_append, List.length_append]
      omega
    · rw [Channel.trySend, if_pos room, List.length_append]
      exact room
  · refine ⟨?_, ?_, ?_, ?_⟩
    · rw [accepted_trySend, if_neg room, offered_trySend]
      exact accepted.trans (List.sublist_append_left _ _)
    · rw [refused_trySend, if_neg room, offered_trySend]
      exact refused.append (List.Sublist.refl [x])
    · rw [accepted_trySend, refused_trySend, if_neg room, if_neg room, offered_trySend,
        List.length_append, List.length_append]
      omega
    · rw [Channel.trySend, if_neg room]
      exact bounded

theorem Consistent.recv (consistent : Consistent cap ch) {x : α} {next : Channel α}
    (taken : ch.recv = some (x, next)) : Consistent cap next := by
  obtain ⟨first, -, offered, refused⟩ := recv_eq_some taken
  have bounded := consistent.bounded
  rw [first, List.length_cons] at bounded
  refine ⟨?_, ?_, ?_, Nat.le_of_succ_le bounded⟩
  · rw [accepted_recv taken, offered]
    exact consistent.accepted
  · rw [refused, offered]
    exact consistent.refused
  · rw [accepted_recv taken, refused, offered]
    exact consistent.count

/-- Everything got in exactly when nothing was refused. -/
theorem Consistent.accepted_eq_offered_iff (consistent : Consistent cap ch) :
    ch.accepted = ch.offered ↔ ch.refused = [] := by
  have count := consistent.count
  constructor
  · intro all
    rw [all] at count
    exact List.length_eq_zero_iff.mp (by omega)
  · intro none
    rw [none, List.length_nil] at count
    exact consistent.accepted.eq_of_length count

end Channel

end KvIndexer
