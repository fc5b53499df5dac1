/-!
Decoding of KV-cache event batches (`internal/kvevents/decode.go`).

The wire payload is a msgpack value that the codec has already unpacked into
`Any`; this module reads the positional arrays. Trailing fields may be absent and
read as nil, and a field of an unexpected type reads as its zero value. The only
errors are those of `decodeBatch` on the outermost array; an event that cannot be
read is dropped from the batch.
-/

namespace KvIndexer.KvEvents

/-- A msgpack value unpacked into Go's `any`. Integers keep the width they were
sent with. A float is kept as its bits, since nothing computes with it. -/
inductive Any where
  | nil
  | bool (b : Bool)
  | int8 (x : Int8)
  | int16 (x : Int16)
  | int32 (x : Int32)
  | int64 (x : Int64)
  | int (x : Int64)
  | uint8 (x : UInt8)
  | uint16 (x : UInt16)
  | uint32 (x : UInt32)
  | uint64 (x : UInt64)
  | float32 (bits : UInt32)
  | float64 (bits : UInt64)
  | string (s : String)
  | bytes (bs : List UInt8)
  | array (xs : List Any)
  | map (entries : List (String × Any))

/-- `v == nil` -/
def Any.isNil : Any → Bool
  | .nil => true
  | _ => false

inductive EventKind where
  | blockStored
  | blockRemoved
  | allBlocksCleared
deriving DecidableEq, Repr

/-- The tag of the event on the wire. -/
def EventKind.tag : EventKind → String
  | .blockStored => "BlockStored"
  | .blockRemoved => "BlockRemoved"
  | .allBlocksCleared => "AllBlocksCleared"

/-- The decoded, framework-neutral KV event. -/
structure Event where
  kind : EventKind
  blockHashes : List UInt64 := []
  parentHash : UInt64 := 0
  hasParent : Bool := false
  tokenIDs : List Int32 := []
  hasNestedTokenIDs : Bool := false
  blockSize : Int := 0
  medium : String := ""
  loraID : Int := 0
  hasLoraID : Bool := false
  loraName : String := ""
  extraKeys : List String := []
  extraKeyCount : Nat := 0
  groupIdx : Int := 0
  specKind : String := ""
  slidingWindow : Int := 0
  hasSlidingWindow : Bool := false
  hasExtraKeys : Bool := false
deriving DecidableEq, Repr

/-- A decoded batch with its sequence number and dp rank. `ts` is the bit pattern
of the float the publisher sent. -/
structure Batch where
  seq : UInt64
  ts : UInt64 := 0
  dpRank : Int := 0
  events : List Event := []
deriving DecidableEq, Repr

/-! ### Fields -/

/-- Coerce a number or a byte-slice hash; of a byte slice the last eight bytes
count, big-endian. -/
def toUint64 : Any → Option UInt64
  | .uint64 x => some x
  | .int64 x => some x.toUInt64
  | .int8 x => some x.toUInt8.toUInt64
  | .uint8 x => some x.toUInt64
  | .int16 x => some x.toUInt16.toUInt64
  | .uint16 x => some x.toUInt64
  | .int32 x => some x.toUInt32.toUInt64
  | .uint32 x => some x.toUInt64
  | .int x => some x.toUInt64
  | .bytes bs => some ((bs.drop (bs.length - 8)).foldl (fun out b => (out <<< 8) ||| b.toUInt64) 0)
  | _ => none

def toInt (v : Any) : Option Int := (toUint64 v).map fun u => u.toInt64.toInt

/-- The elements that coerce, and whether one of the others is an array. -/
def toInt32SliceInfo : Any → List Int32 × Bool
  | .array arr =>
      (arr.filterMap fun e => (toInt e).map Int32.ofInt,
        arr.any fun e => match toInt e, e with
          | some _, _ => false
          | none, .array _ => true
          | none, _ => false)
  | _ => ([], false)

def toUint64Slice : Any → List UInt64
  | .array arr => arr.filterMap toUint64
  | _ => []

def fieldAt (fields : List Any) (i : Nat) : Any := fields.getD i .nil

/-- `s, _ := v.(string)` -/
def stringOf : Any → String
  | .string s => s
  | _ => ""

/-- Some element of `extra_keys` is not nil. -/
def hasNonNilExtraKeys : Any → Bool
  | .array arr => arr.any fun e => !e.isNil
  | _ => false

/-- The first sixteen extra keys as `sprint` prints them, and the number of all. -/
def extraKeyStrings (sprint : Any → String) : Any → List String × Nat
  | .array arr =>
      let present := arr.filter fun e => !e.isNil
      ((present.take 16).map sprint, present.length)
  | _ => ([], 0)

/-! ### Events and batches -/

section Decode

-- `fmt.Sprint`, the default print format of a value
variable (sprint : Any → String)

/-- Decode one tag-prefixed event array; `none` drops the event. -/
def decodeEvent (kind : String) (fields : List Any) : Option Event :=
  if kind = EventKind.blockStored.tag then
    if fields.length < 5 then none
    else
      let parent := toUint64 (fieldAt fields 2)
      let tokens := toInt32SliceInfo (fieldAt fields 3)
      let lora := toInt (fieldAt fields 5)
      let extra := extraKeyStrings sprint (fieldAt fields 8)
      let window := toInt (fieldAt fields 11)
      some
        { kind := .blockStored
          blockHashes := toUint64Slice (fieldAt fields 1)
          parentHash := parent.getD 0
          hasParent := parent.isSome
          tokenIDs := tokens.1
          hasNestedTokenIDs := tokens.2
          blockSize := (toInt (fieldAt fields 4)).getD 0
          loraID := lora.getD 0
          hasLoraID := lora.isSome
          medium := stringOf (fieldAt fields 6)
          loraName := stringOf (fieldAt fields 7)
          hasExtraKeys := hasNonNilExtraKeys (fieldAt fields 8)
          extraKeys := extra.1
          extraKeyCount := extra.2
          groupIdx := (toInt (fieldAt fields 9)).getD 0
          specKind := stringOf (fieldAt fields 10)
          slidingWindow := window.getD 0
          hasSlidingWindow := window.isSome }
  else if kind = EventKind.blockRemoved.tag then
    if fields.length < 2 then none
    else
      some
        { kind := .blockRemoved
          blockHashes := toUint64Slice (fieldAt fields 1)
          medium := stringOf (fieldAt fields 2)
          groupIdx := (toInt (fieldAt fields 3)).getD 0 }
  else if kind = EventKind.allBlocksCleared.tag then some { kind := .allBlocksCleared }
  else none

/-- One element of the batch's event array: not an array, or an empty one, is
dropped; a tag that is not a string reads as the empty tag. -/
def decodeRawEvent : Any → Option Event
  | .array (tag :: rest) => decodeEvent sprint (stringOf tag) (tag :: rest)
  | _ => none

/-- Decode a payload `[ts, events, dp_rank?]`. -/
def decodeBatch (seq : UInt64) (payload : List Any) : Except String Batch :=
  if payload.length < 2 then .error s!"batch payload too short: {payload.length}"
  else
    match fieldAt payload 1 with
    | .array rawEvents =>
        .ok
          { seq
            ts := match fieldAt payload 0 with
              | .float64 bits => bits
              | _ => 0
            dpRank := (toInt (fieldAt payload 2)).getD 0
            events := rawEvents.filterMap (decodeRawEvent sprint) }
    | _ => .error "batch events not an array"

variable {sprint}

/-- What a stored event reads from the wire array, of the fields that decide where its
blocks go. -/
structure ReadsStored (fields : List Any) (ev : Event) : Prop where
  kind : ev.kind = .blockStored
  blockHashes : ev.blockHashes = toUint64Slice (fieldAt fields 1)
  hasParent : ev.hasParent = (toUint64 (fieldAt fields 2)).isSome
  parentHash : ev.parentHash = (toUint64 (fieldAt fields 2)).getD 0
  tokenIDs : ev.tokenIDs = (toInt32SliceInfo (fieldAt fields 3)).1
  hasLoraID : ev.hasLoraID = (toInt (fieldAt fields 5)).isSome
  loraName : ev.loraName = stringOf (fieldAt fields 7)
  hasExtraKeys : ev.hasExtraKeys = hasNonNilExtraKeys (fieldAt fields 8)

theorem readsStored_of_decodeEvent {fields : List Any} {ev : Event}
    (decoded : decodeEvent sprint EventKind.blockStored.tag fields = some ev) :
    ReadsStored fields ev := by
  rw [decodeEvent, if_pos rfl] at decoded
  split at decoded
  · cases decoded
  · cases decoded
    exact ⟨rfl, rfl, rfl, rfl, rfl, rfl, rfl, rfl⟩

/-- A decoded batch carries the sequence number of its frame. -/
theorem seq_of_decodeBatch {seq : UInt64} {payload : List Any} {b : Batch}
    (decoded : decodeBatch sprint seq payload = .ok b) : b.seq = seq := by
  unfold decodeBatch at decoded
  split at decoded
  · cases decoded
  · split at decoded
    · cases decoded
      rfl
    · cases decoded

/-- Whether a payload decodes does not depend on the sequence number, nor do the
events. -/
theorem decodeBatch_seq (seq : UInt64) (payload : List Any) :
    decodeBatch sprint seq payload =
      (decodeBatch sprint 0 payload).map fun b => { b with seq } := by
  unfold decodeBatch
  split
  · rfl
  · cases fieldAt payload 1 with
    | array rawEvents => rfl
    | _ => rfl

end Decode

end KvIndexer.KvEvents
