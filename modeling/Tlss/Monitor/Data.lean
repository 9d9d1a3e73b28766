import Tlss.Library.BigEndian

/-!
# Monitor records

The data of `monitor_data.h`: keys, values, stored records and the outcome of a
write. A `std::string` is the list of its bytes. A `MonitorTimestamp` is a
`system_clock::time_point`, whose duration is pinned to signed 64-bit
nanoseconds by a `static_assert` of `monitor_wire.cpp`; the range is carried by
the type.
-/

namespace Tlss.Monitor

open Library (Bytes)

structure MonitorKey where
  mid : UInt32
  level : UInt32
  fid : UInt32
  eid : UInt32
deriving DecidableEq, Repr, Inhabited

/-- `MonData::NumericValue`: a value and its state (0 off, 1 stale, 2 fresh). -/
structure NumericValue where
  value : UInt32
  state : UInt32
deriving DecidableEq, Repr, Inhabited

/-- `MonData::MonitorValue`, a variant of a number and a string. -/
inductive MonitorValue where
  | numeric (number : NumericValue)
  | string (text : Bytes)
deriving DecidableEq, Repr, Inhabited

/-- What the store compares of a value: the number without its state, or the
whole string. -/
inductive ValueContent where
  | number (value : UInt32)
  | text (bytes : Bytes)
deriving DecidableEq, Repr

/-- The part of a value that counts as "the value": `state` takes no part in it. -/
def MonitorValue.content : MonitorValue → ValueContent
  | .numeric number => .number number.value
  | .string text => .text text

/-- `MonData::MonitorTimestamp`: nanoseconds since the epoch, as an `int64_t`. -/
structure MonitorTimestamp where
  count : ℤ
  lower : -2 ^ 63 ≤ count
  upper : count < 2 ^ 63
deriving DecidableEq, Repr

instance : Inhabited MonitorTimestamp := ⟨⟨0, by decide, by decide⟩⟩

structure MonitorData where
  key : MonitorKey
  description : Bytes
  value : MonitorValue
deriving DecidableEq, Repr, Inhabited

structure StoredRecord where
  data : MonitorData
  changedAt : MonitorTimestamp
deriving DecidableEq, Repr, Inhabited

inductive UpdateStatus where
  | inserted
  | updated
  | unchanged
  | ignoredInitialZero
  | invalid
  | durabilityFailed
deriving DecidableEq, Repr

structure UpdateResult where
  status : UpdateStatus
  record : Option StoredRecord
deriving DecidableEq, Repr

def UpdateResult.changed (result : UpdateResult) : Bool :=
  result.status == .inserted || result.status == .updated

lemma MonitorTimestamp.ext_count {left right : MonitorTimestamp}
    (hcount : left.count = right.count) : left = right := by
  cases left
  cases right
  simpa using hcount

end Tlss.Monitor
