import Tlss.Library.BigEndian
import Tlss.Library.Run

/-!
# The byte queue of a connection

`Buffer` keeps its bytes between two indices of a vector. Room for more is made at the end of
the vector, or by moving the bytes to its front when what was retrieved has left enough room
there. `Holds` says which bytes stand between the indices, and every operation is described by
what it does to them.
-/

namespace Tlss.Net

open Library List

def kCheapPrepend : ℕ := 8

def kExtraBuffer : ℕ := 65536

/-- `std::vector::resize`. -/
def resize (storage : Bytes) (size : ℕ) : Bytes :=
  storage.take size ++ replicate (size - storage.length) 0

/-- `std::copy` and `memcpy` into a vector. -/
def overwrite (storage : Bytes) (offset : ℕ) (data : Bytes) : Bytes :=
  storage.take offset ++ data ++ storage.drop (offset + data.length)

/-- `aborted` is set by the checks of `has_written` and `retrieve_as_string`. -/
structure Buffer where
  storage : Bytes
  readerIdx : ℕ
  writerIdx : ℕ
  aborted : Bool

namespace Buffer

/-- The size of the vector is a `std::size_t`, which wraps around. -/
def new (initialSize : UInt64) : Buffer :=
  ⟨replicate ((kCheapPrepend + initialSize.toNat) % 2 ^ 64) 0, kCheapPrepend, kCheapPrepend, false⟩

variable (buf : Buffer)

def readableBytes : ℕ := buf.writerIdx - buf.readerIdx

def writeableBytes : ℕ := buf.storage.length - buf.writerIdx

def peek : Bytes := slice buf.storage buf.readerIdx buf.readableBytes

def retrieveAll : Buffer :=
  { buf with readerIdx := kCheapPrepend, writerIdx := kCheapPrepend }

def retrieve (len : ℕ) : Buffer :=
  if len < buf.readableBytes then { buf with readerIdx := buf.readerIdx + len }
  else buf.retrieveAll

def retrieveAsString (len : ℕ) : Bytes × Buffer :=
  if len > buf.readableBytes then ([], { buf with aborted := true })
  else (slice buf.storage buf.readerIdx len, buf.retrieve len)

def makeSpace (len : ℕ) : Buffer :=
  if buf.writeableBytes + buf.readerIdx < len + kCheapPrepend then
    { buf with storage := resize buf.storage (buf.writerIdx + len) }
  else
    { buf with
      storage := overwrite buf.storage kCheapPrepend buf.peek
      readerIdx := kCheapPrepend
      writerIdx := kCheapPrepend + buf.readableBytes }

def ensureWriteableBytes (len : ℕ) : Buffer :=
  if buf.writeableBytes < len then buf.makeSpace len else buf

def hasWritten (len : ℕ) : Buffer :=
  if len > buf.writeableBytes then { buf with aborted := true }
  else { buf with writerIdx := buf.writerIdx + len }

def append (data : Bytes) : Buffer :=
  let buf := buf.ensureWriteableBytes data.length
  hasWritten { buf with storage := overwrite buf.storage buf.writerIdx data } data.length

/-- How many bytes `readv` may read. -/
def offered : ℕ :=
  if buf.writeableBytes < kExtraBuffer then buf.writeableBytes + kExtraBuffer
  else buf.writeableBytes

/-- `read_fd`, given the bytes that `readv` has read, if it did not fail. -/
def readFd : Option Bytes → Buffer
  | none => buf
  | some data =>
    let tail := data.take buf.writeableBytes
    let buf' := { buf with storage := overwrite buf.storage buf.writerIdx tail }
    if data.length ≤ buf.writeableBytes then
      { buf' with writerIdx := buf.writerIdx + data.length }
    else
      append { buf' with writerIdx := buf.storage.length } (data.drop buf.writeableBytes)

/-- The bytes between the indices. -/
def Holds (content : Bytes) : Prop :=
  ∃ front tail, buf.storage = front ++ content ++ tail ∧ buf.readerIdx = front.length ∧
    buf.writerIdx = front.length + content.length ∧ kCheapPrepend ≤ front.length ∧
    buf.aborted = false

variable {buf} {content : Bytes}

lemma Holds.bounds (h : buf.Holds content) :
    kCheapPrepend ≤ buf.readerIdx ∧ buf.readerIdx ≤ buf.writerIdx ∧
      buf.writerIdx ≤ buf.storage.length ∧ buf.readableBytes = content.length := by
  obtain ⟨front, tail, hstorage, hreader, hwriter, hprepend, -⟩ := h
  simp only [readableBytes, hstorage, hreader, hwriter, length_append]
  omega

lemma Holds.peek (h : buf.Holds content) : buf.peek = content := by
  have hreadable := h.bounds.2.2.2
  obtain ⟨front, tail, hstorage, hreader, -⟩ := h
  rw [Buffer.peek, hreadable, hstorage, hreader, slice, append_assoc, drop_left, take_left]

lemma new_holds {initialSize : UInt64} (hsize : initialSize.toNat < 2 ^ 64 - kCheapPrepend) :
    (new initialSize).Holds [] := by
  refine ⟨replicate kCheapPrepend 0, replicate initialSize.toNat 0, ?_, ?_, ?_, ?_, rfl⟩
  · rw [append_nil, replicate_append_replicate, new, Nat.mod_eq_of_lt (by omega)]
  all_goals simp [new]

section

variable (h : buf.Holds content)
include h

lemma Holds.retrieveAll : buf.retrieveAll.Holds [] := by
  have hlength : (buf.storage.take kCheapPrepend).length = kCheapPrepend :=
    length_take_of_le (by have := h.bounds; omega)
  obtain ⟨-, -, -, -, -, -, haborted⟩ := h
  refine ⟨buf.storage.take kCheapPrepend, buf.storage.drop kCheapPrepend, ?_, hlength.symm,
    hlength.symm, hlength.ge, haborted⟩
  rw [append_nil, take_append_drop]
  rfl

lemma Holds.retrieve (len : ℕ) : (buf.retrieve len).Holds (content.drop len) := by
  have hreadable := h.bounds.2.2.2
  unfold Buffer.retrieve
  split_ifs with hlen
  · obtain ⟨front, tail, hstorage, hreader, hwriter, hprepend, haborted⟩ := h
    have htake : (content.take len).length = len := length_take_of_le (by omega)
    refine ⟨front ++ content.take len, tail, ?_, ?_, ?_, ?_, haborted⟩
    · rw [append_assoc front, take_append_drop, hstorage]
    · rw [length_append, htake, hreader]
    · rw [hwriter, length_append, htake, length_drop]
      omega
    · rw [length_append]
      omega
  · rw [drop_eq_nil_of_le (by omega)]
    exact h.retrieveAll

lemma Holds.makeSpace {len : ℕ} (hlen : buf.writeableBytes < len) :
    (buf.makeSpace len).Holds content ∧ len ≤ (buf.makeSpace len).writeableBytes := by
  have hpeek := h.peek
  obtain ⟨hreader', hwriter', hsize, hreadable⟩ := h.bounds
  obtain ⟨front, tail, hstorage, hreader, hwriter, hprepend, haborted⟩ := h
  rw [writeableBytes] at hlen
  unfold Buffer.makeSpace
  split_ifs with hgrow <;> rw [writeableBytes] at hgrow ⊢
  · rw [resize, take_of_length_le (by omega)]
    refine ⟨⟨front, tail ++ replicate (buf.writerIdx + len - buf.storage.length) 0, ?_,
      hreader, hwriter, hprepend, haborted⟩, ?_⟩
    · rw [← append_assoc, ← hstorage]
    · simp only [length_append, length_replicate]
      omega
  · have hlength : (buf.storage.take kCheapPrepend).length = kCheapPrepend :=
      length_take_of_le (by omega)
    rw [overwrite, hpeek, hreadable]
    refine ⟨⟨_, _, rfl, hlength.symm, ?_, hlength.ge, haborted⟩, ?_⟩
    · rw [hlength]
    · simp only [length_append, hlength, length_drop]
      omega

lemma Holds.ensureWriteableBytes (len : ℕ) : (buf.ensureWriteableBytes len).Holds content ∧
    len ≤ (buf.ensureWriteableBytes len).writeableBytes := by
  unfold Buffer.ensureWriteableBytes
  split_ifs with hlen
  · exact h.makeSpace hlen
  · exact ⟨h, by omega⟩

/-- Bytes are written behind those that are held, in the room that is there. -/
lemma Holds.overwrite {d : Bytes} (hroom : d.length ≤ buf.writeableBytes) :
    (overwrite buf.storage buf.writerIdx d).length = buf.storage.length ∧ Holds { buf with
        storage := overwrite buf.storage buf.writerIdx d
        writerIdx := buf.writerIdx + d.length } (content ++ d) := by
  obtain ⟨-, -, hsize, -⟩ := h.bounds
  obtain ⟨front, tail, hstorage, hreader, hwriter, hprepend, haborted⟩ := h
  have hwritten : Net.overwrite buf.storage buf.writerIdx d =
      front ++ (content ++ d) ++ tail.drop d.length := by
    rw [Net.overwrite, ← drop_drop, hwriter, ← length_append, hstorage, take_left, drop_left]
    simp only [append_assoc]
  rw [hwritten]
  refine ⟨?_, front, _, rfl, hreader, ?_, hprepend, haborted⟩
  · rw [writeableBytes, hwriter, hstorage] at hroom
    simp only [hstorage, length_append, length_drop] at hroom ⊢
    omega
  · rw [hwriter, length_append, add_assoc]

lemma Holds.append (d : Bytes) : (buf.append d).Holds (content ++ d) := by
  obtain ⟨hensured, hroom⟩ := h.ensureWriteableBytes d.length
  obtain ⟨hlength, hwritten⟩ := hensured.overwrite hroom
  unfold Buffer.append hasWritten
  dsimp only
  rw [if_neg]
  · exact hwritten
  · rw [writeableBytes, hlength]
    exact not_lt.mpr hroom

lemma Holds.readFd (d : Bytes) : (buf.readFd (some d)).Holds (content ++ d) := by
  unfold Buffer.readFd
  dsimp only
  split_ifs with hroom
  · rw [take_of_length_le hroom]
    exact (h.overwrite hroom).2
  · have htake : (d.take buf.writeableBytes).length = buf.writeableBytes :=
      length_take_of_le (by omega)
    have hfull := (h.overwrite htake.le).2
    -- The vector is full, and the rest is appended from the second buffer.
    rw [htake, writeableBytes, Nat.add_sub_cancel' h.bounds.2.2.1] at hfull
    have happended := hfull.append (d.drop buf.writeableBytes)
    rw [append_assoc, writeableBytes, take_append_drop] at happended
    exact happended

end

/-! ## Traffic -/

inductive Operation
  | append (data : Bytes)
  | retrieve (len : ℕ)
  | retrieveAll
  | retrieveAsString (len : ℕ)
  | readFd (received : Option Bytes)

/-- A buffer with the bytes that were put into it and those that were taken from it. -/
structure Traffic where
  buf : Buffer
  entered : Bytes := []
  left : Bytes := []

/-- A string is taken of at most the readable length, and `readv` reads at most what it was
offered. -/
def Traffic.step (traffic : Traffic) : Operation → Traffic
  | .append data =>
    { traffic with buf := traffic.buf.append data, entered := traffic.entered ++ data }
  | .retrieve len =>
    { traffic with
      buf := traffic.buf.retrieve len
      left := traffic.left ++ traffic.buf.peek.take len }
  | .retrieveAll =>
    { traffic with
      buf := traffic.buf.retrieveAll
      left := traffic.left ++ traffic.buf.peek }
  | .retrieveAsString len =>
    let (string, buf) :=
      traffic.buf.retrieveAsString (min len traffic.buf.readableBytes)
    { traffic with buf, left := traffic.left ++ string }
  | .readFd received =>
    let received := received.map (·.take traffic.buf.offered)
    { traffic with
      buf := traffic.buf.readFd received
      entered := traffic.entered ++ received.getD [] }

/-- The buffer holds what has entered and not left. -/
def Traffic.Queued (traffic : Traffic) : Prop :=
  ∃ content, traffic.buf.Holds content ∧ traffic.entered = traffic.left ++ content

lemma Traffic.Queued.step {t : Traffic} (hqueued : t.Queued) (op : Operation) :
    (t.step op).Queued := by
  obtain ⟨content, hholds, hentered⟩ := hqueued
  cases op with
  | append d => exact ⟨_, hholds.append d, by simp [Traffic.step, hentered]⟩
  | retrieve len =>
    refine ⟨_, hholds.retrieve len, ?_⟩
    simp [Traffic.step, hholds.peek, hentered]
  | retrieveAll => exact ⟨_, hholds.retrieveAll, by simp [Traffic.step, hholds.peek, hentered]⟩
  | retrieveAsString len =>
    have hlen : min len t.buf.readableBytes ≤ t.buf.readableBytes :=
      min_le_right ..
    have hstring : slice t.buf.storage t.buf.readerIdx
        (min len t.buf.readableBytes) = content.take (min len t.buf.readableBytes) := by
      rw [← hholds.peek, Buffer.peek, slice, slice, take_take, min_eq_left hlen]
    simp only [Traffic.step, retrieveAsString, if_neg (not_lt.mpr hlen)]
    refine ⟨_, hholds.retrieve _, ?_⟩
    simp [hstring, hentered]
  | readFd received =>
    cases received with
    | none => exact ⟨content, hholds, by simp [Traffic.step, hentered]⟩
    | some d => exact ⟨_, hholds.readFd _, by simp [Traffic.step, hentered]⟩

/-- A buffer is a queue of bytes, whatever is done with it; its indices stay in order and inside
the vector, no check of it aborts, and a read that fails changes nothing. The initial size must
leave room for the bytes in front. -/
theorem buffer_is_fifo (initialSize : UInt64)
    (hsize : initialSize.toNat < 2 ^ 64 - kCheapPrepend) (operations : List Operation) :
    let traffic := run Traffic.step { buf := new initialSize } operations
    (kCheapPrepend ≤ traffic.buf.readerIdx ∧ traffic.buf.readerIdx ≤ traffic.buf.writerIdx ∧
        traffic.buf.writerIdx ≤ traffic.buf.storage.length) ∧
      traffic.entered = traffic.left ++ traffic.buf.peek ∧ traffic.buf.aborted = false ∧
      traffic.step (.readFd none) = traffic := by
  intro traffic
  have hqueued : traffic.Queued :=
    run_invariant (fun _ op hqueued => hqueued.step op) ⟨[], new_holds hsize, rfl⟩ operations
  obtain ⟨content, hholds, hentered⟩ := hqueued
  obtain ⟨hprepend, hreader, hwriter, -⟩ := hholds.bounds
  refine ⟨⟨hprepend, hreader, hwriter⟩, by rw [hholds.peek, hentered], ?_, ?_⟩
  · obtain ⟨-, -, -, -, -, -, haborted⟩ := hholds
    exact haborted
  · simp [Traffic.step, Buffer.readFd]

theorem buffer_is_fifo_small :
    let traffic := run Traffic.step { buf := new 4 } [.append [1, 2, 3, 4, 5], .retrieve 2]
    (4 : UInt64).toNat < 2 ^ 64 - kCheapPrepend ∧
      traffic.entered = traffic.left ++ traffic.buf.peek :=
  ⟨by decide, (buffer_is_fifo 4 (by decide) _).2.1⟩

/-- The sum of the sizes wraps around to an empty vector, with both indices behind its end. -/
theorem new_wraps :
    (new (.ofNat (2 ^ 64 - 8))).storage.length < (new (.ofNat (2 ^ 64 - 8))).writerIdx := by
  decide

end Buffer

end Tlss.Net
