/-!
# Byte bodies

A `ByteBody` collects the byte payloads of consecutive writes. Every non-empty payload is one chunk,
in the order of arrival, and the byte count is kept beside the chunks. `toBytes` is the content;
two bodies are equal (`==`) when their contents are, however they were split.
-/

namespace DeferredResponse

/-- A byte payload. -/
abbrev Bytes := List UInt8

def utf8 (text : String) : Bytes := text.toByteArray.data.toList

@[simp] theorem utf8_empty : utf8 "" = [] := rfl

@[simp] theorem utf8_append (s t : String) : utf8 (s ++ t) = utf8 s ++ utf8 t := by
  simp [utf8]

theorem utf8_eq_flatMap (text : String) :
    utf8 text = text.toList.flatMap String.utf8EncodeChar := by
  unfold utf8
  rw [← String.utf8Encode_toList]
  exact List.toList_data_toByteArray

/-- Chunks of bytes, with their total size. -/
structure ByteBody where
  chunks : List Bytes := []
  size : Nat := 0
  deriving Repr

namespace ByteBody

def empty : ByteBody := {}

/-- Appends a chunk; an empty one leaves the body as it is. -/
def push (body : ByteBody) (chunk : Bytes) : ByteBody :=
  if chunk.isEmpty then body
  else { chunks := body.chunks ++ [chunk], size := body.size + chunk.length }

/-- The body that holds one chunk, or none if the chunk is empty. -/
def ofBytes (chunk : Bytes) : ByteBody := empty.push chunk

/-- All bytes, in order. -/
def toBytes (body : ByteBody) : Bytes := body.chunks.flatten

def isEmpty (body : ByteBody) : Bool := body.size == 0

def chunkCount (body : ByteBody) : Nat := body.chunks.length

/-- Whether the content lies in at most one chunk. -/
def isContiguous (body : ByteBody) : Bool := body.chunkCount ≤ 1

/-- Bodies are equal when they have the same size and the same content. -/
instance : BEq ByteBody where
  beq a b := a.size == b.size && a.toBytes == b.toBytes

theorem beq_iff {a b : ByteBody} : a == b ↔ a.size = b.size ∧ a.toBytes = b.toBytes := by
  change (a.size == b.size && a.toBytes == b.toBytes) = true ↔ _
  simp

/-- The cached size is right and no chunk is empty. -/
def WellFormed (body : ByteBody) : Prop :=
  body.size = body.toBytes.length ∧ ∀ chunk ∈ body.chunks, chunk ≠ []

@[simp] theorem toBytes_empty : empty.toBytes = [] := rfl

theorem WellFormed.empty : empty.WellFormed := ⟨rfl, by simp [ByteBody.empty]⟩

@[simp] theorem toBytes_push (body : ByteBody) (chunk : Bytes) :
    (body.push chunk).toBytes = body.toBytes ++ chunk := by
  cases chunk <;> simp [push, toBytes]

theorem WellFormed.push {body : ByteBody} (h : body.WellFormed) (chunk : Bytes) :
    (body.push chunk).WellFormed := by
  obtain ⟨hsize, hchunks⟩ := h
  cases chunk with
  | nil => exact ⟨hsize, hchunks⟩
  | cons b rest =>
    refine ⟨by simp [ByteBody.push, toBytes] at hsize ⊢; omega, ?_⟩
    intro c hc
    have hc : c ∈ body.chunks ∨ c = b :: rest := by simpa [ByteBody.push] using hc
    rcases hc with h | rfl
    · exact hchunks c h
    · simp

theorem WellFormed.ofBytes (chunk : Bytes) : (ofBytes chunk).WellFormed :=
  WellFormed.empty.push chunk

/-- The size of a well-formed body follows from its content, so the content alone decides. -/
theorem WellFormed.beq_iff {a b : ByteBody} (ha : a.WellFormed) (hb : b.WellFormed) :
    a == b ↔ a.toBytes = b.toBytes := by
  rw [ByteBody.beq_iff, ha.1, hb.1]
  exact ⟨And.right, fun h => ⟨congrArg List.length h, h⟩⟩

@[simp] theorem toBytes_ofBytes (chunk : Bytes) : (ofBytes chunk).toBytes = chunk := by
  simp [ofBytes]

end ByteBody

end DeferredResponse
