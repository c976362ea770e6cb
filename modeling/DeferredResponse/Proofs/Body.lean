import DeferredResponse.Body

/-!
# Bodies that come about by pushes

Chunks are pushed onto a body one after another, empty ones among them. It makes no difference
whether a chunk was handed over or copied from a slice: a chunk is its content.

1. A push stores the chunk behind the others unless it is empty, so the stored chunks are those that
   are not empty, in the order in which they came (`chunks_foldl_push`). Their content is that of
   all chunks (`toBytes_foldl_push`), and the size that is kept beside them is its length
   (`size_foldl_push`).
2. Bytes are handed out in one of three ways, by the number of chunks; all of them give the content
   (`handOut_eq_toBytes`).
3. What pushes lead to is a well-formed body, and every well-formed body comes about in this way
   (`wellFormed_iff_exists_ofChunks`). Of such bodies the content alone decides whether they are
   equal.

`pushes_determine_body` puts this together.
-/

namespace DeferredResponse.ByteBody

/-- The body to which chunks lead that are pushed one after another. -/
def ofChunks (chunks : List Bytes) : ByteBody := chunks.foldl push empty

/-! ## Stored chunks -/

theorem chunks_push (body : ByteBody) (chunk : Bytes) :
    (body.push chunk).chunks = body.chunks ++ [chunk].filter (· ≠ []) := by
  cases chunk with
  | nil => exact (List.append_nil _).symm
  | cons b rest => rfl

/-- Every chunk that is not empty is stored as it is pushed. -/
theorem chunks_foldl_push (body : ByteBody) (chunks : List Bytes) :
    (chunks.foldl push body).chunks = body.chunks ++ chunks.filter (· ≠ []) := by
  induction chunks generalizing body with
  | nil => exact (List.append_nil _).symm
  | cons chunk rest ih =>
    rw [List.foldl_cons, ih, chunks_push, List.append_assoc, ← List.filter_append,
      List.singleton_append]

theorem toBytes_foldl_push (body : ByteBody) (chunks : List Bytes) :
    (chunks.foldl push body).toBytes = body.toBytes ++ chunks.flatten := by
  unfold toBytes
  rw [chunks_foldl_push, List.flatten_append, List.flatten_filter_ne_nil]

theorem chunkCount_foldl_push (body : ByteBody) (chunks : List Bytes) :
    (chunks.foldl push body).chunkCount = body.chunkCount + chunks.countP (· ≠ []) := by
  unfold chunkCount
  rw [chunks_foldl_push, List.length_append, List.countP_eq_length_filter]

example : (([[1], [], [2, 3]] : List Bytes).foldl push empty).chunkCount = 2 := by decide

/-! ## The size -/

theorem size_push (body : ByteBody) (chunk : Bytes) :
    (body.push chunk).size = body.size + chunk.length := by
  cases chunk <;> rfl

theorem size_foldl_push (body : ByteBody) (chunks : List Bytes) :
    (chunks.foldl push body).size = body.size + chunks.flatten.length := by
  induction chunks generalizing body with
  | nil => rfl
  | cons chunk rest ih =>
    rw [List.foldl_cons, ih, size_push, List.flatten_cons, List.length_append, Nat.add_assoc]

/-! ## Handing out -/

/-- The bytes of a body as a replay hands them out: nothing, the only chunk as it is, or all chunks
copied one after another into one piece. -/
def handOut (body : ByteBody) : Bytes :=
  match body.chunks with
  | [] => []
  | [chunk] => chunk
  | chunks => chunks.foldl (fun copied chunk => copied ++ chunk) []

/-- Whichever way the chunks make it take, what is handed out is the content. -/
theorem handOut_eq_toBytes (body : ByteBody) : body.handOut = body.toBytes := by
  obtain ⟨chunks, size⟩ := body
  cases chunks with
  | nil => rfl
  | cons first rest =>
    cases rest with
    | nil => exact (List.append_nil first).symm
    | cons second rest =>
      have hcopied : (first :: second :: rest).foldl (fun copied chunk => copied ++ id chunk) [] =
          _ := List.foldl_append_eq_append
      rw [List.map_id, List.nil_append] at hcopied
      exact hcopied

/-- The only chunk of a body in one piece is handed out as it is. -/
theorem handOut_of_isContiguous {body : ByteBody} (h : body.isContiguous = true) :
    (body.chunks = [] ∧ body.handOut = []) ∨
      ∃ chunk, body.chunks = [chunk] ∧ body.handOut = chunk := by
  obtain ⟨chunks, size⟩ := body
  match chunks with
  | [] => exact .inl ⟨rfl, rfl⟩
  | [chunk] => exact .inr ⟨chunk, rfl, rfl⟩
  | first :: second :: rest => simp [isContiguous, chunkCount] at h

/-! ## Equality -/

instance : ReflBEq ByteBody where
  rfl := beq_iff.mpr ⟨rfl, rfl⟩

/-- Pushed chunks make the same body as one chunk with all their bytes. -/
theorem foldl_push_beq (body : ByteBody) (chunks : List Bytes) :
    (chunks.foldl push body == body.push chunks.flatten) = true := by
  rw [beq_iff, size_foldl_push, size_push, toBytes_foldl_push, toBytes_push]
  exact ⟨rfl, rfl⟩

theorem WellFormed.foldl_push {body : ByteBody} (h : body.WellFormed) (chunks : List Bytes) :
    (chunks.foldl ByteBody.push body).WellFormed := by
  induction chunks generalizing body with
  | nil => exact h
  | cons chunk rest ih => exact ih (h.push chunk)

theorem wellFormed_ofChunks (chunks : List Bytes) : (ofChunks chunks).WellFormed :=
  WellFormed.empty.foldl_push chunks

/-- The well-formed bodies are those that come about by pushes. -/
theorem wellFormed_iff_exists_ofChunks {body : ByteBody} :
    body.WellFormed ↔ ∃ chunks, body = ofChunks chunks := by
  constructor
  · intro h
    have hchunks : (ofChunks body.chunks).chunks = body.chunks := by
      rw [ofChunks, chunks_foldl_push, List.filter_eq_self.mpr (by simpa using h.2)]
      rfl
    have hsize : body.size = (ofChunks body.chunks).size := by
      rw [h.1, (wellFormed_ofChunks body.chunks).1]
      unfold toBytes
      rw [hchunks]
    exact ⟨body.chunks, congr (congrArg ByteBody.mk hchunks.symm) hsize⟩
  · rintro ⟨chunks, rfl⟩
    exact wellFormed_ofChunks chunks

/-! ## Pushed chunks -/

/-- A body shows the chunks that were pushed onto it. -/
structure Represents (body : ByteBody) (pushed : List Bytes) : Prop where
  toBytes_eq : body.toBytes = pushed.flatten
  handOut_eq : body.handOut = pushed.flatten
  size_eq : body.size = pushed.flatten.length
  isEmpty_iff : body.isEmpty = true ↔ pushed.flatten = []
  chunks_eq : body.chunks = pushed.filter (· ≠ [])
  chunkCount_eq : body.chunkCount = pushed.countP (· ≠ [])
  isContiguous_iff : body.isContiguous = true ↔ body.chunkCount ≤ 1
  /-- A body in one piece is its only chunk, or has none and is empty. -/
  handOut_of_isContiguous : body.isContiguous = true →
    (body.chunks = [] ∧ body.handOut = []) ∨ ∃ chunk, body.chunks = [chunk] ∧ body.handOut = chunk

theorem represents_ofChunks (pushed : List Bytes) : (ofChunks pushed).Represents pushed := by
  have hbytes : (ofChunks pushed).toBytes = pushed.flatten := toBytes_foldl_push empty pushed
  have hsize : (ofChunks pushed).size = pushed.flatten.length :=
    (wellFormed_ofChunks pushed).1.trans (congrArg List.length hbytes)
  exact {
    toBytes_eq := hbytes
    handOut_eq := (handOut_eq_toBytes _).trans hbytes
    size_eq := hsize
    isEmpty_iff := by rw [isEmpty, hsize, beq_iff_eq, List.length_eq_zero_iff]
    chunks_eq := chunks_foldl_push empty pushed
    chunkCount_eq := (chunkCount_foldl_push empty pushed).trans (Nat.zero_add _)
    isContiguous_iff := decide_eq_true_iff
    handOut_of_isContiguous := handOut_of_isContiguous }

/-- **What a body is.** Whatever chunks were pushed onto an empty body, its content is their
concatenation, whichever way it is handed out; the size is the length of the content; the stored
chunks are those that are not empty, in order; and a body in one piece is its only chunk. A body that
was made of a first chunk is like one onto which this was pushed first. Two such bodies are equal
exactly when their contents are, however these were split. -/
theorem pushes_determine_body :
    (∀ pushed : List Bytes, (ofChunks pushed).Represents pushed) ∧
      (∀ (first : Bytes) (rest : List Bytes),
        rest.foldl push (ofBytes first) = ofChunks (first :: rest)) ∧
      ∀ xs ys : List Bytes,
        (ofChunks xs == ofChunks ys) = true ↔ (ofChunks xs).toBytes = (ofChunks ys).toBytes := by
  refine ⟨represents_ofChunks, fun first rest => rfl, ?_⟩
  intro xs ys
  exact (wellFormed_ofChunks xs).beq_iff (wellFormed_ofChunks ys)

end DeferredResponse.ByteBody
