import DeferredResponse.Proofs.Body
import DeferredResponse.Proofs.Buffer.Record
import DeferredResponse.Proofs.Recorder

/-!
# Equal logs

Logs are compared entry by entry, and byte bodies by their size and their content. A replay does not
look at size and content: it goes by the chunks. That no sink can tell equal logs apart therefore
rests on how bodies come about.

1. What pushes lead to is a well-formed body, and every well-formed body comes about in this way
   (`ByteBody.wellFormed_iff_exists_ofChunks`). Of such bodies the content alone decides.
2. Hence logs of such bodies are equal exactly when their entries stand for the same calls
   (`Log.beq_iff_calls_eq`).
3. A replay issues these calls (`Log.replay_eq_issue_calls`), and a recorder that refuses nothing
   shows them (`Recorder.replay_eq`).

`Log.beq_iff_indistinguishable` puts this together: equality of logs is what sinks can see of them.
-/

namespace DeferredResponse

open Operation

/-! ## Entries -/

deriving instance ReflBEq, LawfulBEq for Operation

namespace Operation

/-- The byte body of an entry, if it has one, came about by pushes. -/
def IsBuilt : Action → Prop
  | writeBytes body => ∃ chunks, body = .ofChunks chunks
  | _ => True

theorem isBuilt_iff {action : Action} :
    action.IsBuilt ↔ ∀ body, action = .writeBytes body → body.WellFormed := by
  cases action with
  | writeBytes body =>
    refine ByteBody.wellFormed_iff_exists_ofChunks.symm.trans ⟨?_, fun h => h body rfl⟩
    rintro h _ ⟨⟩
    exact h
  | _ => exact iff_of_true trivial nofun

theorem isBuilt_toAction (call : Call) : call.toAction.IsBuilt := by
  cases call with
  | writeBytes bytes => exact ⟨[bytes], rfl⟩
  | _ => trivial

/-- Entries are compared like what `f` makes of them, if that is so of their payloads. -/
theorem map_beq_map {β γ : Type} [BEq β] [BEq γ] {f : β → γ} {a b : Operation β}
    (h : ∀ x y, a = .writeBytes x → b = .writeBytes y → (f x == f y) = (x == y)) :
    (a.map f == b.map f) = (a == b) := by
  cases a with
  | writeBytes x =>
    cases b with
    | writeBytes y => exact h x y rfl rfl
    | _ => rfl
  | _ => cases b <;> rfl

theorem beq_iff_toCall_eq {a b : Action} (ha : a.IsBuilt) (hb : b.IsBuilt) :
    (a == b) = true ↔ a.toCall = b.toCall := by
  have hpayload : ∀ x y, a = .writeBytes x → b = .writeBytes y →
      (x.toBytes == y.toBytes) = (x == y) := by
    intro x y hx hy
    rw [Bool.eq_iff_iff, beq_iff_eq]
    exact ((isBuilt_iff.mp ha x hx).beq_iff (isBuilt_iff.mp hb y hy)).symm
  rw [← map_beq_map hpayload]
  exact beq_iff_eq

end Operation

/-! ## Logs -/

namespace Log

/-- The byte bodies of a log came about by pushes. -/
def IsBuilt (log : Log) : Prop := ∀ entry ∈ log.entries, entry.IsBuilt

theorem entries_beq_iff {xs ys : List Action} (hxs : ∀ x ∈ xs, x.IsBuilt)
    (hys : ∀ y ∈ ys, y.IsBuilt) :
    (xs == ys) = true ↔ xs.map toCall = ys.map toCall := by
  induction xs generalizing ys with
  | nil => cases ys <;> simp
  | cons x xs ih =>
    cases ys with
    | nil => simp
    | cons y ys =>
      rw [List.forall_mem_cons] at hxs hys
      rw [List.cons_beq_cons, Bool.and_eq_true, beq_iff_toCall_eq hxs.1 hys.1, ih hxs.2 hys.2,
        List.map_cons, List.map_cons, List.cons.injEq]

/-- Equal logs are those whose entries stand for the same calls. -/
theorem beq_iff_calls_eq {first second : Log} (hfirst : first.IsBuilt) (hsecond : second.IsBuilt) :
    (first == second) = true ↔ first.calls = second.calls :=
  entries_beq_iff hfirst hsecond

theorem replay_eq_issue_calls {σ ε : Type} [Sink σ ε] (log : Log) (state : σ) :
    log.replay state = issue log.calls state :=
  replay_eq_issue log.entries state

end Log

/-! ## Recorders -/

namespace Recorder

/-- A recorder that refuses nothing keeps the calls of a whole log. -/
theorem replay_eq (log : Log) :
    log.replay ({} : Recorder) = .ok () ({ calls := log.calls } : Recorder) := by
  have hadmits : ({} : Recorder).Admits log.entries.length := by
    intro position hposition
    cases hposition
  exact replayFrom_eq_ok hadmits 0

end Recorder

/-- **Equal logs cannot be told apart.** Let the byte bodies of two logs have come about by pushes.
New recorders that refuse nothing take both replays to their end, and the logs are equal exactly
when the recorders have then taken the same calls. The replays of equal logs are the same on every
sink, in whatever state it is: the same refusal, or none, and the same state at the end. In
particular the ways that bytes take by their chunks all hand out the content. -/
theorem Log.beq_iff_indistinguishable {first second : Log} (hfirst : first.IsBuilt)
    (hsecond : second.IsBuilt) :
    (∃ a b : Recorder, first.replay ({} : Recorder) = .ok () a ∧
        second.replay ({} : Recorder) = .ok () b ∧
          ((first == second) = true ↔ a.calls = b.calls)) ∧
      ((first == second) = true → ∀ {σ ε : Type} [Sink σ ε] (state : σ),
        first.replay state = second.replay state) ∧
      ∀ action : Action, action.map ByteBody.handOut = action.toCall := by
  have hbeq := beq_iff_calls_eq hfirst hsecond
  refine ⟨⟨_, _, Recorder.replay_eq first, Recorder.replay_eq second, hbeq⟩, ?_, ?_⟩
  · intro hequal σ ε _ state
    rw [replay_eq_issue_calls, replay_eq_issue_calls, hbeq.mp hequal]
  · intro action
    rw [funext ByteBody.handOut_eq_toBytes]
    rfl

/-- Three bytes in one chunk, and the same bytes pushed as a first one, none, and the others. -/
theorem Log.split_bytes_indistinguishable :
    ∃ whole split : Log, whole.IsBuilt ∧ split.IsBuilt ∧ (whole == split) = true ∧
      whole.entries.map (·.map ByteBody.chunks) ≠ split.entries.map (·.map ByteBody.chunks) ∧
        ∀ {σ ε : Type} [Sink σ ε] (state : σ), whole.replay state = split.replay state := by
  have hbuilt (chunks : List Bytes) : Log.IsBuilt ⟨[.writeBytes (.ofChunks chunks), .flush]⟩ :=
    List.forall_mem_cons.mpr ⟨⟨chunks, rfl⟩, List.forall_mem_singleton.mpr trivial⟩
  have hequal : (Log.mk [.writeBytes (.ofChunks [[1, 2, 3]]), .flush] ==
      Log.mk [.writeBytes (.ofChunks [[1], [], [2, 3]]), .flush]) = true := by decide
  exact ⟨_, _, hbuilt _, hbuilt _, hequal, by decide,
    (Log.beq_iff_indistinguishable (hbuilt _) (hbuilt _)).2.1 hequal⟩

end DeferredResponse
