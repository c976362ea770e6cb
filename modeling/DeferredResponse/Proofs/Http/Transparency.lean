import DeferredResponse.Proofs.Buffer.Record
import DeferredResponse.Proofs.Http.Perform

/-!
# Transparency of buffering

A handler that talks to a buffer gets the response that it would get from the draft itself. The two
runs do not take the same calls: where the handler writes twice, the log holds one entry. They are
compared call by call, on a `Recording` that knows for each accepted call which entry it went into:

1. Two writes that can be joined are permitted at the same stages and never have bad arguments, so
   the draft refuses either both of them or neither (`Stage.refusal?_join`).
2. The joined write has the effect of the two, up to the chunks in which the body is kept
   (`agrees_apply_join`); no call can tell such drafts apart (`Agrees.apply`).
3. Hence each accepted call keeps the log's replay in step with the direct run (`Mirrors.addCall`).

Committing then ends as the direct run does, and a refusal is reported for the entry into which the
refused call went (`commit_eq_issue`).
-/

namespace DeferredResponse.Http

open Operation

/-! ## Drafts that no call tells apart -/

namespace Draft

/-- The drafts differ at most in the chunks of their bodies. -/
structure Agrees (a b : Draft) : Prop where
  status_eq : a.status = b.status
  headers_eq : a.headers = b.headers
  bytes_eq : a.body.toBytes = b.body.toBytes
  stage_eq : a.stage = b.stage

theorem Agrees.refl (a : Draft) : Agrees a a := ⟨rfl, rfl, rfl, rfl⟩

theorem Agrees.trans {a b c : Draft} (h : Agrees a b) (h' : Agrees b c) : Agrees a c :=
  ⟨h.status_eq.trans h'.status_eq, h.headers_eq.trans h'.headers_eq, h.bytes_eq.trans h'.bytes_eq,
    h.stage_eq.trans h'.stage_eq⟩

theorem Agrees.toResponse_eq {a b : Draft} (h : Agrees a b) : a.toResponse = b.toResponse := by
  unfold toResponse
  rw [h.status_eq, h.headers_eq, h.bytes_eq]

theorem Agrees.withHeader {a b : Draft} (h : Agrees a b) (name value : String) :
    Agrees (a.withHeader name value) (b.withHeader name value) :=
  ⟨h.status_eq, congrArg (·.insert name value) h.headers_eq, h.bytes_eq, h.stage_eq⟩

theorem Agrees.withCookie {a b : Draft} (h : Agrees a b) (value : String) :
    Agrees (a.withCookie value) (b.withCookie value) :=
  ⟨h.status_eq, congrArg (·.append setCookie value) h.headers_eq, h.bytes_eq, h.stage_eq⟩

theorem Agrees.withBytes {a b : Draft} (h : Agrees a b) (bytes : Bytes) :
    Agrees (a.withBytes bytes) (b.withBytes bytes) := by
  refine ⟨h.status_eq, h.headers_eq, ?_, h.stage_eq⟩
  show (a.body.push bytes).toBytes = (b.body.push bytes).toBytes
  rw [ByteBody.toBytes_push, ByteBody.toBytes_push, h.bytes_eq]

theorem Agrees.sendHeaders {a b : Draft} (h : Agrees a b) :
    Agrees a.sendHeaders b.sendHeaders := by
  rw [sendHeaders_eq, sendHeaders_eq]
  exact ⟨h.status_eq, h.headers_eq, h.bytes_eq, congrArg (·.after .flush) h.stage_eq⟩

/-- No call tells the drafts apart. -/
theorem Agrees.apply {a b : Draft} (h : Agrees a b) (call : Call) :
    Agrees (a.apply call) (b.apply call) := by
  cases call with
  | addCookie cookie => exact h.withCookie _
  | clearCookie cookie => exact h.withCookie _
  | setHeader name value => exact h.withHeader _ _
  | setDateHeader name date => exact h.withHeader _ _
  | setContentLength length => exact h.withHeader _ _
  | setContentType mime => exact h.withHeader _ _
  | setStatus code => exact ⟨rfl, h.headers_eq, h.bytes_eq, h.stage_eq⟩
  | sendError code message =>
    refine ⟨rfl, ?_, rfl, rfl⟩
    show (a.headers.erase contentLength).insert contentType errorType = _
    rw [h.headers_eq]
    rfl
  | sendRedirect url =>
    refine ⟨rfl, ?_, rfl, rfl⟩
    show (a.headers.insert location url).erase contentLength = _
    rw [h.headers_eq]
    rfl
  | writeText text => exact h.withBytes _
  | writeBytes bytes => exact h.withBytes _
  | flush => exact h.sendHeaders
  | close => exact ⟨h.status_eq, h.headers_eq, h.bytes_eq, rfl⟩

theorem agrees_withBytes_append (draft : Draft) (first second : Bytes) :
    Agrees (draft.withBytes (first ++ second)) ((draft.withBytes first).withBytes second) := by
  refine ⟨rfl, rfl, ?_, rfl⟩
  show (draft.body.push (first ++ second)).toBytes = ((draft.body.push first).push second).toBytes
  simp only [ByteBody.toBytes_push, List.append_assoc]

/-! ## Joined writes -/

/-- A joined write does what the two writes do. -/
theorem agrees_apply_join {last call joined : Call} (h : join? last call = some joined)
    (draft : Draft) : Agrees (draft.apply joined) ((draft.apply last).apply call) := by
  rcases exists_of_join?_eq_some h with ⟨s, t, rfl, rfl, rfl⟩ | ⟨a, b, rfl, rfl, rfl⟩
  · show Agrees (draft.withBytes (utf8 (s ++ t))) ((draft.withBytes (utf8 s)).withBytes (utf8 t))
    rw [utf8_append]
    exact agrees_withBytes_append draft (utf8 s) (utf8 t)
  · exact agrees_withBytes_append draft a b

end Draft

/-- The three writes of a join are of one kind. -/
theorem kind_of_join? {last call joined : Call} (h : join? last call = some joined) :
    joined.kind = last.kind ∧ call.kind = last.kind := by
  rcases exists_of_join?_eq_some h with ⟨s, t, rfl, rfl, rfl⟩ | ⟨a, b, rfl, rfl, rfl⟩
  · exact ⟨rfl, rfl⟩
  · exact ⟨rfl, rfl⟩

namespace Stage

/-- The three writes of a join are refused together. -/
theorem refusal?_join {last call joined : Call} (h : join? last call = some joined)
    (stage : Stage) :
    stage.refusal? joined = stage.refusal? last ∧ stage.refusal? call = stage.refusal? last := by
  rcases exists_of_join?_eq_some h with ⟨s, t, rfl, rfl, rfl⟩ | ⟨a, b, rfl, rfl, rfl⟩
  · exact ⟨rfl, rfl⟩
  · exact ⟨rfl, rfl⟩

/-- A write leaves the stage as it is. -/
theorem after_join {last call joined : Call} (h : join? last call = some joined) (stage : Stage) :
    stage.after last.kind = stage := by
  rcases exists_of_join?_eq_some h with ⟨s, t, rfl, rfl, rfl⟩ | ⟨a, b, rfl, rfl, rfl⟩
  · rfl
  · rfl

end Stage

/-! ## Recordings -/

/-- A call that a buffer has accepted, with the position of the entry that it went into. -/
structure Placed where
  call : Call
  entry : Nat

/-- A buffer and the calls that it has accepted. -/
structure Recording where
  buffer : Buffer
  accepted : List Placed

namespace Recording

/-- A new buffer, to which no call was made. -/
def start (config : Config) : Recording := { buffer := .new config, accepted := [] }

/-- The recording with one more call, whether it is refused or not. An accepted call is in the entry
that stands last right after it. -/
def add (recording : Recording) (call : Call) : Recording :=
  match (Sink.perform call : EStateM ModeConflict Buffer Unit) recording.buffer with
  | .ok () next =>
    { buffer := next, accepted := recording.accepted ++ [{ call, entry := next.size - 1 }] }
  | .error _ next => { recording with buffer := next }

/-- The recording of calls on a new buffer. -/
def ofCalls (config : Config) (calls : List Call) : Recording := calls.foldl add (start config)

/-- The accepted calls. -/
def calls (recording : Recording) : List Call := recording.accepted.map Placed.call

theorem add_eq (recording : Recording) (call : Call) :
    recording.add call =
      match recording.buffer.conflict? call.mode? with
      | some _ => recording
      | none =>
        { buffer := recording.buffer.accept call
          accepted := recording.accepted ++
            [{ call, entry := (addCall recording.buffer.log.calls call).length - 1 }] } := by
  unfold add
  show (match Buffer.record call recording.buffer with | .ok () next => _ | .error _ next => _) = _
  rw [Buffer.record_eq]
  cases recording.buffer.conflict? call.mode? with
  | some conflict => rfl
  | none =>
    have hsize : (recording.buffer.accept call).size =
        (addCall recording.buffer.log.calls call).length := by
      rw [← Log.calls_add]
      exact Log.size_eq_length_calls _
    simp only [hsize]

end Recording

/-! ## The two runs -/

/-- Issuing the entries ends as issuing the calls that went into them does. -/
def Mirrors (entries : List Call) (accepted : List Placed) : Prop :=
  match issue (accepted.map Placed.call) ({} : Draft) with
  | .ok () direct =>
    ∃ replayed : Draft, issue entries ({} : Draft) = .ok () replayed ∧ replayed.Agrees direct
  | .error error _ =>
    ∃ (placed : Placed) (replayed : Draft), accepted[error.index]? = some placed ∧
      error.kind = placed.call.kind ∧
      issue entries ({} : Draft) = .error { error with index := placed.entry } replayed

theorem Mirrors.nil : Mirrors [] [] := ⟨{}, rfl, .refl {}⟩

/-- A call that becomes an entry of its own keeps the runs in step. -/
theorem Mirrors.concat {entries : List Call} {accepted : List Placed} (h : Mirrors entries accepted)
    (call : Call) :
    Mirrors (entries ++ [call]) (accepted ++ [{ call, entry := entries.length }]) := by
  unfold Mirrors at h ⊢
  rw [List.map_append, List.map_singleton, Draft.issue_concat_eq, Draft.issue_concat_eq]
  cases hdirect : issue (accepted.map Placed.call) ({} : Draft) with
  | ok _ direct =>
    rw [hdirect] at h
    obtain ⟨replayed, hreplayed, hagrees⟩ := h
    rw [hreplayed]
    simp only [hagrees.stage_eq]
    cases direct.stage.refusal? call with
    | some refusal =>
      refine ⟨{ call, entry := entries.length }, replayed, ?_, rfl, rfl⟩
      rw [List.length_map]
      exact List.getElem?_concat_length
    | none => exact ⟨replayed.apply call, rfl, hagrees.apply call⟩
  | error error direct =>
    rw [hdirect] at h
    obtain ⟨placed, replayed, hplaced, hkind, hreplayed⟩ := h
    rw [hreplayed]
    refine ⟨placed, replayed, ?_, hkind, rfl⟩
    rw [List.getElem?_append_left (List.getElem?_eq_some_iff.mp hplaced).1, hplaced]

/-- With a joined write in the place of the last entry, the entries are refused as before; otherwise
they do what they did before followed by the call, which is not refused either. -/
theorem issue_join {last call joined : Call} (hjoin : join? last call = some joined)
    (init : List Call) :
    match issue (init ++ [last]) ({} : Draft) with
    | .ok () draft =>
      draft.stage.refusal? call = none ∧
        ∃ longer : Draft, issue (init ++ [joined]) ({} : Draft) = .ok () longer ∧
          longer.Agrees (draft.apply call)
    | .error error draft => issue (init ++ [joined]) ({} : Draft) = .error error draft := by
  rw [Draft.issue_concat_eq, Draft.issue_concat_eq]
  cases issue init ({} : Draft) with
  | error error before => rfl
  | ok _ before =>
    obtain ⟨hjoined, hcall⟩ := Stage.refusal?_join hjoin before.stage
    simp only [hjoined]
    cases hlast : before.stage.refusal? last with
    | some refusal => simp only [(kind_of_join? hjoin).1]
    | none =>
      refine ⟨?_, before.apply joined, rfl, Draft.agrees_apply_join hjoin before⟩
      rw [Draft.stage_apply, Stage.after_join hjoin, hcall, hlast]

/-- A write that is joined to the last entry keeps the runs in step. -/
theorem Mirrors.join {init : List Call} {last call joined : Call} {accepted : List Placed}
    (h : Mirrors (init ++ [last]) accepted) (hjoin : join? last call = some joined) :
    Mirrors (init ++ [joined]) (accepted ++ [{ call, entry := init.length }]) := by
  have hrun := issue_join hjoin init
  unfold Mirrors at h ⊢
  rw [List.map_append, List.map_singleton, Draft.issue_concat_eq]
  cases hdirect : issue (accepted.map Placed.call) ({} : Draft) with
  | ok _ direct =>
    rw [hdirect] at h
    obtain ⟨replayed, hreplayed, hagrees⟩ := h
    rw [hreplayed] at hrun
    obtain ⟨hcall, longer, hlonger, hjoined⟩ := hrun
    rw [hagrees.stage_eq] at hcall
    simp only [hcall]
    exact ⟨longer, hlonger, hjoined.trans (hagrees.apply call)⟩
  | error error direct =>
    rw [hdirect] at h
    obtain ⟨placed, replayed, hplaced, hkind, hreplayed⟩ := h
    rw [hreplayed] at hrun
    refine ⟨placed, replayed, ?_, hkind, hrun⟩
    rw [List.getElem?_append_left (List.getElem?_eq_some_iff.mp hplaced).1, hplaced]

/-- An accepted call keeps the runs in step, whatever becomes of it in the log. -/
theorem Mirrors.addCall {entries : List Call} {accepted : List Placed} (h : Mirrors entries accepted)
    (call : Call) :
    Mirrors (Operation.addCall entries call)
      (accepted ++ [{ call, entry := (Operation.addCall entries call).length - 1 }]) := by
  rcases addCall_cases entries call with hadd | ⟨init, last, joined, rfl, hjoin, hadd⟩
  · rw [hadd, List.length_append, List.length_singleton, Nat.add_sub_cancel]
    exact h.concat call
  · rw [hadd, List.length_append, List.length_singleton, Nat.add_sub_cancel]
    exact h.join hjoin

/-- A commit issues the calls of the log. -/
theorem commit_eq (buffer : Buffer) :
    commit buffer =
      match issue buffer.log.calls ({} : Draft) with
      | .ok () draft => .ok draft.toResponse
      | .error error _ => .error error := by
  unfold Log.calls
  rw [← replay_eq_issue]
  rfl

/-- A buffer whose calls are all taken is committed to what they make of an empty draft. -/
theorem commit_of_takes {buffer : Buffer} (h : Stage.editable.Takes buffer.log.calls) :
    commit buffer =
      .ok (buffer.log.calls.foldl (fun draft call => draft.apply call) ({} : Draft)).toResponse := by
  rw [commit_eq, issue, Draft.issueFrom_of_takes h 0]

namespace Recording

theorem mirrors_add {recording : Recording}
    (h : Mirrors recording.buffer.log.calls recording.accepted) (call : Call) :
    Mirrors (recording.add call).buffer.log.calls (recording.add call).accepted := by
  rw [add_eq]
  cases recording.buffer.conflict? call.mode? with
  | some conflict => exact h
  | none =>
    show Mirrors (recording.buffer.log.add call).calls _
    rw [Log.calls_add]
    exact h.addCall call

theorem mirrors_ofCalls (config : Config) (calls : List Call) :
    Mirrors (ofCalls config calls).buffer.log.calls (ofCalls config calls).accepted := by
  unfold ofCalls
  induction calls using List.reverseRecOn with
  | nil => exact Mirrors.nil
  | append_singleton calls call ih =>
    rw [List.foldl_append]
    exact mirrors_add ih call

/-- **Buffering is transparent.** Committing the buffer gives the response that issuing the accepted
calls on a new draft gives. When a call is refused there, the commit fails with the same refusal,
reported for the entry into which the buffer put that call. -/
theorem commit_eq_issue (config : Config) (calls : List Call) :
    match issue (ofCalls config calls).calls ({} : Draft) with
    | .ok () draft => commit (ofCalls config calls).buffer = .ok draft.toResponse
    | .error error _ =>
      ∃ placed : Placed, (ofCalls config calls).accepted[error.index]? = some placed ∧
        error.kind = placed.call.kind ∧
        commit (ofCalls config calls).buffer = .error { error with index := placed.entry } := by
  have h := mirrors_ofCalls config calls
  unfold Mirrors at h
  rw [commit_eq]
  show match issue ((ofCalls config calls).accepted.map Placed.call) ({} : Draft) with
    | .ok () draft => _
    | .error error _ => _
  cases hdirect : issue ((ofCalls config calls).accepted.map Placed.call) ({} : Draft) with
  | ok _ direct =>
    rw [hdirect] at h
    obtain ⟨replayed, hreplayed, hagrees⟩ := h
    rw [hreplayed]
    exact congrArg Except.ok hagrees.toResponse_eq
  | error error direct =>
    rw [hdirect] at h
    obtain ⟨placed, replayed, hplaced, hkind, hreplayed⟩ := h
    refine ⟨placed, hplaced, hkind, ?_⟩
    rw [hreplayed]

end Recording

end DeferredResponse.Http
