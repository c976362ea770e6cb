import DeferredResponse.Proofs.Buffer.Moves
import DeferredResponse.Proofs.Equality
import DeferredResponse.Proofs.FailFast

/-!
# Replays into a buffer

A replay into a buffer puts one log behind another: its entries follow those of the buffer, and body
writes that come to stand side by side are merged. Whether a body entry is taken depends on one
mode, that of the buffer or else that of the first body entry (`Buffer.modeFor`).

1. A coherent buffer is a faithful history of its own entries (`Coherent.faithful`), and a replay
   that goes through makes the replayed entries part of it (`Faithful.replay`).
2. So a replay that goes through coalesces the two lists (`Coherent.replay_eq_ok`), and what a
   refused one has done is that of the entries before the refused one (`Coherent.replay_eq_error`).
3. Entries that are coalesced already are copied as they are (`exists_copy`), which makes copies of
   copies equal, and tells when a list is a log that a buffer could have recorded.

`merges_of_reachable` says all of this of the buffers that can come about, with logs compared by
`==`.
-/

namespace DeferredResponse

open Operation

/-! ## Modes of entries -/

theorem Operation.mode?_map {β γ : Type} (f : β → γ) (op : Operation β) :
    (op.map f).mode? = op.mode? := by
  cases op <;> rfl

@[simp] theorem Operation.mode?_toCall (action : Action) : action.toCall.mode? = action.mode? :=
  mode?_map _ action

/-- All body entries are in one mode. -/
def Operation.AllIn (mode : Option BodyMode) (actions : List Action) : Prop :=
  ∀ entry ∈ actions, entry.isBodyWrite = true → entry.mode? = mode

/-- The mode of the first body entry. -/
def Operation.firstMode? (actions : List Action) : Option BodyMode :=
  actions.findSome? Operation.mode?

theorem Operation.firstMode?_map_toCall (actions : List Action) :
    (actions.map toCall).findSome? Operation.mode? = firstMode? actions := by
  rw [List.findSome?_map]
  exact congrArg (actions.findSome? ·) (funext mode?_toCall)

namespace Log

/-- The log in which every call is an entry of its own. -/
def ofCalls (calls : List Call) : Log := { entries := calls.map toAction }

/-- The entries with adjacent body writes merged. -/
def coalesced (entries : List Action) : Log := ofCalls (Operation.coalesced (entries.map toCall))

@[simp] theorem calls_ofCalls (calls : List Call) : (ofCalls calls).calls = calls := by
  simp [ofCalls, Log.calls, Function.comp_def]

theorem isBuilt_ofCalls (calls : List Call) : (ofCalls calls).IsBuilt := by
  intro entry hentry
  obtain ⟨call, -, rfl⟩ := List.mem_map.mp hentry
  exact isBuilt_toAction call

end Log

namespace Buffer

/-- The mode in which a buffer takes actions: that of its body, or else that of their first body
entry. -/
def modeFor (buffer : Buffer) (actions : List Action) : Option BodyMode :=
  buffer.mode.or (firstMode? actions)

/-! ## Faithful histories -/

theorem record_eq_error_iff {call : Call} {buffer next : Buffer} {conflict : ModeConflict} :
    record call buffer = .error conflict next ↔
      buffer.conflict? call.mode? = some conflict ∧ next = buffer := by
  rw [record_eq]
  cases buffer.conflict? call.mode? with
  | some other => simp [eq_comm]
  | none => simp

namespace History

/-- A replay that goes through adds the calls of its actions to what the buffer has accepted. -/
theorem Faithful.replay {buffer next : Buffer} {accepted : List Call} {actions : List Action}
    (h : Faithful { buffer, accepted }) (hreplay : replay actions buffer = .ok () next) :
    Faithful { buffer := next, accepted := accepted ++ actions.map toCall } := by
  unfold DeferredResponse.replay at hreplay
  generalize 0 = index at hreplay
  induction actions generalizing buffer accepted index with
  | nil =>
    cases hreplay
    rw [List.map_nil, List.append_nil]
    exact h
  | cons action rest ih =>
    rw [replayFrom_cons] at hreplay
    cases hcall : (Sink.perform action.toCall : EStateM ModeConflict Buffer Unit) buffer with
    | ok _ middle =>
      rw [hcall] at hreplay
      obtain ⟨hconflict, rfl⟩ := record_eq_ok_iff.mp hcall
      rw [List.map_cons, List.append_cons]
      exact ih (h.accept hconflict) (index + 1) hreplay
    | error cause middle =>
      rw [hcall] at hreplay
      cases hreplay

end History

namespace Coherent

variable {buffer : Buffer}

theorem apart_calls (h : buffer.Coherent) : Apart buffer.log.calls := by
  have hkinds : buffer.log.kinds = buffer.log.calls.map kind := by
    simp [Log.kinds, Log.calls]
  have hapart := h.apart
  rw [hkinds, List.isChain_map] at hapart
  refine hapart.imp ?_
  intro a b hab
  exact Bool.eq_false_iff.mpr fun hrun => hab (Bool.and_eq_true_iff.mp hrun)

theorem mode_eq_firstMode? (h : buffer.Coherent) : buffer.mode = firstMode? buffer.log.entries := by
  cases hfirst : firstMode? buffer.log.entries with
  | none =>
    refine h.mode_eq_none_iff.mpr fun entry hentry => ?_
    rw [isBodyWrite_eq_isSome, List.findSome?_eq_none_iff.mp hfirst entry hentry]
    rfl
  | some mode =>
    obtain ⟨entry, hentry, hmode⟩ := List.exists_of_findSome?_eq_some hfirst
    exact h.mode_of_mem hentry hmode

/-- A coherent buffer could have accepted its own entries. -/
theorem faithful (h : buffer.Coherent) :
    History.Faithful { buffer, accepted := buffer.log.calls } where
  calls_eq := (coalesced_eq_self h.apart_calls).symm
  mode_eq := h.mode_eq_firstMode?.trans (firstMode?_map_toCall buffer.log.entries).symm
  alike := by
    intro call hcall mode hmode
    obtain ⟨entry, hentry, rfl⟩ := List.mem_map.mp hcall
    rw [mode?_toCall] at hmode
    exact h.mode_of_mem hentry hmode

theorem isBuilt (h : buffer.Coherent) : buffer.log.IsBuilt := by
  intro entry hentry
  refine isBuilt_iff.mpr ?_
  rintro body rfl
  exact h.wellFormed body hentry

theorem allIn (h : buffer.Coherent) : AllIn buffer.mode buffer.log.entries := by
  intro entry hentry hbody
  obtain ⟨mode, hmode⟩ := exists_mode? hbody
  rw [hmode, h.mode_of_mem hentry hmode]

end Coherent

/-! ## Replays onto a coherent buffer -/

/-- A mode that is settled by the first actions is not changed by those behind them. -/
theorem modeFor_append {buffer : Buffer} {xs : List Action} {mode : BodyMode}
    (h : buffer.modeFor xs = some mode) (ys : List Action) :
    buffer.modeFor (xs ++ ys) = some mode := by
  unfold modeFor firstMode? at *
  rw [List.findSome?_append, ← Option.or_assoc, h, Option.some_or]

namespace Coherent

variable {buffer : Buffer} (h : buffer.Coherent) {actions : List Action}

include h

/-- What a replay leads to that goes through. -/
theorem replay_eq_ok {next : Buffer}
    (hreplay : DeferredResponse.replay actions buffer = .ok () next) :
    next.log.calls = Operation.coalesced (buffer.log.calls ++ actions.map toCall) ∧
      next.mode = buffer.modeFor actions ∧ AllIn (buffer.modeFor actions) actions := by
  have hnext := h.faithful.replay hreplay
  have hmode : next.mode = buffer.modeFor actions := by
    refine hnext.mode_eq.trans ?_
    unfold History.established modeFor
    rw [List.findSome?_append, firstMode?_map_toCall, h.mode_eq_firstMode?]
    exact congrArg (Option.or · _) (firstMode?_map_toCall buffer.log.entries)
  refine ⟨hnext.calls_eq, hmode, ?_⟩
  intro entry hentry hbody
  obtain ⟨mode, hentrymode⟩ := exists_mode? hbody
  have hmem : entry.toCall ∈ buffer.log.calls ++ actions.map toCall :=
    List.mem_append_right _ (List.mem_map_of_mem hentry)
  rw [hentrymode, ← hmode]
  exact (hnext.alike entry.toCall hmem mode ((mode?_toCall entry).trans hentrymode)).symm

/-- Where a replay stops that does not go through, and what it has done until then. -/
theorem replay_eq_error {last : Buffer} {error : ReplayError ModeConflict}
    (hreplay : DeferredResponse.replay actions buffer = .error error last) :
    ∃ entry, actions[error.index]? = some entry ∧ error.kind = entry.kind ∧
      buffer.modeFor actions = some error.cause.established ∧
        entry.mode? = some error.cause.refused ∧ error.cause.established ≠ error.cause.refused ∧
          DeferredResponse.replay (actions.take error.index) buffer = .ok () last ∧
            last.mode = some error.cause.established := by
  obtain ⟨entry, hentry, hkind, hbefore, hperform, -⟩ :=
    (FailFast.of_lawful (σ := Buffer)).refused actions buffer last error hreplay
  obtain ⟨hconflict, -⟩ := record_eq_error_iff.mp hperform
  obtain ⟨hmode, hrefused, hne⟩ := conflict?_eq_some_iff.mp hconflict
  have hfor : buffer.modeFor (actions.take error.index) = some error.cause.established :=
    (h.replay_eq_ok hbefore).2.1.symm.trans hmode
  have hall := modeFor_append hfor (actions.drop error.index)
  rw [List.take_append_drop] at hall
  exact ⟨entry, hentry, hkind, hall, (mode?_toCall entry).symm.trans hrefused, hne, hbefore,
    hmode⟩

theorem exists_replay_eq_ok_iff :
    (∃ next, DeferredResponse.replay actions buffer = .ok () next) ↔
      AllIn (buffer.modeFor actions) actions := by
  constructor
  · rintro ⟨next, hreplay⟩
    exact (h.replay_eq_ok hreplay).2.2
  · intro hall
    cases hreplay : DeferredResponse.replay actions buffer with
    | ok _ next => exact ⟨next, rfl⟩
    | error error last =>
      -- The entry that is refused would be in another mode than all body entries.
      obtain ⟨entry, hentry, -, hmode, hrefused, hne, -, -⟩ := h.replay_eq_error hreplay
      have hsame := hall entry (List.mem_of_getElem? hentry) (isBodyWrite_of_mode? hrefused)
      rw [hrefused, hmode] at hsame
      exact absurd (Option.some.inj hsame).symm hne

end Coherent

/-! ## Copies -/

theorem allIn_firstMode? {mode : Option BodyMode} {actions : List Action} (h : AllIn mode actions) :
    AllIn (firstMode? actions) actions := by
  intro entry hentry hbody
  cases hfirst : firstMode? actions with
  | none => exact List.findSome?_eq_none_iff.mp hfirst entry hentry
  | some first =>
    obtain ⟨other, hother, hmode⟩ := List.exists_of_findSome?_eq_some hfirst
    rw [h entry hentry hbody, ← hmode, h other hother (isBodyWrite_of_mode? hmode)]

theorem apart_map_toCall_iff {actions : List Action} :
    Apart (actions.map toCall) ↔
      actions.IsChain fun a b => ¬ (a.isBodyWrite = true ∧ b.isBodyWrite = true) := by
  unfold Apart
  rw [List.isChain_map]
  refine List.IsChain.iff fun a b => ?_
  unfold inOneRun isBodyWrite
  rw [kind_toCall, kind_toCall, ← Bool.not_eq_true, Bool.and_eq_true]

/-- Entries in one mode of which no two neighbours write to the body are copied as they are. -/
theorem exists_copy {mode : Option BodyMode} {actions : List Action} (hall : AllIn mode actions)
    (hapart : Apart (actions.map toCall)) :
    ∃ copy : Buffer, replay actions ({} : Buffer) = .ok () copy ∧
      copy.log.calls = actions.map toCall ∧ copy.mode = firstMode? actions := by
  have hnew : Coherent {} := Coherent.new {}
  obtain ⟨copy, hcopy⟩ := hnew.exists_replay_eq_ok_iff.mpr (allIn_firstMode? hall)
  obtain ⟨hcalls, hmode, -⟩ := hnew.replay_eq_ok hcopy
  exact ⟨copy, hcopy, hcalls.trans (coalesced_eq_self hapart), hmode⟩

theorem Coherent.exists_copy {buffer : Buffer} (h : buffer.Coherent) :
    ∃ copy : Buffer, DeferredResponse.replay buffer.log.entries ({} : Buffer) = .ok () copy ∧
      copy.log.calls = buffer.log.calls ∧ copy.mode = buffer.mode := by
  obtain ⟨copy, hcopy, hcalls, hmode⟩ := Buffer.exists_copy h.allIn h.apart_calls
  exact ⟨copy, hcopy, hcalls, hmode.trans h.mode_eq_firstMode?.symm⟩

theorem Coherent.of_replay {buffer next : Buffer} (h : buffer.Coherent) {actions : List Action}
    (hreplay : DeferredResponse.replay actions buffer = .ok () next) : next.Coherent := by
  have hend := h.replay actions
  rw [hreplay] at hend
  exact hend

/-- The second of two coherent buffers goes into the first, unless both have a mode and not the
same. -/
theorem Coherent.exists_joined {buffer other : Buffer} (h : buffer.Coherent)
    (hother : other.Coherent)
    (hmodes : buffer.mode = none ∨ other.mode = none ∨ buffer.mode = other.mode) :
    ∃ joined : Buffer, DeferredResponse.replay other.log.entries buffer = .ok () joined ∧
      joined.log.calls = Operation.coalesced (buffer.log.calls ++ other.log.calls) ∧
        joined.mode = buffer.mode.or other.mode := by
  have hfor : buffer.modeFor other.log.entries = buffer.mode.or other.mode := by
    unfold modeFor
    rw [hother.mode_eq_firstMode?]
  have hall : AllIn (buffer.mode.or other.mode) other.log.entries := by
    intro entry hentry hbody
    have hmode := hother.allIn entry hentry hbody
    rcases hmodes with hnone | hnone | hsame
    · rw [hmode, hnone, Option.none_or]
    · obtain ⟨mode, hsome⟩ := exists_mode? hbody
      rw [hsome, hnone] at hmode
      cases hmode
    · rw [hmode, hsame, Option.or_self]
  obtain ⟨joined, hjoined⟩ := h.exists_replay_eq_ok_iff.mpr (hfor ▸ hall)
  obtain ⟨hcalls, hmode, -⟩ := h.replay_eq_ok hjoined
  exact ⟨joined, hjoined, hcalls, hmode.trans hfor⟩

/-- A new buffer takes both logs, one after the other, as the first buffer takes the second log. -/
theorem Coherent.exists_copy_joined {buffer other : Buffer} (h : buffer.Coherent)
    (hother : other.Coherent)
    (hmodes : buffer.mode = none ∨ other.mode = none ∨ buffer.mode = other.mode) :
    ∃ both : Buffer,
      DeferredResponse.replay (buffer.log.entries ++ other.log.entries) ({} : Buffer) =
          .ok () both ∧
        both.log.calls = Operation.coalesced (buffer.log.calls ++ other.log.calls) ∧
          both.mode = buffer.mode.or other.mode := by
  obtain ⟨copy, hcopy, hcalls, hmode⟩ := h.exists_copy
  have hcoherent : copy.Coherent := (Coherent.new {}).of_replay hcopy
  rw [← hmode] at hmodes
  obtain ⟨both, hboth, hbothcalls, hbothmode⟩ := hcoherent.exists_joined hother hmodes
  refine ⟨both, ?_, ?_, ?_⟩
  · rw [replay_append, hcopy]
    simp only [hboth]
  · rw [hbothcalls, hcalls]
  · rw [hbothmode, hmode]

/-! ## Every buffer -/

/-- The buffer can come about: it is among those that some moves lead to. -/
def Reachable (buffer : Buffer) : Prop := ∃ moves, buffer ∈ afterMoves [] moves

theorem Reachable.coherent {buffer : Buffer} (h : buffer.Reachable) : buffer.Coherent := by
  obtain ⟨moves, hbuffer⟩ := h
  exact coherent_of_mem (fun _ hnil => absurd hnil List.not_mem_nil) moves buffer hbuffer

/-- What replays do to the buffer, and what they make of its log. -/
structure Merges (buffer : Buffer) : Prop where
  /-- A replay goes through exactly when all body entries are in the mode of the buffer, or, if that
  has none, in the mode of the first of them. -/
  succeeds_iff (actions : List Action) :
    (∃ next, replay actions buffer = .ok () next) ↔ AllIn (buffer.modeFor actions) actions
  /-- It puts the actions behind what was recorded, merges the writes that come to stand side by
  side, and leaves that mode. -/
  coalesced (actions : List Action) (next : Buffer) : replay actions buffer = .ok () next →
    (next.log == .coalesced (buffer.log.entries ++ actions)) = true ∧
      next.mode = buffer.modeFor actions
  /-- A refused replay stops at the first body entry in another mode, names the two modes, and has
  done what the entries before it do. -/
  refused (actions : List Action) (last : Buffer) (error : ReplayError ModeConflict) :
    replay actions buffer = .error error last →
      ∃ entry, actions[error.index]? = some entry ∧ error.kind = entry.kind ∧
        buffer.modeFor actions = some error.cause.established ∧
          entry.mode? = some error.cause.refused ∧ error.cause.established ≠ error.cause.refused ∧
            AllIn (buffer.modeFor actions) (actions.take error.index) ∧
              (last.log == .coalesced (buffer.log.entries ++ actions.take error.index)) = true ∧
                last.mode = some error.cause.established
  /-- A list of entries whose bodies came about by pushes is reproduced by a new buffer exactly when
  its body entries are in one mode and no two of them are neighbours. -/
  reproduces_iff (actions : List Action) : (∀ entry ∈ actions, entry.IsBuilt) →
    ((∃ copy : Buffer, replay actions ({} : Buffer) = .ok () copy ∧
        (copy.log == Log.mk actions) = true) ↔
      (∃ mode, AllIn mode actions) ∧
        actions.IsChain fun a b => ¬ (a.isBodyWrite = true ∧ b.isBodyWrite = true))
  /-- A new buffer reproduces the log of the buffer, and its mode. -/
  copied : ∃ copy : Buffer, replay buffer.log.entries ({} : Buffer) = .ok () copy ∧
    (copy.log == buffer.log) = true ∧ copy.mode = buffer.mode
  /-- Replaying into new buffers twice comes to the same as doing it once. -/
  idempotent (actions : List Action) (copy : Buffer) : replay actions ({} : Buffer) = .ok () copy →
    ∃ again : Buffer, replay copy.log.entries ({} : Buffer) = .ok () again ∧
      (again.log == copy.log) = true ∧ again.mode = copy.mode
  /-- The log of another buffer goes into the buffer if not both have a mode or they have the same.
  The result is what both logs leave in a new buffer, one after the other. It has the entries of
  both, less one if a body write ends the first and a body write begins the second. -/
  joined (other : Buffer) : other.Reachable →
    buffer.mode = none ∨ other.mode = none ∨ buffer.mode = other.mode →
      ∃ next both : Buffer, replay other.log.entries buffer = .ok () next ∧
        replay (buffer.log.entries ++ other.log.entries) ({} : Buffer) = .ok () both ∧
          (next.log == both.log) = true ∧
            (next.log == .coalesced (buffer.log.entries ++ other.log.entries)) = true ∧
              next.mode = buffer.mode.or other.mode ∧ both.mode = next.mode ∧
                next.log.size + (if buffer.log.calls.getLast?.any isBodyWrite &&
                    other.log.calls.head?.any isBodyWrite then 1 else 0) =
                  buffer.log.size + other.log.size

/-- The log of a coherent buffer is known by its calls. -/
theorem Coherent.beq_coalesced {buffer : Buffer} (h : buffer.Coherent) {xs ys : List Action}
    (hcalls : buffer.log.calls = Operation.coalesced (xs.map toCall ++ ys.map toCall)) :
    (buffer.log == .coalesced (xs ++ ys)) = true := by
  refine (Log.beq_iff_calls_eq h.isBuilt (Log.isBuilt_ofCalls _)).mpr ?_
  rw [hcalls, ← List.map_append]
  exact (Log.calls_ofCalls _).symm

theorem Coherent.beq_of_calls_eq {a b : Buffer} (ha : a.Coherent) (hb : b.Coherent)
    (hcalls : a.log.calls = b.log.calls) : (a.log == b.log) = true :=
  (Log.beq_iff_calls_eq ha.isBuilt hb.isBuilt).mpr hcalls

/-- Which lists of entries a new buffer reproduces. -/
theorem exists_reproduction_iff {actions : List Action}
    (hbuilt : ∀ entry ∈ actions, entry.IsBuilt) :
    (∃ copy : Buffer, replay actions ({} : Buffer) = .ok () copy ∧
        (copy.log == Log.mk actions) = true) ↔
      (∃ mode, AllIn mode actions) ∧
        actions.IsChain fun a b => ¬ (a.isBodyWrite = true ∧ b.isBodyWrite = true) := by
  have hnew : Coherent {} := Coherent.new {}
  have hbeq {copy : Buffer} (hcopy : replay actions ({} : Buffer) = .ok () copy) :
      (copy.log == Log.mk actions) = true ↔ copy.log.calls = actions.map toCall :=
    Log.beq_iff_calls_eq (hnew.of_replay hcopy).isBuilt hbuilt
  rw [← apart_map_toCall_iff]
  constructor
  · rintro ⟨copy, hcopy, hequal⟩
    refine ⟨⟨_, (hnew.replay_eq_ok hcopy).2.2⟩, ?_⟩
    rw [← (hbeq hcopy).mp hequal]
    exact (hnew.of_replay hcopy).apart_calls
  · rintro ⟨⟨mode, hall⟩, hapart⟩
    obtain ⟨copy, hcopy, hcalls, -⟩ := exists_copy hall hapart
    exact ⟨copy, hcopy, (hbeq hcopy).mpr hcalls⟩

/-- **Replays into a buffer.** Whatever was done to a buffer, it takes a replay as `Merges` says. -/
theorem merges_of_reachable {buffer : Buffer} (hbuffer : buffer.Reachable) : buffer.Merges := by
  have h : buffer.Coherent := hbuffer.coherent
  have hnew : Coherent {} := Coherent.new {}
  constructor
  · intro actions
    exact h.exists_replay_eq_ok_iff
  · intro actions next hreplay
    obtain ⟨hcalls, hmode, -⟩ := h.replay_eq_ok hreplay
    exact ⟨(h.of_replay hreplay).beq_coalesced hcalls, hmode⟩
  · intro actions last error hreplay
    obtain ⟨entry, hentry, hkind, hmode, hrefused, hne, hbefore, hlast⟩ := h.replay_eq_error hreplay
    obtain ⟨hcalls, hlastmode, hall⟩ := h.replay_eq_ok hbefore
    rw [← hlastmode, hlast, ← hmode] at hall
    exact ⟨entry, hentry, hkind, hmode, hrefused, hne, hall,
      (h.of_replay hbefore).beq_coalesced hcalls, hlast⟩
  · intro actions hbuilt
    exact exists_reproduction_iff hbuilt
  · obtain ⟨copy, hcopy, hcalls, hmode⟩ := h.exists_copy
    exact ⟨copy, hcopy, (hnew.of_replay hcopy).beq_of_calls_eq h hcalls, hmode⟩
  · intro actions copy hcopy
    have hcoherent := hnew.of_replay hcopy
    obtain ⟨again, hagain, hcalls, hmode⟩ := hcoherent.exists_copy
    exact ⟨again, hagain, (hnew.of_replay hagain).beq_of_calls_eq hcoherent hcalls, hmode⟩
  · intro other hother hmodes
    obtain ⟨next, hnext, hcalls, hmode⟩ := h.exists_joined hother.coherent hmodes
    obtain ⟨both, hboth, hbothcalls, hbothmode⟩ := h.exists_copy_joined hother.coherent hmodes
    have hcoherent := h.of_replay hnext
    refine ⟨next, both, hnext, hboth,
      hcoherent.beq_of_calls_eq (hnew.of_replay hboth) (hcalls.trans hbothcalls.symm),
      hcoherent.beq_coalesced hcalls, hmode, hbothmode.trans hmode.symm, ?_⟩
    rw [Log.size_eq_length_calls, Log.size_eq_length_calls, Log.size_eq_length_calls, hcalls]
    exact length_coalesced_append h.apart_calls hother.coherent.apart_calls

/-- A buffer with text takes more text and a flush, and is then refused bytes, even none. -/
theorem text_buffer_merges :
    ∃ buffer last : Buffer, buffer.Reachable ∧ buffer.Merges ∧
      replay [.writeText "b", .flush, .writeBytes .empty, .close] buffer =
          .error { index := 2, kind := .writeBytes,
                   cause := { established := .text, refused := .bytes } } last ∧
        last.log.calls = [.writeText "ab", .flush] := by
  have hreachable : Reachable { log := { entries := [.writeText "a"] }, mode := some .text } :=
    ⟨[.create {}, .step 0 (.call (.writeText "a"))], List.mem_singleton.mpr rfl⟩
  exact ⟨_, _, hreachable, merges_of_reachable hreachable, rfl, rfl⟩

end Buffer

end DeferredResponse
