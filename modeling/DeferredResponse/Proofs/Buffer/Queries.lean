import DeferredResponse.Proofs.Buffer.Coherent
import Mathlib.Algebra.BigOperators.Group.List.Basic
import Mathlib.Algebra.GroupWithZero.Nat

/-!
# Queries and calls

The queries of a log are scans of its entries. What they answer about the log of a buffer is said
here of the calls that were made on the buffer, as long as it was not reset.

1. A call that does not write to the body is never refused and is an entry by itself. So these calls
   are the same, in the same order, among all calls that were made, among those that were accepted
   (`besidesBody_accepted`) and in the log (`besidesBody_coalesced`).
2. The body entries are the maximal runs of accepted body writes
   (`countP_isBodyWrite_coalesced`), and all of them are of the kind of the first one
   (`Coherent.count_operation`).
3. The scans of one log agree with each other (`Log.sum_count`, `Log.count_kinds`,
   `Log.contains_iff`, `Log.isRedirect_iff_isSome`).

`queries_tell_calls` puts this together.
-/

namespace DeferredResponse

open Operation

namespace Operation

/-- The address to which an operation sends the client. -/
def redirectUrl? {β : Type} : Operation β → Option String
  | sendRedirect url => some url
  | _ => none

theorem redirectUrl?_eq_some_iff {β : Type} {op : Operation β} {url : String} :
    op.redirectUrl? = some url ↔ op = .sendRedirect url := by
  cases op <;> simp [redirectUrl?]

theorem redirectUrl?_eq_none_iff {β : Type} {op : Operation β} :
    op.redirectUrl? = none ↔ op.kind ≠ .sendRedirect := by
  cases op <;> simp [redirectUrl?, kind]

theorem redirectUrl?_toCall (action : Action) : action.toCall.redirectUrl? = action.redirectUrl? := by
  cases action <;> rfl

theorem exists_sendError_iff {β : Type} {ops : List (Operation β)} :
    (∃ op ∈ ops, op.kind = .sendError) ↔ ∃ code message, sendError code message ∈ ops := by
  constructor
  · rintro ⟨op, hop, hkind⟩
    cases op with
    | sendError code message => exact ⟨code, message, hop⟩
    | _ => cases hkind
  · rintro ⟨code, message, hop⟩
    exact ⟨_, hop, rfl⟩

/-! ## Calls that do not write to the body -/

/-- The calls that do not write to the body. -/
def besidesBody (calls : List Call) : List Call := calls.filter fun call => !call.isBodyWrite

theorem besidesBody_append (xs ys : List Call) :
    besidesBody (xs ++ ys) = besidesBody xs ++ besidesBody ys := List.filter_append xs ys

theorem besidesBody_eq_nil {calls : List Call} (h : ∀ call ∈ calls, call.isBodyWrite = true) :
    besidesBody calls = [] := by
  unfold besidesBody
  rw [List.filter_eq_nil_iff]
  intro call hcall
  rw [h call hcall]
  decide

theorem countP_besidesBody {kind : Kind} (h : kind.isBodyWrite = false) (calls : List Call) :
    (besidesBody calls).countP (·.kind = kind) = calls.countP (·.kind = kind) := by
  unfold besidesBody
  rw [List.countP_filter]
  refine List.countP_congr fun call _ => ?_
  rw [Bool.and_eq_true, decide_eq_true_iff]
  refine and_iff_left_of_imp ?_
  rintro rfl
  rw [isBodyWrite, h]
  rfl

theorem filterMap_redirectUrl?_besidesBody (calls : List Call) :
    (besidesBody calls).filterMap redirectUrl? = calls.filterMap redirectUrl? := by
  unfold besidesBody
  rw [List.filterMap_filter]
  refine List.filterMap_congr fun call _ => ?_
  cases call <;> rfl

/-! ## Runs of body writes -/

/-- The maximal runs of adjacent body writes. -/
def writeRuns (calls : List Call) : List (List Call) :=
  (calls.splitBy inOneRun).filter fun run => run.any isBodyWrite

/-- A run is a single call or consists of body writes. -/
theorem exists_eq_singleton_or_forall {run : List Call} (hne : run ≠ [])
    (hrun : run.IsChain fun a b => inOneRun a b) :
    (∃ call, run = [call]) ∨ ∀ call ∈ run, call.isBodyWrite = true := by
  induction run with
  | nil => exact absurd rfl hne
  | cons first rest ih =>
    cases rest with
    | nil => exact .inl ⟨first, rfl⟩
    | cons second rest =>
      obtain ⟨hpair, hrest⟩ := List.isChain_cons_cons.mp hrun
      obtain ⟨hfirst, hsecond⟩ : first.isBodyWrite = true ∧ second.isBodyWrite = true := by
        simpa [inOneRun] using hpair
      refine .inr (List.forall_mem_cons.mpr ⟨hfirst, ?_⟩)
      rcases ih (List.cons_ne_nil _ _) hrest with ⟨call, hcall⟩ | hall
      · obtain ⟨rfl, rfl⟩ := List.cons.inj hcall
        exact List.forall_mem_singleton.mpr hsecond
      · exact hall

/-- What a run is merged into writes to the body if the run does, and is the same call otherwise. -/
theorem merged_cases {run : List Call} (hne : run ≠ [])
    (hrun : run.IsChain fun a b => inOneRun a b) :
    (∃ call, run = [call] ∧ merged run = some call) ∨
      (∀ call ∈ run, call.isBodyWrite = true) ∧
        ∃ call, merged run = some call ∧ call.isBodyWrite = true := by
  rcases exists_eq_singleton_or_forall hne hrun with ⟨call, rfl⟩ | hall
  · exact .inl ⟨call, rfl, merged_singleton call⟩
  · have hfirst : run.head? = some (run.head hne) := List.head?_eq_some_head hne
    obtain ⟨call, hcall, hmode⟩ := exists_merged hfirst
    refine .inr ⟨hall, call, hcall, ?_⟩
    rw [isBodyWrite_eq_isSome, hmode, ← isBodyWrite_eq_isSome]
    exact hall _ (List.head_mem hne)

/-- Merging runs of body writes leaves all other calls as they are. -/
theorem besidesBody_coalesced (calls : List Call) :
    besidesBody (coalesced calls) = besidesBody calls := by
  have hruns : ∀ run ∈ calls.splitBy inOneRun,
      besidesBody (merged run).toList = besidesBody run := by
    intro run hrun
    rcases merged_cases (List.ne_nil_of_mem_splitBy hrun) (List.isChain_of_mem_splitBy hrun) with
      ⟨call, rfl, hcall⟩ | ⟨hall, call, hcall, hbody⟩
    · rw [hcall]
      rfl
    · rw [hcall, besidesBody_eq_nil hall]
      exact besidesBody_eq_nil (List.forall_mem_singleton.mpr hbody)
  calc besidesBody (coalesced calls)
      = ((calls.splitBy inOneRun).map fun run => besidesBody (merged run).toList).flatten := by
        unfold coalesced besidesBody
        rw [List.filterMap_eq_flatMap_toList, List.filter_flatMap, List.flatMap_def]
    _ = ((calls.splitBy inOneRun).map besidesBody).flatten := by rw [List.map_congr_left hruns]
    _ = besidesBody (calls.splitBy inOneRun).flatten := by
        unfold besidesBody
        rw [List.filter_flatten]
    _ = besidesBody calls := by rw [List.flatten_splitBy]

/-- Every maximal run of body writes becomes one body write. -/
theorem countP_isBodyWrite_coalesced (calls : List Call) :
    (coalesced calls).countP isBodyWrite = (writeRuns calls).length := by
  unfold coalesced writeRuns
  rw [List.countP_filterMap, ← List.countP_eq_length_filter]
  refine List.countP_congr fun run hrun => ?_
  rcases merged_cases (List.ne_nil_of_mem_splitBy hrun) (List.isChain_of_mem_splitBy hrun) with
    ⟨call, rfl, hcall⟩ | ⟨hall, call, hcall, hbody⟩
  · simp [hcall]
  · obtain ⟨first, hfirst⟩ := List.exists_mem_of_ne_nil run (List.ne_nil_of_mem_splitBy hrun)
    have hany : run.any isBodyWrite = true := List.any_eq_true.mpr ⟨first, hfirst, hall first hfirst⟩
    simp [hcall, hbody, hany]

end Operation

/-! ## Scans of one log -/

namespace Log

theorem count_eq_countP_calls (log : Log) (kind : Kind) :
    log.count kind = log.calls.countP (·.kind = kind) := by
  unfold count calls
  rw [List.countP_map]
  refine List.countP_congr fun entry _ => ?_
  rw [Function.comp_apply, kind_toCall]

theorem contains_iff (log : Log) (kind : Kind) : log.contains kind = true ↔ 0 < log.count kind := by
  unfold contains count
  rw [List.any_eq_true, List.countP_pos_iff]

theorem length_kinds (log : Log) : log.kinds.length = log.size := List.length_map _

theorem count_kinds (log : Log) (kind : Kind) : log.kinds.count kind = log.count kind := by
  unfold kinds count
  rw [List.count_eq_countP, List.countP_map]
  refine List.countP_congr fun entry _ => ?_
  rw [Function.comp_apply, beq_iff_eq, decide_eq_true_iff]

/-- Every entry is of one kind. -/
theorem sum_count (log : Log) : (Kind.all.map log.count).sum = log.size := by
  obtain ⟨entries⟩ := log
  induction entries with
  | nil => rfl
  | cons entry rest ih =>
    have hcount : (Log.mk (entry :: rest)).count =
        fun kind => (Log.mk rest).count kind + if entry.kind = kind then 1 else 0 := by
      funext kind
      simp only [count, List.countP_cons, decide_eq_true_iff]
    have hone : (Kind.all.map fun kind => if entry.kind = kind then 1 else 0).sum = 1 := by
      cases entry.kind <;> rfl
    rw [hcount, List.sum_map_add, ih, hone]
    rfl

theorem redirectLocation?_eq_findSome? (log : Log) :
    log.redirectLocation? = log.entries.reverse.findSome? redirectUrl? := by
  refine congrArg (List.findSome? · log.entries.reverse) (funext fun entry => ?_)
  cases entry <;> rfl

theorem redirectLocation?_eq (log : Log) :
    log.redirectLocation? = (log.calls.filterMap redirectUrl?).getLast? := by
  rw [redirectLocation?_eq_findSome?, ← List.getLast?_filterMap, calls, List.filterMap_map]
  exact congrArg _ (List.filterMap_congr fun entry _ => (redirectUrl?_toCall entry).symm)

theorem isRedirect_iff_isSome (log : Log) :
    log.isRedirect = true ↔ log.redirectLocation?.isSome = true := by
  rw [redirectLocation?_eq_findSome?, List.findSome?_isSome_iff]
  unfold isRedirect
  rw [List.any_eq_true]
  refine exists_congr fun entry => ?_
  rw [List.mem_reverse]
  cases entry <;> simp [redirectUrl?]

end Log

namespace Buffer

/-- The body entries are all of the kind of the mode. -/
theorem Coherent.count_operation {buffer : Buffer} (h : buffer.Coherent) (mode : BodyMode) :
    buffer.log.count mode.operation =
      if buffer.mode = some mode then buffer.log.calls.countP isBodyWrite else 0 := by
  split
  · next hmode =>
    have hall := ((h.mode_eq_some_iff mode).mp hmode).2
    unfold Log.count Log.calls
    rw [List.countP_map]
    refine List.countP_congr fun entry hentry => ?_
    rw [decide_eq_true_iff, Function.comp_apply, isBodyWrite, kind_toCall]
    exact ⟨fun hkind => Kind.isBodyWrite_iff.mpr ⟨mode, hkind⟩, hall entry hentry⟩
  · next hmode =>
    rw [← Log.count_kinds, List.count_eq_zero]
    exact fun hkind => hmode ((h.mem_kinds_iff mode).mp hkind)

namespace History

/-! ## Calls that were made -/

/-- The calls that steps make, those that are refused included. -/
def made (steps : List Step) : List Call := steps.flatMap Step.calls

theorem buffer_add (history : History) (step : Step) :
    (history.add step).buffer = endState (step.run history.buffer) := by
  unfold add
  cases step.run history.buffer <;> rfl

theorem coherent_ofSteps (config : Config) (steps : List Step) :
    (ofSteps config steps).buffer.Coherent := by
  unfold ofSteps
  induction steps using List.reverseRecOn with
  | nil => exact Coherent.new config
  | append_singleton steps step ih =>
    rw [List.foldl_append, List.foldl_cons, List.foldl_nil, buffer_add]
    exact ih.step step

/-- Only body writes are refused. -/
theorem besidesBody_accepted (config : Config) {steps : List Step} (h : .reset ∉ steps) :
    besidesBody (ofSteps config steps).accepted = besidesBody (made steps) := by
  unfold ofSteps made
  induction steps using List.reverseRecOn with
  | nil => rfl
  | append_singleton steps step ih =>
    rw [List.mem_append, List.mem_singleton, not_or] at h
    obtain ⟨hsteps, hstep⟩ := h
    rw [List.foldl_append, List.foldl_cons, List.foldl_nil, List.flatMap_append,
      List.flatMap_singleton, besidesBody_append, ← ih hsteps, add_eq]
    cases hconflict : (steps.foldl add (start config)).buffer.conflict? step.mode? with
    | some conflict =>
      obtain ⟨-, hmode, -⟩ := conflict?_eq_some_iff.mp hconflict
      have hcalls : besidesBody step.calls = [] := besidesBody_eq_nil fun call hcall =>
        isBodyWrite_of_mode? ((Step.mode?_of_mem_calls hcall).trans hmode)
      rw [hcalls, List.append_nil]
    | none =>
      simp only [if_neg (Ne.symm hstep)]
      exact besidesBody_append _ _

/-- So the log holds them all. -/
theorem besidesBody_calls (config : Config) {steps : List Step} (h : .reset ∉ steps) :
    besidesBody (ofSteps config steps).buffer.log.calls = besidesBody (made steps) := by
  rw [(Faithful.ofSteps config steps).calls_eq, besidesBody_coalesced,
    besidesBody_accepted config h]

end History

/-! ## Answers -/

/-- What the queries of a log answer is so of the calls that were made and of those of them that
were accepted. -/
structure Tells (log : Log) (made accepted : List Call) : Prop where
  /-- Calls that do not write to the body are counted one by one. -/
  count_eq : ∀ kind : Kind, kind.isBodyWrite = false →
    log.count kind = made.countP (·.kind = kind)
  /-- Body writes are counted by their runs, all under the kind of the first one. -/
  count_operation_eq : ∀ mode : BodyMode, log.count mode.operation =
    if accepted.findSome? Operation.mode? = some mode then (writeRuns accepted).length else 0
  sum_count : (Kind.all.map log.count).sum = log.size
  contains_iff : ∀ kind : Kind, log.contains kind = true ↔ 0 < log.count kind
  length_kinds : log.kinds.length = log.size
  count_kinds : ∀ kind : Kind, log.kinds.count kind = log.count kind
  hasError_iff : log.hasError = true ↔ ∃ code message, .sendError code message ∈ made
  isRedirect_iff : log.isRedirect = true ↔ log.redirectLocation?.isSome = true
  /-- The address is that of the last redirect. -/
  redirectLocation?_eq_some_iff : ∀ url : String, log.redirectLocation? = some url ↔
    ∃ before after, made = before ++ .sendRedirect url :: after ∧
      ∀ call ∈ after, call.kind ≠ .sendRedirect

namespace History

variable {steps : List Step}

theorem count_eq (config : Config) (h : .reset ∉ steps) {kind : Kind}
    (hkind : kind.isBodyWrite = false) :
    (ofSteps config steps).buffer.log.count kind = (made steps).countP (·.kind = kind) := by
  rw [Log.count_eq_countP_calls, ← countP_besidesBody hkind, besidesBody_calls config h,
    countP_besidesBody hkind]

theorem count_operation_eq (config : Config) (steps : List Step) (mode : BodyMode) :
    (ofSteps config steps).buffer.log.count mode.operation =
      if (ofSteps config steps).established = some mode
      then (writeRuns (ofSteps config steps).accepted).length else 0 := by
  have h := Faithful.ofSteps config steps
  rw [(coherent_ofSteps config steps).count_operation, h.mode_eq, h.calls_eq,
    countP_isBodyWrite_coalesced]

theorem redirectLocation?_eq_some_iff (config : Config) (h : .reset ∉ steps) (url : String) :
    (ofSteps config steps).buffer.log.redirectLocation? = some url ↔
      ∃ before after, made steps = before ++ .sendRedirect url :: after ∧
        ∀ call ∈ after, call.kind ≠ .sendRedirect := by
  rw [Log.redirectLocation?_eq, ← filterMap_redirectUrl?_besidesBody, besidesBody_calls config h,
    filterMap_redirectUrl?_besidesBody, List.getLast?_filterMap, List.findSome?_eq_some_iff]
  constructor
  · rintro ⟨after, call, before, hmade, hcall, hafter⟩
    obtain rfl := redirectUrl?_eq_some_iff.mp hcall
    refine ⟨before.reverse, after.reverse, ?_, ?_⟩
    · rw [← List.reverse_reverse (made steps), hmade]
      simp
    · intro later hlater
      exact redirectUrl?_eq_none_iff.mp (hafter later (List.mem_reverse.mp hlater))
  · rintro ⟨before, after, hmade, hafter⟩
    refine ⟨after.reverse, .sendRedirect url, before.reverse, ?_, rfl, ?_⟩
    · rw [hmade]
      simp
    · intro later hlater
      exact redirectUrl?_eq_none_iff.mpr (hafter later (List.mem_reverse.mp hlater))

theorem hasError_iff (config : Config) (h : .reset ∉ steps) :
    (ofSteps config steps).buffer.log.hasError = true ↔
      ∃ code message, .sendError code message ∈ made steps := by
  rw [Log.hasError, Log.contains_iff, count_eq config h rfl, List.countP_pos_iff]
  simp only [decide_eq_true_iff]
  exact exists_sendError_iff

/-- **Queries are facts about calls.** Let any steps but resets be taken on a new buffer. Each kind
of call that does not write to the body is counted as often as it was called. Under the kind of the
first accepted body write the maximal runs of accepted body writes are counted, and refused writes
neither count nor part a run; under the other kind of body write nothing is counted. All counts add
up to the number of entries, a kind is contained if its count is positive, and the list of kinds has
each of them as often as it is counted. An error is reported if one was sent, and a redirect if it
has an address, which is that of the last redirect that was sent. -/
theorem queries_tell_calls (config : Config) (steps : List Step) (h : .reset ∉ steps) :
    Tells (ofSteps config steps).buffer.log (made steps) (ofSteps config steps).accepted where
  count_eq _ := count_eq config h
  count_operation_eq := count_operation_eq config steps
  sum_count := Log.sum_count _
  contains_iff := Log.contains_iff _
  length_kinds := Log.length_kinds _
  count_kinds := Log.count_kinds _
  hasError_iff := hasError_iff config h
  isRedirect_iff := Log.isRedirect_iff_isSome _
  redirectLocation?_eq_some_iff := redirectLocation?_eq_some_iff config h

/-- Two runs of text with a flush between them, the first around refused bytes, and two redirects. -/
theorem refused_bytes_part_no_run :
    ∃ steps : List Step, .reset ∉ steps ∧
      Tells (ofSteps {} steps).buffer.log (made steps) (ofSteps {} steps).accepted ∧
      (made steps).countP (·.kind = .writeBytes) = 1 ∧
      (ofSteps {} steps).buffer.log.count .writeText = 2 ∧
      (ofSteps {} steps).buffer.log.redirectLocation? = some "/new" := by
  let steps : List Step := [.call (.writeText "a"), .slice [1], .format ["b", "c"], .streamFlush,
    .call (.writeText ""), .call (.sendRedirect "/old"), .call (.sendRedirect "/new")]
  have hsteps : .reset ∉ steps := by decide
  exact ⟨steps, hsteps, queries_tell_calls {} steps hsteps, by decide +kernel, by decide +kernel,
    by decide +kernel⟩

end History

end Buffer

end DeferredResponse
