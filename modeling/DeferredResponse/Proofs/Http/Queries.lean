import DeferredResponse.Proofs.Buffer.Queries
import DeferredResponse.Proofs.Http.Reference

/-!
# What the queries of a log foretell

A log answers whether it redirects, and where to, and whether it sends an error, by scans of its
entries that know nothing of replays. A redirect or an error takes the place of the body, and
whatever follows it is refused, but for flushes and closes. So a list that is replayed to its end
has at most one such entry (`exists_concludedBy`): the first of them is the last, and the scans find
it as the replay does. The response is then read off the reference response of the calls.

`queries_foretell_replay` says this of every log, and where the replay fails of a log with two such
entries: the second one is late, whatever else is in the log.
-/

namespace DeferredResponse

open Operation

namespace Kind

/-- Whether operations of this kind take the place of the body. -/
def replacesBody : Kind → Bool
  | sendError | sendRedirect => true
  | _ => false

theorem isHead_of_replacesBody {kind : Kind} (h : kind.replacesBody = true) :
    kind.isHead = true := by
  cases kind with
  | sendError | sendRedirect => rfl
  | _ => cases h

theorem endsHead_of_replacesBody {kind : Kind} (h : kind.replacesBody = true) :
    kind.endsHead = true := by
  cases kind with
  | sendError | sendRedirect => rfl
  | _ => cases h

theorem replacesBody_of_endsBody {kind : Kind} (h : kind.endsBody = false) :
    kind.replacesBody = false := by
  cases kind with
  | sendError | sendRedirect => cases h
  | _ => rfl

end Kind

theorem Operation.map_kind_map_toCall (actions : List Action) :
    (actions.map toCall).map kind = actions.map kind := by
  simp [Function.comp_def]

/-- The final action takes the place of the body; no action before it does, and only flushes and
closes follow it. -/
def ConcludedBy (final : Action) (actions : List Action) : Prop :=
  ∃ before after, actions = before ++ final :: after ∧ final.kind.replacesBody = true ∧
    (∀ a ∈ before, a.kind.replacesBody = false) ∧ ∀ a ∈ after, a = .flush ∨ a = .close

namespace ConcludedBy

variable {final : Action} {actions : List Action}

theorem mem (h : ConcludedBy final actions) : final ∈ actions := by
  obtain ⟨before, after, rfl, -⟩ := h
  exact List.mem_append_right before List.mem_cons_self

theorem concat (h : ConcludedBy final actions) {action : Action}
    (haction : action = .flush ∨ action = .close) : ConcludedBy final (actions ++ [action]) := by
  obtain ⟨before, after, rfl, hfinal, hbefore, hafter⟩ := h
  refine ⟨before, after ++ [action], by simp, hfinal, hbefore, ?_⟩
  intro a ha
  rcases List.mem_append.mp ha with ha | ha
  · exact hafter a ha
  · rw [List.mem_singleton.mp ha]
    exact haction

/-- What is asked of redirects and errors alone is answered by the final action. -/
theorem filterMap_eq (h : ConcludedBy final actions) {γ : Type} {f : Action → Option γ}
    (hf : ∀ a : Action, a.kind.replacesBody = false → f a = none) :
    actions.filterMap f = (f final).toList := by
  obtain ⟨before, after, rfl, -, hbefore, hafter⟩ := h
  have hnone : before.filterMap f = [] ∧ after.filterMap f = [] := by
    simp only [List.filterMap_eq_nil_iff]
    refine ⟨fun a ha => hf a (hbefore a ha), fun a ha => hf a ?_⟩
    rcases hafter a ha with rfl | rfl <;> rfl
  rw [List.filterMap_append, List.filterMap_cons, hnone.1, hnone.2]
  cases f final <;> rfl

theorem filter_eq (h : ConcludedBy final actions) {kind : Kind} (hkind : kind.replacesBody = true) :
    actions.filter (·.kind = kind) = if final.kind = kind then [final] else [] := by
  rw [← List.filterMap_eq_filter, h.filterMap_eq]
  · by_cases hfinal : final.kind = kind <;> simp [Option.guard, hfinal]
  · intro a ha
    have hne : a.kind ≠ kind := by
      rintro rfl
      rw [ha] at hkind
      cases hkind
    simp [Option.guard, hne]

/-- No other action takes the place of the body. -/
theorem eq_of_mem (h : ConcludedBy final actions) {action : Action} (hmem : action ∈ actions)
    (haction : action.kind.replacesBody = true) : action = final := by
  have hfilter : action ∈ actions.filter (·.kind = action.kind) :=
    List.mem_filter.mpr ⟨hmem, decide_eq_true rfl⟩
  rw [h.filter_eq haction] at hfilter
  split at hfilter
  · exact List.mem_singleton.mp hfilter
  · cases hfilter

end ConcludedBy

/-! ## Queries -/

namespace Log

variable {log : Log}

theorem isRedirect_iff : log.isRedirect = true ↔ ∃ url, .sendRedirect url ∈ log.entries := by
  unfold isRedirect
  rw [List.any_eq_true]
  constructor
  · rintro ⟨entry, hentry, hredirect⟩
    cases entry with
    | sendRedirect url => exact ⟨url, hentry⟩
    | _ => cases hredirect
  · rintro ⟨url, hentry⟩
    exact ⟨_, hentry, rfl⟩

theorem hasError_iff :
    log.hasError = true ↔ ∃ code message, .sendError code message ∈ log.entries := by
  unfold hasError contains
  rw [List.any_eq_true]
  simp only [decide_eq_true_iff]
  exact exists_sendError_iff

theorem redirectLocation?_of_concludedBy {url : String}
    (h : ConcludedBy (.sendRedirect url) log.entries) : log.redirectLocation? = some url := by
  unfold redirectLocation?
  rw [← List.getLast?_filterMap, h.filterMap_eq]
  · rfl
  · intro entry hentry
    cases entry with
    | sendRedirect url => cases hentry
    | _ => rfl

theorem count_of_concludedBy {final : Action} (h : ConcludedBy final log.entries) {kind : Kind}
    (hkind : kind.replacesBody = true) : log.count kind = if final.kind = kind then 1 else 0 := by
  unfold count
  rw [List.countP_eq_length_filter, h.filter_eq hkind]
  split <;> rfl

theorem count_eq_zero (h : ∀ entry ∈ log.entries, entry.kind.replacesBody = false) {kind : Kind}
    (hkind : kind.replacesBody = true) : log.count kind = 0 := by
  unfold count
  rw [List.countP_eq_zero]
  intro entry hentry heq
  rw [← of_decide_eq_true heq, h entry hentry] at hkind
  cases hkind

end Log

namespace Http

variable {final : Action} {actions : List Action}

/-- The value that the final action gives to a header is not replaced by a later one. -/
theorem lastValue?_of_concludedBy (h : ConcludedBy final actions) {name value : String}
    (hvalue : value? name final.toCall = some value) :
    lastValue? (actions.map toCall) name = some value := by
  obtain ⟨before, after, rfl, -, -, hafter⟩ := h
  have hnone : (after.map toCall).filterMap (value? name) = [] := by
    rw [List.filterMap_eq_nil_iff]
    intro call hcall
    obtain ⟨a, ha, rfl⟩ := List.mem_map.mp hcall
    rcases hafter a ha with rfl | rfl <;> rfl
  unfold lastValue?
  rw [List.map_append, List.map_cons, List.filterMap_append, List.filterMap_cons, hvalue, hnone,
    List.getLast?_concat]

theorem any_isRedirect_of_concludedBy (h : ConcludedBy final actions) :
    (actions.map toCall).any isRedirect = isRedirect final.toCall := by
  rw [Bool.eq_iff_iff, List.any_map, List.any_eq_true]
  constructor
  · rintro ⟨action, hmem, hredirect⟩
    have hkind : action.kind.replacesBody = true := by
      cases action with
      | sendRedirect url => rfl
      | _ => cases hredirect
    rwa [← h.eq_of_mem hmem hkind]
  · exact fun hredirect => ⟨final, h.mem, hredirect⟩

theorem findSome?_error?_of_concludedBy (h : ConcludedBy final actions) :
    (actions.map toCall).findSome? error? = error? final.toCall := by
  rw [List.findSome?_map, ← List.head?_filterMap, h.filterMap_eq, Option.head?_toList]
  · rfl
  · intro action haction
    cases action with
    | sendError code message => cases haction
    | _ => rfl

namespace Draft

/-- Of actions that are replayed to their end none takes the place of the body, or one does and
concludes them. -/
theorem exists_concludedBy {actions : List Action} {draft : Draft}
    (h : issue (actions.map toCall) ({} : Draft) = .ok () draft) :
    (∀ a ∈ actions, a.kind.replacesBody = false) ∨ ∃ final, ConcludedBy final actions := by
  induction actions using List.reverseRecOn generalizing draft with
  | nil => exact .inl fun _ hnil => absurd hnil List.not_mem_nil
  | append_singleton actions action ih =>
    rw [List.map_append, List.map_singleton] at h
    obtain ⟨earlier, hearlier, hrefusal, -⟩ := issue_concat_eq_ok_iff.mp h
    rw [refusal?_eq_offenceAfter? hearlier, offenceAfter?, map_kind_map_toCall, kind_toCall]
      at hrefusal
    have hlate : ¬ IsLate (actions.map kind) action.kind := by
      intro hlate
      rw [if_pos hlate] at hrefusal
      cases hrefusal
    by_cases hkind : action.kind.isHead = true ∨ action.kind.isBodyWrite = true
    · -- The body is open, so that the action may conclude the list, but none before it does.
      have hbefore : ∀ a ∈ actions, a.kind.replacesBody = false := fun a ha =>
        Kind.replacesBody_of_endsBody <|
          endsBody_eq_false_of_not_isLate hlate hkind a.kind (List.mem_map_of_mem ha)
      cases hfinal : action.kind.replacesBody with
      | true =>
        exact .inr ⟨action, actions, [], rfl, hfinal, hbefore,
          fun _ hnil => absurd hnil List.not_mem_nil⟩
      | false =>
        exact .inl (List.forall_mem_append.mpr ⟨hbefore, List.forall_mem_singleton.mpr hfinal⟩)
    · have hidle := idle_of_kind hkind
      rcases ih hearlier with hnone | ⟨final, hfinal⟩
      · refine .inl (List.forall_mem_append.mpr ⟨hnone, List.forall_mem_singleton.mpr ?_⟩)
        rcases hidle with rfl | rfl <;> rfl
      · exact .inr ⟨final, hfinal.concat hidle⟩

/-- So an action that takes the place of the body concludes them. -/
theorem concludedBy_of_mem {actions : List Action} {draft : Draft}
    (h : issue (actions.map toCall) ({} : Draft) = .ok () draft) {action : Action}
    (hmem : action ∈ actions) (haction : action.kind.replacesBody = true) :
    ConcludedBy action actions := by
  rcases exists_concludedBy h with hnone | ⟨final, hfinal⟩
  · rw [hnone action hmem] at haction
    cases haction
  · rw [hfinal.eq_of_mem hmem haction]
    exact hfinal

/-! ## The response -/

theorem Shows.not_mem_names {draft : Draft} {calls : List Call} (h : Shows draft calls)
    {name : String} (hname : finalValues calls name = []) : name ∉ draft.headers.names := by
  rw [h.wellFormed.mem_names_iff, h.values_eq]
  exact not_not_intro hname

/-- What a redirect makes of the response. -/
theorem Shows.of_redirect {draft : Draft} {actions : List Action} {url : String}
    (h : Shows draft (actions.map toCall)) (hfinal : ConcludedBy (.sendRedirect url) actions) :
    draft.status = 302 ∧ draft.headers.values location = [url] ∧ draft.body.toBytes = [] ∧
      contentLength ∉ draft.headers.names := by
  have hredirect : (actions.map toCall).any isRedirect = true :=
    any_isRedirect_of_concludedBy hfinal
  have hlocation : lastValue? (actions.map toCall) location = some url :=
    lastValue?_of_concludedBy hfinal rfl
  refine ⟨?_, ?_, ?_, h.not_mem_names ?_⟩
  · rw [h.status_eq, finalStatus, if_pos hredirect]
  · rw [h.values_eq, finalValues, hlocation]
    rfl
  · rw [h.body_eq, finalBody, if_pos hredirect]
  · rw [finalValues, if_pos ⟨rfl, .inl hredirect⟩]

/-- What an error makes of the response. -/
theorem Shows.of_error {draft : Draft} {actions : List Action} {code : UInt16} {message : String}
    (h : Shows draft (actions.map toCall))
    (hfinal : ConcludedBy (.sendError code message) actions) :
    draft.status = code ∧ draft.body.toBytes = utf8 message ∧
      draft.headers.values contentType = [errorType] ∧ contentLength ∉ draft.headers.names := by
  have hredirect : (actions.map toCall).any isRedirect = false :=
    any_isRedirect_of_concludedBy hfinal
  have herror : (actions.map toCall).findSome? error? = some (code, message) :=
    findSome?_error?_of_concludedBy hfinal
  have htype : lastValue? (actions.map toCall) contentType = some errorType :=
    lastValue?_of_concludedBy hfinal rfl
  refine ⟨?_, ?_, ?_, h.not_mem_names ?_⟩
  · rw [h.status_eq, finalStatus, hredirect, herror]
    rfl
  · rw [h.body_eq, finalBody, hredirect, herror]
    rfl
  · rw [h.values_eq, finalValues, htype]
    rfl
  · rw [finalValues, herror, if_pos ⟨rfl, .inr rfl⟩]

end Draft

/-- What the queries of the log say is so of the response. -/
structure Foretells (log : Log) (response : Response) : Prop where
  count_le : log.count .sendError + log.count .sendRedirect ≤ 1
  not_both : ¬ (log.isRedirect = true ∧ log.hasError = true)
  /-- The redirect that is recorded last is the one that was applied. -/
  redirect : log.isRedirect = true → ∃ url, log.redirectLocation? = some url ∧
    response.status = 302 ∧ response.headers.values location = [url] ∧ response.body = [] ∧
      contentLength ∉ response.headers.names
  /-- The error that was applied is the only one that is recorded. -/
  error : log.hasError = true → ∃ code message,
    log.entries.filter (·.kind = .sendError) = [.sendError code message] ∧
      response.status = code ∧ response.body = utf8 message ∧
        response.headers.values contentType = [Draft.errorType] ∧
          contentLength ∉ response.headers.names

theorem foretells_of_issue {log : Log} {draft : Draft}
    (h : issue (log.entries.map toCall) ({} : Draft) = .ok () draft) :
    Foretells log draft.toResponse := by
  have hshows := Draft.shows_of_issue h
  have hcount : log.count .sendError + log.count .sendRedirect ≤ 1 := by
    rcases Draft.exists_concludedBy h with hnone | ⟨final, hfinal⟩
    · rw [Log.count_eq_zero hnone rfl, Log.count_eq_zero hnone rfl]
      exact Nat.zero_le 1
    · rw [Log.count_of_concludedBy hfinal rfl, Log.count_of_concludedBy hfinal rfl]
      cases final.kind <;> decide
  refine ⟨hcount, ?_, ?_, ?_⟩
  · rintro ⟨hredirect, herror⟩
    obtain ⟨url, hurl⟩ := Log.isRedirect_iff.mp hredirect
    obtain ⟨code, message, hmessage⟩ := Log.hasError_iff.mp herror
    cases (Draft.concludedBy_of_mem h hurl rfl).eq_of_mem hmessage rfl
  · intro hredirect
    obtain ⟨url, hurl⟩ := Log.isRedirect_iff.mp hredirect
    have hfinal := Draft.concludedBy_of_mem h hurl rfl
    exact ⟨url, Log.redirectLocation?_of_concludedBy hfinal, hshows.of_redirect hfinal⟩
  · intro herror
    obtain ⟨code, message, hmessage⟩ := Log.hasError_iff.mp herror
    have hfinal := Draft.concludedBy_of_mem h hmessage rfl
    exact ⟨code, message, hfinal.filter_eq rfl, hshows.of_error hfinal⟩

/-- The second of two actions that take the place of the body offends. -/
theorem offence?_of_replacesBody {actions : List Action} {i j : Nat} {first second : Action}
    (hij : i < j) (hi : actions[i]? = some first) (hj : actions[j]? = some second)
    (hfirst : first.kind.replacesBody = true) (hsecond : second.kind.replacesBody = true) :
    offence? (actions.map toCall) j = some (.committed second.kind) := by
  have htake : first ∈ actions.take j :=
    List.mem_of_getElem? ((List.getElem?_take_of_lt hij).trans hi)
  have hlate : IsLate ((actions.take j).map kind) second.kind :=
    .inl ⟨Kind.isHead_of_replacesBody hsecond, first.kind, List.mem_map_of_mem htake,
      Kind.endsHead_of_replacesBody hfirst⟩
  rw [offence?, List.getElem?_map, hj, ← List.map_take]
  show offenceAfter? ((actions.take j).map toCall) second.toCall = _
  rw [offenceAfter?, map_kind_map_toCall, kind_toCall, if_pos hlate]

/-- **Queries foretell replays.** Of a log that is replayed to its end on a new draft the queries
say what is so of the response. The replay of a log with two entries that redirect or send an error
stops, at the second of them at the latest. -/
theorem queries_foretell_replay (log : Log) :
    (∀ draft : Draft, log.replay ({} : Draft) = .ok () draft → Foretells log draft.toResponse) ∧
      ∀ (i j : Nat) (first second : Action), i < j → log.entries[i]? = some first →
        log.entries[j]? = some second → first.kind.replacesBody = true →
          second.kind.replacesBody = true →
            ∃ (error : ReplayError Refusal) (draft : Draft),
              log.replay ({} : Draft) = .error error draft ∧ error.index ≤ j := by
  refine ⟨fun draft hreplay => ?_, fun i j first second hij hi hj hfirst hsecond => ?_⟩
  · exact foretells_of_issue ((replay_eq_issue log.entries ({} : Draft)).symm.trans hreplay)
  · exact Draft.exists_replay_eq_error (offence?_of_replacesBody hij hi hj hfirst hsecond)

/-- A redirect foretells the location in spite of the header set before it; an error that follows it
ends the replay. -/
theorem redirect_foretold :
    ∃ (log : Log) (draft : Draft), log.replay ({} : Draft) = .ok () draft ∧
      Foretells log draft.toResponse ∧ log.isRedirect = true ∧
        draft.toResponse.headers.values location = ["/new"] ∧
          ∃ (error : ReplayError Refusal) (last : Draft),
            (log.push (.sendError 404 "gone")).replay ({} : Draft) = .error error last ∧
              error.index ≤ 6 := by
  let log : Log := {
    entries := [.setHeader "Location" "/old", .setContentLength 5, .writeText "moved",
      .sendRedirect "/new", .flush, .close] }
  exact ⟨log, _, rfl, (queries_foretell_replay log).1 _ rfl, rfl, rfl,
    (queries_foretell_replay (log.push (.sendError 404 "gone"))).2 3 6 _ _ (by decide) rfl rfl rfl
      rfl⟩

end Http

end DeferredResponse
