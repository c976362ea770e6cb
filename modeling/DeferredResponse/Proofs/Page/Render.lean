import DeferredResponse.Page
import DeferredResponse.Proofs.Attempt
import DeferredResponse.Proofs.Buffer.Fragments

/-!
# What rendering the page records

The page on a buffer in which anything may be recorded already. Whether it fails, and what it
records before it does, depends on the request and on the mode of the body that it finds.

1. A handler that makes calls one after another ends as `ended` says; handlers are put together by
   `bind_ended` and `bind_failed`.
2. The loop over the goods writes them up to the breakdown (`writeItems_eq`), so the pieces of the
   page are one write of its text (`renderHtml_eq`); the page as JSON is one write as well
   (`renderJson_eq`).
3. So the page records the calls `recorded` and fails by `failure?` (`render_eq`). Each body write
   among them stands behind a call that is none, so that every call is an entry of its own behind
   the old ones (`entries_render`).
-/

namespace DeferredResponse

open Operation

namespace Buffer

theorem push_eq_accept {call : Call} (h : call.mode? = none) (buffer : Buffer) :
    buffer.push call = buffer.accept call := by
  cases call with
  | writeText text => cases h
  | writeBytes bytes => cases h
  | _ => rfl

/-- Calls of which no two body writes are neighbours become entries of their own, if the last entry
and the first call are not both body writes either. -/
theorem entries_foldl_accept {calls : List Call} {buffer : Buffer}
    (hfirst : ∀ last ∈ buffer.log.last?, ∀ call ∈ calls.head?,
      ¬ (last.isBodyWrite = true ∧ call.isBodyWrite = true))
    (hcalls : calls.IsChain fun a b => ¬ (a.isBodyWrite = true ∧ b.isBodyWrite = true)) :
    (calls.foldl accept buffer).log.entries = buffer.log.entries ++ calls.map toAction := by
  induction calls generalizing buffer with
  | nil => exact (List.append_nil _).symm
  | cons call rest ih =>
    obtain ⟨hhead, hrest⟩ := List.isChain_cons.mp hcalls
    have hentries : (buffer.accept call).log.entries = buffer.log.entries ++ [call.toAction] := by
      rcases buffer.log.add_cases call with ⟨init, last, grown, hlog, hgrown, -⟩ | ⟨-, hadd⟩
      · obtain ⟨mode, hlast, hcall⟩ := exists_mode_of_extend? hgrown
        have hmem : last ∈ buffer.log.last? := by simp [Log.last?, hlog]
        exact absurd ⟨isBodyWrite_of_mode? hlast, isBodyWrite_of_mode? hcall⟩
          (hfirst last hmem call rfl)
      · exact hadd
    have hlast : (buffer.accept call).log.last? = some call.toAction := by
      rw [Log.last?, hentries, List.getLast?_concat]
    rw [List.foldl_cons, ih _ hrest, hentries, List.map_cons, List.append_assoc]
    · rfl
    · rw [hlast]
      rintro last ⟨⟩ next hnext
      rw [isBodyWrite, kind_toAction]
      exact hhead next hnext

end Buffer

namespace Page

open Buffer

/-! ## Handlers -/

/-- How a handler ends that makes calls, and then fails or not. -/
def ended (failure? : Option Failure) (calls : List Call) (buffer : Buffer) :
    EStateM.Result Failure Buffer Unit :=
  match failure? with
  | some failure => .error failure (calls.foldl accept buffer)
  | none => .ok () (calls.foldl accept buffer)

section Handlers

variable {first next : EStateM Failure Buffer Unit} {buffer : Buffer} {calls more : List Call}
  {failure? : Option Failure}

/-- A handler goes on where the one before it ended. -/
theorem bind_ended (hfirst : first buffer = ended none calls buffer)
    (hnext : next (calls.foldl accept buffer) = ended failure? more (calls.foldl accept buffer)) :
    (first >>= fun _ => next) buffer = ended failure? (calls ++ more) buffer := by
  have hbind : (first >>= fun _ => next) buffer = next (calls.foldl accept buffer) := by
    simp only [bind, EStateM.bind, hfirst, ended]
  rw [hbind, hnext]
  unfold ended
  rw [List.foldl_append]

/-- After a failure no other handler is run. -/
theorem bind_failed {failure : Failure} (hfirst : first buffer = ended (some failure) calls buffer)
    (next : EStateM Failure Buffer Unit) :
    (first >>= fun _ => next) buffer = ended (some failure) calls buffer := by
  simp only [bind, EStateM.bind, hfirst, ended]

theorem push_eq {call : Call} (h : call.mode? = none) (buffer : Buffer) :
    (modify (·.push call) : EStateM Failure Buffer Unit) buffer = ended none [call] buffer :=
  congrArg (EStateM.Result.ok ()) (push_eq_accept h buffer)

/-- A call that does not write to the body, and then another handler. -/
theorem push_bind {call : Call} (h : call.mode? = none)
    (hnext : next (buffer.accept call) = ended failure? more (buffer.accept call)) :
    (modify (·.push call) >>= fun _ => next) buffer = ended failure? (call :: more) buffer :=
  bind_ended (push_eq h buffer) hnext

end Handlers

section Writes

variable {buffer : Buffer} {established refused : BodyMode}

/-- A write to a body that is not in the other mode. -/
theorem adaptExcept_record_eq (hmode : buffer.mode ≠ some established) (call : Call)
    (hcall : call.mode? = some refused) (hother : established ≠ refused) :
    EStateM.adaptExcept Failure.conflict (record call) buffer = ended none [call] buffer := by
  have hnone : buffer.conflict? call.mode? = none := by
    rw [hcall]
    rcases buffer.conflict?_cases refused established hother with ⟨-, hnone⟩ | ⟨hmode', -⟩
    · exact hnone
    · exact absurd hmode' hmode
  unfold EStateM.adaptExcept
  rw [record_eq, hnone]
  rfl

theorem adaptExcept_record_failed (hmode : buffer.mode = some established) (call : Call)
    (hcall : call.mode? = some refused) (hother : established ≠ refused) :
    EStateM.adaptExcept Failure.conflict (record call) buffer =
      ended (some (.conflict { established, refused })) [] buffer := by
  have hsome : buffer.conflict? call.mode? = some { established, refused } := by
    rw [hcall]
    exact conflict?_eq_some_iff.mpr ⟨hmode, rfl, hother⟩
  unfold EStateM.adaptExcept
  rw [record_eq, hsome]
  rfl

end Writes

/-! ## HTML -/

def itemText (item : String) : String := "  <li>" ++ item ++ "</li>\n"

/-- The text in front of the goods. -/
def openingText : String := "<h1>" ++ title ++ "</h1>\n<ul>\n"

/-- The page as HTML. -/
def htmlText : String := openingText ++ String.join (goods.map itemText ++ ["</ul>"])

/-- As much of the page as HTML as is written when the inventory breaks down. -/
def brokenText : String :=
  openingText ++ String.join ((goods.take deliveredBeforeFailure).map itemText)

/-- The pieces of an item are one write, which is not refused once text has been written. -/
theorem writeFormatted_eq {buffer : Buffer} (h : buffer.mode = some .text) (item : String) :
    writeFormatted ["  <li>", item, "</li>\n"] buffer =
      .ok () (buffer.accept (.writeText (itemText item))) := by
  have hnone : buffer.conflict? (some .text) = none := by
    simp [conflict?, h]
  have htext : "  <li>" ++ String.join [item, "</li>\n"] = itemText item := by
    simp [itemText, String.append_assoc]
  have hpieces : writePieces ["  <li>", item, "</li>\n"] buffer =
      .ok () (buffer.accept (.writeText (itemText item))) := by
    rw [writePieces_eq, show (Step.format ["  <li>", item, "</li>\n"]).mode? = some .text from rfl,
      hnone, ← htext, ← Step.foldl_accept_writeText]
    rfl
  unfold writeFormatted EStateM.adaptExcept
  rw [hpieces]

theorem writeItems_cons {fail : Bool} {position : Nat} {buffer : Buffer}
    (hfail : ¬ (fail = true ∧ position = deliveredBeforeFailure)) (h : buffer.mode = some .text)
    (item : String) (rest : List String) :
    writeItems fail position (item :: rest) buffer =
      writeItems fail (position + 1) rest (buffer.accept (.writeText (itemText item))) := by
  rw [writeItems]
  simp only [if_neg hfail, bind, EStateM.bind, writeFormatted_eq h]

/-- The loop writes one item after the other, and stops at the breakdown if that lies ahead. -/
theorem writeItems_eq (fail : Bool) (position : Nat) (items : List String) {buffer : Buffer}
    (h : buffer.mode = some .text) :
    writeItems fail position items buffer =
      if fail = true ∧ position ≤ deliveredBeforeFailure ∧
          deliveredBeforeFailure < position + items.length then
        ended (some (.brokeDown deliveredBeforeFailure))
          (((items.take (deliveredBeforeFailure - position)).map itemText).map .writeText) buffer
      else ended none ((items.map itemText).map .writeText) buffer := by
  induction items generalizing position buffer with
  | nil =>
    rw [if_neg]
    · rfl
    · rintro ⟨-, hle, hlt⟩
      rw [List.length_nil] at hlt
      omega
  | cons item rest ih =>
    by_cases hfail : fail = true ∧ position = deliveredBeforeFailure
    · obtain ⟨rfl, rfl⟩ := hfail
      rw [if_pos ⟨rfl, Nat.le_refl _, by simp⟩, Nat.sub_self]
      rfl
    · -- The breakdown is none of this item, so it lies ahead of it if it lies ahead of the rest.
      have hahead : (fail = true ∧ position ≤ deliveredBeforeFailure ∧
            deliveredBeforeFailure < position + (item :: rest).length) ↔
          fail = true ∧ position + 1 ≤ deliveredBeforeFailure ∧
            deliveredBeforeFailure < position + 1 + rest.length := by
        rw [List.length_cons]
        constructor
        · rintro ⟨hset, hle, hlt⟩
          exact ⟨hset, Nat.lt_of_le_of_ne hle fun heq => hfail ⟨hset, heq⟩, by omega⟩
        · rintro ⟨hset, hle, hlt⟩
          exact ⟨hset, by omega, by omega⟩
      rw [writeItems_cons hfail h, ih (position + 1) rfl]
      simp only [hahead]
      split
      · next hlies =>
        have htake : deliveredBeforeFailure - position =
            deliveredBeforeFailure - (position + 1) + 1 := by omega
        rw [htake, List.take_succ_cons, List.map_cons]
        rfl
      · rfl

theorem mode_foldl_writeText (texts : List String) {buffer : Buffer}
    (h : buffer.mode = some .text) :
    ((texts.map Operation.writeText).foldl accept buffer).mode = some .text := by
  induction texts generalizing buffer with
  | nil => exact h
  | cons text rest ih => exact ih rfl

/-- Writes of text that follow one another are one write. -/
theorem ended_writeText (failure? : Option Failure) (text : String) (rest : List String)
    (buffer : Buffer) :
    ended failure? ((text :: rest).map .writeText) buffer =
      ended failure? [.writeText (text ++ String.join rest)] buffer := by
  unfold ended
  rw [Step.foldl_accept_writeText]
  rfl

/-- Why the page as HTML is not rendered. -/
def htmlFailure? (fail : Bool) (mode : Option BodyMode) : Option Failure :=
  if mode = some .bytes then some (.conflict { established := .bytes, refused := .text })
  else if fail then some (.brokeDown deliveredBeforeFailure)
  else none

/-- The calls that the page as HTML makes. -/
def htmlCalls (fail : Bool) (mode : Option BodyMode) : List Call :=
  .setContentType "text/html; charset=utf-8" ::
    if mode = some .bytes then [] else [.writeText (if fail then brokenText else htmlText)]

theorem renderHtml_eq (fail : Bool) (buffer : Buffer) :
    renderHtml fail buffer =
      ended (htmlFailure? fail buffer.mode) (htmlCalls fail buffer.mode) buffer := by
  unfold renderHtml htmlFailure? htmlCalls
  refine push_bind rfl ?_
  -- From here on the content type is set, which leaves the mode of the body as it was.
  have hmode : (buffer.accept (.setContentType "text/html; charset=utf-8")).mode = buffer.mode := rfl
  generalize buffer.accept (.setContentType "text/html; charset=utf-8") = typed at hmode ⊢
  rw [← hmode]
  by_cases hbytes : typed.mode = some .bytes
  · rw [if_pos hbytes, if_pos hbytes]
    exact bind_failed (adaptExcept_record_failed hbytes (.writeText openingText) rfl nofun) _
  · rw [if_neg hbytes, if_neg hbytes]
    have hopening : write openingText typed = ended none [.writeText openingText] typed :=
      adaptExcept_record_eq hbytes (.writeText openingText) rfl nofun
    have hopened : (typed.accept (.writeText openingText)).mode = some .text := rfl
    have hitems := writeItems_eq fail 0 goods hopened
    cases fail with
    | true =>
      rw [if_pos ⟨rfl, by decide, by decide⟩] at hitems
      refine (bind_ended hopening (bind_failed hitems _)).trans ?_
      exact ended_writeText _ _ _ typed
    | false =>
      rw [if_neg (by rintro ⟨⟨⟩, -⟩)] at hitems
      have hlisted := mode_foldl_writeText (goods.map itemText) hopened
      have hother : (((goods.map itemText).map Operation.writeText).foldl accept
          (typed.accept (.writeText openingText))).mode ≠ some .bytes := by
        rw [hlisted]
        nofun
      have hclosing := adaptExcept_record_eq hother (.writeText "</ul>") rfl nofun
      have hall := ended_writeText none openingText (goods.map itemText ++ ["</ul>"]) typed
      rw [List.map_cons, List.map_append] at hall
      exact (bind_ended hopening (bind_ended hitems hclosing)).trans hall

example : htmlText =
    "<h1>Inventory</h1>\n<ul>\n  <li>bolts</li>\n  <li>nuts</li>\n  <li>washers</li>\n</ul>" := by
  decide +kernel

/-! ## JSON -/

def jsonFailure? (fail : Bool) (mode : Option BodyMode) : Option Failure :=
  if fail then some .unavailable
  else if mode = some .text then some (.conflict { established := .text, refused := .bytes })
  else none

/-- The calls that the page as JSON makes. -/
def jsonCalls (fail : Bool) (mode : Option BodyMode) : List Call :=
  if fail then []
  else
    .setContentType "application/json" ::
      .setContentLength (UInt64.ofNat (utf8 jsonText).length) ::
        if mode = some .text then [] else [.writeBytes (utf8 jsonText)]

theorem renderJson_eq (fail : Bool) (buffer : Buffer) :
    renderJson fail buffer =
      ended (jsonFailure? fail buffer.mode) (jsonCalls fail buffer.mode) buffer := by
  cases fail with
  | true => rfl
  | false =>
    unfold renderJson jsonFailure? jsonCalls
    refine push_bind rfl (push_bind rfl ?_)
    have hmode : ((buffer.accept (.setContentType "application/json")).accept
      (.setContentLength (UInt64.ofNat (utf8 jsonText).length))).mode = buffer.mode := rfl
    generalize (buffer.accept (.setContentType "application/json")).accept
      (.setContentLength (UInt64.ofNat (utf8 jsonText).length)) = typed at hmode ⊢
    rw [← hmode]
    by_cases htext : typed.mode = some .text
    · rw [if_pos htext, if_pos htext]
      exact adaptExcept_record_failed htext (.writeBytes (utf8 jsonText)) rfl nofun
    · rw [if_neg htext, if_neg htext]
      exact adaptExcept_record_eq htext (.writeBytes (utf8 jsonText)) rfl nofun

/-! ## The page -/

/-- Why a request is not served on a buffer whose body is in a mode. -/
def failure? (request : Request) (mode : Option BodyMode) : Option Failure :=
  match request.redirect, request.format with
  | some _, _ => none
  | none, .html => htmlFailure? request.fail mode
  | none, .json => jsonFailure? request.fail mode

/-- The calls that a request leads to at a moment. -/
def recorded (request : Request) (now : Instant) (mode : Option BodyMode) : List Call :=
  match request.redirect with
  | some url => [.sendRedirect url]
  | none =>
    .setStatus 200 :: .addCookie visitCookie ::
      .setDateHeader "Expires" (now.addSeconds freshness) ::
        ((match request.format with
          | .html => htmlCalls request.fail mode
          | .json => jsonCalls request.fail mode) ++
        if (failure? request mode).isNone then [.close] else [])

/-- A page that is rendered is closed. -/
theorem bind_close {page : EStateM Failure Buffer Unit} {failure? : Option Failure}
    {calls : List Call} {buffer : Buffer} (h : page buffer = ended failure? calls buffer) :
    (page >>= fun _ => modify (·.push .close)) buffer =
      ended failure? (calls ++ if failure?.isNone then [.close] else []) buffer := by
  cases failure? with
  | some failure =>
    rw [bind_failed h]
    exact congrArg (ended _ · buffer) (List.append_nil calls).symm
  | none => exact bind_ended h (push_eq rfl _)

/-- What becomes of a request depends on the buffer through the mode of its body alone. -/
theorem render_eq (request : Request) (now : Instant) (buffer : Buffer) :
    render request now buffer =
      ended (failure? request buffer.mode) (recorded request now buffer.mode) buffer := by
  obtain ⟨format, fail, redirect⟩ := request
  cases redirect with
  | some url => exact push_eq rfl buffer
  | none =>
    cases format with
    | html =>
      refine push_bind rfl (push_bind rfl (push_bind rfl ?_))
      exact bind_close (renderHtml_eq fail _)
    | json =>
      refine push_bind rfl (push_bind rfl (push_bind rfl ?_))
      exact bind_close (renderJson_eq fail _)

/-! ## Results -/

/-- The mode of the body in a format. -/
def Format.mode : Format → BodyMode
  | .html => .text
  | .json => .bytes

theorem ended_eq_error_iff {found : Option Failure} {calls : List Call} {buffer next : Buffer}
    {failure : Failure} :
    ended found calls buffer = .error failure next ↔
      found = some failure ∧ next = calls.foldl accept buffer := by
  cases found with
  | none => simp [ended]
  | some other => simp [ended, eq_comm]

theorem endState_ended (found : Option Failure) (calls : List Call) (buffer : Buffer) :
    endState (ended found calls buffer) = calls.foldl accept buffer := by
  cases found <;> rfl

/-- A request fails for a breakdown or a conflict, unless it is redirected. -/
theorem exists_failure?_iff (request : Request) (mode : Option BodyMode) :
    (∃ failure, failure? request mode = some failure) ↔
      request.redirect = none ∧
        (request.fail = true ∨ ∃ established, mode = some established ∧
          established ≠ request.format.mode) := by
  rw [← Option.isSome_iff_exists]
  obtain ⟨format, fail, redirect⟩ := request
  cases redirect with
  | some url => simp [failure?]
  | none =>
    cases format <;> cases fail <;> rcases mode with _ | _ | _ <;>
      simp [failure?, htmlFailure?, jsonFailure?, Format.mode]

/-- In HTML a conflict comes before the breakdown, in JSON behind it. -/
theorem message_of_failure? {request : Request} {mode : Option BodyMode} {failure : Failure}
    (h : failure? request mode = some failure) :
    failure.message =
      match request.format with
      | .html =>
        if mode = some .bytes then "cannot call write_text after write_bytes has been called"
        else "inventory backend went away after 1 items"
      | .json =>
        if request.fail then "inventory backend unavailable"
        else "cannot call write_bytes after write_text has been called" := by
  obtain ⟨format, fail, redirect⟩ := request
  cases redirect with
  | some url => cases h
  | none =>
    cases format with
    | html =>
      simp only [failure?, htmlFailure?] at h
      split at h
      · next hbytes =>
        cases h
        rw [if_pos hbytes]
        rfl
      · next hbytes =>
        split at h
        · cases h
          rw [if_neg hbytes]
          rfl
        · cases h
    | json =>
      simp only [failure?, jsonFailure?] at h
      split at h
      · next hfail =>
        cases h
        rw [if_pos hfail]
        rfl
      · next hfail =>
        split at h
        · cases h
          rw [if_neg hfail]
          rfl
        · cases h

/-- No two body writes of a page are neighbours. -/
theorem isChain_recorded (request : Request) (now : Instant) (mode : Option BodyMode) :
    (recorded request now mode).IsChain fun a b =>
      ¬ (a.isBodyWrite = true ∧ b.isBodyWrite = true) := by
  obtain ⟨format, fail, redirect⟩ := request
  cases redirect with
  | some url => exact List.isChain_singleton _
  | none =>
    cases format <;> cases fail <;> rcases mode with _ | _ | _ <;>
      simp [recorded, failure?, htmlFailure?, jsonFailure?, htmlCalls, jsonCalls, isBodyWrite, kind,
        Kind.isBodyWrite]

/-- A page does not begin with a body write. -/
theorem not_isBodyWrite_of_head? {request : Request} {now : Instant} {mode : Option BodyMode}
    {call : Call} (h : call ∈ (recorded request now mode).head?) : call.isBodyWrite = false := by
  unfold recorded at h
  split at h
  · cases h
    rfl
  · cases h
    rfl

/-- What a request leads to stands behind what was recorded before, entry by entry. -/
theorem entries_render (request : Request) (now : Instant) (buffer : Buffer) :
    (endState (render request now buffer)).log.entries =
      buffer.log.entries ++ (recorded request now buffer.mode).map toAction := by
  rw [render_eq, endState_ended]
  refine entries_foldl_accept ?_ (isChain_recorded request now buffer.mode)
  rintro last - call hcall ⟨-, hwrite⟩
  rw [not_isBodyWrite_of_head? hcall] at hwrite
  cases hwrite

theorem calls_render (request : Request) (now : Instant) (buffer : Buffer) :
    (endState (render request now buffer)).log.calls =
      buffer.log.calls ++ recorded request now buffer.mode := by
  have hid : toCall ∘ toAction = id := funext toCall_toAction
  unfold Log.calls
  rw [entries_render, List.map_append, List.map_map, hid, List.map_id]

/-- The calls that a page in a format makes when it does not fail. -/
def served (format : Format) (now : Instant) : List Call :=
  [.setStatus 200, .addCookie visitCookie, .setDateHeader "Expires" (now.addSeconds freshness)] ++
    (match format with
    | .html => [.setContentType "text/html; charset=utf-8", .writeText htmlText]
    | .json =>
      [.setContentType "application/json",
        .setContentLength (UInt64.ofNat (utf8 jsonText).length), .writeBytes (utf8 jsonText)]) ++
    [.close]

theorem recorded_eq_served {request : Request} {mode : Option BodyMode} (now : Instant)
    (hredirect : request.redirect = none) (h : failure? request mode = none) :
    recorded request now mode = served request.format now := by
  obtain ⟨format, fail, redirect⟩ := request
  cases hredirect
  cases format <;> cases fail <;> rcases mode with _ | _ | _ <;> first | rfl | cases h

/-- The one length that the page as JSON states is that of its text. -/
theorem setContentLength_mem_served_iff (length : UInt64) (now : Instant) :
    .setContentLength length ∈ (served .json now).map toAction ↔
      length.toNat = (utf8 jsonText).length := by
  have hlt : (utf8 jsonText).length < UInt64.size := by decide +kernel
  have hmem : .setContentLength length ∈ (served .json now).map toAction ↔
      length = UInt64.ofNat (utf8 jsonText).length := by
    simp [served, toAction, map]
  rw [hmem, ← UInt64.toNat_inj, UInt64.toNat_ofNat_of_lt' hlt]

/-- **Rendering only appends.** On any buffer a request fails exactly if it is not redirected, and
the inventory breaks down or the body is in the mode that the format does not have. The conflict is
reported first in HTML and the breakdown first in JSON. Whether it fails or not, the entries of the
buffer stay as they are and new ones follow: the redirect alone, if one is asked for; and for a page
that is rendered one body, the close last, and for JSON the length of the body. -/
theorem render_only_appends (request : Request) (now : Instant) (buffer : Buffer) :
    ((∃ failure next, render request now buffer = .error failure next) ↔
      request.redirect = none ∧
        (request.fail = true ∨ ∃ mode, buffer.mode = some mode ∧ mode ≠ request.format.mode)) ∧
    (∀ failure next, render request now buffer = .error failure next →
      failure.message =
        match request.format with
        | .html =>
          if buffer.mode = some .bytes then
            "cannot call write_text after write_bytes has been called"
          else "inventory backend went away after 1 items"
        | .json =>
          if request.fail then "inventory backend unavailable"
          else "cannot call write_bytes after write_text has been called") ∧
    ∃ added, (endState (render request now buffer)).log.entries = buffer.log.entries ++ added ∧
      (∀ url, request.redirect = some url → added = [.sendRedirect url]) ∧
      (request.redirect = none → ∀ next, render request now buffer = .ok () next →
        added.countP isBodyWrite = 1 ∧ added.getLast? = some .close ∧
          (request.format = .json → ∃ body, .writeBytes body ∈ added ∧
            ∀ length, .setContentLength length ∈ added ↔ length.toNat = body.toBytes.length)) := by
  refine ⟨?_, ?_, (recorded request now buffer.mode).map toAction,
    entries_render request now buffer, ?_, ?_⟩
  · rw [render_eq, ← exists_failure?_iff]
    simp only [ended_eq_error_iff, exists_and_left, exists_eq, and_true]
  · intro failure next h
    rw [render_eq, ended_eq_error_iff] at h
    exact message_of_failure? h.1
  · intro url hurl
    unfold recorded
    rw [hurl]
    rfl
  · intro hredirect next h
    have hnone : failure? request buffer.mode = none := by
      rw [render_eq] at h
      cases hfailure : failure? request buffer.mode with
      | none => rfl
      | some failure =>
        rw [hfailure] at h
        cases h
    rw [recorded_eq_served now hredirect hnone]
    cases hformat : request.format with
    | html => exact ⟨rfl, rfl, nofun⟩
    | json =>
      refine ⟨rfl, rfl, fun _ => ⟨.ofBytes (utf8 jsonText), by simp [served, toAction, map], ?_⟩⟩
      intro length
      rw [ByteBody.toBytes_ofBytes, setContentLength_mem_served_iff]

/-- A breakdown goes unreported in HTML when bytes were written before. -/
theorem conflict_before_breakdown :
    ∃ buffer failure next,
      Buffer.writeBytes [0x3c] (.new {}) = .ok () buffer ∧
        render { fail := true } .epoch buffer = .error failure next ∧
          failure.message = "cannot call write_text after write_bytes has been called" := by
  obtain ⟨buffer, hwritten, hmode⟩ :
      ∃ buffer, Buffer.writeBytes [0x3c] (.new {}) = .ok () buffer ∧ buffer.mode = some .bytes :=
    ⟨_, rfl, rfl⟩
  obtain ⟨hfails, hmessage, -⟩ := render_only_appends { fail := true } .epoch buffer
  obtain ⟨failure, next, h⟩ := hfails.mpr ⟨rfl, .inl rfl⟩
  refine ⟨buffer, failure, next, hwritten, h, ?_⟩
  rw [hmessage failure next h, hmode]
  rfl

end Page

end DeferredResponse
