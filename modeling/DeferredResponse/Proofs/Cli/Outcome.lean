import DeferredResponse.Cli.Run
import DeferredResponse.Proofs.Http.DateText
import DeferredResponse.Proofs.Page.Response

/-!
# Outcomes of runs

What the program answers to a command line that asks for a page.

1. A response is shown as its status, its headers and its body, one below the other (`shown`).
2. The configuration only has to be readable (`serve_cases`): the outcome depends on the request and
   on the clock alone.
3. A request is answered and the run succeeds, or the client cannot be sent to the address that it
   names, and the run fails and shows nothing (`respond_cases`).

`run_outcome` reads the condition of success and the text that is shown off the arguments.
-/

namespace DeferredResponse.Cli

/-! ## Responses -/

/-- A response as it is shown. -/
def shown (status : String) (headers : List String) (body : String) : String :=
  "HTTP/1.1 " ++ status ++ "\n" ++ String.join (headers.map (· ++ "\n")) ++ "\n" ++ body ++ "\n"

def isAscii (text : String) : Bool := text.toList.all fun c => c.toNat < 0x80

/-- A header value as it is shown. -/
def shownValue (value : String) : String := if isAscii value then value else "<binary>"

/-- Of the header values those are shown that are ASCII. -/
theorem isShownValue_eq {value : String} (h : Http.isFieldValue value = true) :
    Http.isShownValue value = isAscii value := by
  have hchars := List.all_eq_true.mp h
  unfold Http.isShownValue isAscii
  rw [Bool.eq_iff_iff, List.all_eq_true, List.all_eq_true]
  refine forall₂_congr fun c hc => ?_
  have hchar := hchars c hc
  simp only [Http.isValueChar, Bool.or_eq_true, Bool.and_eq_true, decide_eq_true_eq] at hchar ⊢
  constructor
  · rintro (rfl | hshown)
    · decide
    · omega
  · intro hascii
    exact hchar.imp_right fun hvalue => ⟨hvalue.1, by omega⟩

theorem headerLine_eq {value : String} (h : Http.isFieldValue value = true) (name : String) :
    headerLine name value = name ++ ": " ++ shownValue value ++ "\n" := by
  unfold headerLine shownValue
  rw [isShownValue_eq h]

/-- The lines of a header, one for each value. -/
def linesOf (field : String × List String) : List String :=
  field.2.map fun value => field.1 ++ ": " ++ shownValue value

/-- A response with good header values and a text as its body. -/
theorem responseText_eq {code : UInt16} {status : String}
    (hstatus : statusLine code = "HTTP/1.1 " ++ status ++ "\n")
    {fields : List (String × List String)}
    (hvalues : ∀ field ∈ fields, ∀ value ∈ field.2, Http.isFieldValue value = true)
    (text : String) :
    responseText { status := code, headers := { fields }, body := utf8 text } =
      shown status (fields.flatMap linesOf) text := by
  have hlines : (fields.flatMap fun field => field.2.map (headerLine field.1)) =
      (fields.flatMap linesOf).map (· ++ "\n") := by
    rw [List.map_flatMap]
    refine List.flatMap_congr fun field hfield => ?_
    rw [linesOf, List.map_map]
    exact List.map_congr_left fun value hvalue =>
      headerLine_eq (hvalues field hfield value hvalue) _
  show statusLine code ++ String.join (fields.flatMap fun field =>
    field.2.map (headerLine field.1)) ++ "\n" ++ Text.lossyText (utf8 text) ++ "\n" = _
  rw [hstatus, hlines, Text.lossyText_utf8]
  rfl

theorem responseText_redirectTo {url : String} (h : Http.isFieldValue url = true) :
    responseText (Page.redirectTo url) = shown "302 Found" ["location: " ++ shownValue url] "" := by
  have hstatus : statusLine 302 = "HTTP/1.1 " ++ "302 Found" ++ "\n" := by decide +kernel
  have hvalues : ∀ field ∈ [("location", [url])], ∀ value ∈ field.2,
      Http.isFieldValue value = true := by simpa using h
  exact responseText_eq hstatus hvalues ""

theorem responseText_reportOf (text : String) :
    responseText (Page.reportOf text) =
      shown "503 Service Unavailable"
        ["cache-control: no-store", "content-type: text/plain; charset=utf-8"]
        ("service unavailable: " ++ text) := by
  have hstatus : statusLine 503 = "HTTP/1.1 " ++ "503 Service Unavailable" ++ "\n" := by
    decide +kernel
  have hlines : [("cache-control", ["no-store"]),
      ("content-type", ["text/plain; charset=utf-8"])].flatMap linesOf =
        ["cache-control: no-store", "content-type: text/plain; charset=utf-8"] := by
    decide +kernel
  have hvalues : ∀ field ∈ [("cache-control", ["no-store"]),
      ("content-type", ["text/plain; charset=utf-8"])], ∀ value ∈ field.2,
        Http.isFieldValue value = true := by
    decide +kernel
  rw [← hlines]
  exact responseText_eq hstatus hvalues _

theorem isAscii_of_dateText? {time : Instant} {text : String}
    (h : Http.dateText? time = some text) : isAscii text = true := by
  rw [Http.dateText?_eq] at h
  split at h
  · cases h
    refine List.all_eq_true.mpr fun c hc => decide_eq_true ?_
    exact (Http.spells_wordsOf time).isPlain.ascii_text c hc
  · cases h

/-- The lines that a format adds to those of every page. -/
def formatLines : Page.Format → List String
  | .html => ["content-type: text/html; charset=utf-8"]
  | .json => ["content-type: application/json", "content-length: 83"]

theorem flatMap_fields (format : Page.Format) :
    format.fields.flatMap linesOf = formatLines format := by
  cases format <;> decide +kernel

theorem isFieldValue_of_mem_fields (format : Page.Format) :
    ∀ field ∈ format.fields, ∀ value ∈ field.2, Http.isFieldValue value = true := by
  cases format <;> decide +kernel

theorem responseText_pageUntil {time : Instant} {date : String}
    (h : Http.dateText? time = some date) (format : Page.Format) :
    responseText (Page.pageUntil date format) =
      shown "200 OK"
        ("set-cookie: visited=1; Path=/; HttpOnly" :: ("expires: " ++ date) :: formatLines format)
        format.text := by
  have hstatus : statusLine 200 = "HTTP/1.1 " ++ "200 OK" ++ "\n" := by decide +kernel
  have hcookie : linesOf ("set-cookie", ["visited=1; Path=/; HttpOnly"]) =
      ["set-cookie: visited=1; Path=/; HttpOnly"] := by decide +kernel
  have hexpires : linesOf ("expires", [date]) = ["expires: " ++ date] := by
    show ["expires: " ++ shownValue date] = _
    rw [shownValue, if_pos (isAscii_of_dateText? h)]
  have hvalues : ∀ field ∈ ("set-cookie", ["visited=1; Path=/; HttpOnly"]) ::
      ("expires", [date]) :: format.fields, ∀ value ∈ field.2, Http.isFieldValue value = true := by
    simp only [List.forall_mem_cons]
    exact ⟨⟨by decide +kernel, nofun⟩, ⟨Http.isFieldValue_of_dateText? h, nofun⟩,
      isFieldValue_of_mem_fields format⟩
  have hshown := responseText_eq hstatus hvalues format.text
  rw [List.flatMap_cons, List.flatMap_cons, hcookie, hexpires, flatMap_fields] at hshown
  exact hshown

/-! ## Runs -/

/-- Every file that the arguments name holds a configuration. -/
def IsConfigured (arguments : Arguments) (readFile : String → Except File.Fault ByteArray) : Prop :=
  ∀ path, arguments.config = some path →
    ∃ (bytes : ByteArray) (text : String) (config : Config), readFile path = .ok bytes ∧
      String.fromUTF8? bytes = some text ∧ Config.ofText text = .ok config

theorem ofFile_eq_ok_iff {content : Except File.Fault ByteArray} {config : Config} :
    Config.ofFile content = .ok config ↔
      ∃ (bytes : ByteArray) (text : String), content = .ok bytes ∧
        String.fromUTF8? bytes = some text ∧ Config.ofText text = .ok config := by
  cases content with
  | error fault => simp [Config.ofFile]
  | ok bytes =>
    cases htext : String.fromUTF8? bytes with
    | none => simp [Config.ofFile, htext]
    | some text => simp [Config.ofFile, htext]

theorem exists_configOf_iff (arguments : Arguments)
    (readFile : String → Except File.Fault ByteArray) :
    (∃ config, configOf arguments readFile = .ok config) ↔ IsConfigured arguments readFile := by
  unfold configOf IsConfigured
  cases arguments.config with
  | none => simp
  | some path =>
    simp only [ofFile_eq_ok_iff, Option.some.injEq, forall_eq']
    constructor
    · rintro ⟨config, bytes, text, h⟩
      exact ⟨bytes, text, config, h⟩
    · rintro ⟨bytes, text, config, h⟩
      exact ⟨config, bytes, text, h⟩

/-- The outcome for a request, once there is a configuration. -/
def respond (request : Page.Request) (now : Instant) : Outcome :=
  conclude (prepare {} request now).1 (prepare {} request now).2

/-- Of the configuration it only counts whether it can be read. -/
theorem serve_cases (arguments : Arguments) (readFile : String → Except File.Fault ByteArray)
    (now : Instant) :
    (IsConfigured arguments readFile ∧
        serve arguments readFile now = respond arguments.request now) ∨
      (¬ IsConfigured arguments readFile ∧ (serve arguments readFile now).exitCode = 1 ∧
        (serve arguments readFile now).stdout = "") := by
  rw [← exists_configOf_iff]
  unfold serve
  cases hconfig : configOf arguments readFile with
  | error fault => exact .inr ⟨nofun, rfl, rfl⟩
  | ok config => exact .inl ⟨⟨config, rfl⟩, rfl⟩

/-- What is committed is the answer to an attempt on a new buffer. -/
theorem prepare_fst (config : Config) (request : Page.Request) (now : Instant) :
    (prepare config request now).1 = Page.Attempt.answer { config, request, now } := by
  have hrendered : Page.Attempt.rendered { config, request, now } =
      (Page.render request now).run (.new config) := rfl
  unfold prepare Page.Attempt.answer
  rw [hrendered]
  cases (Page.render request now).run (.new config) <;> rfl

/-- What is shown for a request when the run succeeds. -/
def answerText (request : Page.Request) (now : Instant) : String :=
  match request.redirect with
  | some url => shown "302 Found" ["location: " ++ shownValue url] ""
  | none =>
    if request.fail then
      shown "503 Service Unavailable"
        ["cache-control: no-store", "content-type: text/plain; charset=utf-8"]
        ("service unavailable: " ++ Page.breakdownText request.format)
    else
      let date := (Http.dateText? (now.addSeconds Page.freshness)).getD ""
      shown "200 OK"
        ("set-cookie: visited=1; Path=/; HttpOnly" :: ("expires: " ++ date) ::
          formatLines request.format)
        request.format.text

/-- Every address that the client is sent to can be the value of a header. -/
def IsSendable (request : Page.Request) : Prop :=
  ∀ url, request.redirect = some url → Http.isFieldValue url = true

section Respond

variable {request : Page.Request} {now : Instant}

theorem respond_of_ok {response : Http.Response}
    (h : Http.commit (Page.Attempt.answer { request, now }) = .ok response) :
    (respond request now).exitCode = 0 ∧
      (respond request now).stdout = responseText response := by
  rw [← prepare_fst {}] at h
  unfold respond conclude
  rw [h]
  exact ⟨rfl, rfl⟩

theorem respond_of_error {error : ReplayError Http.Refusal}
    (h : Http.commit (Page.Attempt.answer { request, now }) = .error error) :
    (respond request now).exitCode = 1 ∧ (respond request now).stdout = "" := by
  rw [← prepare_fst {}] at h
  unfold respond conclude
  rw [h]
  exact ⟨rfl, rfl⟩

theorem respond_of_redirect {url : String} (h : request.redirect = some url)
    (hurl : Http.isFieldValue url = true) :
    (respond request now).exitCode = 0 ∧
      (respond request now).stdout = answerText request now := by
  have hcommit := Page.Attempt.commit_answer_of_redirect {} now h
  rw [if_pos hurl] at hcommit
  have hrespond := respond_of_ok hcommit
  rw [responseText_redirectTo hurl] at hrespond
  rw [answerText, h]
  exact hrespond

theorem respond_of_refused {url : String} (h : request.redirect = some url)
    (hurl : ¬ Http.isFieldValue url = true) :
    (respond request now).exitCode = 1 ∧ (respond request now).stdout = "" := by
  have hcommit := Page.Attempt.commit_answer_of_redirect {} now h
  rw [if_neg hurl] at hcommit
  exact respond_of_error hcommit

theorem respond_of_fail (h : request.redirect = none) (hfail : request.fail = true) :
    (respond request now).exitCode = 0 ∧
      (respond request now).stdout = answerText request now := by
  have hrespond := respond_of_ok (Page.Attempt.commit_answer_of_fail {} now h hfail)
  rw [responseText_reportOf] at hrespond
  simp only [answerText, h, hfail, if_true]
  exact hrespond

theorem respond_of_served (h : request.redirect = none) (hfail : request.fail = false)
    (hclock : Http.IsWritable (now.addSeconds Page.freshness)) :
    (respond request now).exitCode = 0 ∧
      (respond request now).stdout = answerText request now := by
  obtain ⟨date, hdate⟩ := Http.exists_dateText? ((Http.isWritableYear_iff _).mpr hclock)
  have hrespond := respond_of_ok (Page.Attempt.commit_answer_of_served {} now h hfail hdate)
  rw [responseText_pageUntil hdate] at hrespond
  simp only [answerText, h, hfail, hdate, Option.getD_some]
  exact hrespond

/-- The outcome depends on whether the client can be sent where it is to go. -/
theorem respond_cases (request : Page.Request)
    (hclock : request.redirect = none → request.fail = false →
      Http.IsWritable (now.addSeconds Page.freshness)) :
    (IsSendable request ∧ (respond request now).exitCode = 0 ∧
        (respond request now).stdout = answerText request now) ∨
      (¬ IsSendable request ∧ (respond request now).exitCode = 1 ∧
        (respond request now).stdout = "") := by
  unfold IsSendable
  cases h : request.redirect with
  | some url =>
    simp only [Option.some.injEq, forall_eq']
    by_cases hurl : Http.isFieldValue url = true
    · exact .inl ⟨hurl, respond_of_redirect h hurl⟩
    · exact .inr ⟨hurl, respond_of_refused h hurl⟩
  | none =>
    refine .inl ⟨nofun, ?_⟩
    cases hfail : request.fail with
    | true => exact respond_of_fail h hfail
    | false => exact respond_of_served h hfail (hclock h hfail)

end Respond

theorem run_eq_serve {arguments : List String} {parsed : Arguments}
    (h : invocation? arguments = some (.run parsed))
    (readFile : String → Except File.Fault ByteArray) (now : Instant) :
    run arguments readFile now = serve parsed readFile now := by
  rw [run, h]

theorem serve_of_isConfigured {arguments : Arguments}
    {readFile : String → Except File.Fault ByteArray} (h : IsConfigured arguments readFile)
    (now : Instant) : serve arguments readFile now = respond arguments.request now := by
  rcases serve_cases arguments readFile now with ⟨-, hserve⟩ | ⟨hnot, -⟩
  · exact hserve
  · exact absurd h hnot

/-- Runs for one request do not differ when both have a configuration. -/
theorem run_congr {arguments others : List String} {parsed other : Arguments}
    {readFile readOther : String → Except File.Fault ByteArray}
    (h : invocation? arguments = some (.run parsed))
    (hother : invocation? others = some (.run other))
    (hrequest : other.request = parsed.request) (hconfig : IsConfigured parsed readFile)
    (hconfig' : IsConfigured other readOther) (now : Instant) :
    run others readOther now = run arguments readFile now := by
  rw [run_eq_serve h, run_eq_serve hother, serve_of_isConfigured hconfig,
    serve_of_isConfigured hconfig', hrequest]

/-- A run succeeds and shows the response, or fails and shows none. -/
theorem serve_outcome (arguments : Arguments)
    (readFile : String → Except File.Fault ByteArray) (now : Instant)
    (hclock : arguments.redirect = none → arguments.fail = false →
      Http.IsWritable (now.addSeconds Page.freshness)) :
    ((IsConfigured arguments readFile ∧ IsSendable arguments.request) ∧
        (serve arguments readFile now).exitCode = 0 ∧
          (serve arguments readFile now).stdout = answerText arguments.request now) ∨
      (¬ (IsConfigured arguments readFile ∧ IsSendable arguments.request) ∧
        (serve arguments readFile now).exitCode = 1 ∧
          (serve arguments readFile now).stdout = "") := by
  rcases serve_cases arguments readFile now with ⟨hconfig, hserve⟩ | ⟨hconfig, hfailed⟩
  · rw [hserve]
    rcases respond_cases arguments.request hclock with ⟨hsendable, hanswer⟩ | ⟨hsendable, hfailed⟩
    · exact .inl ⟨⟨hconfig, hsendable⟩, hanswer⟩
    · exact .inr ⟨fun h => hsendable h.2, hfailed⟩
  · exact .inr ⟨fun h => hconfig h.1, hfailed⟩

/-- **What a run leaves behind.** For arguments that ask for a page the exit code is zero exactly
when the configuration can be read, if one is named, and the address is a header value, if the
client is to be sent elsewhere; otherwise it is one, and no response is shown. On success the
response is the redirect, else the report of the breakdown, else the page (`answerText`). Of the
configuration it only counts whether it can be read. The clock is looked at for the page alone, and
then has to show a date that can be written. -/
theorem run_outcome {arguments : List String} {parsed : Arguments}
    (h : invocation? arguments = some (.run parsed))
    (readFile : String → Except File.Fault ByteArray) (now : Instant)
    (hclock : parsed.redirect = none → parsed.fail = false →
      Http.IsWritable (now.addSeconds Page.freshness)) :
    ((run arguments readFile now).exitCode = 0 ↔
        IsConfigured parsed readFile ∧ IsSendable parsed.request) ∧
      ((run arguments readFile now).exitCode = 0 →
        (run arguments readFile now).stdout = answerText parsed.request now) ∧
      ((run arguments readFile now).exitCode ≠ 0 →
        (run arguments readFile now).exitCode = 1 ∧ (run arguments readFile now).stdout = "") ∧
      ∀ (others : List String) (other : Arguments)
        (readOther : String → Except File.Fault ByteArray),
        invocation? others = some (.run other) → other.request = parsed.request →
          IsConfigured parsed readFile → IsConfigured other readOther →
            run others readOther now = run arguments readFile now := by
  have hserve := serve_outcome parsed readFile now hclock
  rw [← run_eq_serve h] at hserve
  refine ⟨?_, ?_, ?_, fun _ _ _ hother hrequest hconfig hconfig' =>
    run_congr h hother hrequest hconfig hconfig' now⟩
  · rcases hserve with ⟨hgood, hexit, -⟩ | ⟨hbad, hexit, -⟩
    · exact iff_of_true hexit hgood
    · exact iff_of_false (by rw [hexit]; decide) hbad
  · intro hzero
    rcases hserve with ⟨-, -, hstdout⟩ | ⟨-, hexit, -⟩
    · exact hstdout
    · rw [hexit] at hzero
      cases hzero
  · intro hnonzero
    rcases hserve with ⟨-, hexit, -⟩ | ⟨-, hfailed⟩
    · exact absurd hexit hnonzero
    · exact hfailed

/-- A page as JSON, with a configuration, one minute after the start of 1970. -/
theorem json_page_shown :
    let arguments := ["-f", "json", "--config=app.toml"]
    let readFile : String → Except File.Fault ByteArray := fun _ => .ok "log_capacity = 8".toUTF8
    (run arguments readFile .epoch).exitCode = 0 ∧
      (run arguments readFile .epoch).stdout =
        shown "200 OK"
          ["set-cookie: visited=1; Path=/; HttpOnly", "expires: Thu, 01 Jan 1970 00:01:00 GMT",
            "content-type: application/json", "content-length: 83"]
          Page.jsonText := by
  intro arguments readFile
  have hparsed : invocation? arguments =
      some (.run { format := some .json, config := some "app.toml" }) := by decide +kernel
  have hconfigured : IsConfigured { format := some .json, config := some "app.toml" } readFile := by
    have hread : Config.ofText "log_capacity = 8" = .ok { logCapacity := 8 } := by decide +kernel
    rintro path -
    exact ⟨_, _, _, rfl, dif_pos "log_capacity = 8".isValidUTF8, hread⟩
  have hdate : Http.dateText? (Instant.epoch.addSeconds Page.freshness) =
      some "Thu, 01 Jan 1970 00:01:00 GMT" := by decide +kernel
  obtain ⟨hiff, hshown, -⟩ := run_outcome hparsed readFile .epoch fun _ _ => by decide
  have hexit := hiff.mpr ⟨hconfigured, nofun⟩
  refine ⟨hexit, (hshown hexit).trans ?_⟩
  unfold answerText
  rw [hdate]
  rfl

end DeferredResponse.Cli
