import DeferredResponse.Proofs.Http.Offence

/-!
# Calls as programs

`Draft.perform` looks at the stage, then at the arguments, and only then at the draft. Here every
call is written out as a program: guards, checks and assignments one after the other, an exception
from any of them ending the rest. The program of an error assigns six times.

`program_eq_perform` says that the program of a call does what performing the call does. A program
that ends in an exception has therefore assigned nothing (`eq_of_program_error`): every guard and
every check stands before the first assignment.
-/

namespace DeferredResponse.Http.Draft

open Operation

/-! ## Statements -/

/-- Goes on while the status and the headers can change. -/
def ensureEditable (kind : Kind) : EStateM Refusal Draft Unit := do
  if (← get).stage ≠ .editable then throw (.committed kind)

/-- Goes on while the body can grow. -/
def ensureWritable (kind : Kind) : EStateM Refusal Draft Unit := do
  if (← get).stage = .completed then throw (.committed kind)

/-- Goes on with what a check found to be good. -/
def require {α : Type} (checked : Except Refusal α) : EStateM Refusal Draft α :=
  MonadExcept.ofExcept checked

def assignStatus (code : UInt16) : EStateM Refusal Draft Unit :=
  modify fun draft => { draft with status := code }

def editHeaders (change : Headers → Headers) : EStateM Refusal Draft Unit :=
  modify fun draft => { draft with headers := change draft.headers }

def clearBody : EStateM Refusal Draft Unit := modify fun draft => { draft with body := .empty }

def extendBody (bytes : Bytes) : EStateM Refusal Draft Unit := modify (·.withBytes bytes)

def assignStage (stage : Stage) : EStateM Refusal Draft Unit :=
  modify fun draft => { draft with stage }

/-! ## Programs -/

/-- The statements of a call, in the order in which they are carried out. -/
def program : Call → EStateM Refusal Draft Unit
  | .addCookie cookie => do
    ensureEditable .addCookie
    let text ← require (storeCookie cookie)
    let value ← require (checkValue setCookie text)
    editHeaders (·.append setCookie value)
  | .clearCookie cookie => do
    ensureEditable .clearCookie
    let text ← require (dropCookie cookie)
    let value ← require (checkValue setCookie text)
    editHeaders (·.append setCookie value)
  | .setHeader name value => do
    ensureEditable .setHeader
    let kept ← require (checkName name)
    let value ← require (checkValue name value)
    editHeaders (·.insert kept value)
  | .setDateHeader name date => do
    ensureEditable .setDateHeader
    let kept ← require (checkName name)
    let text ← require (checkDate date)
    let value ← require (checkValue name text)
    editHeaders (·.insert kept value)
  | .setContentLength length => do
    ensureEditable .setContentLength
    editHeaders (·.insert contentLength (toString length.toNat))
  | .setContentType mime => do
    ensureEditable .setContentType
    let value ← require (checkValue contentType mime)
    editHeaders (·.insert contentType value)
  | .setStatus code => do
    ensureEditable .setStatus
    let code ← require (checkStatus code)
    assignStatus code
  | .sendError code message => do
    ensureEditable .sendError
    let code ← require (checkStatus code)
    assignStatus code
    editHeaders (·.erase contentLength)
    editHeaders (·.insert contentType errorType)
    clearBody
    extendBody (utf8 message)
    assignStage .completed
  | .sendRedirect url => do
    ensureEditable .sendRedirect
    let url ← require (checkValue location url)
    assignStatus 302
    editHeaders (·.insert location url)
    editHeaders (·.erase contentLength)
    clearBody
    assignStage .completed
  | .writeText text => do
    ensureWritable .writeText
    extendBody (utf8 text)
  | .writeBytes bytes => do
    ensureWritable .writeBytes
    extendBody bytes
  | .flush => do
    if (← get).stage = .editable then assignStage .headersSent
  | .close => do
    if (← get).stage ≠ .completed then assignStage .completed

/-! ## Running a program -/

variable (draft : Draft)

theorem ensureEditable_bind {kind : Kind} (h : kind.isHead = true)
    (rest : Unit → EStateM Refusal Draft Unit) :
    (ensureEditable kind >>= rest) draft =
      if draft.stage.permits kind then rest () draft else .error (.committed kind) draft := by
  rw [if_congr (Stage.permits_head_iff h) rfl rfl]
  obtain ⟨status, headers, body, stage⟩ := draft
  cases stage <;> rfl

theorem ensureWritable_bind {kind : Kind} (h : kind.isBodyWrite = true)
    (rest : Unit → EStateM Refusal Draft Unit) :
    (ensureWritable kind >>= rest) draft =
      if draft.stage.permits kind then rest () draft else .error (.committed kind) draft := by
  rw [if_congr (Stage.permits_bodyWrite_iff h) rfl rfl]
  obtain ⟨status, headers, body, stage⟩ := draft
  cases stage <;> rfl

/-- What is left of a call once its guard is passed: it fails by its arguments or has its effect. -/
def carryOut (outcome : Except Refusal (Draft → Draft)) : EStateM Refusal Draft Unit := fun draft =>
  match outcome with
  | .ok change => .ok () (change draft)
  | .error refusal => .error refusal draft

/-- A check fails in the program as it does in the effect; what it found is used by both. -/
theorem require_bind {α : Type} {checked : Except Refusal α} {rest : α → EStateM Refusal Draft Unit}
    {effects : α → Except Refusal (Draft → Draft)}
    (h : ∀ value, rest value draft = carryOut (effects value) draft) :
    (require checked >>= rest) draft = carryOut (checked >>= effects) draft := by
  cases checked with
  | ok value => exact h value
  | error refusal => rfl

/-- A program that starts with the guard of its call is the call, if the rest of it does what is
left of the call. -/
theorem program_of_guard {call : Call} {guard : EStateM Refusal Draft Unit}
    {rest : Unit → EStateM Refusal Draft Unit}
    (hguard : (guard >>= rest) draft =
      if draft.stage.permits call.kind then rest () draft else .error (.committed call.kind) draft)
    (hprogram : program call = guard >>= rest)
    (hrest : rest () draft = carryOut (effect call) draft) :
    program call draft = perform call draft := by
  rw [hprogram, hguard, hrest]
  rfl

/-- **Calls as programs.** Running the program of a call is performing the call. -/
theorem program_eq_perform (call : Call) : program call draft = perform call draft := by
  cases call with
  | addCookie cookie | clearCookie cookie =>
    refine program_of_guard draft (ensureEditable_bind draft rfl _) rfl ?_
    exact require_bind draft fun text => require_bind draft fun value => rfl
  | setHeader name value =>
    refine program_of_guard draft (ensureEditable_bind draft rfl _) rfl ?_
    exact require_bind draft fun kept => require_bind draft fun value => rfl
  | setDateHeader name date =>
    refine program_of_guard draft (ensureEditable_bind draft rfl _) rfl ?_
    exact require_bind draft fun kept => require_bind draft fun text =>
      require_bind draft fun value => rfl
  | setContentLength length =>
    exact program_of_guard draft (ensureEditable_bind draft rfl _) rfl rfl
  | setContentType mime =>
    refine program_of_guard draft (ensureEditable_bind draft rfl _) rfl ?_
    exact require_bind draft fun value => rfl
  | setStatus code =>
    refine program_of_guard draft (ensureEditable_bind draft rfl _) rfl ?_
    exact require_bind draft fun code => rfl
  | sendError code message =>
    refine program_of_guard draft (ensureEditable_bind draft rfl _) rfl ?_
    exact require_bind draft fun code => rfl
  | sendRedirect url =>
    refine program_of_guard draft (ensureEditable_bind draft rfl _) rfl ?_
    exact require_bind draft fun url => rfl
  | writeText | writeBytes =>
    exact program_of_guard draft (ensureWritable_bind draft rfl _) rfl rfl
  | flush | close =>
    obtain ⟨status, headers, body, stage⟩ := draft
    cases stage <;> rfl

/-- A program that ends in an exception has assigned nothing. -/
theorem eq_of_program_error {call : Call} {next : Draft} {refusal : Refusal}
    (h : program call draft = .error refusal next) : next = draft := by
  rw [program_eq_perform] at h
  exact LawfulSink.eq_of_perform_error (σ := Draft) h

end DeferredResponse.Http.Draft
