import DeferredResponse.Proofs.Buffer.Record
import Mathlib.Data.List.SplitBy

/-!
# Coalesced calls

The entries that a list of calls leads to, said without a buffer: `coalesced` splits the calls into
maximal runs of adjacent body writes and takes each run as one write of all its payloads, the empty
ones included. `coalesced_concat` says how the entries change with one more call, which is what a
log does (`addCall`) as long as the body is written in one mode.
-/

namespace DeferredResponse.Operation

/-- Whether two adjacent calls lie in the same run: both write to the body. -/
def inOneRun (a b : Call) : Bool := a.isBodyWrite && b.isBodyWrite

/-- The text that a call writes. -/
def text : Call → String
  | writeText text => text
  | _ => ""

/-- The bytes that a call writes. -/
def bytes : Call → Bytes
  | writeBytes bytes => bytes
  | _ => []

/-- The call that a run amounts to: the payloads of a run of writes are put together, and any other
call is a run by itself. -/
def merged (run : List Call) : Option Call :=
  run.head?.map fun
    | writeText _ => writeText (String.join (run.map text))
    | writeBytes _ => writeBytes (run.flatMap bytes)
    | call => call

/-- The calls with every maximal run of adjacent body writes merged into one write. -/
def coalesced (calls : List Call) : List Call := (calls.splitBy inOneRun).filterMap merged

/-! ## Runs -/

theorem merged_singleton (call : Call) : merged [call] = some call := by
  cases call <;> simp [merged, text, bytes]

/-- A run is merged into a call that writes in the mode of the first call, if in any. -/
theorem exists_merged {run : List Call} {first : Call} (h : run.head? = some first) :
    ∃ call, merged run = some call ∧ call.mode? = first.mode? := by
  unfold merged
  rw [h]
  cases first <;> exact ⟨_, rfl, rfl⟩

/-- A run that is extended by a write of the mode of its first call. -/
theorem merged_concat {run : List Call} {first call : Call} {mode : BodyMode}
    (hfirst : run.head? = some first) (hmode : first.mode? = some mode)
    (hcall : call.mode? = some mode) :
    merged (run ++ [call]) = (merged run).bind (join? · call) := by
  unfold merged
  rw [List.head?_append, hfirst]
  cases first with
  | writeText text =>
    cases hmode
    cases call with
    | writeText more => simp [join?, Operation.text]
    | _ => cases hcall
  | writeBytes bytes =>
    cases hmode
    cases call with
    | writeBytes more => simp [join?, Operation.bytes]
    | _ => cases hcall
  | _ => cases hmode

/-- All calls of a run with more than one call write to the body, so its ends agree on that. -/
theorem isBodyWrite_head_eq_getLast {run : List Call} {first last : Call}
    (hrun : run.IsChain fun a b => inOneRun a b) (hfirst : run.head? = some first)
    (hlast : run.getLast? = some last) : first.isBodyWrite = last.isBodyWrite := by
  induction run generalizing first with
  | nil => cases hfirst
  | cons head rest ih =>
    obtain rfl : head = first := Option.some.inj hfirst
    cases rest with
    | nil =>
      cases hlast
      rfl
    | cons second rest =>
      obtain ⟨hpair, hrest⟩ := List.isChain_cons_cons.mp hrun
      have hboth : head.isBodyWrite = true ∧ second.isBodyWrite = true := by
        simpa [inOneRun] using hpair
      rw [hboth.1, ← hboth.2]
      exact ih hrest rfl (by simpa using hlast)

/-! ## One more element -/

/-- An element that is related to the last one joins the last run. -/
theorem splitBy_concat {α : Type} {r : α → α → Bool} {l : List α} {init : List (List α)}
    {run : List α} {a : α} (h : l.splitBy r = init ++ [run]) (hr : ∀ x ∈ run.getLast?, r x a = true) :
    (l ++ [a]).splitBy r = init ++ [run ++ [a]] := by
  rw [List.splitBy_eq_iff] at h ⊢
  obtain ⟨rfl, hnil, hruns, hends⟩ := h
  rw [List.isChain_append] at hends
  refine ⟨by simp, ?_, ?_, ?_⟩
  · simp only [List.mem_append, not_or] at hnil ⊢
    exact ⟨hnil.1, by simp⟩
  · intro m hm
    rcases List.mem_append.mp hm with hm | hm
    · exact hruns m (List.mem_append_left _ hm)
    · rw [List.mem_singleton.mp hm, List.isChain_append]
      refine ⟨hruns run (by simp), List.isChain_singleton a, ?_⟩
      intro x hx y hy
      cases hy
      exact hr x hx
  · rw [List.isChain_append]
    refine ⟨hends.1, List.isChain_singleton _, ?_⟩
    intro x hx y hy
    cases hy
    obtain ⟨hxne, hrun, hfalse⟩ := hends.2.2 x hx run rfl
    refine ⟨hxne, by simp, ?_⟩
    rw [List.head_append_of_ne_nil hrun]
    exact hfalse

/-- An element that is not related to the last one starts a run. -/
theorem splitBy_concat_of_false {α : Type} {r : α → α → Bool} {l : List α} {init : List (List α)}
    {run : List α} {a : α} (h : l.splitBy r = init ++ [run])
    (hr : ∀ x ∈ run.getLast?, r x a = false) :
    (l ++ [a]).splitBy r = init ++ [run] ++ [[a]] := by
  have hne : run ≠ [] := List.ne_nil_of_mem_splitBy (by rw [h]; simp)
  have hlast : l.getLast? = run.getLast? := by
    rw [← List.flatten_splitBy r l, h, List.flatten_append, List.flatten_singleton,
      List.getLast?_append_of_ne_nil _ hne]
  rw [List.splitBy_append_cons, h]
  · rfl
  · rw [hlast]
    exact hr

theorem addCall_concat (calls : List Call) (last call : Call) :
    addCall (calls ++ [last]) call =
      match join? last call with
      | some joined => calls ++ [joined]
      | none => calls ++ [last] ++ [call] := by
  have hjoin : (calls ++ [last]).getLast?.bind (join? · call) = join? last call := by
    rw [List.getLast?_concat, Option.bind_some]
  unfold addCall
  rw [hjoin]
  cases join? last call with
  | some joined => rw [List.dropLast_concat]
  | none => rfl

/-- With one more call the last entry grows or a new one is opened, provided that the call does not
write in another mode than the calls before it. -/
theorem coalesced_concat (calls : List Call) (call : Call)
    (h : ∀ earlier ∈ calls, ∀ mode, earlier.mode? = some mode → ∀ requested,
      call.mode? = some requested → mode = requested) :
    coalesced (calls ++ [call]) = addCall (coalesced calls) call := by
  rcases List.eq_nil_or_concat (calls.splitBy inOneRun) with hruns | ⟨init, run, hruns⟩
  · rw [List.splitBy_eq_nil.mp hruns]
    exact congrArg Option.toList (merged_singleton call)
  rw [List.concat_eq_append] at hruns
  have hmem : run ∈ calls.splitBy inOneRun := by simp [hruns]
  have hne : run ≠ [] := List.ne_nil_of_mem_splitBy hmem
  obtain ⟨first, hfirst⟩ : ∃ first, run.head? = some first := ⟨_, List.head?_eq_some_head hne⟩
  obtain ⟨last, hlast⟩ : ∃ last, run.getLast? = some last := ⟨_, List.getLast?_eq_some_getLast hne⟩
  have hends := isBodyWrite_head_eq_getLast (List.isChain_of_mem_splitBy hmem) hfirst hlast
  obtain ⟨entry, hentry, hmode⟩ := exists_merged hfirst
  have hentries : coalesced calls = init.filterMap merged ++ [entry] := by
    simp [coalesced, hruns, hentry]
  have hpair : ∀ x ∈ run.getLast?, inOneRun x call = inOneRun last call := by
    intro x hx
    rw [Option.some.inj (hlast.symm.trans hx)]
  rw [hentries, addCall_concat]
  cases hjoin : inOneRun last call with
  | true =>
    -- The call belongs to the last run, whose first call writes in the same mode.
    rw [hjoin] at hpair
    obtain ⟨hl, hc⟩ : last.isBodyWrite = true ∧ call.isBodyWrite = true := by
      simpa [inOneRun] using hjoin
    obtain ⟨mode, hfm⟩ := exists_mode? (hends.trans hl)
    obtain ⟨requested, hcm⟩ := exists_mode? hc
    have hin : first ∈ calls := by
      rw [← List.flatten_splitBy inOneRun calls]
      exact List.mem_flatten.mpr ⟨run, hmem, List.mem_of_mem_head? hfirst⟩
    obtain rfl := h first hin mode hfm requested hcm
    obtain ⟨joined, hj⟩ := exists_join? (hmode.trans hfm) hcm
    have hgrown : merged (run ++ [call]) = some joined := by
      rw [merged_concat hfirst hfm hcm, hentry, Option.bind_some, hj]
    simp [coalesced, splitBy_concat hruns hpair, hgrown, hj]
  | false =>
    -- One of the two is no body write, so the call starts a run and cannot be joined.
    rw [hjoin] at hpair
    have hnone : join? entry call = none := by
      cases hcm : call.mode? with
      | none => exact join?_eq_none_of_mode? hcm entry
      | some requested =>
        have hl : last.isBodyWrite = false := by
          simpa [inOneRun, isBodyWrite_eq_isSome call, hcm] using hjoin
        rw [hl, isBodyWrite_eq_isSome, ← hmode] at hends
        exact join?_eq_none_of_last (by simpa using hends) call
    simp [coalesced, splitBy_concat_of_false hruns hpair, hentry, hnone, merged_singleton]

/-! ## One list after the other -/

/-- No two neighbours both write to the body. -/
def Apart (calls : List Call) : Prop := calls.IsChain fun a b => inOneRun a b = false

/-- Lists that do not meet in a run are coalesced by themselves. -/
theorem coalesced_append {xs ys : List Call}
    (h : ∀ x ∈ xs.getLast?, ∀ y ∈ ys.head?, inOneRun x y = false) :
    coalesced (xs ++ ys) = coalesced xs ++ coalesced ys := by
  unfold coalesced
  rw [List.splitBy_append h, List.filterMap_append]

/-- Calls of which no two neighbours lie in one run stay as they are. -/
theorem coalesced_eq_self {calls : List Call} (h : Apart calls) : coalesced calls = calls := by
  induction calls with
  | nil => rfl
  | cons call rest ih =>
    obtain ⟨hhead, hrest⟩ := List.isChain_cons.mp h
    have hfirst : coalesced [call] = [call] := congrArg Option.toList (merged_singleton call)
    have hmeet : ∀ x ∈ [call].getLast?, ∀ y ∈ rest.head?, inOneRun x y = false := by
      rintro x ⟨⟩ y hy
      exact hhead y hy
    rw [← List.singleton_append, coalesced_append hmeet, hfirst, ih hrest]

/-- Two calls become one entry when both write to the body. -/
theorem length_coalesced_pair (x y : Call) :
    (coalesced [x, y]).length + (if inOneRun x y then 1 else 0) = 2 := by
  cases h : inOneRun x y with
  | true =>
    have hfirst : [x, y].head? = some x := List.head?_cons
    obtain ⟨call, hcall, -⟩ := exists_merged hfirst
    have hrun : List.splitBy inOneRun [x, y] = [[x, y]] :=
      List.splitBy_of_isChain (List.cons_ne_nil x [y]) (List.isChain_pair.mpr h)
    simp [coalesced, hrun, hcall]
  | false =>
    rw [coalesced_eq_self (List.isChain_pair.mpr h)]
    rfl

/-- Of two lists of which no two neighbours lie in one run only the ends can meet in one. -/
theorem coalesced_append_of_apart {init rest : List Call} {x y : Call} (hxs : Apart (init ++ [x]))
    (hys : Apart (y :: rest)) :
    coalesced (init ++ [x] ++ y :: rest) = init ++ coalesced [x, y] ++ rest := by
  obtain ⟨hinit, -, hx⟩ := List.isChain_append.mp hxs
  obtain ⟨hy, hrest⟩ := List.isChain_cons.mp hys
  have hbefore : ∀ a ∈ init.getLast?, ∀ b ∈ ([x, y] ++ rest).head?, inOneRun a b = false := by
    rintro a ha b ⟨⟩
    exact hx a ha x rfl
  have hafter : ∀ a ∈ [x, y].getLast?, ∀ b ∈ rest.head?, inOneRun a b = false := by
    rintro a ⟨⟩ b hb
    exact hy b hb
  calc coalesced (init ++ [x] ++ y :: rest) = coalesced (init ++ ([x, y] ++ rest)) := by simp
    _ = coalesced init ++ (coalesced [x, y] ++ coalesced rest) := by
      rw [coalesced_append hbefore, coalesced_append hafter]
    _ = init ++ coalesced [x, y] ++ rest := by
      rw [coalesced_eq_self hinit, coalesced_eq_self hrest, List.append_assoc]

theorem length_coalesced_append {xs ys : List Call} (hxs : Apart xs) (hys : Apart ys) :
    (coalesced (xs ++ ys)).length +
        (if xs.getLast?.any isBodyWrite && ys.head?.any isBodyWrite then 1 else 0) =
      xs.length + ys.length := by
  rcases List.eq_nil_or_concat xs with rfl | ⟨init, x, rfl⟩
  · rw [List.nil_append, coalesced_eq_self hys]
    simp
  rw [List.concat_eq_append] at hxs ⊢
  cases ys with
  | nil =>
    rw [List.append_nil, coalesced_eq_self hxs]
    simp
  | cons y rest =>
    have hends : ((init ++ [x]).getLast?.any isBodyWrite && (y :: rest).head?.any isBodyWrite) =
        inOneRun x y := by
      rw [List.getLast?_concat]
      rfl
    have hpair := length_coalesced_pair x y
    rw [hends, coalesced_append_of_apart hxs hys]
    simp only [List.length_append, List.length_cons, List.length_nil]
    omega

end DeferredResponse.Operation
