import DeferredResponse.Config
import DeferredResponse.Proofs.Toml.Layout

/-!
# Configurations in any layout

What a document of whole numbers states, however its lines are laid out. The keys and numbers of the
document are all that counts:

1. A key that is bound twice makes the whole document bad, since it is put together before any entry
   is looked at (`ofText_document`).
2. Otherwise its entries are taken in order. The first negative capacity ends this
   (`foldlM_withEntry_of_negative`); without one, each capacity is the number bound to its key, or
   what it was at the start (`exists_foldlM_withEntry`).

`ofText_ignores_layout` puts the three outcomes together.
-/

namespace DeferredResponse.Config

/-! ## One entry -/

/-- A negative number is bound to the key of a capacity. -/
def IsNegativeCapacity (bound : String × Int) : Prop :=
  (bound.1 = textKey ∨ bound.1 = logKey) ∧ bound.2 < 0

instance : DecidablePred IsNegativeCapacity := fun bound => by
  unfold IsNegativeCapacity
  infer_instance

theorem capacity_of_nonneg {n : Int} (h : 0 ≤ n) :
    capacity (.integer n) = .ok (UInt64.ofNat n.toNat) := by
  rw [capacity, if_neg (Int.not_lt.mpr h)]

theorem withEntry_textKey {n : Int} (h : 0 ≤ n) (config : Config) :
    config.withEntry (textKey, .integer n) =
      .ok { config with textCapacity := UInt64.ofNat n.toNat } := by
  rw [withEntry, if_pos rfl, capacity_of_nonneg h]
  rfl

theorem withEntry_logKey {n : Int} (h : 0 ≤ n) (config : Config) :
    config.withEntry (logKey, .integer n) =
      .ok { config with logCapacity := UInt64.ofNat n.toNat } := by
  rw [withEntry, if_neg (by decide), if_pos rfl, capacity_of_nonneg h]
  rfl

/-- Other keys are ignored, whatever their value. -/
theorem withEntry_of_ne {key : String} (htext : key ≠ textKey) (hlog : key ≠ logKey)
    (value : Toml.Value) (config : Config) : config.withEntry (key, value) = .ok config := by
  rw [withEntry, if_neg htext, if_neg hlog]
  rfl

theorem withEntry_of_negative {key : String} {n : Int} (h : IsNegativeCapacity (key, n))
    (config : Config) : config.withEntry (key, .integer n) = .error (.negative n) := by
  obtain ⟨hkey, hn⟩ := h
  have hcapacity : capacity (.integer n) = .error (.negative n) := if_pos hn
  rcases hkey with rfl | rfl
  · rw [withEntry, if_pos rfl, hcapacity]
    rfl
  · rw [withEntry, if_neg (by decide), if_pos rfl, hcapacity]
    rfl

/-- An entry that is no negative capacity gives the capacity of its key a number, or changes
nothing. -/
theorem withEntry_cases {key : String} {n : Int} (h : ¬ IsNegativeCapacity (key, n))
    (config : Config) :
    (key = textKey ∧ 0 ≤ n ∧ config.withEntry (key, .integer n) =
        .ok { config with textCapacity := UInt64.ofNat n.toNat }) ∨
      (key = logKey ∧ 0 ≤ n ∧ config.withEntry (key, .integer n) =
        .ok { config with logCapacity := UInt64.ofNat n.toNat }) ∨
      (key ≠ textKey ∧ key ≠ logKey ∧ config.withEntry (key, .integer n) = .ok config) := by
  have hn (hkey : key = textKey ∨ key = logKey) : 0 ≤ n := by
    by_contra hneg
    exact h ⟨hkey, Int.not_le.mp hneg⟩
  by_cases htext : key = textKey
  · subst htext
    exact .inl ⟨rfl, hn (.inl rfl), withEntry_textKey (hn (.inl rfl)) config⟩
  · by_cases hlog : key = logKey
    · subst hlog
      exact .inr (.inl ⟨rfl, hn (.inr rfl), withEntry_logKey (hn (.inr rfl)) config⟩)
    · exact .inr (.inr ⟨htext, hlog, withEntry_of_ne htext hlog _ config⟩)

theorem exists_withEntry {bound : String × Int} (h : ¬ IsNegativeCapacity bound)
    (config : Config) : ∃ next, config.withEntry (bound.1, .integer bound.2) = .ok next := by
  rcases withEntry_cases h config with ⟨-, -, hentry⟩ | ⟨-, -, hentry⟩ | ⟨-, -, hentry⟩
  · exact ⟨_, hentry⟩
  · exact ⟨_, hentry⟩
  · exact ⟨_, hentry⟩

/-! ## Bound capacities -/

/-- A capacity is the number that is bound to a key, or its default if the key is not bound. -/
structure IsBound (capacity default : UInt64) (key : String) (bindings : List (String × Int)) :
    Prop where
  eq_of_mem : ∀ n, (key, n) ∈ bindings → (capacity.toNat : Int) = n
  eq_default : key ∉ bindings.map Prod.fst → capacity = default

namespace IsBound

theorem nil (capacity : UInt64) (key : String) : IsBound capacity capacity key [] where
  eq_of_mem := by
    intro n hn
    cases hn
  eq_default _ := rfl

variable {capacity default : UInt64} {key other : String} {bindings : List (String × Int)} {n : Int}

theorem cons_of_ne (h : IsBound capacity default key bindings) (hne : key ≠ other) :
    IsBound capacity default key ((other, n) :: bindings) where
  eq_of_mem := by
    intro m hm
    rcases List.mem_cons.mp hm with heq | hm
    · exact absurd (Prod.mk.inj heq).1 hne
    · exact h.eq_of_mem m hm
  eq_default := by
    intro hkey
    exact h.eq_default fun hmem => hkey (List.mem_cons_of_mem _ hmem)

/-- No later binding of the key takes the place of its number. -/
theorem cons_self (h : IsBound capacity (UInt64.ofNat n.toNat) key bindings)
    (hkey : key ∉ bindings.map Prod.fst) (hn : 0 ≤ n) (hword : Toml.isWord n = true) :
    IsBound capacity default key ((key, n) :: bindings) where
  eq_of_mem := by
    intro m hm
    rcases List.mem_cons.mp hm with heq | hm
    · obtain rfl : m = n := (Prod.mk.inj heq).2
      have hbound : m < Toml.wordBound := of_decide_eq_true (Bool.and_eq_true_iff.mp hword).2
      have hlt : m.toNat < UInt64.size := by
        simp only [UInt64.size, Toml.wordBound] at hbound ⊢
        omega
      rw [h.eq_default hkey, UInt64.toNat_ofNat_of_lt' hlt]
      exact Int.toNat_of_nonneg hn
    · exact absurd (List.mem_map_of_mem hm) hkey
  eq_default := by
    intro hnot
    exact absurd List.mem_cons_self hnot

end IsBound

/-! ## All entries -/

theorem foldlM_withEntry_cons {key : String} {n : Int} {start next : Config}
    (h : start.withEntry (key, .integer n) = .ok next) (rest : List (String × Int)) :
    (Toml.integerEntries ((key, n) :: rest)).foldlM withEntry start =
      (Toml.integerEntries rest).foldlM withEntry next := by
  rw [Toml.integerEntries, List.map_cons, List.foldlM_cons, h]
  rfl

/-- Without a negative capacity the entries state a configuration. -/
theorem exists_foldlM_withEntry {bindings : List (String × Int)}
    (hwords : ∀ bound ∈ bindings, Toml.isWord bound.2 = true)
    (hkeys : (bindings.map Prod.fst).Nodup)
    (hnonneg : ∀ bound ∈ bindings, ¬ IsNegativeCapacity bound) (start : Config) :
    ∃ config, (Toml.integerEntries bindings).foldlM withEntry start = .ok config ∧
      IsBound config.textCapacity start.textCapacity textKey bindings ∧
        IsBound config.logCapacity start.logCapacity logKey bindings := by
  induction bindings generalizing start with
  | nil => exact ⟨start, rfl, .nil _ _, .nil _ _⟩
  | cons bound rest ih =>
    obtain ⟨key, n⟩ := bound
    obtain ⟨hkey, hkeys⟩ := List.nodup_cons.mp hkeys
    have hword := hwords _ List.mem_cons_self
    have hrest := ih (fun bound hbound => hwords bound (List.mem_cons_of_mem _ hbound)) hkeys
      fun bound hbound => hnonneg bound (List.mem_cons_of_mem _ hbound)
    rcases withEntry_cases (hnonneg _ List.mem_cons_self) start with
      ⟨rfl, hn, hentry⟩ | ⟨rfl, hn, hentry⟩ | ⟨htext, hlog, hentry⟩
    · obtain ⟨config, hconfig, htext, hlog⟩ := hrest _
      rw [foldlM_withEntry_cons hentry]
      exact ⟨config, hconfig, htext.cons_self hkey hn hword, hlog.cons_of_ne (by decide)⟩
    · obtain ⟨config, hconfig, htext, hlog⟩ := hrest _
      rw [foldlM_withEntry_cons hentry]
      exact ⟨config, hconfig, htext.cons_of_ne (by decide), hlog.cons_self hkey hn hword⟩
    · obtain ⟨config, hconfig, hboundText, hboundLog⟩ := hrest start
      rw [foldlM_withEntry_cons hentry]
      exact ⟨config, hconfig, hboundText.cons_of_ne (Ne.symm htext),
        hboundLog.cons_of_ne (Ne.symm hlog)⟩

/-- The first negative capacity is reported, whatever stands behind it. -/
theorem foldlM_withEntry_of_negative {before : List (String × Int)} {bound : String × Int}
    (hbefore : ∀ earlier ∈ before, ¬ IsNegativeCapacity earlier) (h : IsNegativeCapacity bound)
    (after : List (String × Int)) (start : Config) :
    (Toml.integerEntries (before ++ bound :: after)).foldlM withEntry start =
      .error (.negative bound.2) := by
  induction before generalizing start with
  | nil =>
    rw [List.nil_append, Toml.integerEntries, List.map_cons, List.foldlM_cons,
      withEntry_of_negative h]
    rfl
  | cons first rest ih =>
    have hrest := ih fun earlier hearlier => hbefore earlier (List.mem_cons_of_mem _ hearlier)
    obtain ⟨next, hnext⟩ := exists_withEntry (hbefore first List.mem_cons_self) start
    rw [List.cons_append, foldlM_withEntry_cons hnext]
    exact hrest next

/-! ## Documents -/

theorem isWord_of_mem_bindings {lines : List Toml.Line} {bound : String × Int}
    (h : bound ∈ Toml.bindings lines) : Toml.isWord bound.2 = true := by
  obtain ⟨line, -, hline⟩ := List.mem_filterMap.mp h
  cases line with
  | layout ending => cases hline
  | binding bound ending =>
    cases hline
    exact bound.isWord_number

/-- A document is put together before its entries are looked at. -/
theorem ofText_document (lines : List Toml.Line) :
    ofText (Toml.document lines) =
      if ((Toml.bindings lines).map Prod.fst).Nodup then
        (ofEntries (Toml.integerEntries (Toml.bindings lines))).mapError .capacity
      else .error .document := by
  rw [ofText, Toml.read?_document]
  split
  · next heq =>
    split at heq
    · cases heq
    · next hkeys => rw [if_neg hkeys]
  · next entries heq =>
    split at heq
    · next hkeys =>
      cases heq
      rw [if_pos hkeys]
    · cases heq

/-- **Layout does not count.** Of a document whose lines are blank, comments, or whole numbers given
to bare keys, only the bindings matter. If no key is bound twice and no capacity is negative, each
capacity is the number bound to its key, or its default if the key is not bound. If a capacity is
negative, the first such number is reported. If any key is bound twice, the document is bad,
whatever its numbers are. -/
theorem ofText_ignores_layout (lines : List Toml.Line) :
    (((Toml.bindings lines).map Prod.fst).Nodup →
        ((∀ bound ∈ Toml.bindings lines, ¬ IsNegativeCapacity bound) →
          ∃ config, ofText (Toml.document lines) = .ok config ∧
            IsBound config.textCapacity ({} : Config).textCapacity textKey (Toml.bindings lines) ∧
            IsBound config.logCapacity ({} : Config).logCapacity logKey (Toml.bindings lines)) ∧
        ((∃ bound ∈ Toml.bindings lines, IsNegativeCapacity bound) →
          ∃ before bound after, Toml.bindings lines = before ++ bound :: after ∧
            IsNegativeCapacity bound ∧ (∀ earlier ∈ before, ¬ IsNegativeCapacity earlier) ∧
            ofText (Toml.document lines) = .error (.capacity (.negative bound.2)))) ∧
      (¬ ((Toml.bindings lines).map Prod.fst).Nodup →
        ofText (Toml.document lines) = .error .document) := by
  refine ⟨fun hkeys => ⟨fun hnonneg => ?_, fun hnegative => ?_⟩, fun hkeys => ?_⟩
  · obtain ⟨config, hconfig, htext, hlog⟩ :=
      exists_foldlM_withEntry (fun _ => isWord_of_mem_bindings) hkeys hnonneg {}
    refine ⟨config, ?_, htext, hlog⟩
    rw [ofText_document, if_pos hkeys, ofEntries, hconfig]
    rfl
  · obtain ⟨bound, hfind⟩ : ∃ bound, (Toml.bindings lines).find? IsNegativeCapacity = some bound := by
      refine Option.isSome_iff_exists.mp (List.find?_isSome.mpr ?_)
      simpa using hnegative
    obtain ⟨hbound, before, after, hsplit, hbefore⟩ := List.find?_eq_some_iff_append.mp hfind
    have hbound : IsNegativeCapacity bound := of_decide_eq_true hbound
    have hbefore : ∀ earlier ∈ before, ¬ IsNegativeCapacity earlier := by simpa using hbefore
    refine ⟨before, bound, after, hsplit, hbound, hbefore, ?_⟩
    rw [ofText_document, if_pos hkeys, ofEntries, hsplit,
      foldlM_withEntry_of_negative hbefore hbound]
    rfl
  · rw [ofText_document, if_neg hkeys]

/-- One capacity is bound between comments and blanks and the other keeps its default, until a
negative number is bound to it; binding the first one again makes the document bad. -/
theorem bound_twice_behind_negative :
    ∃ (lines : List Toml.Line) (negative again : Toml.Line),
      Toml.document (lines ++ [negative, again]) =
          "# sizes\n text_capacity\t= 8 # bytes\n\nlog_capacity=-5\ntext_capacity = 8" ∧
        (∃ config, ofText (Toml.document lines) = .ok config ∧
          (config.textCapacity.toNat : Int) = 8 ∧ config.logCapacity = 16) ∧
        (∃ bound ∈ Toml.bindings (lines ++ [negative]), bound.2 = -5 ∧
          ofText (Toml.document (lines ++ [negative])) = .error (.capacity (.negative bound.2))) ∧
        ofText (Toml.document (lines ++ [negative, again])) = .error .document := by
  let lines : List Toml.Line :=
    [.layout { comment := some " sizes".toList },
      .binding { indent := [' '], key := "text_capacity", before := ['\t'], number := 8 }
        { blanks := [' '], comment := some " bytes".toList },
      .layout {}]
  let negative : Toml.Line :=
    .binding { key := "log_capacity", before := [], after := [], number := -5 } {}
  let again : Toml.Line := .binding { key := "text_capacity", number := 8 } {}
  refine ⟨lines, negative, again, by decide +kernel, ?_, ?_, ?_⟩
  · obtain ⟨config, hconfig, htext, hlog⟩ :=
      ((ofText_ignores_layout lines).1 (by decide +kernel)).1 (by decide +kernel)
    exact ⟨config, hconfig, htext.eq_of_mem 8 (by decide +kernel),
      hlog.eq_default (by decide +kernel)⟩
  · obtain ⟨before, bound, after, hsplit, hbound, -, herror⟩ :=
      ((ofText_ignores_layout (lines ++ [negative])).1 (by decide +kernel)).2 (by decide +kernel)
    have hmem : bound ∈ [("text_capacity", (8 : Int)), ("log_capacity", -5)] := by
      rw [show [("text_capacity", (8 : Int)), ("log_capacity", -5)] =
        Toml.bindings (lines ++ [negative]) from rfl, hsplit]
      simp
    refine ⟨bound, by rw [hsplit]; simp, ?_, herror⟩
    rcases List.mem_cons.mp hmem with rfl | hmem
    · exact absurd hbound (by decide +kernel)
    · rw [List.mem_singleton.mp hmem]
  · exact (ofText_ignores_layout (lines ++ [negative, again])).2 (by decide +kernel)

end DeferredResponse.Config
