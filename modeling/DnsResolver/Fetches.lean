import DnsResolver.Lists
import DnsResolver.Handlers
import DnsResolver.Sharing
import Mathlib.Data.List.Nodup

/-! # The callers' fetches

`Handles`: every live fetch has its event exactly once, on its fctx or delivered. -/

namespace DnsResolver

/-- The fetches a delivery answers. -/
def Delivery.fetchIds : Delivery → List Nat
  | .fetchevents _ evs => evs.map (·.fetch)
  | .canceled e => [e.fetch]
  | .shutdown _ => []

def Sys.answers (s : Sys) : List Nat := s.delivered.flatMap Delivery.fetchIds

def Fctx.waiting (f : Fctx) : List Nat := f.events.map (·.fetch)

def Sys.holders (s : Sys) (i : Nat) : Nat :=
  (List.range s.nextId).countP fun h => s.fetches h = some i

def Fctx.ticket (f : Fctx) : Nat × List Nat × Bool := (f.references, f.waiting, f.state == .done)

/-- The books of the callers' fetches. -/
structure Handles (s : Sys) : Prop where
  fresh : ∀ h, s.nextId ≤ h → s.fetches h = none ∧ h ∉ s.answers
  target : ∀ h i, s.fetches h = some i → (s.fctxs i).isSome
  count : ∀ i f, s.fctxs i = some f → f.references = s.holders i
  owner : ∀ i f, s.fctxs i = some f → ∀ h ∈ f.waiting, s.fetches h = some i
  once : s.answers.Nodup
  answer : ∀ h i f, s.fetches h = some i → s.fctxs i = some f →
    s.answers.count h + f.waiting.count h = 1
  settled : ∀ i f, s.fctxs i = some f → f.state = .done → f.waiting = []

theorem handles_init (cfg : Config) : Handles (Sys.init cfg) where
  fresh _ _ := ⟨rfl, by simp [Sys.answers, Sys.init]⟩
  target _ _ h := by cases h
  count _ _ h := by cases h
  owner _ _ h := by cases h
  once := by simp [Sys.answers, Sys.init]
  answer _ _ _ h := by cases h
  settled _ _ h := by cases h

section
variable {s t : Sys}

@[simp] theorem answers_deliver (d : Delivery) : (s.deliver d).answers = s.answers ++ d.fetchIds := by
  simp [Sys.answers, Sys.deliver]

theorem Handles.live (h : Handles s) {k : Nat} (hk : (s.fetches k).isSome) : k < s.nextId :=
  Nat.lt_of_not_le fun hle => by simp [(h.fresh k hle).1] at hk

theorem Handles.holders_pos (h : Handles s) {k i : Nat} (hk : s.fetches k = some i) : 0 < s.holders i :=
  List.countP_pos_iff.mpr ⟨k, List.mem_range.mpr (h.live (by simp [hk])), by simp [hk]⟩

theorem holders_of_le {n : Nat} (hn : n ≤ s.nextId) (hf : ∀ k, n ≤ k → s.fetches k = none) (i : Nat) :
    (List.range n).countP (fun h => s.fetches h = some i) = s.holders i := by
  obtain ⟨d, hd⟩ := Nat.exists_eq_add_of_le hn
  unfold Sys.holders
  rw [hd]
  clear hd hn
  induction d with
  | zero => rfl
  | succ d ih =>
    rw [← Nat.add_assoc, List.range_succ, List.countP_append, ← ih]
    simp [hf (n + d) (Nat.le_add_right n d)]

theorem Handles.of_tickets (h : Handles s) (hfe : t.fetches = s.fetches) (hn : s.nextId ≤ t.nextId)
    (ha : t.answers = s.answers) (ht : ∀ i, (t.fctxs i).map Fctx.ticket = (s.fctxs i).map Fctx.ticket) :
    Handles t := by
  have back : ∀ i g, t.fctxs i = some g → ∃ f, s.fctxs i = some f ∧ g.references = f.references ∧
      g.waiting = f.waiting ∧ (g.state == .done) = (f.state == .done) := fun i g hg => by
    have := ht i
    rw [hg] at this
    cases hf : s.fctxs i with
    | none => rw [hf] at this; cases this
    | some f =>
      rw [hf] at this
      simpa [Fctx.ticket] using this
  have hh : ∀ i, t.holders i = s.holders i := fun i => by
    rw [← holders_of_le hn (fun k hk => hfe ▸ (h.fresh k hk).1)]
    simp only [Sys.holders, hfe]
  refine ⟨fun k hk => ?_, fun k i hk => ?_, fun i g hg => ?_, fun i g hg k hkg => ?_, ha ▸ h.once,
    fun k i g hk hg => ?_, fun i g hg hd => ?_⟩
  · rw [hfe, ha]; exact h.fresh k (Nat.le_trans hn hk)
  · have e : (t.fctxs i).isSome = (s.fctxs i).isSome := by simpa using congrArg Option.isSome (ht i)
    rw [e]; exact h.target k i (hfe ▸ hk)
  · obtain ⟨f, hf, hr, -⟩ := back i g hg
    rw [hh, hr, h.count i f hf]
  · obtain ⟨f, hf, -, hw, -⟩ := back i g hg
    rw [hfe]; exact h.owner i f hf k (hw ▸ hkg)
  · obtain ⟨f, hf, -, hw, -⟩ := back i g hg
    rw [ha, hw]; exact h.answer k i f (hfe ▸ hk) hf
  · obtain ⟨f, hf, -, hw, hs⟩ := back i g hg
    rw [hw]; exact h.settled i f hf (by simpa [hd] using hs.symm)

theorem Handles.of_same (h : Handles s) (hf : t.fctxs = s.fctxs) (hfe : t.fetches = s.fetches)
    (hn : s.nextId ≤ t.nextId) (ha : t.answers = s.answers) : Handles t :=
  h.of_tickets hfe hn ha fun i => by rw [hf]

theorem Handles.setFctx (h : Handles s) {i : Nat} {f g : Fctx} (hf : s.fctxs i = some f)
    (hg : g.ticket = f.ticket) : Handles (s.setFctx i g) :=
  h.of_tickets rfl le_rfl rfl fun j => by
    simp only [Sys.setFctx, Function.update_apply]
    split
    · subst j; rw [hf]; exact congrArg some hg
    · rfl

theorem Handles.rework (h : Handles s) {i : Nat} {f g : Fctx} (hf : s.fctxs i = some f)
    (hfc : t.fctxs = Function.update s.fctxs i (some g)) (hfe : t.fetches = s.fetches) (hn : s.nextId ≤ t.nextId)
    (ha : t.answers = s.answers) (hg : g.ticket = f.ticket) : Handles t :=
  (h.setFctx hf hg).of_tickets hfe hn ha fun j => by rw [hfc]; rfl

theorem Handles.waiting_count_eq_zero (h : Handles s) {k i j : Nat} {f : Fctx} (hk : s.fetches k = some j)
    (hf : s.fctxs i = some f) (hij : j ≠ i) : f.waiting.count k = 0 :=
  List.count_eq_zero_of_not_mem fun hw => hij (Option.some.inj ((hk.symm.trans (h.owner i f hf k hw))))

theorem Handles.waits_once (h : Handles s) {k i : Nat} {f : Fctx} (hf : s.fctxs i = some f)
    (hk : k ∈ f.waiting) : s.answers.count k = 0 ∧ f.waiting.count k = 1 := by
  have h₁ := h.answer k i f (h.owner i f hf k hk) hf
  have h₂ := List.count_pos_iff.mpr hk
  omega

theorem Handles.waiting_nodup (h : Handles s) {i : Nat} {f : Fctx} (hf : s.fctxs i = some f) :
    f.waiting.Nodup :=
  List.nodup_iff_count_le_one.mpr fun k => by
    by_cases hk : k ∈ f.waiting
    · exact (h.waits_once hf hk).2.le
    · simp [List.count_eq_zero_of_not_mem hk]

theorem holders_update {k : Nat} {v : Option Nat} (hk : k < s.nextId)
    (hfe : t.fetches = Function.update s.fetches k v) (hn : t.nextId = s.nextId) (i : Nat) :
    t.holders i + (if s.fetches k = some i then 1 else 0) = s.holders i + if v = some i then 1 else 0 := by
  have := countP_range_update (p := fun h => s.fetches h = some i) (q := fun h => t.fetches h = some i)
    (b := k) (fun c hc => by simp [hfe, hc]) s.nextId
  simp only [hk, if_true, hfe, Function.update_same, Bool.toNat, Bool.cond_decide] at this
  simpa only [Sys.holders, hn, hfe] using this

theorem holders_congr (hfe : t.fetches = s.fetches) (hn : t.nextId = s.nextId) (i : Nat) :
    t.holders i = s.holders i := by
  simp only [Sys.holders, hfe, hn]

theorem update_some_cases {α : Type} {t u : Nat → Option α} {i j : Nat} {a b : α}
    (ht : t = Function.update u j (some a)) (h : t i = some b) :
    (i = j ∧ b = a) ∨ (i ≠ j ∧ u i = some b) := by
  subst ht
  rcases eq_or_ne i j with rfl | hi
  · exact .inl ⟨rfl, by simpa using h.symm⟩
  · exact .inr ⟨hi, by rwa [Function.update_noteq hi] at h⟩

theorem update_none_cases {α : Type} {t u : Nat → Option α} {i j : Nat} {b : α}
    (ht : t = Function.update u j none) (h : t i = some b) : i ≠ j ∧ u i = some b := by
  subst ht
  rcases eq_or_ne i j with rfl | hi
  · simp at h
  · exact ⟨hi, by rwa [Function.update_noteq hi] at h⟩

theorem isSome_update_some {α : Type} {t u : Nat → Option α} {i j : Nat} {a : α}
    (ht : t = Function.update u j (some a)) (hu : (u i).isSome) : (t i).isSome := by
  subst ht
  rcases eq_or_ne i j with rfl | hi
  · simp
  · rwa [Function.update_noteq hi]

/-! ## How an event leaves its fctx -/

theorem Handles.sendevents (h : Handles s) {i : Nat} {f g : Fctx} {evs : List Fetchevent}
    (hf : s.fctxs i = some f) (hfc : t.fctxs = Function.update s.fctxs i (some g))
    (hg : g.references = f.references) (hge : g.events = []) (he : evs.map (·.fetch) = f.waiting)
    (hfe : t.fetches = s.fetches) (hn : t.nextId = s.nextId)
    (hd : t.delivered = s.delivered ++ [.fetchevents i evs]) : Handles t := by
  have ha : t.answers = s.answers ++ f.waiting := by simp [Sys.answers, hd, Delivery.fetchIds, he]
  have hw : g.waiting = [] := by simp [Fctx.waiting, hge]
  refine ⟨fun k hk => ?_, fun k j hk => isSome_update_some hfc (h.target k j (hfe ▸ hk)),
    fun j g' hg' => ?_, fun j g' hg' k hkg => ?_, ?_, fun k j g' hk hg' => ?_, fun j g' hg' hs => ?_⟩
  · rw [hn] at hk
    obtain ⟨hkf, hka⟩ := h.fresh k hk
    rw [hfe, ha, List.mem_append, not_or]
    exact ⟨hkf, hka, fun hkw => by simpa [hkf] using h.owner i f hf k hkw⟩
  · rw [holders_congr hfe hn]
    rcases update_some_cases hfc hg' with ⟨rfl, rfl⟩ | ⟨-, hg'⟩
    · rw [hg]; exact h.count _ f hf
    · exact h.count j g' hg'
  · rcases update_some_cases hfc hg' with ⟨rfl, rfl⟩ | ⟨-, hg'⟩
    · rw [hw] at hkg; cases hkg
    · rw [hfe]; exact h.owner j g' hg' k hkg
  · rw [ha]
    exact List.nodup_append.mpr ⟨h.once, h.waiting_nodup hf, fun k ha hw =>
      List.count_pos_iff.mpr ha |>.ne' (h.waits_once hf hw).1⟩
  · rw [hfe] at hk
    rw [ha, List.count_append]
    rcases update_some_cases hfc hg' with ⟨rfl, rfl⟩ | ⟨hj, hg'⟩
    · simpa [hw] using h.answer k _ f hk hf
    · rw [h.waiting_count_eq_zero hk hf hj, Nat.add_zero]
      exact h.answer k j g' hk hg'
  · rcases update_some_cases hfc hg' with ⟨rfl, rfl⟩ | ⟨-, hg'⟩
    · exact hw
    · exact h.settled j g' hg' hs

theorem map_eraseP_fetch (k : Nat) :
    ∀ l : List Fetchevent, (l.eraseP (·.fetch == k)).map (·.fetch) = (l.map (·.fetch)).erase k
  | [] => rfl
  | e :: l => by
    by_cases he : e.fetch = k
    · simp [he]
    · simp [List.eraseP_cons_of_neg, he, List.erase_cons_tail, map_eraseP_fetch k l]

theorem Handles.cancel (h : Handles s) {k j : Nat} {f : Fctx} {e : Fetchevent}
    (hk : s.fetches k = some j) (hf : s.fctxs j = some f) (he : e ∈ f.events) (hek : e.fetch = k)
    (hfc : t.fctxs = Function.update s.fctxs j (some { f with events := f.events.eraseP (·.fetch == k) }))
    (hfe : t.fetches = s.fetches) (hn : t.nextId = s.nextId)
    (hd : t.delivered = s.delivered ++ [.canceled { e with result := .canceled }]) : Handles t := by
  have ha : t.answers = s.answers ++ [k] := by simp [Sys.answers, hd, Delivery.fetchIds, hek]
  have hw : ({ f with events := f.events.eraseP (·.fetch == k) } : Fctx).waiting = f.waiting.erase k :=
    map_eraseP_fetch k f.events
  have hc := h.waits_once hf (List.mem_map.mpr ⟨e, he, hek⟩)
  have hlt : k < s.nextId := h.live (by simp [hk])
  refine ⟨fun k' hk' => ?_, fun k' i hk' => isSome_update_some hfc (h.target k' i (hfe ▸ hk')),
    fun i g hg => ?_, fun i g hg k' hkg => ?_, ?_, fun k' i g hk' hg => ?_, fun i g hg hs => ?_⟩
  · rw [hn] at hk'
    rw [hfe, ha, List.mem_append, not_or, List.mem_singleton]
    exact ⟨(h.fresh k' hk').1, (h.fresh k' hk').2, fun hkk => by omega⟩
  · rw [holders_congr hfe hn]
    rcases update_some_cases hfc hg with ⟨rfl, rfl⟩ | ⟨-, hg⟩
    · exact h.count _ f hf
    · exact h.count i g hg
  · rw [hfe]
    rcases update_some_cases hfc hg with ⟨rfl, rfl⟩ | ⟨-, hg⟩
    · rw [hw] at hkg; exact h.owner _ f hf k' (List.mem_of_mem_erase hkg)
    · exact h.owner i g hg k' hkg
  · rw [ha]
    exact List.nodup_append.mpr ⟨h.once, List.nodup_singleton k, fun x hx hy => by
      rw [List.mem_singleton.mp hy] at hx
      exact (List.count_pos_iff.mpr hx).ne' hc.1⟩
  · rw [hfe] at hk'
    rw [ha, List.count_append, List.count_singleton]
    rcases update_some_cases hfc hg with ⟨rfl, rfl⟩ | ⟨hi, hg⟩
    · rw [hw]
      by_cases hkk : k' = k
      · subst hkk; rw [List.count_erase_self]; simp only [beq_self_eq_true, if_true]; omega
      · rw [List.count_erase_of_ne hkk]; simpa [Ne.symm hkk] using h.answer k' _ f hk' hf
    · have hkk : k' ≠ k := fun e => hi (Option.some.inj (hk'.symm.trans (e ▸ hk)))
      simpa [Ne.symm hkk] using h.answer k' i g hk' hg
  · rcases update_some_cases hfc hg with ⟨rfl, rfl⟩ | ⟨-, hg⟩
    · rw [hw, h.settled _ f hf hs]; rfl
    · exact h.settled i g hg hs

/-! ## How a fetch comes and goes -/

theorem Handles.join (h : Handles s) {k j task : Nat} {f : Fctx} (hk : k < s.nextId)
    (hkf : s.fetches k = none) (hka : k ∉ s.answers) (hf : s.fctxs j = some f) (hfd : f.state ≠ .done)
    (hfe : t.fetches = Function.update s.fetches k (some j)) (hn : t.nextId = s.nextId)
    (ha : t.answers = s.answers) (hfc : t.fctxs = Function.update s.fctxs j
      (some { f with events := f.events ++ [{ fetch := k, task }], references := f.references + 1 })) :
    Handles t := by
  have hne : ∀ {k' i}, s.fetches k' = some i → k' ≠ k := fun hk' e => by rw [e, hkf] at hk'; cases hk'
  have hkw : k ∉ f.waiting := fun hw => hne (h.owner j f hf k hw) rfl
  have hw : ({ f with events := f.events ++ [{ fetch := k, task }], references := f.references + 1 } :
      Fctx).waiting = f.waiting ++ [k] := by
    simp [Fctx.waiting]
  -- a fetch of `s` keeps its fctx
  have old : ∀ {k' i}, s.fetches k' = some i → t.fetches k' = some i := fun hk' => by
    rwa [hfe, Function.update_noteq (hne hk')]
  refine ⟨fun k' hk' => ?_, fun k' i hk' => ?_, fun i g hg => ?_, fun i g hg k' hkg => ?_, ha ▸ h.once,
    fun k' i g hk' hg => ?_, fun i g hg hs => ?_⟩
  · rw [hn] at hk'
    rw [hfe, Function.update_noteq (by omega), ha]
    exact h.fresh k' hk'
  · rcases update_some_cases hfe hk' with ⟨-, rfl⟩ | ⟨-, hk'⟩
    · rw [hfc]; simp
    · exact isSome_update_some hfc (h.target k' i hk')
  · have hh := holders_update hk hfe hn i
    rw [hkf, if_neg (by simp), Nat.add_zero] at hh
    rcases update_some_cases hfc hg with ⟨rfl, rfl⟩ | ⟨hi, hg⟩
    · rw [hh, if_pos rfl, ← h.count _ f hf]
    · rw [hh, if_neg (by simpa using Ne.symm hi), Nat.add_zero, h.count i g hg]
  · rcases update_some_cases hfc hg with ⟨rfl, rfl⟩ | ⟨-, hg⟩
    · rw [hw, List.mem_append, List.mem_singleton] at hkg
      rcases hkg with hkg | rfl
      · exact old (h.owner _ f hf k' hkg)
      · rw [hfe, Function.update_same]
    · exact old (h.owner i g hg k' hkg)
  · rw [ha]
    rcases update_some_cases hfe hk' with ⟨rfl, rfl⟩ | ⟨hkk, hk'⟩
    · obtain ⟨-, rfl⟩ := (update_some_cases hfc hg).resolve_right fun h' => h'.1 rfl
      rw [hw, List.count_append, List.count_eq_zero_of_not_mem hka, List.count_eq_zero_of_not_mem hkw]
      simp
    · rcases update_some_cases hfc hg with ⟨rfl, rfl⟩ | ⟨-, hg⟩
      · have h₀ : [k].count k' = 0 := List.count_eq_zero_of_not_mem (by simpa using hkk)
        rw [hw, List.count_append, h₀, Nat.add_zero]
        exact h.answer k' _ f hk' hf
      · exact h.answer k' i g hk' hg
  · rcases update_some_cases hfc hg with ⟨-, rfl⟩ | ⟨-, hg⟩
    · exact absurd hs hfd
    · exact h.settled i g hg hs

theorem Handles.release (h : Handles s) {k j : Nat} {f : Fctx} (hk : s.fetches k = some j)
    (hf : s.fctxs j = some f) (hkw : k ∉ f.waiting)
    (hfe : t.fetches = Function.update s.fetches k none) (hn : t.nextId = s.nextId)
    (ha : t.answers = s.answers)
    (hfc : t.fctxs = Function.update s.fctxs j (some { f with references := f.references - 1 })) :
    Handles t := by
  refine ⟨fun k' hk' => ?_, fun k' i hk' => isSome_update_some hfc (h.target k' i (update_none_cases hfe hk').2),
    fun i g hg => ?_, fun i g hg k' hkg => ?_, ha ▸ h.once, fun k' i g hk' hg => ?_, fun i g hg hs => ?_⟩
  · rw [hn] at hk'
    rw [hfe, ha]
    refine ⟨?_, (h.fresh k' hk').2⟩
    rcases eq_or_ne k' k with rfl | hkk
    · exact Function.update_same _ _ _
    · rw [Function.update_noteq hkk]; exact (h.fresh k' hk').1
  · have hh := holders_update (h.live (by simp [hk])) hfe hn i
    simp only [hk, Option.some_inj, reduceCtorEq, if_false, Nat.add_zero] at hh
    rcases update_some_cases hfc hg with ⟨rfl, rfl⟩ | ⟨hi, hg⟩
    · simp only [if_true] at hh
      show f.references - 1 = _
      rw [h.count _ f hf]; omega
    · rw [if_neg (Ne.symm hi), Nat.add_zero] at hh
      rw [hh, h.count i g hg]
  · rw [hfe]
    rcases update_some_cases hfc hg with ⟨rfl, rfl⟩ | ⟨hi, hg⟩
    · rw [Function.update_noteq fun (e : k' = k) => hkw (e ▸ hkg)]; exact h.owner _ f hf k' hkg
    · have := h.owner i g hg k' hkg
      rw [Function.update_noteq fun (e : k' = k) => hi (Option.some.inj (this.symm.trans (e ▸ hk)))]
      exact this
  · obtain ⟨-, hk'⟩ := update_none_cases hfe hk'
    rw [ha]
    rcases update_some_cases hfc hg with ⟨rfl, rfl⟩ | ⟨-, hg⟩
    · exact h.answer k' _ f hk' hf
    · exact h.answer k' i g hk' hg
  · rcases update_some_cases hfc hg with ⟨rfl, rfl⟩ | ⟨-, hg⟩
    · exact h.settled _ f hf hs
    · exact h.settled i g hg hs

theorem Handles.create (h : Handles s) {j : Nat} {g : Fctx} (hj : s.fctxs j = none) (hg : g.references = 0)
    (he : g.events = []) : Handles (s.setFctx j g) := by
  have hnone : ∀ k, s.fetches k ≠ some j := fun k hk => by simpa [hj] using h.target k j hk
  have hw : g.waiting = [] := by simp [Fctx.waiting, he]
  have hfc : (s.setFctx j g).fctxs = Function.update s.fctxs j (some g) := rfl
  refine ⟨h.fresh, fun k i hk => isSome_update_some hfc (h.target k i hk), fun i f hf => ?_,
    fun i f hf k hk => ?_, h.once, fun k i f hk hf => ?_, fun i f hf hs => ?_⟩
  all_goals rcases update_some_cases hfc hf with ⟨rfl, rfl⟩ | ⟨-, hf⟩
  · rw [hg]; exact (List.countP_eq_zero.mpr fun k _ => by simpa using hnone k).symm
  · exact h.count i f hf
  · rw [hw] at hk; cases hk
  · exact h.owner i f hf k hk
  · exact absurd hk (hnone k)
  · exact h.answer k i f hk hf
  · exact hw
  · exact h.settled i f hf hs

theorem Handles.link (h : Handles s) {b : Nat} {g : Fctx} (hj : s.fctxs s.nextId = none) (hg : g.references = 0)
    (he : g.events = []) : Handles ({ s.setFctx s.nextId g with nextId := s.nextId + 1 }.setBucket b
      { s.buckets b with fctxs := (s.buckets b).fctxs ++ [s.nextId] }) :=
  (h.create hj hg he).of_same rfl rfl (Nat.le_succ _) rfl

theorem fctxDestroy_handles (h : Handles s) {i : Nat} :
    Holds (fun _ => True) (fun r => Handles r.2) (fctxDestroy s i) := by
  refine holds_withFctx trivial fun f hf => ?_
  dsimp only
  split
  · rename_i hc
    have hnone : ∀ k, s.fetches k ≠ some i := fun k hk => by
      have := h.holders_pos hk
      rw [← h.count i f hf, hc.2.2.2.2.2.2] at this
      exact Nat.lt_irrefl 0 this
    have back : ∀ {j g}, Function.update s.fctxs i none j = some g → s.fctxs j = some g :=
      fun hg => (update_none_cases rfl hg).2
    refine ⟨h.fresh, fun k j hk => ?_, fun j g hg => h.count j g (back hg),
      fun j g hg => h.owner j g (back hg), h.once, fun k j g hk hg => h.answer k j g hk (back hg),
      fun j g hg => h.settled j g (back hg)⟩
    have hj : j ≠ i := fun e => hnone k (e ▸ hk)
    simpa [Function.update_noteq hj] using h.target k j hk
  · trivial

end

/-! ## Classification keeps the waiters -/

def Fctx.callers (f : Fctx) : List Nat × Bool := (f.waiting, f.wantShutdown)

section
variable {f f' : Fctx} {m m' : Message} {r : IscResult} {v : View} {w w' : List CacheWrite}

@[simp] theorem cloneResults_fetch (evs : List Fetchevent) :
    (cloneResults evs).map (·.fetch) = evs.map (·.fetch) := by
  cases evs <;> simp [cloneResults]

@[simp] theorem bindAnswer_fetch (owner : Name) (eresult : IscResult) (evs : List Fetchevent) :
    (bindAnswer owner eresult evs).map (·.fetch) = evs.map (·.fetch) := by
  cases evs <;> simp [bindAnswer]

@[simp] theorem fillHead_fetch (owner : Name) (bound : Option Bound) (evs : List Fetchevent) :
    (fillHead owner bound evs).map (·.fetch) = evs.map (·.fetch) := by
  cases evs <;> simp [fillHead]

theorem noanswerFinish_events (oqname : Option Name) (st : NoanswerScan) :
    ((noanswerFinish f m oqname st).2.1.events, (noanswerFinish f m oqname st).2.1.wantShutdown) =
      (f.events, f.wantShutdown) := by
  unfold noanswerFinish
  split
  · rfl
  split
  · rfl
  split
  · split <;> rfl
  all_goals split <;> rfl

theorem noanswerResponse_events {oqname : Option Name} (h : noanswerResponse f m oqname = .ok (r, f', m')) :
    (f'.events, f'.wantShutdown) = (f.events, f.wantShutdown) := by
  unfold noanswerResponse at h
  split at h
  · cases h; rfl
  split at h
  · obtain rfl : f' = _ := congrArg (·.2.1) (Except.ok.inj h).symm
    exact noanswerFinish_events _ _
  · dsimp only at h
    split at h
    · obtain ⟨_, -, h⟩ := Stop.exit_eq_ok h
      cases h; rfl
    · obtain rfl : f' = _ := congrArg (·.2.1) (Except.ok.inj h).symm
      unfold noanswerNext
      split
      · exact noanswerFinish_events _ _
      · rfl

theorem answerResponse_events (h : answerResponse f m = .ok (r, f', m')) :
    (f'.events, f'.wantShutdown) = (f.events, f.wantShutdown) := by
  unfold answerResponse at h
  split at h
  · obtain ⟨_, -, h⟩ := Stop.exit_eq_ok h
    cases h; rfl
  dsimp only at h
  split at h
  · cases h; rfl
  split at h
  · cases h; rfl
  split at h
  · have := noanswerResponse_events h; exact this
  split at h <;> (cases h; rfl)

theorem cacheName_callers {n : MsgName} (h : cacheName v f n = .ok (r, f', w)) : f'.callers = f.callers := by
  obtain ⟨st, -, h⟩ := map_eq_ok.mp h
  dsimp only at h
  split at h <;> (cases h; split <;> simp [Fctx.callers, Fctx.waiting])

theorem cacheNames_callers :
    ∀ {f f' : Fctx} {w w' : List CacheWrite} {sec : List MsgName} {r : IscResult},
      cacheNames v f w sec = .ok (r, f', w') → f'.callers = f.callers
  | _, _, _, _, [], _, h => by cases h; rfl
  | f, f', w, w', n :: rest, r, h => by
    simp only [cacheNames] at h
    split at h
    · exact cacheNames_callers h
    split at h
    · cases h
    · rename_i hname
      split at h
      · exact (cacheNames_callers h).trans (cacheName_callers hname)
      · cases h; exact cacheName_callers hname

theorem cacheSections_callers :
    ∀ {f f' : Fctx} {w w' : List CacheWrite} {secs : List (List MsgName)} {r : IscResult},
      cacheSections v f w secs = .ok (r, f', w') → f'.callers = f.callers
  | _, _, _, _, [], _, h => by cases h; rfl
  | f, f', w, w', sec :: secs, r, h => by
    simp only [cacheSections] at h
    split at h
    · cases h
    · rename_i hnames
      split at h
      · exact (cacheSections_callers h).trans (cacheNames_callers hnames)
      · cases h; exact cacheNames_callers hnames

theorem cacheMessage_callers (h : cacheMessage v f m = .ok (r, f', w)) : f'.callers = f.callers := by
  have := cacheSections_callers h; exact this

theorem ncacheMessage_callers (covers : RdataType) : (ncacheMessage v f covers).2.1.callers = f.callers := by
  unfold ncacheMessage
  dsimp only
  split <;> (try split) <;> simp [Fctx.callers, Fctx.waiting]

theorem ncacheVerdict_callers {base : Verdict} : (ncacheVerdict v base f m w).2.1.callers = f.callers := by
  unfold ncacheVerdict
  split
  · exact ncacheMessage_callers _
  · rfl

theorem cacheVerdict_callers {q : Query} {getNs : Bool} {vd : Verdict}
    (h : cacheVerdict v q getNs f m = .ok (vd, f', w)) : f'.callers = f.callers := by
  unfold cacheVerdict at h
  dsimp only at h
  split at h
  · split at h
    · cases h
    · rename_i r₁ f₁ w₁ h₁
      have hc : f₁.callers = f.callers := cacheMessage_callers h₁
      split at h
      · cases h; exact hc
      · obtain rfl : f' = _ := congrArg (·.2.1) (Except.ok.inj h).symm
        exact ncacheVerdict_callers.trans hc
  · obtain rfl : f' = _ := congrArg (·.2.1) (Except.ok.inj h).symm
    exact ncacheVerdict_callers

theorem classifyVerdict_callers {cfg : Config} {q : Query} {vd : Verdict}
    (h : classifyVerdict cfg v f q m = .ok (vd, f', w)) : f'.callers = f.callers := by
  have hev : ∀ {r f₁ m₁}, (answerResponse f m = .ok (r, f₁, m₁) ∨ noanswerResponse f m none = .ok (r, f₁, m₁)) →
      f₁.callers = f.callers := fun h₁ => congrArg (fun p => (p.1.map (·.fetch), p.2))
    (h₁.elim answerResponse_events noanswerResponse_events)
  rcases classifyVerdict_cases h with ⟨rfl, -⟩ | ⟨_, _, _, _, h₁, ⟨rfl, -⟩ | hc⟩
  · rfl
  · exact hev h₁
  · exact (cacheVerdict_callers hc).trans (hev h₁)

theorem responseVerdict_callers {cfg : Config} {q : Query} {parse : IscResult} {vd : Verdict}
    (h : responseVerdict cfg v f q parse m = .ok (vd, f', w)) : f'.callers = f.callers := by
  unfold responseVerdict at h
  split at h
  · cases h; rfl
  split at h
  · cases h
  split at h
  · cases h; rfl
  · exact classifyVerdict_callers h

theorem responseVerdict_ticket {cfg : Config} {q : Query} {parse : IscResult} {vd : Verdict}
    (h : responseVerdict cfg v f q parse m = .ok (vd, f', w)) : f'.ticket = f.ticket := by
  have hc := responseVerdict_core h
  have hs : f'.state = f.state := congrArg (·.1.1) hc
  have hr : f'.references = f.references := congrArg (·.2.2.1) hc
  have hw : f'.waiting = f.waiting := congrArg Prod.fst (responseVerdict_callers h)
  simp only [Fctx.ticket, hs, hr, hw]

end

/-! ## The helpers of one fctx -/

section
variable {s : Sys} {i : Nat}

@[simp] theorem answers_sendShutdownEvents : (sendShutdownEvents s).answers = s.answers := by
  simp [Sys.answers, sendShutdownEvents, Delivery.fetchIds]

theorem fctxStoptimer_handles (h : Handles s) : Holds (fun _ => True) Handles (fctxStoptimer s i) :=
  holds_withFctx trivial fun _ hf => (h.setFctx hf (by rfl)).of_same rfl rfl le_rfl rfl

theorem fctxCancelquery_handles {q : Nat} (h : Handles s) :
    Holds (fun _ => True) Handles (fctxCancelquery s i q) :=
  holds_withFctx trivial fun _ hf => holds_ite ((h.setFctx hf (by rfl)).of_same rfl rfl le_rfl rfl) trivial

theorem cancelEach_handles : ∀ {s : Sys} (qs : List Query), Handles s →
    Holds (fun _ => True) Handles (cancelEach i s qs)
  | _, [], h => h
  | _, _ :: qs, h => (fctxCancelquery_handles h).bind fun _ _ ht => cancelEach_handles qs ht

theorem fctxCancelqueries_handles (h : Handles s) : Holds (fun _ => True) Handles (fctxCancelqueries s i) :=
  holds_withFctx trivial fun f _ => cancelEach_handles f.queries h

theorem fctxCleanupfinds_handles (h : Handles s) : Holds (fun _ => True) Handles (fctxCleanupfinds s i) :=
  holds_withFctx trivial fun _ hf => holds_ite (h.setFctx hf rfl) trivial

theorem fctxCleanupforwaddrs_handles (h : Handles s) :
    Holds (fun _ => True) Handles (fctxCleanupforwaddrs s i) :=
  holds_withFctx trivial fun _ hf => holds_ite (h.setFctx hf rfl) trivial

theorem fctxStopeverything_handles (h : Handles s) : Holds (fun _ => True) Handles (fctxStopeverything s i) :=
  (fctxCancelqueries_handles h).bind fun _ _ ht => (fctxCleanupfinds_handles ht).bind fun _ _ hu =>
    (fctxCleanupforwaddrs_handles hu).bind fun _ _ hv => fctxStoptimer_handles hv

theorem setState_sendevents_handles {r : IscResult} (h : Handles s) :
    Holds (fun _ => True) Handles (setState s i .done >>= fun t => fctxSendevents t i r) := by
  refine Holds.bind (P := fun t => ∃ f, s.fctxs i = some f ∧ t = s.setFctx i { f with state := .done })
    (holds_withFctx trivial fun f hf => ⟨f, hf, rfl⟩) fun _ _ ⟨f, hf, ht⟩ => ?_
  subst ht
  rw [fctxSendevents, withFctx_of_some (Function.update_same _ _ _), if_neg (not_not.mpr rfl)]
  exact h.sendevents hf (Function.update_idem _ _ _) rfl rfl (by simp [Fctx.waiting, apply_ite]) rfl rfl rfl

theorem fctxDone_handles {r : IscResult} (h : Handles s) : Holds (fun _ => True) Handles (fctxDone s i r) :=
  (fctxStopeverything_handles h).bind fun _ _ ht => setState_sendevents_handles ht

theorem emptyBucket_handles (h : Handles s) : Holds (fun _ => True) Handles (emptyBucket s) := by
  unfold emptyBucket
  split
  · trivial
  · dsimp only
    split
    · exact h.of_same rfl rfl le_rfl answers_sendShutdownEvents
    · exact h.of_same rfl rfl le_rfl rfl

theorem destroyAndEmpty_handles (h : Handles s) : Holds (fun _ => True) Handles (destroyAndEmpty s i) :=
  (fctxDestroy_handles h).bind fun ⟨_, _⟩ _ ht => holds_ite (emptyBucket_handles ht) ht

theorem fctxShutdown_handles (h : Handles s) : Holds (fun _ => True) Handles (fctxShutdown s i) := by
  refine holds_withFctx trivial fun f hf => ?_
  dsimp only
  split
  · exact h
  · split
    · exact (h.setFctx hf (by rfl)).of_same rfl rfl le_rfl rfl
    · exact h.setFctx hf rfl

end

/-! ## Rounds of addresses, queries and `fctx_try` -/

section
variable {α : Type} {P : α → Prop} {x : Except Abort α}

theorem holds_of_ok (h : ∀ a, x = .ok a → P a) : Holds (fun _ => True) P x := by
  cases x
  · trivial
  · exact h _ rfl

theorem Holds.both {E : Abort → Prop} (hp : Holds (fun _ => True) P x) (he : Holds E (fun _ => True) x) :
    Holds E P x := by
  cases x
  · exact he
  · exact hp

theorem Safe.anyway (hx : Safe P x) : Holds (fun _ => True) P x :=
  holds_of_ok fun _ he => by rw [he] at hx; exact hx

end

section
variable {cfg : Config} {env : Env} {s : Sys} {i : Nat}

theorem fctxGetaddresses_handles (h : Handles s) :
    Holds (fun _ => True) (fun r => Handles r.2) (fctxGetaddresses cfg env s i) := by
  refine holds_withFctx trivial fun f hf => ?_
  let f₁ : Fctx := { f with restarts := f.restarts + 1, forwaddrs := forwarderAddrs cfg env }
  dsimp only
  split
  · exact h.setFctx hf rfl
  split
  · trivial
  split
  · exact (addressesFound_fctx (f := f₁)).anyway.map fun _ ⟨_, hr⟩ => h.setFctx hf (by rw [hr]; rfl)
  split
  · trivial
  split
  · trivial
  split
  · obtain ⟨_, _, rfl⟩ := findNameservers_fctx (f := f₁) ‹_›
    exact (h.setFctx hf (by rfl)).of_same rfl rfl le_rfl rfl
  · obtain ⟨_, _, rfl⟩ := findNameservers_fctx (f := f₁) ‹_›
    exact addressesFound_fctx.anyway.map fun _ ⟨_, hr⟩ =>
      (h.setFctx hf (by rw [hr]; rfl)).of_same rfl rfl le_rfl rfl

theorem fctxNextaddressAt_handles (h : Handles s) :
    Holds (fun _ => True) (fun r => Handles r.2) (fctxNextaddressAt s i) := by
  refine holds_withFctx trivial fun f hf => ?_
  split
  · trivial
  · exact h.setFctx hf rfl

theorem fctxQuery_handles {a : Addrinfo} {o : FetchOptions} (h : Handles s) :
    Holds (fun _ => True) (fun r => Handles r.2) (fctxQuery env s i a o) := by
  refine holds_withFctx trivial fun f hf => ?_
  have h₁ := (h.setFctx (i := i) (g := { f with interval := retryInterval f.restarts a.srtt, timer := .armed true })
    hf rfl).of_same (t := (s.setFctx i _).note (.queried i a)) rfl rfl le_rfl rfl
  dsimp only
  split
  · exact (fctxStoptimer_handles h₁).map fun _ ht => ht
  · exact h₁.rework (Function.update_same _ _ _) rfl rfl (Nat.le_succ _) rfl rfl

theorem queryOrDone_handles {a : Addrinfo} {o : FetchOptions} (h : Handles s) :
    Holds (fun _ => True) Handles (queryOrDone env s i a o) :=
  (fctxQuery_handles h).bind fun ⟨_, _⟩ _ ht => holds_ite ht (fctxDone_handles ht)

theorem setAddrwait_handles {b : Bool} (h : Handles s) : Holds (fun _ => True) Handles (setAddrwait s i b) :=
  holds_withFctx trivial fun _ hf => h.setFctx hf rfl

theorem fctxTry_handles (h : Handles s) : Holds (fun _ => True) Handles (fctxTry cfg env s i) := by
  refine holds_withFctx trivial fun f _ => ?_
  dsimp only
  split
  · trivial
  refine (fctxNextaddressAt_handles (h.of_same (t := s.note (.tried i)) rfl rfl le_rfl rfl)).bind
    fun ⟨a, t⟩ _ ht => ?_
  dsimp only
  split
  · exact queryOrDone_handles ht
  refine (fctxCancelqueries_handles ht).bind fun _ _ h₂ => (fctxCleanupfinds_handles h₂).bind fun _ _ h₃ =>
    (fctxCleanupforwaddrs_handles h₃).bind fun _ _ h₄ => (fctxGetaddresses_handles h₄).bind
      fun ⟨r, t₅⟩ _ h₅ => ?_
  refine holds_ite (setAddrwait_handles h₅) (holds_ite (fctxDone_handles h₅)
    ((fctxNextaddressAt_handles h₅).bind fun ⟨a', t₆⟩ _ h₆ => ?_))
  dsimp only
  split
  · exact queryOrDone_handles h₆
  · trivial

end

/-! ## Event handlers -/

section
variable {cfg : Config} {env : Env} {s : Sys} {i : Nat}

theorem fctxTimeout_handles {life : Bool} (h : Handles s) :
    Holds (fun _ => True) Handles (fctxTimeout cfg env s i life) :=
  holds_ite (fctxDone_handles h) ((setAddrwait_handles h).bind fun _ _ ht => fctxTry_handles ht)

theorem fctxFinddone_handles {more : Bool} (h : Handles s) :
    Holds (fun _ => True) Handles (fctxFinddone cfg env s i more) := by
  refine holds_withFctx trivial fun f hf => ?_
  have h₁ : ∀ {g : Fctx}, g.ticket = f.ticket → Handles (s.setFctx i g) := fun hg => h.setFctx hf hg
  dsimp only
  split
  · trivial
  exact holds_ite (holds_ite (fctxTry_handles (h₁ rfl)) (holds_ite (fctxDone_handles (h₁ rfl)) (h₁ rfl)))
    (holds_ite (destroyAndEmpty_handles (h₁ rfl)) (h₁ rfl))

theorem fctxStart_handles (h : Handles s) : Holds (fun _ => True) Handles (fctxStart cfg env s i) := by
  refine holds_withFctx trivial fun f hf => ?_
  split
  · trivial
  rename_i hi
  split
  · split
    · trivial
    · exact destroyAndEmpty_handles h
  · exact fctxTry_handles (h.setFctx hf (by rw [Fctx.ticket, Fctx.ticket, not_not.mp hi]; rfl))

theorem fctxDoshutdown_handles (h : Handles s) : Holds (fun _ => True) Handles (fctxDoshutdown s i) := by
  refine holds_withFctx trivial fun f hf => ?_
  have fin : ∀ t, Handles t → Holds (fun _ => True) Handles
      (if f.references = 0 ∧ f.pending = 0 ∧ f.validating = 0 then destroyAndEmpty t i else pure t) :=
    fun _ ht => holds_ite (destroyAndEmpty_handles ht) ht
  have h₁ := h.setFctx (i := i) (g := { f with attributes := { f.attributes with shuttingdown := true } }) hf rfl
  dsimp only
  split
  · trivial
  simp only [pure_bind]
  split
  · refine (fctxStopeverything_handles h₁).bind fun _ _ h₂ => ?_
    rw [← bind_assoc]
    exact (setState_sendevents_handles h₂).bind fun t _ h₄ => fin t h₄
  · exact fin _ h₁

theorem resquerySenddone_handles {q : Nat} {result : IscResult} (h : Handles s) :
    Holds (fun _ => True) Handles (resquerySenddone s i q result) :=
  holds_ite (fctxCancelquery_handles h) h

theorem resqueryConnected_handles {q : Query} {result : IscResult} (h : Handles s) :
    Holds (fun _ => True) Handles (resqueryConnected env s i q result) := by
  refine holds_withFctx trivial fun f hf => ?_
  dsimp only
  split
  · exact h
  split
  · exact fctxCancelquery_handles h
  · exact (h.setFctx hf (by rfl)).of_same rfl rfl le_rfl rfl

theorem resqueryResponse_handles {qid : Nat} {parse : IscResult} {m : Message} (h : Handles s) :
    Holds (fun _ => True) Handles (resqueryResponse cfg env s i qid parse m) := by
  refine holds_withFctx trivial fun f hf => ?_
  split
  · trivial
  · exact (holds_of_ok (P := fun r : Verdict × Fctx × List CacheWrite => r.2.1.ticket = f.ticket)
      fun ⟨_, _, _⟩ hv => responseVerdict_ticket hv).map fun _ hr => (h.setFctx hf hr).of_same rfl rfl le_rfl rfl

theorem stopIdletimer_handles (h : Handles s) : Holds (fun _ => True) Handles (stopIdletimer s i) :=
  holds_withFctx trivial fun _ hf => h.setFctx hf rfl

theorem getNameservers_handles (h : Handles s) : Holds (fun _ => True) Handles (getNameservers cfg env s i) := by
  refine holds_withFctx trivial fun f hf => ?_
  split
  · exact fctxDone_handles h
  split
  · exact fctxDone_handles (h.setFctx hf rfl)
  rename_i fname ns _ _
  have h₁ := h.setFctx (i := i) (g := { f with domain := fname, nameservers := some ns }) hf rfl
  exact (fctxCancelqueries_handles h₁).bind fun _ _ h₂ => (fctxCleanupfinds_handles h₂).bind fun _ _ h₃ =>
    (fctxCleanupforwaddrs_handles h₃).bind fun _ _ h₄ => fctxTry_handles h₄

theorem resqueryFinish_handles {r : Resume} (h : Handles s) :
    Holds (fun _ => True) Handles (resqueryFinish cfg env s r) :=
  (fctxCancelquery_handles h).bind fun _ _ ht =>
    holds_ite (holds_ite (fctxTry_handles ht) (holds_ite (fctxDone_handles ht) (getNameservers_handles ht)))
      (holds_ite (queryOrDone_handles ht) (holds_withFctx trivial fun _ _ => holds_ite
        ((fctxCancelqueries_handles ht).bind fun _ _ hu => stopIdletimer_handles hu) (fctxDone_handles ht)))

theorem dispatch_handles {e : TaskEvent} (h : Handles s) : Holds (fun _ => True) Handles (dispatch cfg env s e) := by
  cases e with
  | start => exact fctxStart_handles h
  | doshutdown => exact fctxDoshutdown_handles h
  | timeout => exact fctxTimeout_handles h
  | finddone => exact fctxFinddone_handles h
  | response => exact resqueryResponse_handles h
  | senddone => exact resquerySenddone_handles h
  | connected => exact resqueryConnected_handles h

end

/-! ## Callers -/

section
variable {cfg : Config} {s : Sys}

theorem fctxJoin_handles {j k task : Nat} (h : Handles s) (hk : k < s.nextId) (hkf : s.fetches k = none)
    (hka : k ∉ s.answers) (hd : ∀ f, s.fctxs j = some f → f.state ≠ .done) :
    Holds (fun _ => True) Handles (fctxJoin s j k task) :=
  holds_withFctx trivial fun f hf => h.join hk hkf hka hf (hd f hf) rfl rfl rfl rfl

theorem createfetch_handles {cenv : CreateEnv} {name : Name} {type : RdataType}
    {domain : Option (Name × List Name)} {options : FetchOptions} {task : Nat} (h : Handles s)
    (hb : ∀ j, s.nextId ≤ j → s.fctxs j = none) :
    Holds (fun _ => True) (fun r => Handles r.2) (createfetch cfg cenv s name type domain options task) := by
  unfold createfetch
  split
  · exact h
  have h₁ : Handles { s with nextId := s.nextId + 1 } := h.of_same rfl rfl (Nat.le_succ _) rfl
  obtain ⟨hkf, hka⟩ := h.fresh s.nextId le_rfl
  dsimp only
  split
  · exact h₁
  split
  · rename_i j hj
    have hd : ∀ f, s.fctxs j = some f → f.state ≠ .done := fun f hf => by
      obtain ⟨_, -, f', hf', hne, rfl⟩ : ∃ a, _ ∧ ∃ f', s.fctxs a = some f' ∧ f'.state ≠ .done ∧ a = j := by
        simpa [Option.bind_eq_some] using hj
      exact Option.some_inj.mp (hf.symm.trans hf') ▸ hne
    split
    · exact (fctxJoin_handles h₁ (Nat.lt_succ_self _) hkf hka hd).map fun _ ht => ht
    · exact h₁
  split
  · exact h₁
  rename_i g hg
  obtain ⟨hgi, -, -, hg₀, he₀⟩ := fctxCreate_fresh hg
  have h₂ := h₁.link (b := cfg.hash name % cfg.nbuckets) (hb _ (Nat.le_succ _)) hg₀ he₀
  split
  · refine (fctxJoin_handles h₂ (Nat.lt_succ_of_lt (Nat.lt_succ_self _)) hkf hka fun f hf => ?_).map
      fun _ ht => ht.of_same rfl rfl le_rfl rfl
    obtain rfl : g = f := by simpa using hf
    rw [hgi]
    exact Fetchstate.noConfusion
  · exact (fctxDestroy_handles h₂).map fun _ ht => ht

theorem cancelfetch_handles {k : Nat} (h : Handles s) : Holds (fun _ => True) Handles (cancelfetch s k) := by
  unfold cancelfetch
  split
  · trivial
  rename_i j hk
  refine holds_withFctx trivial fun f hf => ?_
  split
  · exact h
  split
  · exact h
  · rename_i e he
    exact h.cancel hk hf (List.mem_of_find?_eq_some he) (by simpa using List.find?_some he) rfl rfl rfl rfl

theorem destroyAndEmpty_aborts {i : Nat} {f : Fctx} (hf : s.fctxs i = some f) :
    Holds (fun e => e = .destroy ∨ e = .emptyBucket) (fun _ => True) (destroyAndEmpty s i) := by
  refine Holds.bind (P := fun _ => True) ?_ fun ⟨_, t⟩ _ _ => holds_ite ?_ trivial
  · rw [fctxDestroy, withFctx_of_some hf]
    dsimp only
    split
    · trivial
    · exact .inl rfl
  · unfold emptyBucket
    split
    · exact .inr rfl
    · trivial

theorem destroyfetch_handles {k : Nat} (h : Handles s) (he : enabled s (.destroyfetch k)) :
    Holds (fun e => e = .destroy ∨ e = .emptyBucket) Handles (destroyfetch s k) := by
  unfold destroyfetch
  split
  · rename_i hk; simp [enabled, hk] at he
  rename_i j hk
  obtain ⟨f, hf⟩ := Option.isSome_iff_exists.mp (h.target k j hk)
  rw [withFctx_of_some hf]
  have hkw : k ∉ f.waiting := fun hw => by
    obtain ⟨e, hem, rfl⟩ := List.mem_map.mp hw
    simp only [enabled, hk, hf, Option.map_some', Option.getD_some, List.all_eq_true] at he
    simpa using he e hem
  have h₁ : Handles { s.setFctx j { f with references := f.references - 1 } with
      fetches := Function.update s.fetches k none } := h.release hk hf hkw rfl rfl rfl rfl
  have hd := destroyAndEmpty_aborts (s := { s.setFctx j { f with references := f.references - 1 } with
      fetches := Function.update s.fetches k none }) (Function.update_same _ _ _)
  dsimp only
  split
  · rename_i hc
    obtain ⟨e, hem, hek⟩ := List.any_eq_true.mp hc.2
    exact absurd (List.mem_map.mpr ⟨e, hem, by simpa using hek⟩) hkw
  split
  · rename_i hr
    have := h.count j f hf ▸ h.holders_pos hk
    omega
  refine holds_ite h₁ (holds_ite ((destroyAndEmpty_handles h₁).both hd) ((fctxShutdown_handles h₁).both ?_))
  rw [fctxShutdown, withFctx_of_some (Function.update_same _ _ _)]
  dsimp only
  split <;> trivial

theorem shutdownEach_handles : ∀ {s : Sys} (js : List Nat), Handles s →
    Holds (fun _ => True) Handles (shutdownEach s js)
  | _, [], h => h
  | _, _ :: js, h => (fctxShutdown_handles h).bind fun _ _ ht => shutdownEach_handles js ht

theorem shutdownBucket_handles {b : Nat} (h : Handles s) : Holds (fun _ => True) Handles (shutdownBucket s b) := by
  refine (shutdownEach_handles _ h).bind fun t _ ht => ?_
  have h₁ : Handles (t.setBucket b { t.buckets b with exiting := true }) := ht.of_same rfl rfl le_rfl rfl
  dsimp only
  split
  · exact h₁
  split
  · trivial
  · exact h₁.of_same rfl rfl le_rfl rfl

theorem shutdownBuckets_handles : ∀ {s : Sys} (bs : List Nat), Handles s →
    Holds (fun _ => True) Handles (shutdownBuckets s bs)
  | _, [], h => h
  | _, _ :: bs, h => (shutdownBucket_handles h).bind fun _ _ ht => shutdownBuckets_handles bs ht

theorem shutdown_handles (h : Handles s) : Holds (fun _ => True) Handles (shutdown cfg s) := by
  unfold shutdown
  split
  · exact h
  refine (shutdownBuckets_handles (s := { s with exiting := true }) _ (h.of_same rfl rfl le_rfl rfl)).bind
    fun t _ ht => ?_
  show Handles (if t.activebuckets = 0 then sendShutdownEvents t else t)
  split
  · exact ht.of_same rfl rfl le_rfl answers_sendShutdownEvents
  · exact ht

theorem whenshutdown_handles {l : Nat} (h : Handles s) : Handles (whenshutdown s l) := by
  unfold whenshutdown
  split
  · exact h.of_same rfl rfl le_rfl ((answers_deliver _).trans (List.append_nil _))
  · exact h.of_same rfl rfl le_rfl rfl

end

/-! ## Steps -/

section
variable {cfg : Config} {s : Sys}

/-- Every enabled step keeps the books of the fetches. -/
theorem step_handles {a : Action} (h : Handles s) (hb : ∀ j, s.nextId ≤ j → s.fctxs j = none)
    (he : enabled s a) : Holds (fun _ => True) Handles (step cfg s a) := by
  cases a with
  | createfetch => exact (createfetch_handles h hb).map fun _ ht => ht
  | cancelfetch => exact cancelfetch_handles h
  | destroyfetch => exact (destroyfetch_handles h he).weaken fun _ _ => trivial
  | shutdown => exact shutdown_handles h
  | whenshutdown => exact whenshutdown_handles h
  | fire => exact holds_withFctx trivial fun _ hf => (h.setFctx hf (by rfl)).of_same rfl rfl le_rfl rfl
  | complete k =>
    show Holds _ _ (match s.owed[k]? with | none => _ | some _ => _)
    split
    · exact h
    · exact h.of_same rfl rfl le_rfl rfl
  | respond => exact holds_withFctx trivial fun _ _ => h.of_same rfl rfl le_rfl rfl
  | run b =>
    show Holds _ _ (match (s.buckets b).busy, (s.buckets b).queue with
      | some _, _ => _ | none, _ :: _ => _ | none, [] => _)
    split
    · exact resqueryFinish_handles (h.of_same rfl rfl le_rfl rfl)
    · exact dispatch_handles (h.of_same rfl rfl le_rfl rfl)
    · exact h

theorem Reachable.handles (h : Reachable cfg s) : Handles s := by
  induction h with
  | init => exact handles_init cfg
  | step a hr he hs ih =>
    have : Holds (fun _ => True) Handles (DnsResolver.step cfg _ a) := step_handles ih hr.sound.fresh he
    rw [hs] at this
    exact this

end

/-! ## A start after a shutdown -/

section
variable {cfg : Config} {env : Env} {s : Sys} {i : Nat} {f : Fctx}

theorem fctxStart_shut_down (hf : s.fctxs i = some f) (hi : f.state = .init) (hw : f.wantShutdown = true)
    (hr : f.references ≠ 0) : fctxStart cfg env s i = .error (if f.events = [] then .destroy else .startEvents) := by
  have hd : fctxDestroy s i = .error .destroy := by
    rw [fctxDestroy, withFctx_of_some hf]
    exact if_neg fun hc => hr hc.2.2.2.2.2.2
  rw [fctxStart, withFctx_of_some hf, if_neg (by simp [hi]), if_pos hw]
  split
  · rfl
  · rename_i he; rw [if_pos (not_not.mp he), destroyAndEmpty, hd]; rfl

end

/-! ## The fetches over whole runs -/

/-- No fetch is ever answered twice. -/
theorem fetch_answered_at_most_once (cfg : Config) : ∀ s, Reachable cfg s → s.answers.Nodup :=
  fun _ hs => hs.handles.once

theorem canceled_fetch_answered_once :
    ∃ s, run oneBucket (Sys.init oneBucket) [fetchA 7, fetchA 8, .cancelfetch 0] = some (.ok s) ∧
      s.answers = [0] ∧ s.answers.Nodup := by
  obtain ⟨s, hr, ha⟩ : ∃ s, run oneBucket (Sys.init oneBucket) [fetchA 7, fetchA 8, .cancelfetch 0] =
      some (.ok s) ∧ s.answers = [0] := ⟨_, rfl, rfl⟩
  exact ⟨s, hr, ha, fetch_answered_at_most_once oneBucket s (run_ok_reachable .init hr)⟩

/-- A live fetch's event is, exactly once, on its live fctx or handed to the caller. -/
theorem live_fetch_has_one_event (cfg : Config) :
    ∀ s, Reachable cfg s → ∀ k i, s.fetches k = some i →
      ∃ f, s.fctxs i = some f ∧ s.answers.count k + f.waiting.count k = 1 := fun _ hs k i hk => by
  obtain ⟨f, hf⟩ := Option.isSome_iff_exists.mp (hs.handles.target k i hk)
  exact ⟨f, hf, hs.handles.answer k i f hk hf⟩

theorem shared_fetches_have_one_event_each :
    ∃ s, run oneBucket (Sys.init oneBucket) [fetchA 7, fetchA 8, .cancelfetch 0] = some (.ok s) ∧
      s.fetches 0 = some 1 ∧ s.fetches 2 = some 1 ∧
      (∃ f, s.fctxs 1 = some f ∧ s.answers.count 0 + f.waiting.count 0 = 1) ∧
      ∃ f, s.fctxs 1 = some f ∧ s.answers.count 2 + f.waiting.count 2 = 1 := by
  obtain ⟨s, hr, h₀, h₂⟩ : ∃ s, run oneBucket (Sys.init oneBucket) [fetchA 7, fetchA 8, .cancelfetch 0] =
      some (.ok s) ∧ s.fetches 0 = some 1 ∧ s.fetches 2 = some 1 := ⟨_, rfl, rfl, rfl⟩
  have hs := run_ok_reachable .init hr
  exact ⟨s, hr, h₀, h₂, live_fetch_has_one_event oneBucket s hs 0 1 h₀,
    live_fetch_has_one_event oneBucket s hs 2 1 h₂⟩

/-- An fctx's reference count is the number of live fetches that point at it. -/
theorem references_count_live_fetches (cfg : Config) :
    ∀ s, Reachable cfg s → ∀ i f, s.fctxs i = some f →
      f.references = s.holders i ∧ ∀ e ∈ f.events, s.fetches e.fetch = some i :=
  fun _ hs i f hf => ⟨hs.handles.count i f hf, fun e he => hs.handles.owner i f hf e.fetch (List.mem_map_of_mem _ he)⟩

theorem two_callers_two_references :
    ∃ s f, run oneBucket (Sys.init oneBucket) [fetchA 7, fetchA 8] = some (.ok s) ∧ s.fctxs 1 = some f ∧
      f.references = 2 ∧ f.references = s.holders 1 ∧ ∀ e ∈ f.events, s.fetches e.fetch = some 1 := by
  obtain ⟨s, f, hr, hf, h₂⟩ : ∃ s f, run oneBucket (Sys.init oneBucket) [fetchA 7, fetchA 8] = some (.ok s) ∧
      s.fctxs 1 = some f ∧ f.references = 2 := ⟨_, _, rfl, rfl, rfl⟩
  exact ⟨s, f, hr, hf, h₂, references_count_live_fetches oneBucket s (run_ok_reachable .init hr) 1 f hf⟩

/-- Once an fctx is done, every caller holding a fetch of it got its event, once. -/
theorem done_fctx_answered_its_callers (cfg : Config) :
    ∀ s i f, Reachable cfg s → s.fctxs i = some f → f.state = .done →
      f.events = [] ∧ ∀ k, s.fetches k = some i → s.answers.count k = 1 := by
  intro s i f hs hf hd
  have h := hs.handles
  have hw := h.settled i f hf hd
  exact ⟨by simpa [Fctx.waiting] using hw, fun k hk => by simpa [hw] using h.answer k i f hk hf⟩

theorem timed_out_fctx_answered_both :
    ∃ s f, run oneBucket (Sys.init oneBucket) [fetchA 7, fetchA 8, .run 0 answering, .fire 1 true,
      .run 0 answering] = some (.ok s) ∧ s.fctxs 1 = some f ∧ f.state = .done ∧ f.references = 2 ∧
      f.events = [] ∧ ∀ k, s.fetches k = some 1 → s.answers.count k = 1 := by
  obtain ⟨s, f, hr, hf, hd, h₂⟩ : ∃ s f, run oneBucket (Sys.init oneBucket) [fetchA 7, fetchA 8,
      .run 0 answering, .fire 1 true, .run 0 answering] = some (.ok s) ∧ s.fctxs 1 = some f ∧
      f.state = .done ∧ f.references = 2 := ⟨_, _, rfl, rfl, rfl, rfl⟩
  exact ⟨s, f, hr, hf, hd, h₂, done_fctx_answered_its_callers oneBucket s 1 f (run_ok_reachable .init hr) hf hd⟩

/-- `dns_resolver_cancelfetch` of a live fetch leaves its event delivered exactly once. -/
theorem cancelfetch_answers_the_fetch (cfg : Config) :
    ∀ s k, Reachable cfg s → enabled s (.cancelfetch k) →
      ∃ t, step cfg s (.cancelfetch k) = .ok t ∧ t.answers.count k = 1 ∧
        ∀ i f, t.fctxs i = some f → k ∉ f.waiting := by
  intro s k hs he
  have h := hs.handles
  obtain ⟨j, hk⟩ := Option.isSome_iff_exists.mp he
  obtain ⟨f, hf⟩ := Option.isSome_iff_exists.mp (h.target k j hk)
  -- each outcome keeps the fetches and leaves no event of the fetch on its fctx
  obtain ⟨t, ht, hfe, g, hg, hkg⟩ : ∃ t, cancelfetch s k = .ok t ∧ t.fetches = s.fetches ∧
      ∃ g, t.fctxs j = some g ∧ k ∉ g.waiting := by
    simp only [cancelfetch, hk, withFctx_of_some hf]
    split
    · exact ⟨s, rfl, rfl, f, hf, by simp [h.settled j f hf ‹_›]⟩
    split
    · rename_i hn
      refine ⟨s, rfl, rfl, f, hf, fun hw => ?_⟩
      obtain ⟨e, hem, rfl⟩ := List.mem_map.mp hw
      exact List.find?_eq_none.mp hn e hem (by simp)
    · refine ⟨_, rfl, rfl, _, Function.update_same _ _ _, ?_⟩
      show k ∉ (f.events.eraseP (·.fetch == k)).map (·.fetch)
      rw [map_eraseP_fetch]
      exact (h.waiting_nodup hf).not_mem_erase
  have ht' := (Reachable.step (.cancelfetch k) hs he ht).handles
  refine ⟨t, ht, ?_, fun i g' hg' hkw => ?_⟩
  · have := ht'.answer k j g (hfe ▸ hk) hg
    rw [List.count_eq_zero_of_not_mem hkg] at this
    exact this
  · have hi := ht'.owner i g' hg' k hkw
    rw [hfe, hk, Option.some_inj] at hi
    subst hi
    exact hkg (Option.some_inj.mp (hg.symm.trans hg') ▸ hkw)

theorem cancel_after_timeout_answered_once :
    ∃ s t, run oneBucket (Sys.init oneBucket) [fetchA 7, fetchA 8, .run 0 answering, .fire 1 true,
      .run 0 answering] = some (.ok s) ∧ step oneBucket s (.cancelfetch 0) = .ok t ∧ t.answers.count 0 = 1 ∧
      ∀ i f, t.fctxs i = some f → 0 ∉ f.waiting := by
  obtain ⟨s, hr, he⟩ : ∃ s, run oneBucket (Sys.init oneBucket) [fetchA 7, fetchA 8, .run 0 answering,
      .fire 1 true, .run 0 answering] = some (.ok s) ∧ enabled s (.cancelfetch 0) := ⟨_, rfl, rfl⟩
  obtain ⟨t, ht⟩ := cancelfetch_answers_the_fetch oneBucket s 0 (run_ok_reachable .init hr) he
  exact ⟨s, t, hr, ht⟩

/-- `dns_resolver_destroyfetch` after the event came back fails only in `fctx_destroy`. -/
theorem destroyfetch_fails_only_in_destroy (cfg : Config) :
    ∀ s k, Reachable cfg s → enabled s (.destroyfetch k) →
      Holds (· = .destroy) (fun _ => True) (step cfg s (.destroyfetch k)) := by
  intro s k hs he
  have hd := destroyfetch_handles hs.handles he
  have hc : Safe (Calm cfg s) (destroyfetch s k) := destroyfetch_calm hs.sound
  show Holds _ _ (destroyfetch s k)
  cases hx : destroyfetch s k with
  | error e => rw [hx] at hd hc; exact hd.resolve_right hc.1
  | ok => trivial

theorem canceled_fetch_destroyed :
    ∃ s, run oneBucket (Sys.init oneBucket) [fetchA 7, .cancelfetch 0] = some (.ok s) ∧
      Holds (· = .destroy) (fun _ => True) (step oneBucket s (.destroyfetch 0)) := by
  obtain ⟨s, hr, hd⟩ : ∃ s, run oneBucket (Sys.init oneBucket) [fetchA 7, .cancelfetch 0] = some (.ok s) ∧
      enabled s (.destroyfetch 0) := ⟨_, rfl, rfl⟩
  exact ⟨s, hr, destroyfetch_fails_only_in_destroy oneBucket s 0 (run_ok_reachable .init hr) hd⟩

/-- The start event of a held fctx that a shutdown reached in `init` fails an assertion. -/
theorem held_fctx_start_after_shutdown_fails (cfg : Config) :
    ∀ s env b i rest f k, Reachable cfg s → (s.buckets b).busy = none →
      (s.buckets b).queue = .start i :: rest → s.fctxs i = some f → f.state = .init →
      f.wantShutdown = true → s.fetches k = some i →
      (f.events = [] → step cfg s (.run b env) = .error .destroy) ∧
      (f.events ≠ [] → step cfg s (.run b env) = .error .startEvents) := by
  intro s env b i rest f k hs hb hq hf hi hw hk
  have h := hs.handles
  have hr : f.references ≠ 0 := by
    have := h.count i f hf ▸ h.holders_pos hk
    omega
  have hstep : step cfg s (.run b env) = fctxStart cfg env (s.setBucket b { s.buckets b with queue := rest }) i := by
    simp only [DnsResolver.step, hb, hq]; rfl
  rw [hstep, fctxStart_shut_down (s := s.setBucket b _) hf hi hw hr]
  exact ⟨fun he => by rw [if_pos he], fun he => by rw [if_neg he]⟩

theorem canceled_then_shut_down_start_fails :
    ∃ s, run oneBucket (Sys.init oneBucket) [fetchA 7, .cancelfetch 0, .shutdown] = some (.ok s) ∧
      step oneBucket s (.run 0 answering) = .error .destroy := by
  obtain ⟨s, hr, hb, hq, f, hf, hi, hw, hk, he⟩ : ∃ s, run oneBucket (Sys.init oneBucket)
      [fetchA 7, .cancelfetch 0, .shutdown] = some (.ok s) ∧ (s.buckets 0).busy = none ∧
      (s.buckets 0).queue = [.start 1] ∧ ∃ f, s.fctxs 1 = some f ∧ f.state = .init ∧
      f.wantShutdown = true ∧ s.fetches 0 = some 1 ∧ f.events = [] :=
    ⟨_, rfl, rfl, rfl, _, rfl, rfl, rfl, rfl, rfl⟩
  exact ⟨s, hr, (held_fctx_start_after_shutdown_fails oneBucket s answering 0 1 [] f 0
    (run_ok_reachable .init hr) hb hq hf hi hw hk).1 he⟩

end DnsResolver
