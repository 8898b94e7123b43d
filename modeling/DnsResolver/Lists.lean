import DnsResolver.Cursor
import DnsResolver.Always

/-! # The lists of the resolver

`Tidy`: the finds have addresses, and bucket lists name addresses handed out. -/

namespace DnsResolver

/-- An abort other than the `INSIST`s on the address lists. -/
def Abort.Elsewhere (adb : Prop) (e : Abort) : Prop :=
  e ≠ .sortFinds ∧ e ≠ .nextaddressLoop ∧ (adb → e ≠ .tryAddress)

/-- The finds have addresses, the cursor is in range, and bucket lists name handed-out addresses. -/
structure Tidy (s : Sys) : Prop where
  finds : ∀ i f, s.fctxs i = some f → Scannable f.finds f.find
  lists : ∀ b j, j ∈ (s.buckets b).fctxs → j < s.nextId

def Fctx.Cleared (f : Fctx) : Prop := f.finds = [] ∧ f.find = none ∧ f.forwaddrs = []

section
variable {adb : Prop} {s t : Sys} {i : Nat} {g : Fctx}

theorem holds_elsewhere {α : Type} {P : α → Prop} {e : Abort} (h : e ∉ [.sortFinds, .nextaddressLoop, .tryAddress]) :
    Holds (Abort.Elsewhere adb) P (.error e) := by
  simp only [List.mem_cons, List.not_mem_nil, not_or] at h
  exact ⟨h.1, h.2.1, fun _ => h.2.2.1⟩

theorem elsewhere_dangling : Abort.Elsewhere adb .dangling := holds_elsewhere (P := fun _ : Unit => True) (by decide)

theorem Tidy.of_same (h : Tidy s) (hf : t.fctxs = s.fctxs)
    (hl : ∀ b, (t.buckets b).fctxs = (s.buckets b).fctxs) (hn : s.nextId ≤ t.nextId) : Tidy t :=
  ⟨fun i f hf' => h.finds i f (hf ▸ hf'), fun b j hj => Nat.lt_of_lt_of_le (h.lists b j (hl b ▸ hj)) hn⟩

theorem SameBooks.tidy (hb : SameBooks s t) (h : Tidy s) : Tidy t := h.of_same hb.fctxs hb.lists hb.nextId

theorem Tidy.setFctx (h : Tidy s) (hg : Scannable g.finds g.find) : Tidy (s.setFctx i g) := by
  refine ⟨fun j f hf => ?_, h.lists⟩
  simp only [Sys.setFctx, Function.update_apply] at hf
  split at hf
  · cases hf; exact hg
  · exact h.finds j f hf

theorem Tidy.note (h : Tidy s) (x : Trace) : Tidy (s.note x) := h.of_same rfl (fun _ => rfl) le_rfl

end

/-! ## The helpers of one fctx -/

section
variable {adb : Prop} {s : Sys} {i : Nat}

theorem fctxStoptimer_tidy (h : Tidy s) : Holds (Abort.Elsewhere adb) Tidy (fctxStoptimer s i) :=
  holds_withFctx elsewhere_dangling fun f hf => sameBooks_purge.tidy (h.setFctx (h.finds i f hf))

theorem fctxCancelquery_tidy {q : Nat} (h : Tidy s) : Holds (Abort.Elsewhere adb) Tidy (fctxCancelquery s i q) := by
  refine holds_withFctx elsewhere_dangling fun f hf => ?_
  split
  · exact sameBooks_purge.tidy (h.setFctx (h.finds i f hf))
  · exact holds_elsewhere (by decide)

theorem cancelEach_tidy : ∀ {s : Sys} (qs : List Query), Tidy s →
    Holds (Abort.Elsewhere adb) Tidy (cancelEach i s qs)
  | _, [], h => h
  | _, _ :: qs, h => (fctxCancelquery_tidy h).bind fun _ _ ht => cancelEach_tidy qs ht

theorem fctxCancelqueries_tidy (h : Tidy s) : Holds (Abort.Elsewhere adb) Tidy (fctxCancelqueries s i) :=
  holds_withFctx elsewhere_dangling fun f _ => cancelEach_tidy f.queries h

theorem fctxCleanupfinds_tidy (h : Tidy s) :
    Holds (Abort.Elsewhere adb) (fun t => Tidy t ∧ ∀ g, t.fctxs i = some g → g.finds = [] ∧ g.find = none)
      (fctxCleanupfinds s i) := by
  refine holds_withFctx elsewhere_dangling fun f _ => ?_
  split
  · exact ⟨h.setFctx scannable_nil, fun g hg => by cases (Function.update_same i _ _).symm.trans hg; exact ⟨rfl, rfl⟩⟩
  · exact holds_elsewhere (by decide)

theorem fctxCleanupforwaddrs_tidy (h : Tidy s) :
    Holds (Abort.Elsewhere adb) (fun t => Tidy t ∧ ∀ g, t.fctxs i = some g →
      ∃ f, s.fctxs i = some f ∧ g.finds = f.finds ∧ g.find = f.find ∧ g.forwaddrs = [])
      (fctxCleanupforwaddrs s i) := by
  refine holds_withFctx elsewhere_dangling fun f hf => ?_
  split
  · exact ⟨h.setFctx (h.finds i f hf), fun g hg => by
      cases (Function.update_same i _ _).symm.trans hg; exact ⟨f, hf, rfl, rfl, rfl⟩⟩
  · exact holds_elsewhere (by decide)

theorem fctxStopeverything_tidy (h : Tidy s) : Holds (Abort.Elsewhere adb) Tidy (fctxStopeverything s i) :=
  (fctxCancelqueries_tidy h).bind fun _ _ ht => (fctxCleanupfinds_tidy ht).bind fun _ _ hu =>
    (fctxCleanupforwaddrs_tidy hu.1).bind fun _ _ hv => fctxStoptimer_tidy hv.1

theorem fctxSendevents_tidy {r : IscResult} (h : Tidy s) : Holds (Abort.Elsewhere adb) Tidy (fctxSendevents s i r) := by
  refine holds_withFctx elsewhere_dangling fun f hf => ?_
  split
  · exact holds_elsewhere (by decide)
  · exact (sameBooks_deliver fun _ => Delivery.noConfusion).tidy (h.setFctx (h.finds i f hf))

theorem setState_tidy {st : Fetchstate} (h : Tidy s) : Holds (Abort.Elsewhere adb) Tidy (setState s i st) :=
  holds_withFctx elsewhere_dangling fun f hf => h.setFctx (h.finds i f hf)

theorem fctxDone_tidy {r : IscResult} (h : Tidy s) : Holds (Abort.Elsewhere adb) Tidy (fctxDone s i r) :=
  (fctxStopeverything_tidy h).bind fun _ _ ht => (setState_tidy ht).bind fun _ _ hu => fctxSendevents_tidy hu

theorem fctxDestroy_tidy (h : Tidy s) : Holds (Abort.Elsewhere adb) (fun r => Tidy r.2) (fctxDestroy s i) := by
  refine holds_withFctx elsewhere_dangling fun f _ => ?_
  dsimp only
  split
  · refine ⟨fun j g hg => ?_, fun b j hj => ?_⟩
    · simp only [Sys.purge, Sys.setBucket, Function.update_apply] at hg
      split at hg
      · cases hg
      · exact h.finds j g hg
    · simp only [Sys.purge, Sys.setBucket, Function.update_apply] at hj
      split at hj
      · rename_i hb; subst hb; exact h.lists _ j (List.mem_of_mem_erase (by simpa using hj))
      · exact h.lists b j hj
  · exact holds_elsewhere (by decide)

theorem emptyBucket_tidy (h : Tidy s) : Holds (Abort.Elsewhere adb) Tidy (emptyBucket s) := by
  unfold emptyBucket
  split
  · exact holds_elsewhere (by decide)
  · dsimp only
    split <;> exact h.of_same rfl (fun _ => rfl) le_rfl

theorem destroyAndEmpty_tidy (h : Tidy s) : Holds (Abort.Elsewhere adb) Tidy (destroyAndEmpty s i) := by
  refine (fctxDestroy_tidy h).bind fun r _ hr => ?_
  obtain ⟨e, t⟩ := r
  exact holds_ite (emptyBucket_tidy hr) hr

theorem fctxShutdown_tidy (h : Tidy s) : Holds (Abort.Elsewhere adb) Tidy (fctxShutdown s i) := by
  refine holds_withFctx elsewhere_dangling fun f hf => ?_
  dsimp only
  split
  · exact h
  · split
    · exact sameBooks_post.tidy (h.setFctx (h.finds i f hf))
    · exact h.setFctx (h.finds i f hf)

end

/-! ## Rounds of addresses -/

section
variable {E : Abort → Prop} {env : Env} {i : Nat} {r : Option IscResult} {f f' : Fctx} {o o' : List Owed}
  {ns : List Name}

theorem addressesFound_scannable (hf : Scannable f.finds f.find) :
    Holds E (fun r => Scannable r.2.finds r.2.find) (addressesFound f) := by
  obtain ⟨_, _, he, hp, -⟩ := addressesFound_ok hf.addresses
  rw [he]
  exact ⟨fun x hx => hf.addresses x (hp.subset hx), fun k hk => hp.length_eq ▸ hf.cursor k hk⟩

theorem findNameservers_scannable (hf : Scannable f.finds f.find) (h : findNameservers env i f o ns = (r, f', o')) :
    Scannable f'.finds f'.find := by
  obtain ⟨ha, hpre⟩ := findNameservers_finds (fun _ _ _ _ => sortAdbfind_cons.1) h hf.addresses
  obtain ⟨_, _, rfl⟩ := findNameservers_fctx h
  exact ⟨ha, fun k hk => Nat.lt_of_lt_of_le (hf.cursor k hk) hpre.length_le⟩

theorem forwarderAddrs_unmarked (cfg : Config) (henv : env.FromAdb) :
    ∀ a ∈ forwarderAddrs cfg env, a.flags.mark = false := fun _ ha => by
  obtain ⟨sa, -, hsa⟩ := List.mem_filterMap.mp ha
  obtain ⟨b, hb, rfl⟩ := Option.map_eq_some'.mp hsa
  exact henv.forwarders sa b hb

theorem findNameservers_fresh (henv : env.FromAdb) (hf : FreshFinds f.finds)
    (h : findNameservers env i f o ns = (r, f', o')) : FreshFinds f'.finds :=
  (findNameservers_finds (fun n a rest hn => ⟨sortAdbfind_cons.1, fun x hx =>
    henv.unmarked n a rest hn x (sortAdbfind_cons.2 x hx)⟩) h hf).1

theorem addressesFound_fresh {g : Fctx} (hf : FreshFinds f.finds) (h : addressesFound f = .ok (.success, g)) :
    FreshFinds g.finds ∧ g.forwaddrs = f.forwaddrs ∧ g.find = f.find ∧ (g.forwaddrs ≠ [] ∨ g.finds ≠ []) := by
  obtain ⟨_, _, he, hp, hs⟩ := addressesFound_ok fun x hx => (hf x hx).1
  rw [he] at h
  cases h
  exact ⟨fun x hx => hf x (hp.subset hx), rfl, rfl, (hs rfl).symm⟩

end

section
variable {adb : Prop} {cfg : Config} {env : Env} {s t : Sys} {i : Nat}

theorem fctxGetaddresses_tidy (h : Tidy s) :
    Holds (Abort.Elsewhere adb) (fun r => Tidy r.2) (fctxGetaddresses cfg env s i) := by
  refine holds_withFctx elsewhere_dangling fun f hf => ?_
  have hs : Scannable f.finds f.find := h.finds i f hf
  let f₁ : Fctx := { f with restarts := f.restarts + 1, forwaddrs := forwarderAddrs cfg env }
  dsimp only
  split
  · exact h.setFctx hs
  split
  · exact holds_elsewhere (by decide)
  split
  · exact (addressesFound_scannable (f := f₁) hs).map fun _ hr => h.setFctx hr
  split
  · exact holds_elsewhere (by decide)
  split
  · exact holds_elsewhere (by decide)
  split
  · exact sameBooks_with.tidy (h.setFctx (findNameservers_scannable (f := f₁) hs ‹_›))
  · exact (addressesFound_scannable (findNameservers_scannable (f := f₁) hs ‹_›)).map fun _ hr =>
      sameBooks_with.tidy (h.setFctx hr)

theorem fctxNextaddressAt_tidy (h : Tidy s) :
    Holds (Abort.Elsewhere adb) (fun r => Tidy r.2) (fctxNextaddressAt s i) := by
  refine holds_withFctx elsewhere_dangling fun f hf => ?_
  have hs := h.finds i f hf
  split
  · rename_i hn
    have := fctxNextaddress_isSome f.forwaddrs hs.cursor
    rw [hn] at this
    cases this
  · exact h.setFctx (fctxNextaddress_scannable hs ‹_›)

theorem fctxNextaddressAt_fresh {g : Fctx} (hg : t.fctxs i = some g)
    (hw : ∀ a ∈ g.forwaddrs, a.flags.mark = false) (hf : FreshFinds g.finds) (hc : g.find = none)
    (hne : g.forwaddrs ≠ [] ∨ g.finds ≠ []) : ∃ a u, fctxNextaddressAt t i = .ok (some a, u) := by
  obtain ⟨a, r, hr⟩ := fctxNextaddress_fresh hw hf hne
  exact ⟨a, _, by simp only [fctxNextaddressAt, Sys.withFctx, hg, hc, hr]; rfl⟩

theorem fctxGetaddresses_fresh (henv : env.FromAdb) (hc : ∀ f, s.fctxs i = some f → f.Cleared)
    (h : fctxGetaddresses cfg env s i = .ok (.success, t)) : ∃ a u, fctxNextaddressAt t i = .ok (some a, u) := by
  obtain ⟨f, hf, h⟩ := withFctx_eq_ok.mp h
  obtain ⟨hfi, hfc, hfw⟩ := hc f hf
  let f₁ : Fctx := { f with restarts := f.restarts + 1, forwaddrs := forwarderAddrs cfg env }
  have h₀ : FreshFinds f₁.finds := by simp [f₁, FreshFinds, hfi]
  -- the round that `addresses_found` opens on the forwarders and the finds of the ADB
  have opened : ∀ {g₀ g : Fctx} {u : Sys}, FreshFinds g₀.finds → g₀.forwaddrs = f₁.forwaddrs →
      g₀.find = f.find → addressesFound g₀ = .ok (.success, g) → u.fctxs i = some g →
      ∃ a w, fctxNextaddressAt u i = .ok (some a, w) := fun h₀ hw hc hg hu => by
    obtain ⟨hgf, hgw, hgc, hne⟩ := addressesFound_fresh h₀ hg
    exact fctxNextaddressAt_fresh hu (fun a ha => forwarderAddrs_unmarked cfg henv a (by rwa [hgw, hw] at ha))
      hgf (hgc.trans (hc.trans hfc)) hne
  dsimp only at h
  split at h
  · cases h
  split at h
  · exact absurd hfw ‹_›
  split at h
  · obtain ⟨⟨r, g⟩, hg, hr⟩ := map_eq_ok.mp h
    cases hr
    exact opened h₀ rfl rfl hg (Function.update_same i _ _)
  split at h
  · exact absurd hfi ‹_›
  split at h
  · cases h
  split at h
  · rename_i hn
    cases h
    obtain ⟨n, hn'⟩ := findNameservers_fails hn
    exact absurd hn' (henv.fails n)
  · rename_i f' o hn
    obtain ⟨⟨r, g⟩, hg, hr⟩ := map_eq_ok.mp h
    cases hr
    have hf' := findNameservers_fresh (f := f₁) henv h₀ hn
    obtain ⟨_, _, rfl⟩ := findNameservers_fctx hn
    exact opened hf' rfl rfl hg (Function.update_same i _ _)

end

/-! ## Queries and `fctx_try` -/

section
variable {adb : Prop} {cfg : Config} {env : Env} {s : Sys} {i : Nat}

theorem fctxQuery_tidy {a : Addrinfo} {o : FetchOptions} (h : Tidy s) :
    Holds (Abort.Elsewhere adb) (fun r => Tidy r.2) (fctxQuery env s i a o) := by
  refine holds_withFctx elsewhere_dangling fun f hf => ?_
  have h₁ := (h.setFctx (i := i)
    (g := { f with interval := retryInterval f.restarts a.srtt, timer := .armed true })
    (h.finds i f hf)).note (.queried i a)
  dsimp only
  split
  · exact (fctxStoptimer_tidy h₁).map fun _ ht => ht
  · exact sameBooks_with.tidy ((sameBooks_nextId.tidy h₁).setFctx (h.finds i f hf))

theorem queryOrDone_tidy {a : Addrinfo} {o : FetchOptions} (h : Tidy s) :
    Holds (Abort.Elsewhere adb) Tidy (queryOrDone env s i a o) :=
  (fctxQuery_tidy h).bind fun ⟨_, _⟩ _ ht => holds_ite ht (fctxDone_tidy ht)

theorem setAddrwait_tidy {b : Bool} (h : Tidy s) : Holds (Abort.Elsewhere adb) Tidy (setAddrwait s i b) :=
  holds_withFctx elsewhere_dangling fun f hf => h.setFctx (h.finds i f hf)

theorem fctxTry_tidy (h : Tidy s) (henv : adb → env.FromAdb) :
    Holds (Abort.Elsewhere adb) Tidy (fctxTry cfg env s i) := by
  refine holds_withFctx elsewhere_dangling fun f _ => ?_
  dsimp only
  split
  · exact holds_elsewhere (e := .tryAddrwait) (by decide)
  refine (fctxNextaddressAt_tidy (h.note (.tried i))).bind fun ⟨a, t⟩ _ ht => ?_
  dsimp only
  split
  · exact queryOrDone_tidy ht
  refine (fctxCancelqueries_tidy ht).bind fun _ _ h₂ => (fctxCleanupfinds_tidy h₂).bind fun _ _ h₃ =>
    (fctxCleanupforwaddrs_tidy h₃.1).bind fun t₄ _ h₄ => ?_
  have hc : ∀ g, t₄.fctxs i = some g → g.Cleared := fun g hg => by
    obtain ⟨f₃, hf₃, hfi, hfc, hfw⟩ := h₄.2 g hg
    obtain ⟨e₁, e₂⟩ := h₃.2 f₃ hf₃
    exact ⟨hfi.trans e₁, hfc.trans e₂, hfw⟩
  refine (fctxGetaddresses_tidy h₄.1).bind fun ⟨r, t₅⟩ he₅ h₅ => ?_
  dsimp only
  split
  · exact setAddrwait_tidy h₅
  split
  · exact fctxDone_tidy h₅
  rename_i hs
  refine (fctxNextaddressAt_tidy h₅).bind fun ⟨a', t₆⟩ he₆ h₆ => ?_
  dsimp only
  split
  · exact queryOrDone_tidy h₆
  · refine (show Holds _ _ (.error .tryAddress) from ⟨by decide, by decide, fun hadb _ => ?_⟩)
    rw [of_not_not hs] at he₅
    obtain ⟨_, _, hu⟩ := fctxGetaddresses_fresh (henv hadb) hc he₅
    rw [hu] at he₆
    cases he₆

end

/-! ## Event handlers -/

theorem Abort.Classifying.elsewhere {adb : Prop} {e : Abort} (he : e.Classifying) : Abort.Elsewhere adb e := by
  rcases he with rfl | rfl | rfl | rfl | rfl <;> exact ⟨by decide, by decide, fun _ => by decide⟩

section
variable {adb : Prop} {cfg : Config} {env : Env} {s : Sys} {i : Nat}

theorem fctxTimeout_tidy {life : Bool} (h : Tidy s) (henv : adb → env.FromAdb) :
    Holds (Abort.Elsewhere adb) Tidy (fctxTimeout cfg env s i life) :=
  holds_ite (fctxDone_tidy h) ((setAddrwait_tidy h).bind fun _ _ ht => fctxTry_tidy ht henv)

theorem fctxFinddone_tidy {more : Bool} (h : Tidy s) (henv : adb → env.FromAdb) :
    Holds (Abort.Elsewhere adb) Tidy (fctxFinddone cfg env s i more) := by
  refine holds_withFctx elsewhere_dangling fun f hf => ?_
  dsimp only
  split
  · exact holds_elsewhere (by decide)
  exact holds_ite
    (holds_ite (fctxTry_tidy (h.setFctx (h.finds i f hf)) henv)
      (holds_ite (fctxDone_tidy (h.setFctx (h.finds i f hf))) (h.setFctx (h.finds i f hf))))
    (holds_ite (destroyAndEmpty_tidy (h.setFctx (h.finds i f hf))) (h.setFctx (h.finds i f hf)))

theorem fctxStart_tidy (h : Tidy s) (henv : adb → env.FromAdb) :
    Holds (Abort.Elsewhere adb) Tidy (fctxStart cfg env s i) := by
  refine holds_withFctx elsewhere_dangling fun f hf => ?_
  split
  · exact holds_elsewhere (by decide)
  split
  · split
    · exact holds_elsewhere (by decide)
    · exact destroyAndEmpty_tidy h
  · exact fctxTry_tidy (h.setFctx (h.finds i f hf)) henv

theorem fctxDoshutdown_tidy (h : Tidy s) : Holds (Abort.Elsewhere adb) Tidy (fctxDoshutdown s i) := by
  refine holds_withFctx elsewhere_dangling fun f hf => ?_
  have fin : ∀ t, Tidy t → Holds (Abort.Elsewhere adb) Tidy
      (if f.references = 0 ∧ f.pending = 0 ∧ f.validating = 0 then destroyAndEmpty t i else pure t) :=
    fun _ ht => holds_ite (destroyAndEmpty_tidy ht) ht
  have h₁ := h.setFctx (i := i) (g := { f with attributes := { f.attributes with shuttingdown := true } })
    (h.finds i f hf)
  dsimp only
  split
  · exact holds_elsewhere (e := .doshutdownState) (by decide)
  simp only [pure_bind]
  split
  · exact (fctxStopeverything_tidy h₁).bind fun _ _ h₂ => (setState_tidy h₂).bind fun _ _ h₃ =>
      (fctxSendevents_tidy h₃).bind fun t _ h₄ => fin t h₄
  · exact fin _ h₁

theorem resquerySenddone_tidy {q : Nat} {result : IscResult} (h : Tidy s) :
    Holds (Abort.Elsewhere adb) Tidy (resquerySenddone s i q result) :=
  holds_ite (fctxCancelquery_tidy h) h

theorem resqueryConnected_tidy {q : Query} {result : IscResult} (h : Tidy s) :
    Holds (Abort.Elsewhere adb) Tidy (resqueryConnected env s i q result) := by
  refine holds_withFctx elsewhere_dangling fun f hf => ?_
  dsimp only
  split
  · exact h
  split
  · exact fctxCancelquery_tidy h
  · exact sameBooks_with.tidy (h.setFctx (h.finds i f hf))

theorem resqueryResponse_tidy {qid : Nat} {parse : IscResult} {m : Message} (h : Tidy s) :
    Holds (Abort.Elsewhere adb) Tidy (resqueryResponse cfg env s i qid parse m) := by
  refine holds_withFctx elsewhere_dangling fun f hf => ?_
  split
  · exact holds_elsewhere (by decide)
  · refine (responseVerdict_safe.weaken fun _ he => he.elsewhere).map fun r hr => ?_
    have hs : Scannable r.2.1.finds r.2.1.find := by rw [hr.finds, hr.find]; exact h.finds i f hf
    exact SameBooks.tidy (sameBooks_setBucket rfl rfl) (sameBooks_with.tidy (h.setFctx hs))

theorem stopIdletimer_tidy (h : Tidy s) : Holds (Abort.Elsewhere adb) Tidy (stopIdletimer s i) :=
  holds_withFctx elsewhere_dangling fun f hf => h.setFctx (h.finds i f hf)

theorem getNameservers_tidy (h : Tidy s) (henv : adb → env.FromAdb) :
    Holds (Abort.Elsewhere adb) Tidy (getNameservers cfg env s i) := by
  refine holds_withFctx elsewhere_dangling fun f hf => ?_
  split
  · exact fctxDone_tidy h
  split
  · exact fctxDone_tidy (h.setFctx (h.finds i f hf))
  rename_i fname ns _ _
  have h₁ := h.setFctx (i := i) (g := { f with domain := fname, nameservers := some ns }) (h.finds i f hf)
  exact (fctxCancelqueries_tidy h₁).bind fun _ _ h₂ => (fctxCleanupfinds_tidy h₂).bind fun _ _ h₃ =>
    (fctxCleanupforwaddrs_tidy h₃.1).bind fun _ _ h₄ => fctxTry_tidy h₄.1 henv

theorem resqueryFinish_tidy {r : Resume} (h : Tidy s) (henv : adb → env.FromAdb) :
    Holds (Abort.Elsewhere adb) Tidy (resqueryFinish cfg env s r) :=
  (fctxCancelquery_tidy h).bind fun _ _ ht =>
    holds_ite (holds_ite (fctxTry_tidy ht henv) (holds_ite (fctxDone_tidy ht) (getNameservers_tidy ht henv)))
      (holds_ite (queryOrDone_tidy ht) (holds_withFctx elsewhere_dangling fun _ _ => holds_ite
        ((fctxCancelqueries_tidy ht).bind fun _ _ hu => stopIdletimer_tidy hu) (fctxDone_tidy ht)))

theorem dispatch_tidy {e : TaskEvent} (h : Tidy s) (henv : adb → env.FromAdb) :
    Holds (Abort.Elsewhere adb) Tidy (dispatch cfg env s e) := by
  cases e with
  | start => exact fctxStart_tidy h henv
  | doshutdown => exact fctxDoshutdown_tidy h
  | timeout => exact fctxTimeout_tidy h henv
  | finddone => exact fctxFinddone_tidy h henv
  | response => exact resqueryResponse_tidy h
  | senddone => exact resquerySenddone_tidy h
  | connected => exact resqueryConnected_tidy h

end

/-! ## Callers -/

section
variable {adb : Prop} {cfg : Config} {s : Sys}

theorem fctxJoin_tidy {j fetch task : Nat} (h : Tidy s) : Holds (Abort.Elsewhere adb) Tidy (fctxJoin s j fetch task) :=
  holds_withFctx elsewhere_dangling fun f hf => sameBooks_with.tidy (h.setFctx (h.finds j f hf))

theorem fctxCreate_scannable {cenv : CreateEnv} {name : Name} {type : RdataType}
    {domain : Option (Name × List Name)} {options : FetchOptions} {b : Nat} {g : Fctx}
    (h : fctxCreate cfg cenv name type domain options b = .ok g) : Scannable g.finds g.find := by
  unfold fctxCreate at h
  split at h
  · cases h
  · obtain ⟨z, -, h⟩ := map_eq_ok.mp h
    cases h
    exact scannable_nil

theorem Tidy.link {b : Nat} {g : Fctx} (h : Tidy s) (hg : Scannable g.finds g.find) :
    Tidy ({ s.setFctx s.nextId g with nextId := s.nextId + 1 }.setBucket b
      { s.buckets b with fctxs := (s.buckets b).fctxs ++ [s.nextId] }) := by
  refine ⟨(h.setFctx (i := s.nextId) hg).finds, fun c j hj => ?_⟩
  simp only [Sys.setBucket, Function.update_apply] at hj
  split at hj
  · rename_i hc
    subst hc
    rcases List.mem_append.mp hj with hj | hj
    · exact Nat.lt_succ_of_lt (h.lists _ j hj)
    · rw [List.mem_singleton.mp hj]; exact Nat.lt_succ_self _
  · exact Nat.lt_succ_of_lt (h.lists c j hj)

theorem createfetch_tidy {cenv : CreateEnv} {name : Name} {type : RdataType}
    {domain : Option (Name × List Name)} {options : FetchOptions} {task : Nat} (h : Tidy s) :
    Holds (Abort.Elsewhere adb) (fun r => Tidy r.2) (createfetch cfg cenv s name type domain options task) := by
  unfold createfetch
  split
  · exact h
  have h₁ : Tidy { s with nextId := s.nextId + 1 } := sameBooks_nextId.tidy h
  dsimp only
  split
  · exact h₁
  split
  · split
    · exact (fctxJoin_tidy h₁).map fun _ ht => ht
    · exact h₁
  split
  · exact h₁
  rename_i g hg
  have h₂ := h₁.link (b := cfg.hash name % cfg.nbuckets) (fctxCreate_scannable hg)
  split
  · exact (fctxJoin_tidy h₂).map fun _ ht => sameBooks_post.tidy ht
  · exact (fctxDestroy_tidy h₂).map fun _ ht => ht

theorem cancelfetch_tidy {fetch : Nat} (h : Tidy s) : Holds (Abort.Elsewhere adb) Tidy (cancelfetch s fetch) := by
  unfold cancelfetch
  split
  · exact holds_elsewhere (by decide)
  refine holds_withFctx elsewhere_dangling fun f hf => ?_
  split
  · exact h
  split
  · exact h
  · exact (sameBooks_deliver fun _ => Delivery.noConfusion).tidy (h.setFctx (h.finds _ f hf))

theorem destroyfetch_tidy {fetch : Nat} (h : Tidy s) : Holds (Abort.Elsewhere adb) Tidy (destroyfetch s fetch) := by
  unfold destroyfetch
  split
  · exact holds_elsewhere (by decide)
  rename_i j _
  refine holds_withFctx elsewhere_dangling fun f hf => ?_
  have h₁ : Tidy { s.setFctx j { f with references := f.references - 1 } with
      fetches := Function.update s.fetches fetch none } := sameBooks_with.tidy (h.setFctx (h.finds j f hf))
  dsimp only
  split
  · exact holds_elsewhere (e := .destroyfetchEvent) (by decide)
  split
  · exact holds_elsewhere (e := .destroyfetchReferences) (by decide)
  exact holds_ite h₁ (holds_ite (destroyAndEmpty_tidy h₁) (fctxShutdown_tidy h₁))

theorem shutdownEach_tidy : ∀ {s : Sys} (js : List Nat), Tidy s →
    Holds (Abort.Elsewhere adb) Tidy (shutdownEach s js)
  | _, [], h => h
  | _, _ :: js, h => (fctxShutdown_tidy h).bind fun _ _ ht => shutdownEach_tidy js ht

theorem shutdownBucket_tidy {b : Nat} (h : Tidy s) : Holds (Abort.Elsewhere adb) Tidy (shutdownBucket s b) := by
  refine (shutdownEach_tidy _ h).bind fun t _ ht => ?_
  have h₁ : Tidy (t.setBucket b { t.buckets b with exiting := true }) :=
    ht.of_same rfl (fun c => by by_cases hc : c = b <;> simp [Sys.setBucket, hc]) le_rfl
  dsimp only
  split
  · exact h₁
  split
  · exact holds_elsewhere (e := .shutdownActive) (by decide)
  · exact h₁.of_same rfl (fun _ => rfl) le_rfl

theorem shutdownBuckets_tidy : ∀ {s : Sys} (bs : List Nat), Tidy s →
    Holds (Abort.Elsewhere adb) Tidy (shutdownBuckets s bs)
  | _, [], h => h
  | _, _ :: bs, h => (shutdownBucket_tidy h).bind fun _ _ ht => shutdownBuckets_tidy bs ht

theorem shutdown_tidy (h : Tidy s) : Holds (Abort.Elsewhere adb) Tidy (shutdown cfg s) := by
  unfold shutdown
  split
  · exact h
  refine (shutdownBuckets_tidy (s := { s with exiting := true }) _ (h.of_same rfl (fun _ => rfl) le_rfl)).bind
    fun t _ ht => ?_
  show Tidy (if t.activebuckets = 0 then sendShutdownEvents t else t)
  split <;> exact ht.of_same rfl (fun _ => rfl) le_rfl

theorem whenshutdown_tidy {l : Nat} (h : Tidy s) : Tidy (whenshutdown s l) := by
  unfold whenshutdown
  split <;> exact h.of_same rfl (fun _ => rfl) le_rfl

end

/-! ## Steps -/

def Action.FromAdb : Action → Prop
  | .run _ env => env.FromAdb
  | _ => True

section
variable {adb : Prop} {cfg : Config} {s : Sys}

/-- Every step keeps the lists tidy, and fails none of the `INSIST`s on them. -/
theorem step_tidy {a : Action} (h : Tidy s) (henv : adb → a.FromAdb) :
    Holds (Abort.Elsewhere adb) Tidy (step cfg s a) := by
  cases a with
  | createfetch => exact (createfetch_tidy h).map fun _ ht => ht
  | cancelfetch => exact cancelfetch_tidy h
  | destroyfetch => exact destroyfetch_tidy h
  | shutdown => exact shutdown_tidy h
  | whenshutdown => exact whenshutdown_tidy h
  | fire => exact holds_withFctx elsewhere_dangling fun f hf => sameBooks_post.tidy (h.setFctx (h.finds _ f hf))
  | complete k =>
    show Holds _ _ (match s.owed[k]? with | none => _ | some _ => _)
    split
    · exact h
    · exact (sameBooks_with.trans sameBooks_post).tidy h
  | respond => exact holds_withFctx elsewhere_dangling fun _ _ => sameBooks_post.tidy h
  | run b =>
    show Holds _ _ (match (s.buckets b).busy, (s.buckets b).queue with
      | some _, _ => _ | none, _ :: _ => _ | none, [] => _)
    split
    · exact resqueryFinish_tidy (SameBooks.tidy (sameBooks_setBucket rfl rfl) h) henv
    · exact dispatch_tidy (SameBooks.tidy (sameBooks_setBucket rfl rfl) h) henv
    · exact h

theorem tidy_init (cfg : Config) : Tidy (Sys.init cfg) :=
  ⟨fun _ _ h => (by cases h), fun _ _ h => (by simp [Sys.init] at h)⟩

theorem Reachable.tidy (h : Reachable cfg s) : Tidy s := by
  induction h with
  | init => exact tidy_init cfg
  | step a _ _ hs ih =>
    have : Holds (Abort.Elsewhere False) Tidy (DnsResolver.step cfg _ a) := step_tidy ih False.elim
    rw [hs] at this
    exact this

theorem Holds.elsewhere {x : Except Abort Sys} {P : Sys → Prop} (hx : Holds (Abort.Elsewhere adb) P x) :
    x ≠ .error .sortFinds ∧ x ≠ .error .nextaddressLoop ∧ (adb → x ≠ .error .tryAddress) :=
  ⟨by rintro rfl; exact hx.1 rfl, by rintro rfl; exact hx.2.1 rfl, fun ha => by rintro rfl; exact hx.2.2 ha rfl⟩

end

/-! ## A failed `dns_resolver_createfetch` -/

section
variable {cfg : Config} {s t : Sys}

theorem fctxDestroy_frees {i : Nat} {e : Bool} (h : fctxDestroy s i = .ok (e, t)) :
    ∃ f, s.fctxs i = some f ∧ t.fctxs = Function.update s.fctxs i none ∧ t.fetches = s.fetches ∧
      ∀ c, (t.buckets c).fctxs =
        if c = f.bucketnum then (s.buckets c).fctxs.erase i else (s.buckets c).fctxs := by
  obtain ⟨f, hf, h⟩ := withFctx_eq_ok.mp h
  dsimp only at h
  split at h
  · obtain ⟨-, rfl⟩ := Prod.mk.inj (Except.ok.inj h)
    refine ⟨f, hf, rfl, rfl, fun c => ?_⟩
    by_cases hc : c = f.bucketnum <;> simp [Sys.purge, Sys.setBucket, hc]
  · cases h

theorem createfetch_undone {cenv : CreateEnv} {name : Name} {type : RdataType}
    {domain : Option (Name × List Name)} {options : FetchOptions} {task : Nat} {r : IscResult}
    (hfresh : ∀ j, s.nextId ≤ j → s.fctxs j = none) (hl : ∀ b j, j ∈ (s.buckets b).fctxs → j < s.nextId)
    (h : createfetch cfg cenv s name type domain options task = .ok (r, t)) (hr : r ≠ .success) :
    t.fctxs = s.fctxs ∧ (∀ b, (t.buckets b).fctxs = (s.buckets b).fctxs) ∧ t.fetches = s.fetches := by
  unfold createfetch at h
  split at h
  · cases h; exact ⟨rfl, fun _ => rfl, rfl⟩
  dsimp only at h
  split at h
  · cases h; exact ⟨rfl, fun _ => rfl, rfl⟩
  split at h
  · split at h
    · obtain ⟨_, -, hu⟩ := map_eq_ok.mp h
      exact absurd (congrArg Prod.fst hu).symm hr
    · cases h; exact ⟨rfl, fun _ => rfl, rfl⟩
  split at h
  · cases h; exact ⟨rfl, fun _ => rfl, rfl⟩
  rename_i g hg
  split at h
  · obtain ⟨_, -, hu⟩ := map_eq_ok.mp h
    exact absurd (congrArg Prod.fst hu).symm hr
  obtain ⟨⟨e, u⟩, hd, hu⟩ := map_eq_ok.mp h
  cases hu
  obtain ⟨f, hf, hfs, hfe, hb⟩ := fctxDestroy_frees hd
  simp only [Sys.setBucket, Sys.setFctx, Function.update_same, Option.some.injEq] at hf
  subst hf
  refine ⟨?_, fun c => ?_, hfe⟩
  · rw [hfs]
    simp [Sys.setBucket, Sys.setFctx, hfresh _ (Nat.le_succ _)]
  · rw [hb c, (fctxCreate_closed hg).1]
    by_cases hc : c = cfg.hash name % cfg.nbuckets
    · subst hc
      have hj : s.nextId + 1 ∉ (s.buckets (cfg.hash name % cfg.nbuckets)).fctxs :=
        fun hj => by have := hl _ _ hj; omega
      simp [Sys.setBucket, List.erase_append_right _ hj]
    · simp [Sys.setBucket, hc]

end

/-- A `dns_resolver_createfetch` that does not succeed leaves the fctxs and fetches alone. -/
theorem failed_createfetch_changes_nothing (cfg : Config) :
    ∀ s cenv name type domain options task r t, Reachable cfg s →
      createfetch cfg cenv s name type domain options task = .ok (r, t) → r ≠ .success →
      t.fctxs = s.fctxs ∧ (∀ b, (t.buckets b).fctxs = (s.buckets b).fctxs) ∧ t.fetches = s.fetches :=
  fun _ _ _ _ _ _ _ _ _ hs h hr => createfetch_undone hs.sound.fresh hs.tidy.lists h hr

theorem unjoined_fctx_is_freed :
    ∃ t, createfetch oneBucket { comCut with joinAlloc := false } (Sys.init oneBucket) aExampleCom .a none
        {} 7 = .ok (.nomemory, t) ∧ t.fctxs = (Sys.init oneBucket).fctxs ∧
      (∀ b, (t.buckets b).fctxs = ((Sys.init oneBucket).buckets b).fctxs) ∧
      t.fetches = (Sys.init oneBucket).fetches :=
  ⟨_, rfl, failed_createfetch_changes_nothing oneBucket _ { comCut with joinAlloc := false } aExampleCom .a none {} 7
    .nomemory _ .init rfl (by decide)⟩

/-! ## The finds over whole runs -/

/-- The finds keep addresses and the cursor stays in range, so the search loop stops. -/
theorem finds_keep_addresses_and_cursor (cfg : Config) :
    (∀ s, Reachable cfg s → ∀ i f, s.fctxs i = some f →
      (∀ x ∈ f.finds, x.list ≠ []) ∧ ∀ k, f.find = some k → k < f.finds.length) ∧
    (∀ fw finds (c : FindPtr), (∀ k, c = some k → k < finds.length) →
      (fctxNextaddress fw finds c).isSome) ∧
    (∀ s a, Reachable cfg s → step cfg s a ≠ .error .sortFinds ∧ step cfg s a ≠ .error .nextaddressLoop) ∧
    (∀ env s i t, env.FromAdb → (∀ f, s.fctxs i = some f → f.Cleared) →
      fctxGetaddresses cfg env s i = .ok (.success, t) → ∃ a u, fctxNextaddressAt t i = .ok (some a, u)) ∧
    (∀ s a, Reachable cfg s → a.FromAdb → step cfg s a ≠ .error .tryAddress) := by
  refine ⟨fun s hs i f hf => ?_, fun fw _ _ h => fctxNextaddress_isSome fw h, fun s a hs => ?_,
    fun _ _ _ _ henv hc h => fctxGetaddresses_fresh henv hc h, fun s a hs ha => ?_⟩
  · have h := hs.tidy.finds i f hf
    exact ⟨h.addresses, h.cursor⟩
  · have h : Holds (Abort.Elsewhere False) Tidy (step cfg s a) := step_tidy hs.tidy False.elim
    exact ⟨h.elsewhere.1, h.elsewhere.2.1⟩
  · have h : Holds (Abort.Elsewhere True) Tidy (step cfg s a) := step_tidy hs.tidy fun _ => ha
    exact h.elsewhere.2.2 trivial

theorem answering_fromAdb : answering.FromAdb :=
  ⟨fun _ _ _ h x hx => (by cases h; simp only [List.mem_singleton] at hx; subst hx; rfl),
    fun _ _ h => (by cases h), fun _ h => (by cases h)⟩

theorem first_round_has_an_address :
    ∃ s t, step oneBucket (Sys.init oneBucket) (fetchA 7) = .ok s ∧
      fctxGetaddresses oneBucket answering s 1 = .ok (.success, t) ∧
      (∃ a u, fctxNextaddressAt t 1 = .ok (some a, u)) ∧
      step oneBucket s (.run 0 answering) ≠ .error .tryAddress ∧
      step oneBucket s (.run 0 answering) ≠ .error .sortFinds ∧
      (fctxNextaddress [] [⟨[⟨1, 0, {}⟩]⟩] (some 0)).isSome := by
  obtain ⟨s, t, hstep, hget, hc⟩ : ∃ s t, step oneBucket (Sys.init oneBucket) (fetchA 7) = .ok s ∧
      fctxGetaddresses oneBucket answering s 1 = .ok (.success, t) ∧ ∀ f, s.fctxs 1 = some f → f.Cleared :=
    ⟨_, _, rfl, rfl, fun f hf => (by injection hf with hf; subst hf; exact ⟨rfl, rfl, rfl⟩)⟩
  have hs : Reachable oneBucket s := .step (fetchA 7) .init rfl hstep
  have hw := finds_keep_addresses_and_cursor oneBucket
  exact ⟨s, t, hstep, hget, hw.2.2.2.1 answering s 1 t answering_fromAdb hc hget,
    hw.2.2.2.2 s _ hs answering_fromAdb, (hw.2.2.1 s _ hs).1,
    hw.2.1 _ _ _ fun k hk => (by cases hk; decide)⟩

end DnsResolver
