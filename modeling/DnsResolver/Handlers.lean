import DnsResolver.Touch

/-! # The handlers keep each fctx `Good`

One spec lemma per handler: work on the fctx its event names. -/

namespace DnsResolver

/-- What `fctx_try` needs of the fctx at `i`. -/
structure Ready (s : Sys) (i : Nat) : Prop where
  good : Good s i
  running : Running s i
  notBusy : NotBusy s i

section
variable {cfg : Config} {env : Env} {i : Nat} {s s' t : Sys}

theorem Ready.keeps (r : Ready s i) (k : Keeps i s t) : Ready t i :=
  ⟨k.good r.good, r.running.keeps k, r.notBusy.frame k.toFrame⟩

theorem Keeps.then (k : Keeps i s t) (h : Touch i t s' ∧ Good s' i) : Touch i s s' ∧ Good s' i :=
  ⟨k.toTouch.trans h.1, h.2⟩

theorem Keeps.moves (k : Keeps i s s') (g : Good s i) : Touch i s s' ∧ Good s' i :=
  ⟨k.toTouch, k.good g⟩

/-! ## Addresses -/

theorem findNameservers_spec {r : Option IscResult} {f' : Fctx} {o' : List Owed} :
    ∀ {f : Fctx} {o : List Owed} {ns : List Name}, findNameservers env i f o ns = (r, f', o') →
      f'.progress = f.progress ∧ Retains f f' ∧
        ∃ os, o' = o ++ os ∧ ∀ x ∈ os, x.fctx = i ∧ x.bucket = f.bucketnum
  | f, o, [], h => by cases h; exact ⟨rfl, .refl _, [], by simp, by simp⟩
  | f, o, n :: ns, h => by
    simp only [findNameservers] at h
    split at h
    · cases h; exact ⟨rfl, .refl _, [], by simp, by simp⟩
    · have := findNameservers_spec h; exact this
    · obtain ⟨hp, hr, os, ho, hos⟩ := findNameservers_spec h
      refine ⟨hp, (show Retains f { f with pending := f.pending + 1 } from
        ⟨rfl, le_rfl, Nat.le_succ _, rfl⟩).trans hr, .find f.bucketnum i :: os,
        by simp [ho], ?_⟩
      simp only [List.mem_cons, forall_eq_or_imp]
      exact ⟨⟨rfl, rfl⟩, hos⟩
    · have := findNameservers_spec h; exact this

theorem addressesFound_spec {f f' : Fctx} {r : IscResult} (h : addressesFound f = .ok (r, f')) :
    f'.progress = f.progress ∧ Retains f f' := by
  unfold addressesFound at h
  split at h
  · cases h; exact ⟨rfl, .refl f⟩
  · split at h
    · cases h; exact ⟨rfl, .refl f⟩
    · cases h

theorem fctxGetaddresses_keeps {r : IscResult} (h : fctxGetaddresses cfg env s i = .ok (r, s')) :
    Keeps i s s' := by
  obtain ⟨f, hf, h⟩ := withFctx_eq_ok.mp h
  dsimp only at h
  have k₀ : ∀ f', f'.progress = f.progress → Retains f f' → Keeps i s (s.setFctx i f') :=
    fun f' hp hc => .setFctx_progress hf hp hc
  have owe : ∀ f' os, f'.progress = f.progress → Retains f f' →
      (∀ x ∈ os, x.fctx = i ∧ x.bucket = f.bucketnum) →
      Keeps i s { s.setFctx i f' with owed := s.owed ++ os } := fun f' os hp hc hos =>
    (k₀ f' hp hc).trans (.owe (by simp) fun f₀ h₀ x hx => by
      simp at h₀; subst h₀; exact ⟨(hos x hx).1, (hos x hx).2.trans (congrArg (·.2.1) hp).symm⟩)
  split at h
  · cases h; exact k₀ _ rfl (.refl f)
  split at h
  · cases h
  split at h
  · obtain ⟨⟨r', f'⟩, h₁, h⟩ := map_eq_ok.mp h
    cases h
    exact k₀ _ (addressesFound_spec h₁).1 (addressesFound_spec h₁).2
  split at h
  · cases h
  split at h
  · cases h
  split at h
  · rename_i hfind
    cases h
    obtain ⟨hp, hc, os, ho, hos⟩ := findNameservers_spec hfind
    rw [ho, List.nil_append]
    exact owe _ os hp hc hos
  · rename_i hfind
    obtain ⟨⟨r', f''⟩, h₁, h⟩ := map_eq_ok.mp h
    cases h
    obtain ⟨hp, hc, os, ho, hos⟩ := findNameservers_spec hfind
    obtain ⟨hp', hc'⟩ := addressesFound_spec h₁
    rw [ho, List.nil_append]
    exact owe _ os (hp'.trans hp) (hc.trans hc') hos

theorem fctxNextaddressAt_keeps {a : Option Addrinfo} (h : fctxNextaddressAt s i = .ok (a, s')) :
    Keeps i s s' := by
  obtain ⟨f, hf, h⟩ := withFctx_eq_ok.mp h
  split at h
  · cases h
  · cases h; exact .setFctx_progress hf rfl (.refl f)

/-! ## Queries -/

theorem fctxQuery_keeps {a : Addrinfo} {options : FetchOptions} {r : IscResult}
    (h : fctxQuery env s i a options = .ok (r, s')) (hr : Running s i) : Keeps i s s' := by
  obtain ⟨f, hf, h⟩ := withFctx_eq_ok.mp h
  obtain ⟨f₀, h₀, ha⟩ := hr
  rw [hf] at h₀; cases h₀
  set f₁ := { f with interval := retryInterval f.restarts a.srtt, timer := .armed true }
  have k₁ : Keeps i s ((s.setFctx i f₁).note (.queried i a)) := by
    refine Keeps.trans ?_ (.note ⟨f₁, by simp, by simp [f₁, ha]⟩ rfl)
    exact .setFctx_state hf rfl rfl (fun _ => id) (fun _ h => absurd ha h) (fun _ => id) (.refl f)
  dsimp only at h
  split at h
  · obtain ⟨s₂, h₂, h⟩ := map_eq_ok.mp h
    cases h
    exact k₁.trans (fctxStoptimer_spec h₂).1
  · set s₂ := (s.setFctx i f₁).note (.queried i a)
    have k₂ : Keeps i s { s₂ with nextId := s₂.nextId + 1 } :=
      k₁.trans (.of_same rfl (fun _ => rfl) (fun _ => rfl) rfl (Nat.le_succ _) rfl)
    have k₃ : ∀ q : Query, Keeps i s
        ({ s₂ with nextId := s₂.nextId + 1 }.setFctx i { f₁ with queries := f.queries ++ [q] }) :=
      fun q => k₂.trans (.setFctx_state (f := f₁) (by simp [s₂]) rfl rfl (fun _ hq => by simp [hq])
        (fun _ h => absurd ha h) (fun _ => id) (.refl f₁))
    have ko : ∀ (q : Query) (o : Owed), o.fctx = i → o.bucket = f.bucketnum → Keeps i s
        { ({ s₂ with nextId := s₂.nextId + 1 }.setFctx i { f₁ with queries := f.queries ++ [q] }) with
          owed := s₂.owed ++ [o] } :=
      fun q o ho hb => (k₃ q).trans (.owe (by simp) fun f₀ h₀ x hx => by
        simp at h₀ hx; subst h₀ hx; exact ⟨ho, hb⟩)
    by_cases ht : options.tcp = true
    · simp only [ht, if_true] at h
      obtain ⟨-, rfl⟩ := Prod.mk.inj (Except.ok.inj h)
      exact ko _ _ rfl rfl
    · simp only [ht, Bool.false_eq_true, if_false] at h
      obtain ⟨-, rfl⟩ := Prod.mk.inj (Except.ok.inj h)
      exact ko _ _ rfl rfl

theorem queryOrDone_spec {a : Addrinfo} {options : FetchOptions}
    (h : queryOrDone env s i a options = .ok s') (hr : Ready s i) : Touch i s s' ∧ Good s' i := by
  obtain ⟨⟨r, s₁⟩, h₁, h⟩ := bind_eq_ok.mp h
  have k₁ := fctxQuery_keeps h₁ hr.running
  dsimp only at h
  split at h
  · cases h; exact k₁.moves hr.good
  · obtain ⟨t, g, -⟩ := fctxDone_spec h (k₁.good hr.good) (hr.notBusy.frame k₁.toFrame)
    exact k₁.then ⟨t, g⟩

theorem setAddrwait_keeps {b : Bool} (h : setAddrwait s i b = .ok s') (hr : b = true → Running s i) :
    Keeps i s s' := by
  obtain ⟨f, hf, h⟩ := withFctx_eq_ok.mp h
  cases h
  refine .setFctx_state hf rfl rfl (fun _ => id) id (fun hi _ => ?_) (.refl f)
  cases b
  · rfl
  · obtain ⟨f₀, h₀, hs⟩ := hr rfl
    rw [hf] at h₀; cases h₀
    simp [hs] at hi

theorem fctxTry_spec (h : fctxTry cfg env s i = .ok s') (hr : Ready s i) : Touch i s s' ∧ Good s' i := by
  obtain ⟨f, hf, h⟩ := withFctx_eq_ok.mp h
  dsimp only at h
  split at h
  · cases h
  obtain ⟨_, -, h⟩ := bind_eq_ok.mp h
  obtain ⟨⟨a, s₁⟩, h₁, h⟩ := bind_eq_ok.mp h
  have k₁ : Keeps i s s₁ := (Keeps.note (x := .tried i) hr.running.live rfl).trans (fctxNextaddressAt_keeps h₁)
  dsimp only at h
  split at h
  · exact k₁.then (queryOrDone_spec h (hr.keeps k₁))
  obtain ⟨s₂, h₂, h⟩ := bind_eq_ok.mp h
  obtain ⟨s₃, h₃, h⟩ := bind_eq_ok.mp h
  obtain ⟨s₄, h₄, h⟩ := bind_eq_ok.mp h
  obtain ⟨⟨r, s₅⟩, h₅, h⟩ := bind_eq_ok.mp h
  have k₅ := k₁.trans ((fctxCancelqueries_keeps h₂).trans ((fctxCleanupfinds_keeps h₃).1.trans
    ((fctxCleanupforwaddrs_keeps h₄).1.trans (fctxGetaddresses_keeps h₅))))
  have r₅ := hr.keeps k₅
  dsimp only at h
  split at h
  · exact (k₅.trans (setAddrwait_keeps h fun _ => r₅.running)).moves hr.good
  split at h
  · obtain ⟨t, g, -⟩ := fctxDone_spec h r₅.good r₅.notBusy
    exact k₅.then ⟨t, g⟩
  obtain ⟨⟨a', s₆⟩, h₆, h⟩ := bind_eq_ok.mp h
  have k₆ := k₅.trans (fctxNextaddressAt_keeps h₆)
  dsimp only at h
  split at h
  · exact k₆.then (queryOrDone_spec h (hr.keeps k₆))
  · cases h

theorem fctxTimeout_spec {life : Bool} (h : fctxTimeout cfg env s i life = .ok s') (hr : Ready s i) :
    Touch i s s' ∧ Good s' i := by
  unfold fctxTimeout at h
  split at h
  · obtain ⟨t, g, -⟩ := fctxDone_spec h hr.good hr.notBusy
    exact ⟨t, g⟩
  · obtain ⟨s₁, h₁, h⟩ := bind_eq_ok.mp h
    have k₁ := setAddrwait_keeps h₁ (by simp)
    exact k₁.then (fctxTry_spec h (hr.keeps k₁))

theorem resquerySenddone_keeps {q : Nat} {result : IscResult}
    (h : resquerySenddone s i q result = .ok s') : Keeps i s s' := by
  unfold resquerySenddone at h
  split at h
  · exact fctxCancelquery_keeps h
  · cases h; exact .refl i s

theorem resqueryConnected_keeps {q : Query} {result : IscResult}
    (h : resqueryConnected env s i q result = .ok s') : Keeps i s s' := by
  obtain ⟨f, hf, h⟩ := withFctx_eq_ok.mp h
  dsimp only at h
  split at h
  · cases h; exact .refl i s
  split at h
  · exact fctxCancelquery_keeps h
  · cases h
    refine Keeps.trans ?_ (.owe (by simp) fun f₀ h₀ x hx => by
      simp at h₀ hx; subst h₀ hx; simp [Owed.fctx, Owed.bucket])
    refine .setFctx_state hf rfl rfl (fun q' hq => ?_) (fun hi hs => ?_) (fun _ => id) (.refl f)
    · rw [List.any_map]
      refine (congrArg (List.any f.queries) (funext fun x => ?_)).trans hq
      simp only [Function.comp]
      split <;> rfl
    · simp [(hi hs).1, (hi hs).2]

end

/-! ## Classification and caching -/

def Fctx.core (f : Fctx) : (Fetchstate × Nat × List Query × Timer × Bool) × Bool × Nat × Nat × Nat :=
  (f.progress, f.attributes.shuttingdown, f.references, f.pending, f.validating)

section
variable {f f' : Fctx} {m m' : Message} {r : IscResult} {v : View} {w w' : List CacheWrite}

theorem Fctx.core_progress (h : f'.core = f.core) : f'.progress = f.progress := congrArg (·.1) h

theorem Fctx.core_retains (h : f'.core = f.core) : Retains f f' := by
  simp only [Fctx.core, Prod.mk.injEq] at h
  exact ⟨h.2.1, h.2.2.1.ge, h.2.2.2.1.ge, h.2.2.2.2⟩

theorem noanswerFinish_core (oqname : Option Name) (st : NoanswerScan) :
    (noanswerFinish f m oqname st).2.1.core = f.core := by
  unfold noanswerFinish
  split
  · rfl
  split
  · rfl
  split
  · split <;> rfl
  all_goals split <;> rfl

theorem noanswerResponse_core {oqname : Option Name} (h : noanswerResponse f m oqname = .ok (r, f', m')) :
    f'.core = f.core := by
  unfold noanswerResponse at h
  split at h
  · cases h; rfl
  split at h
  · obtain rfl : f' = _ := congrArg (·.2.1) (Except.ok.inj h).symm
    exact noanswerFinish_core _ _
  · dsimp only at h
    split at h
    · obtain ⟨_, -, h⟩ := Stop.exit_eq_ok h
      cases h; rfl
    · obtain rfl : f' = _ := congrArg (·.2.1) (Except.ok.inj h).symm
      unfold noanswerNext
      split
      · exact noanswerFinish_core _ _
      · rfl

theorem answerResponse_core (h : answerResponse f m = .ok (r, f', m')) : f'.core = f.core := by
  unfold answerResponse at h
  split at h
  · obtain ⟨_, -, h⟩ := Stop.exit_eq_ok h
    cases h; rfl
  dsimp only at h
  split at h
  · cases h; rfl
  split at h
  · cases h; rfl
  split at h
  · have := noanswerResponse_core h; exact this
  split at h <;> (cases h; rfl)

theorem cacheName_core {n : MsgName} (h : cacheName v f n = .ok (r, f', w)) : f'.core = f.core := by
  unfold cacheName at h
  obtain ⟨st, -, h⟩ := map_eq_ok.mp h
  dsimp only at h
  split at h <;> (cases h; rfl)

theorem cacheNames_core :
    ∀ {f f' : Fctx} {w w' : List CacheWrite} {sec : List MsgName} {r : IscResult},
      cacheNames v f w sec = .ok (r, f', w') → f'.core = f.core
  | _, _, _, _, [], _, h => by cases h; rfl
  | f, f', w, w', n :: rest, r, h => by
    simp only [cacheNames] at h
    split at h
    · exact cacheNames_core h
    split at h
    · cases h
    · rename_i hname
      split at h
      · exact (cacheNames_core h).trans (cacheName_core hname)
      · cases h; exact cacheName_core hname

theorem cacheSections_core :
    ∀ {f f' : Fctx} {w w' : List CacheWrite} {secs : List (List MsgName)} {r : IscResult},
      cacheSections v f w secs = .ok (r, f', w') → f'.core = f.core
  | _, _, _, _, [], _, h => by cases h; rfl
  | f, f', w, w', sec :: secs, r, h => by
    simp only [cacheSections] at h
    split at h
    · cases h
    · rename_i hnames
      split at h
      · exact (cacheSections_core h).trans (cacheNames_core hnames)
      · cases h; exact cacheNames_core hnames

theorem cacheMessage_core (h : cacheMessage v f m = .ok (r, f', w)) : f'.core = f.core := by
  have := cacheSections_core h; exact this

theorem ncacheMessage_core (covers : RdataType) : (ncacheMessage v f covers).2.1.core = f.core := by
  unfold ncacheMessage
  dsimp only
  split <;> (try split) <;> rfl

theorem ncacheVerdict_core {base : Verdict} : (ncacheVerdict v base f m w).2.1.core = f.core := by
  unfold ncacheVerdict
  split
  · exact ncacheMessage_core _
  · rfl

theorem cacheVerdict_core {q : Query} {getNs : Bool} {vd : Verdict}
    (h : cacheVerdict v q getNs f m = .ok (vd, f', w)) : f'.core = f.core := by
  unfold cacheVerdict at h
  dsimp only at h
  split at h
  · split at h
    · cases h
    · rename_i r₁ f₁ w₁ h₁
      have hc : f₁.core = f.core := cacheMessage_core h₁
      split at h
      · cases h; exact hc
      · obtain rfl : f' = _ := congrArg (·.2.1) (Except.ok.inj h).symm
        exact ncacheVerdict_core.trans hc
  · obtain rfl : f' = _ := congrArg (·.2.1) (Except.ok.inj h).symm
    exact ncacheVerdict_core

theorem classifyVerdict_core {cfg : Config} {q : Query} {vd : Verdict}
    (h : classifyVerdict cfg v f q m = .ok (vd, f', w)) : f'.core = f.core := by
  rcases classifyVerdict_cases h with ⟨rfl, -⟩ | ⟨_, _, _, _, h₁, ⟨rfl, -⟩ | hc⟩
  · rfl
  · exact h₁.elim answerResponse_core noanswerResponse_core
  · exact (cacheVerdict_core hc).trans (h₁.elim answerResponse_core noanswerResponse_core)

theorem responseVerdict_core {cfg : Config} {q : Query} {parse : IscResult} {vd : Verdict}
    (h : responseVerdict cfg v f q parse m = .ok (vd, f', w)) : f'.core = f.core := by
  unfold responseVerdict at h
  split at h
  · cases h; rfl
  split at h
  · cases h
  split at h
  · cases h; rfl
  · exact classifyVerdict_core h

end

/-! ## The second half of `resquery_response` -/

section
variable {cfg : Config} {env : Env} {i : Nat} {s s' : Sys}

theorem stopIdletimer_keeps (h : stopIdletimer s i = .ok s') (hr : Running s i) : Keeps i s s' := by
  obtain ⟨f, hf, h⟩ := withFctx_eq_ok.mp h
  obtain ⟨f₀, h₀, ha⟩ := hr
  rw [hf] at h₀; cases h₀
  cases h
  exact .setFctx_state hf rfl rfl (fun _ => id) (fun _ h => absurd ha h) (fun _ => id) (.refl f)

theorem getNameservers_spec (h : getNameservers cfg env s i = .ok s') (hr : Ready s i) :
    Touch i s s' ∧ Good s' i := by
  obtain ⟨f, hf, h⟩ := withFctx_eq_ok.mp h
  split at h
  · obtain ⟨t, g, -⟩ := fctxDone_spec h hr.good hr.notBusy
    exact ⟨t, g⟩
  rename_i fname ns _
  split at h
  · have k : Keeps i s (s.setFctx i { f with nameservers := some ns }) :=
      .setFctx_progress hf rfl (.refl f)
    obtain ⟨t, g, -⟩ := fctxDone_spec h (k.good hr.good) (hr.notBusy.frame k.toFrame)
    exact k.then ⟨t, g⟩
  · dsimp only at h
    obtain ⟨s₂, h₂, h⟩ := bind_eq_ok.mp h
    obtain ⟨s₃, h₃, h⟩ := bind_eq_ok.mp h
    obtain ⟨s₄, h₄, h⟩ := bind_eq_ok.mp h
    have k₁ : Keeps i s (s.setFctx i { f with domain := fname, nameservers := some ns }) :=
      .setFctx_progress hf rfl (.refl f)
    have k := k₁.trans ((fctxCancelqueries_keeps h₂).trans ((fctxCleanupfinds_keeps h₃).1.trans
      (fctxCleanupforwaddrs_keeps h₄).1))
    exact k.then (fctxTry_spec h (hr.keeps k))

theorem resqueryFinish_spec {r : Resume} (h : resqueryFinish cfg env s r = .ok s')
    (hr : Ready s r.fctx) : Touch r.fctx s s' ∧ Good s' r.fctx := by
  obtain ⟨s₁, h₁, h⟩ := bind_eq_ok.mp h
  have k₁ := fctxCancelquery_keeps h₁
  have r₁ := hr.keeps k₁
  have done : ∀ {res : IscResult}, fctxDone s₁ r.fctx res = .ok s' →
      Touch r.fctx s s' ∧ Good s' r.fctx := fun h =>
    let ⟨t, g, _⟩ := fctxDone_spec h r₁.good r₁.notBusy; k₁.then ⟨t, g⟩
  dsimp only at h
  split at h
  · split at h
    · exact k₁.then (fctxTry_spec h r₁)
    -- the code it tests is SUCCESS for a broken server or FORMERR, else the result
    split at h <;> split at h
    all_goals first | exact done h | exact k₁.then (getNameservers_spec h r₁)
  split at h
  · exact k₁.then (queryOrDone_spec h r₁)
  obtain ⟨f, -, h⟩ := withFctx_eq_ok.mp h
  split at h
  · obtain ⟨s₂, h₂, h⟩ := bind_eq_ok.mp h
    have k₂ := k₁.trans (fctxCancelqueries_keeps h₂)
    exact (k₂.trans (stopIdletimer_keeps h (hr.keeps k₂).running)).moves hr.good
  · exact done h

theorem resqueryResponse_spec {qid : Nat} {parse : IscResult} {m : Message}
    (h : resqueryResponse cfg env s i qid parse m = .ok s') (g : Good s i) :
    ∃ f f' r w, s.fctxs i = some f ∧ f.state = .active ∧ f'.core = f.core ∧ r.fctx = i ∧
      s' = { s.setFctx i f' with cacheWrites := s.cacheWrites ++ w }.setBucket f.bucketnum
        { s.buckets f.bucketnum with busy := some r } := by
  obtain ⟨f, hf, h⟩ := withFctx_eq_ok.mp h
  split at h
  · cases h
  rename_i q hq
  obtain ⟨⟨vd, f', w⟩, h₁, h⟩ := map_eq_ok.mp h
  have hany : f.queries ≠ [] := by
    intro he; simp [he] at hq
  have ha : f.state = .active := by
    by_contra hn; exact hany (g.idle f hf hn).1
  exact ⟨f, f', vd.resume i q, w, hf, ha, responseVerdict_core h₁, rfl, h.symm⟩

end

/-! ## Shutting down -/

/-- A shutting-down fctx is done, and still has a reference, a pending find or a validation. -/
def Closing (f : Fctx) : Prop :=
  f.attributes.shuttingdown = true → f.state = .done ∧ ¬(f.references = 0 ∧ f.pending = 0 ∧ f.validating = 0)

def ClosingAt (s : Sys) (i : Nat) : Prop := ∀ f, s.fctxs i = some f → Closing f

def lateFind (s : Sys) (i : Nat) : Bool :=
  ((s.fctxs i).map fun f => f.state == .done && f.attributes.addrwait).getD false

section
variable {cfg : Config} {env : Env} {i : Nat} {s s' t : Sys}

theorem ClosingAt.touch (hc : ClosingAt s i) (h : Touch i s t) : ClosingAt t i := by
  intro f' hf' hsd
  obtain ⟨f, hf⟩ := h.some_back hf'
  have hr := h.counts f f' hf hf'
  obtain ⟨hd, hz⟩ := hc f hf (hr.1 ▸ hsd)
  refine ⟨(h.stays f f' hf hf').2 hd, fun hz' => hz ?_⟩
  have := hr.2
  omega

theorem Closing.not_shuttingdown {f : Fctx} (hc : Closing f) (hd : f.state ≠ .done) :
    f.attributes.shuttingdown = false := by
  cases hs : f.attributes.shuttingdown
  · rfl
  · exact absurd (hc hs).1 hd

theorem fctxFinddone_spec {more : Bool} (h : fctxFinddone cfg env s i more = .ok s') (g : Good s i)
    (hb : NotBusy s i) (hc : ClosingAt s i) (hl : lateFind s i = false) :
    Frame i s s' ∧ Good s' i ∧ ClosingAt s' i := by
  obtain ⟨f, hf, h⟩ := withFctx_eq_ok.mp h
  dsimp only at h
  split at h
  · cases h
  split at h
  · rename_i ha
    have hd : f.state ≠ .done := fun hd => by simp [lateFind, hf, hd, ha] at hl
    have hact : f.state = .active := by
      cases hs : f.state
      · simp [g.fresh f hf hs] at ha
      · rfl
      · exact absurd hs hd
    have hsd := (hc f hf).not_shuttingdown hd
    set f₁ := { f with pending := f.pending - 1, attributes := { f.attributes with addrwait := false } }
    have fr : Frame i s (s.setFctx i f₁) := frame_setFctx hf rfl fun h => h
    have g₁ : Good (s.setFctx i f₁) i :=
      g.setFctx_state hf rfl rfl (fun _ => id) (g.idle f hf) fun _ _ => rfl
    have r₁ : Ready (s.setFctx i f₁) i := ⟨g₁, ⟨f₁, by simp, hact⟩, hb.frame fr⟩
    have c₁ : ClosingAt (s.setFctx i f₁) i := fun f' h' hs' => by
      simp at h'; subst h'; simp [f₁, hsd] at hs'
    split at h
    · obtain ⟨t, g'⟩ := fctxTry_spec h r₁
      exact ⟨fr.trans t.toFrame, g', c₁.touch t⟩
    split at h
    · obtain ⟨t, g', -⟩ := fctxDone_spec h g₁ r₁.notBusy
      exact ⟨fr.trans t.toFrame, g', c₁.touch t⟩
    · cases h; exact ⟨fr, g₁, c₁⟩
  · split at h
    · obtain ⟨t, g', hn⟩ := destroyAndEmpty_spec h
      have fr : Frame i s (s.setFctx i { f with pending := f.pending - 1 }) := frame_setFctx hf rfl id
      exact ⟨fr.trans t.toFrame, g' (g.setFctx_progress hf rfl), fun _ h' => by rw [hn] at h'; cases h'⟩
    · rename_i hz
      cases h
      refine ⟨frame_setFctx hf rfl id, g.setFctx_progress hf rfl, fun f' h' hs' => ?_⟩
      simp at h'; subst h'
      exact ⟨(hc f hf hs').1, fun ⟨h₁, h₂, h₃⟩ => hz ⟨hs', h₂, h₃, h₁⟩⟩

theorem fctxStart_spec (h : fctxStart cfg env s i = .ok s') (g : Good s i) (hb : NotBusy s i)
    (hc : ClosingAt s i) : Touch i s s' ∧ Good s' i ∧ ClosingAt s' i := by
  obtain ⟨f, hf, h⟩ := withFctx_eq_ok.mp h
  split at h
  · cases h
  rename_i hi
  have hinit : f.state = .init := not_not.mp hi
  split at h
  · split at h
    · cases h
    · obtain ⟨t, g', hn⟩ := destroyAndEmpty_spec h
      exact ⟨t, g' g, fun _ h' => by rw [hn] at h'; cases h'⟩
  · have hsd := (hc f hf).not_shuttingdown (by simp [hinit])
    have t₁ : Touch i s (s.setFctx i { f with state := .active }) :=
      touch_setFctx hf rfl (fun h => by simp [hinit] at h) (.refl f)
    have g₁ : Good (s.setFctx i { f with state := .active }) i :=
      g.setFctx hf rfl (fun _ _ _ => rfl) (fun _ _ _ _ he => g.queried hf he) (fun _ _ _ _ => rfl)
        (fun h => absurd rfl h) (fun h => by cases h)
    have c₁ : ClosingAt (s.setFctx i { f with state := .active }) i := fun f' h' hs' => by
      simp at h'; subst h'; simp [hsd] at hs'
    obtain ⟨t, g'⟩ := fctxTry_spec h ⟨g₁, ⟨{ f with state := .active }, by simp, rfl⟩, hb.frame t₁.toFrame⟩
    exact ⟨t₁.trans t, g', c₁.touch t⟩

theorem fctxDoshutdown_spec (h : fctxDoshutdown s i = .ok s') (g : Good s i) (hb : NotBusy s i) :
    Frame i s s' ∧ Good s' i ∧ ClosingAt s' i := by
  obtain ⟨f, hf, h⟩ := withFctx_eq_ok.mp h
  dsimp only at h
  split at h
  · cases h
  obtain ⟨_, -, h⟩ := bind_eq_ok.mp h
  set f₁ := { f with attributes := { f.attributes with shuttingdown := true } }
  have fr₁ : Frame i s (s.setFctx i f₁) := frame_setFctx hf rfl id
  have g₁ : Good (s.setFctx i f₁) i := g.setFctx_progress hf rfl
  have last : ∀ s₂, Touch i (s.setFctx i f₁) s₂ → Good s₂ i → (∃ f₂, s₂.fctxs i = some f₂ ∧ f₂.state = .done) →
      (if f.references = 0 ∧ f.pending = 0 ∧ f.validating = 0 then destroyAndEmpty s₂ i else pure s₂) = .ok s' →
      Frame i s s' ∧ Good s' i ∧ ClosingAt s' i := by
    intro s₂ t₂ g₂ ⟨f₂, hf₂, hd₂⟩ h
    split at h
    · obtain ⟨t, g', hn⟩ := destroyAndEmpty_spec h
      exact ⟨fr₁.trans (t₂.trans t).toFrame, g' g₂, fun _ h' => by rw [hn] at h'; cases h'⟩
    · rename_i hz
      cases h
      refine ⟨fr₁.trans t₂.toFrame, g₂, fun f' h' _ => ?_⟩
      rw [hf₂] at h'; cases h'
      have hr := t₂.counts f₁ f₂ (by simp) hf₂
      refine ⟨hd₂, fun hz' => hz ?_⟩
      have := hr.2
      simp only [f₁] at this
      omega
  split at h
  · obtain ⟨s₂, h₂, h⟩ := bind_eq_ok.mp h
    obtain ⟨s₃, h₃, h⟩ := bind_eq_ok.mp h
    obtain ⟨s₄, h₄, h⟩ := bind_eq_ok.mp h
    obtain ⟨k₂, hs₂⟩ := fctxStopeverything_spec h₂
    obtain ⟨t₃, g₃, f₃, hf₃, hd₃⟩ := setState_done_spec h₃ (hs₂ g₁) ((hb.frame fr₁).frame k₂.toFrame)
    have k₄ := fctxSendevents_keeps h₄
    obtain ⟨f₄, hf₄, hd₄⟩ := k₄.steady f₃ hf₃
    exact last s₄ (k₂.toTouch.trans (t₃.trans k₄.toTouch)) (k₄.good (g₃ (k₂.good g₁)))
      ⟨f₄, hf₄, hd₄.trans hd₃⟩ h
  · rename_i hd
    obtain ⟨_, h₂, h⟩ := bind_eq_ok.mp h
    cases h₂
    exact last _ (.refl i _) g₁ ⟨f₁, by simp, not_not.mp hd⟩ h

end

end DnsResolver
