import DnsResolver.Frame

/-! # Queries and their resends

A resend adds `NOEDNS0` or `TCP`, so a server is asked at most three times in a row. -/

namespace DnsResolver

/-! ## A send that completes after its query is gone -/

def lateSenddone : List Action :=
  [.createfetch aExampleCom .a none { tcp := true } 7 comCut, .run 0 answering,
    .complete 0 false .success, .run 0 answering, .fire 1 true, .run 0 answering,
    .complete 0 false .canceled, .run 0 answering]

/-- `resquery_senddone` cancels a query that `fctx_done` already canceled. -/
theorem senddone_cancels_canceled_query :
    ∃ s a, Reachable oneBucket s ∧ enabled s a ∧ step oneBucket s a = .error .cancelqueryCanceled :=
  run_error_reachable lateSenddone .init (by rfl)

/-! ## Options a resend adds -/

namespace FetchOptions

def extra (o : FetchOptions) : Nat := o.noedns0.toNat + o.tcp.toNat

def Extends (o o' : FetchOptions) : Prop :=
  o'.unshared = o.unshared ∧ o'.recursive = o.recursive ∧ (o.tcp → o'.tcp) ∧ (o.noedns0 → o'.noedns0)

def Adds (o o' : FetchOptions) : Prop :=
  o.noedns0 = false ∧ o' = { o with noedns0 := true } ∨ o.tcp = false ∧ o' = { o with tcp := true }

variable {o o' o'' : FetchOptions}

theorem Extends.refl (o : FetchOptions) : o.Extends o := ⟨rfl, rfl, id, id⟩

theorem Extends.trans (h₁ : o.Extends o') (h₂ : o'.Extends o'') : o.Extends o'' :=
  ⟨h₂.1.trans h₁.1, h₂.2.1.trans h₁.2.1, h₂.2.2.1 ∘ h₁.2.2.1, h₂.2.2.2 ∘ h₁.2.2.2⟩

theorem Extends.extra_le (h : o.Extends o') : o.extra ≤ o'.extra := by
  obtain ⟨-, -, ht, hn⟩ := h
  unfold extra
  revert ht hn
  cases o.tcp <;> cases o.noedns0 <;> cases o'.tcp <;> cases o'.noedns0 <;> decide

theorem Adds.extra_eq (h : o.Adds o') : o'.extra = o.extra + 1 := by
  rcases h with ⟨h, rfl⟩ | ⟨h, rfl⟩ <;> simp [extra, h, Nat.add_comm]

theorem Adds.extends (h : o.Adds o') : o.Extends o' := by
  rcases h with ⟨-, rfl⟩ | ⟨-, rfl⟩ <;> exact ⟨rfl, rfl, by simp, by simp⟩

theorem extra_le_two (o : FetchOptions) : o.extra ≤ 2 := by
  unfold extra; cases o.tcp <;> cases o.noedns0 <;> decide

end FetchOptions

theorem sendOptions_extends (addopt : Bool) (q : Query) : q.options.Extends (sendOptions addopt q) := by
  unfold sendOptions
  split
  · exact .refl _
  split
  · exact .refl _
  · exact ⟨rfl, rfl, id, fun _ => rfl⟩

def Resends (q q' : Query) : Prop :=
  q'.addrinfo = q.addrinfo ∧ ∃ o, q.options.Adds o ∧ o.Extends q'.options

theorem Resends.extra_lt {q q' : Query} (h : Resends q q') : q.options.extra < q'.options.extra := by
  obtain ⟨-, o, ha, he⟩ := h
  have := ha.extra_eq
  have := he.extra_le
  omega

theorem resend_chain_length {q : Query} :
    ∀ {l : List Query}, (q :: l).Chain' Resends → l.length + q.options.extra ≤ 2
  | [], _ => by simpa using q.options.extra_le_two
  | _ :: _, h => by
    cases h with
    | cons h₁ h₂ =>
      have ih := resend_chain_length h₂
      have := h₁.extra_lt
      simp only [List.length_cons]
      omega

/-! ## Resend verdicts -/

section
variable {q : Query} {vd : Verdict}

theorem ednsRetry_resend {r : IscResult} (h : (ednsRetry q r).resend = true) :
    (ednsRetry q r).keepTrying = false ∧ q.options.Adds (ednsRetry q r).options := by
  unfold ednsRetry at h ⊢
  split
  · exact ⟨rfl, .inl ⟨by simp_all, rfl⟩⟩
  · simp_all

theorem parseVerdict_resend {parse : IscResult} {m : Message} (h : parseVerdict q parse m = .error vd)
    (hr : vd.resend = true) : vd.keepTrying = false ∧ q.options.Adds vd.options := by
  unfold parseVerdict at h
  split at h
  · cases h
  · split at h
    · cases h; exact ednsRetry_resend hr
    · cases h
  · cases h; exact ednsRetry_resend hr
  all_goals (cases h; cases hr)

theorem headerVerdict_resend {truncated : Bool} {parse : IscResult} {m : Message}
    (h : headerVerdict q truncated parse m = some vd) (hr : vd.resend = true) :
    vd.keepTrying = false ∧ q.options.Adds vd.options := by
  unfold headerVerdict at h
  split at h
  · split at h <;> cases h
    · cases hr
    · exact ⟨rfl, .inr ⟨by simp_all, rfl⟩⟩
  split at h
  · cases h; cases hr
  split at h
  · split at h <;> cases h
    · exact ednsRetry_resend hr
    · cases hr
  · cases h

theorem cacheVerdict_resend {v : View} {getNs : Bool} {f f' : Fctx} {m : Message} {w : List CacheWrite}
    (h : cacheVerdict v q getNs f m = .ok (vd, f', w)) : vd.resend = false := by
  unfold cacheVerdict ncacheVerdict at h
  dsimp only at h
  split at h
  · split at h
    · cases h
    · split at h
      · cases h; rfl
      · split at h <;> (cases h; rfl)
  · split at h <;> (cases h; rfl)

theorem classifyVerdict_resend {cfg : Config} {v : View} {f f' : Fctx} {m : Message} {w : List CacheWrite}
    (h : classifyVerdict cfg v f q m = .ok (vd, f', w)) : vd.resend = false := by
  unfold classifyVerdict at h
  split at h
  · cases h
  split at h
  · cases h; rfl
  split at h
  · split at h
    · cases h
    · split at h
      · cases h; rfl
      · exact cacheVerdict_resend h
  split at h
  · split at h
    · cases h
    · split at h
      · exact cacheVerdict_resend h
      split at h
      · cases h; rfl
      · exact cacheVerdict_resend h
  · cases h; rfl

theorem responseVerdict_resend {cfg : Config} {v : View} {f f' : Fctx} {parse : IscResult}
    {m : Message} {w : List CacheWrite} (h : responseVerdict cfg v f q parse m = .ok (vd, f', w))
    (hr : vd.resend = true) : vd.keepTrying = false ∧ q.options.Adds vd.options := by
  unfold responseVerdict at h
  split at h
  · cases h; exact parseVerdict_resend ‹_› hr
  split at h
  · cases h
  split at h
  · cases h; exact headerVerdict_resend ‹_› hr
  · exact absurd hr (by rw [classifyVerdict_resend h]; decide)

end

/-! ## The query a resend sends -/

section
variable {env : Env} {s s' : Sys} {i : Nat}

theorem fctxQuery_sends {a : Addrinfo} {o : FetchOptions} {r : IscResult}
    (h : fctxQuery env s i a o = .ok (r, s')) :
    env.queryFails.isSome ∨ r = .success ∧ ∃ f f' q', s.fctxs i = some f ∧ s'.fctxs i = some f' ∧
      f'.queries = f.queries ++ [q'] ∧ q'.addrinfo = a ∧ o.Extends q'.options := by
  obtain ⟨f, hf, h⟩ := withFctx_eq_ok.mp h
  dsimp only at h
  split at h
  · exact .inl (by simp [*])
  refine .inr ?_
  split at h
  · cases h; exact ⟨rfl, f, _, _, hf, Function.update_same i _ _, rfl, rfl, .refl o⟩
  · cases h; exact ⟨rfl, f, _, _, hf, Function.update_same i _ _, rfl, rfl, sendOptions_extends _ _⟩

theorem resqueryFinish_resend {cfg : Config} {r : Resume} (hk : r.keepTrying = false)
    (hr : r.resend = true) (h : resqueryFinish cfg env s r = .ok s') :
    env.queryFails.isSome ∨ ∃ f f' q', s.fctxs r.fctx = some f ∧ s'.fctxs r.fctx = some f' ∧
      f'.queries = f.queries.filter (·.id != r.query.id) ++ [q'] ∧
      q'.addrinfo = r.query.addrinfo ∧ r.options.Extends q'.options := by
  obtain ⟨s₁, h₁, h⟩ := bind_eq_ok.mp h
  simp only [hk, hr, Bool.false_eq_true, if_false, if_true] at h
  obtain ⟨⟨res, s₂⟩, h₂, h⟩ := bind_eq_ok.mp h
  rcases fctxQuery_sends h₂ with hq | ⟨rfl, f₁, f', q', hf₁, hf', hq, ha, ho⟩
  · exact .inl hq
  cases h
  obtain ⟨f, hf, h₁⟩ := withFctx_eq_ok.mp h₁
  split at h₁
  · cases h₁
    simp only [Sys.purge, Sys.setBucket, Sys.setFctx, Function.update_same] at hf₁
    cases hf₁
    exact .inr ⟨f, f', q', hf, hf', hq, ha, ho⟩
  · cases h₁

theorem resqueryConnected_extends {q : Query} {result : IscResult}
    (h : resqueryConnected env s i q result = .ok s') {f f' : Fctx} (hf : s.fctxs i = some f)
    (hf' : s'.fctxs i = some f') :
    ∀ y ∈ f'.queries, ∃ x ∈ f.queries, y.id = x.id ∧ y.addrinfo = x.addrinfo ∧ x.options.Extends y.options := by
  obtain ⟨f₀, hf₀, h⟩ := withFctx_eq_ok.mp h
  rw [hf] at hf₀; cases hf₀
  split at h
  · cases h; rw [hf] at hf'; cases hf'
    exact fun y hy => ⟨y, hy, rfl, rfl, .refl _⟩
  split at h
  · unfold fctxCancelquery at h
    obtain ⟨f₀, hf₀, h⟩ := withFctx_eq_ok.mp h
    rw [hf] at hf₀; cases hf₀
    split at h
    · cases h
      simp at hf'; subst hf'
      exact fun y hy => ⟨y, (List.mem_filter.mp hy).1, rfl, rfl, .refl _⟩
    · cases h
  · cases h
    simp at hf'; subst hf'
    intro y hy
    obtain ⟨x, hx, rfl⟩ := List.mem_map.mp hy
    refine ⟨x, hx, ?_⟩
    dsimp only
    split
    · exact ⟨rfl, rfl, sendOptions_extends _ _⟩
    · exact ⟨rfl, rfl, .refl _⟩

end

/-- A resend adds `NOEDNS0` or `TCP` for the same server, so a chain ends after two. -/
theorem resends_end_after_two :
    (∀ (cfg : Config) (v : View) (f : Fctx) (q : Query) (parse : IscResult) (m : Message)
        (vd : Verdict) (f' : Fctx) (w : List CacheWrite),
        responseVerdict cfg v f q parse m = .ok (vd, f', w) → vd.resend = true →
          vd.keepTrying = false ∧ q.options.Adds vd.options) ∧
      (∀ (cfg : Config) (env : Env) (s : Sys) (r : Resume) (s' : Sys), r.keepTrying = false →
        r.resend = true → resqueryFinish cfg env s r = .ok s' →
          env.queryFails.isSome ∨ ∃ f f' q', s.fctxs r.fctx = some f ∧ s'.fctxs r.fctx = some f' ∧
            f'.queries = f.queries.filter (·.id != r.query.id) ++ [q'] ∧
            q'.addrinfo = r.query.addrinfo ∧ r.options.Extends q'.options) ∧
      (∀ (env : Env) (s : Sys) (i : Nat) (q : Query) (result : IscResult) (s' : Sys) (f f' : Fctx),
        resqueryConnected env s i q result = .ok s' → s.fctxs i = some f → s'.fctxs i = some f' →
          ∀ y ∈ f'.queries, ∃ x ∈ f.queries, y.id = x.id ∧ y.addrinfo = x.addrinfo ∧
            x.options.Extends y.options) ∧
      ∀ l : List Query, l.Chain' Resends → l.length ≤ 3 :=
  ⟨fun _ _ _ _ _ _ _ _ _ h hr => responseVerdict_resend h hr,
    fun _ _ _ _ _ hk hr h => resqueryFinish_resend hk hr h,
    fun _ _ _ _ _ _ _ _ h hf hf' => resqueryConnected_extends h hf hf',
    fun | [], _ => by simp
        | _ :: _, h => by have := resend_chain_length h; simp only [List.length_cons]; omega⟩

theorem formerr_resends_without_edns :
    let q : Query := { id := 2, addrinfo := { sockaddr := 1, srtt := 0 }, options := {} }
    let f : Fctx := { name := aExampleCom, type := .a, options := {}, bucketnum := 0, domain := com,
                      nameservers := none }
    responseVerdict oneBucket acceptAll f q .formerr (reply .noerror [] []) =
        .ok (ednsRetry q .formerr, f, []) ∧
      (ednsRetry q .formerr).keepTrying = false ∧ q.options.Adds (ednsRetry q .formerr).options := by
  intro q f
  exact ⟨rfl, resends_end_after_two.1 oneBucket acceptAll f q .formerr (reply .noerror [] []) _ f [] rfl rfl⟩

/-! ## The second address of a find -/

def addrOne : Addrinfo := { sockaddr := 1, srtt := 0 }

def addrTwo : Addrinfo := { sockaddr := 2, srtt := 0 }

def twoAddresses : Env := { answering with createfind := fun _ => .addresses addrOne [addrTwo] }

def retriedFirst (s : Sys) : Bool :=
  ((s.fctxs 1).map fun f => f.restarts == 2 && f.queries.map (·.addrinfo.sockaddr) == [1]).getD false

/-- With one find of two addresses, `fctx_nextaddress` never returns the second. -/
theorem nextaddress_skips_second :
    fctxNextaddress [] [⟨[addrOne, addrTwo]⟩] none =
        some (some addrOne.marked, [], [⟨[addrOne.marked, addrTwo]⟩], some 0) ∧
      fctxNextaddress [] [⟨[addrOne.marked, addrTwo]⟩] (some 0) =
        some (none, [], [⟨[addrOne.marked, addrTwo]⟩], some 0) ∧
      addrTwo.flags.mark = false ∧
      ∃ s, Reachable oneBucket s ∧ retriedFirst s :=
  ⟨rfl, rfl, rfl, reachable_of_run [fetchA 7, .run 0 twoAddresses,
    .respond 1 2 .success (reply .servfail [] []), .run 0 twoAddresses, .run 0 twoAddresses]
    (by decide)⟩

end DnsResolver
