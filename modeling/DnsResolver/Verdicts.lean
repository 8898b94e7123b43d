import DnsResolver.Bailiwick

/-! # What one response does to a fetch

The verdict at `done`, and what the second half of `resquery_response` makes of it. -/

namespace DnsResolver

/-! ## Failures that end the fetch -/

/-- The code `resquery_response` keeps for a failed parse it does not retry. -/
def parseCode (parse : IscResult) : IscResult :=
  if parse = .moredata then .notimplemented else parse

/-- The header lets a response through to `same_question`. -/
def HeaderOk (m : Message) : Prop :=
  m.qr = true ∧ m.tc = false ∧ m.opcode = .query ∧ (m.rcode = .noerror ∨ m.rcode = .nxdomain)

theorem parseVerdict_other {q : Query} {parse : IscResult} {m : Message} (h₁ : parse ≠ .success)
    (h₂ : parse ≠ .formerr) (h₃ : parse ≠ .unexpectedend) :
    parseVerdict q parse m = .error { options := q.options, result := parseCode parse } := by
  unfold parseVerdict parseCode
  split <;> simp_all

theorem headerVerdict_none {q : Query} {m : Message} (hm : HeaderOk m) :
    headerVerdict q false .success m = none := by
  obtain ⟨-, htc, hop, hrc⟩ := hm
  rcases hrc with hrc | hrc <;> simp [headerVerdict, htc, hop, hrc]

theorem responseVerdict_classify {cfg : Config} {v : View} {f : Fctx} {q : Query} {m : Message}
    (hm : HeaderOk m) : responseVerdict cfg v f q .success m = classifyVerdict cfg v f q m := by
  simp only [responseVerdict, parseVerdict, hm.1, Bool.not_true, Bool.false_eq_true, if_false,
    headerVerdict_none hm]

/-- FORMERR and UNEXPECTEDEND are resent or kept trying; other failures end the fetch. -/
theorem response_failure_ends_fetch :
    (∀ (cfg : Config) (v : View) (f : Fctx) (q : Query) (parse : IscResult) (m : Message),
      (parse = .formerr ∨
        parse = .unexpectedend ∧ ¬(m.questionOk = true ∧ m.tc = true ∧ q.options.tcp = false)) →
      responseVerdict cfg v f q parse m = .ok (if q.options.noedns0 then
          { keepTrying := true, brokenServer := true, options := q.options, result := parse }
        else { resend := true, options := { q.options with noedns0 := true }, result := parse }, f, [])) ∧
    (∀ (cfg : Config) (v : View) (f : Fctx) (q : Query) (m : Message),
      m.questionOk = true → m.tc = true → q.options.tcp = false → m.qr = true →
      responseVerdict cfg v f q .unexpectedend m =
        .ok ({ resend := true, options := { q.options with tcp := true }, result := .unexpectedend }, f, [])) ∧
    (∀ (cfg : Config) (v : View) (f : Fctx) (q : Query) (parse : IscResult) (m : Message),
      parse ≠ .success → parse ≠ .formerr → parse ≠ .unexpectedend →
      responseVerdict cfg v f q parse m = .ok ({ options := q.options, result := parseCode parse }, f, [])) ∧
    (∀ (cfg : Config) (v : View) (f : Fctx) (q : Query) (m : Message) (r : IscResult), HeaderOk m →
      sameQuestion cfg.rdclass f m = .ok r → r ≠ .success →
      responseVerdict cfg v f q .success m = .ok (failVerdict q r, f, [])) ∧
    (∀ (cfg : Config) (v : View) (f f' : Fctx) (q : Query) (m m' : Message) (r : IscResult), HeaderOk m →
      sameQuestion cfg.rdclass f m = .ok .success → 0 < m.counts.answer →
      answerResponse f m = .ok (r, f', m') → r ≠ .success →
      responseVerdict cfg v f q .success m = .ok (failVerdict q r, f', [])) ∧
    (∀ (cfg : Config) (v : View) (f f' : Fctx) (q : Query) (m m' : Message) (r : IscResult), HeaderOk m →
      sameQuestion cfg.rdclass f m = .ok .success → m.counts.answer = 0 →
      noanswerResponse f m none = .ok (r, f', m') → r ≠ .success → r ≠ .delegation →
      responseVerdict cfg v f q .success m = .ok (failVerdict q r, f', [])) ∧
    (∀ (q : Query) (r : IscResult), (failVerdict q r).resend = false ∧ (failVerdict q r).result = r ∧
      ((failVerdict q r).keepTrying = true ↔ r = .formerr)) ∧
    ∀ (cfg : Config) (env : Env) (s : Sys) (r : Resume),
      r.keepTrying = false → r.resend = false → r.result ≠ .success →
      resqueryFinish cfg env s r = (fctxCancelquery s r.fctx r.query.id >>= fun s => fctxDone s r.fctx r.result) := by
  refine ⟨?retried, ?truncated, ?parse, ?question, ?answer, ?noanswer, ?fail, ?finish⟩
  case retried =>
    intro cfg v f q parse m hp
    have hv : parseVerdict q parse m = .error (ednsRetry q parse) := by
      rcases hp with rfl | ⟨rfl, hnt⟩
      · rfl
      · revert hnt
        simp only [parseVerdict]
        cases m.questionOk <;> cases m.tc <;> cases q.options.tcp <;> simp
    simp only [responseVerdict, hv, ednsRetry]
    cases q.options.noedns0 <;> rfl
  case truncated =>
    intro cfg v f q m hq ht htcp hqr
    simp [responseVerdict, parseVerdict, headerVerdict, hq, ht, htcp, hqr]
  case parse =>
    intro cfg v f q parse m h₁ h₂ h₃
    simp [responseVerdict, parseVerdict_other h₁ h₂ h₃]
  case question =>
    intro cfg v f q m r hm hq hr
    simp [responseVerdict_classify hm, classifyVerdict, hq, hr]
  case answer =>
    intro cfg v f f' q m m' r hm hq ha h hr
    have hrc := hm.2.2.2
    simp [responseVerdict_classify hm, classifyVerdict, hq, ha, h, hr, hrc]
  case noanswer =>
    intro cfg v f f' q m m' r hm hq ha h hr hd
    have hrc := hm.2.2.2
    simp [responseVerdict_classify hm, classifyVerdict, hq, ha, h, hr, hd, hrc]
  case fail =>
    intro q r
    simp [failVerdict]
  case finish =>
    intro cfg env s r hk hr hs
    unfold resqueryFinish
    congr 1
    funext s'
    simp only [hk, hr, Bool.false_eq_true, if_false]
    cases hf : s'.fctxs r.fctx with
    | none => simp [Sys.withFctx, hf, fctxDone, fctxStopeverything, fctxCancelqueries, bind,
        Except.bind]
    | some f => simp [withFctx_of_some hf, hs]

theorem waiting_fetch_verdicts :
    responseVerdict oneBucket acceptAll waitingFctx query2 .formerr (reply .noerror [addressOfA] []) =
      .ok ({ resend := true, options := { noedns0 := true }, result := .formerr }, waitingFctx, []) ∧
    responseVerdict oneBucket acceptAll waitingFctx query2 .unexpectedend
        { reply .noerror [addressOfA] [] with tc := true } =
      .ok ({ resend := true, options := { tcp := true }, result := .unexpectedend }, waitingFctx, []) ∧
    responseVerdict oneBucket acceptAll waitingFctx query2 .moredata (reply .noerror [addressOfA] []) =
      .ok ({ options := {}, result := .notimplemented }, waitingFctx, []) ∧
    resqueryFinish oneBucket answering waitingSys
        { fctx := 1, query := query2, keepTrying := false, brokenServer := false,
          getNameservers := false, resend := false, options := {}, result := .notimplemented } =
      (fctxCancelquery waitingSys 1 2 >>= fun s => fctxDone s 1 .notimplemented) :=
  ⟨response_failure_ends_fetch.1 _ _ _ _ _ _ (.inl rfl),
    response_failure_ends_fetch.2.1 _ _ _ _ _ rfl rfl rfl rfl,
    response_failure_ends_fetch.2.2.1 _ _ _ _ _ _ (by decide) (by decide) (by decide),
    response_failure_ends_fetch.2.2.2.2.2.2.2 _ _ _ _ rfl rfl (by decide)⟩

def toldFirstWaiter (s : Sys) (result : IscResult) : Bool :=
  s.delivered.contains (.fetchevents 1 [{ fetch := 0, task := 7, result := result }])

/-- One MOREDATA response ends the fetch: its waiter is told NOTIMPLEMENTED. -/
theorem moredata_fails_fetch :
    ∃ s, Reachable oneBucket s ∧ toldFirstWaiter s .notimplemented :=
  reachable_of_run [fetchA 7, .run 0 answering,
    .respond 1 2 .moredata (reply .noerror [addressOfA] []), .run 0 answering, .run 0 answering]
    (by decide)

/-! ## Waiting for a validator that never comes -/

/-- The fctx at `i` waits for a validator: running, with no query, no answer and no validation. -/
def idleForValidator (s : Sys) (i : Nat) : Bool :=
  ((s.fctxs i).map fun f =>
    f.state == .active && f.queries.isEmpty && f.timer == .armed false && f.validating == 0 &&
      !f.attributes.haveanswer && !f.events.isEmpty).getD false

/-- An early `ISC_R_SUCCESS` of a section loop leaves the fetch waiting for a validator. -/
theorem early_success_waits_for_validator :
    (∃ s, Reachable oneBucket s ∧ idleForValidator s 1) ∧
      ∃ s, Reachable oneBucket s ∧ idleForValidator s 1 ∧ s.cacheWrites = [] :=
  ⟨reachable_of_run [fetchA 7, .run 0 answering,
      .respond 1 2 .success (reply .noerror [addressOfA, { addressOfA with name := ["z", "com"] }] []),
      .run 0 answering, .run 0 answering] (by decide),
    reachable_of_run [fetchA 7, .run 0 answering,
      .respond 1 2 .success (reply .nxdomain []
        [{ name := ["example", "com"], list := [{ type := .soa }] }, { name := ["z", "com"], list := [] }]),
      .run 0 answering, .run 0 answering] (by decide)⟩

/-! ## A chain with a negative tail -/

def positiveAndNegative (s : Sys) (n : Name) : Bool :=
  s.cacheWrites.any (fun | .positive o _ => o == n | .negative _ _ => false) &&
    s.cacheWrites.any (fun | .negative o _ => o == n | .positive _ _ => false)

/-- An alias to a name that does not exist: the CNAME and a negative entry for it are cached. -/
theorem cname_with_nxdomain_tail :
    ∃ s, Reachable oneBucket s ∧ positiveAndNegative s aExampleCom :=
  reachable_of_run [fetchA 7, .run 0 answering,
    .respond 1 2 .success (reply .nxdomain
      [{ name := aExampleCom, list := [{ type := .cname, rdata := [["t", "example", "com"]] }] }]
      [{ name := ["example", "com"], list := [{ type := .soa }] }]),
    .run 0 answering] (by decide)

/-! ## Joining between caching and `done` -/

/-- One fan-out of `fctx_sendevents` tells its waiters different results. -/
def splitFanout (s : Sys) : Bool :=
  s.delivered.any fun
    | .fetchevents _ (e :: rest) => rest.any (·.result != e.result)
    | _ => false

/-- A caller joining between caching and `fctx_done` is told SERVFAIL. -/
theorem join_after_caching_gets_servfail : ∃ s, Reachable oneBucket s ∧ splitFanout s :=
  reachable_of_run [fetchA 7, .run 0 answering,
    .respond 1 2 .success (reply .noerror [addressOfA] []), .run 0 answering, fetchA 8,
    .run 0 answering] (by decide)

end DnsResolver
