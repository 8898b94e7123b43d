import DnsResolver.Task

/-! # `resquery_response`

The handler for a response, in two parts: up to `done`, and after it. -/

namespace DnsResolver

/-- The flags `resquery_response` has set when it reaches `done`. -/
structure Verdict where
  keepTrying : Bool := false
  brokenServer : Bool := false
  getNameservers : Bool := false
  resend : Bool := false
  options : FetchOptions
  result : IscResult
  deriving DecidableEq, Repr

/-- Resend without EDNS0, unless the query had none. -/
def ednsRetry (q : Query) (result : IscResult) : Verdict :=
  if !q.options.noedns0 then { resend := true, options := { q.options with noedns0 := true }, result }
  else { keepTrying := true, brokenServer := true, options := q.options, result }

/-- The `switch` on a failed `dns_message_parse`; `true` is a truncated response. -/
def parseVerdict (q : Query) (parse : IscResult) (m : Message) : Except Verdict Bool :=
  match parse with
  | .success => .ok false
  | .unexpectedend =>
    if !m.questionOk || !m.tc || q.options.tcp then .error (ednsRetry q .unexpectedend) else .ok true
  | .formerr => .error (ednsRetry q .formerr)
  | .moredata => .error { options := q.options, result := .notimplemented }
  | e => .error { options := q.options, result := e }

/-- The header checks after parsing; `none` lets the response through. -/
def headerVerdict (q : Query) (truncated : Bool) (parse : IscResult) (m : Message) : Option Verdict :=
  if truncated || m.tc then
    some (if q.options.tcp then { keepTrying := true, brokenServer := true, options := q.options, result := parse }
          else { resend := true, options := { q.options with tcp := true }, result := parse })
  else if m.opcode ≠ .query then
    some { keepTrying := true, brokenServer := true, options := q.options, result := parse }
  else if m.rcode ≠ .noerror ∧ m.rcode ≠ .nxdomain then
    some (if !q.options.noedns0 ∧ m.rcode = .formerr then ednsRetry q parse
          else { keepTrying := true, brokenServer := true, options := q.options, result := parse })
  else none

/-- A failed classification: `keep_trying` on `DNS_R_FORMERR` only. -/
def failVerdict (q : Query) (r : IscResult) : Verdict :=
  { keepTrying := r = .formerr, options := q.options, result := r }

/-- `ncache_message` when `WANTNCACHE`. -/
def ncacheVerdict (v : View) (base : Verdict) (f : Fctx) (m : Message) (w : List CacheWrite) :
    Verdict × Fctx × List CacheWrite :=
  if f.attributes.wantncache then
    let x := ncacheMessage v f (if m.rcode = .nxdomain then .any else f.type)
    ({ base with result := x.1 }, x.2.1, w ++ x.2.2)
  else (base, f, w)

/-- Caching after a successful classification. -/
def cacheVerdict (v : View) (q : Query) (getNs : Bool) (f : Fctx) (m : Message) :
    Except Abort (Verdict × Fctx × List CacheWrite) :=
  let base : Verdict := { keepTrying := getNs, getNameservers := getNs, options := q.options,
                          result := .success }
  if f.attributes.wantcache then
    match cacheMessage v f m with
    | .error a => .error a
    | .ok (r, f, w) => .ok (if r ≠ .success then ({ base with result := r }, f, w)
                            else ncacheVerdict v base f m w)
  else .ok (ncacheVerdict v base f m [])

/-- `resquery_response` from `same_question` to `done`. -/
def classifyVerdict (cfg : Config) (v : View) (f : Fctx) (q : Query) (m : Message) :
    Except Abort (Verdict × Fctx × List CacheWrite) :=
  match sameQuestion cfg.rdclass f m with
  | .error a => .error a
  | .ok r =>
  if r ≠ .success then .ok (failVerdict q r, f, []) else
  if m.counts.answer > 0 ∧ (m.rcode = .noerror ∨ m.rcode = .nxdomain) then
    match answerResponse f m with
    | .error a => .error a
    | .ok (r, f, m) => if r ≠ .success then .ok (failVerdict q r, f, []) else cacheVerdict v q false f m
  else if m.counts.authority > 0 ∨ m.rcode = .noerror ∨ m.rcode = .nxdomain then
    match noanswerResponse f m none with
    | .error a => .error a
    | .ok (r, f, m) =>
      if r = .delegation then cacheVerdict v q true f m
      else if r ≠ .success then .ok (failVerdict q r, f, [])
      else cacheVerdict v q false f m
  else .ok ({ keepTrying := true, brokenServer := true, options := q.options, result := .success }, f, [])

/-- `resquery_response` up to `done`. -/
def responseVerdict (cfg : Config) (v : View) (f : Fctx) (q : Query) (parse : IscResult)
    (m : Message) : Except Abort (Verdict × Fctx × List CacheWrite) :=
  match parseVerdict q parse m with
  | .error vd => .ok (vd, f, [])
  | .ok truncated =>
    if !m.qr then .error .responseQr else
    match headerVerdict q truncated parse m with
    | some vd => .ok (vd, f, [])
    | none => classifyVerdict cfg v f q m

def Verdict.resume (vd : Verdict) (i : Nat) (q : Query) : Resume :=
  { fctx := i, query := q, keepTrying := vd.keepTrying, brokenServer := vd.brokenServer,
    getNameservers := vd.getNameservers, resend := vd.resend, options := vd.options,
    result := vd.result }

/-- The first part of `resquery_response`, for the query `q` of the fctx at `i`. -/
def resqueryResponse (cfg : Config) (env : Env) (s : Sys) (i qid : Nat) (parse : IscResult)
    (m : Message) : Except Abort Sys :=
  s.withFctx i fun f =>
    match f.queries.find? (·.id == qid) with
    | none => .error .dangling
    | some q => (responseVerdict cfg env.view f q parse m.parsed).map fun r =>
      let s := { s.setFctx i r.2.1 with cacheWrites := s.cacheWrites ++ r.2.2 }
      s.setBucket f.bucketnum { s.buckets f.bucketnum with busy := some (r.1.resume i q) }

/-- The `get_nameservers` step of `resquery_response`. -/
def getNameservers (cfg : Config) (env : Env) (s : Sys) (i : Nat) : Except Abort Sys :=
  s.withFctx i fun f =>
    match env.findzonecut f.domain with
    | none => fctxDone s i .servfail
    | some (fname, ns) =>
      if ¬issubdomain fname f.domain then fctxDone (s.setFctx i { f with nameservers := some ns }) i .servfail
      else do
        let s := s.setFctx i { f with domain := fname, nameservers := some ns }
        let s ← fctxCancelqueries s i
        let s ← fctxCleanupfinds s i
        let s ← fctxCleanupforwaddrs s i
        fctxTry cfg env s i

def stopIdletimer (s : Sys) (i : Nat) : Except Abort Sys :=
  s.withFctx i fun f => .ok (s.setFctx i { f with timer := .armed false })

/-- The second part of `resquery_response`, from `done`. -/
def resqueryFinish (cfg : Config) (env : Env) (s : Sys) (r : Resume) : Except Abort Sys := do
  let s ← fctxCancelquery s r.fctx r.query.id
  if r.keepTrying then
    let result := if r.brokenServer || r.result = .formerr then .success else r.result
    if !r.getNameservers then fctxTry cfg env s r.fctx
    else if result ≠ .success then fctxDone s r.fctx .servfail
    else getNameservers cfg env s r.fctx
  else if r.resend then queryOrDone env s r.fctx r.query.addrinfo r.options
  else s.withFctx r.fctx fun f =>
    if r.result = .success ∧ !f.attributes.haveanswer then do
      stopIdletimer (← fctxCancelqueries s r.fctx) r.fctx
    else fctxDone s r.fctx r.result

end DnsResolver
