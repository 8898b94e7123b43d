import DnsResolver.Lifecycle

/-! # The bucket task's handlers

`fctx_try` with its helpers, and the event handlers of a bucket task. -/

namespace DnsResolver

/-! ## Addresses -/

/-- The nameserver loop of `fctx_getaddresses`: one ADB find per name. -/
def findNameservers (env : Env) (i : Nat) :
    Fctx → List Owed → List Name → Option IscResult × Fctx × List Owed
  | f, o, [] => (none, f, o)
  | f, o, n :: ns =>
    match env.createfind n with
    | .fail e => (some e, f, o)
    | .addresses a rest =>
      findNameservers env i { f with finds := f.finds ++ [sortAdbfind ⟨a :: rest⟩] } o ns
    | .wait => findNameservers env i { f with pending := f.pending + 1 } (o ++ [.find f.bucketnum i]) ns
    | .nothing => findNameservers env i f o ns

/-- The end of `fctx_getaddresses`: success, or `DNS_R_WAIT` while the ADB owes events. -/
def addressesFound (f : Fctx) : Except Abort (IscResult × Fctx) :=
  if f.finds = [] ∧ f.forwaddrs = [] then .ok (if f.pending > 0 then .wait else .failure, f)
  else match sortFinds f.finds with
    | some l => .ok (.success, { f with finds := l })
    | none => .error .sortFinds

def forwarderAddrs (cfg : Config) (env : Env) : List Addrinfo :=
  cfg.forwarders.filterMap fun sa =>
    (env.findaddrinfo sa).map fun a => { a with flags := { a.flags with forwarder := true } }

/-- `fctx_getaddresses`. -/
def fctxGetaddresses (cfg : Config) (env : Env) (s : Sys) (i : Nat) : Except Abort (IscResult × Sys) :=
  s.withFctx i fun f =>
    let f := { f with restarts := f.restarts + 1 }
    if f.restarts > 10 then .ok (.servfail, s.setFctx i f) else
    if f.forwaddrs ≠ [] then .error .getaddressesLists else
    let f := { f with forwaddrs := forwarderAddrs cfg env }
    if cfg.fwdpolicy = .only then (addressesFound f).map fun r => (r.1, s.setFctx i r.2) else
    if f.finds ≠ [] then .error .getaddressesLists else
    match f.nameservers with
    | none => .error .nameservers
    | some ns =>
      match findNameservers env i f [] ns with
      | (some e, f, o) => .ok (e, { s.setFctx i f with owed := s.owed ++ o })
      | (none, f, o) =>
        (addressesFound f).map fun r => (r.1, { s.setFctx i r.2 with owed := s.owed ++ o })

/-- `fctx_nextaddress` on the fctx at `i`. -/
def fctxNextaddressAt (s : Sys) (i : Nat) : Except Abort (Option Addrinfo × Sys) :=
  s.withFctx i fun f =>
    match fctxNextaddress f.forwaddrs f.finds f.find with
    | none => .error .nextaddressLoop
    | some (a, fw, finds, cursor) =>
      .ok (a, s.setFctx i { f with forwaddrs := fw, finds := finds, find := cursor })

/-! ## Queries -/

/-- The options `resquery_send` leaves on a query. -/
def sendOptions (addopt : Bool) (q : Query) : FetchOptions :=
  if q.options.noedns0 then q.options
  else if !q.addrinfo.flags.noedns0 && addopt then q.options
  else { q.options with noedns0 := true }

/-- `fctx_query`: arm the timer, then send over UDP, or connect over TCP. -/
def fctxQuery (env : Env) (s : Sys) (i : Nat) (a : Addrinfo) (options : FetchOptions) :
    Except Abort (IscResult × Sys) :=
  s.withFctx i fun f =>
    let s := (s.setFctx i { f with interval := retryInterval f.restarts a.srtt,
                                   timer := .armed true }).note (.queried i a)
    match env.queryFails with
    | some e => (fctxStoptimer s i).map (e, ·)
    | none =>
      let q : Query := { id := s.nextId, addrinfo := a, options := options, connecting := options.tcp }
      let s := { s with nextId := s.nextId + 1 }
      let (q, o) := if options.tcp then (q, Owed.connect f.bucketnum i q)
        else ({ q with options := sendOptions env.addopt q }, Owed.send f.bucketnum i q.id)
      .ok (.success, { s.setFctx i { f with interval := retryInterval f.restarts a.srtt,
                                             timer := .armed true, queries := f.queries ++ [q] }
                       with owed := s.owed ++ [o] })

/-- `fctx_query`, and `fctx_done` with its error when it fails. -/
def queryOrDone (env : Env) (s : Sys) (i : Nat) (a : Addrinfo) (options : FetchOptions) :
    Except Abort Sys := do
  let (r, s) ← fctxQuery env s i a options
  if r = .success then pure s else fctxDone s i r

def setAddrwait (s : Sys) (i : Nat) (b : Bool) : Except Abort Sys :=
  s.withFctx i fun f => .ok (s.setFctx i { f with attributes := { f.attributes with addrwait := b } })

/-- `fctx_try`: the next address, or a new round of addresses when all are used. -/
def fctxTry (cfg : Config) (env : Env) (s : Sys) (i : Nat) : Except Abort Sys :=
  s.withFctx i fun f => do
    if f.attributes.addrwait then throw .tryAddrwait
    let (a, s) ← fctxNextaddressAt (s.note (.tried i)) i
    match a with
    | some a => queryOrDone env s i a f.options
    | none =>
      let s ← fctxCancelqueries s i
      let s ← fctxCleanupfinds s i
      let s ← fctxCleanupforwaddrs s i
      let (r, s) ← fctxGetaddresses cfg env s i
      if r = .wait then setAddrwait s i true
      else if r ≠ .success then fctxDone s i r
      else
        let (a, s) ← fctxNextaddressAt s i
        match a with
        | some a => queryOrDone env s i a f.options
        | none => throw .tryAddress

/-! ## Event handlers -/

/-- `fctx_timeout`. -/
def fctxTimeout (cfg : Config) (env : Env) (s : Sys) (i : Nat) (life : Bool) : Except Abort Sys :=
  if life then fctxDone s i .timedout
  else do fctxTry cfg env (← setAddrwait s i false) i

/-- `fctx_finddone`: an ADB find completed. -/
def fctxFinddone (cfg : Config) (env : Env) (s : Sys) (i : Nat) (more : Bool) : Except Abort Sys :=
  s.withFctx i fun f =>
    if f.pending = 0 then .error .finddonePending else
    let f := { f with pending := f.pending - 1 }
    if f.attributes.addrwait then
      let s := s.setFctx i { f with attributes := { f.attributes with addrwait := false } }
      if more then fctxTry cfg env s i
      else if f.pending = 0 then fctxDone s i .failure
      else .ok s
    else if f.attributes.shuttingdown ∧ f.pending = 0 ∧ f.validating = 0 ∧ f.references = 0 then
      destroyAndEmpty (s.setFctx i f) i
    else .ok (s.setFctx i f)

/-- `fctx_start`: the first run of the control event. -/
def fctxStart (cfg : Config) (env : Env) (s : Sys) (i : Nat) : Except Abort Sys :=
  s.withFctx i fun f =>
    if f.state ≠ .init then .error .startState
    else if f.wantShutdown then
      if f.events ≠ [] then .error .startEvents else destroyAndEmpty s i
    else fctxTry cfg env (s.setFctx i { f with state := .active }) i

/-- `fctx_doshutdown`: the control event again, after `fctx_shutdown`. -/
def fctxDoshutdown (s : Sys) (i : Nat) : Except Abort Sys :=
  s.withFctx i fun f => do
    let s := s.setFctx i { f with attributes := { f.attributes with shuttingdown := true } }
    if ¬(f.state = .active ∨ f.state = .done) ∨ ¬f.wantShutdown then throw .doshutdownState
    let s ← if f.state ≠ .done then do
        let s ← fctxStopeverything s i
        let s ← setState s i .done
        fctxSendevents s i .canceled
      else pure s
    if f.references = 0 ∧ f.pending = 0 ∧ f.validating = 0 then destroyAndEmpty s i else pure s

/-- `resquery_senddone`: a failed send cancels its query. -/
def resquerySenddone (s : Sys) (i q : Nat) (result : IscResult) : Except Abort Sys :=
  if result ≠ .success then fctxCancelquery s i q else .ok s

/-- `resquery_connected`. -/
def resqueryConnected (env : Env) (s : Sys) (i : Nat) (q : Query) (result : IscResult) :
    Except Abort Sys :=
  s.withFctx i fun f =>
    if !f.queries.any (·.id == q.id) then .ok s
    else if result ≠ .success ∨ env.queryFails.isSome then fctxCancelquery s i q.id
    else
      let upd (x : Query) : Query :=
        if x.id = q.id then { x with connecting := false, options := sendOptions env.addopt x } else x
      .ok { s.setFctx i { f with queries := f.queries.map upd } with
            owed := s.owed ++ [.send f.bucketnum i q.id] }

end DnsResolver
