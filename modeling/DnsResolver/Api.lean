import DnsResolver.Response

/-! # The resolver's callers and its runs

The caller's functions of `resolver.c`, and `step`, `enabled` and `Reachable`. -/

namespace DnsResolver

/-! ## Creating and joining -/

/-- The answers of the world to one `dns_resolver_createfetch`. -/
structure CreateEnv where
  /-- `dns_view_findzonecut` for the question name. -/
  findzonecut : Except IscResult (Name × List Name) := .error .notimplemented
  /-- An allocation of `fctx_create` fails, with this code. -/
  createFails : Option IscResult := none
  /-- The fetch, and the event of `fctx_join`, are allocated. -/
  fetchAlloc : Bool := true
  joinAlloc : Bool := true

/-- `fctx_match`. -/
def fctxMatch (f : Fctx) (name : Name) (type : RdataType) (options : FetchOptions) : Bool :=
  f.type == type && f.options == options && f.name == name

/-- The search loop of `dns_resolver_createfetch` over the bucket's list. -/
def findMatch (s : Sys) (l : List Nat) (name : Name) (type : RdataType) (options : FetchOptions) :
    Option Nat :=
  l.find? fun j => ((s.fctxs j).map fun f => fctxMatch f name type options).getD false

/-- The query domain `fctx_create` starts from. -/
def startingCut (cfg : Config) (cenv : CreateEnv) :
    Option (Name × List Name) → Except IscResult (Name × Option (List Name))
  | some (d, ns) => .ok (d, some ns)
  | none => if cfg.fwdpolicy ≠ .only then cenv.findzonecut.map fun z => (z.1, some z.2)
            else .ok ([], none)

/-- `fctx_create`: a new fctx in `init`. -/
def fctxCreate (cfg : Config) (cenv : CreateEnv) (name : Name) (type : RdataType)
    (domain : Option (Name × List Name)) (options : FetchOptions) (b : Nat) : Except IscResult Fctx :=
  match cenv.createFails with
  | some e => .error e
  | none => (startingCut cfg cenv domain).map fun z =>
    { name, type, options, bucketnum := b, domain := z.1, nameservers := z.2 }

/-- `fctx_join`: one more reference, and the caller's event. -/
def fctxJoin (s : Sys) (j fetch task : Nat) : Except Abort Sys :=
  s.withFctx j fun f =>
    .ok { s.setFctx j { f with events := f.events ++ [{ fetch, task }], references := f.references + 1 }
          with fetches := Function.update s.fetches fetch (some j) }

/-- `dns_resolver_createfetch`. -/
def createfetch (cfg : Config) (cenv : CreateEnv) (s : Sys) (name : Name) (type : RdataType)
    (domain : Option (Name × List Name)) (options : FetchOptions) (task : Nat) :
    Except Abort (IscResult × Sys) :=
  if !cenv.fetchAlloc then .ok (.nomemory, s) else
  let fetch := s.nextId
  let s := { s with nextId := s.nextId + 1 }
  let b := cfg.hash name % cfg.nbuckets
  if (s.buckets b).exiting then .ok (.shuttingdown, s) else
  let found := if options.unshared then none else findMatch s (s.buckets b).fctxs name type options
  let live := found.bind fun j => (s.fctxs j).bind fun f => if f.state = .done then none else some j
  match live with
  | some j => if cenv.joinAlloc then (fctxJoin s j fetch task).map (.success, ·) else .ok (.nomemory, s)
  | none =>
    match fctxCreate cfg cenv name type domain options b with
    | .error e => .ok (e, s)
    | .ok f =>
      let j := s.nextId
      let s := { s.setFctx j f with nextId := s.nextId + 1 }
      let s := s.setBucket b { s.buckets b with fctxs := (s.buckets b).fctxs ++ [j] }
      if cenv.joinAlloc then
        (fctxJoin s j fetch task).map fun s => (.success, s.post b (.start j))
      else (fctxDestroy s j).map fun r => (.nomemory, r.2)

/-! ## Canceling and destroying -/

/-- `dns_resolver_cancelfetch`. -/
def cancelfetch (s : Sys) (fetch : Nat) : Except Abort Sys :=
  match s.fetches fetch with
  | none => .error .dangling
  | some j => s.withFctx j fun f =>
    if f.state = .done then .ok s else
    match f.events.find? (·.fetch == fetch) with
    | none => .ok s
    | some e => .ok ((s.setFctx j { f with events := f.events.eraseP (·.fetch == fetch) }).deliver
        (.canceled { e with result := .canceled }))

/-- `dns_resolver_destroyfetch`. -/
def destroyfetch (s : Sys) (fetch : Nat) : Except Abort Sys :=
  match s.fetches fetch with
  | none => .error .dangling
  | some j => s.withFctx j fun f => do
    if f.state ≠ .done ∧ f.events.any (·.fetch == fetch) then throw .destroyfetchEvent
    if f.references = 0 then throw .destroyfetchReferences
    let f := { f with references := f.references - 1 }
    let s := { s.setFctx j f with fetches := Function.update s.fetches fetch none }
    if f.references ≠ 0 then return s
    if f.pending = 0 ∧ f.validating = 0 ∧ f.attributes.shuttingdown then destroyAndEmpty s j
    else fctxShutdown s j

/-! ## Shutting down -/

def shutdownEach : Sys → List Nat → Except Abort Sys
  | s, [] => .ok s
  | s, j :: js => do shutdownEach (← fctxShutdown s j) js

/-- One bucket of `dns_resolver_shutdown`. -/
def shutdownBucket (s : Sys) (b : Nat) : Except Abort Sys := do
  let s ← shutdownEach s (s.buckets b).fctxs
  let s := s.setBucket b { s.buckets b with exiting := true }
  if (s.buckets b).fctxs ≠ [] then return s
  if s.activebuckets = 0 then throw .shutdownActive
  return { s with activebuckets := s.activebuckets - 1 }

def shutdownBuckets : Sys → List Nat → Except Abort Sys
  | s, [] => .ok s
  | s, b :: bs => do shutdownBuckets (← shutdownBucket s b) bs

/-- `dns_resolver_shutdown`. -/
def shutdown (cfg : Config) (s : Sys) : Except Abort Sys :=
  if s.exiting then .ok s else do
  let s ← shutdownBuckets { s with exiting := true } (List.range cfg.nbuckets)
  return if s.activebuckets = 0 then sendShutdownEvents s else s

/-- `dns_resolver_whenshutdown`. -/
def whenshutdown (s : Sys) (listener : Nat) : Sys :=
  if s.exiting ∧ s.activebuckets = 0 then s.deliver (.shutdown listener)
  else { s with whenshutdown := s.whenshutdown ++ [listener] }

/-! ## Runs -/

/-- What a bucket task does with an event. -/
def dispatch (cfg : Config) (env : Env) (s : Sys) : TaskEvent → Except Abort Sys
  | .start i => fctxStart cfg env s i
  | .doshutdown i => fctxDoshutdown s i
  | .timeout i life => fctxTimeout cfg env s i life
  | .finddone i more => fctxFinddone cfg env s i more
  | .response i q parse m => resqueryResponse cfg env s i q parse m
  | .senddone i q result => resquerySenddone s i q result
  | .connected i q result => resqueryConnected env s i q result

inductive Action
  | createfetch (name : Name) (type : RdataType) (domain : Option (Name × List Name))
      (options : FetchOptions) (task : Nat) (env : CreateEnv)
  | cancelfetch (fetch : Nat)
  | destroyfetch (fetch : Nat)
  | shutdown
  | whenshutdown (listener : Nat)
  /-- The timer manager posts an fctx's timer event: the lifetime, or the idle interval. -/
  | fire (fctx : Nat) (life : Bool)
  /-- The world posts the `k`-th event it owes; an ADB find says whether more addresses came. -/
  | complete (k : Nat) (more : Bool) (result : IscResult)
  /-- The dispatcher posts a response to a query. -/
  | respond (fctx query : Nat) (parse : IscResult) (msg : Message)
  /-- Bucket `b`'s task runs: the rest of `resquery_response`, or its next event. -/
  | run (b : Nat) (env : Env)

def Owed.event (more : Bool) (result : IscResult) : Owed → Nat × TaskEvent
  | .find b i => (b, .finddone i more)
  | .send b i q => (b, .senddone i q result)
  | .connect b i q => (b, .connected i q result)

def step (cfg : Config) (s : Sys) : Action → Except Abort Sys
  | .createfetch name type domain options task cenv =>
    (createfetch cfg cenv s name type domain options task).map (·.2)
  | .cancelfetch fetch => cancelfetch s fetch
  | .destroyfetch fetch => destroyfetch s fetch
  | .shutdown => shutdown cfg s
  | .whenshutdown l => .ok (whenshutdown s l)
  | .fire i life => s.withFctx i fun f =>
    .ok ((s.setFctx i { f with timer := .inactive }).post f.bucketnum (.timeout i life))
  | .complete k more result =>
    match s.owed[k]? with
    | none => .ok s
    | some o =>
      let (b, e) := o.event more result
      .ok ({ s with owed := s.owed.eraseIdx k }.post b e)
  | .respond i q parse m => s.withFctx i fun f => .ok (s.post f.bucketnum (.response i q parse m))
  | .run b env =>
    match (s.buckets b).busy, (s.buckets b).queue with
    | some r, _ => resqueryFinish cfg env (s.setBucket b { s.buckets b with busy := none }) r
    | none, e :: rest => dispatch cfg env (s.setBucket b { s.buckets b with queue := rest }) e
    | none, [] => .ok s

/-- What callers and the world promise before an action may run. -/
def enabled (s : Sys) : Action → Bool
  | .cancelfetch fetch => (s.fetches fetch).isSome
  | .destroyfetch fetch =>
    match s.fetches fetch with
    | some j => ((s.fctxs j).map fun f => f.events.all (·.fetch != fetch)).getD false
    | none => false
  | .fire i life =>
    ((s.fctxs i).map fun f => f.timer == .armed true || (life && f.timer == .armed false)).getD false
  | .complete k _ _ => k < s.owed.length
  | .respond i q _ _ =>
    ((s.fctxs i).map fun f => f.queries.any (fun x => x.id == q && !x.connecting) &&
      (s.buckets f.bucketnum).queue.all (!isResponseOf i q ·)).getD false
  | .run b _ => (s.buckets b).busy.isSome || !(s.buckets b).queue.isEmpty
  | _ => true

inductive Reachable (cfg : Config) : Sys → Prop
  | init : Reachable cfg (Sys.init cfg)
  | step {s s' : Sys} (a : Action) : Reachable cfg s → enabled s a → step cfg s a = .ok s' →
      Reachable cfg s'

def run (cfg : Config) (s : Sys) : List Action → Option (Except Abort Sys)
  | [] => some (.ok s)
  | a :: as =>
    if enabled s a then
      match step cfg s a with
      | .ok s' => run cfg s' as
      | .error e => some (.error e)
    else none

end DnsResolver
