import DnsResolver.System

/-! # Fetch context operations

The helpers of `resolver.c` that act on one fctx. -/

namespace DnsResolver

def isTimeoutOf (i : Nat) : TaskEvent → Bool
  | .timeout j _ => j == i
  | _ => false

def isResponseOf (i q : Nat) : TaskEvent → Bool
  | .response j r _ _ => j == i && r == q
  | _ => false

/-- `fctx_stoptimer`: inactive, and its queued events purged. -/
def fctxStoptimer (s : Sys) (i : Nat) : Except Abort Sys :=
  s.withFctx i fun f =>
    .ok ((s.setFctx i { f with timer := .inactive }).purge f.bucketnum (isTimeoutOf i))

/-- `fctx_cancelquery`. -/
def fctxCancelquery (s : Sys) (i q : Nat) : Except Abort Sys :=
  s.withFctx i fun f =>
    if f.queries.any (·.id == q) then
      .ok ((s.setFctx i { f with queries := f.queries.filter (·.id != q) }).purge f.bucketnum
        (isResponseOf i q))
    else .error .cancelqueryCanceled

def cancelEach (i : Nat) : Sys → List Query → Except Abort Sys
  | s, [] => .ok s
  | s, q :: qs => do cancelEach i (← fctxCancelquery s i q.id) qs

/-- `fctx_cancelqueries`. -/
def fctxCancelqueries (s : Sys) (i : Nat) : Except Abort Sys :=
  s.withFctx i fun f => cancelEach i s f.queries

/-- `fctx_cleanupfinds`. -/
def fctxCleanupfinds (s : Sys) (i : Nat) : Except Abort Sys :=
  s.withFctx i fun f =>
    if f.queries = [] then .ok (s.setFctx i { f with finds := [], find := none })
    else .error .cleanupQueries

/-- `fctx_cleanupforwaddrs`. -/
def fctxCleanupforwaddrs (s : Sys) (i : Nat) : Except Abort Sys :=
  s.withFctx i fun f =>
    if f.queries = [] then .ok (s.setFctx i { f with forwaddrs := [] }) else .error .cleanupQueries

/-- `fctx_stopeverything`. -/
def fctxStopeverything (s : Sys) (i : Nat) : Except Abort Sys := do
  let s ← fctxCancelqueries s i
  let s ← fctxCleanupfinds s i
  let s ← fctxCleanupforwaddrs s i
  fctxStoptimer s i

/-- `fctx_sendevents`: each waiter gets `result`, unless the fctx has the answer. -/
def fctxSendevents (s : Sys) (i : Nat) (result : IscResult) : Except Abort Sys :=
  s.withFctx i fun f =>
    if f.state ≠ .done then .error .sendeventsState else
    let evs := f.events.map fun e => if f.attributes.haveanswer then e else { e with result := result }
    .ok ((s.setFctx i { f with events := [] }).deliver (.fetchevents i evs))

def setState (s : Sys) (i : Nat) (st : Fetchstate) : Except Abort Sys :=
  s.withFctx i fun f => .ok (s.setFctx i { f with state := st })

/-- `fctx_done`. -/
def fctxDone (s : Sys) (i : Nat) (result : IscResult) : Except Abort Sys := do
  let s ← fctxStopeverything s i
  let s ← setState s i .done
  fctxSendevents s i result

/-- `fctx_destroy`, with its `REQUIRE`s. -/
def fctxDestroy (s : Sys) (i : Nat) : Except Abort (Bool × Sys) :=
  s.withFctx i fun f =>
    if (f.state = .done ∨ f.state = .init) ∧ f.events = [] ∧ f.queries = [] ∧ f.finds = [] ∧
        f.pending = 0 ∧ f.validating = 0 ∧ f.references = 0 then
      let b := s.buckets f.bucketnum
      let s := (s.setBucket f.bucketnum { b with fctxs := b.fctxs.erase i }).purge f.bucketnum
        (isTimeoutOf i)
      .ok (b.exiting && (b.fctxs.erase i).isEmpty, { s with fctxs := Function.update s.fctxs i none })
    else .error .destroy

/-- `send_shutdown_events`. -/
def sendShutdownEvents (s : Sys) : Sys :=
  { s with whenshutdown := [], delivered := s.delivered ++ s.whenshutdown.map .shutdown }

/-- `empty_bucket`. -/
def emptyBucket (s : Sys) : Except Abort Sys :=
  if s.activebuckets = 0 then .error .emptyBucket else
  let s := { s with activebuckets := s.activebuckets - 1 }
  .ok (if s.activebuckets = 0 then sendShutdownEvents s else s)

/-- `fctx_destroy`, then `empty_bucket` when that emptied an exiting bucket. -/
def destroyAndEmpty (s : Sys) (i : Nat) : Except Abort Sys := do
  let (empty, s) ← fctxDestroy s i
  if empty then emptyBucket s else pure s

/-- `fctx_shutdown`: once only. -/
def fctxShutdown (s : Sys) (i : Nat) : Except Abort Sys :=
  s.withFctx i fun f =>
    if f.wantShutdown then .ok s else
    let s := s.setFctx i { f with wantShutdown := true }
    .ok (if f.state ≠ .init then s.post f.bucketnum (.doshutdown i) else s)

end DnsResolver
