import DnsResolver.Cache

/-! # The resolver and its buckets

`struct dns_resolver`, its bucket tasks, and the events the world owes; `trace` is ghost state. -/

namespace DnsResolver

inductive Fwdpolicy
  | none | first | only
  deriving DecidableEq, Repr

/-- What the resolver is configured with before it is frozen. -/
structure Config where
  nbuckets : Nat
  /-- `dns_name_hash`. -/
  hash : Name → Nat
  rdclass : Nat := 1
  fwdpolicy : Fwdpolicy := .none
  forwarders : List Nat := []

/-- What `dns_adb_createfind` gives for one nameserver name. -/
inductive FindAnswer
  | addresses (a : Addrinfo) (rest : List Addrinfo)
  /-- No address yet; the ADB will send an event. -/
  | wait
  /-- No address, and no event either. -/
  | nothing
  | fail (e : IscResult)
  deriving DecidableEq, Repr

/-- The answers of the world to one handler run. -/
structure Env where
  view : View
  findzonecut : Name → Option (Name × List Name)
  createfind : Name → FindAnswer
  findaddrinfo : Nat → Option Addrinfo
  /-- `none` when `fctx_query` gets every resource it asks for, else the error it returns. -/
  queryFails : Option IscResult := none
  /-- `fctx_addopt` succeeds. -/
  addopt : Bool := true

/-- An event on a bucket task's queue. -/
inductive TaskEvent
  | start (fctx : Nat)
  | doshutdown (fctx : Nat)
  | timeout (fctx : Nat) (life : Bool)
  | finddone (fctx : Nat) (more : Bool)
  | response (fctx query : Nat) (parse : IscResult) (msg : Message)
  | senddone (fctx query : Nat) (result : IscResult)
  | connected (fctx : Nat) (query : Query) (result : IscResult)
  deriving DecidableEq, Repr

def TaskEvent.fctx : TaskEvent → Nat
  | .start i | .doshutdown i | .timeout i _ | .finddone i _ | .response i _ _ _
  | .senddone i _ _ | .connected i _ _ => i

/-- An event the world owes to a bucket's task. -/
inductive Owed
  | find (bucket fctx : Nat)
  | send (bucket fctx query : Nat)
  | connect (bucket fctx : Nat) (query : Query)
  deriving DecidableEq, Repr

/-- What `resquery_response` keeps across the release of the bucket lock. -/
structure Resume where
  fctx : Nat
  query : Query
  keepTrying : Bool
  brokenServer : Bool
  getNameservers : Bool
  resend : Bool
  options : FetchOptions
  result : IscResult
  deriving DecidableEq, Repr

structure Bucket where
  fctxs : List Nat := []
  exiting : Bool := false
  queue : List TaskEvent := []
  /-- The task is in the middle of `resquery_response`. -/
  busy : Option Resume := none
  deriving DecidableEq, Repr

/-- An event sent to a caller's task. -/
inductive Delivery
  | fetchevents (fctx : Nat) (events : List Fetchevent)
  | canceled (event : Fetchevent)
  | shutdown (listener : Nat)
  deriving DecidableEq, Repr

inductive Trace
  | tried (fctx : Nat)
  | queried (fctx : Nat) (addrinfo : Addrinfo)
  deriving DecidableEq, Repr

structure Sys where
  fctxs : Nat → Option Fctx := fun _ => none
  /-- `fetch->private` of each live fetch. -/
  fetches : Nat → Option Nat := fun _ => none
  buckets : Nat → Bucket := fun _ => {}
  exiting : Bool := false
  activebuckets : Nat
  whenshutdown : List Nat := []
  /-- The next fresh address. -/
  nextId : Nat := 0
  owed : List Owed := []
  delivered : List Delivery := []
  cacheWrites : List CacheWrite := []
  trace : List Trace := []

/-- `dns_resolver_create`, frozen: every bucket empty and active. -/
def Sys.init (cfg : Config) : Sys := { activebuckets := cfg.nbuckets }

/-! ## Reading and writing the state -/

def Sys.setFctx (s : Sys) (i : Nat) (f : Fctx) : Sys :=
  { s with fctxs := Function.update s.fctxs i (some f) }

def Sys.setBucket (s : Sys) (b : Nat) (k : Bucket) : Sys :=
  { s with buckets := Function.update s.buckets b k }

/-- `isc_task_send` to bucket `b`'s task. -/
def Sys.post (s : Sys) (b : Nat) (e : TaskEvent) : Sys :=
  s.setBucket b { s.buckets b with queue := (s.buckets b).queue ++ [e] }

def Sys.purge (s : Sys) (b : Nat) (p : TaskEvent → Bool) : Sys :=
  s.setBucket b { s.buckets b with queue := (s.buckets b).queue.filter fun e => !p e }

def Sys.deliver (s : Sys) (d : Delivery) : Sys := { s with delivered := s.delivered ++ [d] }

def Sys.note (s : Sys) (t : Trace) : Sys := { s with trace := s.trace ++ [t] }

/-- Runs `k` on the fctx at `i`; a freed fctx is a dangling pointer. -/
def Sys.withFctx {α : Type} (s : Sys) (i : Nat) (k : Fctx → Except Abort α) : Except Abort α :=
  match s.fctxs i with
  | some f => k f
  | none => .error .dangling

end DnsResolver
