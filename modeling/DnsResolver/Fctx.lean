import DnsResolver.Message
import DnsResolver.Address

/-! # Fetch contexts

`struct fetchctx`: the state of the resolution of one question. -/

namespace DnsResolver

inductive Fetchstate
  | init | active | done
  deriving DecidableEq, Repr

structure FctxAttrs where
  haveanswer : Bool := false
  gluing : Bool := false
  addrwait : Bool := false
  shuttingdown : Bool := false
  wantcache : Bool := false
  wantncache : Bool := false
  deriving DecidableEq, Repr

/-- The one-shot timer: inactive, or armed for the lifetime and, when `idle`, the interval. -/
inductive Timer
  | inactive
  | armed (idle : Bool)
  deriving DecidableEq, Repr

inductive Bound
  | positive (type : RdataType)
  | negative (covers : RdataType)
  deriving DecidableEq, Repr

/-- A `dns_fetchevent_t`. -/
structure Fetchevent where
  fetch : Nat
  task : Nat
  result : IscResult := .servfail
  /-- `event->db` is attached to the cache. -/
  db : Bool := false
  node : Option Name := none
  foundname : Option Name := none
  rdataset : Option Bound := none
  deriving DecidableEq, Repr

/-- A `resquery_t`: one query on the wire. -/
structure Query where
  id : Nat
  addrinfo : Addrinfo
  options : FetchOptions
  connecting : Bool := false
  deriving DecidableEq, Repr

structure Fctx where
  name : Name
  type : RdataType
  options : FetchOptions
  bucketnum : Nat
  state : Fetchstate := .init
  wantShutdown : Bool := false
  references : Nat := 0
  events : List Fetchevent := []
  domain : Name
  /-- The NS targets of `fctx->nameservers`, or `none` when it is disassociated. -/
  nameservers : Option (List Name)
  attributes : FctxAttrs := {}
  timer : Timer := .inactive
  /-- `fctx->interval`, in seconds. -/
  interval : Nat := 2
  queries : List Query := []
  finds : List Find := []
  find : FindPtr := none
  forwaddrs : List Addrinfo := []
  pending : Nat := 0
  validating : Nat := 0
  restarts : Nat := 0
  deriving DecidableEq, Repr

/-- The assertions of `resolver.c` a run can reach, by where they stand. -/
inductive Abort
  | startState | startEvents | destroy | doshutdownState | emptyBucket
  | tryAddrwait | tryAddress | sortFinds | nextaddressLoop | getaddressesLists
  | cleanupQueries | cancelqueryCanceled | finddonePending | sendeventsState
  | responseQr | sameQuestion | answerExternal | fullcompare | cacheChaining | nameservers
  | destroyfetchEvent | destroyfetchReferences | shutdownActive
  /-- A handler reaches an fctx that was already freed. -/
  | dangling
  deriving DecidableEq, Repr

/-! ## The retry interval -/

/-- `fctx_setretryinterval`: back-off from 2 s, at least twice the srtt, at most 30 s. -/
def retryInterval (restarts rtt : Nat) : Nat :=
  let seconds := if restarts < 3 then 2 else 2 <<< (restarts - 1)
  let rtt := rtt / 500000
  let seconds := if seconds < rtt then rtt else seconds
  if seconds > 30 then 30 else seconds

end DnsResolver
