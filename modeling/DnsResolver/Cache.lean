import DnsResolver.Classify

/-! # Caching a response

`cache_message` and `ncache_message`, with the cache's verdicts given by the view. -/

namespace DnsResolver

inductive AddResult
  | success
  | unchanged (held : Bound)
  | fail (e : IscResult)
  deriving DecidableEq, Repr

/-- What the view gives the resolver: its security roots and its cache's verdicts. -/
structure View where
  secroots : List Name
  addrdataset : Name → Rdataset → AddResult
  ncacheAdd : Name → RdataType → AddResult

/-- A write to the cache: `dns_db_addrdataset` at an owner, or `dns_ncache_add`. -/
inductive CacheWrite
  | positive (owner : Name) (r : Rdataset)
  | negative (owner : Name) (covers : RdataType)
  deriving DecidableEq, Repr

/-- `clone_results`: every waiter after the first gets the first one's result and data. -/
def cloneResults (events : List Fetchevent) : List Fetchevent :=
  match events with
  | [] => []
  | h :: rest =>
    h :: rest.map fun e => { e with result := h.result, foundname := h.foundname, db := h.db,
                                    node := h.node, rdataset := h.rdataset.orElse fun _ => e.rdataset }

structure CacheScan where
  result : IscResult := .success
  eresult : IscResult := .success
  bound : Option Bound := none
  writes : List CacheWrite := []
  deriving DecidableEq, Repr

/-- The rdataset loop of `cache_name`. -/
def cacheRdatasets (v : View) (owner : Name) (validate slot : Bool) :
    CacheScan → List Rdataset → Except Abort CacheScan
  | st, [] => .ok st
  | st, r :: rs =>
    if !r.attributes.cache then cacheRdatasets v owner validate slot st rs
    else if validate ∧ r.trust ≠ .glue then
      if r.type = .sig then cacheRdatasets v owner validate slot st rs
      else cacheRdatasets v owner validate slot { st with result := .notimplemented } rs
    else if r.attributes.external then cacheRdatasets v owner validate slot st rs
    else
      let chained : Except Abort IscResult :=
        if !r.attributes.chaining then .ok st.eresult
        else if r.type = .cname then .ok .cname
        else if r.type = .dname then .ok .dname
        else .error .cacheChaining
      match chained with
      | .error a => .error a
      | .ok eresult =>
        let st := { st with eresult := eresult, writes := st.writes ++ [CacheWrite.positive owner r] }
        let answer := r.attributes.answer && slot
        match v.addrdataset owner r with
        | .success =>
          cacheRdatasets v owner validate slot
            { st with result := .success, bound := if answer then some (.positive r.type) else st.bound } rs
        | .unchanged held =>
          let eresult := match answer, held with
            | true, Bound.negative c => if c = .any then IscResult.ncachenxdomain else .ncachenxrrset
            | _, _ => st.eresult
          cacheRdatasets v owner validate slot
            { st with result := .success, eresult := eresult,
                      bound := if answer then some held else st.bound } rs
        | .fail e => .ok { st with result := e }

def bindAnswer (owner : Name) (eresult : IscResult) (events : List Fetchevent) : List Fetchevent :=
  match events with
  | [] => []
  | h :: rest => cloneResults ({ h with result := eresult, db := true, node := some owner } :: rest)

def fillHead (owner : Name) (bound : Option Bound) (events : List Fetchevent) : List Fetchevent :=
  match events with
  | [] => []
  | h :: rest => { h with foundname := some owner, rdataset := bound.orElse fun _ => h.rdataset } :: rest

/-- `cache_name`. -/
def cacheName (v : View) (f : Fctx) (n : MsgName) : Except Abort (IscResult × Fctx × List CacheWrite) :=
  let validate := v.secroots.any fun root => decide (issubdomain n.name root)
  let slot := n.attributes.answer && !f.events.isEmpty && f.type ≠ .any && f.type ≠ .sig
  (cacheRdatasets v n.name validate slot {} n.list).map fun st =>
    let events := if n.attributes.answer then fillHead n.name st.bound f.events else f.events
    if st.result = .success ∧ n.attributes.answer then
      (st.result, { f with attributes := { f.attributes with haveanswer := true },
                           events := bindAnswer n.name st.eresult events }, st.writes)
    else (st.result, { f with events := events }, st.writes)

/-- The name loop of `cache_message` over one section. -/
def cacheNames (v : View) : Fctx → List CacheWrite → List MsgName →
    Except Abort (IscResult × Fctx × List CacheWrite)
  | f, w, [] => .ok (.nomore, f, w)
  | f, w, n :: rest =>
    if !n.attributes.cache then cacheNames v f w rest else
    match cacheName v f n with
    | .error a => .error a
    | .ok (r, f, w') => if r = .success then cacheNames v f (w ++ w') rest else .ok (r, f, w ++ w')

def cacheSections (v : View) : Fctx → List CacheWrite → List (List MsgName) →
    Except Abort (IscResult × Fctx × List CacheWrite)
  | f, w, [] => .ok (.success, f, w)
  | f, w, sec :: secs =>
    match cacheNames v f w sec with
    | .error a => .error a
    | .ok (r, f, w) => if r = .nomore then cacheSections v f w secs else .ok (r, f, w)

/-- `cache_message`: the answer, authority and additional sections in turn. -/
def cacheMessage (v : View) (f : Fctx) (m : Message) : Except Abort (IscResult × Fctx × List CacheWrite) :=
  cacheSections v { f with attributes := { f.attributes with wantcache := false } } []
    [m.answer, m.authority, m.additional]

/-- `ncache_message`: one negative entry at the question name. -/
def ncacheMessage (v : View) (f : Fctx) (covers : RdataType) : IscResult × Fctx × List CacheWrite :=
  let f := { f with attributes := { f.attributes with wantncache := false } }
  let writes := [CacheWrite.negative f.name covers]
  let slot := !f.attributes.haveanswer && !f.events.isEmpty
  let fill (bound : Option Bound) : List Fetchevent :=
    if f.attributes.haveanswer then f.events else fillHead f.name bound f.events
  let bindNeg (eresult : IscResult) (bound : Option Bound) : Fctx :=
    if f.attributes.haveanswer then f
    else { f with attributes := { f.attributes with haveanswer := true },
                  events := bindAnswer f.name eresult (fill bound) }
  match v.ncacheAdd f.name covers with
  | .success =>
    (.success, bindNeg (if covers = .any then .ncachenxdomain else .ncachenxrrset)
      (if slot then some (.negative covers) else none), writes)
  | .unchanged held =>
    let eresult := match slot, held with
      | true, Bound.negative c => if c = .any then IscResult.ncachenxdomain else .ncachenxrrset
      | _, _ => .success
    (.success, bindNeg eresult (if slot then some held else none), writes)
  | .fail e => (e, { f with events := fill none }, writes)

end DnsResolver
