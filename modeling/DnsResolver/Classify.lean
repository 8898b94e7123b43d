import DnsResolver.Fctx

/-! # Classifying a response

`answer_response`, `noanswer_response` and `check_related`; a `Stop` is a `return` from a loop. -/

namespace DnsResolver

inductive Stop
  | ret (r : IscResult)
  | abort (a : Abort)
  deriving DecidableEq, Repr

def Stop.exit {α : Type} (k : IscResult → α) : Stop → Except Abort α
  | .ret r => .ok (k r)
  | .abort a => .error a

/-! ## `check_related` -/

/-- `mark_related`. -/
def markRelated (external gluing : Bool) (r : Rdataset) : Rdataset :=
  { r with trust := if gluing then .glue else .additional,
           attributes := { r.attributes with cache := true,
                                             external := r.attributes.external || external } }

def isAddressType (t : RdataType) : Bool := t == .a || t == .aaaa || t == .a6

def relatedList (external gluing : Bool) (type : RdataType) (l : List Rdataset) :
    Option (List Rdataset) :=
  if type = .a then
    if l.any (isAddressType ·.rtype) then
      some (l.map fun r => if isAddressType r.rtype then markRelated external gluing r else r)
    else none
  else
    (updateFirst (isType type .none) (markRelated external gluing) l).map fun l =>
      (updateFirst (isType .sig type) (markRelated external gluing) l).getD l

def relatedName (domain : Name) (gluing : Bool) (type : RdataType) (n : MsgName) : MsgName :=
  match relatedList (!decide (issubdomain n.name domain)) gluing type n.list with
  | some l => { n with list := l, attributes := { n.attributes with cache := true } }
  | none => n

/-- `check_related`: marks the data for `addname` in the additional section. -/
def checkRelated (domain : Name) (gluing : Bool) (sec : List MsgName) (addname : Name)
    (type : RdataType) : List MsgName :=
  (updateFirst (·.name == addname) (relatedName domain gluing type) sec).getD sec

/-- `dns_rdataset_additionaldata(rdataset, check_related, fctx)`. -/
def markAdditional (f : Fctx) (r : Rdataset) (sec : List MsgName) : List MsgName :=
  (additionaldata r).foldl (fun sec nt => checkRelated f.domain f.attributes.gluing sec nt.1 nt.2) sec

/-! ## `noanswer_response` -/

structure NoanswerScan where
  negative : Bool
  /-- `ns_name` and `soa_name`, as positions in the authority section. -/
  nsName : Option Nat := none
  nsRdataset : Option Rdataset := none
  soaName : Option Nat := none
  deriving DecidableEq, Repr

/-- The rdataset loop of `noanswer_response` at the authority name in position `i`. -/
def noanswerRdatasets (aa : Bool) (i : Nat) :
    NoanswerScan → NameAttrs → List Rdataset → Except Stop (NoanswerScan × NameAttrs × List Rdataset)
  | st, na, [] => .ok (st, na, [])
  | st, na, r :: rs =>
    if r.type = .ns then
      if st.nsName.isSome ∧ st.nsName ≠ some i then .error (.ret .formerr) else
      let r' := { r with attributes := { r.attributes with cache := true }, trust := .glue }
      (noanswerRdatasets aa i { st with nsName := some i, nsRdataset := some r' }
        { na with cache := true } rs).map fun x => (x.1, x.2.1, r' :: x.2.2)
    else if r.type = .soa ∨ r.type = .nxt then
      if st.soaName.isSome ∧ st.soaName ≠ some i then .error (.ret .formerr) else
      let r' := { r with attributes := { r.attributes with ncache := true },
                         trust := if aa then .authauthority else .additional }
      (noanswerRdatasets aa i { st with soaName := some i, negative := true }
        { na with ncache := true } rs).map fun x => (x.1, x.2.1, r' :: x.2.2)
    else (noanswerRdatasets aa i st na rs).map fun x => (x.1, x.2.1, r :: x.2.2)

/-- One pass of the name loop of `noanswer_response`. -/
def noanswerName (domain : Name) (aa : Bool) (st : NoanswerScan) (n : MsgName) :
    Except Stop (NoanswerScan × MsgName) :=
  if issubdomain n.name domain then
    (noanswerRdatasets aa 0 st n.attributes n.list).map fun x =>
      (x.1, { n with attributes := x.2.1, list := x.2.2 })
  else .ok (st, n)

def uncacheNs (i : Nat) (m : Message) : Message :=
  { m with authority := m.authority.modify (fun n =>
      { n with attributes := { n.attributes with cache := false } }) i }

/-- What `noanswer_response` concludes once the authority section is read. -/
def noanswerFinish (f : Fctx) (m : Message) (oqname : Option Name) (st : NoanswerScan) :
    IscResult × Fctx × Message :=
  if !st.negative ∧ st.nsName = none then
    (if oqname.isSome then .success else .formerr, f, m)
  else if st.nsName.isSome ∧ st.soaName.isSome ∧ st.nsName ≠ st.soaName then (.formerr, f, m)
  else match st.nsName, st.nsRdataset, oqname with
    | some i, some nsr, none =>
      if st.negative then
        (.success, { f with attributes := { f.attributes with wantncache := true } }, uncacheNs i m)
      else
        -- A referral. The glue is marked under the old query domain, with GLUING set.
        let glued := { f with attributes := { f.attributes with gluing := true } }
        let m := { m with additional := markAdditional glued nsr m.additional }
        let owner := ((m.authority[i]?).map (·.name)).getD f.domain
        (.delegation, { f with domain := owner, nameservers := none,
                               attributes := { f.attributes with wantcache := true, gluing := false } }, m)
    | some i, _, _ =>
      (.success, if st.negative then { f with attributes := { f.attributes with wantncache := true } }
                 else f, uncacheNs i m)
    | none, _, _ =>
      (.success, if st.negative then { f with attributes := { f.attributes with wantncache := true } }
                 else f, m)

/-- The end of the first pass of the authority loop of `noanswer_response`. -/
def noanswerNext (f : Fctx) (m : Message) (oqname : Option Name) (st : NoanswerScan)
    (rest : List MsgName) : IscResult × Fctx × Message :=
  if rest = [] then noanswerFinish f m oqname st else (.success, f, m)

/-- `noanswer_response(fctx, oqname)`. -/
def noanswerResponse (f : Fctx) (m : Message) (oqname : Option Name) :
    Except Abort (IscResult × Fctx × Message) :=
  if oqname.any (fun q => !decide (issubdomain q f.domain)) then .ok (.success, f, m) else
  let aa := oqname.isNone && m.aa
  let st : NoanswerScan :=
    { negative := m.rcode = .nxdomain ∨ (m.counts.answer = 0 ∧ m.counts.authority = 0) }
  match m.authority with
  | [] => .ok (noanswerFinish f m oqname st)
  | n :: rest =>
    match noanswerName f.domain aa st n with
    | .error e => e.exit (·, f, m)
    | .ok (st, n) => .ok (noanswerNext f { m with authority := n :: rest } oqname st rest)

/-! ## `answer_response` -/

/-- `cname_target`. -/
def cnameTarget (r : Rdataset) : Except IscResult Name :=
  match r.rdata with
  | [] => .error .nomore
  | t :: _ => .ok t

/-- `dname_target`; `held` when `qname` lives in the fixedname it clears first. -/
def dnameTarget (r : Rdataset) (qname oname : Name) (held : Bool) : Except Stop Name :=
  match r.rdata with
  | [] => .error (.ret .nomore)
  | t :: _ =>
    if held then .error (.abort .fullcompare)
    else if issubdomain qname oname ∧ qname ≠ oname then
      match concatenate (qname.take (qname.length - oname.length)) t with
      | some d => .ok d
      | none => .error (.ret .nospace)
    else .error (.ret .formerr)

inductive Aflag
  | answer | answersig
  deriving DecidableEq, Repr

structure Found where
  aflag : Aflag
  done : Bool := false
  next : Option Name := none
  deriving DecidableEq, Repr

structure AnswerScan where
  done : Bool := false
  chaining : Bool := false
  haveAnswer : Bool := false
  haveSig : Bool := false
  wantChaining : Bool := false
  qname : Name
  /-- `qname` points at the fixedname `dname`, where `dname_target` left a DNAME's target. -/
  qnameHeld : Bool := false
  deriving DecidableEq, Repr

def qnameFound (type : RdataType) (r : Rdataset) : Except IscResult (Option Found) :=
  if r.type = type ∨ type = .any then .ok (some { aflag := .answer, done := true })
  else if r.type = .sig ∧ r.covers = type then .ok (some { aflag := .answersig })
  else if r.type = .cname then
    if type = .sig ∨ type = .key ∨ type = .nxt then .error .formerr
    else (cnameTarget r).map fun t => some { aflag := .answer, next := some t }
  else if r.type = .sig ∧ r.covers = .cname then .ok (some { aflag := .answersig })
  else .ok none

def dnameFound (chaining external held : Bool) (qname owner : Name) (r : Rdataset) :
    Except Stop (Option Found) :=
  if r.type = .dname then
    if !chaining && external then .error (.ret .formerr)
    else match dnameTarget r qname owner held with
      | .ok d => .ok (some { aflag := .answer, next := some d })
      | .error (.ret .nospace) => .ok (some { aflag := .answer })
      | .error e => .error e
  else if r.type = .sig ∧ r.covers = .dname then .ok (some { aflag := .answersig })
  else .ok none

/-- The marks `answer_response` makes on an rdataset it takes. -/
def takeRdataset (aa external atQname : Bool) (st : AnswerScan) (na : NameAttrs) (r : Rdataset)
    (fd : Found) : Except Stop (AnswerScan × NameAttrs × Rdataset) :=
  let na := { na with cache := true }
  let r := { r with attributes := { r.attributes with cache := true }, trust := .answer }
  let chain (st : AnswerScan) (r : Rdataset) : AnswerScan × Rdataset :=
    match fd.next with
    -- a CNAME's target is left in `tname`, a DNAME's in the fixedname `dname`
    | some q => ({ st with chaining := true, qname := q, qnameHeld := !atQname },
                 { r with attributes := { r.attributes with chaining := true } })
    | none => (st, r)
  if !st.chaining then
    if external then .error (.abort .answerExternal) else
    let st := if !atQname then st
      else if fd.aflag = .answer then { st with haveAnswer := true } else { st with haveSig := true }
    let r := { r with attributes := { r.attributes with answer := r.attributes.answer || fd.aflag = .answer,
                                                        answersig := r.attributes.answersig || fd.aflag = .answersig },
                      trust := if aa then .authanswer else r.trust }
    let x := chain st r
    .ok (x.1, { na with answer := true }, x.2)
  else
    let r := if external then { r with attributes := { r.attributes with external := true } } else r
    let x := chain st r
    .ok (x.1, na, x.2)

structure Pass where
  scan : AnswerScan
  attrs : NameAttrs
  additional : List MsgName
  list : List Rdataset

/-- The rdataset loop of `answer_response` at one owner name. -/
def answerRdatasets (f : Fctx) (aa external atQname : Bool) (owner : Name) :
    AnswerScan → NameAttrs → List MsgName → List Rdataset → Except Stop Pass
  | st, na, addl, [] => .ok ⟨st, na, addl, []⟩
  | st, na, addl, r :: rs =>
    let found := if atQname then (qnameFound f.type r).mapError .ret
      else dnameFound st.chaining external st.qnameHeld st.qname owner r
    match found with
    | .error e => .error e
    | .ok none =>
      (answerRdatasets f aa external atQname owner { st with wantChaining := false } na addl rs).map
        fun p => { p with list := r :: p.list }
    | .ok (some fd) =>
      let st := { st with wantChaining := fd.next.isSome, done := st.done || fd.done }
      match takeRdataset aa external atQname st na r fd with
      | .error e => .error e
      | .ok (st, na, r) =>
        let addl := if atQname then markAdditional f r addl else addl
        (answerRdatasets f aa external atQname owner st na addl rs).map
          fun p => { p with list := r :: p.list }

structure AnswerLoop where
  scan : AnswerScan
  answer : List MsgName
  additional : List MsgName
  /-- The `result` the loop ends with: `ISC_R_NOMORE` at the end of the section. -/
  exit : IscResult

/-- The name loop of `answer_response` over the answer section. -/
def answerNames (f : Fctx) (aa : Bool) : AnswerScan → List MsgName → List MsgName →
    Except Stop AnswerLoop
  | st, [], addl => .ok ⟨st, [], addl, .nomore⟩
  | st, n :: rest, addl =>
    let external := !decide (issubdomain n.name f.domain)
    match answerRdatasets f aa external (n.name = st.qname) n.name st n.attributes addl n.list with
    | .error e => .error e
    | .ok p =>
      let n := { n with attributes := p.attrs, list := p.list }
      if p.scan.done then .ok ⟨p.scan, n :: rest, p.additional, if rest = [] then .nomore else .success⟩
      else (answerNames f aa p.scan rest p.additional).map fun lp => { lp with answer := n :: lp.answer }

def authorityRdatasets (f : Fctx) (trust : Trust) :
    NameAttrs → List MsgName → List Rdataset → NameAttrs × List MsgName × List Rdataset
  | na, addl, [] => (na, addl, [])
  | na, addl, r :: rs =>
    if r.type = .ns ∨ (r.type = .sig ∧ r.covers = .ns) then
      let r' := { r with attributes := { r.attributes with cache := true }, trust := trust }
      let x := authorityRdatasets f trust { na with cache := true } (markAdditional f r' addl) rs
      (x.1, x.2.1, r' :: x.2.2)
    else
      let x := authorityRdatasets f trust na addl rs
      (x.1, x.2.1, r :: x.2.2)

/-- The authority loop of `answer_response`. -/
def answerAuthority (f : Fctx) (trust : Trust) :
    List MsgName → List MsgName → List MsgName × List MsgName
  | [], addl => ([], addl)
  | n :: rest, addl =>
    if issubdomain n.name f.domain then
      let x := authorityRdatasets f trust n.attributes addl n.list
      ({ n with attributes := x.1, list := x.2.2 } :: rest, x.2.1)
    else
      let x := answerAuthority f trust rest addl
      (n :: x.1, x.2)

/-- `answer_response`. -/
def answerResponse (f : Fctx) (m : Message) : Except Abort (IscResult × Fctx × Message) :=
  match answerNames f m.aa { qname := f.name } m.answer m.additional with
  | .error e => e.exit (·, f, m)
  | .ok lp =>
    let m := { m with answer := lp.answer, additional := lp.additional }
    if lp.exit ≠ .nomore then .ok (lp.exit, f, m)
    else if !lp.scan.haveAnswer then .ok (.formerr, f, m)
    else
      let f := { f with attributes := { f.attributes with wantcache := true } }
      if lp.scan.wantChaining then noanswerResponse f m (some lp.scan.qname)
      else if m.rcode ≠ .noerror then .ok (.formerr, f, m)
      else
        let trust := if m.aa ∧ !lp.scan.chaining then Trust.authauthority else .additional
        let x := answerAuthority f trust m.authority m.additional
        .ok (.success, f, { m with authority := x.1, additional := x.2 })

/-- `same_question`. -/
def sameQuestion (rdclass : Nat) (f : Fctx) (m : Message) : Except Abort IscResult :=
  if m.counts.question ≠ 1 then .ok .formerr
  else match m.question with
    | [] => .ok .nomore
    | n :: _ => match n.list with
      | [r] => .ok (if f.type ≠ r.type ∨ rdclass ≠ r.rdclass ∨ f.name ≠ n.name then .formerr
                    else .success)
      | _ => .error .sameQuestion

end DnsResolver
