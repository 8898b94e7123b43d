import DnsResolver.Basic

/-! # Messages

A response as `resolver.c` reads it through `dns/message.h`. -/

namespace DnsResolver

structure RdatasetAttrs where
  cache : Bool := false
  answer : Bool := false
  answersig : Bool := false
  external : Bool := false
  chaining : Bool := false
  ncache : Bool := false
  deriving DecidableEq, Repr

structure Rdataset where
  type : RdataType
  covers : RdataType := .none
  rdclass : Nat := 1
  /-- The name each record carries: the target of an NS, MX, SRV, KX, AFSDB, RT, CNAME or DNAME. -/
  rdata : List Name := []
  attributes : RdatasetAttrs := {}
  trust : Trust := .none
  deriving DecidableEq, Repr

structure NameAttrs where
  cache : Bool := false
  answer : Bool := false
  ncache : Bool := false
  deriving DecidableEq, Repr

/-- An owner name of a section, with its rdatasets (`name->list`). -/
structure MsgName where
  name : Name
  attributes : NameAttrs := {}
  list : List Rdataset
  deriving DecidableEq, Repr

structure Counts where
  question : Nat := 0
  answer : Nat := 0
  authority : Nat := 0
  additional : Nat := 0
  deriving DecidableEq, Repr

structure Message where
  aa : Bool := false
  tc : Bool := false
  qr : Bool := true
  opcode : Opcode := .query
  rcode : Rcode := .noerror
  counts : Counts := {}
  /-- `message->question_ok`: the parser got through the question section. -/
  questionOk : Bool := true
  question : List MsgName := []
  answer : List MsgName := []
  authority : List MsgName := []
  additional : List MsgName := []
  deriving DecidableEq, Repr

/-! ## Parsing -/

def Rdataset.parsed (r : Rdataset) : Rdataset := { r with attributes := {}, trust := .none }

def MsgName.parsed (n : MsgName) : MsgName :=
  { n with attributes := {}, list := n.list.map Rdataset.parsed }

def Message.parsed (m : Message) : Message :=
  { m with question := m.question.map MsgName.parsed, answer := m.answer.map MsgName.parsed,
           authority := m.authority.map MsgName.parsed,
           additional := m.additional.map MsgName.parsed }

/-! ## Lookups -/

/-- `dns_message_findtype`: the first rdataset of `type` covering `covers`. -/
def isType (type covers : RdataType) (r : Rdataset) : Bool := r.type == type && r.covers == covers

def updateFirst {α : Type} (p : α → Bool) (f : α → α) : List α → Option (List α)
  | [] => none
  | a :: as => if p a then some (f a :: as) else (updateFirst p f as).map (a :: ·)

def Rdataset.rtype (r : Rdataset) : RdataType := if r.type = .sig then r.covers else r.type

/-- The types each rdata type's `additionaldata` method asks for at its record's name. -/
def additionalTypes : RdataType → List RdataType
  | .ns | .mx | .srv | .kx | .afsdb => [.a]
  | .rt => [.x25, .isdn, .a]
  | _ => []

/-- What `dns_rdataset_additionaldata` hands to its callback, record by record. -/
def additionaldata (r : Rdataset) : List (Name × RdataType) :=
  r.rdata.flatMap fun n => (additionalTypes r.type).map (n, ·)

end DnsResolver
