import Mathlib.Data.List.Infix

/-! # Names, types and result codes

A name is its labels, leaf first and already case-folded; the root is `[]`. -/

namespace DnsResolver

abbrev Name := List String

/-- `dns_name_issubdomain n d`: `n` is `d` or lies below it. -/
def issubdomain (n d : Name) : Prop := d <:+ n

instance (n d : Name) : Decidable (issubdomain n d) := inferInstanceAs (Decidable (d <:+ n))

@[simp] theorem issubdomain_refl (n : Name) : issubdomain n n := List.suffix_refl n

theorem issubdomain_trans {a b c : Name} (h₁ : issubdomain a b) (h₂ : issubdomain b c) :
    issubdomain a c := List.IsSuffix.trans h₂ h₁

def wireLength (n : Name) : Nat := n.foldr (fun l acc => l.length + 1 + acc) 1

/-- `dns_name_concatenate` into a fixed name: `NOSPACE` past 255 octets. -/
def concatenate (pre suf : Name) : Option Name :=
  if wireLength (pre ++ suf) ≤ 255 then some (pre ++ suf) else none

/-- The record types `resolver.c` and the additional-data methods name. -/
inductive RdataType
  | none | a | ns | cname | soa | nxt | sig | key | aaaa | a6 | dname | opt | any
  | mx | srv | kx | afsdb | rt | x25 | isdn
  | other (code : Nat)
  deriving DecidableEq, Repr

/-- The `isc_result_t` and `dns_result_t` codes the resolver produces or tests for. -/
inductive IscResult
  | success | nomore | nomemory | nospace | failure | canceled | shuttingdown | timedout
  | unexpected | formerr | unexpectedend | moredata | notimplemented | servfail | delegation
  | wait | cname | dname | ncachenxdomain | ncachenxrrset | unchanged
  | other (code : Nat)
  deriving DecidableEq, Repr

inductive Rcode
  | noerror | formerr | servfail | nxdomain | notimp | refused
  | other (code : Nat)
  deriving DecidableEq, Repr

inductive Opcode
  | query
  | other (code : Nat)
  deriving DecidableEq, Repr

/-- The `dns_trust_t` levels this file assigns. -/
inductive Trust
  | none | additional | glue | answer | authauthority | authanswer
  deriving DecidableEq, Repr

/-- The `DNS_FETCHOPT_*` bits of a fetch or a query. -/
structure FetchOptions where
  tcp : Bool := false
  unshared : Bool := false
  recursive : Bool := false
  noedns0 : Bool := false
  deriving DecidableEq, Repr

end DnsResolver
