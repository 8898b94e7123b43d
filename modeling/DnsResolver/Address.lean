import DnsResolver.Basic

/-! # Server addresses

The ADB's addrinfos, grouped in finds, as `sort_adbfind`, `sort_finds` and `fctx_nextaddress`
read them. -/

namespace DnsResolver

/-- The flags of an addrinfo: `FCTX_ADDRINFO_MARK`, `FCTX_ADDRINFO_FORWARDER`, `NOEDNS0`. -/
structure AddrFlags where
  mark : Bool := false
  forwarder : Bool := false
  noedns0 : Bool := false
  deriving DecidableEq, Repr

structure Addrinfo where
  sockaddr : Nat
  srtt : Nat
  flags : AddrFlags := {}
  deriving DecidableEq, Repr

structure Find where
  list : List Addrinfo
  deriving DecidableEq, Repr

def Addrinfo.marked (a : Addrinfo) : Addrinfo := { a with flags := { a.flags with mark := true } }

/-! ## Sorting -/

/-- The inner loop of `sort_adbfind` and `sort_finds`: the first strictly least element. -/
def scanBest {α : Type} (key : α → Nat) : Nat × α → Nat → List α → Nat × α
  | best, _, [] => best
  | best, curr, c :: cs => scanBest key (if key c < key best.2 then (curr, c) else best) (curr + 1) cs

/-- The outer loop of the two sorts: unlink the best element and append it to `sorted`. -/
def selectionSort {α : Type} (key : α → Nat) : Nat → List α → List α
  | 0, _ => []
  | _ + 1, [] => []
  | n + 1, b :: bs =>
    let best := scanBest key (0, b) 1 bs
    best.2 :: selectionSort key n ((b :: bs).eraseIdx best.1)

/-- `sort_adbfind`. -/
def sortAdbfind (find : Find) : Find :=
  { list := selectionSort Addrinfo.srtt find.list.length find.list }

def Find.headSrtt (f : Find) : Nat := (f.list.head?.map Addrinfo.srtt).getD 0

/-- `sort_finds`; `none` is the failed `INSIST` on a find without an address. -/
def sortFinds (finds : List Find) : Option (List Find) :=
  if finds.all (·.list ≠ []) then some (selectionSort Find.headSrtt finds.length finds) else none

/-! ## `fctx_nextaddress` -/

def markFirstUnmarked : List Addrinfo → Option (Addrinfo × List Addrinfo)
  | [] => none
  | a :: as =>
    if a.flags.mark then (markFirstUnmarked as).map fun r => (r.1, a :: r.2)
    else some (a.marked, a.marked :: as)

abbrev FindPtr := Option Nat

def listHead (finds : List Find) : FindPtr := if finds = [] then none else some 0

def listNext (finds : List Find) (i : Nat) : FindPtr := if i + 1 < finds.length then some (i + 1) else none

/-- The search loop of `fctx_nextaddress`, from `find` until it comes back to `cursor`. -/
def scanFinds (cursor : FindPtr) (finds : List Find) : Nat → FindPtr →
    Option (Option Addrinfo × List Find × FindPtr)
  | 0, _ => none
  | fuel + 1, find =>
    if find = cursor then some (none, finds, find)
    else match find with
      | none => none
      | some i => match finds[i]? with
        | none => none
        | some f => match markFirstUnmarked f.list with
          | some (a, list) => some (some a, finds.set i { list := list }, find)
          | none =>
            let nf := listNext finds i
            scanFinds cursor finds fuel (if nf ≠ cursor ∧ nf = none then listHead finds else nf)

def nextForwarder (forwaddrs : List Addrinfo) : Option (Addrinfo × List Addrinfo) :=
  markFirstUnmarked forwaddrs

/-- `fctx_nextaddress`: an unmarked forwarder, else the next unmarked address after `cursor`. -/
def fctxNextaddress (forwaddrs : List Addrinfo) (finds : List Find) (cursor : FindPtr) :
    Option (Option Addrinfo × List Addrinfo × List Find × FindPtr) :=
  match nextForwarder forwaddrs with
  | some (a, fw) => some (some a, fw, finds, none)
  | none =>
    let start := match cursor with
      | none => listHead finds
      | some i => match listNext finds i with
        | none => listHead finds
        | some j => some j
    (scanFinds cursor finds (finds.length + 1) start).map fun r => (r.1, forwaddrs, r.2.1, r.2.2)

end DnsResolver
