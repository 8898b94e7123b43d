import DnsResolver.Api

/-! # Runs

A run reaches only reachable states; a small world for the concrete runs. -/

namespace DnsResolver

variable {cfg : Config}

theorem run_ok_reachable {s s' : Sys} {as : List Action} (hs : Reachable cfg s)
    (h : run cfg s as = some (.ok s')) : Reachable cfg s' := by
  induction as generalizing s with
  | nil => cases h; exact hs
  | cons a as ih =>
    simp only [run] at h
    split at h
    · split at h
      · exact ih (.step a hs ‹_› ‹_›) h
      · cases h
    · cases h

theorem run_error_reachable {s : Sys} (as : List Action) {e : Abort} (hs : Reachable cfg s)
    (h : run cfg s as = some (.error e)) :
    ∃ t a, Reachable cfg t ∧ enabled t a ∧ step cfg t a = .error e := by
  induction as generalizing s with
  | nil => cases h
  | cons a as ih =>
    simp only [run] at h
    split at h
    · split at h
      · exact ih (.step a hs ‹_› ‹_›) h
      · cases h; exact ⟨s, a, hs, ‹_›, ‹_›⟩
    · cases h

def endsIn (p : Sys → Prop) [DecidablePred p] : Option (Except Abort Sys) → Bool
  | some (.ok s) => decide (p s)
  | _ => false

theorem reachable_of_run (as : List Action) {p : Sys → Prop} [DecidablePred p]
    (h : endsIn p (run cfg (Sys.init cfg) as)) : ∃ s, Reachable cfg s ∧ p s := by
  unfold endsIn at h
  split at h
  · exact ⟨_, run_ok_reachable .init ‹_›, of_decide_eq_true h⟩
  · cases h

/-! ## A small world -/

def oneBucket : Config := { nbuckets := 1, hash := fun _ => 0 }

def com : Name := ["com"]

def aExampleCom : Name := ["a", "example", "com"]

def comCut : CreateEnv := { findzonecut := .ok (com, [["ns", "com"]]) }

def acceptAll : View :=
  { secroots := [], addrdataset := fun _ _ => .success, ncacheAdd := fun _ _ => .success }

/-- The ADB knows one address for every name, and each domain is its own zone cut. -/
def answering : Env :=
  { view := acceptAll, findzonecut := fun d => some (d, [["ns"] ++ d]),
    createfind := fun _ => .addresses { sockaddr := 1, srtt := 0 } [], findaddrinfo := fun _ => none }

/-- A caller's fetch of `a.example.com`/A; the first is fetch 0 of fctx 1, with query 2. -/
def fetchA (task : Nat) : Action := .createfetch aExampleCom .a none {} task comCut

def reply (rcode : Rcode) (answer authority : List MsgName) : Message :=
  { rcode := rcode, answer := answer, authority := authority,
    counts := { question := 1, answer := answer.length, authority := authority.length },
    question := [{ name := aExampleCom, list := [{ type := .a }] }] }

def addressOfA : MsgName := { name := aExampleCom, list := [{ type := .a }] }

end DnsResolver
