import DnsResolver.Frame

/-! # Sharing a fetch context

Callers asking one question share one fctx, and three ways this goes wrong. -/

namespace DnsResolver

/-! ## Shutdown answers no waiter -/

/-- A shutdown before the start event makes `fctx_start` fail its events check. -/
theorem shutdown_before_start_fails :
    ∃ s a, Reachable oneBucket s ∧ enabled s a ∧ step oneBucket s a = .error .startEvents :=
  run_error_reachable [fetchA 7, .shutdown, .run 0 answering] .init (by rfl)

/-! ## Finding a match -/

def unfinished (s : Sys) (b : Nat) (name : Name) (type : RdataType) (options : FetchOptions) :
    List Nat :=
  (s.buckets b).fctxs.filter fun j =>
    ((s.fctxs j).map fun f => fctxMatch f name type options && f.state != .done).getD false

theorem fctxCreate_fresh {cfg : Config} {cenv : CreateEnv} {name : Name} {type : RdataType}
    {domain : Option (Name × List Name)} {options : FetchOptions} {b : Nat} {g : Fctx}
    (h : fctxCreate cfg cenv name type domain options b = .ok g) :
    g.state = .init ∧ fctxMatch g name type options ∧ g.bucketnum = b ∧ g.references = 0 ∧
      g.events = [] := by
  unfold fctxCreate at h
  split at h
  · cases h
  · obtain ⟨z, -, h⟩ := map_eq_ok.mp h
    cases h
    simp [fctxMatch]

/-- A finished fctx hides the live one, so two unfinished fctxs share one question. -/
theorem two_unfinished_for_one_question :
    ∃ s, Reachable oneBucket s ∧ 2 ≤ (unfinished s 0 aExampleCom .a {}).length :=
  reachable_of_run [fetchA 7, .run 0 answering,
    .respond 1 2 .success (reply .noerror [addressOfA] []), .run 0 answering, .run 0 answering,
    fetchA 8, fetchA 9] (by decide)

/-! ## A fetch with nothing to wake it -/

def hasWakeup (f : Fctx) : Bool :=
  !f.queries.isEmpty || f.timer != .inactive || (f.attributes.addrwait && 0 < f.pending) ||
    0 < f.validating

/-- The fctx at `i` runs, and nothing will wake it. -/
def stalled (s : Sys) (i : Nat) : Bool :=
  ((s.fctxs i).map fun f =>
    f.state == .active && !f.attributes.shuttingdown && !hasWakeup f &&
      s.owed.isEmpty && (s.buckets f.bucketnum).queue.isEmpty).getD false

def comCutTwo : CreateEnv := { findzonecut := .ok (com, [["ns1", "com"], ["ns2", "com"]]) }

def lookingUp : Env := { answering with createfind := fun _ => .wait }

/-- `fctx_finddone` drops the second ADB event once the first cleared `ADDRWAIT`. -/
theorem finddone_leaves_fetch_stalled : ∃ s, Reachable oneBucket s ∧ stalled s 1 :=
  reachable_of_run [.createfetch aExampleCom .a none {} 7 comCutTwo, .run 0 lookingUp,
    .complete 0 false .success, .run 0 lookingUp, .complete 0 true .success, .run 0 lookingUp]
    (by decide)

end DnsResolver
