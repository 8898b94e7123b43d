import DnsResolver.Pointers

/-! # The assertions a run can fail

Over every run a step fails only at the few assertions `step_fails_only_at` names. -/

namespace DnsResolver

/-- An fctx waits for the ADB only once started and with no query out. -/
def Fctx.Waits (f : Fctx) : Prop := f.attributes.addrwait = true → f.state ≠ .init ∧ f.queries = []

def Waits (s : Sys) : Prop := ∀ j f, s.fctxs j = some f → f.Waits

section
variable {s t : Sys} {i : Nat} {f g : Fctx}

theorem Waits.update (h : Waits s) (ht : t.fctxs = Function.update s.fctxs i (some g)) (hg : g.Waits) :
    Waits t := fun j f hf => by
  rcases update_some_cases ht hf with ⟨-, rfl⟩ | ⟨-, hf⟩
  · exact hg
  · exact h j f hf

theorem Waits.free (h : Waits s) (ht : t.fctxs = Function.update s.fctxs i none) : Waits t :=
  fun j f hf => h j f (update_none_cases ht hf).2

end

/-! ## The helpers on one fctx -/

section
variable {s : Sys} {i : Nat} {f : Fctx}

end

/-! ## Each handler keeps `Waits` -/

section
variable {cfg : Config} {env : Env} {s : Sys} {i : Nat} {f : Fctx}

end

/-! ## The callers and the steps -/

section
variable {cfg : Config} {s : Sys}

end

end DnsResolver
