import DnsResolver.Run

/-! # Reading the updates back

Inversion lemmas for the `Except` chains of the handlers. -/

namespace DnsResolver

attribute [simp] Sys.setFctx Sys.setBucket Sys.post Sys.purge Sys.deliver Sys.note

/-! ## `Except` chains -/

section
variable {ε α β : Type} {x : Except ε α} {k : α → Except ε β} {g : α → β} {b : β}

theorem bind_eq_ok : x >>= k = .ok b ↔ ∃ a, x = .ok a ∧ k a = .ok b := by
  cases x <;> simp [bind, Except.bind]

theorem map_eq_ok : x.map g = .ok b ↔ ∃ a, x = .ok a ∧ g a = b := by
  cases x <;> simp [Except.map]

end

theorem Stop.exit_eq_ok {α : Type} {k : IscResult → α} {e : Stop} {x : α} (h : e.exit k = .ok x) :
    ∃ r, e = .ret r ∧ k r = x := by
  cases e with
  | ret r => exact ⟨r, rfl, Except.ok.inj h⟩
  | abort a => cases h

theorem withFctx_eq_ok {α : Type} {s : Sys} {i : Nat} {k : Fctx → Except Abort α} {r : α} :
    s.withFctx i k = .ok r ↔ ∃ f, s.fctxs i = some f ∧ k f = .ok r := by
  unfold Sys.withFctx
  split <;> simp_all

theorem withFctx_of_some {α : Type} {s : Sys} {i : Nat} {f : Fctx} {k : Fctx → Except Abort α}
    (h : s.fctxs i = some f) : s.withFctx i k = k f := by
  simp [Sys.withFctx, h]

/-! ## The classification -/

theorem classifyVerdict_cases {cfg : Config} {v : View} {f f' : Fctx} {q : Query} {m : Message}
    {vd : Verdict} {w : List CacheWrite} (h : classifyVerdict cfg v f q m = .ok (vd, f', w)) :
    (f' = f ∧ w = []) ∨ ∃ r f₁ m₁ getNs,
      (answerResponse f m = .ok (r, f₁, m₁) ∨ noanswerResponse f m none = .ok (r, f₁, m₁)) ∧
      ((f' = f₁ ∧ w = []) ∨ cacheVerdict v q getNs f₁ m₁ = .ok (vd, f', w)) := by
  unfold classifyVerdict at h
  split at h
  · cases h
  split at h
  · cases h; exact .inl ⟨rfl, rfl⟩
  split at h
  · split at h
    · cases h
    · rename_i h₁
      split at h
      · cases h; exact .inr ⟨_, _, _, false, .inl h₁, .inl ⟨rfl, rfl⟩⟩
      · exact .inr ⟨_, _, _, false, .inl h₁, .inr h⟩
  split at h
  · split at h
    · cases h
    · rename_i h₁
      split at h
      · exact .inr ⟨_, _, _, true, .inr h₁, .inr h⟩
      split at h
      · cases h; exact .inr ⟨_, _, _, false, .inr h₁, .inl ⟨rfl, rfl⟩⟩
      · exact .inr ⟨_, _, _, false, .inr h₁, .inr h⟩
  · cases h; exact .inl ⟨rfl, rfl⟩

end DnsResolver
