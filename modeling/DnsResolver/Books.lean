import DnsResolver.Bailiwick

/-! # The books of the resolver

`Sound`, what holds of the bookkeeping in every state a run reaches, and one lemma per helper. -/

namespace DnsResolver

/-! ## The books -/

def Fctx.Open (f : Fctx) : Prop := f.queries ≠ [] ∨ f.finds ≠ [] ∨ f.forwaddrs ≠ []

/-- Between one and ten rounds of `fctx_getaddresses`. -/
def Fctx.Capped (f : Fctx) : Prop := 1 ≤ f.restarts ∧ f.restarts ≤ 10

def Bucket.done (k : Bucket) : Bool := k.exiting && k.fctxs.isEmpty

def exitedBuckets (cfg : Config) (s : Sys) : Nat :=
  (List.range cfg.nbuckets).countP fun b => (s.buckets b).done

def Sys.told (s : Sys) : List Nat := s.delivered.filterMap fun | .shutdown l => some l | _ => none

structure Books (cfg : Config) (s : Sys) : Prop where
  fresh : ∀ j, s.nextId ≤ j → s.fctxs j = none
  capped : ∀ i f, s.fctxs i = some f → f.Open → f.Capped
  listed : ∀ i f, s.fctxs i = some f → i ∈ (s.buckets f.bucketnum).fctxs
  exiting : ∀ b, (s.buckets b).exiting → s.exiting ∧ b < cfg.nbuckets
  count : s.activebuckets + exitedBuckets cfg s = cfg.nbuckets

structure Sound (cfg : Config) (s : Sys) extends Books cfg s : Prop where
  waiting : s.whenshutdown ≠ [] → ¬(s.exiting ∧ s.activebuckets = 0)

/-- What a step may do to the books: domains narrow, addresses are fresh, buckets exit. -/
structure Moves (s s' : Sys) : Prop where
  domain : ∀ i f f', s.fctxs i = some f → s'.fctxs i = some f' → issubdomain f'.domain f.domain
  born : ∀ i f', s'.fctxs i = some f' → s.fctxs i = none → s.nextId ≤ i
  nextId : s.nextId ≤ s'.nextId
  active : s'.activebuckets ≤ s.activebuckets
  exiting : s.exiting → s'.exiting
  told : s'.told ++ s'.whenshutdown = s.told ++ s.whenshutdown
  late : s'.told ≠ s.told → s'.exiting ∧ s'.activebuckets = 0
  trace : s.trace <+: s'.trace

section
variable {cfg : Config} {s t u : Sys} {i : Nat} {f f' : Fctx}

theorem Books.lt_nextId (h : Books cfg s) (hf : s.fctxs i = some f) : i < s.nextId := by
  by_contra hn
  rw [h.fresh i (Nat.le_of_not_lt hn)] at hf
  cases hf

theorem exitedBuckets_le (cfg : Config) (s : Sys) : exitedBuckets cfg s ≤ cfg.nbuckets :=
  (List.countP_le_length _).trans (List.length_range _).le

theorem Moves.refl (s : Sys) : Moves s s where
  domain _ _ _ h h' := by rw [h] at h'; cases h'; exact issubdomain_refl _
  born _ _ h h' := by rw [h] at h'; cases h'
  nextId := le_rfl
  active := le_rfl
  exiting := id
  told := rfl
  late h := absurd rfl h
  trace := List.prefix_refl _

theorem Moves.trans (hs : Books cfg s) (h₁ : Moves s t) (h₂ : Moves t u) : Moves s u where
  domain i f f'' hf hf'' := by
    cases ht : t.fctxs i with
    | none => exact absurd (h₂.born i f'' hf'' ht) (by have := hs.lt_nextId hf; have := h₁.nextId; omega)
    | some f' => exact issubdomain_trans (h₂.domain i f' f'' ht hf'') (h₁.domain i f f' hf ht)
  born i f'' hf'' hn := by
    cases ht : t.fctxs i with
    | none => exact h₁.nextId.trans (h₂.born i f'' hf'' ht)
    | some f' => exact h₁.born i f' ht hn
  nextId := h₁.nextId.trans h₂.nextId
  active := h₂.active.trans h₁.active
  exiting := h₂.exiting ∘ h₁.exiting
  told := h₂.told.trans h₁.told
  late hne := by
    by_cases ht : t.told = s.told
    · exact h₂.late fun e => hne (e.trans ht)
    · obtain ⟨he, ha⟩ := h₁.late ht
      exact ⟨h₂.exiting he, Nat.le_zero.mp (ha ▸ h₂.active)⟩
  trace := h₁.trace.trans h₂.trace

end

/-! ## Results -/

/-- Neither assertion on the books fails, and a result has `P`. -/
def Safe {α : Type} (P : α → Prop) : Except Abort α → Prop
  | .ok a => P a
  | .error e => e ≠ .emptyBucket ∧ e ≠ .shutdownActive

section
variable {α β : Type} {P Q : α → Prop} {x : Except Abort α}

@[simp] theorem safe_ok {a : α} : Safe P (.ok a) ↔ P a := Iff.rfl

@[simp] theorem safe_error {e : Abort} : Safe P (.error e) ↔ e ≠ .emptyBucket ∧ e ≠ .shutdownActive :=
  Iff.rfl

theorem Safe.ne_error (hx : Safe P x) : x ≠ .error .emptyBucket ∧ x ≠ .error .shutdownActive :=
  ⟨by rintro rfl; exact hx.1 rfl, by rintro rfl; exact hx.2 rfl⟩

theorem Safe.mono (hx : Safe P x) (h : ∀ a, P a → Q a) : Safe Q x := by
  cases x
  · exact hx
  · exact h _ hx

theorem Safe.bind {R : β → Prop} {k : α → Except Abort β} (hx : Safe P x)
    (hk : ∀ a, x = .ok a → P a → Safe R (k a)) : Safe R (x >>= k) := by
  cases x
  · exact hx
  · exact hk _ rfl hx

theorem Safe.map {R : β → Prop} {g : α → β} (hx : Safe P x) (hg : ∀ a, P a → R (g a)) :
    Safe R (x.map g) := by
  cases x
  · exact hx
  · exact hg _ hx

theorem safe_ite {c : Prop} [Decidable c] {y : Except Abort α} (hx : Safe P x) (hy : Safe P y) :
    Safe P (if c then x else y) := by
  split
  · exact hx
  · exact hy

theorem Safe.and (hp : Safe P x) (hq : Safe Q x) : Safe (fun a => P a ∧ Q a) x := by
  cases x
  · exact hp
  · exact ⟨hp, hq⟩

theorem safe_withFctx {s : Sys} {i : Nat} {k : Fctx → Except Abort α}
    (hk : ∀ f, s.fctxs i = some f → Safe P (k f)) : Safe P (s.withFctx i k) := by
  unfold Sys.withFctx
  split
  · exact hk _ ‹_›
  · simp

end

/-- `x` stops only at aborts in `E`, and a result has `P`. -/
def Holds {α : Type} (E : Abort → Prop) (P : α → Prop) : Except Abort α → Prop
  | .ok a => P a
  | .error e => E e

section
variable {α β : Type} {E E' : Abort → Prop} {P Q : α → Prop} {x : Except Abort α}

@[simp] theorem holds_error {e : Abort} : Holds E P (.error e) ↔ E e := Iff.rfl

theorem Holds.mono (hx : Holds E P x) (h : ∀ a, P a → Q a) : Holds E Q x := by
  cases x
  · exact hx
  · exact h _ hx

theorem Holds.weaken (hx : Holds E P x) (h : ∀ e, E e → E' e) : Holds E' P x := by
  cases x
  · exact h _ hx
  · exact hx

theorem Holds.safe (hx : Holds E P x) (h : ∀ e, E e → e ≠ .emptyBucket ∧ e ≠ .shutdownActive) :
    Safe P x := by
  cases x
  · exact h _ hx
  · exact hx

theorem Holds.bind {R : β → Prop} {k : α → Except Abort β} (hx : Holds E P x)
    (hk : ∀ a, x = .ok a → P a → Holds E R (k a)) : Holds E R (x >>= k) := by
  cases x
  · exact hx
  · exact hk _ rfl hx

theorem Holds.map {R : β → Prop} {g : α → β} (hx : Holds E P x) (hg : ∀ a, P a → R (g a)) :
    Holds E R (x.map g) := by
  cases x
  · exact hx
  · exact hg _ hx

theorem holds_ite {c : Prop} [Decidable c] {y : Except Abort α} (hx : Holds E P x) (hy : Holds E P y) :
    Holds E P (if c then x else y) := by
  split
  · exact hx
  · exact hy

theorem Holds.and (hp : Holds E P x) (hq : Holds E Q x) : Holds E (fun a => P a ∧ Q a) x := by
  cases x
  · exact hp
  · exact ⟨hp, hq⟩

theorem holds_withFctx {s : Sys} {i : Nat} {k : Fctx → Except Abort α} (hd : E .dangling)
    (hk : ∀ f, s.fctxs i = some f → Holds E P (k f)) : Holds E P (s.withFctx i k) := by
  unfold Sys.withFctx
  split
  · exact hk _ ‹_›
  · exact hd

end

/-! ## What the helpers keep -/

def Calm (cfg : Config) (s s' : Sys) : Prop := Sound cfg s' ∧ Moves s s' ∧ s'.trace = s.trace

def Rounds (s s' : Sys) : Prop :=
  ∀ j f, s.fctxs j = some f → ∃ f', s'.fctxs j = some f' ∧ f'.domain = f.domain ∧
    f'.restarts = f.restarts ∧ f'.interval = f.interval

def Still (cfg : Config) (s s' : Sys) : Prop := Calm cfg s s' ∧ Rounds s s'

/-- The fctx at `i` is within ten rounds, armed for its round and for `a`'s srtt. -/
def ArmedAt (s : Sys) (i : Nat) (a : Addrinfo) : Prop :=
  ∃ f, s.fctxs i = some f ∧ f.Capped ∧ f.interval = retryInterval f.restarts a.srtt

/-- A handler keeps the books, and leaves each fctx it sent a query for `ArmedAt`. -/
def Fine (cfg : Config) (s s' : Sys) : Prop :=
  Sound cfg s' ∧ Moves s s' ∧ ∀ i a, .queried i a ∈ s'.trace.drop s.trace.length → ArmedAt s' i a

section
variable {cfg : Config} {s t u : Sys}

theorem Calm.refl (h : Sound cfg s) : Calm cfg s s := ⟨h, .refl s, rfl⟩

theorem Calm.trans (hs : Sound cfg s) (h₁ : Calm cfg s t) (h₂ : Calm cfg t u) : Calm cfg s u :=
  ⟨h₂.1, .trans hs.toBooks h₁.2.1 h₂.2.1, h₂.2.2.trans h₁.2.2⟩

theorem Rounds.refl (s : Sys) : Rounds s s := fun _ f h => ⟨f, h, rfl, rfl, rfl⟩

theorem Rounds.trans (h₁ : Rounds s t) (h₂ : Rounds t u) : Rounds s u := fun j f hf => by
  obtain ⟨g, hg, hd, hr, hi⟩ := h₁ j f hf
  obtain ⟨g', hg', hd', hr', hi'⟩ := h₂ j g hg
  exact ⟨g', hg', hd'.trans hd, hr'.trans hr, hi'.trans hi⟩

theorem Still.refl (h : Sound cfg s) : Still cfg s s := ⟨.refl h, .refl s⟩

theorem Still.trans (hs : Sound cfg s) (h₁ : Still cfg s t) (h₂ : Still cfg t u) : Still cfg s u :=
  ⟨h₁.1.trans hs h₂.1, h₁.2.trans h₂.2⟩

theorem ArmedAt.rounds {i : Nat} {a : Addrinfo} (ha : ArmedAt t i a) (h : Rounds t u) : ArmedAt u i a := by
  obtain ⟨f, hf, hc, hi⟩ := ha
  obtain ⟨f', hf', -, hr, hi'⟩ := h i f hf
  exact ⟨f', hf', by unfold Fctx.Capped at hc ⊢; omega, by rw [hi', hr, hi]⟩

theorem Calm.fine (h : Calm cfg s t) : Fine cfg s t :=
  ⟨h.1, h.2.1, fun i _ hi => by simp [h.2.2] at hi⟩

theorem Calm.fine_trans (hs : Sound cfg s) (h₁ : Calm cfg s t) (h₂ : Fine cfg t u) : Fine cfg s u :=
  ⟨h₂.1, .trans hs.toBooks h₁.2.1 h₂.2.1, fun i a hi => h₂.2.2 i a (by rwa [h₁.2.2])⟩

theorem Fine.still_trans (hs : Sound cfg s) (h₁ : Fine cfg s t) (h₂ : Still cfg t u) : Fine cfg s u :=
  ⟨h₂.1.1, .trans hs.toBooks h₁.2.1 h₂.1.2.1,
    fun i a hi => (h₁.2.2 i a (by rwa [h₂.1.2.2] at hi)).rounds h₂.2⟩

end

/-! ## Updates the books do not see -/

structure SameBooks (s t : Sys) : Prop where
  fctxs : t.fctxs = s.fctxs
  lists : ∀ b, (t.buckets b).fctxs = (s.buckets b).fctxs
  exits : ∀ b, (t.buckets b).exiting = (s.buckets b).exiting
  exiting : t.exiting = s.exiting
  active : t.activebuckets = s.activebuckets
  whenshutdown : t.whenshutdown = s.whenshutdown
  told : t.told = s.told
  nextId : s.nextId ≤ t.nextId
  trace : t.trace = s.trace

section
variable {cfg : Config} {s t u : Sys}

theorem SameBooks.trans (h₁ : SameBooks s t) (h₂ : SameBooks t u) : SameBooks s u :=
  ⟨h₂.1.trans h₁.1, fun b => (h₂.2 b).trans (h₁.2 b), fun b => (h₂.3 b).trans (h₁.3 b),
    h₂.4.trans h₁.4, h₂.5.trans h₁.5, h₂.6.trans h₁.6, h₂.7.trans h₁.7, h₁.8.trans h₂.8,
    h₂.9.trans h₁.9⟩

theorem SameBooks.exited (h : SameBooks s t) : exitedBuckets cfg t = exitedBuckets cfg s := by
  simp only [exitedBuckets, Bucket.done, h.lists, h.exits]

theorem SameBooks.books (hs : Books cfg s) (h : SameBooks s t) : Books cfg t where
  fresh j hj := by rw [h.fctxs]; exact hs.fresh j (h.nextId.trans hj)
  capped i f hf := hs.capped i f (by rwa [h.fctxs] at hf)
  listed i f hf := by rw [h.lists]; exact hs.listed i f (by rwa [h.fctxs] at hf)
  exiting b hb := by rw [h.exiting]; exact hs.exiting b (by rwa [h.exits] at hb)
  count := by rw [h.active, h.exited]; exact hs.count

theorem SameBooks.moves (h : SameBooks s t) : Moves s t where
  domain _ _ _ hf hf' := by rw [h.fctxs, hf] at hf'; cases hf'; exact issubdomain_refl _
  born _ _ hf hn := by rw [h.fctxs, hn] at hf; cases hf
  nextId := h.nextId
  active := h.active.le
  exiting he := by rwa [h.exiting]
  told := by rw [h.told, h.whenshutdown]
  late hne := absurd h.told hne
  trace := by rw [h.trace]

theorem SameBooks.still (hs : Sound cfg s) (h : SameBooks s t) : Still cfg s t :=
  ⟨⟨⟨h.books hs.toBooks, fun hw => by rw [h.exiting, h.active]; exact hs.waiting (by rwa [h.whenshutdown] at hw)⟩,
    h.moves, h.trace⟩, fun j f hf => ⟨f, by rwa [h.fctxs], rfl, rfl, rfl⟩⟩

theorem SameBooks.after (h₂ : SameBooks t u) (hs : Sound cfg s) (h₁ : Still cfg s t) : Still cfg s u :=
  h₁.trans hs (h₂.still h₁.1.1)

theorem SameBooks.calm_after (h₂ : SameBooks t u) (hs : Sound cfg s) (h₁ : Calm cfg s t) : Calm cfg s u :=
  h₁.trans hs (h₂.still h₁.1).1

theorem Sound.note (h : Sound cfg s) (x : Trace) : Sound cfg (s.note x) :=
  ⟨⟨h.fresh, h.capped, h.listed, h.exiting, h.count⟩, h.waiting⟩

theorem moves_note (x : Trace) : Moves s (s.note x) :=
  { (Moves.refl s) with trace := ⟨[x], rfl⟩ }

theorem sameBooks_setBucket {b : Nat} {k : Bucket} (hl : k.fctxs = (s.buckets b).fctxs)
    (he : k.exiting = (s.buckets b).exiting) : SameBooks s (s.setBucket b k) where
  fctxs := rfl
  lists c := by by_cases hc : c = b <;> simp [Sys.setBucket, hc, hl]
  exits c := by by_cases hc : c = b <;> simp [Sys.setBucket, hc, he]
  exiting := rfl
  active := rfl
  whenshutdown := rfl
  told := rfl
  nextId := le_rfl
  trace := rfl

theorem sameBooks_post {b : Nat} {e : TaskEvent} : SameBooks s (s.post b e) := sameBooks_setBucket rfl rfl

theorem sameBooks_purge {b : Nat} {p : TaskEvent → Bool} : SameBooks s (s.purge b p) :=
  sameBooks_setBucket rfl rfl

theorem sameBooks_deliver {d : Delivery} (hd : ∀ l, d ≠ .shutdown l) : SameBooks s (s.deliver d) :=
  ⟨rfl, fun _ => rfl, fun _ => rfl, rfl, rfl, rfl, by cases d <;> simp_all [Sys.told], le_rfl, rfl⟩

theorem sameBooks_with {o : List Owed} {fe : Nat → Option Nat} {w : List CacheWrite} :
    SameBooks s { s with owed := o, fetches := fe, cacheWrites := w } :=
  ⟨rfl, fun _ => rfl, fun _ => rfl, rfl, rfl, rfl, rfl, le_rfl, rfl⟩

theorem sameBooks_nextId : SameBooks s { s with nextId := s.nextId + 1 } :=
  ⟨rfl, fun _ => rfl, fun _ => rfl, rfl, rfl, rfl, rfl, Nat.le_succ _, rfl⟩

end

/-! ## Updates of one fctx -/

section
variable {cfg : Config} {s : Sys} {i : Nat} {f f' : Fctx}

theorem calm_setFctx (h : Sound cfg s) (hf : s.fctxs i = some f) (hb : f'.bucketnum = f.bucketnum)
    (hd : issubdomain f'.domain f.domain) (hc : f'.Open → f'.Capped) : Calm cfg s (s.setFctx i f') := by
  have hlt := h.lt_nextId hf
  refine ⟨⟨⟨fun j hj => ?_, fun j g hg => ?_, fun j g hg => ?_, h.exiting, h.count⟩, h.waiting⟩,
    ⟨fun j g g' hg hg' => ?_, fun j g hg hn => ?_, le_rfl, le_rfl, id, rfl, fun hne => absurd rfl hne,
      List.prefix_refl _⟩, rfl⟩
  · change s.nextId ≤ j at hj
    simp only [Sys.setFctx, Function.update_apply, if_neg (show j ≠ i by omega)]
    exact h.fresh j hj
  · simp only [Sys.setFctx, Function.update_apply] at hg
    split at hg
    · cases hg; exact hc
    · exact h.capped j g hg
  · simp only [Sys.setFctx, Function.update_apply] at hg
    split at hg
    · cases hg; subst j; rw [hb]; exact h.listed i f hf
    · exact h.listed j g hg
  · simp only [Sys.setFctx, Function.update_apply] at hg'
    split at hg'
    · subst j; rw [hf] at hg; cases hg; cases hg'; exact hd
    · rw [hg] at hg'; cases hg'; exact issubdomain_refl _
  · simp only [Sys.setFctx, Function.update_apply] at hg
    split at hg
    · subst j; rw [hf] at hn; cases hn
    · rw [hn] at hg; cases hg

theorem still_setFctx (h : Sound cfg s) (hf : s.fctxs i = some f) (hb : f'.bucketnum = f.bucketnum)
    (hd : f'.domain = f.domain) (hr : f'.restarts = f.restarts) (hi : f'.interval = f.interval)
    (ho : f'.Open → f.Open) : Still cfg s (s.setFctx i f') := by
  refine ⟨calm_setFctx h hf hb (hd ▸ issubdomain_refl _) fun hf' => ?_, fun j g hg => ?_⟩
  · have := h.capped i f hf (ho hf')
    unfold Fctx.Capped at this ⊢
    omega
  · by_cases hj : j = i
    · subst hj; rw [hf] at hg; cases hg
      exact ⟨f', by simp, hd, hr, hi⟩
    · exact ⟨g, by simpa [hj] using hg, rfl, rfl, rfl⟩

end

/-! ## Chains of helpers -/

section
variable {cfg : Config} {s : Sys} {x : Except Abort Sys} {k : Sys → Except Abort Sys}

theorem Safe.still_bind (h : Sound cfg s) (hx : Safe (Still cfg s) x)
    (hk : ∀ t, Sound cfg t → Safe (Still cfg t) (k t)) : Safe (Still cfg s) (x >>= k) :=
  hx.bind fun t _ ht => (hk t ht.1.1).mono fun _ hu => ht.trans h hu

theorem Safe.calm (hx : Safe (Still cfg s) x) : Safe (Calm cfg s) x := hx.mono fun _ h => h.1

theorem Safe.fine (hx : Safe (Calm cfg s) x) : Safe (Fine cfg s) x := hx.mono fun _ h => h.fine

end

/-! ## The helpers of one fctx -/

section
variable {cfg : Config} {s : Sys} {i : Nat}

theorem fctxStoptimer_still (h : Sound cfg s) : Safe (Still cfg s) (fctxStoptimer s i) :=
  safe_withFctx fun _ hf => sameBooks_purge.after h (still_setFctx h hf rfl rfl rfl rfl id)

theorem fctxCancelquery_still {q : Nat} (h : Sound cfg s) : Safe (Still cfg s) (fctxCancelquery s i q) := by
  refine safe_withFctx fun f hf => ?_
  split
  · exact sameBooks_purge.after h
      (still_setFctx h hf rfl rfl rfl rfl (Or.imp_left fun hq he => hq (by simp [he])))
  · simp

theorem cancelEach_still : ∀ {s : Sys} (qs : List Query), Sound cfg s → Safe (Still cfg s) (cancelEach i s qs)
  | _, [], h => Still.refl h
  | _, _ :: qs, h => (fctxCancelquery_still h).still_bind h fun _ ht => cancelEach_still qs ht

theorem fctxCancelqueries_still (h : Sound cfg s) : Safe (Still cfg s) (fctxCancelqueries s i) :=
  safe_withFctx fun f _ => cancelEach_still f.queries h

theorem fctxCleanupfinds_still (h : Sound cfg s) : Safe (Still cfg s) (fctxCleanupfinds s i) := by
  refine safe_withFctx fun f hf => ?_
  split
  · exact still_setFctx h hf rfl rfl rfl rfl (Or.imp_right (Or.imp_left fun h => absurd rfl h))
  · simp

theorem fctxCleanupforwaddrs_still (h : Sound cfg s) : Safe (Still cfg s) (fctxCleanupforwaddrs s i) := by
  refine safe_withFctx fun f hf => ?_
  split
  · exact still_setFctx h hf rfl rfl rfl rfl (Or.imp_right (Or.imp_right fun h => absurd rfl h))
  · simp

theorem fctxStopeverything_still (h : Sound cfg s) : Safe (Still cfg s) (fctxStopeverything s i) :=
  (fctxCancelqueries_still h).still_bind h fun _ ht => (fctxCleanupfinds_still ht).still_bind ht
    fun _ hu => (fctxCleanupforwaddrs_still hu).still_bind hu fun _ hv => fctxStoptimer_still hv

theorem fctxSendevents_still {r : IscResult} (h : Sound cfg s) : Safe (Still cfg s) (fctxSendevents s i r) := by
  refine safe_withFctx fun f hf => ?_
  split
  · simp
  · exact (sameBooks_deliver fun _ => Delivery.noConfusion).after h (still_setFctx h hf rfl rfl rfl rfl id)

theorem setState_still {st : Fetchstate} (h : Sound cfg s) : Safe (Still cfg s) (setState s i st) :=
  safe_withFctx fun _ hf => still_setFctx h hf rfl rfl rfl rfl id

theorem fctxDone_still {r : IscResult} (h : Sound cfg s) : Safe (Still cfg s) (fctxDone s i r) :=
  (fctxStopeverything_still h).still_bind h fun _ ht => (setState_still ht).still_bind ht
    fun _ hu => fctxSendevents_still hu

theorem fctxShutdown_still (h : Sound cfg s) : Safe (Still cfg s) (fctxShutdown s i) := by
  refine safe_withFctx fun f hf => ?_
  dsimp only
  split
  · exact Still.refl h
  · split
    · exact sameBooks_post.after h (still_setFctx h hf rfl rfl rfl rfl id)
    · exact still_setFctx h hf rfl rfl rfl rfl id

end

/-! ## Counting exited buckets -/

theorem countP_range_update {p q : Nat → Bool} {b : Nat} (hb : ∀ c, c ≠ b → q c = p c) (n : Nat) :
    (List.range n).countP q + (if b < n then (p b).toNat else 0) =
      (List.range n).countP p + (if b < n then (q b).toNat else 0) := by
  induction n with
  | zero => simp
  | succ n ih =>
    simp only [List.range_succ, List.countP_append, List.countP_singleton]
    by_cases hn : n = b
    · subst hn
      simp only [Nat.lt_irrefl, if_false, Nat.lt_succ_self, if_true] at ih ⊢
      cases p n <;> cases q n <;> simp <;> omega
    · have hlt : b < n + 1 ↔ b < n := by omega
      simp only [hlt, hb n hn]
      omega

/-! ## Freeing an fctx -/

section
variable {cfg : Config} {s : Sys} {i : Nat}

theorem fctxDestroy_safe (h : Sound cfg s) :
    Safe (fun r : Bool × Sys => Moves s r.2 ∧ r.2.trace = s.trace ∧ r.2.exiting = s.exiting ∧
      r.2.activebuckets = s.activebuckets ∧ r.2.whenshutdown = s.whenshutdown ∧ r.2.told = s.told ∧
      (r.1 → s.exiting ∧ 0 < s.activebuckets) ∧
      Books cfg { r.2 with activebuckets := s.activebuckets - r.1.toNat }) (fctxDestroy s i) := by
  refine safe_withFctx fun f hf => ?_
  dsimp only
  split
  swap
  · simp
  generalize hk : s.buckets f.bucketnum = k
  generalize he : (k.exiting && (k.fctxs.erase i).isEmpty) = e
  generalize hs₁ : (s.setBucket f.bucketnum { k with fctxs := k.fctxs.erase i }).purge f.bucketnum
    (isTimeoutOf i) = s₁
  generalize hs₂ : ({ s₁ with fctxs := Function.update s₁.fctxs i none } : Sys) = s₂
  simp only [safe_ok]
  have hfctx : ∀ j, j ≠ i → s₂.fctxs j = s.fctxs j := fun j hj => by
    rw [← hs₂, ← hs₁]; simp [hj]
  have hfree : s₂.fctxs i = none := by rw [← hs₂]; simp
  have hlist : ∀ c, (s₂.buckets c).fctxs = if c = f.bucketnum then k.fctxs.erase i else (s.buckets c).fctxs :=
    fun c => by rw [← hs₂, ← hs₁]; by_cases hc : c = f.bucketnum <;> simp [hc]
  have hexit : ∀ c, (s₂.buckets c).exiting = (s.buckets c).exiting :=
    fun c => by rw [← hs₂, ← hs₁]; by_cases hc : c = f.bucketnum <;> simp [hc, ← hk]
  have hmem : i ∈ k.fctxs := hk ▸ h.listed i f hf
  have hbefore : (s.buckets f.bucketnum).done = false := by
    simp [Bucket.done, hk, List.isEmpty_iff, List.ne_nil_of_mem hmem]
  have hafter : (s₂.buckets f.bucketnum).done = e := by simp [Bucket.done, hlist, hexit, hk, he]
  have hcount := countP_range_update (p := fun c => (s.buckets c).done) (q := fun c => (s₂.buckets c).done)
    (b := f.bucketnum) (fun c hc => by simp [Bucket.done, hlist, hexit, hc]) cfg.nbuckets
  simp only [hbefore, hafter, Bool.toNat_false, ite_self, Nat.add_zero] at hcount
  have hex : e → s.exiting ∧ f.bucketnum < cfg.nbuckets := fun hte =>
    h.exiting _ (by rw [hk]; simp_all)
  have hc₀ := h.count
  unfold exitedBuckets at hc₀
  obtain ⟨hx, ha, hw, hd, hn, ht⟩ : s₂.exiting = s.exiting ∧ s₂.activebuckets = s.activebuckets ∧
      s₂.whenshutdown = s.whenshutdown ∧ s₂.delivered = s.delivered ∧ s₂.nextId = s.nextId ∧
      s₂.trace = s.trace := by
    rw [← hs₂, ← hs₁]; exact ⟨rfl, rfl, rfl, rfl, rfl, rfl⟩
  have hold : ∀ j g, s₂.fctxs j = some g → j ≠ i ∧ s.fctxs j = some g := fun j g hg => by
    have hji : j ≠ i := by rintro rfl; rw [hfree] at hg; cases hg
    exact ⟨hji, by rwa [hfctx j hji] at hg⟩
  refine ⟨⟨fun j g g' hg hg' => ?_, fun j g hg hn' => ?_, hn.ge, ha.le, fun he' => hx ▸ he',
    by simp [Sys.told, hd, hw], fun hne => absurd (by simp [Sys.told, hd]) hne, by rw [ht]⟩,
    ht, hx, ha, hw, by simp [Sys.told, hd], fun hte => ⟨(hex hte).1, ?_⟩,
    ⟨fun j hj => ?_, fun j g hg => h.capped j g (hold j g hg).2, fun j g hg => ?_,
      fun b hb => by rw [hx]; exact h.exiting b (by rwa [hexit] at hb), ?_⟩⟩
  · obtain ⟨hji, hg''⟩ := hold j g' hg'
    rw [hg] at hg''; cases hg''; exact issubdomain_refl _
  · obtain ⟨-, hg''⟩ := hold j g hg
    rw [hn'] at hg''; cases hg''
  · have := (hex hte).2
    simp only [this, if_true, hte, Bool.toNat_true] at hcount
    have := exitedBuckets_le cfg s₂
    unfold exitedBuckets at this
    omega
  · show s₂.fctxs j = none
    by_cases hji : j = i
    · rw [hji]; exact hfree
    · rw [hfctx j hji]; exact h.fresh j (hn ▸ hj)
  · obtain ⟨hji, hg'⟩ := hold j g hg
    show j ∈ (s₂.buckets g.bucketnum).fctxs
    rw [hlist]
    split
    · rename_i hb; rw [← hk, ← hb]; exact (List.mem_erase_of_ne hji).mpr (h.listed j g hg')
    · exact h.listed j g hg'
  · show s.activebuckets - e.toNat + (List.range cfg.nbuckets).countP (fun c => (s₂.buckets c).done) = _
    have := exitedBuckets_le cfg s₂
    unfold exitedBuckets at this
    cases e
    · simp only [Bool.toNat_false, ite_self, Nat.add_zero, Nat.sub_zero] at hcount ⊢
      omega
    · simp only [(hex rfl).2, if_true, Bool.toNat_true] at hcount ⊢
      omega

theorem told_sendShutdownEvents (s : Sys) : (sendShutdownEvents s).told = s.told ++ s.whenshutdown := by
  simp [Sys.told, sendShutdownEvents, List.filterMap_map, Function.comp_def]

theorem Moves.recount {t u : Sys} (hm : Moves s t) (hs : Books cfg s) (hf : u.fctxs = t.fctxs)
    (hn : u.nextId = t.nextId) (hx : u.exiting = t.exiting) (ha : u.activebuckets ≤ t.activebuckets)
    (ht : u.trace = t.trace) (hl : u.told ++ u.whenshutdown = t.told ++ t.whenshutdown)
    (hl' : u.told ≠ t.told → u.exiting ∧ u.activebuckets = 0) : Moves s u :=
  hm.trans hs
    { domain := fun j g g' hg hg' => by rw [hf, hg] at hg'; cases hg'; exact issubdomain_refl _
      born := fun j g hg hn' => by rw [hf, hn'] at hg; cases hg
      nextId := hn.ge
      active := ha
      exiting := fun he => hx ▸ he
      told := hl
      late := hl'
      trace := by rw [ht] }

theorem destroyAndEmpty_calm (h : Sound cfg s) : Safe (Calm cfg s) (destroyAndEmpty s i) := by
  refine (fctxDestroy_safe h).bind fun r _ hr => ?_
  obtain ⟨e, t⟩ := r
  obtain ⟨hm, ht, hx, ha, hw, hd, he, hb⟩ := hr
  dsimp only at hm ht hx ha hw hd he hb ⊢
  cases e
  · rw [Bool.toNat_false, Nat.sub_zero, ← ha] at hb
    exact ⟨⟨hb, fun hw' => by rw [hx, ha]; exact h.waiting (hw ▸ hw')⟩, hm, ht⟩
  obtain ⟨hxs, hpos⟩ := he rfl
  rw [Bool.toNat_true, ← ha] at hb
  simp only [if_true]
  unfold emptyBucket
  rw [if_neg (by omega)]
  dsimp only
  split
  · rename_i hz
    exact ⟨⟨⟨hb.1, hb.2, hb.3, hb.4, hb.5⟩, fun hw' => absurd rfl hw'⟩,
      hm.recount h.toBooks rfl rfl rfl (Nat.sub_le _ _) rfl
        (by rw [told_sendShutdownEvents]; exact List.append_nil _) fun _ => ⟨hx.trans hxs, hz⟩, ht⟩
  · rename_i hz
    exact ⟨⟨hb, fun _ he => hz he.2⟩,
      hm.recount h.toBooks rfl rfl rfl (Nat.sub_le _ _) rfl rfl fun hne => absurd rfl hne, ht⟩

end

end DnsResolver
