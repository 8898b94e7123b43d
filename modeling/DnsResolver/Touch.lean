import DnsResolver.Sharing

/-! # Work on one fetch context

`Frame`, `Touch` and `Good`: what work on one fctx can do to the rest. -/

namespace DnsResolver

def Trace.fctx : Trace → Nat
  | .tried i | .queried i _ => i

def Owed.fctx : Owed → Nat
  | .find _ i | .send _ i _ | .connect _ i _ => i

def Owed.bucket : Owed → Nat
  | .find b _ | .send b _ _ | .connect b _ _ => b

def Running (s : Sys) (i : Nat) : Prop := ∃ f, s.fctxs i = some f ∧ f.state = .active

def Live (s : Sys) (i : Nat) : Prop := ∃ f, s.fctxs i = some f ∧ f.state ≠ .done

def NotBusy (s : Sys) (i : Nat) : Prop := ∀ b r, (s.buckets b).busy = some r → r.fctx ≠ i

/-- The fields that say how far the run of an fctx has got. -/
def Fctx.progress (f : Fctx) : Fetchstate × Nat × List Query × Timer × Bool :=
  (f.state, f.bucketnum, f.queries, f.timer, f.attributes.addrwait)

def Retains (f f' : Fctx) : Prop :=
  f'.attributes.shuttingdown = f.attributes.shuttingdown ∧ f.references ≤ f'.references ∧
    f.pending ≤ f'.pending ∧ f'.validating = f.validating

theorem Retains.refl (f : Fctx) : Retains f f := ⟨rfl, le_rfl, le_rfl, rfl⟩

theorem Retains.trans {f g h : Fctx} (h₁ : Retains f g) (h₂ : Retains g h) : Retains f h :=
  ⟨h₂.1.trans h₁.1, h₁.2.1.trans h₂.2.1, h₁.2.2.1.trans h₂.2.2.1, h₂.2.2.2.trans h₁.2.2.2⟩

/-! ## Queues -/

theorem Sys.mem_post {s : Sys} {b c : Nat} {e x : TaskEvent} :
    x ∈ ((s.post b e).buckets c).queue ↔ x ∈ (s.buckets c).queue ∨ c = b ∧ x = e := by
  simp only [Sys.post, Sys.setBucket, Function.update_apply]
  split
  · subst c; simp
  · simp_all

theorem Sys.post_busy (s : Sys) (b c : Nat) (e : TaskEvent) :
    ((s.post b e).buckets c).busy = (s.buckets c).busy := by
  simp only [Sys.post, Sys.setBucket, Function.update_apply]
  split <;> simp_all

theorem Sys.purge_sub {s : Sys} {b c : Nat} {p : TaskEvent → Bool} {x : TaskEvent}
    (hx : x ∈ ((s.purge b p).buckets c).queue) : x ∈ (s.buckets c).queue := by
  simp only [Sys.purge, Sys.setBucket, Function.update_apply] at hx
  split at hx
  · subst c; exact List.mem_of_mem_filter hx
  · exact hx

theorem Sys.purge_busy (s : Sys) (b c : Nat) (p : TaskEvent → Bool) :
    ((s.purge b p).buckets c).busy = (s.buckets c).busy := by
  simp only [Sys.purge, Sys.setBucket, Function.update_apply]
  split <;> simp_all

theorem Sys.setBucket_queue {s : Sys} {b c : Nat} {k : Bucket} (hq : k.queue = (s.buckets b).queue) :
    ((s.setBucket b k).buckets c).queue = (s.buckets c).queue := by
  simp only [Sys.setBucket, Function.update_apply]; split <;> simp_all

theorem Sys.setBucket_busy {s : Sys} {b c : Nat} {k : Bucket} (hb : k.busy = (s.buckets b).busy) :
    ((s.setBucket b k).buckets c).busy = (s.buckets c).busy := by
  simp only [Sys.setBucket, Function.update_apply]; split <;> simp_all

theorem Sys.purge_drops {s : Sys} {b : Nat} {p : TaskEvent → Bool} {x : TaskEvent}
    (hx : x ∈ ((s.purge b p).buckets b).queue) : p x = false := by
  simp only [Sys.purge, Sys.setBucket, Function.update_same, List.mem_filter,
    Bool.not_eq_true'] at hx
  exact hx.2

/-! ## Work on one fctx -/

/-- `s'` comes from `s` by work on the fctx at `i` alone. -/
structure Frame (i : Nat) (s s' : Sys) : Prop where
  fctxs : ∀ j, j ≠ i → s'.fctxs j = s.fctxs j
  queue : ∀ b e, e ∈ (s'.buckets b).queue → e ∈ (s.buckets b).queue ∨ e.fctx = i ∧ (s.fctxs i).isSome
  busy : ∀ b, (s'.buckets b).busy = (s.buckets b).busy
  owed : ∀ o ∈ s'.owed, o ∈ s.owed ∨ o.fctx = i ∧ (s.fctxs i).isSome
  nextId : s.nextId ≤ s'.nextId
  trace : ∃ t, s'.trace = s.trace ++ t ∧ ∀ x ∈ t, x.fctx = i ∧ Live s i
  gone : s.fctxs i = none → s'.fctxs i = none
  stays : ∀ f f', s.fctxs i = some f → s'.fctxs i = some f' →
    f'.bucketnum = f.bucketnum ∧ (f.state = .done → f'.state = .done)

structure Touch (i : Nat) (s s' : Sys) extends Frame i s s' : Prop where
  counts : ∀ f f', s.fctxs i = some f → s'.fctxs i = some f' → Retains f f'

section
variable {i : Nat} {s t u : Sys}

theorem Frame.some_back (h : Frame i s t) {f' : Fctx} (ht : t.fctxs i = some f') :
    ∃ f, s.fctxs i = some f := by
  cases hs : s.fctxs i with
  | none => rw [h.gone hs] at ht; cases ht
  | some f => exact ⟨f, rfl⟩

theorem Frame.isSome_back (h : Frame i s t) (ht : (t.fctxs i).isSome) : (s.fctxs i).isSome := by
  obtain ⟨f', hf'⟩ := Option.isSome_iff_exists.mp ht
  obtain ⟨f, hf⟩ := h.some_back hf'
  simp [hf]

theorem Frame.live_back (h : Frame i s t) (ht : Live t i) : Live s i := by
  obtain ⟨f', hf', hd'⟩ := ht
  obtain ⟨f, hf⟩ := h.some_back hf'
  exact ⟨f, hf, fun hd => hd' ((h.stays f f' hf hf').2 hd)⟩

theorem Frame.refl (i : Nat) (s : Sys) : Frame i s s where
  fctxs _ _ := rfl
  queue _ _ he := .inl he
  busy _ := rfl
  owed _ ho := .inl ho
  nextId := le_rfl
  trace := ⟨[], by simp, by simp⟩
  gone h := h
  stays f f' h h' := by rw [h] at h'; cases h'; exact ⟨rfl, id⟩

theorem Frame.trans (h₁ : Frame i s t) (h₂ : Frame i t u) : Frame i s u where
  fctxs j hj := (h₂.fctxs j hj).trans (h₁.fctxs j hj)
  queue b e he := (h₂.queue b e he).elim (h₁.queue b e) fun h => .inr ⟨h.1, h₁.isSome_back h.2⟩
  busy b := (h₂.busy b).trans (h₁.busy b)
  owed o ho := (h₂.owed o ho).elim (h₁.owed o) fun h => .inr ⟨h.1, h₁.isSome_back h.2⟩
  nextId := h₁.nextId.trans h₂.nextId
  trace := by
    obtain ⟨t₁, ht₁, hx₁⟩ := h₁.trace
    obtain ⟨t₂, ht₂, hx₂⟩ := h₂.trace
    refine ⟨t₁ ++ t₂, by rw [ht₂, ht₁, List.append_assoc], fun x hx => ?_⟩
    rcases List.mem_append.mp hx with hx | hx
    · exact hx₁ x hx
    · exact ⟨(hx₂ x hx).1, h₁.live_back (hx₂ x hx).2⟩
  gone h := h₂.gone (h₁.gone h)
  stays f f'' hf hf'' := by
    obtain ⟨f', hf'⟩ := h₂.some_back hf''
    have s₁ := h₁.stays f f' hf hf'
    have s₂ := h₂.stays f' f'' hf' hf''
    exact ⟨s₂.1.trans s₁.1, s₂.2 ∘ s₁.2⟩

theorem Touch.refl (i : Nat) (s : Sys) : Touch i s s :=
  { Frame.refl i s with counts := fun f f' h h' => by rw [h] at h'; cases h'; exact .refl f }

theorem Touch.trans (h₁ : Touch i s t) (h₂ : Touch i t u) : Touch i s u :=
  { h₁.toFrame.trans h₂.toFrame with
    counts := fun f f'' hf hf'' => by
      obtain ⟨f', hf'⟩ := h₂.some_back hf''
      exact (h₁.counts f f' hf hf').trans (h₂.counts f' f'' hf' hf'') }

theorem Touch.of_same (hf : t.fctxs = s.fctxs) (hq : ∀ b, (t.buckets b).queue = (s.buckets b).queue)
    (hb : ∀ b, (t.buckets b).busy = (s.buckets b).busy) (ho : t.owed = s.owed)
    (hn : s.nextId ≤ t.nextId) (ht : t.trace = s.trace) : Touch i s t where
  fctxs j _ := by rw [hf]
  queue b e he := .inl (hq b ▸ he)
  busy := hb
  owed o h := .inl (ho ▸ h)
  nextId := hn
  trace := ⟨[], by simp [ht], by simp⟩
  gone h := by rw [hf]; exact h
  stays f f' h h' := by rw [hf, h] at h'; cases h'; exact ⟨rfl, id⟩
  counts f f' h h' := by rw [hf, h] at h'; cases h'; exact .refl f

theorem frame_setFctx {f f' : Fctx} (hf : s.fctxs i = some f) (hb : f'.bucketnum = f.bucketnum)
    (hd : f.state = .done → f'.state = .done) : Frame i s (s.setFctx i f') where
  fctxs j hj := by simp [hj]
  queue _ _ he := .inl he
  busy _ := rfl
  owed _ ho := .inl ho
  nextId := le_rfl
  trace := ⟨[], by simp, by simp⟩
  gone h := by rw [hf] at h; cases h
  stays f₁ f₂ h₁ h₂ := by
    rw [hf] at h₁; cases h₁; simp at h₂; subst h₂; exact ⟨hb, hd⟩

theorem touch_setFctx {f f' : Fctx} (hf : s.fctxs i = some f) (hb : f'.bucketnum = f.bucketnum)
    (hd : f.state = .done → f'.state = .done) (hc : Retains f f') : Touch i s (s.setFctx i f') :=
  { frame_setFctx hf hb hd with
    counts := fun f₁ f₂ h₁ h₂ => by rw [hf] at h₁; cases h₁; simp at h₂; subst h₂; exact hc }

theorem touch_setFctx_progress {f f' : Fctx} (hf : s.fctxs i = some f)
    (hp : f'.progress = f.progress) (hc : Retains f f') : Touch i s (s.setFctx i f') := by
  simp only [Fctx.progress, Prod.mk.injEq] at hp
  exact touch_setFctx hf hp.2.1 (fun h => hp.1.trans h) hc

theorem touch_post {b : Nat} {e : TaskEvent} (hs : (s.fctxs i).isSome) (he : e.fctx = i) :
    Touch i s (s.post b e) :=
  { Touch.refl i s with
    queue := fun _ _ hx => (Sys.mem_post.mp hx).imp id fun ⟨_, hx⟩ => ⟨hx ▸ he, hs⟩
    busy := fun c => Sys.post_busy s b c e }

theorem touch_purge {b : Nat} {p : TaskEvent → Bool} : Touch i s (s.purge b p) :=
  { Touch.refl i s with
    queue := fun _ _ hx => .inl (Sys.purge_sub hx)
    busy := fun c => Sys.purge_busy s b c p }

theorem touch_free {f : Fctx} (hf : s.fctxs i = some f) :
    Touch i s { s with fctxs := Function.update s.fctxs i none } :=
  { Touch.refl i s with
    fctxs := fun j hj => by simp [hj]
    gone := fun h => by rw [hf] at h; cases h
    stays := fun _ _ _ h => by simp at h
    counts := fun _ _ _ h => by simp at h }

theorem touch_note {x : Trace} (hl : Live s i) (hx : x.fctx = i) : Touch i s (s.note x) :=
  { Touch.refl i s with trace := ⟨[x], rfl, by simp [hx, hl]⟩ }

theorem touch_owe {os : List Owed} (hs : (s.fctxs i).isSome) (ho : ∀ o ∈ os, o.fctx = i) :
    Touch i s { s with owed := s.owed ++ os } :=
  { Touch.refl i s with
    owed := fun o h => (List.mem_append.mp h).imp id fun h => ⟨ho o h, hs⟩ }

end

/-! ## One fctx agrees with the queues -/

def Home (s : Sys) (i b : Nat) : Prop :=
  (∀ c e, e ∈ (s.buckets c).queue → e.fctx = i → c = b) ∧ ∀ o ∈ s.owed, o.fctx = i → o.bucket = b

/-- What the queues, the debts and a stopped task say of the fctx at `i` agrees with it. -/
structure Good (s : Sys) (i : Nat) : Prop where
  timeout : ∀ b life, .timeout i life ∈ (s.buckets b).queue → Running s i
  response : ∀ b q parse m, .response i q parse m ∈ (s.buckets b).queue →
    ∃ f, s.fctxs i = some f ∧ f.queries.any (·.id == q)
  busy : ∀ b r, (s.buckets b).busy = some r → r.fctx = i →
    ∃ f, s.fctxs i = some f ∧ f.state = .active ∧ f.bucketnum = b
  home : ∀ f, s.fctxs i = some f → Home s i f.bucketnum
  idle : ∀ f, s.fctxs i = some f → f.state ≠ .active → f.queries = [] ∧ f.timer = .inactive
  fresh : ∀ f, s.fctxs i = some f → f.state = .init → f.attributes.addrwait = false

section
variable {i : Nat} {s t : Sys} {f f' : Fctx}

theorem Good.running (g : Good s i) (hf : s.fctxs i = some f) {b : Nat} {life : Bool}
    (he : .timeout i life ∈ (s.buckets b).queue) : f.state = .active := by
  obtain ⟨f₀, h₀, ha⟩ := g.timeout b life he
  rw [hf] at h₀; cases h₀; exact ha

theorem Good.queried (g : Good s i) (hf : s.fctxs i = some f) {b q : Nat} {p : IscResult}
    {m : Message} (he : .response i q p m ∈ (s.buckets b).queue) : f.queries.any (·.id == q) := by
  obtain ⟨f₀, h₀, ha⟩ := g.response b q p m he
  rw [hf] at h₀; cases h₀; exact ha

theorem Good.busy_running (g : Good s i) (hf : s.fctxs i = some f) {b : Nat} {r : Resume}
    (hr : (s.buckets b).busy = some r) (hri : r.fctx = i) : f.state = .active ∧ f.bucketnum = b := by
  obtain ⟨f₀, h₀, ha⟩ := g.busy b r hr hri
  rw [hf] at h₀; cases h₀; exact ha

theorem Good.frame {j : Nat} (g : Good s j) (h : Frame i s t) (hj : j ≠ i) : Good t j where
  timeout b life he := by
    rcases h.queue b _ he with he | ⟨he, -⟩
    · obtain ⟨f, hf, ha⟩ := g.timeout b life he; exact ⟨f, (h.fctxs j hj).trans hf, ha⟩
    · exact absurd he hj
  response b q p m he := by
    rcases h.queue b _ he with he | ⟨he, -⟩
    · obtain ⟨f, hf, ha⟩ := g.response b q p m he; exact ⟨f, (h.fctxs j hj).trans hf, ha⟩
    · exact absurd he hj
  busy b r hr hrj := by
    obtain ⟨f, hf, ha⟩ := g.busy b r ((h.busy b).symm.trans hr) hrj
    exact ⟨f, (h.fctxs j hj).trans hf, ha⟩
  home f hf := by
    rw [h.fctxs j hj] at hf
    refine ⟨fun c e he hej => ?_, fun o ho hoj => ?_⟩
    · rcases h.queue c e he with he | ⟨he, -⟩
      · exact (g.home f hf).1 c e he hej
      · exact absurd (hej.symm.trans he) hj
    · rcases h.owed o ho with ho | ⟨ho, -⟩
      · exact (g.home f hf).2 o ho hoj
      · exact absurd (hoj.symm.trans ho) hj
  idle f hf := g.idle f (by rwa [h.fctxs j hj] at hf)
  fresh f hf := g.fresh f (by rwa [h.fctxs j hj] at hf)

theorem Good.setFctx (g : Good s i) (hf : s.fctxs i = some f) (hb : f'.bucketnum = f.bucketnum)
    (ht : ∀ b life, .timeout i life ∈ (s.buckets b).queue → f'.state = .active)
    (hq : ∀ b q p m, .response i q p m ∈ (s.buckets b).queue → f'.queries.any (·.id == q))
    (hr : ∀ b r, (s.buckets b).busy = some r → r.fctx = i → f'.state = .active)
    (hi : f'.state ≠ .active → f'.queries = [] ∧ f'.timer = .inactive)
    (hw : f'.state = .init → f'.attributes.addrwait = false) : Good (s.setFctx i f') i where
  timeout b life he := ⟨f', by simp, ht b life he⟩
  response b q p m he := ⟨f', by simp, hq b q p m he⟩
  busy b r hr' hri := ⟨f', by simp, hr b r hr' hri, hb.trans (g.busy_running hf hr' hri).2⟩
  home f₀ h₀ := by simp at h₀; subst h₀; rw [hb]; exact g.home f hf
  idle f₀ h₀ := by simp at h₀; subst h₀; exact hi
  fresh f₀ h₀ := by simp at h₀; subst h₀; exact hw

theorem Good.setFctx_state (g : Good s i) (hf : s.fctxs i = some f) (hb : f'.bucketnum = f.bucketnum)
    (hs : f'.state = f.state) (hq : ∀ q, f.queries.any (·.id == q) → f'.queries.any (·.id == q))
    (hi : f'.state ≠ .active → f'.queries = [] ∧ f'.timer = .inactive)
    (hw : f.state = .init → f.attributes.addrwait = false → f'.attributes.addrwait = false) :
    Good (s.setFctx i f') i :=
  g.setFctx hf hb (fun _ _ he => hs.trans (g.running hf he)) (fun _ _ _ _ he => hq _ (g.queried hf he))
    (fun _ _ hr hri => hs.trans (g.busy_running hf hr hri).1) hi
    (fun h => hw (hs ▸ h) (g.fresh f hf (hs ▸ h)))

theorem Good.setFctx_progress (g : Good s i) (hf : s.fctxs i = some f)
    (hp : f'.progress = f.progress) : Good (s.setFctx i f') i := by
  simp only [Fctx.progress, Prod.mk.injEq] at hp
  obtain ⟨hs, hb, hq, ht, ha⟩ := hp
  exact g.setFctx_state hf hb hs (by simp [hq]) (by rw [hs, hq, ht]; exact g.idle f hf)
    fun _ h => ha.trans h

theorem Good.purge {b : Nat} {p : TaskEvent → Bool} (g : Good s i) : Good (s.purge b p) i where
  timeout b life he := g.timeout b life (Sys.purge_sub he)
  response b q p m he := g.response b q p m (Sys.purge_sub he)
  busy c r hr := g.busy c r (by rwa [Sys.purge_busy] at hr)
  home f hf := ⟨fun c e he => (g.home f hf).1 c e (Sys.purge_sub he), (g.home f hf).2⟩
  idle := g.idle
  fresh := g.fresh

theorem Good.post {b : Nat} {e : TaskEvent} (g : Good s i)
    (hh : ∀ f, s.fctxs i = some f → e.fctx = i → b = f.bucketnum)
    (ht : ∀ life, e = .timeout i life → Running s i)
    (hr : ∀ q p m, e = .response i q p m → ∃ f, s.fctxs i = some f ∧ f.queries.any (·.id == q)) :
    Good (s.post b e) i where
  timeout c life he := (Sys.mem_post.mp he).elim (g.timeout c life) fun h => ht life h.2.symm
  response c q p m he := (Sys.mem_post.mp he).elim (g.response c q p m) fun h => hr q p m h.2.symm
  busy c r hr' := g.busy c r (by rwa [Sys.post_busy] at hr')
  home f hf := ⟨fun c x hx hxi => (Sys.mem_post.mp hx).elim (fun hx => (g.home f hf).1 c x hx hxi)
    fun h => h.1.trans (hh f hf (h.2 ▸ hxi)), (g.home f hf).2⟩
  idle := g.idle
  fresh := g.fresh

theorem Good.owe {os : List Owed} (g : Good s i)
    (ho : ∀ f, s.fctxs i = some f → ∀ o ∈ os, o.fctx = i → o.bucket = f.bucketnum) :
    Good { s with owed := s.owed ++ os } i :=
  { g with
    home := fun f hf => ⟨(g.home f hf).1, fun o h hoi => (List.mem_append.mp h).elim
      (fun h => (g.home f hf).2 o h hoi) fun h => ho f hf o h hoi⟩ }

theorem Good.of_same (hf : t.fctxs = s.fctxs) (hq : ∀ b, (t.buckets b).queue = (s.buckets b).queue)
    (hb : ∀ b, (t.buckets b).busy = (s.buckets b).busy) (ho : t.owed = s.owed) (g : Good s i) :
    Good t i where
  timeout b life he := by
    obtain ⟨f, h, ha⟩ := g.timeout b life (hq b ▸ he); exact ⟨f, hf ▸ h, ha⟩
  response b q p m he := by
    obtain ⟨f, h, ha⟩ := g.response b q p m (hq b ▸ he); exact ⟨f, hf ▸ h, ha⟩
  busy b r hr hri := by
    obtain ⟨f, h, ha⟩ := g.busy b r (hb b ▸ hr) hri; exact ⟨f, hf ▸ h, ha⟩
  home f h := by
    rw [hf] at h
    exact ⟨fun c e he => (g.home f h).1 c e (hq c ▸ he), fun o h' => (g.home f h).2 o (ho ▸ h')⟩
  idle f h := g.idle f (hf ▸ h)
  fresh f h := g.fresh f (hf ▸ h)

end

/-! ## Work that keeps the fctx `Good` -/

/-- Work on the fctx at `i` that keeps it `Good`. -/
structure Keeps (i : Nat) (s s' : Sys) extends Touch i s s' : Prop where
  good : Good s i → Good s' i
  steady : ∀ f, s.fctxs i = some f → ∃ f', s'.fctxs i = some f' ∧ f'.state = f.state

section
variable {i : Nat} {s t u : Sys} {f f' : Fctx}

theorem Keeps.refl (i : Nat) (s : Sys) : Keeps i s s :=
  { Touch.refl i s with good := id, steady := fun f h => ⟨f, h, rfl⟩ }

theorem Keeps.trans (h₁ : Keeps i s t) (h₂ : Keeps i t u) : Keeps i s u :=
  { h₁.toTouch.trans h₂.toTouch with
    good := h₂.good ∘ h₁.good
    steady := fun f hf => by
      obtain ⟨f₁, h₁', hs₁⟩ := h₁.steady f hf
      obtain ⟨f₂, h₂', hs₂⟩ := h₂.steady f₁ h₁'
      exact ⟨f₂, h₂', hs₂.trans hs₁⟩ }

theorem NotBusy.frame {j : Nat} (hb : NotBusy s j) (h : Frame i s t) : NotBusy t j :=
  fun b r hr => hb b r ((h.busy b).symm.trans hr)

theorem Running.live (hr : Running s i) : Live s i :=
  let ⟨f, hf, ha⟩ := hr; ⟨f, hf, by simp [ha]⟩

theorem Running.keeps (hr : Running s i) (h : Keeps i s t) : Running t i := by
  obtain ⟨f, hf, ha⟩ := hr
  obtain ⟨f', hf', hs⟩ := h.steady f hf
  exact ⟨f', hf', hs.trans ha⟩

theorem Keeps.of_same (hf : t.fctxs = s.fctxs) (hq : ∀ b, (t.buckets b).queue = (s.buckets b).queue)
    (hb : ∀ b, (t.buckets b).busy = (s.buckets b).busy) (ho : t.owed = s.owed)
    (hn : s.nextId ≤ t.nextId) (ht : t.trace = s.trace) : Keeps i s t :=
  { Touch.of_same hf hq hb ho hn ht with
    good := Good.of_same hf hq hb ho
    steady := fun f h => ⟨f, hf ▸ h, rfl⟩ }

theorem Keeps.setFctx_progress (hf : s.fctxs i = some f) (hp : f'.progress = f.progress)
    (hc : Retains f f') : Keeps i s (s.setFctx i f') :=
  { touch_setFctx_progress hf hp hc with
    good := fun g => g.setFctx_progress hf hp
    steady := fun f₀ h₀ => by
      rw [hf] at h₀; cases h₀
      exact ⟨f', by simp, by simp only [Fctx.progress, Prod.mk.injEq] at hp; exact hp.1⟩ }

theorem Keeps.setFctx_state (hf : s.fctxs i = some f) (hb : f'.bucketnum = f.bucketnum)
    (hs : f'.state = f.state) (hq : ∀ q, f.queries.any (·.id == q) → f'.queries.any (·.id == q))
    (hi : (f.state ≠ .active → f.queries = [] ∧ f.timer = .inactive) →
      f'.state ≠ .active → f'.queries = [] ∧ f'.timer = .inactive)
    (hw : f.state = .init → f.attributes.addrwait = false → f'.attributes.addrwait = false)
    (hc : Retains f f') : Keeps i s (s.setFctx i f') :=
  { touch_setFctx hf hb (fun h => hs.trans h) hc with
    good := fun g => g.setFctx_state hf hb hs hq (hi (g.idle f hf)) hw
    steady := fun f₀ h₀ => by rw [hf] at h₀; cases h₀; exact ⟨f', by simp, hs⟩ }

theorem Keeps.setBucket {b : Nat} {k : Bucket} (hq : k.queue = (s.buckets b).queue)
    (hb : k.busy = (s.buckets b).busy) : Keeps i s (s.setBucket b k) :=
  .of_same rfl (fun _ => Sys.setBucket_queue hq) (fun _ => Sys.setBucket_busy hb) rfl le_rfl rfl

theorem Keeps.deliver {d : Delivery} : Keeps i s (s.deliver d) :=
  .of_same rfl (fun _ => rfl) (fun _ => rfl) rfl le_rfl rfl

theorem Keeps.note {x : Trace} (hl : Live s i) (hx : x.fctx = i) : Keeps i s (s.note x) :=
  { touch_note hl hx with
    good := Good.of_same rfl (fun _ => rfl) (fun _ => rfl) rfl
    steady := fun f h => ⟨f, h, rfl⟩ }

theorem Keeps.purge {b : Nat} {p : TaskEvent → Bool} : Keeps i s (s.purge b p) :=
  { touch_purge with good := Good.purge, steady := fun f h => ⟨f, h, rfl⟩ }

theorem Keeps.post {b : Nat} {e : TaskEvent} (hf : s.fctxs i = some f) (hb : b = f.bucketnum)
    (he : e.fctx = i) (ht : ∀ life, e ≠ .timeout i life) (hr : ∀ q p m, e ≠ .response i q p m) :
    Keeps i s (s.post b e) :=
  { touch_post (by simp [hf]) he with
    good := fun g => g.post (fun f₀ h₀ _ => by rw [hf] at h₀; cases h₀; exact hb)
      (fun life h => absurd h (ht life)) (fun q p m h => absurd h (hr q p m))
    steady := fun f h => ⟨f, h, rfl⟩ }

theorem Keeps.owe {os : List Owed} (hs : (s.fctxs i).isSome)
    (ho : ∀ f, s.fctxs i = some f → ∀ o ∈ os, o.fctx = i ∧ o.bucket = f.bucketnum) :
    Keeps i s { s with owed := s.owed ++ os } :=
  have ⟨f, hf⟩ := Option.isSome_iff_exists.mp hs
  { touch_owe hs fun o h => (ho f hf o h).1 with
    good := fun g => g.owe fun f h o ho' _ => (ho f h o ho').2
    steady := fun f h => ⟨f, h, rfl⟩ }

end

/-! ## The helpers of one fctx -/

def Stopped (s : Sys) (i : Nat) : Prop :=
  (∃ f, s.fctxs i = some f ∧ f.queries = [] ∧ f.timer = .inactive) ∧
    ∀ b life, .timeout i life ∉ (s.buckets b).queue

section
variable {i : Nat} {s s' : Sys}

theorem fctxStoptimer_spec (h : fctxStoptimer s i = .ok s') :
    Keeps i s s' ∧ (∃ f, s.fctxs i = some f ∧ s'.fctxs i = some { f with timer := .inactive }) ∧
      (Good s i → ∀ b life, .timeout i life ∉ (s'.buckets b).queue) := by
  obtain ⟨f, hf, h⟩ := withFctx_eq_ok.mp h
  cases h
  refine ⟨(Keeps.setFctx_state hf rfl rfl (fun _ => id) (fun h hs => ⟨(h hs).1, rfl⟩)
    (fun _ => id) (.refl f) : Keeps i s (s.setFctx i { f with timer := .inactive })).trans .purge, ⟨f, hf, by simp⟩, fun g b life hm => ?_⟩
  obtain rfl : b = f.bucketnum := (g.home f hf).1 b _ (Sys.purge_sub hm) rfl
  simpa [isTimeoutOf] using Sys.purge_drops hm

theorem fctxCancelquery_keeps {q : Nat} (h : fctxCancelquery s i q = .ok s') : Keeps i s s' := by
  obtain ⟨f, hf, h⟩ := withFctx_eq_ok.mp h
  split at h
  · cases h
    set f' := { f with queries := f.queries.filter (·.id != q) }
    refine { (touch_setFctx hf rfl id (.refl f) : Touch i s (s.setFctx i f')).trans touch_purge with
      good := fun g => ?_, steady := fun f₀ h₀ => ?_ }
    · show Good ((s.purge f.bucketnum (isResponseOf i q)).setFctx i f') i
      have g₁ := g.purge (b := f.bucketnum) (p := isResponseOf i q)
      refine g₁.setFctx hf rfl (fun _ _ he => g₁.running (f := f) hf he) (fun b q' p m he => ?_)
        (fun _ _ hr hri => (g₁.busy_running (f := f) hf hr hri).1)
        (fun hs => by simp [f', g.idle f hf hs]) (g.fresh f hf)
      obtain rfl : b = f.bucketnum := (g.home f hf).1 b _ (Sys.purge_sub he) rfl
      have hq' : q' ≠ q := by simpa [isResponseOf] using Sys.purge_drops he
      obtain ⟨x, hx, hxq⟩ := List.any_eq_true.mp (g₁.queried hf he)
      exact List.any_eq_true.mpr ⟨x, List.mem_filter.mpr ⟨hx, by simp_all⟩, hxq⟩
    · rw [hf] at h₀; cases h₀; exact ⟨f', by simp, rfl⟩
  · cases h

theorem cancelEach_keeps {qs : List Query} (h : cancelEach i s qs = .ok s') : Keeps i s s' := by
  induction qs generalizing s with
  | nil => cases h; exact .refl i _
  | cons q qs ih =>
    obtain ⟨t, ht, h⟩ := bind_eq_ok.mp h
    exact (fctxCancelquery_keeps ht).trans (ih h)

theorem fctxCancelqueries_keeps (h : fctxCancelqueries s i = .ok s') : Keeps i s s' := by
  obtain ⟨f, -, h⟩ := withFctx_eq_ok.mp h
  exact cancelEach_keeps h

theorem fctxCleanupfinds_keeps (h : fctxCleanupfinds s i = .ok s') :
    Keeps i s s' ∧ ∃ f, s'.fctxs i = some f ∧ f.queries = [] := by
  obtain ⟨f, hf, h⟩ := withFctx_eq_ok.mp h
  split at h
  · cases h; exact ⟨.setFctx_progress hf rfl (.refl f), { f with finds := [], find := none }, by simp, ‹_›⟩
  · cases h

theorem fctxCleanupforwaddrs_keeps (h : fctxCleanupforwaddrs s i = .ok s') :
    Keeps i s s' ∧ ∃ f, s'.fctxs i = some f ∧ f.queries = [] := by
  obtain ⟨f, hf, h⟩ := withFctx_eq_ok.mp h
  split at h
  · cases h; exact ⟨.setFctx_progress hf rfl (.refl f), { f with forwaddrs := [] }, by simp, ‹_›⟩
  · cases h

theorem fctxStopeverything_spec (h : fctxStopeverything s i = .ok s') :
    Keeps i s s' ∧ (Good s i → Stopped s' i) := by
  obtain ⟨s₁, h₁, h⟩ := bind_eq_ok.mp h
  obtain ⟨s₂, h₂, h⟩ := bind_eq_ok.mp h
  obtain ⟨s₃, h₃, h₄⟩ := bind_eq_ok.mp h
  have k₁₃ := (fctxCancelqueries_keeps h₁).trans ((fctxCleanupfinds_keeps h₂).1.trans
    (fctxCleanupforwaddrs_keeps h₃).1)
  obtain ⟨f₃, hf₃, hq₃⟩ := (fctxCleanupforwaddrs_keeps h₃).2
  obtain ⟨k₄, ⟨f, hf, hf'⟩, hno⟩ := fctxStoptimer_spec h₄
  rw [hf₃] at hf; cases hf
  exact ⟨k₁₃.trans k₄, fun g => ⟨⟨_, hf', hq₃, rfl⟩, hno (k₁₃.good g)⟩⟩

theorem fctxSendevents_keeps {r : IscResult} (h : fctxSendevents s i r = .ok s') : Keeps i s s' := by
  obtain ⟨f, hf, h⟩ := withFctx_eq_ok.mp h
  split at h
  · cases h
  · cases h
    refine Keeps.trans ?_ .deliver
    exact .setFctx_progress hf rfl (.refl f)

theorem setState_done_spec (h : setState s i .done = .ok s') (hs : Stopped s i) (hb : NotBusy s i) :
    Touch i s s' ∧ (Good s i → Good s' i) ∧ ∃ f, s'.fctxs i = some f ∧ f.state = .done := by
  obtain ⟨f, hf, h⟩ := withFctx_eq_ok.mp h
  cases h
  obtain ⟨⟨f₀, h₀, hq, ht⟩, hno⟩ := hs
  rw [hf] at h₀; cases h₀
  exact ⟨touch_setFctx hf rfl (fun _ => rfl) (.refl f),
    fun g => g.setFctx hf rfl (fun b life he => absurd he (hno b life))
      (fun _ _ _ _ he => g.queried hf he) (fun b r hr hri => absurd hri (hb b r hr))
      (fun _ => ⟨hq, ht⟩) (fun h => by cases h), { f with state := .done }, by simp, rfl⟩

theorem fctxDone_spec {r : IscResult} (h : fctxDone s i r = .ok s') (g : Good s i) (hb : NotBusy s i) :
    Touch i s s' ∧ Good s' i ∧ ∃ f, s'.fctxs i = some f ∧ f.state = .done := by
  obtain ⟨s₁, h₁, h⟩ := bind_eq_ok.mp h
  obtain ⟨s₂, h₂, h₃⟩ := bind_eq_ok.mp h
  obtain ⟨k₁, hs₁⟩ := fctxStopeverything_spec h₁
  obtain ⟨t₂, g₂, f₂, hf₂, hd₂⟩ := setState_done_spec h₂ (hs₁ g) (hb.frame k₁.toFrame)
  have k₃ := fctxSendevents_keeps h₃
  obtain ⟨f', hf', hd'⟩ := k₃.steady f₂ hf₂
  exact ⟨k₁.toTouch.trans (t₂.trans k₃.toTouch), k₃.good (g₂ (k₁.good g)), f', hf', hd'.trans hd₂⟩

theorem fctxDestroy_spec {e : Bool} (h : fctxDestroy s i = .ok (e, s')) :
    Touch i s s' ∧ (Good s i → Good s' i) ∧ s'.fctxs i = none := by
  obtain ⟨f, hf, h⟩ := withFctx_eq_ok.mp h
  dsimp only at h
  split at h
  · rename_i hc
    obtain ⟨-, rfl⟩ := Prod.mk.inj (Except.ok.inj h)
    set k := { s.buckets f.bucketnum with fctxs := (s.buckets f.bucketnum).fctxs.erase i }
    have sub : ∀ b x, x ∈ (((s.setBucket f.bucketnum k).purge f.bucketnum (isTimeoutOf i)).buckets b).queue →
        x ∈ (s.buckets b).queue := fun b x hx => by
      have := Sys.purge_sub hx; rwa [Sys.setBucket_queue (k := k) rfl] at this
    refine ⟨Touch.trans ((Keeps.setBucket (k := k) rfl rfl).trans .purge).toTouch
      (touch_free (s := (s.setBucket f.bucketnum k).purge f.bucketnum (isTimeoutOf i)) hf),
      fun g => ⟨fun b life he => ?_, fun b q p m he => ?_, fun b r hr hri => ?_,
        fun _ h' => by simp at h', fun _ h' => by simp at h', fun _ h' => by simp at h'⟩, by simp⟩
    · obtain rfl : b = f.bucketnum := (g.home f hf).1 b _ (sub b _ he) rfl
      simpa [isTimeoutOf] using Sys.purge_drops he
    · simpa [hc.2.2.1] using g.queried hf (sub b _ he)
    · have hr' : (s.buckets b).busy = some r := by
        rwa [Sys.purge_busy, Sys.setBucket_busy (k := k) rfl] at hr
      have := (g.busy_running hf hr' hri).1
      rcases hc.1 with h | h <;> simp [h] at this
  · cases h

theorem emptyBucket_keeps (h : emptyBucket s = .ok s') : Keeps i s s' := by
  unfold emptyBucket at h
  split at h
  · cases h
  · cases h
    split <;> exact .of_same rfl (fun _ => rfl) (fun _ => rfl) rfl le_rfl rfl

theorem destroyAndEmpty_spec (h : destroyAndEmpty s i = .ok s') :
    Touch i s s' ∧ (Good s i → Good s' i) ∧ s'.fctxs i = none := by
  obtain ⟨⟨e, s₁⟩, h₁, h⟩ := bind_eq_ok.mp h
  obtain ⟨t₁, g₁, n₁⟩ := fctxDestroy_spec h₁
  dsimp only at h
  split at h
  · have k := emptyBucket_keeps (i := i) h
    exact ⟨t₁.trans k.toTouch, k.good ∘ g₁, k.gone n₁⟩
  · cases h; exact ⟨t₁, g₁, n₁⟩

theorem fctxShutdown_keeps (h : fctxShutdown s i = .ok s') : Keeps i s s' := by
  obtain ⟨f, hf, h⟩ := withFctx_eq_ok.mp h
  dsimp only at h
  split at h
  · cases h; exact .refl i s
  · cases h
    have k : Keeps i s (s.setFctx i { f with wantShutdown := true }) :=
      .setFctx_progress hf rfl (.refl f)
    split
    · exact k.trans (.post (f := { f with wantShutdown := true }) (by simp) rfl rfl (fun _ => by simp)
        (fun _ _ _ => by simp))
    · exact k

end

end DnsResolver
