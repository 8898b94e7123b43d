import DnsResolver.Handlers

/-! # A finished fetch stays quiet

In a run where no ADB event comes late, no finished fctx is tried again. -/

namespace DnsResolver

def Fresh (s : Sys) : Prop :=
  ∀ j, s.nextId ≤ j → s.fctxs j = none ∧ (∀ b e, e ∈ (s.buckets b).queue → e.fctx ≠ j) ∧
    ∀ o ∈ s.owed, o.fctx ≠ j

/-- The invariant of the runs. -/
structure Quiet (s : Sys) : Prop where
  good : ∀ i, Good s i
  closing : ∀ i, ClosingAt s i
  fresh : Fresh s

def TriesLive (s s' : Sys) : Prop :=
  ∃ t, s'.trace = s.trace ++ t ∧ ∀ x ∈ t, ∀ f, s.fctxs x.fctx = some f → f.state ≠ .done

def Finished (s : Sys) (i : Nat) : Prop :=
  (∃ f, s.fctxs i = some f ∧ f.state = .done) ∨ (s.fctxs i = none ∧ i < s.nextId)

/-- From `s` to `s'` finished fctxs stay finished and are never tried again. -/
structure Settles (s s' : Sys) : Prop where
  trace : ∃ t, s'.trace = s.trace ++ t ∧ ∀ x ∈ t, ¬Finished s x.fctx
  finished : ∀ i, Finished s i → Finished s' i

section
variable {i : Nat} {s s' t : Sys}

theorem Fresh.lt (h : Fresh s) {f : Fctx} (hf : s.fctxs i = some f) : i < s.nextId := by
  by_contra hn
  rw [(h i (not_lt.mp hn)).1] at hf
  cases hf

theorem Settles.refl (s : Sys) : Settles s s := ⟨⟨[], by simp, by simp⟩, fun _ h => h⟩

theorem Settles.trans (h₁ : Settles s t) (h₂ : Settles t s') : Settles s s' where
  trace := by
    obtain ⟨l₁, hl₁, hx₁⟩ := h₁.trace
    obtain ⟨l₂, hl₂, hx₂⟩ := h₂.trace
    refine ⟨l₁ ++ l₂, by rw [hl₂, hl₁, List.append_assoc], fun x hx hf => ?_⟩
    rcases List.mem_append.mp hx with hx | hx
    · exact hx₁ x hx hf
    · exact hx₂ x hx (h₁.finished _ hf)
  finished j h := h₂.finished j (h₁.finished j h)

theorem Settles.triesLive (h : Settles s s') : TriesLive s s' := by
  obtain ⟨l, hl, hx⟩ := h.trace
  exact ⟨l, hl, fun x hx' f hf hd => hx x hx' (.inl ⟨f, hf, hd⟩)⟩

theorem Settles.of_same (hf : s'.fctxs = s.fctxs) (hn : s.nextId ≤ s'.nextId) (ht : s'.trace = s.trace) :
    Settles s s' where
  trace := ⟨[], by simp [ht], by simp⟩
  finished j h := by
    rw [Finished, hf]
    exact h.imp id fun ⟨h₁, h₂⟩ => ⟨h₁, lt_of_lt_of_le h₂ hn⟩

theorem Settles.of_same_trans (h : Settles t s') (hf : t.fctxs = s.fctxs) (hn : s.nextId ≤ t.nextId)
    (ht : t.trace = s.trace) : Settles s s' :=
  (Settles.of_same hf hn ht).trans h

theorem Settles.of_new (hs : Fresh s) (hj : s.nextId ≤ i) (hf : ∀ k, k ≠ i → s'.fctxs k = s.fctxs k)
    (hn : i < s'.nextId) (ht : s'.trace = s.trace) : Settles s s' where
  trace := ⟨[], by simp [ht], by simp⟩
  finished k h := by
    have hk : k ≠ i := by
      rintro rfl
      rcases h with ⟨f, hf, -⟩ | ⟨-, hlt⟩
      · exact absurd (hs.lt hf) (not_lt.mpr hj)
      · exact absurd hlt (not_lt.mpr hj)
    rw [Finished, hf k hk]
    exact h.imp id fun ⟨h₁, h₂⟩ => ⟨h₁, by omega⟩

theorem Frame.settles (h : Frame i s s') (hs : Fresh s) : Settles s s' where
  trace := by
    obtain ⟨l, hl, hx⟩ := h.trace
    refine ⟨l, hl, fun x hx' hf => ?_⟩
    obtain ⟨hi, f, hf₀, hd⟩ := hx x hx'
    rw [hi] at hf
    rcases hf with ⟨f', hf', hd'⟩ | ⟨hn, -⟩
    · rw [hf₀] at hf'; cases hf'; exact hd hd'
    · rw [hf₀] at hn; cases hn
  finished j hj := by
    by_cases hji : j = i
    · subst hji
      rcases hj with ⟨f, hf, hd⟩ | ⟨hn, hlt⟩
      · cases hf' : s'.fctxs j with
        | none => exact .inr ⟨hf', lt_of_lt_of_le (hs.lt hf) h.nextId⟩
        | some f' => exact .inl ⟨f', hf', (h.stays f f' hf hf').2 hd⟩
      · exact .inr ⟨h.gone hn, lt_of_lt_of_le hlt h.nextId⟩
    · rw [Finished, h.fctxs j hji]
      exact hj.imp id fun ⟨h₁, h₂⟩ => ⟨h₁, lt_of_lt_of_le h₂ h.nextId⟩

theorem Good.sub {k : Nat} (g : Good s k) (hf : t.fctxs k = s.fctxs k)
    (hq : ∀ b e, e ∈ (t.buckets b).queue → e ∈ (s.buckets b).queue)
    (hb : ∀ b r, (t.buckets b).busy = some r → (s.buckets b).busy = some r)
    (ho : ∀ o ∈ t.owed, o ∈ s.owed) : Good t k where
  timeout b life he := by
    obtain ⟨f, h, ha⟩ := g.timeout b life (hq b _ he); exact ⟨f, hf ▸ h, ha⟩
  response b q p m he := by
    obtain ⟨f, h, ha⟩ := g.response b q p m (hq b _ he); exact ⟨f, hf ▸ h, ha⟩
  busy b r hr hri := by
    obtain ⟨f, h, ha⟩ := g.busy b r (hb b r hr) hri; exact ⟨f, hf ▸ h, ha⟩
  home f h := by
    rw [hf] at h
    exact ⟨fun c e he => (g.home f h).1 c e (hq c e he), fun o h' => (g.home f h).2 o (ho o h')⟩
  idle f h := g.idle f (hf ▸ h)
  fresh f h := g.fresh f (hf ▸ h)

theorem Quiet.sub (q : Quiet s) (hf : t.fctxs = s.fctxs)
    (hq : ∀ b e, e ∈ (t.buckets b).queue → e ∈ (s.buckets b).queue)
    (hb : ∀ b r, (t.buckets b).busy = some r → (s.buckets b).busy = some r)
    (ho : ∀ o ∈ t.owed, o ∈ s.owed) (hn : s.nextId ≤ t.nextId) : Quiet t where
  good k := (q.good k).sub (by rw [hf]) hq hb ho
  closing k f h := q.closing k f (hf ▸ h)
  fresh j hj := by
    obtain ⟨h₁, h₂, h₃⟩ := q.fresh j (hn.trans hj)
    exact ⟨hf ▸ h₁, fun b e he => h₂ b e (hq b e he), fun o h' => h₃ o (ho o h')⟩

theorem Quiet.of_same (q : Quiet s) (hf : t.fctxs = s.fctxs) (hb : t.buckets = s.buckets)
    (ho : t.owed = s.owed) (hn : s.nextId ≤ t.nextId) : Quiet t :=
  q.sub hf (fun _ _ h => hb ▸ h) (fun _ _ h => hb ▸ h) (fun _ h => ho ▸ h) hn

theorem Quiet.frame (q : Quiet s) (h : Frame i s t) (g : Good t i) (c : ClosingAt t i) : Quiet t where
  good j := if hj : j = i then hj ▸ g else (q.good j).frame h hj
  closing j := if hj : j = i then hj ▸ c else fun f hf => q.closing j f (by rwa [h.fctxs j hj] at hf)
  fresh j hj := by
    obtain ⟨h₁, h₂, h₃⟩ := q.fresh j (h.nextId.trans hj)
    have hnew : ∀ x : Nat, x = i → (s.fctxs i).isSome → x ≠ j := fun x hx hs hxj => by
      subst hx hxj; simp [h₁] at hs
    refine ⟨?_, fun b e he => ?_, fun o ho => ?_⟩
    · by_cases hji : j = i
      · subst hji; exact h.gone h₁
      · rw [h.fctxs j hji]; exact h₁
    · rcases h.queue b e he with he | ⟨hei, hs⟩
      · exact h₂ b e he
      · exact hnew _ hei hs
    · rcases h.owed o ho with ho | ⟨hoi, hs⟩
      · exact h₃ o ho
      · exact hnew _ hoi hs

theorem Quiet.touch (q : Quiet s) (h : Touch i s t) (g : Good t i) : Quiet t :=
  q.frame h.toFrame g ((q.closing i).touch h)

theorem Quiet.keeps (q : Quiet s) (k : Keeps i s t) : Quiet t := q.touch k.toTouch (k.good (q.good i))

theorem Quiet.init (cfg : Config) : Quiet (Sys.init cfg) where
  good _ := ⟨fun _ _ h => by simp [Sys.init] at h, fun _ _ _ _ h => by simp [Sys.init] at h,
    fun _ _ h => by simp [Sys.init] at h, fun _ h => by simp [Sys.init] at h,
    fun _ h => by simp [Sys.init] at h, fun _ h => by simp [Sys.init] at h⟩
  closing _ _ h := by simp [Sys.init] at h
  fresh _ _ := ⟨rfl, fun _ _ h => by simp [Sys.init] at h, fun _ h => by simp [Sys.init] at h⟩

theorem Quiet.notBusy (q : Quiet s) {b : Nat} {e : TaskEvent} (hb : (s.buckets b).busy = none)
    (he : e ∈ (s.buckets b).queue) : NotBusy s e.fctx := by
  intro c r hr hri
  obtain ⟨f, hf, -, hfb⟩ := (q.good e.fctx).busy c r hr hri
  have hbf := ((q.good e.fctx).home f hf).1 b e he rfl
  subst hfb hbf
  rw [hb] at hr; cases hr

theorem Quiet.post_owed (q : Quiet s) {b : Nat} {e : TaskEvent}
    (hw : ∀ i life, e ≠ .timeout i life) (hr : ∀ i q p m, e ≠ .response i q p m)
    (hh : ∀ f, s.fctxs e.fctx = some f → b = f.bucketnum) (hn : e.fctx < s.nextId) :
    Quiet (s.post b e) where
  good i := (q.good i).post (fun f hf hei => hh f (by rw [hei]; exact hf)) (fun life h => absurd h (hw i life))
    (fun q p m h => absurd h (hr i q p m))
  closing i := q.closing i
  fresh j hj := by
    obtain ⟨h₁, h₂, h₃⟩ := q.fresh j hj
    refine ⟨h₁, fun c x hx => (Sys.mem_post.mp hx).elim (h₂ c x) fun ⟨_, hx⟩ => ?_, h₃⟩
    subst hx; exact Nat.ne_of_lt (Nat.lt_of_lt_of_le hn hj)

end

/-! ## The callers -/

section
variable {s s' : Sys}

theorem fctxJoin_keeps {j fetch task : Nat} (h : fctxJoin s j fetch task = .ok s') : Keeps j s s' := by
  obtain ⟨f, hf, h⟩ := withFctx_eq_ok.mp h
  cases h
  have k : Keeps j s (s.setFctx j
      { f with events := f.events ++ [{ fetch, task }], references := f.references + 1 }) :=
    .setFctx_progress hf rfl ⟨rfl, Nat.le_succ _, le_rfl, rfl⟩
  exact k.trans (.of_same rfl (fun _ => rfl) (fun _ => rfl) rfl le_rfl rfl)

theorem fctxCreate_new {cfg : Config} {cenv : CreateEnv} {name : Name} {type : RdataType}
    {domain : Option (Name × List Name)} {options : FetchOptions} {b : Nat} {g : Fctx}
    (h : fctxCreate cfg cenv name type domain options b = .ok g) :
    g.state = .init ∧ g.bucketnum = b ∧ g.queries = [] ∧ g.timer = .inactive ∧ g.attributes = {} := by
  unfold fctxCreate at h
  split at h
  · cases h
  · obtain ⟨z, -, h⟩ := map_eq_ok.mp h
    cases h
    simp

theorem Fresh.setBucket (h : Fresh s) {b : Nat} {k : Bucket} (hq : k.queue = (s.buckets b).queue) :
    Fresh (s.setBucket b k) := fun j hj =>
  have ⟨h₁, h₂, h₃⟩ := h j hj
  ⟨h₁, fun c e he => h₂ c e (by rwa [Sys.setBucket_queue hq] at he), h₃⟩

theorem Quiet.setBucket_sub (q : Quiet s) {b : Nat} {k : Bucket}
    (hq : ∀ c e, e ∈ ((s.setBucket b k).buckets c).queue → e ∈ (s.buckets c).queue)
    (hb : k.busy = (s.buckets b).busy) : Quiet (s.setBucket b k) :=
  q.sub rfl hq (fun _ _ hr => by rwa [Sys.setBucket_busy hb] at hr) (fun _ h => h) le_rfl

theorem Quiet.setBucket (q : Quiet s) {b : Nat} {k : Bucket} (hq : k.queue = (s.buckets b).queue)
    (hb : k.busy = (s.buckets b).busy) : Quiet (s.setBucket b k) :=
  q.setBucket_sub (fun _ _ he => by rwa [Sys.setBucket_queue hq] at he) hb

theorem Quiet.setFctx_new (q : Quiet s) {j : Nat} {g : Fctx} (hj : s.nextId ≤ j)
    (hg : g.state = .init ∧ g.queries = [] ∧ g.timer = .inactive ∧ g.attributes = {}) :
    Quiet { s.setFctx j g with nextId := j + 1 } := by
  obtain ⟨hnone, hnoev, hnoow⟩ := q.fresh j hj
  refine ⟨fun k => ?_, fun k => ?_, fun i hi => ?_⟩
  · by_cases hk : k = j
    · subst hk
      refine ⟨fun c life he => absurd rfl (hnoev c _ he), fun c q p m he => absurd rfl (hnoev c _ he),
        fun c r hr hri => ?_, fun f hf => ?_, fun f hf _ => ?_, fun f hf _ => ?_⟩
      · obtain ⟨f, hf, -⟩ := (q.good k).busy c r hr hri
        rw [hnone] at hf; cases hf
      all_goals simp at hf; subst hf
      · exact ⟨fun c e he hei => absurd hei (hnoev c e he), fun o ho hoi => absurd hoi (hnoow o ho)⟩
      · exact ⟨hg.2.1, hg.2.2.1⟩
      · simp [hg.2.2.2]
    · exact (q.good k).sub (by simp [hk]) (fun _ _ h => h) (fun _ _ h => h) (fun _ h => h)
  · intro f hf
    by_cases hk : k = j
    · subst hk; simp at hf; subst hf; simp [Closing, hg.2.2.2]
    · exact q.closing k f (by simpa [hk] using hf)
  · obtain ⟨h₁, h₂, h₃⟩ := q.fresh i (by simp at hi; omega)
    exact ⟨by simpa [show i ≠ j by simp at hi; omega] using h₁, h₂, h₃⟩

theorem Quiet.link (q : Quiet s) {j b : Nat} {g : Fctx} (hj : s.nextId ≤ j)
    (hg : g.state = .init ∧ g.queries = [] ∧ g.timer = .inactive ∧ g.attributes = {}) (l : List Nat) :
    Quiet ({ s.setFctx j g with nextId := j + 1 }.setBucket b { s.buckets b with fctxs := l }) ∧
      Settles s ({ s.setFctx j g with nextId := j + 1 }.setBucket b { s.buckets b with fctxs := l }) :=
  ⟨(q.setFctx_new hj hg).setBucket rfl rfl, .of_new q.fresh hj (fun _ hk => by simp [hk]) (by simp) rfl⟩

theorem createfetch_quiet {cfg : Config} {cenv : CreateEnv} {name : Name} {type : RdataType}
    {domain : Option (Name × List Name)} {options : FetchOptions} {task : Nat} {r : IscResult}
    (h : createfetch cfg cenv s name type domain options task = .ok (r, s')) (q : Quiet s) :
    Quiet s' ∧ Settles s s' := by
  unfold createfetch at h
  split at h
  · cases h; exact ⟨q, .refl s⟩
  dsimp only at h
  have q₁ : Quiet { s with nextId := s.nextId + 1 } := q.of_same rfl rfl rfl (Nat.le_succ _)
  have st₁ : Settles s { s with nextId := s.nextId + 1 } := .of_same rfl (Nat.le_succ _) rfl
  split at h
  · cases h; exact ⟨q₁, st₁⟩
  split at h
  · split at h
    · obtain ⟨s₂, h₂, h⟩ := map_eq_ok.mp h
      cases h
      have k := fctxJoin_keeps h₂
      exact ⟨q₁.keeps k, st₁.trans (k.settles q₁.fresh)⟩
    · cases h; exact ⟨q₁, st₁⟩
  split at h
  · cases h; exact ⟨q₁, st₁⟩
  rename_i g hg
  obtain ⟨hgi, hgb, hgq, hgt, hga⟩ := fctxCreate_new hg
  obtain ⟨q₃, st₃⟩ := q₁.link (j := s.nextId + 1) (b := cfg.hash name % cfg.nbuckets) le_rfl
    ⟨hgi, hgq, hgt, hga⟩ ((s.buckets (cfg.hash name % cfg.nbuckets)).fctxs ++ [s.nextId + 1])
  split at h
  · obtain ⟨s₄, h₄, h⟩ := map_eq_ok.mp h
    cases h
    have k₄ := fctxJoin_keeps h₄
    obtain ⟨f₄, hf₄, -⟩ := k₄.steady g (by simp)
    have hb₄ : f₄.bucketnum = cfg.hash name % cfg.nbuckets := (k₄.stays g f₄ (by simp) hf₄).1.trans hgb
    have k := k₄.trans (.post (e := .start _) hf₄ hb₄.symm rfl (fun _ => by simp) (fun _ _ _ => by simp))
    exact ⟨q₃.keeps k, st₁.trans (st₃.trans (k.settles q₃.fresh))⟩
  · obtain ⟨⟨e, s₄⟩, h₄, h⟩ := map_eq_ok.mp h
    cases h
    obtain ⟨t, g', -⟩ := fctxDestroy_spec h₄
    exact ⟨q₃.touch t (g' (q₃.good _)), st₁.trans (st₃.trans (t.settles q₃.fresh))⟩

theorem cancelfetch_keeps {fetch : Nat} (h : cancelfetch s fetch = .ok s') : ∃ j, Keeps j s s' := by
  unfold cancelfetch at h
  split at h
  · cases h
  rename_i j _
  obtain ⟨f, hf, h⟩ := withFctx_eq_ok.mp h
  refine ⟨j, ?_⟩
  split at h
  · cases h; exact .refl j s
  split at h
  · cases h; exact .refl j s
  · cases h
    refine Keeps.trans ?_ .deliver
    exact .setFctx_progress hf rfl (.refl f)

theorem destroyfetch_spec {fetch : Nat} (h : destroyfetch s fetch = .ok s') (q : Quiet s) :
    ∃ j, Frame j s s' ∧ Good s' j ∧ ClosingAt s' j := by
  unfold destroyfetch at h
  split at h
  · cases h
  rename_i j _
  obtain ⟨f, hf, h⟩ := withFctx_eq_ok.mp h
  refine ⟨j, ?_⟩
  generalize hf₁ : { f with references := f.references - 1 } = f₁ at h
  dsimp only at h
  split at h
  · cases h
  obtain ⟨_, -, h⟩ := bind_eq_ok.mp h
  split at h
  · cases h
  obtain ⟨_, -, h⟩ := bind_eq_ok.mp h
  have hp : f₁.progress = f.progress := by subst hf₁; rfl
  have k : Keeps j (s.setFctx j f₁) { s.setFctx j f₁ with fetches := Function.update s.fetches fetch none } :=
    .of_same rfl (fun _ => rfl) (fun _ => rfl) rfl le_rfl rfl
  have fr := (frame_setFctx hf (by subst hf₁; rfl) (by subst hf₁; exact id)).trans k.toFrame
  have g₁ := k.good ((q.good j).setFctx_progress hf hp)
  have c₁ : f₁.references ≠ 0 ∨ ¬(f₁.pending = 0 ∧ f₁.validating = 0 ∧ f₁.attributes.shuttingdown) →
      ClosingAt { s.setFctx j f₁ with fetches := Function.update s.fetches fetch none } j := by
    intro hz f' h' hsd
    simp only [Sys.setFctx, Function.update_same, Option.some.injEq] at h'
    subst h' hf₁
    refine ⟨(q.closing j f hf hsd).1, fun ⟨h₁, h₂, h₃⟩ => ?_⟩
    rcases hz with hz | hz
    · exact hz h₁
    · exact hz ⟨h₂, h₃, hsd⟩
  split at h
  · rename_i hr
    cases h
    exact ⟨fr, g₁, c₁ (.inl hr)⟩
  split at h
  · obtain ⟨t, g', hn⟩ := destroyAndEmpty_spec h
    exact ⟨fr.trans t.toFrame, g' g₁, fun _ h' => by rw [hn] at h'; cases h'⟩
  · rename_i hz
    have k₂ := fctxShutdown_keeps h
    exact ⟨fr.trans k₂.toFrame, k₂.good g₁, (c₁ (.inr hz)).touch k₂.toTouch⟩

theorem shutdownEach_quiet {l : List Nat} (h : shutdownEach s l = .ok s') (q : Quiet s) :
    Quiet s' ∧ Settles s s' := by
  induction l generalizing s with
  | nil => cases h; exact ⟨q, .refl _⟩
  | cons j l ih =>
    obtain ⟨t, ht, h⟩ := bind_eq_ok.mp h
    have k := fctxShutdown_keeps ht
    obtain ⟨q', h'⟩ := ih h (q.keeps k)
    exact ⟨q', (k.settles q.fresh).trans h'⟩

theorem shutdownBucket_quiet {b : Nat} (h : shutdownBucket s b = .ok s') (q : Quiet s) :
    Quiet s' ∧ Settles s s' := by
  obtain ⟨t, ht, h⟩ := bind_eq_ok.mp h
  obtain ⟨qt, htr⟩ := shutdownEach_quiet ht q
  have qu : Quiet (t.setBucket b { t.buckets b with exiting := true }) := qt.setBucket rfl rfl
  dsimp only at h
  split at h
  · cases h; exact ⟨qu, htr.trans (.of_same rfl le_rfl rfl)⟩
  split at h
  · cases h
  · cases h
    exact ⟨qu.of_same rfl rfl rfl le_rfl, htr.trans (.of_same rfl le_rfl rfl)⟩

theorem shutdownBuckets_quiet {l : List Nat} (h : shutdownBuckets s l = .ok s') (q : Quiet s) :
    Quiet s' ∧ Settles s s' := by
  induction l generalizing s with
  | nil => cases h; exact ⟨q, .refl _⟩
  | cons b l ih =>
    obtain ⟨t, ht, h⟩ := bind_eq_ok.mp h
    obtain ⟨qt, htr⟩ := shutdownBucket_quiet ht q
    obtain ⟨q', h'⟩ := ih h qt
    exact ⟨q', htr.trans h'⟩

theorem shutdown_quiet {cfg : Config} (h : shutdown cfg s = .ok s') (q : Quiet s) :
    Quiet s' ∧ Settles s s' := by
  unfold shutdown at h
  split at h
  · cases h; exact ⟨q, .refl s⟩
  obtain ⟨t, ht, h⟩ := bind_eq_ok.mp h
  obtain ⟨qt, htr⟩ := shutdownBuckets_quiet ht (q.of_same rfl rfl rfl le_rfl)
  cases h
  split
  · exact ⟨qt.of_same rfl rfl rfl le_rfl,
      (htr.of_same_trans rfl le_rfl rfl : Settles s t).trans (.of_same rfl le_rfl rfl)⟩
  · exact ⟨qt, htr.of_same_trans rfl le_rfl rfl⟩

end

/-! ## One step -/

/-- The step is `fctx_finddone` taking its `ADDRWAIT` branch for a finished fctx. -/
def lateFinddone (s : Sys) : Action → Bool
  | .run b _ =>
    match (s.buckets b).busy, (s.buckets b).queue with
    | none, .finddone i _ :: _ => lateFind s i
    | _, _ => false
  | _ => false

section
variable {cfg : Config} {s s' : Sys}

theorem Good.setBusy {j b : Nat} {r : Resume} (g : Good s j)
    (hr : r.fctx = j → ∃ f, s.fctxs j = some f ∧ f.state = .active ∧ f.bucketnum = b) :
    Good (s.setBucket b { s.buckets b with busy := some r }) j :=
  have hq : ∀ c, ((s.setBucket b { s.buckets b with busy := some r }).buckets c).queue = (s.buckets c).queue :=
    fun _ => Sys.setBucket_queue rfl
  { timeout := fun c life he => g.timeout c life (hq c ▸ he)
    response := fun c q p m he => g.response c q p m (hq c ▸ he)
    busy := fun c r' hr' hrj => by
      simp only [Sys.setBucket, Function.update_apply] at hr'
      split at hr'
      · subst c; cases hr'; exact hr hrj
      · exact g.busy c r' hr' hrj
    home := fun f hf => ⟨fun c e he => (g.home f hf).1 c e (hq c ▸ he), (g.home f hf).2⟩
    idle := g.idle
    fresh := g.fresh }

theorem resqueryResponse_quiet {i qid : Nat} {env : Env} {parse : IscResult} {m : Message}
    (h : resqueryResponse cfg env s i qid parse m = .ok s') (q : Quiet s) :
    Quiet s' ∧ Settles s s' := by
  obtain ⟨f, f', r, w, hf, ha, hc, hri, rfl⟩ := resqueryResponse_spec h (q.good i)
  have k : Keeps i s { s.setFctx i f' with cacheWrites := s.cacheWrites ++ w } :=
    (Keeps.setFctx_progress hf (Fctx.core_progress hc) (Fctx.core_retains hc)).trans
      (.of_same rfl (fun _ => rfl) (fun _ => rfl) rfl le_rfl rfl)
  have q₁ := q.keeps k
  have hs : f'.state = f.state ∧ f'.bucketnum = f.bucketnum := by
    have := Fctx.core_progress hc; simp only [Fctx.progress, Prod.mk.injEq] at this; exact ⟨this.1, this.2.1⟩
  refine ⟨⟨fun j => (q₁.good j).setBusy fun hj => ?_, fun j => q₁.closing j, q₁.fresh.setBucket rfl⟩,
    (k.settles q.fresh).trans (.of_same rfl le_rfl rfl)⟩
  subst hj hri
  exact ⟨f', by simp, hs.1.trans ha, hs.2⟩

theorem dispatch_quiet {env : Env} {e : TaskEvent} (q : Quiet s) (nb : NotBusy s e.fctx)
    (ht : ∀ i life, e = .timeout i life → Running s i)
    (hl : ∀ i more, e = .finddone i more → lateFind s i = false)
    (h : dispatch cfg env s e = .ok s') : Quiet s' ∧ Settles s s' := by
  cases e with
  | start i =>
    obtain ⟨t, g, c⟩ := fctxStart_spec h (q.good i) nb (q.closing i)
    exact ⟨q.frame t.toFrame g c, t.settles q.fresh⟩
  | doshutdown i =>
    obtain ⟨fr, g, c⟩ := fctxDoshutdown_spec h (q.good i) nb
    exact ⟨q.frame fr g c, fr.settles q.fresh⟩
  | timeout i life =>
    obtain ⟨t, g⟩ := fctxTimeout_spec h ⟨q.good i, ht i life rfl, nb⟩
    exact ⟨q.touch t g, t.settles q.fresh⟩
  | finddone i more =>
    obtain ⟨fr, g, c⟩ := fctxFinddone_spec h (q.good i) nb (q.closing i) (hl i more rfl)
    exact ⟨q.frame fr g c, fr.settles q.fresh⟩
  | response i qid parse m => exact resqueryResponse_quiet h q
  | senddone i qid result =>
    have k := resquerySenddone_keeps h
    exact ⟨q.keeps k, k.settles q.fresh⟩
  | connected i qr result =>
    have k := resqueryConnected_keeps h
    exact ⟨q.keeps k, k.settles q.fresh⟩

theorem Quiet.clearBusy (q : Quiet s) (b : Nat) : Quiet (s.setBucket b { s.buckets b with busy := none }) :=
  q.sub rfl (fun _ _ he => by rwa [Sys.setBucket_queue (k := { s.buckets b with busy := none }) rfl] at he)
    (fun c r hr => by simp only [Sys.setBucket, Function.update_apply] at hr; split at hr <;> simp_all)
    (fun _ h => h) le_rfl

theorem Quiet.pop (q : Quiet s) {b : Nat} {e : TaskEvent} {rest : List TaskEvent}
    (hq : (s.buckets b).queue = e :: rest) : Quiet (s.setBucket b { s.buckets b with queue := rest }) :=
  q.setBucket_sub (fun c x hx => by
      simp only [Sys.setBucket, Function.update_apply] at hx
      split at hx
      · subst c; rw [hq]; exact List.mem_cons_of_mem _ hx
      · exact hx) rfl

theorem run_quiet {b : Nat} {env : Env} (q : Quiet s) (hl : lateFinddone s (.run b env) = false)
    (h : step cfg s (.run b env) = .ok s') : Quiet s' ∧ Settles s s' := by
  simp only [step] at h
  split at h
  · rename_i _ r hbusy
    have q₀ := q.clearBusy b
    obtain ⟨f, hf, ha, hfb⟩ := (q.good r.fctx).busy b r hbusy rfl
    have nb : NotBusy (s.setBucket b { s.buckets b with busy := none }) r.fctx := by
      intro c r' hr' hri
      simp only [Sys.setBucket, Function.update_apply] at hr'
      split at hr'
      · cases hr'
      · rename_i hc
        obtain ⟨f', hf', -, hfb'⟩ := (q.good r.fctx).busy c r' hr' hri
        rw [hf] at hf'; cases hf'
        exact hc (hfb'.symm.trans hfb)
    obtain ⟨t, g⟩ := resqueryFinish_spec h ⟨q₀.good _, ⟨f, hf, ha⟩, nb⟩
    exact ⟨q₀.touch t g, (t.settles q₀.fresh).of_same_trans rfl le_rfl rfl⟩
  · rename_i e rest hbusy hqueue
    have hmem : e ∈ (s.buckets b).queue := by rw [hqueue]; simp
    have nb := q.notBusy hbusy hmem
    obtain ⟨q', ht⟩ := dispatch_quiet (q.pop hqueue)
      (fun c r hr => nb c r (by rwa [Sys.setBucket_busy (k := { s.buckets b with queue := rest }) rfl] at hr))
      (fun i life he => by subst he; exact (q.good i).timeout b life hmem)
      (fun i more he => by subst he; simpa [lateFinddone, hbusy, hqueue] using hl) h
    exact ⟨q', ht.of_same_trans rfl le_rfl rfl⟩
  · cases h; exact ⟨q, .refl s⟩

theorem fire_quiet {i : Nat} {life : Bool} (q : Quiet s) (he : enabled s (.fire i life) = true)
    (h : step cfg s (.fire i life) = .ok s') : Quiet s' ∧ Settles s s' := by
  obtain ⟨f, hf, h⟩ := withFctx_eq_ok.mp h
  cases h
  have ha : f.state = .active := by
    by_contra hn
    simp [enabled, hf, ((q.good i).idle f hf hn).2] at he
  have t := (touch_setFctx hf rfl id (.refl f) : Touch i s (s.setFctx i { f with timer := .inactive })).trans
    (touch_post (b := f.bucketnum) (e := .timeout i life) (by simp) rfl)
  have g : Good (s.setFctx i { f with timer := .inactive }) i :=
    (q.good i).setFctx_state hf rfl rfl (fun _ => id) (fun h => absurd ha h) fun _ => id
  exact ⟨q.touch t (g.post (fun f₀ h₀ _ => by simp at h₀; subst h₀; rfl)
      (fun _ _ => ⟨{ f with timer := .inactive }, by simp, ha⟩) (fun _ _ _ h => by cases h)),
    t.settles q.fresh⟩

theorem Owed.event_spec (o : Owed) (more : Bool) (result : IscResult) :
    (o.event more result).1 = o.bucket ∧ (o.event more result).2.fctx = o.fctx ∧
      (∀ i life, (o.event more result).2 ≠ .timeout i life) ∧
      ∀ i q p m, (o.event more result).2 ≠ .response i q p m := by
  cases o <;> simp [Owed.event, Owed.bucket, Owed.fctx, TaskEvent.fctx]

theorem complete_quiet {k : Nat} {more : Bool} {result : IscResult} (q : Quiet s)
    (h : step cfg s (.complete k more result) = .ok s') : Quiet s' ∧ Settles s s' := by
  simp only [step] at h
  split at h
  · cases h; exact ⟨q, .refl s⟩
  rename_i o ho
  obtain ⟨hb, hfx, hw, hr⟩ := o.event_spec more result
  rcases hoe : o.event more result with ⟨b, e⟩
  simp only [hoe] at hb hfx hw hr h
  cases h
  have hmem : o ∈ s.owed := List.getElem?_mem ho
  have q₁ : Quiet { s with owed := s.owed.eraseIdx k } :=
    q.sub rfl (fun _ _ h => h) (fun _ _ h => h) (fun _ h => List.mem_of_mem_eraseIdx h) le_rfl
  refine ⟨q₁.post_owed hw hr (fun f hf => ?_) ?_, .of_same rfl le_rfl rfl⟩
  · rw [hb]; exact ((q.good _).home f (hfx ▸ hf)).2 o hmem rfl
  · rw [hfx]
    by_contra hn
    exact (q.fresh o.fctx (not_lt.mp hn)).2.2 o hmem rfl

theorem respond_quiet {i qid : Nat} {parse : IscResult} {m : Message} (q : Quiet s)
    (he : enabled s (.respond i qid parse m) = true) (h : step cfg s (.respond i qid parse m) = .ok s') :
    Quiet s' ∧ Settles s s' := by
  obtain ⟨f, hf, h⟩ := withFctx_eq_ok.mp h
  cases h
  have hq : f.queries.any (·.id == qid) := by
    simp only [enabled, hf, Option.map_some', Option.getD_some, Bool.and_eq_true,
      List.any_eq_true] at he
    obtain ⟨⟨x, hx, hxq⟩, -⟩ := he
    exact List.any_eq_true.mpr ⟨x, hx, by simp_all⟩
  have t := touch_post (i := i) (s := s) (b := f.bucketnum) (e := .response i qid parse m) (by simp [hf]) rfl
  exact ⟨q.touch t ((q.good i).post (fun f₀ h₀ _ => by rw [hf] at h₀; cases h₀; rfl)
      (fun _ h => by cases h) (fun _ _ _ h => by cases h; exact ⟨f, hf, hq⟩)),
    t.settles q.fresh⟩

/-- Every step keeps `Quiet`, and tries only unfinished fctxs, unless it is a `lateFinddone`. -/
theorem step_quiet {a : Action} (q : Quiet s) (he : enabled s a = true)
    (hl : lateFinddone s a = false) (h : step cfg s a = .ok s') : Quiet s' ∧ Settles s s' := by
  cases a with
  | createfetch name type domain options task cenv =>
    obtain ⟨⟨r, s₁⟩, h₁, rfl⟩ := map_eq_ok.mp h
    exact createfetch_quiet h₁ q
  | cancelfetch fetch =>
    obtain ⟨j, k⟩ := cancelfetch_keeps h
    exact ⟨q.keeps k, k.settles q.fresh⟩
  | destroyfetch fetch =>
    obtain ⟨j, fr, g, c⟩ := destroyfetch_spec h q
    exact ⟨q.frame fr g c, fr.settles q.fresh⟩
  | shutdown => exact shutdown_quiet h q
  | whenshutdown l =>
    cases h
    unfold whenshutdown
    split <;> exact ⟨q.of_same rfl rfl rfl le_rfl, .of_same rfl le_rfl rfl⟩
  | fire i life => exact fire_quiet q he h
  | complete k more result => exact complete_quiet q h
  | respond i qid parse m => exact respond_quiet q he h
  | run b env => exact run_quiet q hl h

end

/-! ## Runs -/

/-- The runs in which no step is a `lateFinddone`. -/
inductive OnTime (cfg : Config) (s : Sys) : Sys → Prop
  | refl : OnTime cfg s s
  | step {t t' : Sys} (a : Action) : OnTime cfg s t → enabled t a → lateFinddone t a = false →
      step cfg t a = .ok t' → OnTime cfg s t'

theorem OnTime.settles {cfg : Config} {s s' : Sys} (h : OnTime cfg s s') (q : Quiet s) :
    Quiet s' ∧ Settles s s' := by
  induction h with
  | refl => exact ⟨q, .refl s⟩
  | step a _ he hl hs ih =>
    obtain ⟨q', st⟩ := step_quiet ih.1 he hl hs
    exact ⟨q', ih.2.trans st⟩

def triesFinished (s s' : Sys) : Bool :=
  (s'.trace.drop s.trace.length).any fun x => ((s.fctxs x.fctx).map (·.state == .done)).getD false

def idleShutdown (s : Sys) (i : Nat) : Bool :=
  ((s.fctxs i).map fun f => f.attributes.shuttingdown && f.references == 0 && f.pending == 0 &&
    f.validating == 0).getD false

theorem late_step_of_run (as : List Action) (a : Action) {p : Sys → Sys → Bool}
    (h : endsIn (fun s => (enabled s a && lateFinddone s a &&
      match step oneBucket s a with
      | .ok s' => p s s'
      | .error _ => false) = true) (run oneBucket (Sys.init oneBucket) as)) :
    ∃ s s', Reachable oneBucket s ∧ enabled s a ∧ lateFinddone s a ∧ step oneBucket s a = .ok s' ∧
      p s s' := by
  obtain ⟨s, hs, hp⟩ := reachable_of_run as h
  simp only [Bool.and_eq_true] at hp
  obtain ⟨⟨he, hl⟩, hp⟩ := hp
  split at hp
  · exact ⟨s, _, hs, he, hl, ‹_›, hp⟩
  · cases hp

def halfKnown : Env :=
  { answering with
    createfind := fun n => if n = ["ns1", "com"] then .addresses { sockaddr := 1, srtt := 0 } [] else .wait }

def lateTry : List Action :=
  [.createfetch aExampleCom .a none {} 7 comCutTwo, .run 0 halfKnown,
    .respond 1 2 .success (reply .servfail [] []), .run 0 lookingUp, .run 0 lookingUp,
    .fire 1 true, .run 0 lookingUp, .complete 0 true .success]

def lateShutdown : List Action :=
  [fetchA 7, .run 0 lookingUp, .cancelfetch 0, .destroyfetch 0, .run 0 lookingUp,
    .complete 0 false .success]

/-- In an `OnTime` run no finished fctx is tried again, and a closing fctx is freed. -/
theorem finished_fetch_stays_quiet :
    (∀ (cfg : Config) (s s' : Sys), OnTime cfg (Sys.init cfg) s → OnTime cfg s s' →
        TriesLive s s' ∧ ∀ i f, s'.fctxs i = some f → Closing f) ∧
      (∃ s s', Reachable oneBucket s ∧ enabled s (.run 0 lookingUp) ∧
        lateFinddone s (.run 0 lookingUp) ∧ step oneBucket s (.run 0 lookingUp) = .ok s' ∧
        triesFinished s s') ∧
      ∃ s s', Reachable oneBucket s ∧ enabled s (.run 0 lookingUp) ∧
        lateFinddone s (.run 0 lookingUp) ∧ step oneBucket s (.run 0 lookingUp) = .ok s' ∧
        idleShutdown s' 1 :=
  ⟨fun cfg _ _ h₀ h => let r := h.settles (h₀.settles (.init cfg)).1; ⟨r.2.triesLive, r.1.closing⟩,
    late_step_of_run lateTry _ (by decide),
    late_step_of_run lateShutdown _ (p := fun _ s' => idleShutdown s' 1) (by decide)⟩

theorem sent_fetch_settles :
    ∃ s, OnTime oneBucket (Sys.init oneBucket) s ∧ s.trace = [.tried 1, .queried 1 { sockaddr := 1, srtt := 0, flags := { mark := true } }] ∧
      TriesLive (Sys.init oneBucket) s ∧ ∀ i f, s.fctxs i = some f → Closing f := by
  have h : OnTime oneBucket (Sys.init oneBucket) _ :=
    .step (.run 0 answering) (.step (fetchA 7) .refl rfl rfl rfl) rfl rfl rfl
  exact ⟨_, h, rfl, finished_fetch_stays_quiet.1 oneBucket _ _ .refl h⟩

end DnsResolver
