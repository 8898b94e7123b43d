import DnsResolver.Tasks
import Mathlib.Algebra.Group.Nat.Basic

/-! # The books over whole runs

Every step keeps the books `Sound`; over runs, the query domain, the buckets and the rounds. -/

namespace DnsResolver

/-! ## Callers -/

section
variable {cfg : Config} {s : Sys}

theorem fctxJoin_still {j fetch task : Nat} (h : Sound cfg s) : Safe (Still cfg s) (fctxJoin s j fetch task) :=
  safe_withFctx fun _ hf => sameBooks_with.after h (still_setFctx h hf rfl rfl rfl rfl id)

theorem fctxCreate_closed {cenv : CreateEnv} {name : Name} {type : RdataType}
    {domain : Option (Name × List Name)} {options : FetchOptions} {b : Nat} {g : Fctx}
    (h : fctxCreate cfg cenv name type domain options b = .ok g) : g.bucketnum = b ∧ ¬g.Open := by
  unfold fctxCreate at h
  split at h
  · cases h
  · obtain ⟨z, -, h⟩ := map_eq_ok.mp h
    cases h
    simp [Fctx.Open]

theorem exitedBuckets_congr {t : Sys} (h : ∀ c, (t.buckets c).done = (s.buckets c).done) :
    exitedBuckets cfg t = exitedBuckets cfg s := by
  simp only [exitedBuckets, h]

theorem calm_link {j b : Nat} {g : Fctx} (h : Sound cfg s) (hj : s.nextId ≤ j) (hb : g.bucketnum = b)
    (ho : ¬g.Open) (hx : (s.buckets b).exiting = false) :
    Calm cfg s ({ s.setFctx j g with nextId := j + 1 }.setBucket b
      { s.buckets b with fctxs := (s.buckets b).fctxs ++ [j] }) := by
  have old : ∀ i, i ≠ j → Function.update s.fctxs j (some g) i = s.fctxs i := fun i hi =>
    Function.update_noteq hi _ _
  have hnew : s.fctxs j = none := h.fresh j hj
  have hlists : ∀ c, (s.buckets c).fctxs ⊆ ((Function.update s.buckets b
      { s.buckets b with fctxs := (s.buckets b).fctxs ++ [j] }) c).fctxs := fun c => by
    by_cases hc : c = b
    · subst hc; simp
    · simp [hc]
  refine ⟨⟨⟨fun k hk => ?_, fun k f hf => ?_, fun k f hf => ?_, fun c hc => ?_, ?_⟩, h.waiting⟩,
    ⟨fun k f f' hf hf' => ?_, fun k f hf hn => ?_, Nat.le_succ_of_le hj, le_rfl, id, rfl,
      fun hne => absurd rfl hne, List.prefix_refl _⟩, rfl⟩
  · change j + 1 ≤ k at hk
    change Function.update s.fctxs j (some g) k = none
    rw [old k (by omega)]
    exact h.fresh k (by omega)
  · change Function.update s.fctxs j (some g) k = some f at hf
    by_cases hk : k = j
    · subst hk; cases (Function.update_same k _ _).symm.trans hf; exact fun hO => absurd hO ho
    · exact h.capped k f (by rwa [old k hk] at hf)
  · change Function.update s.fctxs j (some g) k = some f at hf
    by_cases hk : k = j
    · subst hk
      cases (Function.update_same k _ _).symm.trans hf
      show k ∈ (Function.update s.buckets b _ g.bucketnum).fctxs
      rw [hb]; simp
    · exact hlists _ (h.listed k f (by rwa [old k hk] at hf))
  · refine h.exiting c ?_
    by_cases hcb : c = b
    · subst hcb; simpa using hc
    · simpa [Sys.setBucket, hcb] using hc
  · rw [← h.count, exitedBuckets_congr fun c => ?_]
    · rfl
    by_cases hcb : c = b
    · subst hcb; simp [Sys.setBucket, Bucket.done, hx]
    · simp [Sys.setBucket, hcb]
  · change Function.update s.fctxs j (some g) k = some f' at hf'
    rw [old k fun e => by rw [e, hnew] at hf; cases hf] at hf'
    rw [hf] at hf'; cases hf'; exact issubdomain_refl _
  · change Function.update s.fctxs j (some g) k = some f at hf
    by_cases hk : k = j
    · exact hk ▸ hj
    · rw [old k hk, hn] at hf; cases hf

theorem fctxDestroy_calm {i : Nat} (h : Sound cfg s)
    (hx : ∀ f, s.fctxs i = some f → (s.buckets f.bucketnum).exiting = false) :
    Safe (fun r => Calm cfg s r.2) (fctxDestroy s i) := by
  have he : Safe (fun r => r.1 = false) (fctxDestroy s i) := safe_withFctx fun f hf => by
    split
    · simp [hx f hf]
    · simp
  refine ((fctxDestroy_safe h).and he).mono fun r ⟨⟨hm, ht, hx', ha, hw, _, _, hb⟩, hr⟩ => ?_
  rw [hr, Bool.toNat_false, Nat.sub_zero, ← ha] at hb
  exact ⟨⟨hb, fun hne => by rw [hx', ha]; exact h.waiting (by rwa [← hw])⟩, hm, ht⟩

theorem createfetch_calm {cenv : CreateEnv} {name : Name} {type : RdataType}
    {domain : Option (Name × List Name)} {options : FetchOptions} {task : Nat} (h : Sound cfg s) :
    Safe (fun r => Calm cfg s r.2) (createfetch cfg cenv s name type domain options task) := by
  unfold createfetch
  split
  · exact Calm.refl h
  have k₁ : Calm cfg s { s with nextId := s.nextId + 1 } := (sameBooks_nextId.still h).1
  dsimp only
  split
  · exact k₁
  rename_i hx
  split
  · split
    · exact (fctxJoin_still k₁.1).map fun _ hu => k₁.trans h hu.1
    · exact k₁
  split
  · exact k₁
  rename_i g hg
  obtain ⟨hb, ho⟩ := fctxCreate_closed hg
  have k₂ := k₁.trans h (calm_link k₁.1 le_rfl hb ho (Bool.eq_false_iff.mpr hx))
  split
  · exact (fctxJoin_still k₂.1).map fun _ hu =>
      SameBooks.calm_after sameBooks_post h (k₂.trans h hu.1)
  · refine (fctxDestroy_calm k₂.1 fun f hf => ?_).map fun _ hu => k₂.trans h hu
    cases (Function.update_same _ _ _).symm.trans hf
    rw [hb]; simpa using hx

theorem cancelfetch_still {fetch : Nat} (h : Sound cfg s) : Safe (Still cfg s) (cancelfetch s fetch) := by
  unfold cancelfetch
  split
  · simp
  refine safe_withFctx fun f hf => ?_
  split
  · exact Still.refl h
  split
  · exact Still.refl h
  · exact SameBooks.after (sameBooks_deliver fun _ => Delivery.noConfusion) h
      (still_setFctx h hf rfl rfl rfl rfl id)

theorem destroyfetch_calm {fetch : Nat} (h : Sound cfg s) : Safe (Calm cfg s) (destroyfetch s fetch) := by
  unfold destroyfetch
  split
  · simp
  rename_i j _
  refine safe_withFctx fun f hf => ?_
  have k₁ : Still cfg s { s.setFctx j { f with references := f.references - 1 } with
      fetches := Function.update s.fetches fetch none } :=
    sameBooks_with.after h (still_setFctx h hf rfl rfl rfl rfl id)
  dsimp only
  split
  · exact (show Safe _ (.error .destroyfetchEvent) by simp)
  split
  · exact (show Safe _ (.error .destroyfetchReferences) by simp)
  exact safe_ite k₁.1 (safe_ite ((destroyAndEmpty_calm k₁.1.1).mono fun _ hu => k₁.1.trans h hu)
    ((fctxShutdown_still k₁.1.1).mono fun _ hu => (k₁.trans h hu).1))

end

/-! ## Shutdown -/

section
variable {cfg : Config} {s : Sys}

theorem Books.active_pos {b : Nat} (h : Books cfg s) (hb : b < cfg.nbuckets)
    (hd : (s.buckets b).done = false) : 0 < s.activebuckets := by
  have hlt : exitedBuckets cfg s ≠ cfg.nbuckets := fun he => by
    have := List.countP_eq_length.mp (he.trans (List.length_range _).symm) b (List.mem_range.mpr hb)
    rw [hd] at this; cases this
  have := h.count
  have := exitedBuckets_le cfg s
  omega

theorem exitedBuckets_setBucket {b : Nat} {k : Bucket} (hb : b < cfg.nbuckets) :
    exitedBuckets cfg (s.setBucket b k) + (s.buckets b).done.toNat =
      exitedBuckets cfg s + k.done.toNat := by
  have := countP_range_update (p := fun c => (s.buckets c).done)
    (q := fun c => ((s.setBucket b k).buckets c).done) (b := b)
    (fun c hc => by simp [Sys.setBucket, hc]) cfg.nbuckets
  simpa [hb, Sys.setBucket, exitedBuckets] using this

theorem fctxShutdown_buckets {i : Nat} :
    Safe (fun t => ∀ c, (t.buckets c).fctxs = (s.buckets c).fctxs ∧
      (t.buckets c).exiting = (s.buckets c).exiting) (fctxShutdown s i) := by
  refine safe_withFctx fun f _ => ?_
  dsimp only
  split
  · exact fun _ => ⟨rfl, rfl⟩
  split
  · exact fun c => ⟨sameBooks_post.lists c, sameBooks_post.exits c⟩
  · exact fun _ => ⟨rfl, rfl⟩

theorem shutdownEach_still : ∀ {s : Sys} (js : List Nat), Sound cfg s →
    Safe (fun t => Still cfg s t ∧ ∀ c, (t.buckets c).fctxs = (s.buckets c).fctxs ∧
      (t.buckets c).exiting = (s.buckets c).exiting) (shutdownEach s js)
  | _, [], h => ⟨Still.refl h, fun _ => ⟨rfl, rfl⟩⟩
  | _, j :: js, h => ((fctxShutdown_still (i := j) h).and fctxShutdown_buckets).bind fun _ _ ⟨k, hb⟩ =>
      (shutdownEach_still js k.1.1).mono fun _ ⟨k', hb'⟩ =>
        ⟨k.trans h k', fun c => ⟨(hb' c).1.trans (hb c).1, (hb' c).2.trans (hb c).2⟩⟩

theorem shutdownBucket_books {b : Nat} (h : Books cfg s) (hx : s.exiting) (hb : b < cfg.nbuckets)
    (he : (s.buckets b).exiting = false) :
    Safe (fun t => Books cfg t ∧ Moves s t ∧ t.trace = s.trace ∧ t.exiting ∧
      ∀ c ≠ b, (t.buckets c).exiting = (s.buckets c).exiting) (shutdownBucket s b) := by
  have hs : Sound cfg s :=
    ⟨h, fun _ ⟨_, ha⟩ => by have := h.active_pos hb (by simp [Bucket.done, he]); omega⟩
  refine (shutdownEach_still _ hs).bind fun t _ ⟨k, hl⟩ => ?_
  have ht := k.1.1.toBooks
  have hpos := ht.active_pos hb (by simp [Bucket.done, (hl b).2, he])
  have hcount := exitedBuckets_setBucket (s := t) (k := { t.buckets b with exiting := true }) hb
  simp only [Bucket.done, (hl b).2, he, Bool.false_and, Bool.toNat_false, Nat.add_zero,
    Bool.true_and] at hcount
  set v := t.setBucket b { t.buckets b with exiting := true }
  have hv : ∀ a, a + exitedBuckets cfg v = cfg.nbuckets → Books cfg { v with activebuckets := a } :=
    fun a hc => ⟨ht.fresh, ht.capped, fun j f hf => by
      have := ht.listed j f hf
      by_cases hj : f.bucketnum = b
      · rw [hj] at this ⊢; simpa [v, Sys.setBucket] using this
      · simpa [v, Sys.setBucket, hj] using this,
      fun c hc' => by
        by_cases hcb : c = b
        · exact ⟨k.1.2.1.exiting hx, hcb ▸ hb⟩
        · exact ht.exiting c (by simpa [v, Sys.setBucket, hcb] using hc'), hc⟩
  have hm : Moves s v := k.1.2.1.recount h rfl rfl rfl le_rfl rfl rfl fun hne => absurd rfl hne
  have hc : ∀ c ≠ b, (v.buckets c).exiting = (s.buckets c).exiting := fun c hcb => by
    simpa [v, Sys.setBucket, hcb] using (hl c).2
  have hva : v.activebuckets = t.activebuckets := rfl
  dsimp only
  split
  · rename_i hne
    rw [show (t.buckets b).fctxs.isEmpty = false by simpa [v, Sys.setBucket] using hne] at hcount
    exact ⟨hv _ (by have := ht.count; simp only [Bool.toNat_false] at hcount; omega), hm, k.1.2.2,
      k.1.2.1.exiting hx, hc⟩
  split
  · exact absurd ‹_› (by simpa [v, Sys.setBucket] using hpos.ne')
  · rename_i hne _
    rw [show (t.buckets b).fctxs.isEmpty = true by simpa [v, Sys.setBucket] using hne] at hcount
    exact ⟨hv _ (by have := ht.count; simp only [Bool.toNat_true] at hcount; omega),
      hm.recount h rfl rfl rfl (Nat.sub_le _ _) rfl rfl fun hne => absurd rfl hne, k.1.2.2,
      k.1.2.1.exiting hx, hc⟩

theorem shutdownBuckets_books : ∀ {s : Sys} (bs : List Nat), Books cfg s → s.exiting → bs.Nodup →
    (∀ b ∈ bs, b < cfg.nbuckets ∧ (s.buckets b).exiting = false) →
    Safe (fun t => Books cfg t ∧ Moves s t ∧ t.trace = s.trace ∧ t.exiting) (shutdownBuckets s bs)
  | s, [], h, hx, _, _ => ⟨h, .refl s, rfl, hx⟩
  | s, b :: bs, h, hx, hn, hr => by
    have ⟨hb, he⟩ := hr b (List.mem_cons_self _ _)
    refine (shutdownBucket_books h hx hb he).bind fun t _ ⟨ht, hm, htr, htx, hc⟩ => ?_
    refine (shutdownBuckets_books bs ht htx (List.nodup_cons.mp hn).2 fun c hc' => ?_).mono
      fun _ ⟨hu, hm', htr', hux⟩ => ⟨hu, hm.trans h hm', htr'.trans htr, hux⟩
    have hcb : c ≠ b := fun e => (List.nodup_cons.mp hn).1 (e ▸ hc')
    exact ⟨(hr c (List.mem_cons_of_mem _ hc')).1, (hc c hcb).trans (hr c (List.mem_cons_of_mem _ hc')).2⟩

theorem shutdown_calm (h : Sound cfg s) : Safe (Calm cfg s) (shutdown cfg s) := by
  unfold shutdown
  split
  · exact Calm.refl h
  rename_i hs
  have hx : ∀ b, (s.buckets b).exiting = false := fun b =>
    Bool.eq_false_iff.mpr fun he => hs (h.exiting b he).1
  have h₀ : Books cfg { s with exiting := true } :=
    ⟨h.fresh, h.capped, h.listed, fun b he => absurd (hx b) (by simpa using he), h.count⟩
  have m₀ : Moves s { s with exiting := true } :=
    { Moves.refl s with exiting := fun _ => rfl, late := fun hne => absurd rfl hne }
  refine (shutdownBuckets_books _ h₀ rfl (List.nodup_range _) fun b hb =>
    ⟨List.mem_range.mp hb, hx b⟩).bind fun t _ ⟨ht, hm, htr, htx⟩ => ?_
  have hm₁ := m₀.trans h.toBooks hm
  show Calm cfg s (if t.activebuckets = 0 then sendShutdownEvents t else t)
  split
  · rename_i hz
    exact ⟨⟨⟨ht.fresh, ht.capped, ht.listed, ht.exiting, ht.count⟩, fun hw => absurd rfl hw⟩,
      hm₁.recount h.toBooks rfl rfl rfl le_rfl rfl
        (by rw [told_sendShutdownEvents]; exact List.append_nil _) fun _ => ⟨htx, hz⟩, htr⟩
  · exact ⟨⟨ht, fun _ he => ‹¬_› he.2⟩, hm₁, htr⟩

end

/-! ## Listeners -/

def Sys.register (s : Sys) (l : List Nat) : Sys := { s with whenshutdown := s.whenshutdown ++ l }

def registered : Action → List Nat
  | .whenshutdown l => [l]
  | _ => []

section
variable {cfg : Config} {s t : Sys}

@[simp] theorem Sys.register_nil (s : Sys) : s.register [] = s := by simp [Sys.register]

theorem Sys.register_append (s : Sys) (l l' : List Nat) :
    (s.register l).register l' = s.register (l ++ l') := by
  simp [Sys.register, List.append_assoc]

theorem Books.register (h : Books cfg s) (l : List Nat) : Books cfg (s.register l) :=
  ⟨h.fresh, h.capped, h.listed, h.exiting, h.count⟩

theorem Moves.register (h : Moves s t) (l : List Nat) : Moves (s.register l) (t.register l) := by
  have ht : t.told ++ (t.whenshutdown ++ l) = s.told ++ (s.whenshutdown ++ l) := by
    rw [← List.append_assoc, h.told, List.append_assoc]
  exact { h with told := ht }

theorem whenshutdown_moves {l : Nat} (h : Sound cfg s) :
    Sound cfg (whenshutdown s l) ∧ Moves (s.register [l]) (whenshutdown s l) := by
  unfold whenshutdown
  split
  · rename_i hc
    have hw : s.whenshutdown = [] := by
      by_contra hne
      exact h.waiting hne hc
    refine ⟨⟨⟨h.fresh, h.capped, h.listed, h.exiting, h.count⟩, fun hne => absurd hw hne⟩,
      { Moves.refl s with told := ?_, late := fun _ => hc }⟩
    simp [Sys.told, Sys.deliver, Sys.register, hw]
  · exact ⟨⟨h.toBooks.register [l], fun _ => ‹_›⟩, Moves.refl _⟩

/-! ## Steps -/

theorem Safe.registers {x : Except Abort Sys} (hx : Safe (Fine cfg s) x) :
    Safe (fun t => Sound cfg t ∧ Moves (s.register []) t ∧
      ∀ i a, .queried i a ∈ t.trace.drop s.trace.length → ArmedAt t i a) x := by
  rw [Sys.register_nil]
  exact hx

/-- Every step keeps the books sound and fails neither assertion on them. -/
theorem step_fine {a : Action} (h : Sound cfg s) :
    Safe (fun t => Sound cfg t ∧ Moves (s.register (registered a)) t ∧
      ∀ i a, .queried i a ∈ t.trace.drop s.trace.length → ArmedAt t i a) (step cfg s a) := by
  cases a with
  | createfetch => exact ((createfetch_calm h).map fun _ hr => hr.fine).registers
  | cancelfetch => exact (cancelfetch_still h).calm.fine.registers
  | destroyfetch => exact (destroyfetch_calm h).fine.registers
  | shutdown => exact (shutdown_calm h).fine.registers
  | whenshutdown l =>
    obtain ⟨hs, hm⟩ := whenshutdown_moves (l := l) h
    refine ⟨hs, hm, fun i _ hi => ?_⟩
    have ht : (whenshutdown s l).trace = s.trace := by unfold whenshutdown; split <;> rfl
    simp [ht] at hi
  | fire =>
    refine (Safe.calm (safe_withFctx fun _ hf => ?_)).fine.registers
    exact SameBooks.after sameBooks_post h (still_setFctx h hf rfl rfl rfl rfl id)
  | complete k =>
    refine (Safe.calm ?_).fine.registers
    show Safe _ (match s.owed[k]? with | none => _ | some _ => _)
    split
    · exact Still.refl h
    · exact (sameBooks_with.trans sameBooks_post).still h
  | respond =>
    refine (Safe.calm (safe_withFctx fun _ _ => ?_)).fine.registers
    exact sameBooks_post.still h
  | run b =>
    refine Safe.registers ?_
    show Safe _ (match (s.buckets b).busy, (s.buckets b).queue with | some _, _ => _ | none, _ :: _ => _ | none, [] => _)
    split
    · exact Safe.fine_after h resqueryFinish_fine (SameBooks.still h (sameBooks_setBucket rfl rfl))
    · exact Safe.fine_after h dispatch_fine (SameBooks.still h (sameBooks_setBucket rfl rfl))
    · exact (Calm.refl h).fine

theorem sound_init (cfg : Config) : Sound cfg (Sys.init cfg) where
  fresh _ _ := rfl
  capped _ _ h := by cases h
  listed _ _ h := by cases h
  exiting _ h := by cases h
  count := by simp [Sys.init, exitedBuckets, Bucket.done]
  waiting h := absurd rfl h

theorem Reachable.sound (h : Reachable cfg s) : Sound cfg s := by
  induction h with
  | init => exact sound_init cfg
  | step a _ _ hs ih =>
    have := step_fine (a := a) ih
    rw [hs] at this
    exact this.1

theorem run_moves {as : List Action} (hs : Reachable cfg s) (h : run cfg s as = some (.ok t)) :
    Sound cfg t ∧ Moves (s.register (as.flatMap registered)) t := by
  induction as generalizing s with
  | nil =>
    cases h
    rw [List.flatMap_nil, Sys.register_nil]
    exact ⟨hs.sound, Moves.refl _⟩
  | cons a as ih =>
    simp only [run] at h
    split at h
    · split at h
      · rename_i s' hstep
        have hf := step_fine (a := a) hs.sound
        rw [hstep] at hf
        obtain ⟨ht, hm⟩ := ih (.step a hs ‹_› hstep) h
        refine ⟨ht, ?_⟩
        rw [List.flatMap_cons, ← Sys.register_append]
        exact (hf.2.1.register _).trans ((hs.sound.toBooks.register _).register _) hm
      · cases h
    · cases h

end

/-! ## The query domain -/

def Ended (t : Sys) (i : Nat) (r : IscResult) : Prop :=
  ∃ f, t.fctxs i = some f ∧ f.state = .done ∧ ∃ evs, t.delivered.getLast? = some (.fetchevents i evs) ∧
    (f.attributes.haveanswer = false → ∀ e ∈ evs, e.result = r)

section
variable {cfg : Config} {s : Sys} {i : Nat}

theorem fctxSendevents_ends {r : IscResult} : Safe (fun t => Ended t i r) (fctxSendevents s i r) := by
  refine safe_withFctx fun f _ => ?_
  split
  · simp
  · refine ⟨_, Function.update_same i _ _, of_not_not ‹_›, _, List.getLast?_concat _, fun hn e he => ?_⟩
    obtain ⟨_, -, rfl⟩ := List.mem_map.mp he
    have hn' : f.attributes.haveanswer = false := hn
    simp [hn']

theorem fctxDone_ends {r : IscResult} (h : Sound cfg s) : Safe (fun t => Ended t i r) (fctxDone s i r) :=
  (fctxStopeverything_still h).bind fun _ _ k =>
    (setState_still k.1.1).bind fun _ _ _ => fctxSendevents_ends

theorem getNameservers_above {env : Env} {f : Fctx} {fname : Name} {ns : List Name} (h : Sound cfg s)
    (hf : s.fctxs i = some f) (hz : env.findzonecut f.domain = some (fname, ns))
    (hn : ¬issubdomain fname f.domain) :
    Safe (fun t => Ended t i .servfail ∧ ∀ f', t.fctxs i = some f' → f'.domain = f.domain)
      (getNameservers cfg env s i) := by
  have k₁ : Still cfg s (s.setFctx i { f with nameservers := some ns }) :=
    still_setFctx h hf rfl rfl rfl rfl id
  refine safe_withFctx fun f₀ hf₀ => ?_
  cases hf.symm.trans hf₀
  split
  · rename_i hz'; rw [hz] at hz'; cases hz'
  rename_i hz'
  rw [hz] at hz'
  cases hz'
  rw [if_pos hn]
  refine ((fctxDone_still k₁.1.1).and (fctxDone_ends k₁.1.1)).mono fun t ⟨kt, he⟩ => ⟨he, fun f' hf' => ?_⟩
  obtain ⟨f'', hf'', hd, -⟩ := (k₁.trans h kt).2 i f hf
  cases hf'.symm.trans hf''
  exact hd

end

/-! ## Over whole runs -/

/-- Along a run from a reachable state the query domain of an fctx only narrows. -/
theorem query_domain_only_narrows (cfg : Config) :
    (∀ s as t, Reachable cfg s → run cfg s as = some (.ok t) →
      ∀ i f f', s.fctxs i = some f → t.fctxs i = some f' → issubdomain f'.domain f.domain) ∧
    (∀ f m oqname r f' m', noanswerResponse f m oqname = .ok (r, f', m') →
      issubdomain f'.domain f.domain) ∧
    (∀ env s i f fname ns t, Sound cfg s → s.fctxs i = some f →
      env.findzonecut f.domain = some (fname, ns) → ¬issubdomain fname f.domain →
      getNameservers cfg env s i = .ok t →
      Ended t i .servfail ∧ ∀ f', t.fctxs i = some f' → f'.domain = f.domain) := by
  refine ⟨fun s as t hs hr i f f' hf hf' => (run_moves hs hr).2.domain i f f' hf hf',
    fun f m oqname r f' m' h => ?_, fun env s i f fname ns t hs hf hz hn ht => ?_⟩
  · have : Holds _ _ (noanswerResponse f m oqname) := noanswerResponse_safe
    rw [h] at this
    exact this.domain
  · have : Safe _ (getNameservers cfg env s i) := getNameservers_above hs hf hz hn
    rw [ht] at this
    exact this

theorem referral_narrows_domain :
    ∃ s t f f', Reachable oneBucket s ∧
      run oneBucket s [.respond 1 2 .success referralGlue, .run 0 answering, .run 0 answering] =
        some (.ok t) ∧ s.fctxs 1 = some f ∧ t.fctxs 1 = some f' ∧ f.domain = com ∧
      f'.domain = ["example", "com"] ∧ issubdomain f'.domain f.domain := by
  have hs : Reachable oneBucket _ := .step (.run 0 answering) (.step (fetchA 7) .init rfl rfl) rfl rfl
  exact ⟨_, _, _, _, hs, rfl, rfl, rfl, rfl, rfl, (query_domain_only_narrows oneBucket).1 _
    [.respond 1 2 .success referralGlue, .run 0 answering, .run 0 answering] _ hs rfl 1 _ _ rfl rfl⟩

/-- `activebuckets` counts the buckets not emptied on exit, and each listener is told once. -/
theorem buckets_counted_and_listeners_told (cfg : Config) :
    (∀ s, Reachable cfg s → s.activebuckets = cfg.nbuckets - exitedBuckets cfg s) ∧
    (∀ s a, Reachable cfg s → enabled s a →
      step cfg s a ≠ .error .emptyBucket ∧ step cfg s a ≠ .error .shutdownActive) ∧
    (∀ as s, run cfg (Sys.init cfg) as = some (.ok s) →
      s.told ++ s.whenshutdown = as.flatMap registered ∧
        (s.exiting ∧ s.activebuckets = 0 → s.told = as.flatMap registered)) ∧
    (∀ s a t, Reachable cfg s → enabled s a → step cfg s a = .ok t → t.told ≠ s.told →
      t.exiting ∧ t.activebuckets = 0) := by
  refine ⟨fun s hs => ?_, fun s a hs _ => (step_fine hs.sound).ne_error, fun as s hr => ?_,
    fun s a t hs _ ht hne => ?_⟩
  · have := hs.sound.count
    omega
  · obtain ⟨hs, hm⟩ := run_moves .init hr
    have ht : s.told ++ s.whenshutdown = as.flatMap registered := by
      simpa [Sys.register, Sys.init, Sys.told] using hm.told
    refine ⟨ht, fun hc => ?_⟩
    have hw : s.whenshutdown = [] := by
      by_contra hne
      exact hs.waiting hne hc
    rwa [hw, List.append_nil] at ht
  · have := step_fine (a := a) hs.sound
    rw [ht] at this
    exact this.2.1.late hne

theorem listener_told_by_shutdown :
    ∃ s, run oneBucket (Sys.init oneBucket) [.whenshutdown 5, .shutdown] = some (.ok s) ∧
      s.told = [5] :=
  ⟨_, rfl, ((buckets_counted_and_listeners_told oneBucket).2.2.1 [.whenshutdown 5, .shutdown] _ rfl).2
    ⟨rfl, rfl⟩⟩

theorem retryInterval_eq (r rtt : Nat) :
    retryInterval r rtt = min 30 (max (if r < 3 then 2 else 2 <<< (r - 1)) (rtt / 500000)) := by
  unfold retryInterval
  dsimp only
  split_ifs <;> omega

/-- A query goes out within ten rounds, armed for its round and its address's srtt. -/
theorem queries_sent_within_ten_rounds (cfg : Config) :
    (∀ s a t, Reachable cfg s → enabled s a → step cfg s a = .ok t →
      ∀ i ai, .queried i ai ∈ t.trace.drop s.trace.length →
        ∃ f, t.fctxs i = some f ∧ 1 ≤ f.restarts ∧ f.restarts ≤ 10 ∧
          f.interval = retryInterval f.restarts ai.srtt) ∧
    (∀ s, Reachable cfg s → ∀ i f, s.fctxs i = some f → f.Open → 1 ≤ f.restarts ∧ f.restarts ≤ 10) ∧
    (∀ r srtt : Nat, 1 ≤ r → r ≤ 10 → r - 1 < 32 ∧ 2 <<< (r - 1) = 2 ^ r ∧ 2 ^ r < 2 ^ 32 ∧
      retryInterval r srtt = min 30 (max (if r < 3 then 2 else 2 ^ r) (srtt / 500000)) ∧
      2 ≤ retryInterval r srtt ∧ retryInterval r srtt ≤ 30) := by
  refine ⟨fun s a t hs _ ht i ai hi => ?_, fun s hs i f hf ho => hs.sound.capped i f hf ho,
    fun r srtt h₁ h₁₀ => ?_⟩
  · have := step_fine (a := a) hs.sound
    rw [ht] at this
    obtain ⟨f, hf, ⟨hr₁, hr₁₀⟩, hi'⟩ := this.2.2 i ai hi
    exact ⟨f, hf, hr₁, hr₁₀, hi'⟩
  · have hshift : 2 <<< (r - 1) = 2 ^ r := by
      obtain ⟨k, rfl⟩ : ∃ k, r = k + 1 := ⟨r - 1, by omega⟩
      simp [Nat.shiftLeft_eq, Nat.pow_succ, Nat.mul_comm]
    have hpow : 2 ^ r ≤ 2 ^ 10 := Nat.pow_le_pow_right (by decide) h₁₀
    have hpos : 2 ≤ 2 ^ r := Nat.le_self_pow (by omega) 2
    rw [retryInterval_eq, hshift]
    refine ⟨by omega, rfl, lt_of_le_of_lt hpow (by decide), rfl, ?_, ?_⟩ <;> split_ifs <;> omega

theorem first_query_within_rounds :
    ∃ s t, Reachable oneBucket s ∧ step oneBucket s (.run 0 answering) = .ok t ∧
      ∃ f, t.fctxs 1 = some f ∧ 1 ≤ f.restarts ∧ f.restarts ≤ 10 ∧
        f.interval = retryInterval f.restarts 0 := by
  have hs : Reachable oneBucket _ := .step (fetchA 7) .init rfl rfl
  exact ⟨_, _, hs, rfl, (queries_sent_within_ten_rounds oneBucket).1 _ (.run 0 answering) _ hs rfl rfl 1
    { sockaddr := 1, srtt := 0, flags := { mark := true } } (by decide)⟩

end DnsResolver
