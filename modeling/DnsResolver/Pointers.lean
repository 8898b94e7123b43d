import DnsResolver.Fetches

/-! # No handler follows a freed fctx

`Linked`: each pointer into an fctx is kept alive by a `REQUIRE` of `fctx_destroy`. -/

namespace DnsResolver

def TaskEvent.Pins : TaskEvent → Bool
  | .finddone .. | .senddone .. | .connected .. => false
  | _ => true

/-- What keeps the fctx `f` from being freed while the event waits for it. -/
def TaskEvent.Guard (f : Fctx) : TaskEvent → Prop
  | .start _ => f.state = .init
  | .doshutdown _ => f.state ≠ .init ∧ f.wantShutdown = true ∧ f.attributes.shuttingdown = false
  | .timeout .. => f.state ≠ .init
  | .response _ q _ _ => f.queries.any (·.id == q)
  | _ => True

def TaskEvent.Kept (s : Sys) (e : TaskEvent) : Prop :=
  e.Pins = true → ∃ f, s.fctxs e.fctx = some f ∧ e.Guard f

def Owed.isFindOf (b i : Nat) : Owed → Bool
  | .find c j => c == b && j == i
  | _ => false

def TaskEvent.isFinddoneOf (i : Nat) : TaskEvent → Bool
  | .finddone j _ => j == i
  | _ => false

def Sys.findsOf (s : Sys) (b i : Nat) : Nat :=
  s.owed.countP (Owed.isFindOf b i) + (s.buckets b).queue.countP (TaskEvent.isFinddoneOf i)

def Sys.pendingOf (s : Sys) (i : Nat) : Nat := ((s.fctxs i).map (·.pending)).getD 0

/-- The pointers into fctxs that lists, queues, debts and a stopped task hold agree with them. -/
structure Linked (s : Sys) : Prop where
  fresh : ∀ j, s.nextId ≤ j → s.fctxs j = none
  nodup : ∀ b, (s.buckets b).fctxs.Nodup
  listed : ∀ b j, j ∈ (s.buckets b).fctxs → ∃ f, s.fctxs j = some f ∧ f.bucketnum = b
  queue : ∀ b e, e ∈ (s.buckets b).queue → e.fctx < s.nextId ∧
    (∀ f, s.fctxs e.fctx = some f → f.bucketnum = b) ∧ e.Kept s
  owed : ∀ o ∈ s.owed, o.fctx < s.nextId ∧ ∀ f, s.fctxs o.fctx = some f → f.bucketnum = o.bucket
  busy : ∀ b r, (s.buckets b).busy = some r →
    ∃ f, s.fctxs r.fctx = some f ∧ f.bucketnum = b ∧ f.queries.any (·.id == r.query.id)
  pending : ∀ b i, s.findsOf b i ≤ s.pendingOf i
  once : ∀ b i, (s.buckets b).queue.count (.start i) ≤ 1 ∧ (s.buckets b).queue.count (.doshutdown i) ≤ 1
  unstarted : ∀ i f, s.fctxs i = some f → f.state = .init →
    f.timer = .inactive ∧ f.pending = 0 ∧ f.queries = [] ∧ f.attributes.shuttingdown = false
  shut : ∀ i f, s.fctxs i = some f → f.attributes.shuttingdown = true → f.wantShutdown = true

structure Fctx.Follows (f g : Fctx) : Prop where
  bucketnum : g.bucketnum = f.bucketnum
  init : g.state = .init ↔ f.state = .init
  want : f.wantShutdown = true → g.wantShutdown = true
  shuttingdown : g.attributes.shuttingdown = f.attributes.shuttingdown
  queries : ∀ q, f.queries.any (·.id == q) → g.queries.any (·.id == q)
  pending : f.pending ≤ g.pending
  unstarted : g.state = .init → g.timer = f.timer ∧ g.pending = f.pending ∧ g.queries = f.queries

section
variable {s t : Sys} {i b : Nat} {f g : Fctx} {e : TaskEvent}

theorem Fctx.Follows.of_eq (hb : g.bucketnum = f.bucketnum) (hs : g.state = f.state)
    (hw : g.wantShutdown = f.wantShutdown) (hd : g.attributes.shuttingdown = f.attributes.shuttingdown)
    (ht : g.timer = f.timer) (hq : g.queries = f.queries) (hp : g.pending = f.pending) : f.Follows g :=
  ⟨hb, by rw [hs], (hw ▸ ·), hd, fun _ => (hq ▸ ·), hp.ge, fun _ => ⟨ht, hp, hq⟩⟩

theorem Fctx.Follows.started (hf : f.state ≠ .init) (hg : g.state ≠ .init) (hb : g.bucketnum = f.bucketnum)
    (hw : g.wantShutdown = f.wantShutdown) (hd : g.attributes.shuttingdown = f.attributes.shuttingdown)
    (hq : ∀ q, f.queries.any (·.id == q) → g.queries.any (·.id == q)) (hp : f.pending ≤ g.pending) :
    f.Follows g :=
  ⟨hb, iff_of_false hg hf, (hw ▸ ·), hd, hq, hp, fun h => absurd h hg⟩

theorem Sys.pendingOf_of_some (hf : s.fctxs i = some f) : s.pendingOf i = f.pending := by
  simp [Sys.pendingOf, hf]

theorem Linked.live (h : Linked s) (hf : s.fctxs i = some f) : i < s.nextId :=
  Nat.lt_of_not_le fun hn => by rw [h.fresh i hn] at hf; cases hf

theorem TaskEvent.kept_congr (he : t.fctxs e.fctx = s.fctxs e.fctx) : e.Kept t ↔ e.Kept s := by
  rw [TaskEvent.Kept, TaskEvent.Kept, he]

@[simp] theorem Sys.setFctx_self (s : Sys) (i : Nat) (g : Fctx) : (s.setFctx i g).fctxs i = some g :=
  Function.update_same _ _ _

theorem Sys.setBucket_ne {k : Bucket} {c : Nat} (hc : c ≠ b) : (s.setBucket b k).buckets c = s.buckets c :=
  Function.update_noteq hc _ _

theorem TaskEvent.kept_of_guard (he : e.fctx = i) (hg : e.Pins = true → e.Guard g) : e.Kept (s.setFctx i g) :=
  fun hp => ⟨g, by rw [he]; exact Sys.setFctx_self s i g, hg hp⟩

theorem TaskEvent.Kept.guard (hk : e.Kept s) (hf : s.fctxs e.fctx = some f) (hp : e.Pins = true) : e.Guard f := by
  obtain ⟨f₀, h₀, hg⟩ := hk hp
  rwa [Option.some_inj.mp (h₀.symm.trans hf)] at hg

theorem TaskEvent.Guard.follows (hk : e.Guard f) (hg : f.Follows g) : e.Guard g := by
  cases e with
  | start => exact hg.init.mpr hk
  | doshutdown => exact ⟨mt hg.init.mp hk.1, hg.want hk.2.1, hg.shuttingdown.trans hk.2.2⟩
  | timeout => exact mt hg.init.mp hk
  | response _ q => exact hg.queries q hk
  | finddone | senddone | connected => trivial

theorem Linked.update (h : Linked s) (hf : s.fctxs i = some f) (hb : g.bucketnum = f.bucketnum)
    (hk : ∀ c e, e ∈ (s.buckets c).queue → e.fctx = i → e.Pins = true → e.Guard f → e.Guard g)
    (hr : ∀ c r, (s.buckets c).busy = some r → r.fctx = i → g.queries.any (·.id == r.query.id))
    (hp : ∀ c, s.findsOf c i ≤ g.pending)
    (hu : g.state = .init →
      g.timer = .inactive ∧ g.pending = 0 ∧ g.queries = [] ∧ g.attributes.shuttingdown = false)
    (hs : g.attributes.shuttingdown = true → g.wantShutdown = true) : Linked (s.setFctx i g) := by
  have hfc : (s.setFctx i g).fctxs = Function.update s.fctxs i (some g) := rfl
  have hi := h.live hf
  have other : ∀ {j}, j ≠ i → (s.setFctx i g).fctxs j = s.fctxs j := fun hj => Function.update_noteq hj _ _
  -- the home bucket of a pointer into `s`, read in the new state
  have home : ∀ {j c}, (∀ f, s.fctxs j = some f → f.bucketnum = c) →
      ∀ f', (s.setFctx i g).fctxs j = some f' → f'.bucketnum = c := fun hh f' hf' => by
    rcases update_some_cases hfc hf' with ⟨rfl, rfl⟩ | ⟨-, hf'⟩
    · exact hb.trans (hh f hf)
    · exact hh f' hf'
  refine ⟨fun j hj => ?_, h.nodup, fun c j hj => ?_, fun c e he => ?_, fun o ho => ?_,
    fun c r hr' => ?_, fun c j => ?_, h.once, fun j f' hf' hs' => ?_, fun j f' hf' hd => ?_⟩
  · have hj : s.nextId ≤ j := hj
    rw [other (by omega)]; exact h.fresh j hj
  · obtain ⟨f₀, h₀, hb₀⟩ := h.listed c j hj
    rcases eq_or_ne j i with rfl | hj
    · obtain rfl : f₀ = f := Option.some_inj.mp (h₀.symm.trans hf)
      exact ⟨g, Sys.setFctx_self s j g, hb.trans hb₀⟩
    · exact ⟨f₀, (other hj).trans h₀, hb₀⟩
  · obtain ⟨hlt, hh, hk₀⟩ := h.queue c e he
    refine ⟨hlt, home hh, ?_⟩
    rcases eq_or_ne e.fctx i with hei | hei
    · exact TaskEvent.kept_of_guard hei fun hp => hk c e he hei hp (hk₀.guard (hei ▸ hf) hp)
    · exact (TaskEvent.kept_congr (other hei)).mpr hk₀
  · obtain ⟨hlt, hh⟩ := h.owed o ho
    exact ⟨hlt, home hh⟩
  · obtain ⟨f₀, h₀, hb₀, hq₀⟩ := h.busy c r hr'
    rcases eq_or_ne r.fctx i with hri | hri
    · rw [hri] at h₀ ⊢
      obtain rfl : f₀ = f := Option.some_inj.mp (h₀.symm.trans hf)
      exact ⟨g, hri ▸ Sys.setFctx_self s i g, hb.trans hb₀, hr c r hr' hri⟩
    · exact ⟨f₀, (other hri).trans h₀, hb₀, hq₀⟩
  · rcases eq_or_ne j i with rfl | hj
    · simpa [Sys.pendingOf, Sys.setFctx, Sys.findsOf] using hp c
    · have hp : (s.setFctx i g).pendingOf j = s.pendingOf j := by simp only [Sys.pendingOf, other hj]
      rw [hp]; exact h.pending c j
  · rcases update_some_cases hfc hf' with ⟨rfl, rfl⟩ | ⟨-, hf'⟩
    · exact hu hs'
    · exact h.unstarted j f' hf' hs'
  · rcases update_some_cases hfc hf' with ⟨rfl, rfl⟩ | ⟨-, hf'⟩
    · exact hs hd
    · exact h.shut j f' hf' hd

theorem Linked.setFctx (h : Linked s) (hf : s.fctxs i = some f) (hg : f.Follows g) : Linked (s.setFctx i g) :=
  h.update hf hg.bucketnum
    (fun _ _ _ _ _ hk => hk.follows hg)
    (fun c r hr hri => by
      obtain ⟨f₀, h₀, -, hq⟩ := h.busy c r hr
      rw [hri, hf, Option.some_inj] at h₀
      exact hg.queries _ (h₀ ▸ hq))
    (fun c => ((h.pending c i).trans_eq (Sys.pendingOf_of_some hf)).trans hg.pending)
    (fun hi => by
      obtain ⟨ht, hp, hq⟩ := hg.unstarted hi
      obtain ⟨ht₀, hp₀, hq₀, hd₀⟩ := h.unstarted i f hf (hg.init.mp hi)
      exact ⟨ht.trans ht₀, hp.trans hp₀, hq.trans hq₀, hg.shuttingdown.trans hd₀⟩)
    (fun hd => hg.want (h.shut i f hf (hg.shuttingdown.symm.trans hd)))

theorem Linked.drop (h : Linked s) (hf : t.fctxs = s.fctxs) (hl : ∀ c, List.Sublist (t.buckets c).fctxs (s.buckets c).fctxs)
    (hq : ∀ c, List.Sublist (t.buckets c).queue (s.buckets c).queue)
    (hb : ∀ c r, (t.buckets c).busy = some r →
      ∃ f, s.fctxs r.fctx = some f ∧ f.bucketnum = c ∧ f.queries.any (·.id == r.query.id))
    (ho : t.owed = s.owed) (hn : s.nextId ≤ t.nextId) : Linked t where
  fresh j hj := hf ▸ h.fresh j (Nat.le_trans hn hj)
  nodup c := (h.nodup c).sublist (hl c)
  listed c j hj := hf ▸ h.listed c j ((hl c).subset hj)
  queue c e he := by
    obtain ⟨hlt, hh, hk⟩ := h.queue c e ((hq c).subset he)
    exact ⟨Nat.lt_of_lt_of_le hlt hn, hf ▸ hh, (TaskEvent.kept_congr (by rw [hf])).mpr hk⟩
  owed o ho' := by
    obtain ⟨hlt, hh⟩ := h.owed o (ho ▸ ho')
    exact ⟨Nat.lt_of_lt_of_le hlt hn, hf ▸ hh⟩
  busy c r hr := hf ▸ hb c r hr
  pending c j := by
    have := h.pending c j
    simp only [Sys.findsOf, Sys.pendingOf, hf, ho] at this ⊢
    have := (hq c).countP_le (TaskEvent.isFinddoneOf j)
    omega
  once c j := ⟨((hq c).count_le _).trans (h.once c j).1, ((hq c).count_le _).trans (h.once c j).2⟩
  unstarted j g hg := h.unstarted j g (hf ▸ hg)
  shut j g hg := h.shut j g (hf ▸ hg)

theorem Linked.of_same (h : Linked s) (hf : t.fctxs = s.fctxs) (hb : ∀ c, t.buckets c = s.buckets c)
    (ho : t.owed = s.owed) (hn : s.nextId ≤ t.nextId) : Linked t :=
  h.drop hf (fun c => by rw [hb]) (fun c => by rw [hb]) (fun c r hr => h.busy c r (by rwa [hb] at hr)) ho hn

theorem Linked.purge (h : Linked s) {p : TaskEvent → Bool} : Linked (s.purge b p) :=
  h.drop rfl (fun c => by simp only [Sys.purge, Sys.setBucket, Function.update_apply]; split <;> simp_all)
    (fun c => by
      simp only [Sys.purge, Sys.setBucket, Function.update_apply]
      split
      · subst c; exact List.filter_sublist _
      · exact .refl _)
    (fun c r hr => h.busy c r (by rwa [Sys.purge_busy] at hr)) rfl le_rfl

theorem Sys.post_queue (s : Sys) (b c : Nat) (e : TaskEvent) :
    ((s.post b e).buckets c).queue = if c = b then (s.buckets b).queue ++ [e] else (s.buckets c).queue := by
  by_cases hc : c = b <;> simp [Sys.post, Sys.setBucket, hc]

theorem Sys.post_fctxs (s : Sys) (b c : Nat) (e : TaskEvent) :
    ((s.post b e).buckets c).fctxs = (s.buckets c).fctxs := by
  by_cases hc : c = b <;> simp [Sys.post, Sys.setBucket, hc]

theorem count_append_le_one {l : List TaskEvent} {e x : TaskEvent} (hs : l.count x ≤ 1) (hn : e = x → e ∉ l) :
    (l ++ [e]).count x ≤ 1 := by
  by_cases hx : e = x
  · subst hx
    simp [List.count_eq_zero_of_not_mem (hn rfl)]
  · simpa [List.count_singleton, Ne.symm hx] using hs

theorem Linked.post (h : Linked s) (hlt : e.fctx < s.nextId) (hb : ∀ f, s.fctxs e.fctx = some f → f.bucketnum = b)
    (hk : e.Kept s) (hp : ∀ i, e.isFinddoneOf i = true → s.findsOf b i < s.pendingOf i)
    (ho : ∀ i, e = .start i ∨ e = .doshutdown i → e ∉ (s.buckets b).queue) : Linked (s.post b e) where
  fresh := h.fresh
  nodup c := by rw [Sys.post_fctxs]; exact h.nodup c
  listed c j hj := h.listed c j (by rwa [Sys.post_fctxs] at hj)
  queue c x hx := by
    rcases Sys.mem_post.mp hx with hx | ⟨rfl, rfl⟩
    · exact h.queue c x hx
    · exact ⟨hlt, hb, hk⟩
  owed := h.owed
  busy c r hr := h.busy c r (by rwa [Sys.post_busy] at hr)
  pending c i := by
    show (s.post b e).findsOf c i ≤ s.pendingOf i
    have := h.pending c i
    simp only [Sys.findsOf, Sys.post_queue] at this ⊢
    split
    · subst c
      rw [List.countP_append]
      by_cases he : e.isFinddoneOf i = true
      · have := hp i he
        simp only [Sys.findsOf] at this
        simp [he]; omega
      · simp [he]; omega
    · exact this
  once c i := by
    rw [Sys.post_queue]
    split
    · subst c
      exact ⟨count_append_le_one (h.once b i).1 fun hx => ho i (.inl hx),
        count_append_le_one (h.once b i).2 fun hx => ho i (.inr hx)⟩
    · exact h.once c i
  unstarted := h.unstarted
  shut := h.shut

theorem Linked.owe (h : Linked s) {os : List Owed}
    (ho : ∀ o ∈ os, o.fctx < s.nextId ∧ ∀ f, s.fctxs o.fctx = some f → f.bucketnum = o.bucket)
    (hp : ∀ c i, s.findsOf c i + os.countP (Owed.isFindOf c i) ≤ s.pendingOf i) :
    Linked { s with owed := s.owed ++ os } :=
  { h with
    owed := fun o ho' => (List.mem_append.mp ho').elim (h.owed o) (ho o)
    pending := fun c i => by
      show { s with owed := s.owed ++ os }.findsOf c i ≤ s.pendingOf i
      have := hp c i
      simp only [Sys.findsOf, List.countP_append] at this ⊢
      omega }

theorem Linked.free (h : Linked s) (hf : s.fctxs i = some f) (hq : f.queries = []) (hp : f.pending = 0)
    (hl : ∀ c, i ∉ (s.buckets c).fctxs)
    (he : ∀ c x, x ∈ (s.buckets c).queue → x.fctx = i →
      (∀ l, x ≠ .timeout i l) ∧ x ≠ .start i ∧ x ≠ .doshutdown i) :
    Linked { s with fctxs := Function.update s.fctxs i none } := by
  have hfc : ({ s with fctxs := Function.update s.fctxs i none } : Sys).fctxs = Function.update s.fctxs i none := rfl
  have other : ∀ {j}, j ≠ i → Function.update s.fctxs i none j = s.fctxs j := fun hj => Function.update_noteq hj _ _
  have home : ∀ {j c}, (∀ f, s.fctxs j = some f → f.bucketnum = c) →
      ∀ f', Function.update s.fctxs i none j = some f' → f'.bucketnum = c := fun hh f' hf' =>
    hh f' (update_none_cases rfl hf').2
  refine ⟨fun j hj => ?_, h.nodup, fun c j hj => ?_, fun c x hx => ?_, fun o ho => ?_,
    fun c r hr => ?_, fun c j => ?_, h.once, fun j g hg hs => ?_, fun j g hg hd => ?_⟩
  · rcases eq_or_ne j i with rfl | hji
    · exact Function.update_same _ _ _
    · rw [hfc, other hji]; exact h.fresh j hj
  · obtain ⟨g, hg, hb⟩ := h.listed c j hj
    exact ⟨g, by rw [hfc, other (fun e => hl c (e ▸ hj))]; exact hg, hb⟩
  · obtain ⟨hlt, hh, hk⟩ := h.queue c x hx
    refine ⟨hlt, home hh, ?_⟩
    rcases eq_or_ne x.fctx i with hxi | hxi
    · obtain ⟨ht, hs, hd⟩ := he c x hx hxi
      intro hp
      have hg := hk.guard (hxi ▸ hf) hp
      cases x with
      | start j => exact absurd (by rw [← hxi]; rfl) hs
      | doshutdown j => exact absurd (by rw [← hxi]; rfl) hd
      | timeout j l => exact absurd (by rw [← hxi]; rfl) (ht l)
      | response j q => simp [TaskEvent.Guard, hq] at hg
      | finddone | senddone | connected => cases hp
    · exact (TaskEvent.kept_congr (other hxi)).mpr hk
  · obtain ⟨hlt, hh⟩ := h.owed o ho
    exact ⟨hlt, home hh⟩
  · obtain ⟨g, hg, hb, hq'⟩ := h.busy c r hr
    rcases eq_or_ne r.fctx i with hri | hri
    · rw [hri, hf, Option.some_inj] at hg
      rw [← hg, hq] at hq'
      cases hq'
    · exact ⟨g, by rw [hfc, other hri]; exact hg, hb, hq'⟩
  · rcases eq_or_ne j i with rfl | hj
    · have := h.pending c j
      simp only [Sys.pendingOf, hf, Option.map_some', Option.getD_some, hp] at this
      simp only [Sys.findsOf] at this ⊢
      omega
    · have hp' : ({ s with fctxs := Function.update s.fctxs i none } : Sys).pendingOf j = s.pendingOf j := by
        simp only [Sys.pendingOf, other hj]
      rw [hp']; exact h.pending c j
  · exact h.unstarted j g (update_none_cases hfc hg).2 hs
  · exact h.shut j g (update_none_cases hfc hg).2 hd

end

/-! ## Work on a started fctx -/

structure Working (s : Sys) (i : Nat) (d : Bool) : Prop where
  linked : Linked s
  started : ∃ f, s.fctxs i = some f ∧ f.state ≠ .init ∧ f.attributes.shuttingdown = d
  notBusy : NotBusy s i

section
variable {s t : Sys} {i b : Nat} {d : Bool} {f g : Fctx}

theorem Working.state (w : Working s i d) (hf : s.fctxs i = some f) : f.state ≠ .init := by
  obtain ⟨f₀, h₀, hs, -⟩ := w.started
  rw [hf, Option.some_inj] at h₀
  exact h₀ ▸ hs

theorem Working.flag (w : Working s i d) (hf : s.fctxs i = some f) : f.attributes.shuttingdown = d := by
  obtain ⟨f₀, h₀, -, hd⟩ := w.started
  rw [hf, Option.some_inj] at h₀
  exact h₀ ▸ hd

theorem Working.setFctx (w : Working s i d) (hf : s.fctxs i = some f) (hg : f.Follows g) :
    Working (s.setFctx i g) i d :=
  ⟨w.linked.setFctx hf hg, ⟨g, by simp [Sys.setFctx], mt hg.init.mp (w.state hf), hg.shuttingdown.trans (w.flag hf)⟩,
    w.notBusy⟩

theorem Working.of_same (w : Working s i d) (hf : t.fctxs = s.fctxs) (hb : ∀ c, t.buckets c = s.buckets c)
    (ho : t.owed = s.owed) (hn : s.nextId ≤ t.nextId) : Working t i d :=
  ⟨w.linked.of_same hf hb ho hn, hf ▸ w.started, fun c r hr => w.notBusy c r (by rwa [hb] at hr)⟩

theorem Working.purge (w : Working s i d) {p : TaskEvent → Bool} : Working (s.purge b p) i d :=
  ⟨w.linked.purge, w.started, fun c r hr => w.notBusy c r (by rwa [Sys.purge_busy] at hr)⟩

theorem Working.deliver (w : Working s i d) (x : Delivery) : Working (s.deliver x) i d :=
  w.of_same rfl (fun _ => rfl) rfl le_rfl

theorem Working.note (w : Working s i d) (x : Trace) : Working (s.note x) i d :=
  w.of_same rfl (fun _ => rfl) rfl le_rfl

theorem Working.rework (w : Working s i d) (hf : s.fctxs i = some f) (hb : g.bucketnum = f.bucketnum)
    (hs : g.state = f.state) (hw : g.wantShutdown = f.wantShutdown)
    (hd : g.attributes.shuttingdown = f.attributes.shuttingdown) (ht : g.timer = f.timer)
    (hq : g.queries = f.queries) (hp : g.pending = f.pending) : Working (s.setFctx i g) i d :=
  w.setFctx hf (.of_eq hb hs hw hd ht hq hp)

theorem fctxStoptimer_working (w : Working s i d) : Holds (· ≠ .dangling) (Working · i d) (fctxStoptimer s i) := by
  obtain ⟨f, hf, hs, -⟩ := w.started
  rw [fctxStoptimer, withFctx_of_some hf]
  have hg : f.Follows { f with timer := .inactive } := .started hs hs rfl rfl rfl (fun _ h => h) le_rfl
  exact (w.setFctx hf hg).purge

theorem fctxCancelquery_working {q : Nat} (w : Working s i d) :
    Holds (· ≠ .dangling) (Working · i d) (fctxCancelquery s i q) := by
  obtain ⟨f, hf, hs, hd⟩ := w.started
  rw [fctxCancelquery, withFctx_of_some hf]
  split
  · have h₁ : Linked (s.purge f.bucketnum (isResponseOf i q)) := w.linked.purge
    have hf₁ : (s.purge f.bucketnum (isResponseOf i q)).fctxs i = some f := hf
    have hb₁ : NotBusy (s.purge f.bucketnum (isResponseOf i q)) i := fun c r hr =>
      w.notBusy c r (by rwa [Sys.purge_busy] at hr)
    refine ⟨?_, ⟨{ f with queries := f.queries.filter (·.id != q) }, by simp [Sys.purge, Sys.setBucket,
      Sys.setFctx], hs, hd⟩, hb₁⟩
    have hp₁ : ∀ c, (s.purge f.bucketnum (isResponseOf i q)).findsOf c i ≤ f.pending := fun c =>
      (h₁.pending c i).trans_eq (Sys.pendingOf_of_some hf₁)
    refine h₁.update hf₁ rfl (fun c e he hei hp hgf => ?_)
      (fun c r hr hri => absurd hri (hb₁ c r hr)) hp₁
      (fun h => absurd h hs) (fun hd => w.linked.shut i f hf hd)
    cases e with
    | response j q' p m =>
      obtain rfl : j = i := hei
      obtain rfl : c = f.bucketnum := ((h₁.queue c _ he).2.1 f hf₁).symm
      have hne : isResponseOf j q (.response j q' p m) = false := Sys.purge_drops he
      simp only [isResponseOf, beq_self_eq_true, Bool.true_and, beq_eq_false_iff_ne] at hne
      simp only [TaskEvent.Guard, List.any_eq_true, beq_iff_eq, List.mem_filter, bne_iff_ne] at hgf ⊢
      obtain ⟨x, hx, rfl⟩ := hgf
      exact ⟨x, ⟨hx, hne⟩, rfl⟩
    | _ => exact hgf
  · exact nofun

theorem cancelEach_working : ∀ {s : Sys} (qs : List Query), Working s i d →
    Holds (· ≠ .dangling) (Working · i d) (cancelEach i s qs)
  | _, [], w => w
  | _, _ :: qs, w => (fctxCancelquery_working w).bind fun _ _ wt => cancelEach_working qs wt

theorem fctxCancelqueries_working (w : Working s i d) :
    Holds (· ≠ .dangling) (Working · i d) (fctxCancelqueries s i) := by
  obtain ⟨f, hf, -⟩ := w.started
  rw [fctxCancelqueries, withFctx_of_some hf]
  exact cancelEach_working f.queries w

theorem fctxCleanupfinds_working (w : Working s i d) :
    Holds (· ≠ .dangling) (Working · i d) (fctxCleanupfinds s i) := by
  obtain ⟨f, hf, -⟩ := w.started
  rw [fctxCleanupfinds, withFctx_of_some hf]
  split
  · exact w.rework hf rfl rfl rfl rfl rfl rfl rfl
  · exact nofun

theorem fctxCleanupforwaddrs_working (w : Working s i d) :
    Holds (· ≠ .dangling) (Working · i d) (fctxCleanupforwaddrs s i) := by
  obtain ⟨f, hf, -⟩ := w.started
  rw [fctxCleanupforwaddrs, withFctx_of_some hf]
  split
  · exact w.rework hf rfl rfl rfl rfl rfl rfl rfl
  · exact nofun

theorem fctxStopeverything_working (w : Working s i d) :
    Holds (· ≠ .dangling) (Working · i d) (fctxStopeverything s i) :=
  (fctxCancelqueries_working w).bind fun _ _ w₁ => (fctxCleanupfinds_working w₁).bind fun _ _ w₂ =>
    (fctxCleanupforwaddrs_working w₂).bind fun _ _ w₃ => fctxStoptimer_working w₃

theorem fctxSendevents_working {r : IscResult} (w : Working s i d) :
    Holds (· ≠ .dangling) (Working · i d) (fctxSendevents s i r) := by
  obtain ⟨f, hf, -⟩ := w.started
  rw [fctxSendevents, withFctx_of_some hf]
  split
  · exact nofun
  · have w₁ : Working (s.setFctx i { f with events := [] }) i d := w.rework hf rfl rfl rfl rfl rfl rfl rfl
    exact w₁.deliver _

theorem setState_done_working (w : Working s i d) : Holds (· ≠ .dangling) (Working · i d) (setState s i .done) := by
  obtain ⟨f, hf, hs, -⟩ := w.started
  rw [setState, withFctx_of_some hf]
  have hg : f.Follows { f with state := .done } := .started hs nofun rfl rfl rfl (fun _ h => h) le_rfl
  exact w.setFctx hf hg

theorem fctxDone_working {r : IscResult} (w : Working s i d) : Holds (· ≠ .dangling) (Working · i d) (fctxDone s i r) :=
  (fctxStopeverything_working w).bind fun _ _ w₁ => (setState_done_working w₁).bind fun _ _ w₂ =>
    fctxSendevents_working w₂

/-! ## Freeing an fctx -/

theorem Linked.setBucket (h : Linked s) {k : Bucket} (hl : List.Sublist k.fctxs (s.buckets b).fctxs)
    (hq : List.Sublist k.queue (s.buckets b).queue)
    (hb : ∀ r, k.busy = some r → ∃ f, s.fctxs r.fctx = some f ∧ f.bucketnum = b ∧ f.queries.any (·.id == r.query.id)) :
    Linked (s.setBucket b k) := by
  refine h.drop rfl (fun c => ?_) (fun c => ?_) (fun c r hr => ?_) rfl le_rfl <;> by_cases hc : c = b
  · subst hc; simpa [Sys.setBucket] using hl
  · rw [Sys.setBucket_ne hc]
  · subst hc; simpa [Sys.setBucket] using hq
  · rw [Sys.setBucket_ne hc]
  · subst hc; exact hb r (by simpa [Sys.setBucket] using hr)
  · exact h.busy c r (by rwa [Sys.setBucket_ne hc] at hr)

theorem fctxDestroy_linked (h : Linked s) (hf : s.fctxs i = some f)
    (hc : ∀ c, .start i ∉ (s.buckets c).queue ∧ .doshutdown i ∉ (s.buckets c).queue) :
    Holds (· ≠ .dangling) (fun r => Linked r.2) (fctxDestroy s i) := by
  rw [fctxDestroy, withFctx_of_some hf]
  dsimp only
  split
  · rename_i hd
    obtain ⟨-, -, hq, -, hp, -, -⟩ := hd
    have h₁ : Linked ((s.setBucket f.bucketnum { s.buckets f.bucketnum with
        fctxs := (s.buckets f.bucketnum).fctxs.erase i }).purge f.bucketnum (isTimeoutOf i)) :=
      Linked.purge (by exact h.setBucket (List.erase_sublist _ _) (.refl _) fun r hr => h.busy _ r hr)
    refine h₁.free hf hq hp (fun c hi => ?_) (fun c x hx hxi => ?_)
    · simp only [Sys.purge, Sys.setBucket, Function.update_apply] at hi
      split at hi
      · subst c; exact (h.nodup _).not_mem_erase hi
      · rename_i hne
        obtain ⟨f₀, h₀, hb⟩ := h.listed c i hi
        rw [hf, Option.some_inj] at h₀
        exact hne (h₀ ▸ hb).symm
    · have hx₀ : x ∈ (s.buckets c).queue := by
        rcases eq_or_ne c f.bucketnum with rfl | hcb <;> simpa [Sys.setBucket, *] using Sys.purge_sub hx
      refine ⟨fun l hl => ?_, fun hs => (hc c).1 (hs ▸ hx₀), fun hs => (hc c).2 (hs ▸ hx₀)⟩
      subst hl
      have hb : f.bucketnum = c := (h.queue c _ hx₀).2.1 f hf
      subst hb
      have := Sys.purge_drops hx
      simp [isTimeoutOf] at this
  · exact nofun

theorem emptyBucket_linked (h : Linked s) : Holds (· ≠ .dangling) Linked (emptyBucket s) := by
  unfold emptyBucket
  split
  · exact nofun
  · dsimp only
    split
    · exact h.of_same rfl (fun _ => rfl) rfl le_rfl
    · exact h.of_same rfl (fun _ => rfl) rfl le_rfl

theorem destroyAndEmpty_linked (h : Linked s) (hf : s.fctxs i = some f)
    (hc : ∀ c, .start i ∉ (s.buckets c).queue ∧ .doshutdown i ∉ (s.buckets c).queue) :
    Holds (· ≠ .dangling) Linked (destroyAndEmpty s i) :=
  (fctxDestroy_linked h hf hc).bind fun ⟨_, _⟩ _ ht => holds_ite (emptyBucket_linked ht) ht

theorem Linked.no_control (h : Linked s) (hf : s.fctxs i = some f) (hs : f.state ≠ .init)
    (hd : f.attributes.shuttingdown = true) :
    ∀ c, .start i ∉ (s.buckets c).queue ∧ .doshutdown i ∉ (s.buckets c).queue := fun c =>
  ⟨fun he => hs ((h.queue c _ he).2.2.guard hf rfl),
    fun he => by simp [((h.queue c _ he).2.2.guard hf rfl).2.2] at hd⟩

theorem fctxShutdown_linked (h : Linked s) (hf : s.fctxs i = some f) :
    Holds (· ≠ .dangling) (fun t => Linked t ∧ ∀ j, (s.fctxs j).isSome → (t.fctxs j).isSome) (fctxShutdown s i) := by
  rw [fctxShutdown, withFctx_of_some hf]
  dsimp only
  split
  · exact ⟨h, fun _ => id⟩
  · rename_i hw
    have hd : f.attributes.shuttingdown = false :=
      Bool.eq_false_iff.mpr fun hd => hw (h.shut i f hf hd)
    have hg : f.Follows { f with wantShutdown := true } := ⟨rfl, Iff.rfl, fun _ => rfl, rfl, fun _ h => h,
      le_rfl, fun _ => ⟨rfl, rfl, rfl⟩⟩
    have h₁ : Linked (s.setFctx i { f with wantShutdown := true }) := h.setFctx hf hg
    have hl : ∀ j, (s.fctxs j).isSome → ((s.setFctx i { f with wantShutdown := true }).fctxs j).isSome :=
      fun _ => isSome_update_some rfl
    split
    · rename_i hs
      refine ⟨h₁.post (h.live hf) (fun f' hf' => ?_) (TaskEvent.kept_of_guard rfl fun _ => ⟨hs, rfl, hd⟩)
        (fun _ h => by cases h) (fun j _ hj => hw ?_), hl⟩
      · rw [TaskEvent.fctx, Sys.setFctx_self, Option.some_inj] at hf'
        rw [← hf']
      · exact ((h.queue _ _ hj).2.2.guard hf rfl).2.1
    · exact ⟨h₁, hl⟩

/-! ## Rounds of addresses and queries -/

theorem fctxNextaddressAt_working (w : Working s i d) :
    Holds (· ≠ .dangling) (fun r => Working r.2 i d) (fctxNextaddressAt s i) := by
  obtain ⟨f, hf, -⟩ := w.started
  rw [fctxNextaddressAt, withFctx_of_some hf]
  split
  · exact nofun
  · exact w.rework hf rfl rfl rfl rfl rfl rfl rfl

theorem setAddrwait_working {v : Bool} (w : Working s i d) :
    Holds (· ≠ .dangling) (Working · i d) (setAddrwait s i v) := by
  obtain ⟨f, hf, -⟩ := w.started
  rw [setAddrwait, withFctx_of_some hf]
  exact w.rework hf rfl rfl rfl rfl rfl rfl rfl

theorem findNameservers_owes {env : Env} {r : Option IscResult} {f' : Fctx} {o' : List Owed} :
    ∀ {f : Fctx} {o : List Owed} {ns : List Name}, findNameservers env i f o ns = (r, f', o') →
      ∃ os, o' = o ++ os ∧ (∀ x ∈ os, x = .find f.bucketnum i) ∧ f'.pending = f.pending + os.length
  | f, o, [], h => by cases h; exact ⟨[], (List.append_nil _).symm, (fun _ h => by cases h), rfl⟩
  | f, o, n :: ns, h => by
    simp only [findNameservers] at h
    split at h
    · cases h; exact ⟨[], (List.append_nil _).symm, (fun _ h => by cases h), rfl⟩
    · have := findNameservers_owes h; exact this
    · obtain ⟨os, ho, hos, hp⟩ := findNameservers_owes h
      refine ⟨.find f.bucketnum i :: os, (by simp [ho]), fun x hx => ?_, (by simp [hp]; omega)⟩
      rcases List.mem_cons.mp hx with rfl | hx
      · rfl
      · exact hos x hx
    · have := findNameservers_owes h; exact this

theorem addressesFound_holds :
    Holds (· = .sortFinds) (fun r => ∃ l, r.2 = { f with finds := l }) (addressesFound f) := by
  unfold addressesFound
  split
  · exact ⟨f.finds, rfl⟩
  · split
    · exact ⟨_, rfl⟩
    · rfl

theorem Working.owe_finds (w : Working s i d) (hf : s.fctxs i = some f) (hg : f.Follows g) {os : List Owed}
    (hos : ∀ x ∈ os, x = .find f.bucketnum i) (hp : f.pending + os.length ≤ g.pending) :
    Working { s.setFctx i g with owed := s.owed ++ os } i d := by
  have w₁ := w.setFctx hf hg
  refine ⟨w₁.linked.owe (fun o ho => ?_) (fun c j => ?_), w₁.started, w₁.notBusy⟩
  · obtain rfl := hos o ho
    refine ⟨w.linked.live hf, fun f' hf' => ?_⟩
    rw [Owed.fctx, Sys.setFctx_self, Option.some_inj] at hf'
    rw [← hf', hg.bucketnum]; rfl
  · have hc : os.countP (Owed.isFindOf c j) ≤ if j = i then os.length else 0 := by
      split
      · exact List.countP_le_length _
      · rename_i hj
        refine (List.countP_eq_zero.mpr fun x hx => ?_).le
        rw [hos x hx]
        simp [Owed.isFindOf, Ne.symm hj]
    have hs := w₁.linked.pending c j
    have h₀ := w.linked.pending c j
    rcases eq_or_ne j i with rfl | hj
    · rw [Sys.pendingOf_of_some hf] at h₀
      rw [Sys.pendingOf_of_some (Sys.setFctx_self s j g)]
      simp only [if_true] at hc
      exact (Nat.add_le_add h₀ hc).trans hp
    · simp only [hj, if_false] at hc
      omega

theorem fctxGetaddresses_working {cfg : Config} {env : Env} (w : Working s i d) :
    Holds (· ≠ .dangling) (fun r => Working r.2 i d) (fctxGetaddresses cfg env s i) := by
  obtain ⟨f, hf, hs, -⟩ := w.started
  rw [fctxGetaddresses, withFctx_of_some hf]
  dsimp only
  -- a round leaves new address lists, and one more pending find per ADB event owed
  have round : ∀ (rs : Nat) (fw : List Addrinfo) (finds : List Find) (os : List Owed),
      (∀ x ∈ os, x = .find f.bucketnum i) → Working { (s.setFctx i
        { f with restarts := rs, forwaddrs := fw, finds := finds, pending := f.pending + os.length })
        with owed := s.owed ++ os } i d :=
    fun rs fw finds os hos => by
      have hg : f.Follows { f with restarts := rs, forwaddrs := fw, finds := finds, pending := f.pending + os.length } :=
        .started hs hs rfl rfl rfl (fun _ h => h) (Nat.le_add_right _ _)
      exact w.owe_finds hf hg hos le_rfl
  split
  · exact w.rework hf rfl rfl rfl rfl rfl rfl rfl
  split
  · exact nofun
  split
  · refine (addressesFound_holds.weaken fun _ h => h ▸ nofun).map fun r ⟨l, hl⟩ => ?_
    show Working (s.setFctx i r.2) i d
    rw [hl]
    exact w.rework hf rfl rfl rfl rfl rfl rfl rfl
  split
  · exact nofun
  split
  · exact nofun
  split
  · rename_i g o hfind
    obtain ⟨os, rfl, hos, hp⟩ := findNameservers_owes hfind
    obtain ⟨finds, pending, rfl⟩ := findNameservers_fctx hfind
    cases hp
    exact round _ _ _ _ hos
  · rename_i g o hfind
    obtain ⟨os, rfl, hos, hp⟩ := findNameservers_owes hfind
    obtain ⟨finds, pending, rfl⟩ := findNameservers_fctx hfind
    cases hp
    refine (addressesFound_holds.weaken fun _ h => h ▸ nofun).map fun r ⟨l, hl⟩ => ?_
    show Working { (s.setFctx i r.2) with owed := _ } i d
    rw [hl]
    exact round _ _ _ _ hos


theorem Working.owe_io (w : Working s i d) (hf : s.fctxs i = some f) {o : Owed} (ho : o.fctx = i)
    (hb : o.bucket = f.bucketnum) (hn : ∀ c j, o.isFindOf c j = false) :
    Working { s with owed := s.owed ++ [o] } i d := by
  refine ⟨w.linked.owe (fun x hx => ?_) (fun c j => ?_), w.started, w.notBusy⟩
  · obtain rfl := List.mem_singleton.mp hx
    refine ⟨ho ▸ w.linked.live hf, fun f' hf' => ?_⟩
    rw [ho, hf, Option.some_inj] at hf'
    rw [← hf', hb]
  · simpa [hn] using w.linked.pending c j

theorem Working.ask (w : Working s i d) (hf : s.fctxs i = some f) (hg : f.Follows g) {o : Owed}
    (ho : o.fctx = i) (hb : o.bucket = f.bucketnum) (hn : ∀ c j, o.isFindOf c j = false) :
    Working { { s with nextId := s.nextId + 1 }.setFctx i g with owed := s.owed ++ [o] } i d :=
  ((w.of_same (t := { s with nextId := s.nextId + 1 }) rfl (fun _ => rfl) rfl (Nat.le_succ _)).setFctx hf hg).owe_io (Sys.setFctx_self _ _ _) ho
    (hg.bucketnum ▸ hb) hn

theorem fctxQuery_working {env : Env} {a : Addrinfo} {o : FetchOptions} (w : Working s i d) :
    Holds (· ≠ .dangling) (fun r => Working r.2 i d) (fctxQuery env s i a o) := by
  obtain ⟨f, hf, hs, -⟩ := w.started
  rw [fctxQuery, withFctx_of_some hf]
  have hg : f.Follows { f with interval := retryInterval f.restarts a.srtt, timer := .armed true } :=
    .started hs hs rfl rfl rfl (fun _ h => h) le_rfl
  have w₁ := (w.setFctx hf hg).note (.queried i a)
  dsimp only
  split
  · exact (fctxStoptimer_working w₁).map fun _ ht => ht
  · exact w₁.ask (Sys.setFctx_self _ _ _) (by exact .started hs hs rfl rfl rfl (fun _ h => by simp [h]) le_rfl)
      (by split <;> rfl) (by split <;> rfl) (fun _ _ => by split <;> rfl)

theorem queryOrDone_working {env : Env} {a : Addrinfo} {o : FetchOptions} (w : Working s i d) :
    Holds (· ≠ .dangling) (Working · i d) (queryOrDone env s i a o) :=
  (fctxQuery_working w).bind fun ⟨_, _⟩ _ wt => holds_ite wt (fctxDone_working wt)

theorem fctxTry_working {cfg : Config} {env : Env} (w : Working s i d) :
    Holds (· ≠ .dangling) (Working · i d) (fctxTry cfg env s i) := by
  obtain ⟨f, hf, -⟩ := w.started
  rw [fctxTry, withFctx_of_some hf]
  dsimp only
  split
  · exact nofun
  refine (fctxNextaddressAt_working (w.note (.tried i))).bind fun ⟨a, t⟩ _ wt => ?_
  dsimp only
  split
  · exact queryOrDone_working wt
  refine (fctxCancelqueries_working wt).bind fun _ _ w₂ => (fctxCleanupfinds_working w₂).bind fun _ _ w₃ =>
    (fctxCleanupforwaddrs_working w₃).bind fun _ _ w₄ => (fctxGetaddresses_working w₄).bind
      fun ⟨r, t₅⟩ _ w₅ => ?_
  refine holds_ite (setAddrwait_working w₅) (holds_ite (fctxDone_working w₅)
    ((fctxNextaddressAt_working w₅).bind fun ⟨a', t₆⟩ _ w₆ => ?_))
  dsimp only
  split
  · exact queryOrDone_working w₆
  · exact nofun

theorem stopIdletimer_working (w : Working s i d) : Holds (· ≠ .dangling) (Working · i d) (stopIdletimer s i) := by
  obtain ⟨f, hf, hs, -⟩ := w.started
  rw [stopIdletimer, withFctx_of_some hf]
  exact w.setFctx hf (.started hs hs rfl rfl rfl (fun _ h => h) le_rfl)

theorem getNameservers_working {cfg : Config} {env : Env} (w : Working s i d) :
    Holds (· ≠ .dangling) (Working · i d) (getNameservers cfg env s i) := by
  obtain ⟨f, hf, -⟩ := w.started
  rw [getNameservers, withFctx_of_some hf]
  dsimp only
  split
  · exact fctxDone_working w
  · split
    · exact fctxDone_working (w.rework hf rfl rfl rfl rfl rfl rfl rfl)
    · exact (fctxCancelqueries_working (by exact w.rework hf rfl rfl rfl rfl rfl rfl rfl)).bind fun _ _ w₁ =>
        (fctxCleanupfinds_working w₁).bind fun _ _ w₂ => (fctxCleanupforwaddrs_working w₂).bind
          fun _ _ w₃ => fctxTry_working w₃


/-! ## The handlers of a bucket's events -/

theorem Holds.linked {x : Except Abort Sys} (hx : Holds (· ≠ .dangling) (Working · i d) x) :
    Holds (· ≠ .dangling) Linked x :=
  hx.mono fun _ w => w.linked

theorem TaskEvent.Guard.congr {e : TaskEvent} (hk : e.Guard f) (hs : g.state = f.state)
    (hw : g.wantShutdown = f.wantShutdown) (hd : g.attributes.shuttingdown = f.attributes.shuttingdown)
    (hq : g.queries = f.queries) : e.Guard g := by
  unfold TaskEvent.Guard
  rw [hs, hw, hd, hq]
  exact hk

theorem Working.retune (w : Working s i d) (hf : s.fctxs i = some f) (hb : g.bucketnum = f.bucketnum)
    (hs : g.state = f.state) (hw : g.wantShutdown = f.wantShutdown)
    (hd : g.attributes.shuttingdown = f.attributes.shuttingdown) (hq : g.queries = f.queries)
    (hp : ∀ c, s.findsOf c i ≤ g.pending) : Working (s.setFctx i g) i d :=
  ⟨w.linked.update hf hb (fun _ _ _ _ _ hk => hk.congr hs hw hd hq) (fun c r hr hri => absurd hri (w.notBusy c r hr))
      hp (fun h => absurd (hs.symm.trans h) (w.state hf))
      (fun h => hw.trans (w.linked.shut i f hf (hd.symm.trans h))),
    ⟨g, Sys.setFctx_self s i g, hs ▸ w.state hf, hd.trans (w.flag hf)⟩, w.notBusy⟩

theorem fctxTimeout_working {cfg : Config} {env : Env} {life : Bool} (w : Working s i d) :
    Holds (· ≠ .dangling) (Working · i d) (fctxTimeout cfg env s i life) :=
  holds_ite (fctxDone_working w) ((setAddrwait_working w).bind fun _ _ wt => fctxTry_working wt)

theorem fctxFinddone_linked {cfg : Config} {env : Env} {more : Bool} (w : Working s i d)
    (hp : ∀ c, s.findsOf c i < s.pendingOf i) : Holds (· ≠ .dangling) Linked (fctxFinddone cfg env s i more) := by
  obtain ⟨f, hf, hs, -⟩ := w.started
  have hp₁ : ∀ c, s.findsOf c i ≤ f.pending - 1 := fun c => by
    have := hp c
    rw [Sys.pendingOf_of_some hf] at this
    omega
  rw [fctxFinddone, withFctx_of_some hf]
  dsimp only
  split
  · exact nofun
  split
  · have w₁ : Working (s.setFctx i { f with pending := f.pending - 1, attributes := { f.attributes with addrwait := false } }) i d :=
      w.retune hf rfl rfl rfl rfl rfl hp₁
    exact Holds.linked (i := i) (d := d) (holds_ite (fctxTry_working w₁) (holds_ite (fctxDone_working w₁) w₁))
  have w₁ : Working (s.setFctx i { f with pending := f.pending - 1 }) i d := w.retune hf rfl rfl rfl rfl rfl hp₁
  split
  · rename_i hc
    exact destroyAndEmpty_linked w₁.linked (Sys.setFctx_self _ _ _)
      (w₁.linked.no_control (Sys.setFctx_self _ _ _) hs hc.1)
  · exact w₁.linked

theorem Linked.init_pins (h : Linked s) (hf : s.fctxs i = some f) (hs : f.state = .init) {c : Nat}
    {e : TaskEvent} (he : e ∈ (s.buckets c).queue) (hei : e.fctx = i) (hp : e.Pins = true) : e = .start i := by
  have hg := (h.queue c e he).2.2.guard (hei ▸ hf) hp
  cases e with
  | start => exact congrArg _ hei
  | doshutdown => exact absurd hs hg.1
  | timeout => exact absurd hs hg
  | response => simp [TaskEvent.Guard, (h.unstarted i f hf hs).2.2.1] at hg
  | finddone | senddone | connected => cases hp

theorem fctxStart_linked {cfg : Config} {env : Env} (h : Linked s) (hf : s.fctxs i = some f)
    (hs : f.state = .init) (hn : NotBusy s i) (hc : ∀ c, .start i ∉ (s.buckets c).queue) :
    Holds (· ≠ .dangling) Linked (fctxStart cfg env s i) := by
  rw [fctxStart, withFctx_of_some hf]
  split
  · exact nofun
  split
  · split
    · exact nofun
    · exact destroyAndEmpty_linked h hf fun c => ⟨hc c, fun he => nomatch h.init_pins hf hs he rfl rfl⟩
  · have w₁ : Working (s.setFctx i { f with state := .active }) i f.attributes.shuttingdown :=
      ⟨h.update hf rfl (fun c e he hei hp _ => absurd (h.init_pins hf hs he hei hp ▸ he) (hc c))
        (fun c r hr hri => absurd hri (hn c r hr)) (fun c => (h.pending c i).trans_eq (Sys.pendingOf_of_some (f := f) hf))
        nofun (fun hd => h.shut i f hf hd), ⟨_, Sys.setFctx_self _ _ _, nofun, rfl⟩, hn⟩
    exact (fctxTry_working w₁).linked

theorem fctxDoshutdown_linked (h : Linked s) (hf : s.fctxs i = some f) (hs : f.state ≠ .init)
    (hw : f.wantShutdown = true) (hn : NotBusy s i) (hc : ∀ c, .doshutdown i ∉ (s.buckets c).queue) :
    Holds (· ≠ .dangling) Linked (fctxDoshutdown s i) := by
  have w₁ : Working (s.setFctx i { f with attributes := { f.attributes with shuttingdown := true } }) i true := by
    refine ⟨h.update hf rfl (fun c e he hei _ hg => ?_) (fun c r hr hri => absurd hri (hn c r hr))
      (fun c => (h.pending c i).trans_eq (Sys.pendingOf_of_some (f := f) hf)) (fun h' => absurd h' hs) (fun _ => hw),
      ⟨_, Sys.setFctx_self _ _ _, hs, rfl⟩, hn⟩
    cases e with
    | doshutdown j =>
      obtain rfl : j = i := hei
      exact absurd he (hc c)
    | _ => exact hg
  rw [fctxDoshutdown, withFctx_of_some hf]
  dsimp only
  split
  · exact nofun
  -- the fctx is destroyed at the end only with its shutdown begun
  have last : ∀ t, Working t i true → Holds (· ≠ .dangling) Linked
      (if f.references = 0 ∧ f.pending = 0 ∧ f.validating = 0 then destroyAndEmpty t i else pure t) :=
    fun t wt => by
      obtain ⟨g, hg, hgs, hgd⟩ := wt.started
      exact holds_ite (destroyAndEmpty_linked wt.linked hg (wt.linked.no_control hg hgs hgd)) wt.linked
  simp only [pure_bind]
  split
  · exact (fctxStopeverything_working w₁).bind fun _ _ w₂ => (setState_done_working w₂).bind fun _ _ w₃ =>
      (fctxSendevents_working w₃).bind fun t _ wt => last t wt
  · exact last _ w₁

theorem fctxCancelquery_linked {q : Nat} (h : Linked s) (hf : s.fctxs i = some f) (hn : NotBusy s i) :
    Holds (· ≠ .dangling) Linked (fctxCancelquery s i q) := by
  by_cases hs : f.state = .init
  · rw [fctxCancelquery, withFctx_of_some hf, if_neg (by simp [(h.unstarted i f hf hs).2.2.1])]
    exact nofun
  · exact (fctxCancelquery_working ⟨h, ⟨f, hf, hs, rfl⟩, hn⟩).linked

theorem resquerySenddone_linked {q : Nat} {r : IscResult} (h : Linked s) (hf : s.fctxs i = some f)
    (hn : NotBusy s i) : Holds (· ≠ .dangling) Linked (resquerySenddone s i q r) := by
  unfold resquerySenddone
  split
  · exact fctxCancelquery_linked h hf hn
  · exact h

theorem resqueryConnected_linked {env : Env} {q : Query} {r : IscResult} (h : Linked s)
    (hf : s.fctxs i = some f) (hn : NotBusy s i) : Holds (· ≠ .dangling) Linked (resqueryConnected env s i q r) := by
  rw [resqueryConnected, withFctx_of_some hf]
  split
  · exact h
  rename_i hq
  have w : Working s i f.attributes.shuttingdown :=
    ⟨h, ⟨f, hf, fun hs => by simp [(h.unstarted i f hf hs).2.2.1] at hq, rfl⟩, hn⟩
  split
  · exact (fctxCancelquery_working w).linked
  · have hs := w.state hf
    refine Holds.linked (i := i) (d := f.attributes.shuttingdown) ?_
    refine (w.setFctx hf ?_).owe_io (o := .send f.bucketnum i q.id) (Sys.setFctx_self _ _ _) rfl rfl fun _ _ => rfl
    refine .started hs hs rfl rfl rfl (fun x hx => ?_) le_rfl
    simpa [List.any_map, Function.comp_def, apply_ite] using hx

theorem Fctx.Follows.of_core (hc : g.core = f.core) (hw : g.callers = f.callers) : f.Follows g := by
  simp only [Fctx.core, Fctx.progress, Fctx.callers, Prod.mk.injEq] at hc hw
  exact .of_eq hc.1.2.1 hc.1.1 hw.2 hc.2.1 hc.1.2.2.2.1 hc.1.2.2.1 hc.2.2.2.1

theorem resqueryResponse_linked {cfg : Config} {env : Env} {qid : Nat} {p : IscResult} {m : Message}
    (h : Linked s) (hf : s.fctxs i = some f) (hq : f.queries.any (·.id == qid)) :
    Holds (· ≠ .dangling) Linked (resqueryResponse cfg env s i qid p m) := by
  rw [resqueryResponse, withFctx_of_some hf]
  obtain ⟨q, hfq⟩ := Option.isSome_iff_exists.mp (List.find?_isSome.mpr (List.any_eq_true.mp hq))
  have hqid : q.id = qid := by simpa using List.find?_some hfq
  rw [hfq]
  have hsafe : Holds (· ≠ .dangling) (fun _ => True) (responseVerdict cfg env.view f q p m.parsed) :=
    (responseVerdict_safe.mono fun _ _ => trivial).weaken fun e he => by rcases he with rfl | rfl | rfl | rfl | rfl <;> nofun
  refine (Holds.both (holds_of_ok fun r hr => Fctx.Follows.of_core (responseVerdict_core hr)
    (responseVerdict_callers hr)) hsafe).map fun ⟨vd, g, w⟩ hg => ?_
  · have h₁ : Linked { s.setFctx i g with cacheWrites := s.cacheWrites ++ w } :=
      (h.setFctx hf hg).of_same rfl (fun _ => rfl) rfl le_rfl
    exact h₁.setBucket (.refl _) (.refl _) fun r hr => by
      cases hr
      exact ⟨g, Sys.setFctx_self s i g, hg.bucketnum, hg.queries _ (by simpa [Verdict.resume, hqid] using hq)⟩

theorem resqueryFinish_working {cfg : Config} {env : Env} {r : Resume} (w : Working s r.fctx d) :
    Holds (· ≠ .dangling) (Working · r.fctx d) (resqueryFinish cfg env s r) := by
  unfold resqueryFinish
  refine (fctxCancelquery_working w).bind fun t _ wt => ?_
  split
  · exact holds_ite (fctxTry_working wt) (holds_ite (fctxDone_working wt) (getNameservers_working wt))
  split
  · exact queryOrDone_working wt
  obtain ⟨f, hf, -⟩ := wt.started
  rw [withFctx_of_some hf]
  exact holds_ite ((fctxCancelqueries_working wt).bind fun _ _ w₁ => stopIdletimer_working w₁) (fctxDone_working wt)


/-! ## A bucket's task -/

theorem withFctx_of_none {α : Type} {k : Fctx → Except Abort α} (h : s.fctxs i = none) :
    s.withFctx i k = .error .dangling := by
  simp [Sys.withFctx, h]

theorem Linked.pop {e : TaskEvent} {rest : List TaskEvent} (h : Linked s) (hq : (s.buckets b).queue = e :: rest) :
    Linked (s.setBucket b { s.buckets b with queue := rest }) :=
  h.setBucket (.refl _) (hq ▸ List.sublist_cons_self e rest) fun r hr => h.busy b r hr

theorem Linked.idle {e : TaskEvent} (h : Linked s) (hb : (s.buckets b).busy = none)
    (he : e ∈ (s.buckets b).queue) (hf : s.fctxs e.fctx = some f) : NotBusy s e.fctx := fun c r hr hri => by
  obtain ⟨f', hf', hc, -⟩ := h.busy c r hr
  rw [hri, hf, Option.some_inj] at hf'
  have hcb : c = b := hc.symm.trans (hf' ▸ (h.queue b e he).2.1 f hf)
  rw [hcb, hb] at hr
  cases hr

theorem Linked.taken {e : TaskEvent} {rest : List TaskEvent} (h : Linked s) (hq : (s.buckets b).queue = e :: rest)
    (hp : e.Pins = true) (ho : (s.buckets b).queue.count e ≤ 1) (c : Nat) :
    e ∉ ((s.setBucket b { s.buckets b with queue := rest }).buckets c).queue := by
  intro hx
  by_cases hc : c = b
  · subst hc
    rw [hq, List.count_cons_self] at ho
    simp only [Sys.setBucket, Function.update_same] at hx
    exact absurd (List.count_pos_iff.mpr hx) (by omega)
  · rw [Sys.setBucket_ne hc] at hx
    have he : e ∈ (s.buckets b).queue := hq ▸ List.mem_cons_self e rest
    obtain ⟨f, hf, -⟩ := (h.queue c e hx).2.2 hp
    exact hc (((h.queue c e hx).2.1 f hf).symm.trans ((h.queue b e he).2.1 f hf))

theorem Linked.findsOf_away {c : Nat} (h : Linked s) (hf : s.fctxs i = some f) (hc : c ≠ f.bucketnum) :
    s.findsOf c i = 0 := by
  simp only [Sys.findsOf, Nat.add_eq_zero, List.countP_eq_zero]
  refine ⟨fun o ho hfo => ?_, fun x hx hfx => ?_⟩
  · cases o with
    | find c' j =>
      simp only [Owed.isFindOf, Bool.and_eq_true, beq_iff_eq] at hfo
      obtain ⟨rfl, rfl⟩ := hfo
      exact hc ((h.owed _ ho).2 f hf).symm
    | _ => cases hfo
  · cases x with
    | finddone j =>
      simp only [TaskEvent.isFinddoneOf, beq_iff_eq] at hfx
      subst hfx
      exact hc ((h.queue c _ hx).2.1 f hf).symm
    | _ => cases hfx

theorem Linked.found {more : Bool} {rest : List TaskEvent} (h : Linked s)
    (hq : (s.buckets b).queue = .finddone i more :: rest) :
    ∃ f, s.fctxs i = some f ∧ f.state ≠ .init ∧
      ∀ c, (s.setBucket b { s.buckets b with queue := rest }).findsOf c i < f.pending := by
  have hb : (s.setBucket b { s.buckets b with queue := rest }).findsOf b i + 1 = s.findsOf b i := by
    simp [Sys.findsOf, Sys.setBucket, hq, List.countP_cons, TaskEvent.isFinddoneOf]
    omega
  have hp := h.pending b i
  obtain ⟨f, hf⟩ : ∃ f, s.fctxs i = some f := by
    cases hi : s.fctxs i with
    | none => simp only [Sys.pendingOf, hi] at hp; simp at hp; omega
    | some f => exact ⟨f, rfl⟩
  rw [Sys.pendingOf_of_some hf] at hp
  refine ⟨f, hf, fun hs => by rw [(h.unstarted i f hf hs).2.1] at hp; omega, fun c => ?_⟩
  by_cases hc : c = b
  · subst hc; omega
  · have hbf : f.bucketnum = b := by
      by_contra hne
      rw [h.findsOf_away hf (Ne.symm hne)] at hb
      omega
    have h₀ := h.findsOf_away hf (hbf ▸ hc)
    have : (s.setBucket b { s.buckets b with queue := rest }).findsOf c i = s.findsOf c i := by
      unfold Sys.findsOf
      rw [Sys.setBucket_ne hc]
      rfl
    omega

theorem dispatch_linked {cfg : Config} {env : Env} {e : TaskEvent} {rest : List TaskEvent} (h : Linked s)
    (hb : (s.buckets b).busy = none) (hq : (s.buckets b).queue = e :: rest) (hf : s.fctxs e.fctx = some f) :
    Holds (· ≠ .dangling) Linked (dispatch cfg env (s.setBucket b { s.buckets b with queue := rest }) e) := by
  have he : e ∈ (s.buckets b).queue := hq ▸ List.mem_cons_self e rest
  have h₁ := h.pop hq
  have hn : NotBusy (s.setBucket b { s.buckets b with queue := rest }) e.fctx := fun c r hr =>
    h.idle hb he hf c r (by rwa [Sys.setBucket_busy (k := { s.buckets b with queue := rest }) rfl] at hr)
  have hk := (h.queue b e he).2.2
  cases e with
  | start i => exact fctxStart_linked h₁ hf (hk.guard hf rfl) hn (h.taken hq rfl (h.once b i).1)
  | doshutdown i =>
    obtain ⟨hs, hw, -⟩ := hk.guard hf rfl
    exact fctxDoshutdown_linked h₁ hf hs hw hn (h.taken hq rfl (h.once b i).2)
  | timeout => exact (fctxTimeout_working ⟨h₁, ⟨f, hf, hk.guard hf rfl, rfl⟩, hn⟩).linked
  | finddone i =>
    obtain ⟨f', hf', hs, hp⟩ := h.found hq
    exact fctxFinddone_linked ⟨h₁, ⟨f', hf', hs, rfl⟩, hn⟩
      fun c => (hp c).trans_eq (Sys.pendingOf_of_some (s := s.setBucket b _) hf').symm
  | response => exact resqueryResponse_linked h₁ hf (hk.guard hf rfl)
  | senddone => exact resquerySenddone_linked h₁ hf hn
  | connected => exact resqueryConnected_linked h₁ hf hn

theorem Linked.resume {r : Resume} (h : Linked s) (hr : (s.buckets b).busy = some r) :
    ∃ d, Working (s.setBucket b { s.buckets b with busy := none }) r.fctx d := by
  obtain ⟨f, hf, hb, hq⟩ := h.busy b r hr
  refine ⟨f.attributes.shuttingdown, h.setBucket (k := { s.buckets b with busy := none }) (.refl _) (.refl _) (fun _ h => nomatch h),
    ⟨f, hf, fun hs => ?_, rfl⟩, fun c r' hr' hri => ?_⟩
  · simp [(h.unstarted _ f hf hs).2.2.1] at hq
  · by_cases hc : c = b
    · subst hc
      simp [Sys.setBucket] at hr'
    · obtain ⟨f', hf', hb', -⟩ := h.busy c r' (by simpa [Sys.setBucket, hc] using hr')
      rw [hri, hf, Option.some_inj] at hf'
      exact hc (hb'.symm.trans (hf' ▸ hb))


/-! ## Callers -/

theorem fctxCreate_unstarted {cfg : Config} {cenv : CreateEnv} {name : Name} {type : RdataType}
    {domain : Option (Name × List Name)} {options : FetchOptions} {c : Nat}
    (h : fctxCreate cfg cenv name type domain options c = .ok g) :
    g.timer = .inactive ∧ g.pending = 0 ∧ g.queries = [] ∧ g.attributes.shuttingdown = false := by
  unfold fctxCreate at h
  split at h
  · cases h
  · obtain ⟨z, -, h⟩ := map_eq_ok.mp h
    cases h
    exact ⟨rfl, rfl, rfl, rfl⟩

theorem Linked.link (h : Linked s) (hb : g.bucketnum = b) (hs : g.state = .init)
    (hu : g.timer = .inactive ∧ g.pending = 0 ∧ g.queries = [] ∧ g.attributes.shuttingdown = false) :
    let t := { s.setFctx s.nextId g with nextId := s.nextId + 1 }.setBucket b
      { s.buckets b with fctxs := (s.buckets b).fctxs ++ [s.nextId] }
    Linked t ∧ ∀ c e, e ∈ (t.buckets c).queue → e.fctx ≠ s.nextId := by
  intro t
  have hfc : t.fctxs = Function.update s.fctxs s.nextId (some g) := rfl
  have other : ∀ {j}, j ≠ s.nextId → t.fctxs j = s.fctxs j := fun hj => Function.update_noteq hj _ _
  have hnew : s.fctxs s.nextId = none := h.fresh _ le_rfl
  have hq : ∀ c, (t.buckets c).queue = (s.buckets c).queue := fun c => Sys.setBucket_queue rfl
  have hbz : ∀ c, (t.buckets c).busy = (s.buckets c).busy := fun c => Sys.setBucket_busy rfl
  have hnl : ∀ c, s.nextId ∉ (s.buckets c).fctxs := fun c hm => by
    obtain ⟨f, hf, -⟩ := h.listed c _ hm
    rw [hnew] at hf
    cases hf
  have hl : ∀ c, (t.buckets c).fctxs = if c = b then (s.buckets c).fctxs ++ [s.nextId] else (s.buckets c).fctxs :=
    fun c => by by_cases hc : c = b <;> simp [t, Sys.setBucket, hc]
  refine ⟨⟨fun j hj => ?_, fun c => ?_, fun c j hj => ?_, fun c e he => ?_, fun o ho => ?_, fun c r hr => ?_,
    fun c j => ?_, fun c j => ?_, fun j f hf hs' => ?_, fun j f hf hd => ?_⟩,
    fun c e he => (h.queue c e (by rwa [hq] at he)).1.ne⟩
  · have hj : s.nextId + 1 ≤ j := hj
    rw [other (by omega)]
    exact h.fresh j (by omega)
  · rw [hl c]
    split
    · simpa [List.nodup_append, hnl c] using h.nodup c
    · exact h.nodup c
  · rw [hl c] at hj
    split at hj
    · rename_i hcb
      rcases List.mem_append.mp hj with hj | hj
      · obtain ⟨f, hf, hfb⟩ := h.listed c j hj
        exact ⟨f, (other (h.live hf).ne).trans hf, hfb⟩
      · obtain rfl := List.mem_singleton.mp hj
        exact ⟨g, by rw [hfc]; exact Function.update_same _ _ _, hb.trans hcb.symm⟩
    · obtain ⟨f, hf, hfb⟩ := h.listed c j hj
      exact ⟨f, (other (h.live hf).ne).trans hf, hfb⟩
  · rw [hq] at he
    obtain ⟨hlt, hh, hk⟩ := h.queue c e he
    exact ⟨Nat.lt_succ_of_lt hlt, fun f hf => hh f (by rwa [other hlt.ne] at hf),
      (TaskEvent.kept_congr (other hlt.ne)).mpr hk⟩
  · obtain ⟨hlt, hh⟩ := h.owed o ho
    exact ⟨Nat.lt_succ_of_lt hlt, fun f hf => hh f (by rwa [other hlt.ne] at hf)⟩
  · obtain ⟨f, hf, hfb, hfq⟩ := h.busy c r (by rwa [hbz] at hr)
    exact ⟨f, (other (h.live hf).ne).trans hf, hfb, hfq⟩
  · have hfinds : t.findsOf c j = s.findsOf c j := by simp only [Sys.findsOf, hq]; rfl
    rw [hfinds]
    rcases eq_or_ne j s.nextId with rfl | hj
    · have := h.pending c s.nextId
      simp only [Sys.pendingOf, hnew, Option.map_none', Option.getD_none] at this
      omega
    · have hp : t.pendingOf j = s.pendingOf j := by simp only [Sys.pendingOf, other hj]
      rw [hp]
      exact h.pending c j
  · rw [hq]; exact h.once c j
  · rcases update_some_cases hfc hf with ⟨rfl, rfl⟩ | ⟨-, hf⟩
    · exact hu
    · exact h.unstarted j f hf hs'
  · rcases update_some_cases hfc hf with ⟨rfl, rfl⟩ | ⟨-, hf⟩
    · rw [hu.2.2.2] at hd; cases hd
    · exact h.shut j f hf hd

theorem Linked.join_start {j fetch task : Nat} (h : Linked s) (hf : s.fctxs j = some f) (hs : f.state = .init)
    (hb : f.bucketnum = b) (hj : j < s.nextId) (hq : .start j ∉ (s.buckets b).queue) :
    Holds (· ≠ .dangling) (fun r => Linked r.2)
      ((fctxJoin s j fetch task).map fun t => (IscResult.success, t.post b (.start j))) := by
  rw [fctxJoin, withFctx_of_some hf]
  set g : Fctx := { f with events := f.events ++ [{ fetch, task }], references := f.references + 1 }
  have h₁ : Linked { s.setFctx j g with fetches := Function.update s.fetches fetch (some j) } :=
    (h.setFctx (g := g) hf (.of_eq rfl rfl rfl rfl rfl rfl rfl)).of_same rfl (fun _ => rfl) rfl le_rfl
  refine h₁.post hj (fun f' hf' => ?_) (fun _ => ⟨g, Sys.setFctx_self s j g, hs⟩) (fun _ h => by cases h)
    fun _ _ hx => hq hx
  obtain rfl : g = f' := Option.some_inj.mp ((Sys.setFctx_self s j g).symm.trans hf')
  exact hb

theorem fctxJoin_linked {j fetch task : Nat} (h : Linked s) (hf : s.fctxs j = some f) :
    Holds (· ≠ .dangling) Linked (fctxJoin s j fetch task) := by
  rw [fctxJoin, withFctx_of_some hf]
  exact (h.setFctx hf (by exact .of_eq rfl rfl rfl rfl rfl rfl rfl)).of_same rfl (fun _ => rfl) rfl le_rfl

theorem createfetch_linked {cfg : Config} {cenv : CreateEnv} {name : Name} {type : RdataType}
    {domain : Option (Name × List Name)} {options : FetchOptions} {task : Nat} (h : Linked s) :
    Holds (· ≠ .dangling) (fun r => Linked r.2) (createfetch cfg cenv s name type domain options task) := by
  unfold createfetch
  split
  · exact h
  have h₁ : Linked { s with nextId := s.nextId + 1 } := h.of_same rfl (fun _ => rfl) rfl (Nat.le_succ _)
  dsimp only
  split
  · exact h₁
  split
  · rename_i j hj
    obtain ⟨_, -, f, hf, -, rfl⟩ : ∃ a, _ ∧ ∃ f, s.fctxs a = some f ∧ f.state ≠ .done ∧ a = j := by
      simpa [Option.bind_eq_some] using hj
    split
    · exact (fctxJoin_linked h₁ hf).map fun _ ht => ht
    · exact h₁
  split
  · exact h₁
  rename_i g hg
  obtain ⟨hgi, -, hgb, -, -⟩ := fctxCreate_fresh hg
  obtain ⟨h₂, hn₂⟩ := h₁.link hgb hgi (fctxCreate_unstarted hg)
  split
  · exact h₂.join_start (Sys.setFctx_self _ _ _) hgi hgb (Nat.lt_succ_self _) fun hx => hn₂ _ _ hx rfl
  · exact (fctxDestroy_linked h₂ (Sys.setFctx_self _ _ _) fun c =>
      ⟨fun hx => hn₂ c _ hx rfl, fun hx => hn₂ c _ hx rfl⟩).map fun _ ht => ht


theorem cancelfetch_linked {k j : Nat} (h : Linked s) (hk : s.fetches k = some j) (hf : s.fctxs j = some f) :
    Holds (· ≠ .dangling) Linked (cancelfetch s k) := by
  rw [cancelfetch, hk]
  dsimp only
  rw [withFctx_of_some hf]
  split
  · exact h
  split
  · exact h
  · exact (h.setFctx hf (by exact .of_eq rfl rfl rfl rfl rfl rfl rfl)).of_same rfl (fun _ => rfl) rfl le_rfl

theorem destroyfetch_linked {k j : Nat} (h : Linked s) (hk : s.fetches k = some j) (hf : s.fctxs j = some f) :
    Holds (· ≠ .dangling) Linked (destroyfetch s k) := by
  rw [destroyfetch, hk]
  dsimp only
  rw [withFctx_of_some hf]
  split
  · exact nofun
  simp only [pure_bind]
  split
  · exact nofun
  have h₁ : Linked { s.setFctx j { f with references := f.references - 1 } with
      fetches := Function.update s.fetches k none } :=
    (h.setFctx (g := { f with references := f.references - 1 }) hf (.of_eq rfl rfl rfl rfl rfl rfl rfl)).of_same
      rfl (fun _ => rfl) rfl le_rfl
  have hf₁ : ({ s.setFctx j { f with references := f.references - 1 } with
      fetches := Function.update s.fetches k none } : Sys).fctxs j = some { f with references := f.references - 1 } :=
    Sys.setFctx_self _ _ _
  split
  · exact h₁
  split
  · rename_i hc
    have hs : f.state ≠ .init := fun hs => by simp [(h.unstarted j f hf hs).2.2.2] at hc
    exact destroyAndEmpty_linked h₁ hf₁ (h₁.no_control hf₁ hs hc.2.2)
  · exact (fctxShutdown_linked h₁ hf₁).mono fun _ h => h.1


theorem shutdownEach_linked : ∀ {s : Sys} (js : List Nat), Linked s → (∀ j ∈ js, (s.fctxs j).isSome) →
    Holds (· ≠ .dangling) Linked (shutdownEach s js)
  | _, [], h, _ => h
  | _, j :: js, h, hl => by
    obtain ⟨f, hf⟩ := Option.isSome_iff_exists.mp (hl j (List.mem_cons_self _ _))
    exact (fctxShutdown_linked h hf).bind fun _ _ ⟨ht, hs⟩ =>
      shutdownEach_linked js ht fun j' hj' => hs j' (hl j' (List.mem_cons_of_mem _ hj'))

theorem shutdownBucket_linked (h : Linked s) : Holds (· ≠ .dangling) Linked (shutdownBucket s b) := by
  unfold shutdownBucket
  refine (shutdownEach_linked _ h fun j hj => ?_).bind fun t _ ht => ?_
  · obtain ⟨f, hf, -⟩ := h.listed b j hj
    simp [hf]
  · have h₁ : Linked (t.setBucket b { t.buckets b with exiting := true }) :=
      ht.setBucket (.refl _) (.refl _) fun r hr => ht.busy b r hr
    dsimp only
    split
    · exact h₁
    simp only [pure_bind]
    split
    · exact nofun
    · exact h₁.of_same rfl (fun _ => rfl) rfl le_rfl

theorem shutdownBuckets_linked : ∀ {s : Sys} (bs : List Nat), Linked s →
    Holds (· ≠ .dangling) Linked (shutdownBuckets s bs)
  | _, [], h => h
  | _, _ :: bs, h => (shutdownBucket_linked h).bind fun _ _ ht => shutdownBuckets_linked bs ht

theorem shutdown_linked {cfg : Config} (h : Linked s) : Holds (· ≠ .dangling) Linked (shutdown cfg s) := by
  unfold shutdown
  split
  · exact h
  · refine (shutdownBuckets_linked _ (h.of_same (t := { s with exiting := true }) rfl (fun _ => rfl) rfl
      le_rfl)).bind fun t _ ht => ?_
    split
    · exact ht.of_same rfl (fun _ => rfl) rfl le_rfl
    · exact ht

/-! ## Runs -/

theorem countP_eraseIdx {α : Type} {p : α → Bool} : ∀ {l : List α} {k : Nat} {o : α}, l[k]? = some o →
    (l.eraseIdx k).countP p + (if p o then 1 else 0) = l.countP p
  | [], _, _, h => by simp at h
  | x :: l, 0, o, h => by
    simp only [List.getElem?_cons_zero, Option.some.injEq] at h
    subst h
    simp [List.countP_cons]
  | x :: l, k + 1, o, h => by
    rw [List.getElem?_cons_succ] at h
    have := countP_eraseIdx (p := p) h
    simp only [List.eraseIdx_cons_succ, List.countP_cons]
    omega

theorem Linked.pay {k : Nat} {o : Owed} {more : Bool} {result : IscResult} (h : Linked s)
    (hk : s.owed[k]? = some o) :
    Linked ({ s with owed := s.owed.eraseIdx k }.post (o.event more result).1 (o.event more result).2) := by
  have h₁ : Linked { s with owed := s.owed.eraseIdx k } :=
    { h with
      owed := fun o' ho' => h.owed o' (List.mem_of_mem_eraseIdx ho')
      pending := fun c i => by
        have := countP_eraseIdx (p := Owed.isFindOf c i) hk
        have := h.pending c i
        simp only [Sys.findsOf, Sys.pendingOf] at *
        omega }
  obtain ⟨hlt, hb⟩ := h.owed o (List.getElem?_mem hk)
  have hc : ∀ {e : TaskEvent} (i : Nat), e = .start i ∨ e = .doshutdown i → e.Pins = false → False :=
    fun _ he hp => by rcases he with rfl | rfl <;> cases hp
  cases o with
  | find c i =>
    refine h₁.post hlt hb (fun h => by cases h) (fun j hj => ?_) fun j he => (hc j he rfl).elim
    simp only [Owed.event, TaskEvent.isFinddoneOf, beq_iff_eq] at hj
    subst hj
    have h₀ := countP_eraseIdx (p := Owed.isFindOf c i) hk
    have := h.pending c i
    simp only [Owed.isFindOf, beq_self_eq_true, Bool.and_self, if_true] at h₀
    simp only [Sys.findsOf, Sys.pendingOf, Owed.event] at this ⊢
    omega
  | send c i q => exact h₁.post hlt hb (fun h => by cases h) (fun _ h => by cases h) fun j he => (hc j he rfl).elim
  | connect c i q => exact h₁.post hlt hb (fun h => by cases h) (fun _ h => by cases h) fun j he => (hc j he rfl).elim

/-- A task stopped for nothing takes a connect, or failed send, event of a freed fctx. -/
def Stray (s : Sys) : Action → Prop
  | .run b _ => (s.buckets b).busy = none ∧ ∃ i e rest, (s.buckets b).queue = e :: rest ∧ s.fctxs i = none ∧
      ((∃ q r, e = .connected i q r) ∨ ∃ q r, e = .senddone i q r ∧ r ≠ .success)
  | _ => False

theorem fire_linked {cfg : Config} {i : Nat} {life : Bool} (h : Linked s) (he : enabled s (.fire i life)) :
    Holds (· ≠ .dangling) Linked (step cfg s (.fire i life)) := by
  obtain ⟨f, hf, ht⟩ : ∃ f, s.fctxs i = some f ∧ f.timer ≠ .inactive := by
    cases hf : s.fctxs i with
    | none => simp [enabled, hf] at he
    | some f => exact ⟨f, rfl, fun ht => by simp [enabled, hf, ht] at he⟩
  have hs : f.state ≠ .init := fun hs => ht (h.unstarted i f hf hs).1
  have h₁ : Linked (s.setFctx i { f with timer := .inactive }) :=
    h.setFctx hf (.started hs hs rfl rfl rfl (fun _ h => h) le_rfl)
  show Holds _ _ (s.withFctx i _)
  rw [withFctx_of_some hf]
  refine h₁.post (h.live hf) (fun f' hf' => ?_) (TaskEvent.kept_of_guard rfl fun _ => hs)
    (fun _ h => by cases h) fun _ h => ?_
  · obtain rfl := Option.some_inj.mp ((Sys.setFctx_self s i _).symm.trans hf')
    rfl
  · rcases h with h | h <;> cases h

theorem respond_linked {cfg : Config} {i q : Nat} {p : IscResult} {m : Message} (h : Linked s)
    (he : enabled s (.respond i q p m)) : Holds (· ≠ .dangling) Linked (step cfg s (.respond i q p m)) := by
  obtain ⟨f, hf, hq⟩ : ∃ f, s.fctxs i = some f ∧ f.queries.any (·.id == q) := by
    cases hf : s.fctxs i with
    | none => simp [enabled, hf] at he
    | some f =>
      simp only [enabled, hf, Option.map_some', Option.getD_some, Bool.and_eq_true, List.any_eq_true] at he
      obtain ⟨⟨x, hx, hxq⟩, -⟩ := he
      exact ⟨f, rfl, List.any_eq_true.mpr ⟨x, hx, by simp_all⟩⟩
  show Holds _ _ (s.withFctx i _)
  rw [withFctx_of_some hf]
  refine h.post (h.live hf) (fun f' hf' => ?_) (fun _ => ⟨f, hf, hq⟩) (fun _ h => by cases h) fun _ h => ?_
  · obtain rfl := Option.some_inj.mp (hf.symm.trans hf')
    rfl
  · rcases h with h | h <;> cases h

theorem run_linked {cfg : Config} {b : Nat} {env : Env} (h : Linked s) :
    Holds (fun x => x ≠ .dangling ∨ Stray s (.run b env)) Linked (step cfg s (.run b env)) := by
  have hw : ∀ {x : Except Abort Sys}, Holds (· ≠ .dangling) Linked x →
      Holds (fun x => x ≠ .dangling ∨ Stray s (.run b env)) Linked x := fun hx => hx.weaken fun _ => .inl
  show Holds _ _ (match (s.buckets b).busy, (s.buckets b).queue with
    | some _, _ => _ | none, _ :: _ => _ | none, [] => _)
  split
  · rename_i r hr
    obtain ⟨d, w⟩ := h.resume hr
    exact hw (resqueryFinish_working w).linked
  · rename_i e rest hb hq
    cases hx : s.fctxs e.fctx with
    | some f => exact hw (dispatch_linked h hb hq hx)
    | none =>
      -- only an event that pins nothing and is not counted in `pending` can name a freed fctx
      have he' : e ∈ (s.buckets b).queue := hq ▸ List.mem_cons_self e rest
      cases e with
      | senddone i q r =>
        have hx' : (s.setBucket b { s.buckets b with queue := rest }).fctxs i = none := hx
        show Holds _ _ (resquerySenddone _ i q r)
        unfold resquerySenddone
        split
        · rename_i hr
          rw [fctxCancelquery, withFctx_of_none hx']
          exact .inr ⟨hb, i, _, rest, hq, hx, .inr ⟨q, r, rfl, hr⟩⟩
        · exact h.pop hq
      | connected i q r =>
        have hx' : (s.setBucket b { s.buckets b with queue := rest }).fctxs i = none := hx
        show Holds _ _ (resqueryConnected env _ i q r)
        rw [resqueryConnected, withFctx_of_none hx']
        exact .inr ⟨hb, i, _, rest, hq, hx, .inl ⟨q, r, rfl⟩⟩
      | finddone i more =>
        obtain ⟨f, hf, -⟩ := h.found hq
        cases hf.symm.trans hx
      | _ =>
        obtain ⟨f, hf, -⟩ := (h.queue b _ he').2.2 rfl
        cases hf.symm.trans hx
  · exact h

/-- Every enabled step keeps the pointers, and follows a freed fctx only as a `Stray` step. -/
theorem step_linked {cfg : Config} {a : Action} (h : Linked s) (hh : Handles s) (he : enabled s a) :
    Holds (fun x => x ≠ .dangling ∨ Stray s a) Linked (DnsResolver.step cfg s a) := by
  have hw : ∀ {x : Except Abort Sys}, Holds (· ≠ .dangling) Linked x →
      Holds (fun x => x ≠ .dangling ∨ Stray s a) Linked x := fun hx => hx.weaken fun _ => .inl
  cases a with
  | createfetch => exact hw ((createfetch_linked h).map fun _ ht => ht)
  | cancelfetch k =>
    obtain ⟨j, hk⟩ := Option.isSome_iff_exists.mp he
    obtain ⟨f, hf⟩ := Option.isSome_iff_exists.mp (hh.target k j hk)
    exact hw (cancelfetch_linked h hk hf)
  | destroyfetch k =>
    simp only [enabled] at he
    split at he
    · rename_i j hk
      obtain ⟨f, hf⟩ := Option.isSome_iff_exists.mp (hh.target k j hk)
      exact hw (destroyfetch_linked h hk hf)
    · cases he
  | shutdown => exact hw (shutdown_linked h)
  | whenshutdown l =>
    show Linked (whenshutdown s l)
    unfold whenshutdown
    split <;> exact h.of_same rfl (fun _ => rfl) rfl le_rfl
  | fire => exact hw (fire_linked h he)
  | complete k =>
    show Holds _ _ (match s.owed[k]? with | none => _ | some _ => _)
    split
    · exact h
    · exact h.pay ‹_›
  | respond => exact hw (respond_linked h he)
  | run => exact run_linked h

theorem linked_init (cfg : Config) : Linked (Sys.init cfg) where
  fresh _ _ := rfl
  nodup _ := List.nodup_nil
  listed _ _ h := nomatch h
  queue _ _ h := nomatch h
  owed _ h := nomatch h
  busy _ _ h := nomatch h
  pending _ _ := by simp [Sys.findsOf, Sys.init]
  once _ _ := by simp [Sys.init]
  unstarted _ _ h := nomatch h
  shut _ _ h := nomatch h

theorem Reachable.linked {cfg : Config} (h : Reachable cfg s) : Linked s := by
  induction h with
  | init => exact linked_init cfg
  | step a hr he hs ih =>
    have : Holds _ Linked (DnsResolver.step cfg _ a) := step_linked ih hr.handles he
    rw [hs] at this
    exact this

end

/-- A step reaches a freed fctx only as a `Stray` step. -/
theorem freed_fctx_reached_only_by_stray_events (cfg : Config) :
    ∀ s a, Reachable cfg s → enabled s a → step cfg s a = .error .dangling → Stray s a :=
  fun _ _ hr he hd => by
    have : Holds _ Linked (step cfg _ _) := step_linked hr.linked hr.handles he
    rw [hd] at this
    exact this.resolve_left (· rfl)

/-- A TCP query canceled while it connects: its connect event reaches the freed fctx. -/
theorem connect_after_free :
    ∃ s, Reachable oneBucket s ∧ enabled s (.run 0 answering) ∧
      step oneBucket s (.run 0 answering) = .error .dangling ∧ Stray s (.run 0 answering) := by
  obtain ⟨s, hr, he, hd⟩ : ∃ s, run oneBucket (Sys.init oneBucket)
      [.createfetch aExampleCom .a none { tcp := true } 7 comCut, .run 0 answering, .fire 1 true,
        .run 0 answering, .destroyfetch 0, .run 0 answering, .complete 0 false .success] = some (.ok s) ∧
      enabled s (.run 0 answering) ∧ step oneBucket s (.run 0 answering) = .error .dangling :=
    ⟨_, rfl, rfl, rfl⟩
  have hs := run_ok_reachable .init hr
  exact ⟨s, hs, he, hd, freed_fctx_reached_only_by_stray_events oneBucket s _ hs he hd⟩

/-! ## What the pointers give the handlers -/

/-- A bucket's list names each of its fctxs once, and only live fctxs of that bucket. -/
theorem bucket_lists_name_live_fctxs (cfg : Config) :
    ∀ s, Reachable cfg s → ∀ b, (s.buckets b).fctxs.Nodup ∧
      ∀ j ∈ (s.buckets b).fctxs, ∃ f, s.fctxs j = some f ∧ f.bucketnum = b :=
  fun _ hs b => ⟨hs.linked.nodup b, hs.linked.listed b⟩

theorem new_fctx_listed_once :
    ∃ s, Reachable oneBucket s ∧ (s.buckets 0).fctxs = [1] ∧ ((s.buckets 0).fctxs.Nodup ∧
      ∀ j ∈ (s.buckets 0).fctxs, ∃ f, s.fctxs j = some f ∧ f.bucketnum = 0) := by
  obtain ⟨s, hr, hl⟩ : ∃ s, run oneBucket (Sys.init oneBucket) [fetchA 7] = some (.ok s) ∧
      (s.buckets 0).fctxs = [1] := ⟨_, rfl, rfl⟩
  have hs := run_ok_reachable .init hr
  exact ⟨s, hs, hl, bucket_lists_name_live_fctxs oneBucket s hs 0⟩

/-- `pending` counts every ADB event still to come for an fctx. -/
theorem adb_events_counted_in_pending (cfg : Config) :
    ∀ s, Reachable cfg s → (∀ b i, s.findsOf b i ≤ s.pendingOf i) ∧
      ∀ b i more rest, (s.buckets b).queue = .finddone i more :: rest →
        ∃ f, s.fctxs i = some f ∧ f.state ≠ .init ∧ 0 < f.pending := fun _ hs =>
  ⟨hs.linked.pending, fun _ _ _ _ hq => by
    obtain ⟨f, hf, hst, hp⟩ := hs.linked.found hq
    exact ⟨f, hf, hst, Nat.lt_of_le_of_lt (Nat.zero_le _) (hp 0)⟩⟩

theorem adb_event_taken_with_pending :
    ∃ s, Reachable oneBucket s ∧ (s.buckets 0).queue = [.finddone 1 false] ∧
      ∃ f, s.fctxs 1 = some f ∧ f.state ≠ .init ∧ 0 < f.pending := by
  obtain ⟨s, hr, hq⟩ : ∃ s, run oneBucket (Sys.init oneBucket) [.createfetch aExampleCom .a none {} 7 comCutTwo,
      .run 0 lookingUp, .complete 0 false .success] = some (.ok s) ∧ (s.buckets 0).queue = [.finddone 1 false] :=
    ⟨_, rfl, rfl⟩
  have hs := run_ok_reachable .init hr
  exact ⟨s, hs, hq, (adb_events_counted_in_pending oneBucket s hs).2 0 1 false [] hq⟩

/-- A task stopped in `resquery_response` comes back to a live fctx that lists its query. -/
theorem stopped_task_finds_its_query (cfg : Config) :
    ∀ s, Reachable cfg s → ∀ b r, (s.buckets b).busy = some r →
      (∃ f, s.fctxs r.fctx = some f ∧ f.bucketnum = b ∧ f.state ≠ .init ∧ f.queries.any (·.id == r.query.id)) ∧
      ∀ c r', c ≠ b → (s.buckets c).busy = some r' → r'.fctx ≠ r.fctx := fun _ hs b r hr => by
  obtain ⟨f, hf, hb, hq⟩ := hs.linked.busy b r hr
  refine ⟨⟨f, hf, hb, fun hst => ?_, hq⟩, fun c r' hc hr' hri => ?_⟩
  · simp [(hs.linked.unstarted _ f hf hst).2.2.1] at hq
  · obtain ⟨f', hf', hb', -⟩ := hs.linked.busy c r' hr'
    rw [hri, hf, Option.some_inj] at hf'
    exact hc (hb'.symm.trans (hf' ▸ hb))

theorem answer_stops_task_on_listed_query :
    ∃ s r, Reachable oneBucket s ∧ (s.buckets 0).busy = some r ∧ r.fctx = 1 ∧ r.query.id = 2 ∧
      ∃ f, s.fctxs 1 = some f ∧ f.bucketnum = 0 ∧ f.state ≠ .init ∧ f.queries.any (·.id == 2) := by
  obtain ⟨s, r, hr, hb, hi, hq⟩ : ∃ s r, run oneBucket (Sys.init oneBucket) [fetchA 7, .run 0 answering,
      .respond 1 2 .success (reply .noerror [addressOfA] []), .run 0 answering] = some (.ok s) ∧
      (s.buckets 0).busy = some r ∧ r.fctx = 1 ∧ r.query.id = 2 := ⟨_, _, rfl, rfl, rfl, rfl⟩
  have hs := run_ok_reachable .init hr
  obtain ⟨f, hf, hfb, hst, hfq⟩ := ((stopped_task_finds_its_query oneBucket s hs 0 r hb).1)
  rw [hi] at hf
  rw [hq] at hfq
  exact ⟨s, r, hs, hb, hi, hq, f, hf, hfb, hst, hfq⟩

/-- A control event is queued at most once of each kind, and only while its checks hold. -/
theorem control_events_queued_once_and_armed (cfg : Config) :
    ∀ s, Reachable cfg s → ∀ b i,
      (s.buckets b).queue.count (.start i) ≤ 1 ∧ (s.buckets b).queue.count (.doshutdown i) ≤ 1 ∧
      (.start i ∈ (s.buckets b).queue → ∃ f, s.fctxs i = some f ∧ f.state = .init) ∧
      (.doshutdown i ∈ (s.buckets b).queue → ∃ f, s.fctxs i = some f ∧ f.state ≠ .init ∧
        f.wantShutdown = true ∧ f.attributes.shuttingdown = false) := fun _ hs b i =>
  ⟨(hs.linked.once b i).1, (hs.linked.once b i).2, fun he => (hs.linked.queue b _ he).2.2 rfl,
    fun he => (hs.linked.queue b _ he).2.2 rfl⟩

theorem new_fctx_start_queued :
    ∃ s, Reachable oneBucket s ∧ (s.buckets 0).queue = [.start 1] ∧ ∃ f, s.fctxs 1 = some f ∧ f.state = .init := by
  obtain ⟨s, hr, hq⟩ : ∃ s, run oneBucket (Sys.init oneBucket) [fetchA 7] = some (.ok s) ∧
      (s.buckets 0).queue = [.start 1] := ⟨_, rfl, rfl⟩
  have hs := run_ok_reachable .init hr
  exact ⟨s, hs, hq, (control_events_queued_once_and_armed oneBucket s hs 0 1).2.2.1 (by rw [hq]; simp)⟩

end DnsResolver
