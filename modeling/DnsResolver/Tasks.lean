import DnsResolver.Books

/-! # The bucket tasks keep the books

Every handler keeps the books, and arms each fctx it sends a query for. -/

namespace DnsResolver

/-! ## Classification -/

/-- What classification and caching do to an fctx: its domain only narrows. -/
structure Fctx.Narrows (f f' : Fctx) : Prop where
  bucketnum : f'.bucketnum = f.bucketnum
  restarts : f'.restarts = f.restarts
  queries : f'.queries = f.queries
  finds : f'.finds = f.finds
  find : f'.find = f.find
  forwaddrs : f'.forwaddrs = f.forwaddrs
  domain : issubdomain f'.domain f.domain

theorem Fctx.Narrows.refl (f : Fctx) : f.Narrows f := ⟨rfl, rfl, rfl, rfl, rfl, rfl, issubdomain_refl _⟩

theorem Fctx.Narrows.trans {f g k : Fctx} (h₁ : f.Narrows g) (h₂ : g.Narrows k) : f.Narrows k :=
  ⟨h₂.bucketnum.trans h₁.bucketnum, h₂.restarts.trans h₁.restarts, h₂.queries.trans h₁.queries,
    h₂.finds.trans h₁.finds, h₂.find.trans h₁.find, h₂.forwaddrs.trans h₁.forwaddrs,
    issubdomain_trans h₂.domain h₁.domain⟩

theorem Fctx.narrows_marks (f : Fctx) (a : FctxAttrs) (e : List Fetchevent) :
    f.Narrows { f with attributes := a, events := e } := ⟨rfl, rfl, rfl, rfl, rfl, rfl, issubdomain_refl _⟩

theorem map_eq_error {ε α β : Type} {x : Except ε α} {g : α → β} {e : ε} :
    x.map g = .error e ↔ x = .error e := by
  cases x <;> simp [Except.map]

/-- Where the answer and authority loops stop: a return, or an abort of `answer_response`. -/
def Stop.Classifies : Stop → Prop
  | .ret _ => True
  | .abort a => a = .answerExternal ∨ a = .fullcompare

/-- The aborts of classification and caching. -/
def Abort.Classifying (e : Abort) : Prop :=
  e = .responseQr ∨ e = .sameQuestion ∨ e = .answerExternal ∨ e = .fullcompare ∨ e = .cacheChaining

theorem holds_exit {α : Type} {P : α → Prop} {k : IscResult → α} {e : Stop} (he : e.Classifies)
    (hk : ∀ r, P (k r)) : Holds Abort.Classifying P (e.exit k) := by
  cases e with
  | ret r => exact hk r
  | abort a => rcases he with rfl | rfl <;> simp [Stop.exit, Abort.Classifying]

section
variable {f : Fctx} {aa external atQname : Bool} {owner : Name}

theorem takeRdataset_stop {st : AnswerScan} {na : NameAttrs} {r : Rdataset} {fd : Found} {e : Stop}
    (h : takeRdataset aa external atQname st na r fd = .error e) : e.Classifies := by
  unfold takeRdataset at h
  by_cases hc : st.chaining <;> by_cases hx : external <;> simp [hc, hx] at h
  subst h; exact .inl rfl

theorem dnameTarget_stop {r : Rdataset} {qname : Name} {held : Bool} {e : Stop}
    (h : dnameTarget r qname owner held = .error e) : e.Classifies := by
  unfold dnameTarget at h
  split at h
  · cases h; trivial
  split at h
  · cases h; exact .inr rfl
  split at h
  · split at h <;> cases h; trivial
  · cases h; trivial

theorem dnameFound_stop {chaining held : Bool} {qname : Name} {r : Rdataset} {e : Stop}
    (h : dnameFound chaining external held qname owner r = .error e) : e.Classifies := by
  unfold dnameFound at h
  split at h
  · split at h
    · cases h; trivial
    · split at h <;> cases h; exact dnameTarget_stop ‹_›
  · split at h <;> cases h

theorem answerRdatasets_stop {e : Stop} :
    ∀ {st : AnswerScan} {na : NameAttrs} {addl : List MsgName} {l : List Rdataset},
      answerRdatasets f aa external atQname owner st na addl l = .error e → e.Classifies
  | _, _, _, [], h => by cases h
  | st, na, addl, r :: rs, h => by
    simp only [answerRdatasets] at h
    split at h
    · rename_i hf
      cases h
      split at hf
      · cases h : qnameFound f.type r <;> simp [h, Except.mapError] at hf; cases hf; trivial
      · exact dnameFound_stop hf
    · exact answerRdatasets_stop (map_eq_error.mp h)
    · split at h
      · cases h; exact takeRdataset_stop ‹_›
      · exact answerRdatasets_stop (map_eq_error.mp h)

theorem answerNames_stop {e : Stop} :
    ∀ {st : AnswerScan} {l addl : List MsgName}, answerNames f aa st l addl = .error e → e.Classifies
  | _, [], _, h => by cases h
  | st, n :: rest, addl, h => by
    simp only [answerNames] at h
    split at h
    · cases h; exact answerRdatasets_stop ‹_›
    · split at h
      · cases h
      · exact answerNames_stop (map_eq_error.mp h)

theorem noanswerRdatasets_stop {i : Nat} {e : Stop} :
    ∀ {st : NoanswerScan} {na : NameAttrs} {l : List Rdataset},
      noanswerRdatasets aa i st na l = .error e → e.Classifies
  | _, _, [], h => by cases h
  | st, na, r :: rs, h => by
    simp only [noanswerRdatasets] at h
    split at h
    · split at h
      · cases h; trivial
      · exact noanswerRdatasets_stop (map_eq_error.mp h)
    split at h
    · split at h
      · cases h; trivial
      · exact noanswerRdatasets_stop (map_eq_error.mp h)
    · exact noanswerRdatasets_stop (map_eq_error.mp h)

theorem noanswerName_stop {d : Name} {st : NoanswerScan} {n : MsgName} {e : Stop}
    (h : noanswerName d aa st n = .error e) : e.Classifies := by
  unfold noanswerName at h
  split at h
  · exact noanswerRdatasets_stop (map_eq_error.mp h)
  · cases h

theorem noanswerFinish_narrows {m : Message} {oqname : Option Name} {st : NoanswerScan}
    (hns : ∀ i, st.nsName = some i →
      issubdomain (((m.authority[i]?).map (·.name)).getD f.domain) f.domain) :
    f.Narrows (noanswerFinish f m oqname st).2.1 := by
  unfold noanswerFinish
  split
  · exact .refl f
  split
  · exact .refl f
  split
  · split
    · exact f.narrows_marks _ _
    · exact ⟨rfl, rfl, rfl, rfl, rfl, rfl, hns _ ‹_›⟩
  all_goals split <;> first | exact .refl f | exact f.narrows_marks _ _

theorem noanswerResponse_safe {m : Message} {oqname : Option Name} :
    Holds Abort.Classifying (fun r => f.Narrows r.2.1) (noanswerResponse f m oqname) := by
  unfold noanswerResponse
  split
  · exact .refl f
  dsimp only
  split
  · exact noanswerFinish_narrows fun _ h => by cases h
  · split
    · exact holds_exit (noanswerName_stop ‹_›) fun _ => .refl f
    · rename_i st n' hname
      show f.Narrows (noanswerNext f _ oqname st _).2.1
      unfold noanswerNext
      split
      · refine noanswerFinish_narrows fun i hi => ?_
        obtain ⟨hn, hns⟩ := noanswerName_nsName hname rfl
        rcases hns with hns | ⟨hns, hsub⟩
        · rw [hns] at hi; cases hi
        · rw [hns] at hi; cases hi; simpa [hn] using hsub
      · exact .refl f

theorem answerResponse_safe {m : Message} : Holds Abort.Classifying (fun r => f.Narrows r.2.1) (answerResponse f m) := by
  unfold answerResponse
  split
  · exact holds_exit (answerNames_stop ‹_›) fun _ => .refl f
  dsimp only
  split
  · exact .refl f
  split
  · exact .refl f
  have hw : f.Narrows { f with attributes := { f.attributes with wantcache := true } } :=
    f.narrows_marks _ _
  split
  · exact noanswerResponse_safe.mono fun _ hr => hw.trans hr
  split
  · exact hw
  · exact hw

end

section
variable {v : View}

theorem cacheRdatasets_safe {owner : Name} {validate slot : Bool} :
    ∀ {st : CacheScan} {l : List Rdataset}, Holds Abort.Classifying (fun _ => True) (cacheRdatasets v owner validate slot st l)
  | _, [] => trivial
  | st, r :: rs => by
    simp only [cacheRdatasets]
    refine holds_ite cacheRdatasets_safe (holds_ite (holds_ite cacheRdatasets_safe cacheRdatasets_safe)
      (holds_ite cacheRdatasets_safe ?_))
    split
    · rename_i a ha
      split at ha
      · cases ha
      split at ha
      · cases ha
      split at ha
      · cases ha
      · cases ha; simp [Abort.Classifying]
    · split
      · exact cacheRdatasets_safe
      · exact cacheRdatasets_safe
      · trivial

theorem cacheName_safe {f : Fctx} {n : MsgName} : Holds Abort.Classifying (fun r => f.Narrows r.2.1) (cacheName v f n) :=
  cacheRdatasets_safe.map fun _ _ => by dsimp only; split <;> exact f.narrows_marks _ _

theorem cacheNames_safe :
    ∀ {f : Fctx} {w : List CacheWrite} {l : List MsgName}, Holds Abort.Classifying (fun r => f.Narrows r.2.1) (cacheNames v f w l)
  | f, _, [] => .refl f
  | f, w, n :: rest => by
    simp only [cacheNames]
    split
    · exact cacheNames_safe
    have hc := cacheName_safe (v := v) (f := f) (n := n)
    split
    · rename_i a ha; rw [ha] at hc; exact hc
    · rename_i r f' w' ha
      rw [ha] at hc
      split
      · exact cacheNames_safe.mono fun _ h => hc.trans h
      · exact hc

theorem cacheSections_safe :
    ∀ {f : Fctx} {w : List CacheWrite} {secs : List (List MsgName)},
      Holds Abort.Classifying (fun r => f.Narrows r.2.1) (cacheSections v f w secs)
  | f, _, [] => .refl f
  | f, w, sec :: secs => by
    simp only [cacheSections]
    have hc := cacheNames_safe (v := v) (f := f) (w := w) (l := sec)
    split
    · rename_i a ha; rw [ha] at hc; exact hc
    · rename_i r f' w' ha
      rw [ha] at hc
      split
      · exact cacheSections_safe.mono fun _ h => hc.trans h
      · exact hc

theorem cacheMessage_safe {f : Fctx} {m : Message} : Holds Abort.Classifying (fun r => f.Narrows r.2.1) (cacheMessage v f m) :=
  cacheSections_safe.mono fun _ h => (f.narrows_marks _ _).trans h

theorem ncacheMessage_narrows (f : Fctx) (covers : RdataType) : f.Narrows (ncacheMessage v f covers).2.1 := by
  unfold ncacheMessage
  dsimp only
  split <;> (try split) <;> exact ⟨rfl, rfl, rfl, rfl, rfl, rfl, issubdomain_refl _⟩

theorem ncacheVerdict_narrows {base : Verdict} {f : Fctx} {m : Message} {w : List CacheWrite} :
    f.Narrows (ncacheVerdict v base f m w).2.1 := by
  unfold ncacheVerdict
  split
  · exact ncacheMessage_narrows _ _
  · exact .refl f

theorem cacheVerdict_safe {q : Query} {getNs : Bool} {f : Fctx} {m : Message} :
    Holds Abort.Classifying (fun r => f.Narrows r.2.1) (cacheVerdict v q getNs f m) := by
  unfold cacheVerdict
  dsimp only
  split
  · have hc := cacheMessage_safe (v := v) (f := f) (m := m)
    split
    · rename_i a ha; rw [ha] at hc; exact hc
    · rename_i r f' w ha
      rw [ha] at hc
      split
      · exact hc
      · exact hc.trans ncacheVerdict_narrows
  · exact ncacheVerdict_narrows

theorem classifyVerdict_safe {cfg : Config} {f : Fctx} {q : Query} {m : Message} :
    Holds Abort.Classifying (fun r => f.Narrows r.2.1) (classifyVerdict cfg v f q m) := by
  unfold classifyVerdict
  split
  · rename_i a ha
    unfold sameQuestion at ha
    split at ha
    · cases ha
    split at ha
    · cases ha
    split at ha
    · cases ha
    · cases ha; simp [Abort.Classifying]
  split
  · exact .refl f
  split
  · have hc := answerResponse_safe (f := f) (m := m)
    split
    · rename_i a ha; rw [ha] at hc; exact hc
    · rename_i r f' m' ha
      rw [ha] at hc
      split
      · exact hc
      · exact cacheVerdict_safe.mono fun _ h => hc.trans h
  split
  · have hc : Holds _ _ (noanswerResponse f m none) := noanswerResponse_safe
    split
    · rename_i a ha; rw [ha] at hc; exact hc
    · rename_i r f' m' ha
      rw [ha] at hc
      split
      · exact cacheVerdict_safe.mono fun _ h => hc.trans h
      split
      · exact hc
      · exact cacheVerdict_safe.mono fun _ h => hc.trans h
  · exact .refl f

theorem responseVerdict_safe {cfg : Config} {f : Fctx} {q : Query} {parse : IscResult} {m : Message} :
    Holds Abort.Classifying (fun r => f.Narrows r.2.1) (responseVerdict cfg v f q parse m) := by
  unfold responseVerdict
  split
  · exact .refl f
  split
  · simp [Abort.Classifying]
  split
  · exact .refl f
  · exact classifyVerdict_safe

end

/-! ## Rounds of addresses -/

theorem markFirstUnmarked_length : ∀ {l : List Addrinfo} {a : Addrinfo} {l' : List Addrinfo},
    markFirstUnmarked l = some (a, l') → l'.length = l.length
  | [], _, _, h => by cases h
  | x :: xs, a, l', h => by
    simp only [markFirstUnmarked] at h
    split at h
    · obtain ⟨r, hr, hr'⟩ := Option.map_eq_some'.mp h
      cases hr'
      simp [markFirstUnmarked_length hr]
    · cases h; rfl

theorem scanFinds_length {cursor : FindPtr} {finds : List Find} :
    ∀ {fuel : Nat} {find : FindPtr} {a : Option Addrinfo} {finds' : List Find} {c : FindPtr},
      scanFinds cursor finds fuel find = some (a, finds', c) →
        finds'.length = finds.length ∧ (a.isSome → finds ≠ [])
  | 0, _, _, _, _, h => by cases h
  | fuel + 1, find, a, finds', c, h => by
    simp only [scanFinds] at h
    split at h
    · cases h; exact ⟨rfl, by simp⟩
    split at h
    · cases h
    split at h
    · cases h
    rename_i g hg
    split at h
    · cases h
      exact ⟨by simp, fun _ he => by simp [he] at hg⟩
    · exact scanFinds_length h

theorem fctxNextaddress_lengths {fw fw' : List Addrinfo} {finds finds' : List Find} {c c' : FindPtr}
    {a : Option Addrinfo} (h : fctxNextaddress fw finds c = some (a, fw', finds', c')) :
    fw'.length = fw.length ∧ finds'.length = finds.length ∧ (a.isSome → fw ≠ [] ∨ finds ≠ []) := by
  unfold fctxNextaddress at h
  split at h
  · rename_i hn
    cases h
    exact ⟨markFirstUnmarked_length hn, rfl, fun _ => .inl fun he => by
      simp [he, nextForwarder, markFirstUnmarked] at hn⟩
  · obtain ⟨⟨a₀, finds₀, c₀⟩, hs, hr⟩ := Option.map_eq_some'.mp h
    cases hr
    obtain ⟨hl, ha⟩ := scanFinds_length hs
    exact ⟨rfl, hl, fun h => .inr (ha h)⟩

theorem Fctx.open_of_lengths {f : Fctx} {fw : List Addrinfo} {finds : List Find} {c : FindPtr}
    (hw : fw.length = f.forwaddrs.length) (hf : finds.length = f.finds.length)
    (h : ({ f with forwaddrs := fw, finds := finds, find := c } : Fctx).Open) : f.Open := by
  have ne : ∀ {α : Type} {l l' : List α}, l'.length = l.length → l' ≠ [] → l ≠ [] :=
    fun e h he => h (List.eq_nil_of_length_eq_zero (by simp [e, he]))
  exact h.imp id (Or.imp (ne hf) (ne hw))

theorem findNameservers_fctx {env : Env} {i : Nat} {r : Option IscResult} {f' : Fctx} {o' : List Owed} :
    ∀ {f : Fctx} {o : List Owed} {ns : List Name}, findNameservers env i f o ns = (r, f', o') →
      ∃ finds pending, f' = { f with finds := finds, pending := pending }
  | f, o, [], h => by cases h; exact ⟨_, _, rfl⟩
  | f, o, n :: ns, h => by
    simp only [findNameservers] at h
    split at h
    · cases h; exact ⟨_, _, rfl⟩
    all_goals obtain ⟨finds, pending, rfl⟩ := findNameservers_fctx h; exact ⟨finds, pending, rfl⟩

theorem addressesFound_fctx {f : Fctx} :
    Safe (fun r => ∃ finds, r.2 = { f with finds := finds }) (addressesFound f) := by
  unfold addressesFound
  split
  · exact ⟨f.finds, rfl⟩
  · split
    · exact ⟨_, rfl⟩
    · simp

section
variable {cfg : Config} {env : Env} {s : Sys} {i : Nat}

theorem fctxGetaddresses_calm (h : Sound cfg s) (hc : ∀ f, s.fctxs i = some f → ¬f.Open) :
    Safe (fun r => Calm cfg s r.2) (fctxGetaddresses cfg env s i) := by
  refine safe_withFctx fun f hf => ?_
  have round : ∀ finds pending, f.restarts + 1 ≤ 10 → Calm cfg s (s.setFctx i
      { f with restarts := f.restarts + 1, forwaddrs := forwarderAddrs cfg env, finds := finds,
               pending := pending }) :=
    fun _ _ hle => calm_setFctx h hf rfl (issubdomain_refl _) fun _ => ⟨Nat.le_add_left 1 _, hle⟩
  dsimp only
  split
  · exact calm_setFctx h hf rfl (issubdomain_refl _) fun ho => absurd ho (hc f hf)
  have hle : f.restarts + 1 ≤ 10 := Nat.le_of_not_lt ‹_›
  split
  · simp
  split
  · exact addressesFound_fctx.map fun r ⟨_, hr⟩ => by rw [hr]; exact round _ _ hle
  split
  · simp
  split
  · simp
  split
  · obtain ⟨_, _, rfl⟩ := findNameservers_fctx ‹_›
    exact sameBooks_with.calm_after h (round _ _ hle)
  · obtain ⟨_, _, rfl⟩ := findNameservers_fctx ‹_›
    exact addressesFound_fctx.map fun r ⟨_, hr⟩ => by
      rw [hr]; exact sameBooks_with.calm_after h (round _ _ hle)

theorem fctxNextaddressAt_still (h : Sound cfg s) :
    Safe (fun r => Still cfg s r.2 ∧ (r.1.isSome → ∀ f, r.2.fctxs i = some f → f.Capped))
      (fctxNextaddressAt s i) := by
  refine safe_withFctx fun f hf => ?_
  split
  · simp
  · obtain ⟨hw, hfi, ha⟩ := fctxNextaddress_lengths ‹_›
    refine ⟨still_setFctx h hf rfl rfl rfl rfl (f.open_of_lengths hw hfi), fun hs g hg => ?_⟩
    cases (Function.update_same i _ _).symm.trans hg
    exact h.capped i f hf ((ha hs).elim (Or.inr ∘ .inr) (Or.inr ∘ .inl))

/-! ## Queries -/

theorem Fine.of_queried {t u : Sys} {a : Addrinfo} (hs : Sound cfg s) (hm : Moves s t)
    (ht : t.trace = s.trace ++ [.queried i a]) (k : Calm cfg t u) (ha : ArmedAt u i a) : Fine cfg s u :=
  ⟨k.1, hm.trans hs.toBooks k.2.1, fun j b hj => by
    rw [k.2.2, ht, List.drop_left, List.mem_singleton, Trace.queried.injEq] at hj
    obtain ⟨rfl, rfl⟩ := hj
    exact ha⟩

theorem Fine.of_note {x : Trace} {u : Sys} (hs : Sound cfg s) (hx : ∀ j b, x ≠ .queried j b)
    (k : Fine cfg (s.note x) u) : Fine cfg s u := by
  refine ⟨k.1, (moves_note x).trans hs.toBooks k.2.1, fun j b hj => k.2.2 j b ?_⟩
  obtain ⟨l, hl⟩ := k.2.1.trace
  rw [← hl, Sys.note, List.append_assoc, List.drop_left] at hj
  rw [← hl, List.drop_left]
  exact (List.mem_append.mp hj).resolve_left fun e => hx j b (List.mem_singleton.mp e).symm

theorem fctxQuery_fine {a : Addrinfo} {o : FetchOptions} (h : Sound cfg s)
    (hc : ∀ f, s.fctxs i = some f → f.Capped) : Safe (fun r => Fine cfg s r.2) (fctxQuery env s i a o) := by
  refine safe_withFctx fun f hf => ?_
  set f₁ : Fctx := { f with interval := retryInterval f.restarts a.srtt, timer := .armed true }
  have k₁ : Calm cfg s (s.setFctx i f₁) := calm_setFctx h hf rfl (issubdomain_refl _) fun _ => hc f hf
  have a₁ : ArmedAt ((s.setFctx i f₁).note (.queried i a)) i a := ⟨f₁, Function.update_same i _ _, hc f hf, rfl⟩
  have fin := fun u => Fine.of_queried (u := u) h (k₁.2.1.trans h.toBooks (moves_note (.queried i a))) rfl
  have s₁ := k₁.1.note (.queried i a)
  dsimp only
  split
  · exact (fctxStoptimer_still s₁).map fun t ht => fin t ht.1 (a₁.rounds ht.2)
  · have s₂ := (sameBooks_nextId.still s₁).1
    split <;>
    exact fin _ (sameBooks_with.calm_after s₁ (s₂.trans s₁ (calm_setFctx s₂.1 (Function.update_same i _ _)
      rfl (issubdomain_refl _) fun _ => hc f hf))) ⟨_, Function.update_same i _ _, hc f hf, rfl⟩

theorem queryOrDone_fine {a : Addrinfo} {o : FetchOptions} (h : Sound cfg s)
    (hc : ∀ f, s.fctxs i = some f → f.Capped) : Safe (Fine cfg s) (queryOrDone env s i a o) :=
  (fctxQuery_fine h hc).bind fun ⟨_, _⟩ _ hr =>
    safe_ite hr ((fctxDone_still hr.1).mono fun _ hu => hr.still_trans h hu)

theorem setAddrwait_still {b : Bool} (h : Sound cfg s) : Safe (Still cfg s) (setAddrwait s i b) :=
  safe_withFctx fun _ hf => still_setFctx h hf rfl rfl rfl rfl id

/-! ## A new round -/

theorem fctxCleanupfinds_clears :
    Safe (fun t => ∃ f, t.fctxs i = some f ∧ f.finds = []) (fctxCleanupfinds s i) := by
  refine safe_withFctx fun f _ => ?_
  split
  · exact ⟨_, Function.update_same i _ _, rfl⟩
  · simp

theorem fctxCleanupforwaddrs_closes (hf : ∀ f, s.fctxs i = some f → f.finds = []) :
    Safe (fun t => ∀ f, t.fctxs i = some f → ¬f.Open) (fctxCleanupforwaddrs s i) := by
  refine safe_withFctx fun f hs => ?_
  split
  · intro g hg
    cases (Function.update_same i _ _).symm.trans hg
    simp [Fctx.Open, ‹f.queries = []›, hf f hs]
  · simp

theorem Safe.cleanup_bind {α : Type} {P : α → Prop} {k : Sys → Except Abort α} (h : Sound cfg s)
    (hk : ∀ t, Still cfg s t → (∀ f, t.fctxs i = some f → ¬f.Open) → Safe P (k t)) :
    Safe P (fctxCancelqueries s i >>= fun t => fctxCleanupfinds t i >>= fun t =>
      fctxCleanupforwaddrs t i >>= k) :=
  (fctxCancelqueries_still h).bind fun _ _ k₁ =>
    ((fctxCleanupfinds_still k₁.1.1).and fctxCleanupfinds_clears).bind fun _ _ ⟨k₂, g, hg, hfi⟩ =>
      ((fctxCleanupforwaddrs_still k₂.1.1).and (fctxCleanupforwaddrs_closes fun g' hg' => by
        cases hg.symm.trans hg'; exact hfi)).bind fun t _ ⟨k₃, hc⟩ =>
        hk t (k₁.trans h (k₂.trans k₁.1.1 k₃)) hc

theorem fctxTry_fine (h : Sound cfg s) : Safe (Fine cfg s) (fctxTry cfg env s i) := by
  refine safe_withFctx fun f _ => ?_
  dsimp only
  split
  · exact (show Safe _ (.error .tryAddrwait) by simp)
  have h₀ := h.note (.tried i)
  refine Safe.mono (P := Fine cfg (s.note (.tried i))) ?_ fun u hu =>
    Fine.of_note h (fun _ _ => Trace.noConfusion) hu
  refine (fctxNextaddressAt_still h₀).bind fun ⟨a, t⟩ _ ⟨k₁, ha⟩ => ?_
  dsimp only
  split
  · exact (queryOrDone_fine k₁.1.1 (ha rfl)).mono fun u hu => k₁.1.fine_trans h₀ hu
  refine Safe.cleanup_bind k₁.1.1 fun t₄ k₄ hc₄ => ?_
  refine (fctxGetaddresses_calm k₄.1.1 hc₄).bind fun ⟨r, t₅⟩ _ k₅ => ?_
  have k₀ : Calm cfg (s.note (.tried i)) t₅ := k₁.1.trans h₀ (k₄.1.trans k₁.1.1 k₅)
  dsimp only
  split
  · exact (setAddrwait_still k₅.1).mono fun u hu => (k₀.trans h₀ hu.1).fine
  split
  · exact (fctxDone_still k₅.1).mono fun u hu => (k₀.trans h₀ hu.1).fine
  refine (fctxNextaddressAt_still k₅.1).bind fun ⟨a', t₆⟩ _ ⟨k₆, ha₆⟩ => ?_
  dsimp only
  split
  · exact (queryOrDone_fine k₆.1.1 (ha₆ rfl)).mono fun u hu => (k₀.trans h₀ k₆.1).fine_trans h₀ hu
  · exact (show Safe _ (.error .tryAddress) by simp)

/-! ## Event handlers -/

theorem Safe.fine_after {t : Sys} {x : Except Abort Sys} (hs : Sound cfg s)
    (hx : Sound cfg t → Safe (Fine cfg t) x) (k : Still cfg s t) : Safe (Fine cfg s) x :=
  (hx k.1.1).mono fun _ hu => k.1.fine_trans hs hu

theorem fctxTimeout_fine {life : Bool} (h : Sound cfg s) : Safe (Fine cfg s) (fctxTimeout cfg env s i life) :=
  safe_ite (fctxDone_still h).calm.fine ((setAddrwait_still h).bind fun _ _ k => Safe.fine_after h fctxTry_fine k)

theorem fctxFinddone_fine {more : Bool} (h : Sound cfg s) : Safe (Fine cfg s) (fctxFinddone cfg env s i more) := by
  refine safe_withFctx fun f hf => ?_
  dsimp only
  split
  · simp
  exact safe_ite
    (safe_ite (Safe.fine_after h fctxTry_fine (still_setFctx h hf rfl rfl rfl rfl id))
      (safe_ite (Safe.fine_after h (fun ht => (fctxDone_still ht).calm.fine) (still_setFctx h hf rfl rfl rfl rfl id))
        (Safe.fine (Safe.calm (still_setFctx h hf rfl rfl rfl rfl id)))))
    (safe_ite (Safe.fine_after h (fun ht => (destroyAndEmpty_calm ht).fine) (still_setFctx h hf rfl rfl rfl rfl id))
      (Safe.fine (Safe.calm (still_setFctx h hf rfl rfl rfl rfl id))))

theorem fctxStart_fine (h : Sound cfg s) : Safe (Fine cfg s) (fctxStart cfg env s i) := by
  refine safe_withFctx fun f hf => ?_
  split
  · simp
  split
  · split
    · simp
    · exact (destroyAndEmpty_calm h).fine
  · exact Safe.fine_after h fctxTry_fine (still_setFctx h hf rfl rfl rfl rfl id)

theorem fctxDoshutdown_calm (h : Sound cfg s) : Safe (Calm cfg s) (fctxDoshutdown s i) := by
  refine safe_withFctx fun f hf => ?_
  have k₁ : Still cfg s (s.setFctx i { f with attributes := { f.attributes with shuttingdown := true } }) :=
    still_setFctx h hf rfl rfl rfl rfl id
  have fin : ∀ t, Still cfg s t → Safe (Calm cfg s)
      (if f.references = 0 ∧ f.pending = 0 ∧ f.validating = 0 then destroyAndEmpty t i else pure t) :=
    fun _ k => safe_ite ((destroyAndEmpty_calm k.1.1).mono fun _ hu => k.1.trans h hu) k.1
  dsimp only
  split
  · exact (show Safe _ (.error .doshutdownState) by simp)
  simp only [pure_bind]
  split
  · exact (fctxStopeverything_still k₁.1.1).bind fun _ _ k₂ => (setState_still k₂.1.1).bind fun _ _ k₃ =>
      (fctxSendevents_still k₃.1.1).bind fun t _ k₄ => fin t (k₁.trans h (k₂.trans k₁.1.1 (k₃.trans k₂.1.1 k₄)))
  · exact fin _ k₁

theorem resquerySenddone_still {q : Nat} {result : IscResult} (h : Sound cfg s) :
    Safe (Still cfg s) (resquerySenddone s i q result) :=
  safe_ite (fctxCancelquery_still h) (Still.refl h)

theorem resqueryConnected_still {q : Query} {result : IscResult} (h : Sound cfg s) :
    Safe (Still cfg s) (resqueryConnected env s i q result) := by
  refine safe_withFctx fun f hf => ?_
  dsimp only
  split
  · exact Still.refl h
  split
  · exact fctxCancelquery_still h
  · exact sameBooks_with.after h (still_setFctx h hf rfl rfl rfl rfl fun _ => .inl fun he => by
      simp_all)

theorem resqueryResponse_calm {qid : Nat} {parse : IscResult} {m : Message} (h : Sound cfg s) :
    Safe (Calm cfg s) (resqueryResponse cfg env s i qid parse m) := by
  refine safe_withFctx fun f hf => ?_
  split
  · simp
  · refine (responseVerdict_safe.safe fun _ he => by rcases he with rfl | rfl | rfl | rfl | rfl <;> simp).map
      fun r hr => ?_
    have hc : r.2.1.Open → r.2.1.Capped := fun ho => by
      have := h.capped i f hf (by rwa [Fctx.Open, ← hr.queries, ← hr.finds, ← hr.forwaddrs])
      rwa [Fctx.Capped, hr.restarts]
    exact SameBooks.calm_after (sameBooks_setBucket rfl rfl) h
      (SameBooks.calm_after sameBooks_with h (calm_setFctx h hf hr.bucketnum hr.domain hc))

theorem stopIdletimer_still (h : Sound cfg s) : Safe (Still cfg s) (stopIdletimer s i) :=
  safe_withFctx fun _ hf => still_setFctx h hf rfl rfl rfl rfl id

theorem getNameservers_fine (h : Sound cfg s) : Safe (Fine cfg s) (getNameservers cfg env s i) := by
  refine safe_withFctx fun f hf => ?_
  split
  · exact (fctxDone_still h).calm.fine
  split
  · exact Safe.fine_after h (fun ht => (fctxDone_still ht).calm.fine) (still_setFctx h hf rfl rfl rfl rfl id)
  rename_i fname ns _ hsub
  have k₁ : Calm cfg s (s.setFctx i { f with domain := fname, nameservers := some ns }) :=
    calm_setFctx h hf rfl (of_not_not hsub) fun ho => h.capped i f hf ho
  exact Safe.cleanup_bind k₁.1 fun t k₂ _ => (fctxTry_fine k₂.1.1).mono fun _ hu =>
    (k₁.trans h k₂.1).fine_trans h hu

theorem fctxCancelquery_capped {q : Nat} (h : Sound cfg s) :
    Safe (fun t => ∀ f, t.fctxs i = some f → f.Capped) (fctxCancelquery s i q) := by
  refine safe_withFctx fun f hf => ?_
  split
  · intro g hg
    cases (Function.update_same i _ _).symm.trans hg
    exact h.capped i f hf (.inl fun he => by simp_all)
  · simp

theorem resqueryFinish_fine {r : Resume} (h : Sound cfg s) : Safe (Fine cfg s) (resqueryFinish cfg env s r) := by
  refine ((fctxCancelquery_still h).and (fctxCancelquery_capped h)).bind fun t _ ⟨k₁, hc⟩ => ?_
  have fin : ∀ {x : Except Abort Sys}, Safe (Fine cfg t) x → Safe (Fine cfg s) x :=
    fun hx => hx.mono fun _ hu => k₁.1.fine_trans h hu
  exact safe_ite
    (safe_ite (fin (fctxTry_fine k₁.1.1))
      (safe_ite (fin (fctxDone_still k₁.1.1).calm.fine) (fin (getNameservers_fine k₁.1.1))))
    (safe_ite (fin (queryOrDone_fine k₁.1.1 hc)) (fin (safe_withFctx fun _ _ => safe_ite
      ((fctxCancelqueries_still k₁.1.1).bind fun _ _ k₂ =>
        (stopIdletimer_still k₂.1.1).mono fun _ hv => (k₂.trans k₁.1.1 hv).1.fine)
      (fctxDone_still k₁.1.1).calm.fine)))

theorem dispatch_fine {e : TaskEvent} (h : Sound cfg s) : Safe (Fine cfg s) (dispatch cfg env s e) := by
  cases e with
  | start => exact fctxStart_fine h
  | doshutdown => exact (fctxDoshutdown_calm h).fine
  | timeout => exact fctxTimeout_fine h
  | finddone => exact fctxFinddone_fine h
  | response => exact (resqueryResponse_calm h).fine
  | senddone => exact (resquerySenddone_still h).calm.fine
  | connected => exact (resqueryConnected_still h).calm.fine

end

end DnsResolver
