import DnsResolver.Frame

/-! # Bailiwick

What is cached directly from a response lies under the query domain it came in for. -/

namespace DnsResolver

/-! ## Owned rdatasets -/

/-- Marked for the cache, not external, and so owned by a name under `d`. -/
def OwnedBy (d owner : Name) (r : Rdataset) : Prop :=
  r.attributes.cache = true → r.attributes.external = false → issubdomain owner d

def Owned (d : Name) (n : MsgName) : Prop := ∀ r ∈ n.list, OwnedBy d n.name r

def InBailiwick (d : Name) (sec : List MsgName) : Prop := ∀ n ∈ sec, Owned d n

theorem ownedBy_of_sub {d owner : Name} {r : Rdataset} (h : issubdomain owner d) :
    OwnedBy d owner r := fun _ _ => h

theorem ownedBy_of_external {d owner : Name} {r : Rdataset} (h : r.attributes.external = true) :
    OwnedBy d owner r := fun _ he => by simp [h] at he

theorem ownedBy_cleared {d owner : Name} {r : Rdataset} (h : r.attributes.cache = false) :
    OwnedBy d owner r := fun hc => by simp [h] at hc

theorem inBailiwick_parsed (d : Name) (sec : List MsgName) :
    InBailiwick d (sec.map MsgName.parsed) := by
  simp only [InBailiwick, List.mem_map]
  rintro _ ⟨n, -, rfl⟩ _ hr
  simp only [MsgName.parsed, List.mem_map] at hr
  obtain ⟨r, -, rfl⟩ := hr
  exact ownedBy_cleared rfl

/-! ## Lists rewritten in place -/

section
variable {α : Type} {P : α → Prop} {g : α → α}

theorem forall_mem_updateFirst {p : α → Bool} (hg : ∀ x, P x → P (g x)) :
    ∀ {l l' : List α}, updateFirst p g l = some l' → (∀ x ∈ l, P x) → ∀ x ∈ l', P x
  | [], _, h, _ => by cases h
  | a :: as, l', h, hl => by
    simp only [updateFirst] at h
    split at h
    · cases h
      simp only [List.forall_mem_cons] at hl ⊢
      exact ⟨hg a hl.1, hl.2⟩
    · obtain ⟨l'', h', rfl⟩ := Option.map_eq_some'.mp h
      simp only [List.forall_mem_cons] at hl ⊢
      exact ⟨hl.1, forall_mem_updateFirst hg h' hl.2⟩

theorem forall_mem_modify (hg : ∀ x, P x → P (g x)) :
    ∀ {n : Nat} {l : List α}, (∀ x ∈ l, P x) → ∀ x ∈ l.modify g n, P x
  | _, [], _ => by simp
  | 0, a :: as, hl => by
    simp only [List.modify_zero_cons, List.forall_mem_cons] at hl ⊢
    exact ⟨hg a hl.1, hl.2⟩
  | n + 1, a :: as, hl => by
    simp only [List.modify_succ_cons, List.forall_mem_cons] at hl ⊢
    exact ⟨hl.1, forall_mem_modify hg hl.2⟩

end

/-! ## `check_related` -/

theorem relatedList_owned {d owner : Name} {gluing : Bool} {type : RdataType} {l l' : List Rdataset}
    (h : relatedList (!decide (issubdomain owner d)) gluing type l = some l')
    (hl : ∀ r ∈ l, OwnedBy d owner r) : ∀ r ∈ l', OwnedBy d owner r := by
  by_cases hsub : issubdomain owner d
  · exact fun _ _ => ownedBy_of_sub hsub
  have hmark : ∀ r, OwnedBy d owner r → OwnedBy d owner (markRelated true gluing r) :=
    fun r _ => ownedBy_of_external (by simp [markRelated])
  rw [decide_eq_false hsub, Bool.not_false] at h
  unfold relatedList at h
  split at h
  · split at h
    · cases h
      simp only [List.mem_map]
      rintro _ ⟨r, hr, rfl⟩
      split
      · exact hmark r (hl r hr)
      · exact hl r hr
    · cases h
  · obtain ⟨l₁, h₁, rfl⟩ := Option.map_eq_some'.mp h
    have hl₁ := forall_mem_updateFirst hmark h₁ hl
    cases h₂ : updateFirst (isType .sig type) (markRelated true gluing) l₁ with
    | none => simpa [h₂] using hl₁
    | some l₂ => simpa [h₂] using forall_mem_updateFirst hmark h₂ hl₁

theorem relatedName_owned {d : Name} {gluing : Bool} {type : RdataType} {n : MsgName}
    (h : Owned d n) : Owned d (relatedName d gluing type n) := by
  unfold relatedName
  split
  · exact relatedList_owned ‹_› h
  · exact h

theorem checkRelated_inBailiwick {d : Name} {gluing : Bool} {sec : List MsgName} {addname : Name}
    {type : RdataType} (h : InBailiwick d sec) :
    InBailiwick d (checkRelated d gluing sec addname type) := by
  unfold checkRelated
  cases hu : updateFirst (·.name == addname) (relatedName d gluing type) sec with
  | none => simpa [hu] using h
  | some l => simpa [hu] using forall_mem_updateFirst (fun _ hn => relatedName_owned hn) hu h

theorem markAdditional_inBailiwick {f : Fctx} {r : Rdataset} {sec : List MsgName}
    (h : InBailiwick f.domain sec) : InBailiwick f.domain (markAdditional f r sec) := by
  unfold markAdditional
  induction additionaldata r generalizing sec with
  | nil => exact h
  | cons nt rest ih => exact ih (checkRelated_inBailiwick h)

/-! ## `noanswer_response` -/

def MsgInBailiwick (d : Name) (m : Message) : Prop :=
  InBailiwick d m.answer ∧ InBailiwick d m.authority ∧ InBailiwick d m.additional

theorem msgInBailiwick_parsed (d : Name) (m : Message) : MsgInBailiwick d m.parsed :=
  ⟨inBailiwick_parsed d _, inBailiwick_parsed d _, inBailiwick_parsed d _⟩

theorem noanswerName_owned {d : Name} {aa : Bool} {st st' : NoanswerScan} {n n' : MsgName}
    (h : noanswerName d aa st n = .ok (st', n')) (hn : Owned d n) : Owned d n' := by
  unfold noanswerName at h
  split at h
  · obtain ⟨x, -, hx⟩ := map_eq_ok.mp h
    cases hx
    exact fun _ _ => ownedBy_of_sub ‹_›
  · cases h
    exact hn

theorem uncacheNs_inBailiwick {d : Name} {i : Nat} {m : Message} (h : MsgInBailiwick d m) :
    MsgInBailiwick d (uncacheNs i m) := by
  refine ⟨h.1, ?_, h.2.2⟩
  unfold uncacheNs InBailiwick
  refine forall_mem_modify ?_ h.2.1
  exact fun _ hn => hn

theorem noanswerFinish_inBailiwick {f : Fctx} {m : Message} {oqname : Option Name}
    {st : NoanswerScan} (h : MsgInBailiwick f.domain m) :
    MsgInBailiwick f.domain (noanswerFinish f m oqname st).2.2 := by
  unfold noanswerFinish
  split
  · exact h
  split
  · exact h
  split
  · split
    · exact uncacheNs_inBailiwick h
    · exact ⟨h.1, h.2.1, markAdditional_inBailiwick (f := { f with attributes := _ }) h.2.2⟩
  · exact uncacheNs_inBailiwick h
  · exact h

theorem noanswerNext_inBailiwick {f : Fctx} {m : Message} {oqname : Option Name}
    {st : NoanswerScan} {rest : List MsgName} (h : MsgInBailiwick f.domain m) :
    MsgInBailiwick f.domain (noanswerNext f m oqname st rest).2.2 := by
  unfold noanswerNext
  split
  · exact noanswerFinish_inBailiwick h
  · exact h

theorem noanswerResponse_inBailiwick {f f' : Fctx} {m m' : Message} {oqname : Option Name}
    {r : IscResult} (h : noanswerResponse f m oqname = .ok (r, f', m'))
    (hm : MsgInBailiwick f.domain m) : MsgInBailiwick f.domain m' := by
  unfold noanswerResponse at h
  split at h
  · cases h; exact hm
  split at h
  · obtain rfl : m' = _ := congrArg (·.2.2) (Except.ok.inj h).symm
    exact noanswerFinish_inBailiwick hm
  · rename_i n rest hauth
    dsimp only at h
    split at h
    · obtain ⟨_, -, h⟩ := Stop.exit_eq_ok h
      cases h
      exact hm
    · rename_i st n' hname
      obtain rfl : m' = _ := congrArg (·.2.2) (Except.ok.inj h).symm
      refine noanswerNext_inBailiwick ⟨hm.1, ?_, hm.2.2⟩
      have ha := hm.2.1
      rw [hauth] at ha
      simp only [InBailiwick, List.forall_mem_cons] at ha ⊢
      exact ⟨noanswerName_owned hname ha.1, ha.2⟩

/-! ## `answer_response` -/

theorem takeRdataset_owned {d owner : Name} {aa atQname : Bool} {st st' : AnswerScan}
    {na na' : NameAttrs} {r r' : Rdataset} {fd : Found}
    (h : takeRdataset aa (!decide (issubdomain owner d)) atQname st na r fd = .ok (st', na', r')) :
    OwnedBy d owner r' := by
  by_cases hsub : issubdomain owner d
  · exact ownedBy_of_sub hsub
  rw [decide_eq_false hsub, Bool.not_false] at h
  unfold takeRdataset at h
  dsimp only at h
  split at h
  · cases h
  · simp only [Except.ok.injEq, Prod.mk.injEq] at h
    obtain ⟨-, -, rfl⟩ := h
    apply ownedBy_of_external
    split <;> simp

theorem answerRdatasets_owned {f : Fctx} {aa atQname : Bool} {owner : Name} :
    ∀ {st : AnswerScan} {na : NameAttrs} {addl : List MsgName} {l : List Rdataset} {p : Pass},
      answerRdatasets f aa (!decide (issubdomain owner f.domain)) atQname owner st na addl l = .ok p →
      (∀ r ∈ l, OwnedBy f.domain owner r) → InBailiwick f.domain addl →
      (∀ r ∈ p.list, OwnedBy f.domain owner r) ∧ InBailiwick f.domain p.additional
  | _, _, _, [], _, h, _, ha => by cases h; exact ⟨by simp, ha⟩
  | st, na, addl, r :: rs, p, h, hl, ha => by
    simp only [List.forall_mem_cons] at hl
    simp only [answerRdatasets] at h
    split at h
    · cases h
    · obtain ⟨p', hp', rfl⟩ := map_eq_ok.mp h
      obtain ⟨hl', ha'⟩ := answerRdatasets_owned hp' hl.2 ha
      exact ⟨List.forall_mem_cons.mpr ⟨hl.1, hl'⟩, ha'⟩
    · split at h
      · cases h
      · rename_i st' na' r' ht
        obtain ⟨p', hp', rfl⟩ := map_eq_ok.mp h
        have ha₁ : InBailiwick f.domain (if atQname then markAdditional f r' addl else addl) := by
          split
          · exact markAdditional_inBailiwick ha
          · exact ha
        obtain ⟨hl', ha'⟩ := answerRdatasets_owned hp' hl.2 ha₁
        exact ⟨List.forall_mem_cons.mpr ⟨takeRdataset_owned ht, hl'⟩, ha'⟩

theorem answerNames_inBailiwick {f : Fctx} {aa : Bool} :
    ∀ {st : AnswerScan} {sec addl : List MsgName} {lp : AnswerLoop},
      answerNames f aa st sec addl = .ok lp → InBailiwick f.domain sec →
      InBailiwick f.domain addl → InBailiwick f.domain lp.answer ∧ InBailiwick f.domain lp.additional
  | _, [], _, _, h, _, ha => by cases h; exact ⟨by simp [InBailiwick], ha⟩
  | st, n :: rest, addl, lp, h, hs, ha => by
    simp only [InBailiwick, List.forall_mem_cons] at hs
    simp only [answerNames] at h
    split at h
    · cases h
    · rename_i p hp
      obtain ⟨hl, ha'⟩ := answerRdatasets_owned hp hs.1 ha
      have hn : Owned f.domain { n with attributes := p.attrs, list := p.list } := hl
      split at h
      · cases h
        exact ⟨List.forall_mem_cons.mpr ⟨hn, hs.2⟩, ha'⟩
      · obtain ⟨lp', hlp', rfl⟩ := map_eq_ok.mp h
        obtain ⟨hans, hadd⟩ := answerNames_inBailiwick hlp' hs.2 ha'
        exact ⟨List.forall_mem_cons.mpr ⟨hn, hans⟩, hadd⟩

theorem authorityRdatasets_inBailiwick {f : Fctx} {trust : Trust} :
    ∀ {na : NameAttrs} {addl : List MsgName} {l : List Rdataset}, InBailiwick f.domain addl →
      InBailiwick f.domain (authorityRdatasets f trust na addl l).2.1
  | _, _, [], ha => ha
  | _, _, r :: rs, ha => by
    simp only [authorityRdatasets]
    split
    · exact authorityRdatasets_inBailiwick (markAdditional_inBailiwick ha)
    · exact authorityRdatasets_inBailiwick ha

theorem answerAuthority_inBailiwick {f : Fctx} (trust : Trust) :
    ∀ {sec addl : List MsgName}, InBailiwick f.domain sec → InBailiwick f.domain addl →
      InBailiwick f.domain (answerAuthority f trust sec addl).1 ∧
        InBailiwick f.domain (answerAuthority f trust sec addl).2
  | [], _, _, ha => ⟨by simp [answerAuthority, InBailiwick], ha⟩
  | n :: rest, addl, hs, ha => by
    simp only [InBailiwick, List.forall_mem_cons] at hs
    simp only [answerAuthority]
    split
    · exact ⟨List.forall_mem_cons.mpr ⟨fun _ _ => ownedBy_of_sub ‹_›, hs.2⟩,
        authorityRdatasets_inBailiwick ha⟩
    · obtain ⟨h₁, h₂⟩ := answerAuthority_inBailiwick trust hs.2 ha
      exact ⟨List.forall_mem_cons.mpr ⟨hs.1, h₁⟩, h₂⟩

theorem answerResponse_inBailiwick {f f' : Fctx} {m m' : Message} {r : IscResult}
    (h : answerResponse f m = .ok (r, f', m')) (hm : MsgInBailiwick f.domain m) :
    MsgInBailiwick f.domain m' := by
  unfold answerResponse at h
  split at h
  · obtain ⟨_, -, h⟩ := Stop.exit_eq_ok h
    cases h
    exact hm
  · rename_i lp hlp
    obtain ⟨hans, hadd⟩ := answerNames_inBailiwick hlp hm.1 hm.2.2
    have hm₁ : MsgInBailiwick f.domain { m with answer := lp.answer, additional := lp.additional } :=
      ⟨hans, hm.2.1, hadd⟩
    dsimp only at h
    split at h
    · cases h; exact hm₁
    split at h
    · cases h; exact hm₁
    split at h
    · exact noanswerResponse_inBailiwick
        (f := { f with attributes := { f.attributes with wantcache := true } }) h hm₁
    split at h
    · cases h; exact hm₁
    · cases h
      obtain ⟨h₁, h₂⟩ := answerAuthority_inBailiwick
        (f := { f with attributes := { f.attributes with wantcache := true } })
        (if m.aa ∧ !lp.scan.chaining then Trust.authauthority else .additional) hm.2.1 hadd
      exact ⟨hans, h₁, h₂⟩

/-! ## What is added to the cache -/

def WriteUnder (d : Name) : CacheWrite → Prop
  | .positive owner _ => issubdomain owner d
  | .negative _ _ => True

theorem writeUnder_append {d : Name} {w w' : List CacheWrite} (h : ∀ c ∈ w, WriteUnder d c)
    (h' : ∀ c ∈ w', WriteUnder d c) : ∀ c ∈ w ++ w', WriteUnder d c := by
  simp only [List.mem_append]
  rintro c (hc | hc)
  exacts [h c hc, h' c hc]

theorem cacheRdatasets_under {v : View} {d owner : Name} {validate slot : Bool} :
    ∀ {st st' : CacheScan} {l : List Rdataset}, cacheRdatasets v owner validate slot st l = .ok st' →
      (∀ r ∈ l, OwnedBy d owner r) → (∀ c ∈ st.writes, WriteUnder d c) →
      ∀ c ∈ st'.writes, WriteUnder d c
  | _, _, [], h, _, hw => by cases h; exact hw
  | st, st', r :: rs, h, hl, hw => by
    simp only [List.forall_mem_cons] at hl
    simp only [cacheRdatasets] at h
    split at h
    · exact cacheRdatasets_under h hl.2 hw
    split at h
    · split at h <;> exact cacheRdatasets_under h hl.2 hw
    split at h
    · exact cacheRdatasets_under h hl.2 hw
    rename_i hcache _ hext
    -- the rdataset is added at its owner
    have hw' : ∀ c ∈ st.writes ++ [CacheWrite.positive owner r], WriteUnder d c := writeUnder_append hw (by
      simpa [WriteUnder] using hl.1 (by simpa using hcache) (by simpa using hext))
    split at h
    · cases h
    · split at h
      · exact cacheRdatasets_under h hl.2 hw'
      · exact cacheRdatasets_under h hl.2 hw'
      · cases h; exact hw'

theorem cacheName_under {v : View} {d : Name} {f f' : Fctx} {n : MsgName} {r : IscResult}
    {w : List CacheWrite} (h : cacheName v f n = .ok (r, f', w)) (hn : Owned d n) :
    ∀ c ∈ w, WriteUnder d c := by
  unfold cacheName at h
  obtain ⟨st, hst, h⟩ := map_eq_ok.mp h
  have hw := cacheRdatasets_under hst hn (by simp)
  dsimp only at h
  split at h <;> (cases h; exact hw)

theorem cacheNames_under {v : View} {d : Name} :
    ∀ {f f' : Fctx} {w w' : List CacheWrite} {sec : List MsgName} {r : IscResult},
      cacheNames v f w sec = .ok (r, f', w') → InBailiwick d sec → (∀ c ∈ w, WriteUnder d c) →
      ∀ c ∈ w', WriteUnder d c
  | _, _, _, _, [], _, h, _, hw => by cases h; exact hw
  | f, f', w, w', n :: rest, r, h, hs, hw => by
    simp only [InBailiwick, List.forall_mem_cons] at hs
    simp only [cacheNames] at h
    split at h
    · exact cacheNames_under h hs.2 hw
    split at h
    · cases h
    · rename_i hname
      have hw₁ := writeUnder_append hw (cacheName_under hname hs.1)
      split at h
      · exact cacheNames_under h hs.2 hw₁
      · cases h; exact hw₁

theorem cacheSections_under {v : View} {d : Name} :
    ∀ {f f' : Fctx} {w w' : List CacheWrite} {secs : List (List MsgName)} {r : IscResult},
      cacheSections v f w secs = .ok (r, f', w') → (∀ sec ∈ secs, InBailiwick d sec) →
      (∀ c ∈ w, WriteUnder d c) → ∀ c ∈ w', WriteUnder d c
  | _, _, _, _, [], _, h, _, hw => by cases h; exact hw
  | f, f', w, w', sec :: secs, r, h, hs, hw => by
    simp only [List.forall_mem_cons] at hs
    simp only [cacheSections] at h
    split at h
    · cases h
    · rename_i hnames
      have hw₁ := cacheNames_under hnames hs.1 hw
      split at h
      · exact cacheSections_under h hs.2 hw₁
      · cases h; exact hw₁

theorem cacheMessage_under {v : View} {d : Name} {f f' : Fctx} {m : Message} {r : IscResult}
    {w : List CacheWrite} (h : cacheMessage v f m = .ok (r, f', w)) (hm : MsgInBailiwick d m) :
    ∀ c ∈ w, WriteUnder d c :=
  cacheSections_under h (by simpa using hm) (by simp)

theorem ncacheMessage_writes (v : View) (f : Fctx) (covers : RdataType) :
    (ncacheMessage v f covers).2.2 = [CacheWrite.negative f.name covers] := by
  unfold ncacheMessage
  dsimp only
  split <;> rfl

theorem ncacheVerdict_under {v : View} {base : Verdict} {f : Fctx} {m : Message} {d : Name}
    {w : List CacheWrite} (hw : ∀ c ∈ w, WriteUnder d c) :
    ∀ c ∈ (ncacheVerdict v base f m w).2.2, WriteUnder d c := by
  unfold ncacheVerdict
  split
  · exact writeUnder_append hw (by simp [ncacheMessage_writes, WriteUnder])
  · exact hw

theorem cacheVerdict_under {v : View} {q : Query} {getNs : Bool} {d : Name} {f f' : Fctx}
    {m : Message} {vd : Verdict} {w : List CacheWrite} (h : cacheVerdict v q getNs f m = .ok (vd, f', w))
    (hm : MsgInBailiwick d m) : ∀ c ∈ w, WriteUnder d c := by
  unfold cacheVerdict at h
  dsimp only at h
  split at h
  · split at h
    · cases h
    · rename_i r₁ f₁ w₁ h₁
      have hw₁ := cacheMessage_under h₁ hm
      split at h
      · cases h; exact hw₁
      · obtain rfl : w = _ := congrArg (·.2.2) (Except.ok.inj h).symm
        exact ncacheVerdict_under hw₁
  · obtain rfl : w = _ := congrArg (·.2.2) (Except.ok.inj h).symm
    exact ncacheVerdict_under (by simp)

theorem classifyVerdict_under {cfg : Config} {v : View} {f f' : Fctx} {q : Query} {m : Message}
    {vd : Verdict} {w : List CacheWrite} (h : classifyVerdict cfg v f q m = .ok (vd, f', w))
    (hm : MsgInBailiwick f.domain m) : ∀ c ∈ w, WriteUnder f.domain c := by
  rcases classifyVerdict_cases h with ⟨-, rfl⟩ | ⟨_, _, _, _, h₁, ⟨-, rfl⟩ | hc⟩
  · simp
  · simp
  · exact cacheVerdict_under hc (h₁.elim (answerResponse_inBailiwick · hm) (noanswerResponse_inBailiwick · hm))

theorem responseVerdict_under {cfg : Config} {v : View} {f f' : Fctx} {q : Query} {parse : IscResult}
    {m : Message} {vd : Verdict} {w : List CacheWrite}
    (h : responseVerdict cfg v f q parse m = .ok (vd, f', w)) (hm : MsgInBailiwick f.domain m) :
    ∀ c ∈ w, WriteUnder f.domain c := by
  unfold responseVerdict at h
  split at h
  · cases h; simp
  split at h
  · cases h
  split at h
  · cases h; simp
  · exact classifyVerdict_under h hm

/-- Every rdataset cached directly lies under the query domain of the response. -/
theorem cached_owner_in_domain {cfg : Config} {env : Env} {s s' : Sys} {i qid : Nat}
    {parse : IscResult} {m : Message} {f : Fctx} (hf : s.fctxs i = some f)
    (h : resqueryResponse cfg env s i qid parse m = .ok s') {owner : Name} {r : Rdataset}
    (hw : CacheWrite.positive owner r ∈ s'.cacheWrites) :
    CacheWrite.positive owner r ∈ s.cacheWrites ∨ issubdomain owner f.domain := by
  unfold resqueryResponse at h
  rw [withFctx_of_some hf] at h
  split at h
  · cases h
  · obtain ⟨⟨vd, f', w⟩, hv, rfl⟩ := map_eq_ok.mp h
    simp only [Sys.setBucket, Sys.setFctx, List.mem_append] at hw
    rcases hw with hw | hw
    · exact .inl hw
    · exact .inr (responseVerdict_under hv (msgInBailiwick_parsed _ _) _ hw)

def query2 : Query := { id := 2, addrinfo := { sockaddr := 1, srtt := 0 }, options := {} }

def waitingFctx : Fctx :=
  { name := aExampleCom, type := .a, options := {}, bucketnum := 0, state := .active,
    references := 1, events := [{ fetch := 0, task := 7 }], domain := com,
    nameservers := some [["ns", "com"]], timer := .armed true,
    queries := [query2] }

def waitingSys : Sys :=
  { activebuckets := 1, fctxs := fun i => if i = 1 then some waitingFctx else none }

def referralGlue : Message :=
  { counts := { question := 1, authority := 1, additional := 2 },
    question := [{ name := aExampleCom, list := [{ type := .a }] }],
    authority := [{ name := ["example", "com"],
                    list := [{ type := .ns, rdata := [["ns", "example", "com"], ["ns", "other", "net"]] }] }],
    additional := [{ name := ["ns", "example", "com"], list := [{ type := .a }] },
                   { name := ["ns", "other", "net"], list := [{ type := .a }] }] }

theorem referral_glue_under_com :
    ∃ s', resqueryResponse oneBucket answering waitingSys 1 2 .success referralGlue = .ok s' ∧
      (CacheWrite.positive ["ns", "example", "com"]
          { type := .a, attributes := { cache := true }, trust := .glue } ∈ waitingSys.cacheWrites ∨
        issubdomain ["ns", "example", "com"] com) :=
  ⟨_, rfl, @cached_owner_in_domain oneBucket answering waitingSys _ 1 2 .success referralGlue
    waitingFctx rfl rfl _ _ (by decide)⟩

/-! ## Where a referral leads -/

theorem noanswerRdatasets_nsName {aa : Bool} {i : Nat} :
    ∀ {st st' : NoanswerScan} {na na' : NameAttrs} {l l' : List Rdataset},
      noanswerRdatasets aa i st na l = .ok (st', na', l') → st'.nsName = st.nsName ∨ st'.nsName = some i
  | _, _, _, _, [], _, h => by cases h; exact .inl rfl
  | st, st', na, na', r :: rs, l', h => by
    simp only [noanswerRdatasets] at h
    split at h
    · split at h
      · cases h
      · obtain ⟨x, hx, hx'⟩ := map_eq_ok.mp h
        cases hx'
        exact .inr ((noanswerRdatasets_nsName hx).elim id id)
    split at h
    · split at h
      · cases h
      · obtain ⟨x, hx, hx'⟩ := map_eq_ok.mp h
        cases hx'
        exact (noanswerRdatasets_nsName hx :)
    · obtain ⟨x, hx, hx'⟩ := map_eq_ok.mp h
      cases hx'
      exact noanswerRdatasets_nsName hx

theorem noanswerName_nsName {d : Name} {aa : Bool} {st st' : NoanswerScan} {n n' : MsgName}
    (h : noanswerName d aa st n = .ok (st', n')) (hst : st.nsName = none) :
    n'.name = n.name ∧ (st'.nsName = none ∨ st'.nsName = some 0 ∧ issubdomain n.name d) := by
  unfold noanswerName at h
  split at h
  · obtain ⟨x, hx, hx'⟩ := map_eq_ok.mp h
    cases hx'
    exact ⟨rfl, (noanswerRdatasets_nsName hx).imp (·.trans hst) (⟨·, ‹_›⟩)⟩
  · cases h
    exact ⟨rfl, .inl hst⟩

def nameOutsideDomain (s : Sys) (i : Nat) : Bool :=
  ((s.fctxs i).map fun f => !decide (issubdomain f.name f.domain)).getD false

/-- A referral to `b.example.com` for `a.example.com` moves the domain beside the question. -/
theorem referral_beside_question :
    (∃ s, Reachable oneBucket s ∧ nameOutsideDomain s 1) ∧
      ∃ s a, Reachable oneBucket s ∧ enabled s a ∧ step oneBucket s a = .error .answerExternal :=
  let referral := reply .noerror []
    [{ name := ["b", "example", "com"], list := [{ type := .ns, rdata := [["ns", "b", "example", "com"]] }] }]
  ⟨reachable_of_run [fetchA 7, .run 0 answering, .respond 1 2 .success referral,
      .run 0 answering, .run 0 answering] (by decide),
    run_error_reachable [fetchA 7, .run 0 answering, .respond 1 2 .success referral,
      .run 0 answering, .run 0 answering, .respond 1 3 .success (reply .noerror [addressOfA] []),
      .run 0 answering] .init (by rfl)⟩

def sigDnameAt (n : Name) : MsgName := { name := n, list := [{ type := .sig, covers := .dname }] }

/-! ## A SIG(DNAME) outside the query domain -/

/-- A SIG(DNAME) outside the query domain fails the `INSIST(!external)` of `answer_response`. -/
theorem sig_dname_outside_domain_aborts :
    issubdomain waitingFctx.name waitingFctx.domain ∧
      answerResponse waitingFctx (reply .noerror [sigDnameAt ["z", "org"]] []) = .error .answerExternal ∧
      ∃ s a, Reachable oneBucket s ∧ enabled s a ∧ step oneBucket s a = .error .answerExternal :=
  ⟨by decide, rfl, run_error_reachable [fetchA 7, .run 0 answering,
    .respond 1 2 .success (reply .noerror [sigDnameAt ["z", "org"]] []), .run 0 answering] .init (by rfl)⟩

/-! ## Two answers -/

def answerMarks (m : Message) : Nat := (m.answer.flatMap (·.list)).countP (·.attributes.answer)

def answeredNames (m : Message) : Nat := m.answer.countP (·.attributes.answer)

def aThenCname : MsgName :=
  { name := aExampleCom, list := [{ type := .a }, { type := .cname, rdata := [["t", "example", "com"]] }] }

def toldAlias (s : Sys) : Bool :=
  s.delivered.any fun
    | .fetchevents _ (e :: _) => e.result == .cname && e.rdataset == some (.positive .cname)
    | _ => false

/-- An A rdataset before a CNAME are both marked `ANSWER`; the waiter is told `DNS_R_CNAME`. -/
theorem two_answers_marked :
    (∃ f' m', answerResponse waitingFctx (reply .noerror [aThenCname] []) = .ok (.success, f', m') ∧
        answerMarks m' = 2) ∧
      (∃ f' m', answerResponse waitingFctx
          (reply .noerror [sigDnameAt ["b", "example", "com"], addressOfA] []) = .ok (.success, f', m') ∧
        answeredNames m' = 2) ∧
      ∃ s, Reachable oneBucket s ∧ toldAlias s :=
  ⟨⟨_, _, rfl, rfl⟩, ⟨_, _, rfl, rfl⟩, reachable_of_run [fetchA 7, .run 0 answering,
    .respond 1 2 .success (reply .noerror [aThenCname] []), .run 0 answering, .run 0 answering]
    (by decide)⟩

/-! ## Caching off the chain -/

def cachedWithTrust (s : Sys) (n : Name) (t : Trust) : Bool :=
  s.cacheWrites.any fun
    | .positive o r => o == n && r.trust == t
    | .negative _ _ => false

def sigDnameTaken : MsgName :=
  { name := ["b", "example", "com"], attributes := { cache := true, answer := true },
    list := [{ type := .sig, covers := .dname, attributes := { cache := true, answersig := true },
               trust := .answer }] }

/-- A SIG(DNAME) beside the resolution chain is cached with trust `answer`. -/
theorem sig_dname_beside_chain_cached :
    ¬issubdomain aExampleCom ["b", "example", "com"] ∧
      (∃ f' m', answerResponse waitingFctx
          (reply .noerror [sigDnameAt ["b", "example", "com"], addressOfA] []) = .ok (.success, f', m') ∧
        m'.answer.head? = some sigDnameTaken) ∧
      ∃ s, Reachable oneBucket s ∧ cachedWithTrust s ["b", "example", "com"] .answer :=
  ⟨by decide, ⟨_, _, rfl, rfl⟩, reachable_of_run [fetchA 7, .run 0 answering,
    .respond 1 2 .success (reply .noerror [sigDnameAt ["b", "example", "com"], addressOfA] []),
    .run 0 answering, .run 0 answering] (by decide)⟩

/-! ## The authority section as a whole -/

def authorityOwners (f : Fctx) (m : Message) (p : RdataType → Bool) : List Name :=
  (m.authority.filter fun n => decide (issubdomain n.name f.domain) && n.list.any (p ·.rtype)).map (·.name)

/-- A reading of the whole authority section, to compare with `noanswer_response`. -/
def authorityClass (f : Fctx) (m : Message) (oqname : Option Name) : IscResult × Name × Bool :=
  let ns := authorityOwners f m (· == .ns)
  let soa := authorityOwners f m fun t => t == .soa || t == .nxt
  if (ns ++ soa).any fun a => (ns ++ soa).any (· != a) then (.formerr, f.domain, false)
  else if m.rcode = .nxdomain ∨ (m.counts.answer = 0 ∧ m.counts.authority = 0) ∨ soa ≠ [] then
    (.success, f.domain, true)
  else match ns.head?, oqname with
    | some n, none => (.delegation, n, false)
    | _, some _ => (.success, f.domain, false)
    | none, none => (.formerr, f.domain, false)

def noanswerClass (r : IscResult) (f : Fctx) : IscResult × Name × Bool :=
  (r, f.domain, f.attributes.wantncache)

def soaThenOther : Message :=
  reply .noerror [] [{ name := ["example", "com"], list := [{ type := .soa }] },
    { name := ["b", "example", "com"], list := [{ type := .a }] }]

def sigSoaOnly : Message :=
  reply .noerror [] [{ name := ["example", "com"], list := [{ type := .sig, covers := .soa }] }]

/-- `noanswer_response` stops after one owner name, and reads a SIG as itself. -/
theorem noanswer_reads_first_owner_as_typed :
    (∃ f' m', noanswerResponse waitingFctx soaThenOther none = .ok (.success, f', m') ∧
        noanswerClass .success f' = (.success, com, false)) ∧
      authorityClass waitingFctx soaThenOther none = (.success, com, true) ∧
      (∃ f' m', noanswerResponse waitingFctx sigSoaOnly none = .ok (.formerr, f', m') ∧
        noanswerClass .formerr f' = (.formerr, com, false)) ∧
      authorityClass waitingFctx sigSoaOnly none = (.success, com, true) :=
  ⟨⟨_, _, rfl, rfl⟩, by decide, ⟨_, _, rfl, rfl⟩, by decide⟩

end DnsResolver
