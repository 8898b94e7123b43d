import DnsResolver.Address

/-! # The two sorts

`sort_adbfind` and `sort_finds` are one stable selection sort. -/

namespace DnsResolver

/-- `sorted` is `l` sorted by `key`, stably. -/
structure StableSorted {α : Type} (key : α → Nat) (l sorted : List α) : Prop where
  perm : sorted.Perm l
  ordered : sorted.Pairwise fun a b => key a ≤ key b
  stable : ∀ v, sorted.filter (fun a => key a = v) = l.filter (fun a => key a = v)

section
variable {α : Type} (key : α → Nat)

/-- `m` at `k` is below every element before it and at most every element after it. -/
def FirstLeast (l : List α) (k : Nat) (m : α) : Prop :=
  ∃ pre post, l = pre ++ m :: post ∧ k = pre.length ∧ (∀ x ∈ pre, key m < key x) ∧
    ∀ x ∈ post, key m ≤ key x

/-! ## The inner loop -/

theorem FirstLeast.snoc {l : List α} {best : Nat × α} (c : α) (h : FirstLeast key l best.1 best.2) :
    FirstLeast key (l ++ [c]) (if key c < key best.2 then (l.length, c) else best).1
      (if key c < key best.2 then (l.length, c) else best).2 := by
  obtain ⟨pre, post, rfl, hk, hpre, hpost⟩ := h
  split
  · rename_i hc
    refine ⟨pre ++ best.2 :: post, [], by simp, rfl, fun x hx => ?_, by simp⟩
    rcases List.mem_append.mp hx with hx | hx
    · exact hc.trans (hpre x hx)
    rcases List.mem_cons.mp hx with rfl | hx
    · exact hc
    · exact Nat.lt_of_lt_of_le hc (hpost x hx)
  · refine ⟨pre, post ++ [c], by simp, hk, hpre, fun x hx => ?_⟩
    rcases List.mem_append.mp hx with hx | hx
    · exact hpost x hx
    · rw [List.mem_singleton.mp hx]; omega

theorem scanBest_firstLeast : ∀ (cs : List α) {l : List α} {best : Nat × α},
    FirstLeast key l best.1 best.2 →
      FirstLeast key (l ++ cs) (scanBest key best l.length cs).1 (scanBest key best l.length cs).2
  | [], _, _, h => by simpa [scanBest] using h
  | c :: cs, l, _, h => by
    simpa [scanBest] using scanBest_firstLeast cs (FirstLeast.snoc key c h)

theorem firstLeast_scanBest (b : α) (bs : List α) :
    FirstLeast key (b :: bs) (scanBest key (0, b) 1 bs).1 (scanBest key (0, b) 1 bs).2 :=
  scanBest_firstLeast key bs (l := [b]) ⟨[], [], rfl, rfl, by simp, by simp⟩

/-! ## The unlink -/

section
variable {key} {l : List α} {k : Nat} {m : α}

theorem eraseIdx_middle (pre post : List α) (m : α) : (pre ++ m :: post).eraseIdx pre.length = pre ++ post := by
  rw [List.eraseIdx_append_of_length_le le_rfl, Nat.sub_self, List.eraseIdx_cons_zero]

theorem FirstLeast.length_eraseIdx (h : FirstLeast key l k m) : (l.eraseIdx k).length + 1 = l.length := by
  obtain ⟨pre, post, rfl, rfl, -, -⟩ := h
  simp [eraseIdx_middle, Nat.add_assoc]

theorem FirstLeast.perm (h : FirstLeast key l k m) : (m :: l.eraseIdx k).Perm l := by
  obtain ⟨pre, post, rfl, rfl, -, -⟩ := h
  rw [eraseIdx_middle]
  exact List.perm_middle.symm

theorem FirstLeast.le (h : FirstLeast key l k m) : ∀ x ∈ l.eraseIdx k, key m ≤ key x := by
  obtain ⟨pre, post, rfl, rfl, hpre, hpost⟩ := h
  rw [eraseIdx_middle]
  intro x hx
  rcases List.mem_append.mp hx with hx | hx
  · exact (hpre x hx).le
  · exact hpost x hx

theorem FirstLeast.filter (h : FirstLeast key l k m) (v : Nat) :
    (m :: l.eraseIdx k).filter (fun a => key a = v) = l.filter (fun a => key a = v) := by
  obtain ⟨pre, post, rfl, rfl, hpre, -⟩ := h
  rw [eraseIdx_middle, List.filter_append, List.filter_cons, List.filter_cons, List.filter_append]
  by_cases hm : key m = v
  · have hnil : pre.filter (fun a => key a = v) = [] :=
      List.filter_eq_nil_iff.mpr fun x hx => by simpa [← hm] using (hpre x hx).ne'
    simp [hm, hnil]
  · simp [hm]

end

/-! ## The outer loop -/

theorem selectionSort_stableSorted : ∀ (n : Nat) (l : List α), l.length = n →
    StableSorted key l (selectionSort key n l)
  | 0, [], _ => ⟨.nil, .nil, fun _ => rfl⟩
  | n + 1, b :: bs, hl => by
    have h := firstLeast_scanBest key b bs
    have hn : ((b :: bs).eraseIdx (scanBest key (0, b) 1 bs).1).length = n := by
      have := h.length_eraseIdx
      simp only [List.length_cons] at hl this
      omega
    have ih := selectionSort_stableSorted n _ hn
    refine ⟨(ih.perm.cons _).trans h.perm, List.pairwise_cons.mpr ⟨fun x hx => h.le x (ih.perm.subset hx),
      ih.ordered⟩, fun v => ?_⟩
    rw [← h.filter v, selectionSort, List.filter_cons, List.filter_cons, ih.stable]

theorem stableSorted_selectionSort (l : List α) : StableSorted key l (selectionSort key l.length l) :=
  selectionSort_stableSorted key _ l rfl

end

/-! ## `sort_adbfind` and `sort_finds` -/

theorem sortAdbfind_stableSorted (find : Find) :
    StableSorted Addrinfo.srtt find.list (sortAdbfind find).list :=
  stableSorted_selectionSort _ _

theorem sortFinds_stableSorted {finds : List Find} (h : ∀ f ∈ finds, f.list ≠ []) :
    ∃ sorted, sortFinds finds = some sorted ∧ StableSorted Find.headSrtt finds sorted :=
  ⟨_, if_pos (List.all_eq_true.mpr fun f hf => decide_eq_true (h f hf)), stableSorted_selectionSort _ _⟩

/-- `sort_adbfind` and `sort_finds` sort stably by srtt. -/
theorem sorts_are_stable :
    (∀ find : Find, StableSorted Addrinfo.srtt find.list (sortAdbfind find).list) ∧
    (∀ finds : List Find, (∀ f ∈ finds, f.list ≠ []) →
      ∃ sorted, sortFinds finds = some sorted ∧ StableSorted Find.headSrtt finds sorted) :=
  ⟨sortAdbfind_stableSorted, fun _ h => sortFinds_stableSorted h⟩

theorem equal_srtt_keep_their_order :
    (sortAdbfind ⟨[⟨1, 5, {}⟩, ⟨2, 5, {}⟩, ⟨3, 3, {}⟩]⟩).list = [⟨3, 3, {}⟩, ⟨1, 5, {}⟩, ⟨2, 5, {}⟩] ∧
    ∃ sorted, sortFinds [⟨[⟨1, 5, {}⟩]⟩, ⟨[⟨3, 3, {}⟩]⟩] = some sorted ∧
      StableSorted Find.headSrtt [⟨[⟨1, 5, {}⟩]⟩, ⟨[⟨3, 3, {}⟩]⟩] sorted :=
  ⟨by decide, sorts_are_stable.2 _ (by decide)⟩

end DnsResolver
