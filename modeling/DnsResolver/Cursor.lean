import DnsResolver.Tasks
import DnsResolver.Sorting

/-! # The cursor of `fctx_nextaddress`

From a cursor that is `NULL` or one of the finds, the search loop stops. -/

namespace DnsResolver

/-- Every find has an address, and the cursor is `NULL` or one of the finds. -/
structure Scannable (finds : List Find) (find : FindPtr) : Prop where
  addresses : ∀ x ∈ finds, x.list ≠ []
  cursor : ∀ k, find = some k → k < finds.length

theorem scannable_nil : Scannable [] none := ⟨by simp, by simp⟩

/-! ## The search loop stops -/

/-- How many finds the search loop of `fctx_nextaddress` visits before it stops. -/
def stepsLeft (n : Nat) : FindPtr → Nat → Nat
  | none, k => n - k
  | some c, k => if k ≤ c then c - k else c + n - k

section
variable {cursor : FindPtr} {finds : List Find}

theorem scanFinds_at_cursor (fuel : Nat) :
    scanFinds cursor finds (fuel + 1) cursor = some (none, finds, cursor) := by
  simp [scanFinds]

theorem next_nearer (hc : ∀ c, cursor = some c → c < finds.length) {k : Nat} (hk : k < finds.length)
    (hne : some k ≠ cursor) :
    (if listNext finds k ≠ cursor ∧ listNext finds k = none then listHead finds else listNext finds k) =
        cursor ∨
      ∃ k', (if listNext finds k ≠ cursor ∧ listNext finds k = none then listHead finds
          else listNext finds k) = some k' ∧
        k' < finds.length ∧ stepsLeft finds.length cursor k' < stepsLeft finds.length cursor k := by
  have hnil : finds ≠ [] := List.ne_nil_of_length_pos (by omega)
  by_cases hn : k + 1 < finds.length
  · refine .inr ⟨k + 1, by simp [listNext, hn], hn, ?_⟩
    cases cursor with
    | none => simp only [stepsLeft]; omega
    | some c =>
      have : k ≠ c := fun e => hne (e ▸ rfl)
      simp only [stepsLeft]; split_ifs <;> omega
  · cases cursor with
    | none => exact .inl (by simp [listNext, hn])
    | some c =>
      have := hc c rfl
      have : k ≠ c := fun e => hne (e ▸ rfl)
      refine .inr ⟨0, by simp [listNext, listHead, hn, hnil], by omega, ?_⟩
      simp only [stepsLeft]; split_ifs <;> omega

theorem stepsLeft_pos {k : Nat} (hk : k < finds.length) (hne : some k ≠ cursor) :
    0 < stepsLeft finds.length cursor k := by
  cases cursor with
  | none => simp only [stepsLeft]; omega
  | some c =>
    have : k ≠ c := fun e => hne (e ▸ rfl)
    simp only [stepsLeft]; split_ifs <;> omega

theorem scanFinds_isSome (hc : ∀ c, cursor = some c → c < finds.length) :
    ∀ (fuel k : Nat), k < finds.length → stepsLeft finds.length cursor k < fuel →
      (scanFinds cursor finds fuel (some k)).isSome
  | 0, _, _, hs => absurd hs (Nat.not_lt_zero _)
  | fuel + 1, k, hk, hs => by
    simp only [scanFinds]
    split
    · rfl
    rename_i hne
    have hpos := stepsLeft_pos hk hne
    rw [List.getElem?_eq_getElem hk]
    dsimp only
    split
    · rfl
    rcases next_nearer hc hk hne with hp | ⟨k', hp, hk', hlt⟩
    · obtain ⟨fuel', rfl⟩ : ∃ fuel', fuel = fuel' + 1 := ⟨fuel - 1, by omega⟩
      rw [hp, scanFinds_at_cursor]; rfl
    · rw [hp]; exact scanFinds_isSome hc fuel k' hk' (by omega)

theorem scanFinds_scannable (h : Scannable finds cursor) :
    ∀ {fuel : Nat} {find : FindPtr} {a : Option Addrinfo} {finds' : List Find} {c : FindPtr},
      scanFinds cursor finds fuel find = some (a, finds', c) → Scannable finds' c
  | 0, _, _, _, _, hs => by cases hs
  | fuel + 1, find, a, finds', c, hs => by
    simp only [scanFinds] at hs
    split at hs
    · cases hs; rename_i he; rwa [he]
    split at hs
    · cases hs
    rename_i i
    split at hs
    · cases hs
    rename_i g hg
    split at hs
    · rename_i list hm
      cases hs
      have hi := (List.getElem?_eq_some_iff.mp hg).1
      refine ⟨fun x hx => ?_, fun k hk => by cases hk; simpa using hi⟩
      rcases List.mem_or_eq_of_mem_set hx with hx | rfl
      · exact h.addresses x hx
      · exact List.ne_nil_of_length_pos ((markFirstUnmarked_length hm).symm ▸
          List.length_pos.mpr (h.addresses g (List.getElem?_mem hg)))
    · exact scanFinds_scannable h hs

end

section
variable {fw fw' : List Addrinfo} {finds finds' : List Find} {c c' : FindPtr} {a : Option Addrinfo}

theorem fctxNextaddress_isSome (fw : List Addrinfo) (h : ∀ k, c = some k → k < finds.length) :
    (fctxNextaddress fw finds c).isSome := by
  unfold fctxNextaddress
  split
  · rfl
  rw [Option.isSome_map']
  cases c with
  | none =>
    by_cases he : finds = []
    · simp only [listHead, he, if_true]
      exact congrArg Option.isSome (scanFinds_at_cursor 0)
    · simp only [listHead, he, if_false]
      exact scanFinds_isSome h _ 0 (List.length_pos.mpr he) (by simp [stepsLeft])
  | some k =>
    have hk := h k rfl
    by_cases hn : k + 1 < finds.length
    · simp only [listNext, hn, if_true]
      exact scanFinds_isSome h _ _ hn (by simp only [stepsLeft]; split_ifs <;> omega)
    · have hnil : finds ≠ [] := List.ne_nil_of_length_pos (by omega)
      simp only [listNext, hn, if_false, listHead, hnil]
      exact scanFinds_isSome h _ 0 (by omega) (by simp only [stepsLeft]; split_ifs <;> omega)

theorem fctxNextaddress_scannable (h : Scannable finds c)
    (hn : fctxNextaddress fw finds c = some (a, fw', finds', c')) : Scannable finds' c' := by
  unfold fctxNextaddress at hn
  split at hn
  · cases hn; exact ⟨h.addresses, fun _ h => by cases h⟩
  · obtain ⟨⟨a₀, finds₀, c₀⟩, hs, hr⟩ := Option.map_eq_some'.mp hn
    cases hr
    exact scanFinds_scannable h hs

end

/-! ## Opening a round -/

/-- What the ADB hands out: addrinfos without the resolver's private mark. -/
structure Env.FromAdb (env : Env) : Prop where
  unmarked : ∀ n a rest, env.createfind n = .addresses a rest → ∀ x ∈ a :: rest, x.flags.mark = false
  forwarders : ∀ sa a, env.findaddrinfo sa = some a → a.flags.mark = false
  fails : ∀ n, env.createfind n ≠ .fail .success

def FreshFinds (finds : List Find) : Prop := ∀ x ∈ finds, x.list ≠ [] ∧ ∀ a ∈ x.list, a.flags.mark = false

theorem sortAdbfind_cons {a : Addrinfo} {rest : List Addrinfo} :
    (sortAdbfind ⟨a :: rest⟩).list ≠ [] ∧ ∀ x ∈ (sortAdbfind ⟨a :: rest⟩).list, x ∈ a :: rest :=
  have hp := (sortAdbfind_stableSorted ⟨a :: rest⟩).perm
  ⟨fun he => by simpa [he] using hp.length_eq, fun _ hx => hp.subset hx⟩

section
variable {env : Env} {i : Nat} {r : Option IscResult} {f' : Fctx} {o' : List Owed}

theorem findNameservers_finds {P : Find → Prop}
    (hP : ∀ n a rest, env.createfind n = .addresses a rest → P (sortAdbfind ⟨a :: rest⟩)) :
    ∀ {f : Fctx} {o : List Owed} {ns : List Name}, findNameservers env i f o ns = (r, f', o') →
      (∀ x ∈ f.finds, P x) → (∀ x ∈ f'.finds, P x) ∧ f.finds <+: f'.finds
  | f, o, [], h, hf => by cases h; exact ⟨hf, List.prefix_refl _⟩
  | f, o, n :: ns, h, hf => by
    simp only [findNameservers] at h
    split at h
    · cases h; exact ⟨hf, List.prefix_refl _⟩
    · rename_i a rest hn
      obtain ⟨hP', hpre⟩ := findNameservers_finds hP h fun x hx => by
        rcases List.mem_append.mp hx with hx | hx
        · exact hf x hx
        · rw [List.mem_singleton.mp hx]; exact hP n a rest hn
      exact ⟨hP', (List.prefix_append _ _).trans hpre⟩
    all_goals have := findNameservers_finds hP h hf; exact this

theorem findNameservers_fails :
    ∀ {f : Fctx} {o : List Owed} {ns : List Name} {e : IscResult},
      findNameservers env i f o ns = (some e, f', o') → ∃ n, env.createfind n = .fail e
  | _, _, [], _, h => by cases h
  | _, _, n :: _, _, h => by
    simp only [findNameservers] at h
    split at h
    · cases h; exact ⟨n, ‹_›⟩
    all_goals exact findNameservers_fails h

end

theorem addressesFound_ok {f : Fctx} (h : ∀ x ∈ f.finds, x.list ≠ []) :
    ∃ r finds, addressesFound f = .ok (r, { f with finds := finds }) ∧ finds.Perm f.finds ∧
      (r = .success → finds ≠ [] ∨ f.forwaddrs ≠ []) := by
  unfold addressesFound
  split
  · exact ⟨_, f.finds, rfl, .refl _, by split <;> simp⟩
  · rename_i hne
    obtain ⟨sorted, hs, hss⟩ := sortFinds_stableSorted h
    refine ⟨_, sorted, by rw [hs], hss.perm, fun _ => ?_⟩
    by_contra hc
    push_neg at hc
    have hl := hss.perm.length_eq
    rw [hc.1] at hl
    exact hne ⟨List.eq_nil_of_length_eq_zero hl.symm, hc.2⟩

theorem fctxNextaddress_fresh {fw : List Addrinfo} {finds : List Find}
    (hw : ∀ a ∈ fw, a.flags.mark = false) (hf : FreshFinds finds) (hne : fw ≠ [] ∨ finds ≠ []) :
    ∃ a r, fctxNextaddress fw finds none = some (some a, r) := by
  have first : ∀ {b : Addrinfo} {bs : List Addrinfo}, b.flags.mark = false →
      markFirstUnmarked (b :: bs) = some (b.marked, b.marked :: bs) := fun hb => by
    simp [markFirstUnmarked, hb]
  cases fw with
  | cons b bs =>
    exact ⟨b.marked, (b.marked :: bs, finds, none), by
      simp [fctxNextaddress, nextForwarder, first (hw b (List.mem_cons_self _ _))]⟩
  | nil =>
    obtain ⟨x, xs, rfl⟩ := List.exists_cons_of_ne_nil (hne.resolve_left fun h => h rfl)
    obtain ⟨hx, hxm⟩ := hf x (List.mem_cons_self _ _)
    obtain ⟨b, bs, hb⟩ := List.exists_cons_of_ne_nil hx
    refine ⟨b.marked, ([], ⟨b.marked :: bs⟩ :: xs, some 0), ?_⟩
    simp [fctxNextaddress, nextForwarder, markFirstUnmarked, listHead, scanFinds, hb,
      first (hxm b (hb ▸ List.mem_cons_self _ _))]

end DnsResolver
