import Mathlib

/-!
# Ordered maps and sets

Sums over the entries of an `ExtTreeMap`, and the finite set of elements of an `ExtTreeSet`.
Lookup of each operation is the standard library's; what is added here is what an operation
does to a total taken over the whole map, stated through lookups, so that one lemma covers
insertion, removal and in-place modification.
-/

open Std

/-! ## Lexicographic keys -/

/-- A comparison by two keys decides equality when equal keys make equal values. -/
theorem Std.LawfulEqCmp.lex {α : Type} {cmp₁ cmp₂ : α → α → Ordering} [ReflCmp cmp₁]
    [ReflCmp cmp₂] (h : ∀ a b, cmp₁ a b = .eq → cmp₂ a b = .eq → a = b) :
    LawfulEqCmp (compareLex cmp₁ cmp₂) where
  eq_of_compare {a b} hab := by
    obtain ⟨h₁, h₂⟩ := compareLex_eq_eq.mp hab
    exact h a b h₁ h₂

/-- A comparison by an injective key decides equality. -/
theorem Std.LawfulEqCmp.on {α β : Type} [Ord β] [LawfulEqOrd β] {f : α → β}
    (h : Function.Injective f) : LawfulEqCmp (compareOn f) where
  compare_self {_} := ReflCmp.compare_self
  eq_of_compare {_ _} hab := h (LawfulEqCmp.eq_of_compare hab)

/-- Pairs are ordered by their first and then by their second component. -/
instance Prod.instOrdLex {α β : Type} [Ord α] [Ord β] : Ord (α × β) :=
  ⟨compareLex (compareOn Prod.fst) (compareOn Prod.snd)⟩

instance Prod.instTransOrdLex {α β : Type} [Ord α] [TransOrd α] [Ord β] [TransOrd β] :
    TransOrd (α × β) :=
  inferInstanceAs (TransCmp (compareLex (compareOn Prod.fst) (compareOn Prod.snd)))

instance Prod.instLawfulEqOrdLex {α β : Type} [Ord α] [LawfulEqOrd α] [Ord β] [LawfulEqOrd β] :
    LawfulEqOrd (α × β) :=
  LawfulEqCmp.lex (by
    rintro ⟨a, b⟩ ⟨a', b'⟩ ha hb
    simp_all [compareOn])

namespace OrderedMap

variable {κ ν ν' : Type} [Ord κ] [TransOrd κ] [LawfulEqOrd κ] [DecidableEq κ]

omit [LawfulEqOrd κ] [DecidableEq κ] in
theorem mem_of_getElem? {m : ExtTreeMap κ ν} {k : κ} {v : ν} (h : m[k]? = some v) : k ∈ m := by
  rw [ExtTreeMap.mem_iff_isSome_getElem?, h, Option.isSome_some]

omit [LawfulEqOrd κ] [DecidableEq κ] in
theorem exists_of_mem {m : ExtTreeMap κ ν} {k : κ} (h : k ∈ m) : ∃ v, m[k]? = some v :=
  Option.isSome_iff_exists.mp (ExtTreeMap.mem_iff_isSome_getElem?.mp h)

/-! ## Lookups, by equality of keys -/

theorem getElem?_insert {m : ExtTreeMap κ ν} {k a : κ} {v : ν} :
    (m.insert k v)[a]? = if a = k then some v else m[a]? := by
  simp [ExtTreeMap.getElem?_insert, eq_comm (a := a)]

theorem getElem?_erase {m : ExtTreeMap κ ν} {k a : κ} :
    (m.erase k)[a]? = if a = k then none else m[a]? := by
  simp [ExtTreeMap.getElem?_erase, eq_comm (a := a)]

theorem getElem?_modify {m : ExtTreeMap κ ν} {k a : κ} {f : ν → ν} :
    (m.modify k f)[a]? = if a = k then m[a]?.map f else m[a]? := by
  by_cases h : a = k
  · subst h
    simp
  · simp [ExtTreeMap.getElem?_modify, h, Ne.symm h]

omit [DecidableEq κ] in
theorem getElem?_filter {m : ExtTreeMap κ ν} {k : κ} {v : ν} {p : κ → ν → Bool} :
    (m.filter p)[k]? = some v ↔ m[k]? = some v ∧ p k v = true := by
  rw [ExtTreeMap.getElem?_filter', Option.filter_eq_some_iff]

omit [DecidableEq κ] in
theorem filter_true {m : ExtTreeMap κ ν} : m.filter (fun _ _ => true) = m := by
  apply ExtTreeMap.ext_getElem?
  intro k
  rw [ExtTreeMap.getElem?_filter']
  cases m[k]? <;> rfl

omit [DecidableEq κ] in
theorem mem_filter {m : ExtTreeMap κ ν} {k : κ} {p : κ → Bool} :
    k ∈ m.filter (fun k _ => p k) ↔ k ∈ m ∧ p k = true := by
  constructor
  · intro h
    obtain ⟨v, hv⟩ := exists_of_mem h
    obtain ⟨hv, hp⟩ := getElem?_filter.mp hv
    exact ⟨mem_of_getElem? hv, hp⟩
  · rintro ⟨h, hp⟩
    obtain ⟨v, hv⟩ := exists_of_mem h
    exact mem_of_getElem? (getElem?_filter.mpr ⟨hv, hp⟩)

omit [DecidableEq κ] in
theorem mem_insert {m : ExtTreeMap κ ν} {k a : κ} {v : ν} : a ∈ m.insert k v ↔ a = k ∨ a ∈ m := by
  simp [eq_comm (a := a)]

omit [DecidableEq κ] in
theorem mem_erase {m : ExtTreeMap κ ν} {k a : κ} : a ∈ m.erase k ↔ a ≠ k ∧ a ∈ m := by
  simp [eq_comm (a := a)]

/-- A filter does not see a value it refuses put in the place of one it refuses. -/
theorem filter_insert_of_neg {m : ExtTreeMap κ ν} {k : κ} {v : ν}
    {p : κ → ν → Bool} (hnew : p k v = false)
    (hold : ∀ v', m[k]? = some v' → p k v' = false) : (m.insert k v).filter p = m.filter p := by
  apply ExtTreeMap.ext_getElem?
  intro a
  apply Option.ext
  intro w
  rw [getElem?_filter, getElem?_filter, getElem?_insert]
  split
  · rename_i heq
    subst heq
    constructor
    · rintro ⟨hw, hp⟩
      cases hw
      rw [hnew] at hp
      cases hp
    · rintro ⟨hw, hp⟩
      rw [hold w hw] at hp
      cases hp
  · rfl

/-! ## Totals -/

/-- The keys of a map, as a finite set. -/
def keySet (m : ExtTreeMap κ ν) : Finset κ := m.keys.toFinset

@[simp] theorem mem_keySet {m : ExtTreeMap κ ν} {k : κ} : k ∈ keySet m ↔ k ∈ m := by
  simp [keySet]

omit [DecidableEq κ] in
theorem nodup_keys (m : ExtTreeMap κ ν) : m.keys.Nodup :=
  m.distinct_keys.imp (by simp)

theorem card_keySet (m : ExtTreeMap κ ν) : (keySet m).card = m.size := by
  rw [keySet, List.toFinset_card_of_nodup (nodup_keys m), ExtTreeMap.length_keys]

/-- A map whose keys are those of another and those on a list is no larger than both. -/
theorem size_le_of_cover {m : ExtTreeMap κ ν} {m' : ExtTreeMap κ ν'} (list : List κ)
    (h : ∀ k, k ∈ m' → k ∈ m ∨ k ∈ list) : m'.size ≤ m.size + list.length := by
  have hsub : keySet m' ⊆ keySet m ∪ list.toFinset := by
    intro k hk
    rw [Finset.mem_union, mem_keySet, List.mem_toFinset]
    exact h k (mem_keySet.mp hk)
  calc m'.size = (keySet m').card := (card_keySet m').symm
    _ ≤ (keySet m ∪ list.toFinset).card := Finset.card_le_card hsub
    _ ≤ (keySet m).card + list.toFinset.card := Finset.card_union_le _ _
    _ ≤ m.size + list.length :=
      Nat.add_le_add (Nat.le_of_eq (card_keySet m)) (List.toFinset_card_le list)

theorem size_le_of_subset {m : ExtTreeMap κ ν} {m' : ExtTreeMap κ ν'}
    (h : ∀ k, k ∈ m' → k ∈ m) : m'.size ≤ m.size :=
  size_le_of_cover [] fun k hk => .inl (h k hk)

/-- The sum of `f` over the entries of a map. -/
def total (f : κ → ν → Nat) (m : ExtTreeMap κ ν) : Nat :=
  (m.toList.map fun entry => f entry.1 entry.2).sum

/-- What the key contributes to a total: nothing when it is absent. -/
def share (f : κ → ν → Nat) (m : ExtTreeMap κ ν) (k : κ) : Nat :=
  (m[k]?).elim 0 (f k)

theorem total_eq_sum (f : κ → ν → Nat) (m : ExtTreeMap κ ν) :
    total f m = ∑ k ∈ keySet m, share f m k := by
  have hshare : m.toList.map (fun entry => f entry.1 entry.2) = m.keys.map (share f m) := by
    rw [← ExtTreeMap.map_fst_toList_eq_keys, List.map_map]
    apply List.map_congr_left
    rintro ⟨k, v⟩ hmem
    simp [share, ExtTreeMap.mem_toList_iff_getElem?_eq_some.mp hmem]
  rw [total, hshare, keySet, List.sum_toFinset _ (nodup_keys m)]

omit [LawfulEqOrd κ] [DecidableEq κ] in
@[simp] theorem total_empty (f : κ → ν → Nat) : total f (∅ : ExtTreeMap κ ν) = 0 := by
  simp [total, ExtTreeMap.toList_eq_nil_iff.mpr rfl]

/-- Two maps that agree except at `k` differ in their totals by what `k` contributes. -/
theorem total_update {f : κ → ν → Nat} {m m' : ExtTreeMap κ ν} {k : κ}
    (h : ∀ a, a ≠ k → m'[a]? = m[a]?) :
    total f m' + share f m k = total f m + share f m' k := by
  have hsum : ∀ n : ExtTreeMap κ ν,
      total f n = (∑ a ∈ (keySet n).erase k, share f n a) + share f n k := by
    intro n
    rw [total_eq_sum]
    by_cases hk : k ∈ keySet n
    · rw [Finset.sum_erase_add _ _ hk]
    · have hnone : share f n k = 0 := by
        have : n[k]? = none := by simpa using hk
        simp [share, this]
      rw [Finset.erase_eq_of_notMem hk, hnone, Nat.add_zero]
  have hkeys : (keySet m').erase k = (keySet m).erase k := by
    ext a
    simp only [Finset.mem_erase, mem_keySet, ExtTreeMap.mem_iff_isSome_getElem?]
    constructor <;> rintro ⟨hne, hsome⟩ <;> exact ⟨hne, by simpa [h a hne] using hsome⟩
  have hrest : ∑ a ∈ (keySet m').erase k, share f m' a = ∑ a ∈ (keySet m).erase k, share f m a := by
    rw [hkeys]
    apply Finset.sum_congr rfl
    intro a ha
    rw [share, share, h a (Finset.ne_of_mem_erase ha)]
  rw [hsum m', hsum m, hrest]
  omega

/-- A total is unchanged when every key contributes what it did. -/
theorem total_congr {f : κ → ν → Nat} {g : κ → ν' → Nat} {m : ExtTreeMap κ ν}
    {m' : ExtTreeMap κ ν'} (hmem : ∀ k, k ∈ m ↔ k ∈ m') (h : ∀ k, share f m k = share g m' k) :
    total f m = total g m' := by
  have hkeys : keySet m = keySet m' := by ext k; simp [hmem k]
  rw [total_eq_sum, total_eq_sum, hkeys]
  exact Finset.sum_congr rfl fun k _ => h k

/-- Totals add up when what every key contributes does. -/
theorem total_add {ν'' : Type} {f : κ → ν → Nat} {g : κ → ν' → Nat} {h : κ → ν'' → Nat}
    {m : ExtTreeMap κ ν} {m' : ExtTreeMap κ ν'} {m'' : ExtTreeMap κ ν''}
    (hmem : ∀ k, k ∈ m ↔ k ∈ m'') (hmem' : ∀ k, k ∈ m' ↔ k ∈ m'')
    (hshare : ∀ k, share f m k + share g m' k = share h m'' k) :
    total f m + total g m' = total h m'' := by
  have hkeys : keySet m = keySet m'' := by ext k; simp [hmem k]
  have hkeys' : keySet m' = keySet m'' := by ext k; simp [hmem' k]
  rw [total_eq_sum, total_eq_sum, total_eq_sum, hkeys, hkeys', ← Finset.sum_add_distrib]
  exact Finset.sum_congr rfl fun k _ => hshare k

/-- A total where no key contributes more. -/
theorem total_le {f : κ → ν → Nat} {g : κ → ν' → Nat} {m : ExtTreeMap κ ν}
    {m' : ExtTreeMap κ ν'} (hmem : ∀ k, k ∈ m → k ∈ m') (h : ∀ k, share f m k ≤ share g m' k) :
    total f m ≤ total g m' := by
  rw [total_eq_sum, total_eq_sum]
  calc ∑ k ∈ keySet m, share f m k
      ≤ ∑ k ∈ keySet m, share g m' k := Finset.sum_le_sum fun k _ => h k
    _ ≤ ∑ k ∈ keySet m', share g m' k :=
      Finset.sum_le_sum_of_subset fun k hk => by simpa using hmem k (by simpa using hk)

omit [LawfulEqOrd κ] [DecidableEq κ] in
/-- A count of entries is a total of ones. -/
theorem length_filter_toList {p : κ × ν → Bool} {m : ExtTreeMap κ ν} :
    (m.toList.filter p).length = total (fun k v => if p (k, v) then 1 else 0) m := by
  rw [total]
  induction m.toList with
  | nil => rfl
  | cons entry rest ih =>
    cases hp : p entry with
    | true => rw [List.filter_cons_of_pos hp, List.length_cons, ih, List.map_cons,
      List.sum_cons, hp,
        if_pos rfl, Nat.add_comm]
    | false => rw [List.filter_cons_of_neg (by simp [hp]), ih, List.map_cons, List.sum_cons, hp,
        if_neg (by simp), Nat.zero_add]

omit [DecidableEq κ] in
/-- What is shown of the entries of a map depends only on what is shown at each key. -/
theorem map_filter_toList_congr {α : Type} {p : κ × ν → Bool} {f : κ × ν → α}
    {m m' : ExtTreeMap κ ν}
    (h : ∀ k, ((m[k]?).filter fun v => p (k, v)).map (fun v => f (k, v)) =
      ((m'[k]?).filter fun v => p (k, v)).map fun v => f (k, v)) :
    (m.toList.filter p).map f = (m'.toList.filter p).map f := by
  have hshown : ∀ n : ExtTreeMap κ ν, (n.toList.filter p).map f =
      (n.filterMap fun k v => if p (k, v) then some (f (k, v)) else none).toList.map Prod.snd := by
    intro n
    rw [ExtTreeMap.toList_filterMap]
    induction n.toList with
    | nil => rfl
    | cons entry rest ih =>
      cases hp : p entry with
      | true => simp [List.filter_cons_of_pos hp, hp, ih]
      | false => simp [List.filter_cons_of_neg (by simp [hp] : ¬ p entry = true), hp, ih]
  rw [hshown m, hshown m']
  congr 2
  apply ExtTreeMap.ext_getElem?
  intro k
  have hk := h k
  rw [ExtTreeMap.getElem?_filterMap', ExtTreeMap.getElem?_filterMap']
  cases hm : m[k]? <;> cases hm' : m'[k]? <;> simp_all [Option.filter]

theorem total_insert {f : κ → ν → Nat} {m : ExtTreeMap κ ν} {k : κ} {v : ν} :
    total f (m.insert k v) + share f m k = total f m + f k v := by
  have hk : share f (m.insert k v) k = f k v := by simp [share]
  rw [← hk]
  apply total_update
  intro a ha
  simp [ExtTreeMap.getElem?_insert, Ne.symm ha]

omit [LawfulEqOrd κ] [DecidableEq κ] in
/-- A filter and its complement split a total. -/
theorem total_filter_add {f : κ → ν → Nat} {p : κ → ν → Bool} {m : ExtTreeMap κ ν} :
    total f (m.filter p) + total f (m.filter fun k v => !p k v) = total f m := by
  simp only [total, ExtTreeMap.toList_filter]
  induction m.toList with
  | nil => rfl
  | cons entry rest ih =>
    cases hp : p entry.1 entry.2 <;>
      simp only [hp, List.filter_cons, Bool.not_false, Bool.not_true, if_true, Bool.false_eq_true,
        if_false, List.map_cons, List.sum_cons] <;> omega

theorem share_le_total {f : κ → ν → Nat} {m : ExtTreeMap κ ν} {k : κ} :
    share f m k ≤ total f m := by
  rw [total_eq_sum]
  by_cases hk : k ∈ m
  · exact Finset.single_le_sum (fun _ _ => Nat.zero_le _) (mem_keySet.mpr hk)
  · have : m[k]? = none := by simpa using hk
    simp [share, this]

theorem total_eq_zero {f : κ → ν → Nat} {m : ExtTreeMap κ ν}
    (h : ∀ k v, m[k]? = some v → f k v = 0) : total f m = 0 := by
  rw [total_eq_sum]
  apply Finset.sum_eq_zero
  intro k _
  cases hk : m[k]? with
  | none => simp [share, hk]
  | some v => simp [share, hk, h k v hk]

end OrderedMap

namespace OrderedSet

variable {κ : Type} [Ord κ] [TransOrd κ] [LawfulEqOrd κ] [DecidableEq κ]

omit [DecidableEq κ] in
theorem mem_insert {s : ExtTreeSet κ} {k a : κ} : a ∈ s.insert k ↔ a = k ∨ a ∈ s := by
  simp [eq_comm (a := a)]

omit [DecidableEq κ] in
theorem mem_erase {s : ExtTreeSet κ} {k a : κ} : a ∈ s.erase k ↔ a ≠ k ∧ a ∈ s := by
  simp [eq_comm (a := a)]

omit [DecidableEq κ] in
theorem mem_filter {s : ExtTreeSet κ} {a : κ} {p : κ → Bool} :
    a ∈ s.filter p ↔ a ∈ s ∧ p a = true := by
  simp

/-- The elements of an ordered set. -/
def toFinset (s : ExtTreeSet κ) : Finset κ := s.toList.toFinset

@[simp] theorem mem_toFinset {s : ExtTreeSet κ} {k : κ} : k ∈ toFinset s ↔ k ∈ s := by
  simp [toFinset]

theorem card_toFinset (s : ExtTreeSet κ) : (toFinset s).card = s.size := by
  have hnodup : s.toList.Nodup := s.distinct_toList.imp (by simp)
  rw [toFinset, List.toFinset_card_of_nodup hnodup, ExtTreeSet.length_toList]

theorem size_le_of_subset {s t : ExtTreeSet κ} (h : ∀ k, k ∈ s → k ∈ t) : s.size ≤ t.size := by
  rw [← card_toFinset, ← card_toFinset]
  apply Finset.card_le_card
  intro k hk
  simpa using h k (by simpa using hk)

/-- Taking a set of its keys away leaves a map that much smaller. -/
theorem size_add_size {ν : Type} {s : ExtTreeSet κ} {m m' : ExtTreeMap κ ν}
    (hsub : ∀ k, k ∈ s → k ∈ m) (h : ∀ k, k ∈ m' ↔ k ∈ m ∧ k ∉ s) : s.size + m'.size = m.size := by
  have hsplit : OrderedMap.keySet m' = OrderedMap.keySet m \ toFinset s := by
    ext k
    simp [h]
  have hsubset : toFinset s ⊆ OrderedMap.keySet m := by
    intro k hk
    simpa using hsub k (mem_toFinset.mp hk)
  rw [← card_toFinset, ← OrderedMap.card_keySet, ← OrderedMap.card_keySet, hsplit,
    Finset.card_sdiff_of_subset hsubset]
  exact Nat.add_sub_of_le (Finset.card_le_card hsubset)

/-- A subset of the same size is the whole set. -/
theorem eq_of_subset_of_size {s t : ExtTreeSet κ} (h : ∀ k, k ∈ s → k ∈ t)
    (hsize : s.size = t.size) : s = t := by
  have hsub : toFinset s ⊆ toFinset t := fun k hk => by simpa using h k (by simpa using hk)
  have heq : toFinset s = toFinset t := by
    apply Finset.eq_of_subset_of_card_le hsub
    rw [card_toFinset, card_toFinset, hsize]
  apply ExtTreeSet.ext_mem
  intro k
  rw [← mem_toFinset, heq, mem_toFinset]

/-! ## Growing a set along a list -/

section Grow

variable {α : Type} {p : α → ExtTreeSet κ → Bool} {key : α → κ}

/-- Walk a list and insert the key of each element that the set grown so far calls for. -/
def growAlong (p : α → ExtTreeSet κ → Bool) (key : α → κ) (list : List α) (s : ExtTreeSet κ) :
    ExtTreeSet κ :=
  list.foldl (fun s a => if p a s then s.insert (key a) else s) s

omit [LawfulEqOrd κ] [DecidableEq κ] in
theorem growAlong_cons (a : α) (rest : List α) (s : ExtTreeSet κ) :
    growAlong p key (a :: rest) s = growAlong p key rest (if p a s then s.insert (key a) else s) :=
  rfl

omit [LawfulEqOrd κ] [DecidableEq κ] in
theorem mem_growAlong_of_mem {list : List α} {s : ExtTreeSet κ} {k : κ} (h : k ∈ s) :
    k ∈ growAlong p key list s := by
  induction list generalizing s with
  | nil => exact h
  | cons a rest ih =>
    rw [growAlong_cons]
    apply ih
    split
    · exact ExtTreeSet.mem_insert.mpr (.inr h)
    · exact h

omit [DecidableEq κ] in
/-- What holds of the first elements and of every element called for holds of the grown set. -/
theorem growAlong_induction {P : κ → Prop} {list : List α} {s : ExtTreeSet κ}
    (hstep : ∀ a ∈ list, ∀ s, (∀ k, k ∈ s → P k) → p a s = true → P (key a))
    (h : ∀ k, k ∈ s → P k) : ∀ k, k ∈ growAlong p key list s → P k := by
  induction list generalizing s with
  | nil => exact h
  | cons a rest ih =>
    rw [growAlong_cons]
    apply ih fun b hb => hstep b (List.mem_cons_of_mem _ hb)
    intro k hk
    split at hk
    · rename_i hp
      rcases ExtTreeSet.mem_insert.mp hk with heq | hk
      · rw [← compare_eq_iff_eq.mp heq]
        exact hstep a List.mem_cons_self s h hp
      · exact h k hk
    · exact h k hk

omit [DecidableEq κ] in
/-- A set that the walk leaves as it was holds every key it calls for. -/
theorem mem_of_growAlong_eq {list : List α} {s : ExtTreeSet κ} (h : growAlong p key list s = s)
    {a : α} (ha : a ∈ list) (hp : p a s = true) : key a ∈ s := by
  induction list with
  | nil => cases ha
  | cons b rest ih =>
    have hmid : (if p b s then s.insert (key b) else s) = s := by
      apply ExtTreeSet.ext_mem
      intro k
      refine ⟨fun hk => ?_, fun hk => ?_⟩
      · rw [← h, growAlong_cons]
        exact mem_growAlong_of_mem hk
      · split
        · exact ExtTreeSet.mem_insert.mpr (.inr hk)
        · exact hk
    rcases List.mem_cons.mp ha with rfl | ha
    · rw [if_pos hp] at hmid
      rw [← hmid]
      exact ExtTreeSet.mem_insert_self
    · rw [growAlong_cons, hmid] at h
      exact ih h ha

end Grow

end OrderedSet
