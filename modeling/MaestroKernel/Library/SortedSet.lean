import Mathlib.Data.List.Sort
import Mathlib.Data.Prod.Lex

/-! # Sorted sets

A sorted set gives each member one score and lists its members by score, ties by
member. Both facts are fields, so every operation carries their proofs. -/

namespace MaestroKernel

/-- The entries are pairs of a score and a member, least first. -/
structure SortedSet (M S : Type) [LinearOrder M] [LinearOrder S] where
  entries : List (S ×ₗ M)
  sorted : entries.Pairwise (· ≤ ·)
  nodup : (entries.map fun e => (ofLex e).2).Nodup

namespace SortedSet

variable {M S : Type} [LinearOrder M] [LinearOrder S]

def empty : SortedSet M S := ⟨[], .nil, .nil⟩

/-- The score of a member, if it has one. -/
def score (z : SortedSet M S) (m : M) : Option S :=
  (z.entries.find? fun e => (ofLex e).2 = m).map fun e => (ofLex e).1

/-- Remove the given members. -/
def zrem (z : SortedSet M S) (ms : List M) : SortedSet M S where
  entries := z.entries.filter fun e => (ofLex e).2 ∉ ms
  sorted := z.sorted.filter _
  nodup := (z.nodup.sublist (List.filter_sublist.map _))

theorem mem_zrem_entries (z : SortedSet M S) (ms : List M) (e : S ×ₗ M) :
    e ∈ (z.zrem ms).entries ↔ e ∈ z.entries ∧ (ofLex e).2 ∉ ms := by
  simp [zrem]

/-- Give `m` the score `s`, whatever it had before. -/
def zadd (z : SortedSet M S) (m : M) (s : S) : SortedSet M S where
  entries := (z.zrem [m]).entries.orderedInsert (· ≤ ·) (toLex (s, m))
  sorted := (z.zrem [m]).sorted.orderedInsert _ _
  nodup := by
    have hperm := (List.perm_orderedInsert (· ≤ ·) (toLex (s, m)) (z.zrem [m]).entries).map
      fun e => (ofLex e).2
    refine hperm.nodup_iff.mpr (List.nodup_cons.mpr ⟨?_, (z.zrem [m]).nodup⟩)
    intro hmem
    obtain ⟨e, he, hm⟩ := List.mem_map.mp hmem
    exact ((mem_zrem_entries z [m] e).mp he).2 (by simpa using hm)

theorem mem_zadd_entries (z : SortedSet M S) (m : M) (s : S) (e : S ×ₗ M) :
    e ∈ (z.zadd m s).entries ↔ e = toLex (s, m) ∨ e ∈ z.entries ∧ (ofLex e).2 ≠ m := by
  simp [zadd, mem_zrem_entries]

theorem entry_unique (z : SortedSet M S) {e e' : S ×ₗ M} (he : e ∈ z.entries)
    (he' : e' ∈ z.entries) (h : (ofLex e).2 = (ofLex e').2) : e = e' :=
  List.inj_on_of_nodup_map z.nodup he he' h

theorem score_eq_some_iff (z : SortedSet M S) (m : M) (s : S) :
    z.score m = some s ↔ toLex (s, m) ∈ z.entries := by
  constructor
  · intro h
    obtain ⟨e, he, rfl⟩ := Option.map_eq_some_iff.mp h
    have hm : (ofLex e).2 = m := by simpa using List.find?_some he
    subst hm
    exact List.mem_of_find?_eq_some he
  · intro h
    cases hf : z.entries.find? (fun e => (ofLex e).2 = m) with
    | none =>
      have hn := List.find?_eq_none.mp hf _ h
      simp at hn
    | some e =>
      have hm : (ofLex e).2 = m := by simpa using List.find?_some hf
      have he : e = toLex (s, m) :=
        z.entry_unique (List.mem_of_find?_eq_some hf) h hm
      simp [score, hf, he]

@[simp] theorem score_empty (m : M) : (empty : SortedSet M S).score m = none := rfl

@[simp] theorem score_zadd_self (z : SortedSet M S) (m : M) (s : S) :
    (z.zadd m s).score m = some s := by
  rw [score_eq_some_iff, mem_zadd_entries]
  exact .inl rfl

theorem score_zadd_of_ne (z : SortedSet M S) {m m' : M} (s : S) (h : m' ≠ m) :
    (z.zadd m s).score m' = z.score m' := by
  ext s'
  simp only [score_eq_some_iff, mem_zadd_entries]
  constructor
  · rintro (he | he)
    · have hp := congrArg (fun e => (ofLex e).2) he
      exact (h hp).elim
    · exact he.1
  · exact fun he => .inr ⟨he, h⟩

theorem score_zrem (z : SortedSet M S) (ms : List M) (m : M) :
    (z.zrem ms).score m = if m ∈ ms then none else z.score m := by
  ext s
  rw [score_eq_some_iff, mem_zrem_entries]
  split
  · rename_i h
    simp [h]
  · rename_i h
    simp [h, score_eq_some_iff]

@[simp] theorem score_zrem_self (z : SortedSet M S) (m : M) : (z.zrem [m]).score m = none := by
  simp [score_zrem]

theorem score_zrem_of_ne (z : SortedSet M S) {m m' : M} (h : m' ≠ m) :
    (z.zrem [m]).score m' = z.score m' := by
  simp [score_zrem, h]

theorem ext_score {z z' : SortedSet M S} (h : ∀ m, z.score m = z'.score m) : z = z' := by
  have hmem : ∀ e, e ∈ z.entries ↔ e ∈ z'.entries := by
    intro e
    have hz := z.score_eq_some_iff (ofLex e).2 (ofLex e).1
    have hz' := z'.score_eq_some_iff (ofLex e).2 (ofLex e).1
    rw [h] at hz
    exact hz.symm.trans hz'
  have hperm : z.entries.Perm z'.entries :=
    (List.perm_ext_iff_of_nodup z.nodup.of_map z'.nodup.of_map).mpr hmem
  have hentries : z.entries = z'.entries := hperm.eq_of_pairwise' z.sorted z'.sorted
  cases z
  cases z'
  congr

/-- The members in the order of the set: `ZRANGE key 0 -1`. -/
def members (z : SortedSet M S) : List M := z.entries.map fun e => (ofLex e).2

theorem mem_members (z : SortedSet M S) (m : M) : m ∈ z.members ↔ ∃ s, z.score m = some s := by
  simp only [members, List.mem_map, score_eq_some_iff]
  constructor
  · rintro ⟨e, he, rfl⟩
    exact ⟨(ofLex e).1, he⟩
  · rintro ⟨s, he⟩
    exact ⟨toLex (s, m), he, rfl⟩

/-- The members with a score up to `max`, in the order of the set. -/
def rangeByScore (z : SortedSet M S) (max : S) : List M :=
  (z.entries.filter fun e => (ofLex e).1 ≤ max).map fun e => (ofLex e).2

theorem mem_rangeByScore (z : SortedSet M S) (max : S) (m : M) :
    m ∈ z.rangeByScore max ↔ ∃ s, z.score m = some s ∧ s ≤ max := by
  simp only [rangeByScore, List.mem_map, List.mem_filter, decide_eq_true_eq, score_eq_some_iff]
  constructor
  · rintro ⟨e, ⟨he, hle⟩, rfl⟩
    exact ⟨(ofLex e).1, he, hle⟩
  · rintro ⟨s, he, hle⟩
    exact ⟨toLex (s, m), ⟨he, hle⟩, rfl⟩

theorem nodup_rangeByScore (z : SortedSet M S) (max : S) : (z.rangeByScore max).Nodup :=
  z.nodup.sublist (List.filter_sublist.map _)

def card (z : SortedSet M S) : ℕ := z.entries.length

/-- The members that have not expired at `now`. -/
def live (z : SortedSet M S) (now : S) : List M :=
  (z.entries.filter fun e => now < (ofLex e).1).map fun e => (ofLex e).2

theorem mem_live (z : SortedSet M S) (now : S) (m : M) :
    m ∈ z.live now ↔ ∃ s, z.score m = some s ∧ now < s := by
  simp only [live, List.mem_map, List.mem_filter, decide_eq_true_eq, score_eq_some_iff]
  constructor
  · rintro ⟨e, ⟨he, hlt⟩, rfl⟩
    exact ⟨(ofLex e).1, he, hlt⟩
  · rintro ⟨s, he, hlt⟩
    exact ⟨toLex (s, m), ⟨he, hlt⟩, rfl⟩

theorem nodup_live (z : SortedSet M S) (now : S) : (z.live now).Nodup :=
  z.nodup.sublist (List.filter_sublist.map _)

theorem live_anti (z : SortedSet M S) {now later : S} (h : now ≤ later) :
    z.live later ⊆ z.live now := by
  intro m hm
  obtain ⟨s, hs, hlt⟩ := (z.mem_live later m).mp hm
  exact (z.mem_live now m).mpr ⟨s, hs, h.trans_lt hlt⟩

@[simp] theorem live_empty (now : S) : (empty : SortedSet M S).live now = [] := rfl

theorem live_zadd_subset (z : SortedSet M S) (m : M) (s now : S) :
    (z.zadd m s).live now ⊆ m :: z.live now := by
  intro m' hm
  obtain ⟨s', hs, hlt⟩ := (mem_live _ _ _).mp hm
  by_cases h : m' = m
  · exact List.mem_cons.mpr (.inl h)
  · rw [score_zadd_of_ne z s h] at hs
    exact List.mem_cons_of_mem _ ((z.mem_live now m').mpr ⟨s', hs, hlt⟩)

theorem live_zrem_subset (z : SortedSet M S) (ms : List M) (now : S) :
    (z.zrem ms).live now ⊆ z.live now := by
  intro m hm
  obtain ⟨s, hs, hlt⟩ := (mem_live _ _ _).mp hm
  rw [score_zrem] at hs
  split at hs
  · exact absurd hs.symm (Option.some_ne_none s)
  · exact (z.mem_live now m).mpr ⟨s, hs, hlt⟩

/-- What is left of a set when its expired members are removed. -/
theorem card_zrem_rangeByScore (z : SortedSet M S) (now : S) :
    (z.zrem (z.rangeByScore now)).card = (z.live now).length := by
  unfold card live zrem
  rw [List.length_map]
  congr 1
  apply List.filter_congr
  intro e he
  have hs : z.score (ofLex e).2 = some (ofLex e).1 := (z.score_eq_some_iff _ _).mpr he
  simp [mem_rangeByScore, hs]

end SortedSet

/-! ## Agreement up to expired entries

Two stores of expiry times agree after a clock reading when they give every member
the same expiry, as far as it lies after the reading. What a store has forgotten of
the expired members does not matter. -/

variable {M S : Type}

def AgreesAfter [LT S] (now : S) (f g : M → Option S) : Prop :=
  ∀ m s, now < s → (f m = some s ↔ g m = some s)

/-- The expiries of the members that meet `p`. -/
def restrict (p : M → Bool) (f : M → Option S) (m : M) : Option S := if p m then f m else none

theorem restrict_eq_some {p : M → Bool} {f : M → Option S} {m : M} {s : S} :
    restrict p f m = some s ↔ f m = some s ∧ p m = true := by
  unfold restrict
  split
  · rename_i h
    simp [h]
  · rename_i h
    simp [h]

namespace AgreesAfter

variable [Preorder S] {now later : S} {f g h : M → Option S}

theorem refl (now : S) (f : M → Option S) : AgreesAfter now f f := fun _ _ _ => .rfl

theorem trans (hfg : AgreesAfter now f g) (hgh : AgreesAfter now g h) : AgreesAfter now f h :=
  fun m s hs => (hfg m s hs).trans (hgh m s hs)

theorem mono (hfg : AgreesAfter now f g) (hle : now ≤ later) : AgreesAfter later f g :=
  fun m s hs => hfg m s (hle.trans_lt hs)

protected theorem restrict {p : M → Bool} (hfg : AgreesAfter now f g) :
    AgreesAfter now (MaestroKernel.restrict p f) (MaestroKernel.restrict p g) := by
  intro m s hs
  simp only [restrict_eq_some]
  rw [hfg m s hs]

/-- Every member is live in both stores or in neither. -/
theorem live_iff (hfg : AgreesAfter now f g) (m : M) :
    (∃ s, f m = some s ∧ now < s) ↔ ∃ s, g m = some s ∧ now < s :=
  exists_congr fun s => and_congr_left fun hs => hfg m s hs

end AgreesAfter

namespace SortedSet

variable [LinearOrder M] [LinearOrder S] {now : S} {z L : SortedSet M S} {p : M → Bool} {m : M}

/-- The removal of expired members is no change. -/
theorem agrees_zrem_rangeByScore (z : SortedSet M S) (now : S) :
    AgreesAfter now (z.zrem (z.rangeByScore now)).score z.score := by
  intro m s hs
  rw [score_zrem]
  split
  · rename_i h
    obtain ⟨s', hs', hle⟩ := (z.mem_rangeByScore now m).mp h
    rw [hs']
    constructor
    · intro hn
      exact absurd hn.symm (Option.some_ne_none s)
    · intro he
      obtain rfl : s' = s := Option.some.inj he
      exact absurd hs hle.not_gt
  · rfl

theorem agrees_zadd (h : AgreesAfter now z.score (restrict p L.score)) (hm : p m = true) (s : S) :
    AgreesAfter now (z.zadd m s).score (restrict p (L.zadd m s).score) := by
  intro m' s' hs
  rw [restrict_eq_some]
  by_cases he : m' = m
  · subst he
    simp [hm]
  · rw [score_zadd_of_ne z s he, score_zadd_of_ne L s he, h m' s' hs, restrict_eq_some]

theorem agrees_zadd_outside (h : AgreesAfter now z.score (restrict p L.score)) (hm : p m = false)
    (s : S) : AgreesAfter now z.score (restrict p (L.zadd m s).score) := by
  intro m' s' hs
  rw [h m' s' hs, restrict_eq_some, restrict_eq_some]
  by_cases he : m' = m
  · subst he
    simp [hm]
  · rw [score_zadd_of_ne L s he]

theorem agrees_zrem (h : AgreesAfter now z.score (restrict p L.score)) (m : M) :
    AgreesAfter now (z.zrem [m]).score (restrict p (L.zrem [m]).score) := by
  intro m' s' hs
  rw [restrict_eq_some]
  by_cases he : m' = m
  · subst he
    simp
  · rw [score_zrem_of_ne z he, score_zrem_of_ne L he, h m' s' hs, restrict_eq_some]

theorem agrees_zrem_outside (h : AgreesAfter now z.score (restrict p L.score)) (hm : p m = false) :
    AgreesAfter now z.score (restrict p (L.zrem [m]).score) := by
  intro m' s' hs
  rw [h m' s' hs, restrict_eq_some, restrict_eq_some]
  by_cases he : m' = m
  · subst he
    simp [hm]
  · rw [score_zrem_of_ne L he]

/-- The removal of an expired member is no change either. -/
theorem agrees_zrem_expired (hm : m ∉ L.live now) : AgreesAfter now L.score (L.zrem [m]).score := by
  intro m' s hs
  by_cases he : m' = m
  · subst he
    rw [score_zrem_self]
    constructor
    · exact fun h => absurd ((L.mem_live now m').mpr ⟨s, h, hs⟩) hm
    · exact fun h => absurd h.symm (Option.some_ne_none s)
  · rw [score_zrem_of_ne L he]

theorem length_live_eq {f : M → Option S} (ms : List M)
    (h : AgreesAfter now f (restrict p L.score)) (hnodup : ms.Nodup)
    (hmem : ∀ m, m ∈ ms ↔ ∃ s, f m = some s ∧ now < s) :
    ms.length = ((L.live now).filter p).length := by
  apply List.Perm.length_eq
  rw [List.perm_ext_iff_of_nodup hnodup ((L.nodup_live now).filter _)]
  intro m
  rw [hmem, h.live_iff, List.mem_filter, mem_live]
  simp only [restrict_eq_some]
  constructor
  · rintro ⟨s, ⟨hs, hp⟩, hlt⟩
    exact ⟨⟨s, hs, hlt⟩, hp⟩
  · rintro ⟨⟨s, hs, hlt⟩, hp⟩
    exact ⟨s, ⟨hs, hp⟩, hlt⟩

end SortedSet

end MaestroKernel
