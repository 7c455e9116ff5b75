import MaestroKernel.Capacity.Runtime

/-! # The two keys of a scope

The expiry set and the weight hash of a scope hold the same lease ids and expire together, and no
lease outlives the keys that hold it. Each command of the scripts keeps this, so a scope is known
by the leases that it holds. -/

namespace MaestroKernel

theorem SortedSet.card_eq_zero {M S : Type} [LinearOrder M] [LinearOrder S] {z : SortedSet M S} :
    z.card = 0 ↔ ∀ m, z.score m = none := by
  constructor
  · intro h m
    simp [SortedSet.score, List.length_eq_zero_iff.mp h]
  · intro h
    apply List.length_eq_zero_iff.mpr
    rw [List.eq_nil_iff_forall_not_mem]
    intro e he
    have hscore := (z.score_eq_some_iff (ofLex e).2 (ofLex e).1).mpr he
    simp [h] at hscore

namespace Capacity.Runtime

namespace Hash

variable {h : Hash} {id id' : String} {w : ℤ}

theorem hget_eq_some : h.hget id = some w ↔ (id, w) ∈ h.rows := by
  unfold hget
  constructor
  · intro hget
    obtain ⟨row, hrow, rfl⟩ := Option.map_eq_some_iff.mp hget
    have hid := Table.key_of_get? hrow
    subst hid
    exact Table.mem_of_get? hrow
  · intro hmem
    simp [Table.get?_of_mem h.nodup hmem]

theorem hget_hset : (h.hset id w).hget id' = if id' = id then some w else h.hget id' := by
  ext w'
  rw [hget_eq_some]
  simp only [hset, Table.mem_upsert, Prod.mk.injEq]
  by_cases hid : id' = id
  · simp [hid, eq_comm]
  · simp [hid, hget_eq_some]

theorem hget_hdel : (h.hdel id).hget id' = if id' = id then none else h.hget id' := by
  ext w'
  rw [hget_eq_some]
  by_cases hid : id' = id
  · simp [hdel, hid]
  · simp [hdel, hid, hget_eq_some]

theorem rows_eq_nil : h.rows = [] ↔ ∀ id, h.hget id = none := by
  constructor
  · intro hrows id
    simp [hget, Table.get?, hrows]
  · intro hnone
    rw [List.eq_nil_iff_forall_not_mem]
    intro row hrow
    have hget : h.hget row.1 = some row.2 := hget_eq_some.mpr hrow
    simp [hnone] at hget

@[simp] theorem hget_empty : empty.hget id = none := rfl

end Hash

namespace Cell

variable {c : Cell} {now later horizon expiry score weight : ℤ} {id id' : String}

/-- Neither key is expired. -/
def Fresh (c : Cell) (now : ℤ) : Prop :=
  c.expiry.expired now = false ∧ c.weights.expired now = false

theorem Fresh.read_eq (h : c.Fresh now) : c.read now = c := by
  simp [read, h.1, h.2]

theorem fresh_read (c : Cell) (now : ℤ) : (c.read now).Fresh now := by
  unfold Fresh read
  constructor
  · by_cases h : c.expiry.expired now = true
    · rw [if_pos h]
      rfl
    · simp [h]
  · by_cases h : c.weights.expired now = true
    · rw [if_pos h]
      rfl
    · simp [h]

theorem fresh_zrem (c : Cell) (now : ℤ) (id : String) : (c.zrem now id).Fresh now := by
  have hread := c.fresh_read now
  refine ⟨?_, hread.2⟩
  unfold zrem
  dsimp only
  split
  · rfl
  · exact hread.1

theorem fresh_hdel (c : Cell) (now : ℤ) (id : String) : (c.hdel now id).Fresh now := by
  have hread := c.fresh_read now
  refine ⟨hread.1, ?_⟩
  unfold hdel
  dsimp only
  split
  · rfl
  · exact hread.2

theorem fresh_zadd (c : Cell) (now score : ℤ) (id : String) : (c.zadd now score id).Fresh now :=
  c.fresh_read now

theorem fresh_hset (c : Cell) (now : ℤ) (id : String) (weight : ℤ) :
    (c.hset now id weight).Fresh now :=
  c.fresh_read now

@[simp] theorem weights_zrem : (c.zrem now id).weights = (c.read now).weights := rfl

@[simp] theorem expiry_hdel : (c.hdel now id).expiry = (c.read now).expiry := rfl

theorem deadline_zrem : (c.zrem now id).expiry.deadline =
    if ((c.read now).expiry.value.zrem [id]).card = 0 then none
    else (c.read now).expiry.deadline := by
  unfold zrem
  dsimp only
  split <;> rfl

theorem deadline_hdel : (c.hdel now id).weights.deadline =
    if ((c.read now).weights.value.hdel id).rows = [] then none
    else (c.read now).weights.deadline := by
  unfold hdel
  dsimp only
  split <;> rfl

theorem score_zrem : (c.zrem now id).expiry.value.score id' =
    if id' = id then none else (c.read now).expiry.value.score id' := by
  unfold zrem
  dsimp only
  split
  · rename_i h
    have hnone := SortedSet.card_eq_zero.mp h id'
    rw [SortedSet.score_zrem] at hnone
    simpa using hnone.symm
  · simp [SortedSet.score_zrem]

theorem hget_hdel : (c.hdel now id).weights.value.hget id' =
    if id' = id then none else (c.read now).weights.value.hget id' := by
  unfold hdel
  dsimp only
  split
  · rename_i h
    have hnone := Hash.rows_eq_nil.mp h id'
    rw [Hash.hget_hdel] at hnone
    simpa using hnone.symm
  · exact Hash.hget_hdel

theorem score_remove : (c.remove now id).expiry.value.score id' =
    if id' = id then none else (c.read now).expiry.value.score id' := by
  have hread : (c.zrem now id).read now = c.zrem now id := (c.fresh_zrem now id).read_eq
  simp [remove, hread, score_zrem]

theorem hget_remove : (c.remove now id).weights.value.hget id' =
    if id' = id then none else (c.read now).weights.value.hget id' := by
  have hread : (c.zrem now id).read now = c.zrem now id := (c.fresh_zrem now id).read_eq
  simp [remove, hget_hdel, hread]

theorem fresh_remove (c : Cell) (now : ℤ) (id : String) : (c.remove now id).Fresh now :=
  fresh_hdel _ now id

/-! ## What the two keys have in common -/

/-- The same ids stand under both keys, the keys expire together, and no lease of them expires
after the horizon or after the keys. -/
structure Sound (c : Cell) (horizon : ℤ) : Prop where
  paired : ∀ id, (∃ e, c.expiry.value.score id = some e) ↔ ∃ w, c.weights.value.hget id = some w
  together : c.expiry.deadline = c.weights.deadline
  bounded : ∀ id e, c.expiry.value.score id = some e → e ≤ horizon
  kept : ∀ id e deadline, c.expiry.value.score id = some e → c.expiry.deadline = some deadline →
    e ≤ deadline

theorem absent_sound (horizon : ℤ) : absent.Sound horizon where
  paired := by simp [absent]
  together := rfl
  bounded := by simp [absent]
  kept := by simp [absent]

theorem Sound.mono (h : c.Sound horizon) {further : ℤ} (hle : horizon ≤ further) :
    c.Sound further :=
  { h with bounded := fun id e he => (h.bounded id e he).trans hle }

theorem Sound.read_cases (h : c.Sound horizon) (now : ℤ) :
    c.read now = c ∨ c.read now = absent ∧ c.expiry.expired now = true := by
  have hweights : c.weights.expired now = c.expiry.expired now := by
    simp [Stored.expired, h.together]
  by_cases hexpired : c.expiry.expired now = true
  · simp [read, absent, hweights, hexpired]
  · simp [read, hweights, hexpired]

theorem Sound.read (h : c.Sound horizon) (now : ℤ) : (c.read now).Sound horizon := by
  rcases h.read_cases now with hread | ⟨hread, _⟩
  · rw [hread]
    exact h
  · rw [hread]
    exact absent_sound horizon

theorem empty_iff (h : ∀ id, (∃ e, c.expiry.value.score id = some e) ↔
    ∃ w, c.weights.value.hget id = some w) :
    c.expiry.value.card = 0 ↔ c.weights.value.rows = [] := by
  rw [SortedSet.card_eq_zero, Hash.rows_eq_nil]
  simp only [Option.eq_none_iff_forall_ne_some]
  constructor
  · intro hnone id w hw
    obtain ⟨e, he⟩ := (h id).mpr ⟨w, hw⟩
    exact hnone id e he
  · intro hnone id e he
    obtain ⟨w, hw⟩ := (h id).mp ⟨e, he⟩
    exact hnone id w hw

theorem Sound.remove (h : c.Sound horizon) (now : ℤ) (id : String) :
    (c.remove now id).Sound horizon := by
  have hread := h.read now
  have hzrem : (c.zrem now id).read now = c.zrem now id := (c.fresh_zrem now id).read_eq
  have hpaired : ∀ id', (∃ e, (c.remove now id).expiry.value.score id' = some e) ↔
      ∃ w, (c.remove now id).weights.value.hget id' = some w := by
    intro id'
    rw [score_remove, hget_remove]
    by_cases hid : id' = id
    · simp [hid]
    · simpa [hid] using hread.paired id'
  have hcard : ((c.read now).expiry.value.zrem [id]).card = 0 ↔
      ((c.read now).weights.value.hdel id).rows = [] := by
    rw [SortedSet.card_eq_zero, Hash.rows_eq_nil]
    have hboth := empty_iff hpaired
    rw [SortedSet.card_eq_zero, Hash.rows_eq_nil] at hboth
    simp only [score_remove, hget_remove] at hboth
    simpa [SortedSet.score_zrem, Hash.hget_hdel] using hboth
  have hexpiry : (c.remove now id).expiry.deadline =
      if ((c.read now).expiry.value.zrem [id]).card = 0 then none
      else (c.read now).expiry.deadline := by
    simp [Cell.remove, hzrem, deadline_zrem]
  have hweights : (c.remove now id).weights.deadline =
      if ((c.read now).weights.value.hdel id).rows = [] then none
      else (c.read now).weights.deadline := by
    simp [Cell.remove, hzrem, deadline_hdel]
  refine ⟨hpaired, ?_, ?_, ?_⟩
  · rw [hexpiry, hweights, hread.together]
    simp [hcard]
  · intro id' e he
    rw [score_remove] at he
    by_cases hid : id' = id
    · simp [hid] at he
    · exact hread.bounded id' e (by simpa [hid] using he)
  · intro id' e deadline he hdeadline
    rw [score_remove] at he
    rw [hexpiry] at hdeadline
    by_cases hid : id' = id
    · simp [hid] at he
    · split at hdeadline
      · simp at hdeadline
      · exact hread.kept id' e deadline (by simpa [hid] using he) hdeadline

/-! ## The leases of a scope -/

def Holds (c : Cell) (id : String) (expiry weight : ℤ) : Prop :=
  c.expiry.value.score id = some expiry ∧ c.weights.value.hget id = some weight

theorem Sound.holds_read (h : c.Sound horizon) (hlive : now < expiry) :
    (c.read now).Holds id expiry weight ↔ c.Holds id expiry weight := by
  rcases h.read_cases now with hread | ⟨hread, hexpired⟩
  · rw [hread]
  · rw [hread]
    constructor
    · rintro ⟨hscore, _⟩
      simp [absent] at hscore
    · rintro ⟨hscore, _⟩
      obtain ⟨deadline, hdeadline, hpast⟩ := (Option.any_eq_true _ _).mp hexpired
      have hkept := h.kept id expiry deadline hscore hdeadline
      simp only [decide_eq_true_eq] at hpast
      omega

theorem Sound.holds_remove (h : c.Sound horizon) (hlive : now < expiry) :
    (c.remove now id).Holds id' expiry weight ↔ id' ≠ id ∧ c.Holds id' expiry weight := by
  rw [← h.holds_read hlive]
  unfold Holds
  rw [score_remove, hget_remove]
  by_cases hid : id' = id
  · simp [hid]
  · simp [hid]

theorem Sound.foldl_remove (h : c.Sound horizon) (ids : List String) :
    (ids.foldl (fun c id => c.remove now id) c).Sound horizon := by
  induction ids generalizing c with
  | nil => exact h
  | cons id ids ih => exact ih (h.remove now id)

theorem read_foldl_remove (ids : List String) :
    (((ids.foldl (fun c id => c.remove now id) c).read now).expiry.value.score id' =
        if id' ∈ ids then none else (c.read now).expiry.value.score id') ∧
      ((ids.foldl (fun c id => c.remove now id) c).read now).weights.value.hget id' =
        if id' ∈ ids then none else (c.read now).weights.value.hget id' := by
  induction ids generalizing c with
  | nil => simp
  | cons id ids ih =>
    have hread : (c.remove now id).read now = c.remove now id := (c.fresh_remove now id).read_eq
    have hrest := ih (c := c.remove now id)
    rw [hread, score_remove, hget_remove] at hrest
    rw [List.foldl_cons, hrest.1, hrest.2]
    by_cases hid : id' = id
    · simp [hid]
    · simp [hid]

theorem Sound.cleanup (h : c.Sound horizon) (now : ℤ) : (c.cleanup now).Sound horizon :=
  h.foldl_remove _

theorem Sound.read_cleanup (h : c.Sound horizon) :
    ((c.cleanup now).read now).Holds id expiry weight ↔
      now < expiry ∧ c.Holds id expiry weight := by
  obtain ⟨hscore, hhget⟩ :=
    read_foldl_remove (c := c) ((c.read now).expiry.value.rangeByScore now)
  have hcleanup : (c.cleanup now).read now =
      (((c.read now).expiry.value.rangeByScore now).foldl (fun c id => c.remove now id) c).read now :=
    rfl
  rw [hcleanup]
  by_cases hlive : now < expiry
  · rw [← h.holds_read hlive]
    unfold Holds
    rw [hscore, hhget]
    split
    · rename_i hmem
      obtain ⟨e, he, hle⟩ := (SortedSet.mem_rangeByScore _ _ _).mp hmem
      constructor
      · simp
      · rintro ⟨_, hread, _⟩
        rw [he] at hread
        cases hread
        omega
    · simp [hlive]
  · unfold Holds
    rw [hscore]
    split
    · simp [hlive]
    · rename_i hmem
      constructor
      · rintro ⟨hread, _⟩
        exact absurd ((SortedSet.mem_rangeByScore _ _ _).mpr ⟨expiry, hread, by omega⟩) hmem
      · exact fun ⟨hnow, _⟩ => absurd hnow hlive

theorem Sound.holds_cleanup (h : c.Sound horizon) (hlive : now < expiry) :
    (c.cleanup now).Holds id expiry weight ↔ c.Holds id expiry weight := by
  rw [← (h.cleanup now).holds_read hlive, h.read_cleanup]
  simp [hlive]

theorem Sound.mem_rows_cleanup (h : c.Sound horizon) :
    (id, weight) ∈ ((c.cleanup now).read now).weights.value.rows ↔
      ∃ e, now < e ∧ c.Holds id e weight := by
  rw [← Hash.hget_eq_some]
  constructor
  · intro hweight
    obtain ⟨e, he⟩ := (((h.cleanup now).read now).paired id).mpr ⟨weight, hweight⟩
    exact ⟨e, h.read_cleanup.mp ⟨he, hweight⟩⟩
  · rintro ⟨e, hlive, hholds⟩
    exact (h.read_cleanup.mpr ⟨hlive, hholds⟩).2

/-! ## A lease is written -/

theorem score_expire (t : ℤ) :
    (c.expire now t).expiry.value.score id = (c.read now).expiry.value.score id := by
  unfold expire
  dsimp only
  split
  · rename_i h
    simp [SortedSet.card_eq_zero.mp h id]
  · rfl

theorem hget_expire (t : ℤ) :
    (c.expire now t).weights.value.hget id = (c.read now).weights.value.hget id := by
  unfold expire
  dsimp only
  split
  · rename_i h
    simp [Hash.rows_eq_nil.mp h id]
  · rfl

theorem expire_sound {t : ℤ}
    (hpaired : ∀ id, (∃ e, (c.read now).expiry.value.score id = some e) ↔
      ∃ w, (c.read now).weights.value.hget id = some w)
    (hbounded : ∀ id e, (c.read now).expiry.value.score id = some e → e ≤ horizon)
    (hle : horizon ≤ now + t * 1000) : (c.expire now t).Sound horizon := by
  have hempty := empty_iff hpaired
  refine ⟨?_, ?_, ?_, ?_⟩
  · intro id
    rw [score_expire, hget_expire]
    exact hpaired id
  · unfold expire
    dsimp only
    by_cases h : (c.read now).expiry.value.card = 0
    · rw [if_pos h, if_pos (hempty.mp h)]
    · rw [if_neg h, if_neg (fun hrows => h (hempty.mpr hrows))]
  · intro id e he
    rw [score_expire] at he
    exact hbounded id e he
  · intro id e deadline he hdeadline
    rw [score_expire] at he
    have hcard : (c.read now).expiry.value.card ≠ 0 := by
      intro h
      simp [SortedSet.card_eq_zero.mp h id] at he
    simp only [expire, if_neg hcard, Option.some.injEq] at hdeadline
    have := hbounded id e he
    omega

theorem expiry_le_ttl (expiry now : ℤ) : expiry ≤ now + ttl expiry now * 1000 := by
  have hceil := Int.le_ceil (((expiry - now : ℤ) : ℚ) / 1000)
  rw [div_le_iff₀ (by norm_num)] at hceil
  have hceil : expiry - now ≤ ⌈((expiry - now : ℤ) : ℚ) / 1000⌉ * 1000 := by exact_mod_cast hceil
  unfold ttl
  omega

/-- `ZADD`, `HSET` and `EXPIRE` of an admission. -/
def admitted (c : Cell) (now expiry : ℤ) (id : String) (weight : ℤ) : Cell :=
  ((c.zadd now expiry id).hset now id weight).expire now (ttl expiry now)

/-- `ZADD` and `EXPIRE` of a renewal. -/
def renewed (c : Cell) (now expiry : ℤ) (id : String) : Cell :=
  (c.zadd now expiry id).expire now (ttl expiry now)

theorem zadd_read (score : ℤ) : (c.zadd now score id).read now = c.zadd now score id :=
  (c.fresh_zadd now score id).read_eq

theorem hset_read : (c.hset now id weight).read now = c.hset now id weight :=
  (c.fresh_hset now id weight).read_eq

theorem score_zadd : (c.zadd now score id).expiry.value.score id' =
    if id' = id then some score else (c.read now).expiry.value.score id' := by
  by_cases hid : id' = id
  · simp [zadd, hid]
  · simp [zadd, hid, SortedSet.score_zadd_of_ne _ score hid]

@[simp] theorem weights_zadd : (c.zadd now score id).weights = (c.read now).weights := rfl

theorem score_admitted : (c.admitted now expiry id weight).expiry.value.score id' =
    if id' = id then some expiry else (c.read now).expiry.value.score id' := by
  rw [admitted, score_expire, hset_read]
  simp only [hset, zadd_read, score_zadd]

theorem hget_admitted : (c.admitted now expiry id weight).weights.value.hget id' =
    if id' = id then some weight else (c.read now).weights.value.hget id' := by
  rw [admitted, hget_expire, hset_read]
  simp only [hset, zadd_read, weights_zadd, Hash.hget_hset]

theorem score_renewed : (c.renewed now expiry id).expiry.value.score id' =
    if id' = id then some expiry else (c.read now).expiry.value.score id' := by
  rw [renewed, score_expire, zadd_read, score_zadd]

theorem hget_renewed : (c.renewed now expiry id).weights.value.hget id' =
    (c.read now).weights.value.hget id' := by
  rw [renewed, hget_expire, zadd_read, weights_zadd]

theorem Sound.admitted (h : c.Sound horizon) (hle : horizon ≤ expiry) :
    (c.admitted now expiry id weight).Sound expiry := by
  have hread := h.read now
  apply expire_sound
  · intro id'
    rw [hset_read]
    simp only [hset, zadd_read, score_zadd, weights_zadd, Hash.hget_hset]
    by_cases hid : id' = id
    · simp [hid]
    · simpa [hid] using hread.paired id'
  · intro id' e he
    rw [hset_read] at he
    simp only [hset, zadd_read, score_zadd] at he
    by_cases hid : id' = id
    · simp only [hid, if_true, Option.some.injEq] at he
      omega
    · exact (hread.bounded id' e (by simpa [hid] using he)).trans hle
  · exact expiry_le_ttl expiry now

theorem Sound.renewed (h : c.Sound horizon) (hle : horizon ≤ expiry)
    (hheld : ∃ w, (c.read now).weights.value.hget id = some w) :
    (c.renewed now expiry id).Sound expiry := by
  have hread := h.read now
  apply expire_sound
  · intro id'
    rw [zadd_read, score_zadd, weights_zadd]
    by_cases hid : id' = id
    · simpa [hid] using hheld
    · simpa [hid] using hread.paired id'
  · intro id' e he
    rw [zadd_read, score_zadd] at he
    by_cases hid : id' = id
    · simp only [hid, if_true, Option.some.injEq] at he
      omega
    · exact (hread.bounded id' e (by simpa [hid] using he)).trans hle
  · exact expiry_le_ttl expiry now

theorem Sound.holds_admitted (h : c.Sound horizon) {e w : ℤ} (hlive : now < e) :
    (c.admitted now expiry id weight).Holds id' e w ↔
      id' = id ∧ e = expiry ∧ w = weight ∨ id' ≠ id ∧ c.Holds id' e w := by
  rw [← h.holds_read hlive]
  unfold Holds
  rw [score_admitted, hget_admitted]
  by_cases hid : id' = id
  · simp [hid, eq_comm]
  · simp [hid]

theorem Sound.holds_renewed (h : c.Sound horizon) {e w held : ℤ} (hlive : now < e)
    (hheld : (c.read now).weights.value.hget id = some held) :
    (c.renewed now expiry id).Holds id' e w ↔
      id' = id ∧ e = expiry ∧ w = held ∨ id' ≠ id ∧ c.Holds id' e w := by
  rw [← h.holds_read hlive]
  unfold Holds
  rw [score_renewed, hget_renewed]
  by_cases hid : id' = id
  · simp [hid, hheld, eq_comm]
  · simp [hid]

theorem Sound.held_eq_some (h : c.Sound horizon) :
    c.held now id = some weight ↔ ∃ e, now < e ∧ c.Holds id e weight := by
  unfold held zscore hget
  constructor
  · intro hheld
    split at hheld
    · rename_i e w hscore hweight
      split at hheld
      · simp at hheld
      · rename_i hlive
        cases hheld
        exact ⟨e, by omega, (h.holds_read (by omega)).mp ⟨hscore, hweight⟩⟩
    · simp at hheld
  · rintro ⟨e, hlive, hholds⟩
    obtain ⟨hscore, hweight⟩ := (h.holds_read hlive).mpr hholds
    simp only [hscore, hweight]
    rw [if_neg (by omega)]

end Cell

/-! ## The scripts -/

def covers (actorKey : Option String) (scope : Scope) : Bool :=
  scope = .allLeases ∨ actorKey.isSome ∧ scope = actorScope actorKey

theorem actorScope_ne (actorKey : Option String) : actorScope actorKey ≠ .allLeases := by
  cases actorKey <;> simp [actorScope]

@[simp] theorem covers_allLeases (actorKey : Option String) : covers actorKey .allLeases = true := by
  simp [covers]

section Scripts

variable {s : Keyspace} {actorKey : Option String} {now expiry weight globalLimit actorLimit : ℤ}
  {id : String} {scope : Scope}

/-- Both scopes of a lease are changed alike. -/
theorem update_covers (s : Keyspace) (actorKey : Option String) (scope : Scope) (f : Cell → Cell) :
    (if actorKey.isSome then (s.update .allLeases f).update (actorScope actorKey) f
      else s.update .allLeases f) scope = if covers actorKey scope then f (s scope) else s scope := by
  have hne := actorScope_ne actorKey
  unfold Keyspace.update covers
  by_cases hactor : actorKey.isSome
  · by_cases hscope : scope = actorScope actorKey
    · subst hscope
      simp [hactor, hne]
    · by_cases hall : scope = .allLeases
      · subst hall
        simp [hactor, Function.update_of_ne hscope]
      · simp [hactor, hscope, hall]
  · by_cases hall : scope = .allLeases
    · subst hall
      simp [hactor]
    · simp [hactor, hall]

theorem removeLease_apply : removeLease (actorScope actorKey) now id actorKey.isSome s scope =
    if covers actorKey scope then (s scope).remove now id else s scope :=
  update_covers s actorKey scope fun c => c.remove now id

/-- The total of a scope after its cleanup. -/
def used (s : Keyspace) (scope : Scope) (now : ℤ) : ℤ := ((s scope).cleanup now).total now

theorem reserveScript_global (h : used s .allLeases now + weight > globalLimit) :
    reserveScript (actorScope actorKey) now expiry weight globalLimit actorLimit id
      actorKey.isSome s =
      ((0, used s .allLeases now, 0, 1), s.update .allLeases fun c => c.cleanup now) := by
  have hcell : (s.update .allLeases fun c => c.cleanup now) .allLeases =
      (s .allLeases).cleanup now := by simp [Keyspace.update]
  unfold used at h ⊢
  unfold reserveScript
  simp only [hcell, if_pos h]

theorem reserveScript_actor (hglobal : ¬ used s .allLeases now + weight > globalLimit)
    (hactor : actorKey.isSome = true)
    (h : used s (actorScope actorKey) now + weight > actorLimit) :
    reserveScript (actorScope actorKey) now expiry weight globalLimit actorLimit id
      actorKey.isSome s =
      ((0, used s .allLeases now, used s (actorScope actorKey) now, 2),
        (s.update .allLeases fun c => c.cleanup now).update (actorScope actorKey)
          fun c => c.cleanup now) := by
  have hcell : (s.update .allLeases fun c => c.cleanup now) .allLeases =
      (s .allLeases).cleanup now := by simp [Keyspace.update]
  have hother : ((s.update .allLeases fun c => c.cleanup now).update (actorScope actorKey)
      fun c => c.cleanup now) (actorScope actorKey) = (s (actorScope actorKey)).cleanup now := by
    simp [Keyspace.update, actorScope_ne]
  unfold used at hglobal h ⊢
  unfold reserveScript
  simp only [hcell, if_neg hglobal, hactor, if_true, hother, true_and, if_pos h]

/-- What an admission leaves of the scopes of its lease. -/
theorem reserveScript_admitted (expiry : ℤ) (hglobal : ¬ used s .allLeases now + weight > globalLimit)
    (h : ¬ (actorKey.isSome = true ∧ used s (actorScope actorKey) now + weight > actorLimit)) :
    ∃ globalUsed actorUsed after,
      reserveScript (actorScope actorKey) now expiry weight globalLimit actorLimit id
        actorKey.isSome s = ((1, globalUsed, actorUsed, 0), after) ∧
      ∀ scope, after scope = if covers actorKey scope
        then ((s scope).cleanup now).admitted now expiry id weight else s scope := by
  have hcell : (s.update .allLeases fun c => c.cleanup now) .allLeases =
      (s .allLeases).cleanup now := by simp [Keyspace.update]
  have hne := actorScope_ne actorKey
  unfold used at hglobal h
  unfold reserveScript
  simp only [hcell, if_neg hglobal]
  by_cases hactor : actorKey.isSome = true
  · have hother : ((s.update .allLeases fun c => c.cleanup now).update (actorScope actorKey)
        fun c => c.cleanup now) (actorScope actorKey) = (s (actorScope actorKey)).cleanup now := by
      simp [Keyspace.update, hne]
    simp only [hactor, true_and] at h
    simp only [hactor, if_true, true_and, hother, if_neg h]
    refine ⟨_, _, _, rfl, ?_⟩
    intro scope
    have hboth := update_covers s actorKey scope
      fun c => (c.cleanup now).admitted now expiry id weight
    rw [← hboth, if_pos hactor]
    unfold Keyspace.update Cell.admitted
    by_cases hscope : scope = actorScope actorKey
    · subst hscope
      simp [hne]
    · by_cases hall : scope = .allLeases
      · subst hall
        simp [Function.update_of_ne hscope]
      · simp [Function.update_of_ne hscope, Function.update_of_ne hall]
  · simp only [hactor, Bool.false_eq_true, if_false, false_and]
    refine ⟨_, _, _, rfl, ?_⟩
    intro scope
    have hboth := update_covers s actorKey scope
      fun c => (c.cleanup now).admitted now expiry id weight
    rw [← hboth, if_neg hactor]
    unfold Keyspace.update Cell.admitted
    by_cases hall : scope = .allLeases
    · subst hall
      simp
    · simp [Function.update_of_ne hall]

theorem renewScript_missing (h : (s .allLeases).held now id = none) :
    renewScript (actorScope actorKey) now expiry id actorKey.isSome s =
      (0, removeLease (actorScope actorKey) now id actorKey.isSome s) := by
  simp [renewScript, h]

theorem renewScript_held (actorKey : Option String) (expiry : ℤ)
    (hglobal : (s .allLeases).held now id = some weight)
    (hactor : actorKey.isSome → (s (actorScope actorKey)).held now id = some weight) :
    ∃ after, renewScript (actorScope actorKey) now expiry id actorKey.isSome s = (1, after) ∧
      ∀ scope, after scope = if covers actorKey scope then (s scope).renewed now expiry id
        else s scope := by
  have hboth := fun scope => update_covers s actorKey scope
    fun c => c.renewed now expiry id
  by_cases hsome : actorKey.isSome = true
  · rw [hsome]
    simp only [if_pos hsome] at hboth
    simp only [renewScript, hglobal, hactor hsome, if_true, ne_eq, not_true_eq_false, if_false]
    exact ⟨_, rfl, hboth⟩
  · rw [Bool.not_eq_true] at hsome
    rw [hsome]
    simp only [hsome, Bool.false_eq_true, if_false] at hboth
    simp only [renewScript, hglobal, Bool.false_eq_true, if_false]
    exact ⟨_, rfl, hboth⟩

theorem renewScript_other (hglobal : (s .allLeases).held now id = some weight)
    (hactor : ¬ (actorKey.isSome → (s (actorScope actorKey)).held now id = some weight)) :
    renewScript (actorScope actorKey) now expiry id actorKey.isSome s =
      (0, removeLease (actorScope actorKey) now id actorKey.isSome s) := by
  rw [Classical.not_imp] at hactor
  obtain ⟨hsome, hother⟩ := hactor
  rw [hsome]
  unfold renewScript
  simp only [hglobal, if_true]
  cases hheld : (s (actorScope actorKey)).held now id with
  | none => rfl
  | some actorWeight =>
    have hne : actorWeight ≠ weight := by
      intro heq
      exact hother (heq ▸ hheld)
    simp only [if_pos hne]

end Scripts

end Capacity.Runtime

end MaestroKernel
