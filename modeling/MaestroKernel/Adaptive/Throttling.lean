import MaestroKernel.Adaptive.Approval

/-! # What the throttle suppresses

A mutating command is held back when its action was seen on its subject less than the cooldown ago.
The commands of the list itself are seen when they are allowed and mutate something; the results
that were recorded before are seen whatever became of their commands. -/

namespace MaestroKernel.Adaptive

open Workflow

variable {F : Type} [Number F]

/-- `runtime_command_throttle_plan`, over the results that are recorded of the workflow. -/
def Control.runtimeCommandThrottlePlan (workflowId : String) (commands : List (RuntimeCommand F))
    (cooldownSeconds now : ℚ) (σ : Control F) : RuntimeCommandThrottlePlan :=
  planRuntimeCommandThrottle workflowId commands (σ.results workflowId) cooldownSeconds now []

section Repeats

omit [Number F]

/-- The key that a command is looked up under. -/
def RuntimeCommand.throttleKey (command : RuntimeCommand F) : MaestroAction × String :=
  (command.action, command.subject)

def RuntimeCommandResult.throttleKey (result : RuntimeCommandResult F) : MaestroAction × String :=
  (result.action, result.subject)

/-- The command may be throttled: it mutates something, and its action is not protected. -/
structure RuntimeCommand.Limited (command : RuntimeCommand F) : Prop where
  mutating : command.dryRun = false
  unprotected : command.action ∉ [MaestroAction.escalate, .finalize]

/-- A command with this action and this subject was executed: the kernel emitted its event. -/
def RuntimeCommandResult.Executed (result : RuntimeCommandResult F)
    (key : MaestroAction × String) : Prop :=
  result.executed = true ∧
    ∃ event, result.eventPayload = .event event ∧ (event.action, event.subject) = key

/-- Less than the cooldown ago; a cooldown that is not positive is none. -/
def Within (cooldownSeconds now at' : ℚ) : Prop := 0 < cooldownSeconds ∧ now - at' < cooldownSeconds

/-- The throttle takes the result for a recent one: it is kept in the window, and its time, which
counts as zero when it is negative, is less than the cooldown ago. -/
def RuntimeCommandResult.Counted (result : RuntimeCommandResult F) (cooldownSeconds now : ℚ) :
    Prop :=
  now - result.createdAt ≤ cooldownSeconds ∧ now - max result.createdAt 0 < cooldownSeconds

end Repeats

/-- A command that may be throttled is suppressed exactly when one with its action and subject was
executed, or allowed before it in the list, less than the cooldown ago. -/
def SuppressesRepeats (σ : Control F) (workflowId : String) (commands : List (RuntimeCommand F))
    (cooldownSeconds now : ℚ) : Prop :=
  let plan := σ.runtimeCommandThrottlePlan workflowId commands cooldownSeconds now
  ∀ i command, commands[i]? = some command → command.Limited →
    (i ∈ plan.suppressedIndices ↔
      (∃ result ∈ σ.results workflowId, result.Executed command.throttleKey ∧
        Within cooldownSeconds now result.createdAt) ∨
      ∃ j < i, j ∈ plan.allowedIndices ∧ ∃ earlier, commands[j]? = some earlier ∧
        earlier.dryRun = false ∧ earlier.throttleKey = command.throttleKey ∧
        Within cooldownSeconds now now)

/-! ## The window -/

section Window

omit [Number F]

variable {protectedActions : List MaestroAction} {cooldownSeconds now : ℚ} {seen : LastSeen}
  {recent : List (RuntimeCommandResult F)} {command : RuntimeCommand F}
  {commands : List (RuntimeCommand F)} {key : MaestroAction × String}

def Seen (cooldownSeconds now : ℚ) (seen : LastSeen) (key : MaestroAction × String) : Prop :=
  ∃ lastSeenAt, seen.lookup key = some lastSeenAt ∧ now - lastSeenAt < cooldownSeconds

theorem seen_iff : Seen cooldownSeconds now seen key ↔
    ((seen.lookup key).any fun lastSeenAt => now - lastSeenAt < cooldownSeconds) = true := by
  unfold Seen
  cases seen.lookup key with
  | none => simp
  | some lastSeenAt => simp

theorem not_seen_nil : ¬ Seen cooldownSeconds now [] key := by
  rintro ⟨lastSeenAt, hlookup, -⟩
  simp at hlookup

theorem seen_cons {other : MaestroAction × String} {at' : ℚ} :
    Seen cooldownSeconds now ((other, at') :: seen) key ↔
      if other = key then now - at' < cooldownSeconds else Seen cooldownSeconds now seen key := by
  unfold Seen
  by_cases h : other = key
  · subst h
    simp
  · have hbeq : (key == other) = false := beq_false_of_ne (Ne.symm h)
    rw [if_neg h, List.lookup_cons, hbeq]

/-- No time of the table is negative. -/
def Nonneg (seen : LastSeen) : Prop :=
  ∀ key lastSeenAt, seen.lookup key = some lastSeenAt → 0 ≤ lastSeenAt

theorem Nonneg.getD (h : Nonneg seen) (key : MaestroAction × String) :
    0 ≤ (seen.lookup key).getD 0 := by
  cases hlookup : seen.lookup key with
  | none => exact le_refl 0
  | some lastSeenAt => exact h key lastSeenAt hlookup

theorem Nonneg.cons {other : MaestroAction × String} {at' : ℚ} (h : Nonneg seen) (hat : 0 ≤ at') :
    Nonneg ((other, at') :: seen) := by
  intro key lastSeenAt hlookup
  rw [List.lookup_cons] at hlookup
  split at hlookup
  · obtain rfl := Option.some.inj hlookup
    exact hat
  · exact h key lastSeenAt hlookup

theorem sub_max_lt_iff {a b c d : ℚ} : c - max a b < d ↔ c - a < d ∨ c - b < d := by
  rw [sub_lt_comm, lt_max_iff, sub_lt_comm (b := a), sub_lt_comm (b := b)]

theorem recentlySeen_append (result : RuntimeCommandResult F) :
    recentlySeen (recent ++ [result]) cooldownSeconds now =
      if cooldownSeconds ≤ 0 ∨ now - result.createdAt ≤ cooldownSeconds then
        (result.throttleKey, max result.createdAt
          (((recentlySeen recent cooldownSeconds now).lookup result.throttleKey).getD 0)) ::
          recentlySeen recent cooldownSeconds now
      else recentlySeen recent cooldownSeconds now := by
  unfold recentlySeen
  rw [List.foldl_append]
  rfl

theorem nonneg_recentlySeen (recent : List (RuntimeCommandResult F)) (cooldownSeconds now : ℚ) :
    Nonneg (recentlySeen recent cooldownSeconds now) := by
  induction recent using List.reverseRecOn with
  | nil =>
    intro key lastSeenAt hlookup
    simp [recentlySeen] at hlookup
  | append_singleton recent result ih =>
    rw [recentlySeen_append]
    split
    · exact ih.cons (le_max_of_le_right (ih.getD result.throttleKey))
    · exact ih

theorem seen_max_iff (h : Nonneg seen) {at' : ℚ} :
    now - max at' ((seen.lookup key).getD 0) < cooldownSeconds ↔
      now - max at' 0 < cooldownSeconds ∨ Seen cooldownSeconds now seen key := by
  unfold Seen
  cases hlookup : seen.lookup key with
  | none => simp
  | some lastSeenAt =>
    have hnonneg : 0 ≤ lastSeenAt := h key lastSeenAt hlookup
    simp only [Option.getD_some, sub_max_lt_iff, Option.some.injEq, exists_eq_left']
    constructor
    · rintro (hat | hlast)
      · exact .inl (.inl hat)
      · exact .inr hlast
    · rintro ((hat | hzero) | hlast)
      · exact .inl hat
      · exact .inr (lt_of_le_of_lt (sub_le_sub_left hnonneg now) hzero)
      · exact .inr hlast

theorem seen_recentlySeen (hcooldown : 0 < cooldownSeconds) :
    Seen cooldownSeconds now (recentlySeen recent cooldownSeconds now) key ↔
      ∃ result ∈ recent, result.throttleKey = key ∧ result.Counted cooldownSeconds now := by
  induction recent using List.reverseRecOn with
  | nil =>
    refine iff_of_false not_seen_nil ?_
    simp
  | append_singleton recent result ih =>
    have hsplit : (∃ r ∈ recent ++ [result], r.throttleKey = key ∧
          r.Counted cooldownSeconds now) ↔
        (∃ r ∈ recent, r.throttleKey = key ∧ r.Counted cooldownSeconds now) ∨
          result.throttleKey = key ∧ result.Counted cooldownSeconds now := by
      simp only [List.mem_append, List.mem_singleton, or_and_right, exists_or, exists_eq_left]
    rw [hsplit, recentlySeen_append, ← ih]
    by_cases hwindow : now - result.createdAt ≤ cooldownSeconds
    · rw [if_pos (.inr hwindow), seen_cons]
      by_cases hkey : result.throttleKey = key
      · subst hkey
        rw [if_pos rfl, seen_max_iff (nonneg_recentlySeen recent cooldownSeconds now), or_comm]
        simp only [RuntimeCommandResult.Counted, hwindow, true_and]
      · rw [if_neg hkey]
        simp only [hkey, false_and, or_false]
    · have hclosed : ¬ (cooldownSeconds ≤ 0 ∨ now - result.createdAt ≤ cooldownSeconds) := by
        rintro (h | h)
        · exact absurd hcooldown (not_lt_of_ge h)
        · exact hwindow h
      rw [if_neg hclosed]
      simp only [RuntimeCommandResult.Counted, hwindow, false_and, and_false, or_false]

/-! ## The commands of the list -/

theorem seen_throttleCommand (hcooldown : 0 < cooldownSeconds) (index : ℕ)
    (command : RuntimeCommand F) (seen : LastSeen) :
    Seen cooldownSeconds now
        (throttleCommand protectedActions cooldownSeconds now index command seen).2 key ↔
      Seen cooldownSeconds now seen key ∨
        command.dryRun = false ∧ command.throttleKey = key := by
  have hallowed : Seen cooldownSeconds now ((command.throttleKey, now) :: seen) key ↔
      Seen cooldownSeconds now seen key ∨ command.throttleKey = key := by
    rw [seen_cons]
    by_cases hkey : command.throttleKey = key
    · simp [hkey, hcooldown]
    · simp [hkey]
  unfold throttleCommand
  dsimp only
  cases hdry : command.dryRun with
  | true => simp
  | false =>
    simp only [Bool.false_eq_true, if_false, true_and]
    split
    · exact hallowed
    split
    · exact hallowed
    split
    · -- The command is suppressed: its key is in the window already.
      rename_i hseen
      constructor
      · exact .inl
      · rintro (h | rfl)
        · exact h
        · exact seen_iff.mpr hseen
    · exact hallowed

theorem throttleCommand_of_limited (hcooldown : 0 < cooldownSeconds) (h : command.Limited)
    (index : ℕ) (seen : LastSeen) :
    (throttleCommand [.escalate, .finalize] cooldownSeconds now index command seen).1.1 = false ↔
      Seen cooldownSeconds now seen command.throttleKey := by
  rw [seen_iff]
  unfold throttleCommand
  dsimp only
  rw [h.mutating, if_neg Bool.false_ne_true, if_neg h.unprotected, if_neg (not_le_of_gt hcooldown)]
  split
  · rename_i hseen
    exact iff_of_true rfl hseen
  · rename_i hseen
    exact iff_of_false (by simp) hseen

theorem throttleCommand_of_not_pos (hcooldown : ¬ 0 < cooldownSeconds) (index : ℕ)
    (command : RuntimeCommand F) (seen : LastSeen) :
    (throttleCommand protectedActions cooldownSeconds now index command seen).1.1 = true := by
  unfold throttleCommand
  dsimp only
  rw [if_pos (not_lt.mp hcooldown)]
  split
  · rfl
  split
  · rfl
  · rfl

/-- The verdict on each command, from what those before it leave. -/
theorem throttleCommands_getElem? (protectedActions : List MaestroAction)
    (cooldownSeconds now : ℚ) (index : ℕ) (commands : List (RuntimeCommand F)) (seen : LastSeen)
    (i : ℕ) :
    (throttleCommands protectedActions cooldownSeconds now index commands seen).1[i]? =
      commands[i]?.map fun command => (index + i,
        (throttleCommand protectedActions cooldownSeconds now (index + i) command
          (throttleCommands protectedActions cooldownSeconds now index (commands.take i) seen).2).1)
    := by
  induction commands generalizing index seen i with
  | nil => simp [throttleCommands]
  | cons command commands ih =>
    cases i with
    | zero => simp [throttleCommands]
    | succ i =>
      have hindex : index + (i + 1) = index + 1 + i := by omega
      simp only [throttleCommands, List.getElem?_cons_succ, List.take_succ_cons, ih, hindex]

theorem seen_throttleCommands (hcooldown : 0 < cooldownSeconds) (index : ℕ)
    (commands : List (RuntimeCommand F)) (seen : LastSeen) :
    Seen cooldownSeconds now
        (throttleCommands protectedActions cooldownSeconds now index commands seen).2 key ↔
      Seen cooldownSeconds now seen key ∨
        ∃ command ∈ commands, command.dryRun = false ∧ command.throttleKey = key := by
  induction commands generalizing index seen with
  | nil => simp [throttleCommands]
  | cons command commands ih =>
    simp only [throttleCommands, ih, seen_throttleCommand hcooldown, or_assoc, List.mem_cons,
      or_and_right, exists_or, exists_eq_left]

theorem RuntimeCommand.Limited.of_throttleKey {earlier : RuntimeCommand F}
    (h : command.Limited) (hmutating : earlier.dryRun = false)
    (hkey : earlier.throttleKey = command.throttleKey) : earlier.Limited where
  mutating := hmutating
  unprotected := by
    have haction : earlier.action = command.action := congrArg Prod.fst hkey
    rw [haction]
    exact h.unprotected

theorem exists_first {i : ℕ} (hcommand : commands[i]? = some command)
    (hmutating : command.dryRun = false) :
    ∃ j ≤ i, ∃ first, commands[j]? = some first ∧ first.dryRun = false ∧
      first.throttleKey = command.throttleKey ∧
      ¬ ∃ k < j, ∃ earlier, commands[k]? = some earlier ∧ earlier.dryRun = false ∧
        earlier.throttleKey = first.throttleKey := by
  induction i using Nat.strong_induction_on generalizing command with
  | _ i ih =>
    by_cases h : ∃ k < i, ∃ earlier, commands[k]? = some earlier ∧ earlier.dryRun = false ∧
        earlier.throttleKey = command.throttleKey
    · obtain ⟨k, hk, earlier, hearlier, hdry, hkey⟩ := h
      obtain ⟨j, hj, first, hfirst, hmutates, hsame, hnone⟩ := ih k hk hearlier hdry
      exact ⟨j, hj.trans hk.le, first, hfirst, hmutates, hsame.trans hkey, hnone⟩
    · exact ⟨i, le_refl i, command, hcommand, hmutating, rfl, h⟩

end Window

/-! ## The plan -/

section Plan

variable {σ : Control F} {workflowId : String} {commands : List (RuntimeCommand F)}
  {command : RuntimeCommand F} {cooldownSeconds now : ℚ} {i : ℕ}

/-- What the commands before this one leave in `last_seen_by_key`. -/
def seenBefore (σ : Control F) (workflowId : String) (commands : List (RuntimeCommand F))
    (cooldownSeconds now : ℚ) (i : ℕ) : LastSeen :=
  (throttleCommands [.escalate, .finalize] cooldownSeconds now 0 (commands.take i)
    (recentlySeen (σ.results workflowId) cooldownSeconds now)).2

def verdictOn (σ : Control F) (workflowId : String) (commands : List (RuntimeCommand F))
    (cooldownSeconds now : ℚ) (i : ℕ) (command : RuntimeCommand F) : Bool :=
  (throttleCommand [.escalate, .finalize] cooldownSeconds now i command
    (seenBefore σ workflowId commands cooldownSeconds now i)).1.1

omit [Number F] in
/-- A condition on the verdicts picks the indices of the commands whose verdicts meet it. -/
theorem mem_indices {protectedActions : List MaestroAction} {seen : LastSeen} {b : Bool}
    {p : ℕ × Bool × List String → Bool} (hp : ∀ v, p v = true ↔ v.2.1 = b) :
    i ∈ ((throttleCommands protectedActions cooldownSeconds now 0 commands seen).1.filter
        p).map Prod.fst ↔
      ∃ command, commands[i]? = some command ∧
        (throttleCommand protectedActions cooldownSeconds now i command
          (throttleCommands protectedActions cooldownSeconds now 0 (commands.take i) seen).2).1.1 =
            b := by
  simp only [List.mem_map, List.mem_filter]
  simp only [List.mem_iff_getElem?, throttleCommands_getElem?, Option.map_eq_some_iff,
    Nat.zero_add]
  constructor
  · rintro ⟨v, ⟨⟨k, command, hcommand, rfl⟩, hv⟩, rfl⟩
    exact ⟨command, hcommand, (hp _).mp hv⟩
  · rintro ⟨command, hcommand, hv⟩
    exact ⟨_, ⟨⟨i, command, hcommand, rfl⟩, (hp _).mpr hv⟩, rfl⟩

theorem mem_suppressedIndices :
    i ∈ (σ.runtimeCommandThrottlePlan workflowId commands cooldownSeconds now).suppressedIndices ↔
      ∃ command, commands[i]? = some command ∧
        verdictOn σ workflowId commands cooldownSeconds now i command = false :=
  mem_indices fun v => by simp

theorem mem_allowedIndices :
    i ∈ (σ.runtimeCommandThrottlePlan workflowId commands cooldownSeconds now).allowedIndices ↔
      ∃ command, commands[i]? = some command ∧
        verdictOn σ workflowId commands cooldownSeconds now i command = true :=
  mem_indices fun v => by simp

/-- A result that counts is recorded under the key. -/
def SeenRecorded (σ : Control F) (workflowId : String) (cooldownSeconds now : ℚ)
    (key : MaestroAction × String) : Prop :=
  ∃ result ∈ σ.results workflowId, result.throttleKey = key ∧ result.Counted cooldownSeconds now

theorem suppressed_iff (hcooldown : 0 < cooldownSeconds) (hcommand : commands[i]? = some command)
    (hlimited : command.Limited) :
    i ∈ (σ.runtimeCommandThrottlePlan workflowId commands cooldownSeconds now).suppressedIndices ↔
      SeenRecorded σ workflowId cooldownSeconds now command.throttleKey ∨
        ∃ j < i, ∃ earlier, commands[j]? = some earlier ∧ earlier.dryRun = false ∧
          earlier.throttleKey = command.throttleKey := by
  have hbefore : (∃ earlier ∈ commands.take i, earlier.dryRun = false ∧
        earlier.throttleKey = command.throttleKey) ↔
      ∃ j < i, ∃ earlier, commands[j]? = some earlier ∧ earlier.dryRun = false ∧
        earlier.throttleKey = command.throttleKey := by
    simp only [List.mem_iff_getElem?, List.getElem?_take]
    constructor
    · rintro ⟨earlier, ⟨j, hj⟩, hsame⟩
      split at hj
      · exact ⟨j, ‹_›, earlier, hj, hsame⟩
      · cases hj
    · rintro ⟨j, hlt, earlier, hj, hsame⟩
      exact ⟨earlier, ⟨j, by rw [if_pos hlt]; exact hj⟩, hsame⟩
  rw [mem_suppressedIndices, hcommand]
  simp only [Option.some.injEq, exists_eq_left']
  unfold verdictOn
  rw [throttleCommand_of_limited hcooldown hlimited]
  unfold seenBefore SeenRecorded
  rw [seen_throttleCommands hcooldown, seen_recentlySeen hcooldown, hbefore]

/-- An execution less than the cooldown ago is recorded. -/
def RecentlyExecuted (σ : Control F) (workflowId : String) (cooldownSeconds now : ℚ)
    (key : MaestroAction × String) : Prop :=
  ∃ result ∈ σ.results workflowId, result.Executed key ∧
    now - result.createdAt < cooldownSeconds

theorem recentlyExecuted_iff (hcooldown : 0 < cooldownSeconds)
    {key : MaestroAction × String} :
    (∃ result ∈ σ.results workflowId, result.Executed key ∧
        Within cooldownSeconds now result.createdAt) ↔
      RecentlyExecuted σ workflowId cooldownSeconds now key := by
  simp only [Within, hcooldown, true_and, RecentlyExecuted]

theorem allowed_of_not_suppressed (hcommand : commands[i]? = some command)
    (h : i ∉ (σ.runtimeCommandThrottlePlan workflowId commands cooldownSeconds
      now).suppressedIndices) :
    i ∈ (σ.runtimeCommandThrottlePlan workflowId commands cooldownSeconds now).allowedIndices := by
  rw [mem_suppressedIndices, hcommand] at h
  rw [mem_allowedIndices, hcommand]
  simpa using h

theorem not_suppressed_of_not_pos (hcooldown : ¬ 0 < cooldownSeconds) :
    i ∉ (σ.runtimeCommandThrottlePlan workflowId commands cooldownSeconds
      now).suppressedIndices := by
  intro h
  obtain ⟨command, -, hverdict⟩ := mem_suppressedIndices.mp h
  unfold verdictOn at hverdict
  rw [throttleCommand_of_not_pos hcooldown] at hverdict
  cases hverdict

theorem suppressed_first_iff (hcooldown : 0 < cooldownSeconds)
    (hcommand : commands[i]? = some command) (hlimited : command.Limited)
    (hfirst : ¬ ∃ k < i, ∃ earlier, commands[k]? = some earlier ∧ earlier.dryRun = false ∧
      earlier.throttleKey = command.throttleKey) :
    i ∈ (σ.runtimeCommandThrottlePlan workflowId commands cooldownSeconds now).suppressedIndices ↔
      SeenRecorded σ workflowId cooldownSeconds now command.throttleKey := by
  rw [suppressed_iff hcooldown hcommand hlimited, or_iff_left hfirst]

end Plan

/-- The plan suppresses real repeats, and nothing else, if and only if, for every command of the
list that may be throttled, a result that counts is recorded exactly when an execution is that is
less than the cooldown ago. -/
theorem throttles_only_repeats_iff (σ : Control F) (workflowId : String)
    (commands : List (RuntimeCommand F)) (cooldownSeconds now : ℚ) :
    SuppressesRepeats σ workflowId commands cooldownSeconds now ↔
      (0 < cooldownSeconds → ∀ command ∈ commands, command.Limited →
        (SeenRecorded σ workflowId cooldownSeconds now command.throttleKey ↔
          RecentlyExecuted σ workflowId cooldownSeconds now command.throttleKey)) := by
  by_cases hcooldown : 0 < cooldownSeconds
  · simp only [hcooldown, true_imp_iff]
    constructor
    · intro h command hmem hlimited
      obtain ⟨i, hcommand⟩ := List.mem_iff_getElem?.mp hmem
      obtain ⟨j, -, first, hfirst, hmutating, hkey, hnone⟩ :=
        exists_first hcommand hlimited.mutating
      have hlimited' : first.Limited := hlimited.of_throttleKey hmutating hkey
      have hspec := h j first hfirst hlimited'
      rw [suppressed_first_iff hcooldown hfirst hlimited' hnone,
        recentlyExecuted_iff hcooldown, hkey] at hspec
      rw [hspec]
      refine or_iff_left ?_
      rintro ⟨k, hk, -, earlier, hearlier, hdry, hsame, -⟩
      exact hnone ⟨k, hk, earlier, hearlier, hdry, hsame.trans hkey.symm⟩
    · intro h i command hcommand hlimited
      have hrecorded := h command (List.mem_of_getElem? hcommand) hlimited
      rw [suppressed_iff hcooldown hcommand hlimited, recentlyExecuted_iff hcooldown,
        hrecorded]
      constructor
      · rintro (hexecuted | ⟨j, hj, earlier, hearlier, hdry, hsame⟩)
        · exact .inl hexecuted
        · -- The first command of the key is allowed, or a recorded result suppresses it.
          obtain ⟨k, hk, first, hfirst, hmutating, hkey, hnone⟩ := exists_first hearlier hdry
          have hlimited' : first.Limited := hlimited.of_throttleKey hmutating (hkey.trans hsame)
          by_cases hsuppressed : k ∈ (σ.runtimeCommandThrottlePlan workflowId commands
              cooldownSeconds now).suppressedIndices
          · rw [suppressed_first_iff hcooldown hfirst hlimited' hnone, hkey, hsame] at hsuppressed
            exact .inl (hrecorded.mp hsuppressed)
          · refine .inr ⟨k, lt_of_le_of_lt hk hj, allowed_of_not_suppressed hfirst hsuppressed,
              first, hfirst, hmutating, hkey.trans hsame, hcooldown, ?_⟩
            rw [sub_self]
            exact hcooldown
      · rintro (hexecuted | ⟨j, hj, -, earlier, hearlier, hdry, hsame, -⟩)
        · exact .inl hexecuted
        · exact .inr ⟨j, hj, earlier, hearlier, hdry, hsame⟩
  · refine iff_of_true ?_ fun h => absurd h hcooldown
    intro i command hcommand hlimited
    refine iff_of_false (not_suppressed_of_not_pos hcooldown) ?_
    rintro (⟨result, -, -, hpos, -⟩ | ⟨j, -, -, earlier, -, -, -, hpos, -⟩)
    · exact hcooldown hpos
    · exact hcooldown hpos

namespace Throttled

open Rerouted (environment)

def report : CheckpointReport ℚ where
  workflowId := "w"
  kind := .hourly
  checkpointNumber := 1
  policyName := .balanced
  policyVersion := "balanced-1.0.0"
  workflowStatus :=
    { workflowState := .running
      workflowPsi := 0
      workflowTrend := 0
      completionProgress := 0
      failedSteps := 0
      runningSteps := 1
      stepCount := 1 }
  agentFindings := []
  handoffFindings := []
  risks := []
  recommendedAction := .pause
  confidence := 0
  createdAt := 100

def evidence (now : ℚ) : Evidence ℚ := { Rerouted.evidence with now }

/-- The pause is tried out. -/
def tried : List (ApprovalAct ℚ) := [.execute (evidence 100) { report }]

/-- The pause is meant. -/
def meant : Recommendation ℚ :=
  { report, dryRun := false, autoExecute := true, throttleCooldownSeconds := 60 }

/-- Without the dry run the pause is executed. -/
example : ((Control.run environment []).executeRecommendation environment (evidence 101)
    meant).1.executed = true := by
  decide +kernel

/-- The dry run of a pause suppresses the pause itself, one second later. -/
theorem dry_run_suppresses : ¬ ∀ (acts : List (ApprovalAct ℚ)) (workflowId : String)
    (commands : List (RuntimeCommand ℚ)) (cooldownSeconds now : ℚ),
    SuppressesRepeats (Control.run environment acts) workflowId commands cooldownSeconds now := by
  intro h
  have hlimited : (Control.command meant).Limited := ⟨rfl, by decide⟩
  have hsuppressed : 0 ∈ ((Control.run environment tried).runtimeCommandThrottlePlan "w"
      [Control.command meant] 60 101).suppressedIndices := by
    decide +kernel
  have hunexecuted : ∀ result ∈ (Control.run environment tried).results "w",
      result.executed = false := by
    decide +kernel
  rcases (h tried "w" [Control.command meant] 60 101 0 _ rfl hlimited).mp hsuppressed with
    ⟨result, hresult, hexecuted, -⟩ | ⟨j, hj, -⟩
  · exact absurd (hexecuted.1.symm.trans (hunexecuted result hresult)) (by simp)
  · exact absurd hj j.not_lt_zero

end Throttled

end MaestroKernel.Adaptive
