import MaestroKernel.Gateway.FailClosed
import MaestroKernel.Library.Histories

/-! # Runs of the gateway

The registry over any sequence of evaluations and manual state changes: how agents that fail leave
service, and how rehabilitation ends. -/

namespace MaestroKernel.Gateway

open Checked Histories

inductive Event (env : Platform) where
  | evaluate (clock : Clock) (a : Analysis) (r : Request env)
  | changeState (newState : AgentState) (reason now : String)

namespace Event

variable {env : Platform}

/-- The agent after an event; an evaluation that raises has not changed it. -/
def apply (agent : Agent ℚ QualificationPayload) : Event env → Agent ℚ QualificationPayload
  | evaluate clock a r =>
    match agent.evaluate clock a r with
    | .ok (_, agent') => agent'
    | .error _ => agent
  | changeState newState reason now => agent.changeState newState reason now

def answer (agent : Agent ℚ QualificationPayload) : Event env → Option GatewayAction
  | evaluate clock a r => (agent.evaluate clock a r).toOption.map (·.1.action)
  | changeState _ _ _ => none

def isManual : Event env → Bool
  | evaluate _ _ _ => false
  | changeState _ _ _ => true

end Event

section Runs

variable {env : Platform}

def Agent.run (agent : Agent ℚ QualificationPayload) (events : List (Event env)) :
    Agent ℚ QualificationPayload :=
  after Event.apply agent events

def Agent.answers : Agent ℚ QualificationPayload → List (Event env) → List GatewayAction
  | _, [] => []
  | agent, event :: events => (event.answer agent).toList ++ (event.apply agent).answers events

/-- The agents in the order of their registration. -/
abbrev Registry := List (Agent ℚ QualificationPayload)

def Registry.get (registry : Registry) (agentId : String) : Option (Agent ℚ QualificationPayload) :=
  Table.get? Agent.agentId registry agentId

/-- An agent that is not found is not evaluated, and its state is not changed. -/
def Registry.perform (registry : Registry) (call : String × Event env) : Registry :=
  match registry.get call.1 with
  | none => registry
  | some agent => Table.put Agent.agentId registry (call.2.apply agent)

def Registry.run (registry : Registry) (calls : List (String × Event env)) : Registry :=
  after Registry.perform registry calls

def own (agentId : String) (calls : List (String × Event env)) : List (Event env) :=
  calls.filterMap fun call => if call.1 = agentId then some call.2 else none

variable {agent agent' : Agent ℚ QualificationPayload} {clock : Clock} {a : Analysis}
  {r : Request env} {d : GatewayDecision QualificationPayload} {event : Event env}
  {registry : Registry} {agentId : String}

theorem evaluate_agent (havailable : agent.available = true)
    (h : agent.evaluate clock a r = .ok (d, agent')) :
    ∃ decision payload, decision.action = d.action ∧
      decision = decisionOf agent a r (r.verification clock.evaluated)
        (r.issues clock.evaluated) ∧
      agent' = applyLifecycle env clock (recordedAgent env clock agent decision
        (recordOf env clock a r decision payload)) := by
  simp only [Agent.evaluate, havailable, Bool.true_eq_false, if_false, bind_ok, pure_ok,
    Prod.mk.injEq] at h
  obtain ⟨_, -, bindingIssues, hbinding, runtimeIssues, hruntime, rfl, rfl⟩ := h
  have hissues : r.issues clock.evaluated = runtimeIssues := toOption_getD hruntime
  have hverification : r.verification clock.evaluated =
      r.effectiveVerification bindingIssues runtimeIssues := by
    rw [Request.verification, toOption_getD hbinding, toOption_getD hruntime]
  rw [hissues, hverification]
  refine ⟨decisionOf agent a r (r.effectiveVerification bindingIssues runtimeIssues) runtimeIssues,
    payloadOf (envelopeOf agent a r (r.effectiveVerification bindingIssues runtimeIssues))
      (decisionOf agent a r (r.effectiveVerification bindingIssues runtimeIssues)
        runtimeIssues).governanceGate r bindingIssues runtimeIssues, ?_, rfl, ?_⟩
  · rfl
  · rfl

theorem evaluate_unavailable (havailable : agent.available = false)
    (h : agent.evaluate clock a r = .ok (d, agent')) : agent' = agent := by
  simp only [Agent.evaluate, havailable, if_true] at h
  exact (Prod.mk.inj (Except.ok.inj h)).2.symm

/-! ## A failed evaluation -/

def Agent.rewarded (agent : Agent ℚ QualificationPayload) (reward : ℚ) :
    Agent ℚ QualificationPayload :=
  { agent with performanceWindow := agent.performanceWindow ++ [reward] }

/-- The gates pass, and the decision takes the agent out of service. -/
def Removed (agent : Agent ℚ QualificationPayload) (clock : Clock) (a : Analysis)
    (r : Request env) : Prop :=
  (firstFailedGate a.scores = none ∧ missesScope agent.tags r.context = false ∧
    missesEvidence r (r.verification clock.evaluated) (r.issues clock.evaluated) = false) ∧
  (a.rank = "extinct" ∧ 3 / 10 ≤ hallucination a a.scores ∨ 3 ≤ agent.consecutiveFailures)

instance (agent : Agent ℚ QualificationPayload) (clock : Clock) (a : Analysis) (r : Request env) :
    Decidable (Removed agent clock a r) :=
  inferInstanceAs (Decidable (_ ∧ _))

theorem hallucination_policySignals {feedback : Signals} {misses lacks : Bool}
    (h : ∀ signal ∈ feedback, signal.1 ∈ feedbackNames) :
    hallucination a (policySignals a.scores feedback misses lacks) =
      hallucination a a.scores := by
  have hfeedback : feedback.lookup "hallucination" = none :=
    lookup_eq_none fun signal hmem heq =>
      absurd (heq ▸ h signal hmem : "hallucination" ∈ feedbackNames) (by decide)
  have hmissing : "hallucination" ≠ "missing_required_evidence" := by decide
  have hauthorization : "hallucination" ≠ "authorization_failure" := by decide
  simp only [hallucination, policySignals]
  cases lacks with
  | true =>
    cases misses with
    | true =>
      rw [if_pos rfl, if_pos rfl, List.singleton_append, List.cons_append,
        List.singleton_append, get_cons_of_ne hmissing, get_cons_of_ne hauthorization,
        get_append_of_none hfeedback]
    | false =>
      rw [if_pos rfl, if_neg Bool.false_ne_true, List.append_nil, List.singleton_append,
        get_cons_of_ne hmissing, get_append_of_none hfeedback]
  | false =>
    cases misses with
    | true =>
      rw [if_pos rfl, if_neg Bool.false_ne_true, List.nil_append, List.singleton_append,
        get_cons_of_ne hauthorization, get_append_of_none hfeedback]
    | false =>
      rw [if_neg Bool.false_ne_true, if_neg Bool.false_ne_true, List.nil_append,
        List.nil_append, get_append_of_none hfeedback]

theorem decisionOf_agentState :
    (decisionOf agent a r (r.verification clock.evaluated)
        (r.issues clock.evaluated)).agentState =
      if ¬ (firstFailedGate a.scores = none ∧ missesScope agent.tags r.context = false ∧
        missesEvidence r (r.verification clock.evaluated) (r.issues clock.evaluated) = false) then
        .active
      else if a.rank = "extinct" ∧ 3 / 10 ≤ hallucination a a.scores then .frozen
      else if 3 ≤ agent.consecutiveFailures then .escalated
      else .active := by
  have hnames : ∀ signal ∈ (envelopeOf agent a r
      (r.verification clock.evaluated)).feedbackSignals, signal.1 ∈ feedbackNames :=
    fun signal => feedback_names
  simp only [decisionOf, decide_agentState, hallucination_policySignals hnames, ne_eq,
    firstFailedGate_policySignals hnames]

theorem decisionOf_removed (h : Removed agent clock a r) :
    (decisionOf agent a r (r.verification clock.evaluated)
        (r.issues clock.evaluated)).agentState = .frozen ∨
      (decisionOf agent a r (r.verification clock.evaluated)
        (r.issues clock.evaluated)).agentState = .escalated := by
  obtain ⟨hgates, hreason⟩ := h
  rw [decisionOf_agentState, if_neg (not_not.mpr hgates)]
  split
  · exact .inl rfl
  · rename_i hextinct
    rw [if_pos (hreason.resolve_left hextinct)]
    exact .inr rfl

theorem decisionOf_kept (h : ¬ Removed agent clock a r) :
    (decisionOf agent a r (r.verification clock.evaluated)
      (r.issues clock.evaluated)).agentState = .active := by
  rw [decisionOf_agentState]
  split
  · rfl
  · rename_i hgates
    have hpass := not_not.mp hgates
    rw [if_neg fun hextinct => h ⟨hpass, .inl hextinct⟩,
      if_neg fun hmany => h ⟨hpass, .inr hmany⟩]

section Recorded

variable {decision : GatewayDecision QualificationPayload}
  {record : EvaluationRecord ℚ QualificationPayload}

@[simp] theorem recordedAgent_agentId :
    (recordedAgent env clock agent decision record).agentId = agent.agentId := by
  unfold recordedAgent
  dsimp only
  split
  · simp
  · simp

@[simp] theorem recordedAgent_state :
    (recordedAgent env clock agent decision record).state = decision.agentState := by
  unfold recordedAgent
  dsimp only
  split
  · simp
  · rename_i h
    exact (not_not.mp h).symm

@[simp] theorem recordedAgent_evaluationHistory :
    (recordedAgent env clock agent decision record).evaluationHistory =
      agent.evaluationHistory ++ [record] := by
  unfold recordedAgent
  dsimp only
  split
  · simp
  · simp

@[simp] theorem recordedAgent_performanceWindow :
    (recordedAgent env clock agent decision record).performanceWindow =
      agent.performanceWindow ++ [record.reward] := by
  unfold recordedAgent
  dsimp only
  split
  · simp
  · simp

theorem recordedAgent_consecutiveFailures (h : decision.agentState = .active) :
    (recordedAgent env clock agent decision record).consecutiveFailures =
      if record.actionTaken.fails then agent.consecutiveFailures + 1 else 0 := by
  unfold recordedAgent
  dsimp only
  rw [h]
  split
  · simp [Agent.addEvaluation]
  · rfl

end Recorded

@[simp] theorem applyLifecycle_agentId :
    (applyLifecycle env clock agent).agentId = agent.agentId := by
  unfold applyLifecycle
  dsimp only
  split <;> simp

theorem applyLifecycle_of_state_ne (h : agent.state ≠ .active) :
    applyLifecycle env clock agent = agent := by
  have hnone : evaluateLifecycle agent = none := by
    rw [evaluateLifecycle, if_pos h]
  rw [applyLifecycle, hnone]

theorem applyLifecycle_active (h : agent.state = .active) :
    applyLifecycle env clock agent = agent ∧
        (agent.evaluationHistory.length < 3 ∨
          0 ≤ agent.averageReward ∧ agent.consecutiveFailures < 5) ∨
      ((applyLifecycle env clock agent).state = .frozen ∨
          (applyLifecycle env clock agent).state = .escalated) ∧
        3 ≤ agent.evaluationHistory.length ∧
        (agent.averageReward < 0 ∨ 5 ≤ agent.consecutiveFailures) ∨
      (applyLifecycle env clock agent).state = .rehabilitating ∧
        3 ≤ agent.evaluationHistory.length ∧ -1 / 2 ≤ agent.averageReward ∧
        agent.averageReward < 0 ∧ agent.consecutiveFailures < 5 ∧ agent.trend ≠ .declining := by
  unfold applyLifecycle evaluateLifecycle
  dsimp only
  rw [if_neg (not_not.mpr h)]
  split_ifs with hshort hlow hmany hdeclining hupgrade hrehabilitate
  · exact .inl ⟨rfl, .inl hshort⟩
  · refine .inr (.inl ⟨.inl (by simp), not_lt.mp hshort, .inl ?_⟩)
    linarith
  · exact .inr (.inl ⟨.inl (by simp), not_lt.mp hshort, .inr hmany⟩)
  · exact .inr (.inl ⟨.inr (by simp), not_lt.mp hshort, .inl hdeclining.2⟩)
  · refine .inl ⟨rfl, .inr ⟨?_, not_le.mp hmany⟩⟩
    linarith [hupgrade.1]
  · exact .inr (.inr ⟨by simp, not_lt.mp hshort, not_lt.mp hlow, hrehabilitate, not_le.mp hmany,
      fun htrend => hdeclining ⟨htrend, hrehabilitate⟩⟩)
  · exact .inl ⟨rfl, .inr ⟨not_lt.mp hrehabilitate, not_le.mp hmany⟩⟩

/-- An evaluation that fails takes the agent out of service, or leaves the lifecycle engine an active
agent with one more failure. -/
theorem failed_evaluation (havailable : agent.available = true)
    (h : agent.evaluate clock a r = .ok (d, agent')) (hfails : ¬ d.action.Mild) :
    Removed agent clock a r ∧ (agent'.state = .frozen ∨ agent'.state = .escalated) ∨
      ¬ Removed agent clock a r ∧ ∃ recorded : Agent ℚ QualificationPayload,
        agent' = applyLifecycle env clock recorded ∧ recorded.state = .active ∧
        recorded.evaluationHistory.length = agent.evaluationHistory.length + 1 ∧
        recorded.averageReward = (agent.rewarded a.reward).averageReward ∧
        recorded.trend = (agent.rewarded a.reward).trend ∧
        recorded.consecutiveFailures = agent.consecutiveFailures + 1 := by
  obtain ⟨decision, payload, haction, hdecision, rfl⟩ := evaluate_agent havailable h
  by_cases hremoved : Removed agent clock a r
  · refine .inl ⟨hremoved, ?_⟩
    have hstate := decisionOf_removed hremoved
    rw [← hdecision] at hstate
    rw [applyLifecycle_of_state_ne, recordedAgent_state]
    · exact hstate
    · rw [recordedAgent_state]
      rcases hstate with hfrozen | hescalated
      · rw [hfrozen]
        decide
      · rw [hescalated]
        decide
  · have hstate := decisionOf_kept hremoved
    rw [← hdecision] at hstate
    refine .inr ⟨hremoved, _, rfl, ?_, ?_, ?_, ?_, ?_⟩
    · rw [recordedAgent_state, hstate]
    · rw [recordedAgent_evaluationHistory, List.length_append, List.length_singleton]
    · rw [Agent.averageReward, recordedAgent_performanceWindow]
      rfl
    · rw [Agent.trend, recordedAgent_performanceWindow]
      rfl
    · have hfailed : decision.action.fails = true := by
        rw [haction]
        exact Bool.of_not_eq_false hfails
      rw [recordedAgent_consecutiveFailures hstate]
      exact if_pos hfailed

/-! ## Agents that keep failing -/

/-- An evaluation that fails and whose lifecycle sends the agent to rehabilitation. -/
structure Rehabilitates (agent : Agent ℚ QualificationPayload) (clock : Clock) (a : Analysis)
    (r : Request env) : Prop where
  available : agent.available = true
  failed : Stopped agent clock a r
  kept : ¬ Removed agent clock a r
  long : 3 ≤ agent.evaluationHistory.length + 1
  few : agent.consecutiveFailures + 1 < 5
  low : -1 / 2 ≤ (agent.rewarded a.reward).averageReward
  negative : (agent.rewarded a.reward).averageReward < 0
  steady : (agent.rewarded a.reward).trend ≠ .declining

def Event.Rehabilitated (agent : Agent ℚ QualificationPayload) : Event env → Prop
  | .evaluate clock a r => Rehabilitates agent clock a r
  | .changeState _ _ _ => False

/-- The failures after an answer, in a row. -/
def failuresAfter (failures : ℕ) (action : GatewayAction) : ℕ :=
  if action.fails then failures + 1 else 0

/-- The agent is out of service, or its counters see the failures in a row. -/
def Counted (agent : Agent ℚ QualificationPayload) (failures : ℕ) : Prop :=
  (agent.state = .frozen ∨ agent.state = .escalated) ∨
    agent.available = true ∧ failures ≤ agent.consecutiveFailures ∧
      failures ≤ agent.evaluationHistory.length ∧ failures < 5

theorem Counted.zero (h : agent.available = true) : Counted agent 0 :=
  .inr ⟨h, Nat.zero_le _, Nat.zero_le _, Nat.zero_lt_succ _⟩

theorem Counted.passed (havailable : agent.available = true)
    (h : agent.evaluate clock a r = .ok (d, agent')) (hmild : d.action.Mild) :
    Counted agent' 0 := by
  obtain ⟨decision, payload, -, hdecision, rfl⟩ := evaluate_agent havailable h
  have hnot := (evaluate_mild_iff h).mp hmild
  have hkept : ¬ Removed agent clock a r := by
    rintro ⟨-, hextinct | hmany⟩
    · exact hnot (.rank (.inl hextinct.1))
    · exact hnot (.failures hmany)
  have hactive := decisionOf_kept hkept
  rw [← hdecision] at hactive
  have hstate : (recordedAgent env clock agent decision
      (recordOf env clock a r decision payload)).state = .active := by
    rw [recordedAgent_state, hactive]
  rcases @applyLifecycle_active env _ clock hstate with
    ⟨hsame, -⟩ | ⟨hout, -⟩ | ⟨hrehabilitating, -⟩
  · rw [hsame]
    exact .zero (by simp [Agent.available, hactive])
  · exact .inl hout
  · exact .zero (by simp [Agent.available, hrehabilitating])

theorem Counted.failed {failures : ℕ} (havailable : agent.available = true)
    (hcounted : Counted agent failures) (h : agent.evaluate clock a r = .ok (d, agent'))
    (hfails : ¬ d.action.Mild) (hsteady : ¬ Rehabilitates agent clock a r) :
    Counted agent' (failures + 1) := by
  have hout : ¬ (agent.state = .frozen ∨ agent.state = .escalated) := by
    rintro (hstate | hstate)
    · simp [Agent.available, hstate] at havailable
    · simp [Agent.available, hstate] at havailable
  obtain ⟨-, hcount, hlength, hfew⟩ := hcounted.resolve_left hout
  rcases failed_evaluation havailable h hfails with
    ⟨-, hleft⟩ | ⟨hkept, recorded, rfl, hstate, hhistory, haverage, htrend, hrecorded⟩
  · exact .inl hleft
  · rcases @applyLifecycle_active env _ clock hstate with
      ⟨hsame, hshort⟩ | ⟨hleft, -⟩ | ⟨-, hlong, hlow, hnegative, hmany, hdeclining⟩
    · refine .inr ⟨?_, ?_, ?_, ?_⟩
      · rw [hsame]
        simp [Agent.available, hstate]
      · rw [hsame, hrecorded]
        exact Nat.succ_le_succ hcount
      · rw [hsame, hhistory]
        exact Nat.succ_le_succ hlength
      · rw [hhistory, hrecorded] at hshort
        omega
    · exact .inl hleft
    · refine absurd ⟨havailable, ?_, hkept, hhistory ▸ hlong, hrecorded ▸ hmany, haverage ▸ hlow,
        haverage ▸ hnegative, htrend ▸ hdeclining⟩ hsteady
      by_contra hnot
      exact hfails ((evaluate_mild_iff h).mpr hnot)

theorem Counted.run {failures : ℕ} {events : List (Event env)} (hcounted : Counted agent failures)
    (hmanual : ∀ event ∈ events, event.isManual = false)
    (hsteady : Along Event.apply (fun agent event => ¬ event.Rehabilitated agent) agent events) :
    Counted (agent.run events) ((agent.answers events).foldl failuresAfter failures) := by
  induction events generalizing agent failures with
  | nil => exact hcounted
  | cons event events ih =>
    obtain ⟨hfirst, hrest⟩ := hsteady
    obtain ⟨hevent, hevents⟩ := List.forall_mem_cons.mp hmanual
    rw [Agent.answers, List.foldl_append]
    refine ih ?_ hevents hrest
    cases event with
    | changeState newState reason now => cases hevent
    | evaluate clock a r =>
      rw [Event.apply, Event.answer]
      cases hresult : agent.evaluate clock a r with
      | error e => exact hcounted
      | ok result =>
        obtain ⟨d, agent'⟩ := result
        change Counted agent' (failuresAfter failures d.action)
        cases havailable : agent.available with
        | false =>
          rw [evaluate_unavailable havailable hresult]
          refine .inl (hcounted.resolve_right fun hright => ?_)
          rw [havailable] at hright
          cases hright.1
        | true =>
          rw [failuresAfter]
          split
          · rename_i hfails
            refine hcounted.failed havailable hresult ?_ hfirst
            rw [GatewayAction.Mild, hfails]
            exact Bool.noConfusion
          · rename_i hmild
            exact .passed havailable hresult (Bool.of_not_eq_true hmild)

/-! ## Agents of the registry -/

theorem Event.apply_agentId : (event.apply agent).agentId = agent.agentId := by
  cases event with
  | changeState newState reason now => exact Agent.changeState_agentId _ _ _ _
  | evaluate clock a r =>
    rw [Event.apply]
    cases hresult : agent.evaluate clock a r with
    | error e => rfl
    | ok result =>
      obtain ⟨d, agent'⟩ := result
      cases havailable : agent.available with
      | false => exact congrArg Agent.agentId (evaluate_unavailable havailable hresult)
      | true =>
        obtain ⟨decision, payload, -, -, rfl⟩ := evaluate_agent havailable hresult
        simp

theorem get_perform (call : String × Event env) :
    (registry.perform call).get agentId =
      if call.1 = agentId then (registry.get agentId).map call.2.apply
      else registry.get agentId := by
  obtain ⟨called, event⟩ := call
  rw [Registry.perform]
  dsimp only
  cases hcalled : registry.get called with
  | none =>
    dsimp only
    split
    · rename_i hsame
      rw [← hsame, hcalled]
      rfl
    · rfl
  | some agent =>
    have hid : (event.apply agent).agentId = called := by
      rw [Event.apply_agentId]
      exact Table.key_of_get? hcalled
    dsimp only
    split
    · rename_i hsame
      have hold : Table.get? Agent.agentId registry (event.apply agent).agentId = some agent := by
        rw [hid]
        exact hcalled
      have hput := Table.get?_put_self hold
      rw [hid] at hput
      rw [← hsame, hcalled]
      exact hput
    · rename_i hother
      exact Table.get?_put_of_ne (by rw [hid]; exact Ne.symm hother)

theorem get_run (calls : List (String × Event env)) :
    (registry.run calls).get agentId =
      (registry.get agentId).map fun agent => agent.run (own agentId calls) := by
  induction calls generalizing registry with
  | nil => exact Option.map_id'.symm
  | cons call calls ih =>
    have hstep : registry.run (call :: calls) = (registry.perform call).run calls := rfl
    have hown : own agentId (call :: calls) =
        (if call.1 = agentId then [call.2] else []) ++ own agentId calls := by
      rw [own, List.filterMap_cons]
      split
      · rename_i hnone
        rw [if_neg fun hsame => by rw [if_pos hsame] at hnone; cases hnone]
        rfl
      · rename_i event hsome
        obtain ⟨hsame, hevent⟩ := Option.ite_none_right_eq_some.mp hsome
        rw [if_pos hsame, Option.some.inj hevent]
        rfl
    rw [hstep, ih, get_perform, hown]
    split
    · rw [Option.map_map]
      rfl
    · rfl

theorem own_append (calls later : List (String × Event env)) :
    own agentId (calls ++ later) = own agentId calls ++ own agentId later :=
  List.filterMap_append

theorem foldl_failuresAfter {answers : List GatewayAction} {failures : ℕ}
    (h : ∀ action ∈ answers, action.fails = true) :
    answers.foldl failuresAfter failures = failures + answers.length := by
  induction answers generalizing failures with
  | nil => rfl
  | cons action answers ih =>
    obtain ⟨hfirst, hrest⟩ := List.forall_mem_cons.mp h
    rw [List.foldl_cons, ih hrest, failuresAfter, if_pos hfirst, List.length_cons]
    omega

/-- The last five answers are failures. -/
def FiveFailed (answers : List GatewayAction) : Prop :=
  ∃ front last, answers = front ++ last ∧ last.length = 5 ∧ ∀ action ∈ last, action.fails = true

/-- An agent that has failed five times in a row is frozen or escalated, and an agent that is out of
service stays as it is. -/
structure LeavesService (registry : Registry) (agentId : String)
    (calls : List (String × Event env)) : Prop where
  left : ∀ before later agent agent', calls = before ++ later →
    registry.get agentId = some agent → (registry.run before).get agentId = some agent' →
      FiveFailed (agent.answers (own agentId before)) →
        agent'.state = .frozen ∨ agent'.state = .escalated
  rests : ∀ before later agent', calls = before ++ later →
    (registry.run before).get agentId = some agent' → agent'.available = false →
      (registry.run calls).get agentId = some agent'

theorem run_unavailable {events : List (Event env)} (havailable : agent.available = false)
    (hmanual : ∀ event ∈ events, event.isManual = false) : agent.run events = agent := by
  induction events with
  | nil => rfl
  | cons event events ih =>
    obtain ⟨hevent, hevents⟩ := List.forall_mem_cons.mp hmanual
    have hsame : event.apply agent = agent := by
      cases event with
      | changeState newState reason now => cases hevent
      | evaluate clock a r =>
        rw [Event.apply]
        cases hresult : agent.evaluate clock a r with
        | error e => rfl
        | ok result => exact evaluate_unavailable havailable hresult
    have hrun : agent.run (event :: events) = (event.apply agent).run events := rfl
    rw [hrun, hsame, ih hevents]

/-- In a run without manual changes, an agent that fails leaves service where no failed evaluation
sends it to rehabilitation. -/
theorem leavesService {calls : List (String × Event env)}
    (hfound : registry.get agentId = some agent)
    (hstart : agent.state ≠ .pending ∧ agent.state ≠ .deactivated)
    (hmanual : ∀ event ∈ own agentId calls, event.isManual = false)
    (hsteady : Along Event.apply (fun agent event => ¬ event.Rehabilitated agent) agent
      (own agentId calls)) : LeavesService registry agentId calls := by
  refine ⟨?_, ?_⟩
  · rintro before later found agent' rfl hstarted hreached ⟨front, last, hanswers, hlength, hfails⟩
    obtain rfl := Option.some.inj (hfound.symm.trans hstarted)
    rw [own_append] at hmanual hsteady
    have hzero : Counted agent 0 := by
      cases hstate : agent.state with
      | pending => exact absurd hstate hstart.1
      | deactivated => exact absurd hstate hstart.2
      | frozen => exact .inl (.inl hstate)
      | escalated => exact .inl (.inr hstate)
      | active => exact .zero (by simp [Agent.available, hstate])
      | rehabilitating => exact .zero (by simp [Agent.available, hstate])
    have hcounted := hzero.run (fun event hmem => hmanual event (List.mem_append_left _ hmem))
      (along_append.mp hsteady).1
    rw [hanswers, List.foldl_append, foldl_failuresAfter hfails, hlength] at hcounted
    rw [get_run, hfound] at hreached
    obtain rfl := Option.some.inj hreached
    exact hcounted.resolve_right fun hright => absurd hright.2.2.2 (by omega)
  · rintro before later agent' rfl hreached havailable
    have hsplit : registry.run (before ++ later) = (registry.run before).run later := after_append
    rw [own_append] at hmanual
    rw [hsplit, get_run, hreached, Option.map_some,
      run_unavailable havailable fun event hmem => hmanual event (List.mem_append_right _ hmem)]

/-! ## Rehabilitation -/

/-- An event puts an agent in rehabilitation back into service only by hand, or for a response that
is let through. -/
def Event.KeepsRehabilitation (agent : Agent ℚ QualificationPayload) (event : Event env) : Prop :=
  agent.state = .rehabilitating → (event.apply agent).state = .active →
    event.isManual = true ∨ ∃ action, event.answer agent = some action ∧ action.Mild

/-- The evidence of a call is given once, and its times can be read. -/
structure Request.Readable (r : Request env) (evaluated : ℤ) : Prop where
  once : ¬ (r.trustedEvidenceProjection.isSome ∧ r.verificationEvidence.isSome)
  binding : ∃ issues, r.bindingIssues = .ok issues
  runtime : ∃ issues, r.runtimeIssues evaluated = .ok issues

theorem evaluate_isOk (havailable : agent.available = true) :
    (∃ result, agent.evaluate clock a r = .ok result) ↔ r.Readable clock.evaluated := by
  simp only [Agent.evaluate, havailable, Bool.true_eq_false, if_false, bind_ok, pure_ok,
    raiseIf_eq_ok]
  constructor
  · rintro ⟨_, _, honce, bindingIssues, hbinding, runtimeIssues, hruntime, -⟩
    exact ⟨honce, ⟨bindingIssues, hbinding⟩, runtimeIssues, hruntime⟩
  · rintro ⟨honce, ⟨bindingIssues, hbinding⟩, runtimeIssues, hruntime⟩
    exact ⟨_, (), honce, bindingIssues, hbinding, runtimeIssues, hruntime, rfl⟩

/-- A failed evaluation that finds the agent in rehabilitation leaves it out of service: it is frozen or
escalated by the decision, or the lifecycle engine moves it again. -/
def Event.HeldBack (agent : Agent ℚ QualificationPayload) : Event env → Prop
  | .evaluate clock a r => agent.state = .rehabilitating → r.Readable clock.evaluated →
      Stopped agent clock a r → Removed agent clock a r ∨
        3 ≤ agent.evaluationHistory.length + 1 ∧
          ((agent.rewarded a.reward).averageReward < 0 ∨ 5 ≤ agent.consecutiveFailures + 1)
  | .changeState _ _ _ => True

theorem failed_active_iff (havailable : agent.available = true)
    (h : agent.evaluate clock a r = .ok (d, agent')) (hfails : ¬ d.action.Mild) :
    agent'.state = .active ↔ ¬ (Removed agent clock a r ∨
      3 ≤ agent.evaluationHistory.length + 1 ∧
        ((agent.rewarded a.reward).averageReward < 0 ∨ 5 ≤ agent.consecutiveFailures + 1)) := by
  rcases failed_evaluation havailable h hfails with
    ⟨hremoved, hleft⟩ | ⟨hkept, recorded, rfl, hstate, hhistory, haverage, -, hrecorded⟩
  · refine iff_of_false ?_ (not_not.mpr (.inl hremoved))
    rcases hleft with hfrozen | hescalated
    · rw [hfrozen]
      exact AgentState.noConfusion
    · rw [hescalated]
      exact AgentState.noConfusion
  · rw [← hhistory, ← haverage, ← hrecorded]
    rcases @applyLifecycle_active env _ clock hstate with
      ⟨hsame, hshort⟩ | ⟨hleft, hlong, hlow⟩ | ⟨hrehabilitating, hlong, -, hnegative, -, -⟩
    · rw [hsame]
      refine iff_of_true hstate ?_
      rintro (hremoved | ⟨hlong, hmoved⟩)
      · exact hkept hremoved
      · rcases hshort.resolve_left (not_lt.mpr hlong) with ⟨hgood, hfew⟩
        rcases hmoved with hlow | hmany
        · exact absurd hlow (not_lt.mpr hgood)
        · omega
    · refine iff_of_false ?_ (not_not.mpr (.inr ⟨hlong, hlow⟩))
      rcases hleft with hfrozen | hescalated
      · rw [hfrozen]
        exact AgentState.noConfusion
      · rw [hescalated]
        exact AgentState.noConfusion
    · refine iff_of_false ?_ (not_not.mpr (.inr ⟨hlong, .inl hnegative⟩))
      rw [hrehabilitating]
      exact AgentState.noConfusion

theorem keepsRehabilitation_iff : event.KeepsRehabilitation agent ↔ event.HeldBack agent := by
  cases event with
  | changeState newState reason now => exact iff_of_true (fun _ _ => .inl rfl) trivial
  | evaluate clock a r =>
    rw [Event.KeepsRehabilitation, Event.HeldBack, Event.apply, Event.answer, Event.isManual]
    refine imp_congr_right fun hstate => ?_
    have havailable : agent.available = true := by simp [Agent.available, hstate]
    have hreadable : (∃ result, agent.evaluate clock a r = .ok result) ↔
        r.Readable clock.evaluated := evaluate_isOk havailable
    cases hresult : agent.evaluate clock a r with
    | error e =>
      rw [hresult] at hreadable
      refine iff_of_true (fun hactive => ?_) fun hread => ?_
      · rw [hstate] at hactive
        cases hactive
      · obtain ⟨result, herror⟩ := hreadable.mpr hread
        cases herror
    | ok result =>
      obtain ⟨d, agent'⟩ := result
      have hread := hreadable.mp ⟨_, hresult⟩
      have hmild := evaluate_mild_iff hresult
      have hanswer : (false = true ∨ ∃ action,
          ((Except.ok (d, agent') : Except Error _).toOption.map (·.1.action) =
            some action) ∧ action.Mild) ↔ d.action.Mild := by
        simp [Except.toOption]
      dsimp only
      rw [hanswer, hmild]
      constructor
      · intro hkeeps _ hstopped
        have hfails : ¬ d.action.Mild := fun hpasses => hmild.mp hpasses hstopped
        by_contra hnot
        exact hkeeps ((failed_active_iff havailable hresult hfails).mpr hnot) hstopped
      · intro hheld hactive hstopped
        have hfails : ¬ d.action.Mild := fun hpasses => hmild.mp hpasses hstopped
        exact (failed_active_iff havailable hresult hfails).mp hactive (hheld hread hstopped)

/-- `P` holds of the agents that are found at the calls of a run. -/
def AtCalls (P : Agent ℚ QualificationPayload → Event env → Prop) (registry : Registry)
    (call : String × Event env) : Prop :=
  ∀ agent, registry.get call.1 = some agent → P agent call.2

/-- In a run of evaluations and manual changes, rehabilitation does not end by failing exactly where
every failed evaluation holds its agent back. -/
theorem rehabilitation_iff (calls : List (String × Event env)) :
    Along Registry.perform (AtCalls fun agent event => event.KeepsRehabilitation agent) registry
        calls ↔
      Along Registry.perform (AtCalls fun agent event => event.HeldBack agent) registry calls :=
  along_congr fun _ _ => forall₂_congr fun _ _ => keepsRehabilitation_iff

/-! ## The records of an agent -/

def failuresAtEnd (history : List (EvaluationRecord ℚ QualificationPayload)) : ℕ :=
  (history.reverse.takeWhile fun record => record.actionTaken.fails).length

/-- The window has the rewards of the history, and the count is of failures that it ends with. -/
structure Agent.Accounted (agent : Agent ℚ QualificationPayload) : Prop where
  window : agent.performanceWindow = agent.evaluationHistory.map EvaluationRecord.reward
  failures : agent.consecutiveFailures ≤ failuresAtEnd agent.evaluationHistory

def Event.recorded (agent : Agent ℚ QualificationPayload) (event : Event env) :
    Option GatewayAction :=
  if agent.available then event.answer agent else none

/-- The agent keeps its records and has one more for each of the actions. -/
structure Agent.Extends (agent agent' : Agent ℚ QualificationPayload)
    (actions : List GatewayAction) : Prop where
  accounted : agent.Accounted → agent'.Accounted
  history : ∃ records, agent'.evaluationHistory = agent.evaluationHistory ++ records ∧
    records.map EvaluationRecord.actionTaken = actions

theorem Agent.Extends.changeState (agent : Agent ℚ QualificationPayload) (newState : AgentState)
    (reason now : String) : agent.Extends (agent.changeState newState reason now) [] where
  accounted h := by
    refine ⟨by simpa using h.window, ?_⟩
    rw [changeState_evaluationHistory, Agent.changeState]
    split
    · exact h.failures
    · dsimp only
      split
      · exact h.failures
      · exact Nat.zero_le _
  history := ⟨[], by simp, rfl⟩

theorem Agent.Extends.addEvaluation (agent : Agent ℚ QualificationPayload)
    (record : EvaluationRecord ℚ QualificationPayload) :
    agent.Extends (agent.addEvaluation record) [record.actionTaken] where
  accounted h := by
    refine ⟨by simp [h.window], ?_⟩
    rw [addEvaluation_evaluationHistory, failuresAtEnd, List.reverse_append]
    cases hfails : record.actionTaken.fails with
    | false => simp [Agent.addEvaluation, hfails]
    | true => simpa [Agent.addEvaluation, hfails, failuresAtEnd] using h.failures
  history := ⟨[record], rfl, rfl⟩

theorem Agent.Extends.trans {agent'' : Agent ℚ QualificationPayload}
    {actions later : List GatewayAction} (h : agent.Extends agent' actions)
    (h' : agent'.Extends agent'' later) : agent.Extends agent'' (actions ++ later) where
  accounted := h'.accounted ∘ h.accounted
  history := by
    obtain ⟨records, hrecords, hactions⟩ := h.history
    obtain ⟨records', hrecords', hactions'⟩ := h'.history
    exact ⟨records ++ records', by rw [hrecords', hrecords, List.append_assoc],
      by rw [List.map_append, hactions, hactions']⟩

theorem Agent.Extends.recordedAgent (clock : Clock) (agent : Agent ℚ QualificationPayload)
    (decision : GatewayDecision QualificationPayload)
    (record : EvaluationRecord ℚ QualificationPayload) :
    agent.Extends (recordedAgent env clock agent decision record) [record.actionTaken] := by
  have hadd := addEvaluation agent record
  unfold Gateway.recordedAgent
  dsimp only
  split
  · exact hadd.trans (.changeState _ _ _ _)
  · exact hadd

theorem Agent.Extends.applyLifecycle (clock : Clock) (agent : Agent ℚ QualificationPayload) :
    agent.Extends (applyLifecycle env clock agent) [] := by
  unfold Gateway.applyLifecycle
  dsimp only
  split
  · exact .changeState agent _ _ _
  · exact .changeState agent _ _ _
  · exact .changeState agent _ _ _
  · exact ⟨id, [], by simp, rfl⟩

theorem Agent.Extends.apply (agent : Agent ℚ QualificationPayload) (event : Event env) :
    agent.Extends (event.apply agent) (event.recorded agent).toList := by
  cases event with
  | changeState newState reason now =>
    simpa [Event.recorded, Event.answer] using .changeState agent newState reason now
  | evaluate clock a r =>
    rw [Event.apply, Event.recorded, Event.answer]
    cases h : agent.evaluate clock a r with
    | error e => exact ⟨id, [], by simp, by simp [Except.toOption]⟩
    | ok result =>
      obtain ⟨d, agent'⟩ := result
      simp only [Except.toOption, Option.map_some]
      by_cases havailable : agent.available = true
      · obtain ⟨decision, payload, haction, -, rfl⟩ := evaluate_agent havailable h
        rw [if_pos havailable, ← haction]
        exact (recordedAgent clock agent decision _).trans (.applyLifecycle clock _)
      · rw [if_neg havailable, evaluate_unavailable (by simpa using havailable) h]
        exact ⟨id, [], by simp, rfl⟩

def Agent.recordedActions : Agent ℚ QualificationPayload → List (Event env) → List GatewayAction
  | _, [] => []
  | agent, event :: events =>
    (event.recorded agent).toList ++ (event.apply agent).recordedActions events

/-- The history of an agent is never rewritten: a run adds one record for each decision on the agent
in service, with its action, and the rewards and the count of failures are those of the history. -/
theorem history_accounts (agent : Agent ℚ QualificationPayload) (events : List (Event env)) :
    agent.Extends (agent.run events) (agent.recordedActions events) := by
  induction events generalizing agent with
  | nil => exact ⟨id, [], by simp [Agent.run], rfl⟩
  | cons event events ih => exact (Agent.Extends.apply agent event).trans (ih (event.apply agent))

end Runs

/-! ## Samples -/

namespace Sample

def evaluation (rank : String) (reward : ℚ) : Event platform :=
  .evaluate clock (analysis rank reward) { clientQuery := "q", agentResponse := "a" }

def newcomer : Agent ℚ QualificationPayload := { agent with tags := [] }

/-- Five distorted responses, each worth a little less than nothing. -/
def distortions : List (String × Event platform) :=
  List.replicate 5 ("agent_1", evaluation "distorted" (-1 / 10))

theorem own_distortions : own "agent_1" distortions =
    List.replicate 5 (evaluation "distorted" (-1 / 10)) := by
  simp [distortions, own]

theorem distortions_run : newcomer.answers (own "agent_1" distortions) = List.replicate 5 .block ∧
    ((Registry.run [newcomer] distortions).get "agent_1").map Agent.state =
      some .rehabilitating := by
  rw [own_distortions]
  decide +kernel

/-- An agent that fails five times in a row is sent to rehabilitation again and again. -/
theorem not_leavesService : ¬ ∀ (env : Platform) (registry : Registry) (agentId : String)
    (calls : List (String × Event env)),
    (∀ agent, registry.get agentId = some agent → agent.state = .active) →
      (∀ event ∈ own agentId calls, event.isManual = false) →
        LeavesService registry agentId calls := by
  intro h
  obtain ⟨hanswers, hrun⟩ := distortions_run
  have hget : Registry.get [newcomer] "agent_1" = some newcomer := by decide +kernel
  obtain ⟨agent', hfound, hstate⟩ := Option.map_eq_some_iff.mp hrun
  have hleaves := h platform [newcomer] "agent_1" distortions
    (fun agent hagent => by
      rw [hget] at hagent
      obtain rfl := Option.some.inj hagent
      rfl)
    (fun event hmem => by
      rw [own_distortions] at hmem
      rw [List.eq_of_mem_replicate hmem]
      rfl)
  have hfailed : FiveFailed (newcomer.answers (own "agent_1" distortions)) := by
    refine ⟨[], List.replicate 5 .block, hanswers, rfl, fun action hmem => ?_⟩
    rw [List.eq_of_mem_replicate hmem]
    rfl
  rcases hleaves.left distortions [] newcomer agent' (List.append_nil _).symm hget hfound
    hfailed with hfrozen | hescalated
  · rw [hstate] at hfrozen
    cases hfrozen
  · rw [hstate] at hescalated
    cases hescalated

/-- The same responses, worth nothing, lead out of service. -/
def failures : List (String × Event platform) :=
  List.replicate 5 ("agent_1", evaluation "distorted" (-1))

theorem own_failures : own "agent_1" failures =
    List.replicate 5 (evaluation "distorted" (-1)) := by
  simp [failures, own]

theorem failures_steady :
    Along Event.apply (fun agent event => ¬ event.Rehabilitated agent) newcomer
      (List.replicate 5 (evaluation "distorted" (-1))) := by
  refine ⟨?_, ?_, ?_, ?_, ?_, trivial⟩
  · exact fun h => absurd h.long (by decide +kernel)
  · exact fun h => absurd h.long (by decide +kernel)
  · exact fun h => absurd h.low (by decide +kernel)
  · exact fun h => absurd h.available (by decide +kernel)
  · exact fun h => absurd h.available (by decide +kernel)

theorem failures_leave : LeavesService [newcomer] "agent_1" failures := by
  refine leavesService (by decide +kernel : Registry.get [newcomer] "agent_1" = some newcomer)
    ⟨AgentState.noConfusion, AgentState.noConfusion⟩ ?_ ?_
  · intro event hmem
    rw [own_failures] at hmem
    rw [List.eq_of_mem_replicate hmem]
    rfl
  · rw [own_failures]
    exact failures_steady

/-- An agent in rehabilitation whose response is blocked. -/
def blocked : List (String × Event platform) :=
  [("agent_1", .changeState .rehabilitating "retraining" "2025-01-01T00:00:00+00:00"),
    ("agent_1", evaluation "distorted" (-1 / 10))]

theorem blocked_run :
    ((Registry.run [newcomer] (blocked.take 1)).get "agent_1").map (fun agent =>
      (agent.state, ((evaluation "distorted" (-1 / 10)).apply agent).state,
        (evaluation "distorted" (-1 / 10)).answer agent)) =
      some (.rehabilitating, .active, some .block) := by
  decide +kernel

/-- A blocked response ends the rehabilitation. -/
theorem not_keepsRehabilitation : ¬ ∀ (env : Platform) (registry : Registry)
    (calls : List (String × Event env)),
    Along Registry.perform (AtCalls fun agent event => event.KeepsRehabilitation agent) registry
      calls := by
  intro h
  obtain ⟨agent', hfound, hends⟩ := Option.map_eq_some_iff.mp blocked_run
  obtain ⟨hstate, hactive, hanswer⟩ := Prod.mk.inj hends |>.imp id Prod.mk.inj
  have hkeeps := (h platform [newcomer] blocked).2.1 agent' hfound
  rcases hkeeps hstate hactive with hmanual | ⟨action, haction, hmild⟩
  · cases hmanual
  · rw [hanswer] at haction
    obtain rfl := Option.some.inj haction
    cases hmild

end Sample

end MaestroKernel.Gateway
