import MaestroKernel.Library.Table

/-! # Governed agents

The agents of the governance gateway and their registry, from `models.py` and `registry.py`. The
numbers of an agent are of a type `F` and the payload of its records is of a type `Q`: the engine
computes with rationals, and the storage writes floats. -/

namespace MaestroKernel.Gateway

inductive AgentState where
  | pending
  | active
  | frozen
  | escalated
  | rehabilitating
  | deactivated
deriving DecidableEq

def AgentState.value : AgentState → String
  | .pending => "pending"
  | .active => "active"
  | .frozen => "frozen"
  | .escalated => "escalated"
  | .rehabilitating => "rehabilitating"
  | .deactivated => "deactivated"

inductive GatewayAction where
  | pass
  | repair
  | block
  | escalate
deriving DecidableEq

def GatewayAction.value : GatewayAction → String
  | .pass => "pass"
  | .repair => "repair"
  | .block => "block"
  | .escalate => "escalate"

/-- What counts as a failure of the agent. -/
def GatewayAction.fails : GatewayAction → Bool
  | .block => true
  | .escalate => true
  | _ => false

structure EvaluationRecord (F Q : Type) where
  timestamp : String
  clientQuery : String
  agentResponse : String
  rank : String
  reward : F
  policy : String
  policyLabel : String
  fateVector : List (String × F)
  repairPrompt : Option String
  actionTaken : GatewayAction
  language : String := "en"
  qualification : Option Q := none
deriving DecidableEq

structure Agent (F Q : Type) where
  agentId : String
  name : String
  role : String
  adapterName : String
  model : String
  systemPrompt : String
  language : String
  state : AgentState
  createdAt : String
  lastStateChange : String
  lastStateReason : String
  evaluationHistory : List (EvaluationRecord F Q) := []
  performanceWindow : List F := []
  consecutiveFailures : ℕ := 0
  tags : List String := []
  priority : ℤ := 1
  riskLevel : String := "medium"
  owner : String := ""
  policyProfile : String := "default"
deriving DecidableEq

namespace Agent

variable {F Q : Type}

/-- `xs[-n:]` -/
def lastOf (n : ℕ) (xs : List F) : List F := xs.drop (xs.length - n)

def mean (vals : List ℚ) : ℚ := vals.sum / vals.length

/-- The mean of no rewards is zero. -/
def averageReward (agent : Agent ℚ Q) : ℚ := mean (lastOf 10 agent.performanceWindow)

inductive Trend where
  | insufficientData
  | improving
  | declining
  | stable
deriving DecidableEq

def trend (agent : Agent ℚ Q) : Trend :=
  let vals := lastOf 10 agent.performanceWindow
  if vals.length < 3 then .insufficientData
  else
    let recent := mean (lastOf 3 vals)
    let older := if 3 < vals.length then mean (vals.take (vals.length - 3)) else recent
    if recent > older + 1 / 10 then .improving
    else if recent < older - 1 / 10 then .declining
    else .stable

/-- `ACTIVE` or `REHABILITATING` -/
def available (agent : Agent F Q) : Bool :=
  agent.state = .active || agent.state = .rehabilitating

/-- `AgentRegistry.change_state`, of the agent that is found. -/
def changeState (agent : Agent F Q) (newState : AgentState) (reason now : String) : Agent F Q :=
  if newState = agent.state ∧ newState ≠ .escalated then agent
  else { agent with
    state := newState
    lastStateChange := now
    lastStateReason := reason
    consecutiveFailures := if newState = .active then agent.consecutiveFailures else 0 }

/-- `AgentRegistry.add_evaluation`, of the agent that is found. -/
def addEvaluation (agent : Agent F Q) (record : EvaluationRecord F Q) : Agent F Q :=
  { agent with
    evaluationHistory := agent.evaluationHistory ++ [record]
    performanceWindow := agent.performanceWindow ++ [record.reward]
    consecutiveFailures := if record.actionTaken.fails then agent.consecutiveFailures + 1 else 0 }

section Fields

variable (agent : Agent F Q) (newState : AgentState) (reason now : String)
  (record : EvaluationRecord F Q)

@[simp] theorem changeState_agentId :
    (agent.changeState newState reason now).agentId = agent.agentId := by
  unfold changeState
  split
  · rfl
  · rfl

@[simp] theorem changeState_state : (agent.changeState newState reason now).state = newState := by
  unfold changeState
  split
  · rename_i h
    exact h.1.symm
  · rfl

@[simp] theorem changeState_evaluationHistory :
    (agent.changeState newState reason now).evaluationHistory = agent.evaluationHistory := by
  unfold changeState
  split
  · rfl
  · rfl

@[simp] theorem changeState_performanceWindow :
    (agent.changeState newState reason now).performanceWindow = agent.performanceWindow := by
  unfold changeState
  split
  · rfl
  · rfl

/-- A move to `ACTIVE` keeps the count of failures. -/
@[simp] theorem changeState_active_consecutiveFailures :
    (agent.changeState .active reason now).consecutiveFailures = agent.consecutiveFailures := by
  unfold changeState
  split
  · rfl
  · rfl

@[simp] theorem addEvaluation_agentId : (agent.addEvaluation record).agentId = agent.agentId := rfl

@[simp] theorem addEvaluation_state : (agent.addEvaluation record).state = agent.state := rfl

@[simp] theorem addEvaluation_evaluationHistory : (agent.addEvaluation record).evaluationHistory =
    agent.evaluationHistory ++ [record] := rfl

@[simp] theorem addEvaluation_performanceWindow : (agent.addEvaluation record).performanceWindow =
    agent.performanceWindow ++ [record.reward] := rfl

end Fields

end Agent

end MaestroKernel.Gateway
