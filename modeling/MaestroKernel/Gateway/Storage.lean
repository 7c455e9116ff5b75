import MaestroKernel.Gateway.Models
import MaestroKernel.Library.Builtins

/-! # The agents in a file

`storage.py` and the part of `registry.py` that uses it: the agents as JSON, the file that holds
their text, and the registry that is loaded from it and written back whole. The codec is `orjson`,
which the project declares as a dependency. A dict in memory has each of its keys once. -/

namespace MaestroKernel.Gateway.Storage

open JsonText Value

/-- The conversions of the standard library, and the text of an array in UTF-8. -/
structure Platform where
  /-- `_dumps`, where it does not raise -/
  dumps : Value → Option (List UInt8)
  /-- `_loads` of the text in these bytes, where neither the decoder nor the parser raises -/
  loads : List UInt8 → Option Value
  str : Value → String
  int : Value → Option ℤ
  float : Value → Option PyFloat
  loads_dumps : ∀ v bytes, dumps v = some bytes → loads bytes = some (written v)
  /-- The text ends in a line feed, which `OPT_APPEND_NEWLINE` adds. -/
  loads_line : ∀ v bytes, dumps v = some bytes →
    loads (bytes.take (bytes.length - 1)) = some (written v)
  /-- An array without its closing bracket is not JSON. -/
  loads_front : ∀ xs bytes n, dumps (.arr xs) = some bytes → n + 1 < bytes.length →
    loads (bytes.take n) = none
  str_str : ∀ s, str (.str s) = s
  int_int : ∀ n, int (.int n) = some n
  float_float : ∀ x, float (.float x) = some x
  float_null : float .null = none

abbrev Items := List (String × Value)

/-- A record as it is stored: its floats are doubles, and the qualification is a dict of JSON. -/
abbrev StoredRecord := EvaluationRecord PyFloat Items

abbrev StoredAgent := Agent PyFloat Items

def textOrNone : Option String → Value
  | some s => .str s
  | none => .null

def dictOrNone : Option Items → Value
  | some items => .obj items
  | none => .null

/-- An element of `base["evaluation_history"]` -/
def recordToDict (e : StoredRecord) : Value :=
  .obj [("timestamp", .str e.timestamp), ("client_query", .str e.clientQuery),
    ("agent_response", .str e.agentResponse), ("rank", .str e.rank), ("reward", .float e.reward),
    ("policy", .str e.policy), ("policy_label", .str e.policyLabel),
    ("fate_vector", .obj (e.fateVector.map fun item => (item.1, .float item.2))),
    ("repair_prompt", textOrNone e.repairPrompt), ("action_taken", .str e.actionTaken.value),
    ("language", .str e.language), ("qualification", dictOrNone e.qualification)]

def agentToDict (agent : StoredAgent) : Value :=
  .obj [("agent_id", .str agent.agentId), ("name", .str agent.name), ("role", .str agent.role),
    ("adapter_name", .str agent.adapterName), ("model", .str agent.model),
    ("system_prompt", .str agent.systemPrompt), ("language", .str agent.language),
    ("state", .str agent.state.value), ("created_at", .str agent.createdAt),
    ("last_state_change", .str agent.lastStateChange),
    ("last_state_reason", .str agent.lastStateReason),
    ("evaluation_history", .arr (agent.evaluationHistory.map recordToDict)),
    ("performance_window", .arr (agent.performanceWindow.map .float)),
    ("consecutive_failures", .int agent.consecutiveFailures),
    ("tags", .arr (agent.tags.map .str)), ("priority", .int agent.priority),
    ("risk_level", .str agent.riskLevel), ("owner", .str agent.owner),
    ("policy_profile", .str agent.policyProfile)]

/-! ## An agent from a dict

A conversion is `none` where it raises, and where it keeps a value of another type than the field
is annotated with. -/

/-- `data.get(key, default)` -/
def get (data : Items) (key : String) (fallback : Value) : Value :=
  (Dict.get? key data).getD fallback

/-- The keys of a dict, in the order in which they came. -/
def keys (data : Items) : List String :=
  data.foldl (fun acc item => if item.1 ∈ acc then acc else acc ++ [item.1]) []

/-- `list(value)` -/
def elements : Value → Option (List Value)
  | .arr xs => some xs
  | .obj data => some ((keys data).map .str)
  | .str s => some (s.toList.map fun c => .str (String.singleton c))
  | _ => none

def asDict : Value → Option Items
  | .obj data => some data
  | _ => none

def asText : Value → Option String
  | .str s => some s
  | _ => none

def asTextOrNone : Value → Option (Option String)
  | .str s => some (some s)
  | .null => some none
  | _ => none

def asDictOrNone : Value → Option (Option Items)
  | .obj data => some (some data)
  | .null => some none
  | _ => none

/-- An item of `dict(value)` -/
def asItem : Value → Option (String × PyFloat)
  | .arr [.str key, .float x] => some (key, x)
  | _ => none

/-- `dict(value)` of floats -/
def asFloats : Value → Option (List (String × PyFloat))
  | .obj data => data.mapM fun item => asItem (.arr [.str item.1, item.2])
  | .arr xs => xs.mapM asItem
  | .str s => if s = "" then some [] else none
  | _ => none

/-- `AgentState(value)` -/
def asState (value : Value) : Option AgentState :=
  [.pending, .active, .frozen, .escalated, .rehabilitating, .deactivated].find?
    fun state => value = .str state.value

/-- `GatewayAction(value)` -/
def asAction (value : Value) : Option GatewayAction :=
  [.pass, .repair, .block, .escalate].find? fun action => value = .str action.value

section Platform

variable (env : Platform)

def dictToRecord (value : Value) : Option StoredRecord := do
  let e ← asDict value
  let actionTaken ← asAction (get e "action_taken" (.str "pass"))
  let timestamp ← asText (get e "timestamp" (.str ""))
  let clientQuery ← asText (get e "client_query" (.str ""))
  let agentResponse ← asText (get e "agent_response" (.str ""))
  let rank ← asText (get e "rank" (.str ""))
  let reward ← env.float (get e "reward" (.int 0))
  let policy ← asText (get e "policy" (.str ""))
  let policyLabel ← asText (get e "policy_label" (.str ""))
  let fateVector ← asFloats (get e "fate_vector" (.obj []))
  let repairPrompt ← asTextOrNone (get e "repair_prompt" .null)
  let language ← asText (get e "language" (.str "en"))
  let qualification ← asDictOrNone (get e "qualification" .null)
  some ⟨timestamp, clientQuery, agentResponse, rank, reward, policy, policyLabel, fateVector,
    repairPrompt, actionTaken, language, qualification⟩

def dictToAgent (value : Value) : Option StoredAgent := do
  let data ← asDict value
  let state ← asState (get data "state" (.str "active"))
  let history ← elements (get data "evaluation_history" (.arr []))
  let evaluationHistory ← history.mapM (dictToRecord env)
  let window ← elements (get data "performance_window" (.arr []))
  let performanceWindow ← window.mapM env.float
  let tagValues ← elements (get data "tags" (.arr []))
  let tags ← tagValues.mapM asText
  let priority ← env.int (get data "priority" (.int 1))
  let failures ← env.int (get data "consecutive_failures" (.int 0))
  let consecutiveFailures ← failures.toNat?
  some {
    agentId := env.str (get data "agent_id" (.str ""))
    name := env.str (get data "name" (.str ""))
    role := env.str (get data "role" (.str ""))
    adapterName := env.str (get data "adapter_name" (.str ""))
    model := env.str (get data "model" (.str ""))
    systemPrompt := env.str (get data "system_prompt" (.str ""))
    language := env.str (get data "language" (.str "en"))
    state
    createdAt := env.str (get data "created_at" (.str ""))
    lastStateChange := env.str (get data "last_state_change" (.str ""))
    lastStateReason := env.str (get data "last_state_reason" (.str ""))
    evaluationHistory
    performanceWindow
    consecutiveFailures
    tags
    priority
    riskLevel := env.str (get data "risk_level" (.str "medium"))
    owner := env.str (get data "owner" (.str ""))
    policyProfile := env.str (get data "policy_profile" (.str "default")) }

end Platform

/-! ## An agent read back -/

/-- The record that is read back: a reward or a fate that is not finite is not a number there. -/
def writtenRecord (e : StoredRecord) : Option StoredRecord :=
  if e.reward.isFinite ∧ ∀ item ∈ e.fateVector, item.2.isFinite = true then
    some { e with qualification := e.qualification.map writtenItems }
  else none

def writtenAgent (agent : StoredAgent) : Option StoredAgent := do
  let evaluationHistory ← agent.evaluationHistory.mapM writtenRecord
  if ∀ x ∈ agent.performanceWindow, x.isFinite = true then
    some { agent with evaluationHistory }
  else none

def FiniteRecord (e : StoredRecord) : Prop :=
  e.reward.isFinite = true ∧ (∀ item ∈ e.fateVector, item.2.isFinite = true) ∧
    ∀ items ∈ e.qualification, finiteItems items = true

def FiniteAgent (agent : StoredAgent) : Prop :=
  (∀ e ∈ agent.evaluationHistory, FiniteRecord e) ∧
    ∀ x ∈ agent.performanceWindow, x.isFinite = true

theorem mapM_eq_self {α : Type} {f : α → Option α} {P : α → Prop} (h : ∀ a, f a = some a ↔ P a)
    (xs : List α) : xs.mapM f = some xs ↔ ∀ a ∈ xs, P a := by
  induction xs with
  | nil => simp
  | cons x xs ih =>
    rw [List.mapM_cons, List.forall_mem_cons, ← h x, ← ih]
    cases f x with
    | none => simp
    | some y =>
      cases xs.mapM f with
      | none => simp
      | some ys => simp

theorem withQualification_eq_self (e : StoredRecord) (qualification : Option Items) :
    { e with qualification } = e ↔ qualification = e.qualification := by
  constructor
  · intro h
    exact congrArg EvaluationRecord.qualification h
  · rintro rfl
    rfl

theorem withHistory_eq_self (agent : StoredAgent) (evaluationHistory : List StoredRecord) :
    { agent with evaluationHistory } = agent ↔ evaluationHistory = agent.evaluationHistory := by
  constructor
  · intro h
    exact congrArg Agent.evaluationHistory h
  · rintro rfl
    rfl

theorem writtenRecord_eq_self (e : StoredRecord) : writtenRecord e = some e ↔ FiniteRecord e := by
  rw [writtenRecord, FiniteRecord]
  split
  · rename_i h
    rw [Option.some.injEq, withQualification_eq_self]
    cases e.qualification with
    | none =>
      rw [Option.map_none]
      exact ⟨fun _ => ⟨h.1, h.2, fun _ hitems => (nomatch hitems)⟩, fun _ => rfl⟩
    | some items =>
      rw [Option.map_some, Option.some.injEq, writtenItems_eq_self]
      constructor
      · rintro hitems
        refine ⟨h.1, h.2, ?_⟩
        rintro _ ⟨⟩
        exact hitems
      · rintro ⟨-, -, hitems⟩
        exact hitems items rfl
  · rename_i h
    constructor
    · intro hnone
      cases hnone
    · rintro ⟨hreward, hfate, -⟩
      exact absurd ⟨hreward, hfate⟩ h

theorem writtenAgent_eq_self (agent : StoredAgent) :
    writtenAgent agent = some agent ↔ FiniteAgent agent := by
  rw [FiniteAgent, ← mapM_eq_self writtenRecord_eq_self, writtenAgent]
  by_cases hwindow : ∀ x ∈ agent.performanceWindow, x.isFinite = true
  · cases agent.evaluationHistory.mapM writtenRecord with
    | none => simp
    | some history =>
      rw [Option.bind_eq_bind, Option.bind_some, if_pos hwindow, Option.some.injEq,
        withHistory_eq_self, Option.some.injEq]
      exact ⟨fun h => ⟨h, hwindow⟩, fun h => h.1⟩
  · cases agent.evaluationHistory.mapM writtenRecord with
    | none => simp
    | some history => simp [hwindow]

/-! ### Each field of a dict -/

section Written

variable {env : Platform}

theorem asState_value (state : AgentState) : asState (.str state.value) = some state := by
  cases state <;> decide

theorem asAction_value (action : GatewayAction) : asAction (.str action.value) = some action := by
  cases action <;> decide

theorem asTextOrNone_written (text : Option String) :
    asTextOrNone (written (textOrNone text)) = some text := by
  cases text with
  | none => rfl
  | some s => rfl

theorem asDictOrNone_written (items : Option Items) :
    asDictOrNone (written (dictOrNone items)) = some (items.map writtenItems) := by
  cases items with
  | none => rfl
  | some items => rfl

theorem asItem_written (item : String × PyFloat) :
    asItem (.arr [.str item.1, written (.float item.2)]) =
      if item.2.isFinite then some item else none := by
  rw [written]
  split
  · rfl
  · rfl

theorem mapM_guard {α : Type} {f : α → Option α} {p : α → Bool}
    (h : ∀ a, f a = if p a then some a else none) (xs : List α) :
    xs.mapM f = if ∀ a ∈ xs, p a = true then some xs else none := by
  induction xs with
  | nil => simp
  | cons x xs ih =>
    rw [List.mapM_cons, ih, h]
    by_cases hx : p x = true
    · by_cases hxs : ∀ a ∈ xs, p a = true
      · have hall : ∀ a ∈ x :: xs, p a = true := List.forall_mem_cons.mpr ⟨hx, hxs⟩
        rw [if_pos hx, if_pos hxs, if_pos hall]
        rfl
      · have hall : ¬ ∀ a ∈ x :: xs, p a = true := fun h => hxs (List.forall_mem_cons.mp h).2
        rw [if_pos hx, if_neg hxs, if_neg hall]
        rfl
    · have hall : ¬ ∀ a ∈ x :: xs, p a = true := fun h => hx (List.forall_mem_cons.mp h).1
      rw [if_neg hx, if_neg hall]
      rfl

theorem asFloats_written (fates : List (String × PyFloat)) :
    asFloats (written (.obj (fates.map fun item => (item.1, .float item.2)))) =
      if ∀ item ∈ fates, item.2.isFinite = true then some fates else none := by
  rw [written, writtenItems_eq_map, asFloats, List.map_map, List.mapM_map]
  exact mapM_guard asItem_written fates

theorem elements_written {α : Type} (f : α → Value) (xs : List α) :
    elements (written (.arr (xs.map f))) = some (xs.map (written ∘ f)) := by
  rw [written, writtenList_eq_map, elements, List.map_map]

theorem mapM_float_written (window : List PyFloat) :
    (window.map (written ∘ .float)).mapM env.float =
      if ∀ x ∈ window, x.isFinite = true then some window else none := by
  rw [List.mapM_map]
  refine mapM_guard (fun x => ?_) window
  rw [Function.comp_apply, Function.comp_apply, written]
  split
  · exact env.float_float x
  · exact env.float_null

theorem mapM_asText_written (tags : List String) :
    (tags.map (written ∘ .str)).mapM asText = some tags := by
  rw [List.mapM_map]
  exact (mapM_eq_self (P := fun _ => True) (fun tag => iff_of_true rfl trivial) tags).mpr
    fun _ _ => trivial

theorem get_of_getElem? {data : Items} {key : String} {value fallback : Value}
    (hkeys : (data.map Prod.fst).Nodup) (i : ℕ) (h : data[i]? = some (key, value)) :
    get data key fallback = value := by
  rw [get, Dict.get?_of_getElem? hkeys i h, Option.getD_some]

theorem float_written (x : PyFloat) :
    env.float (written (.float x)) = if x.isFinite then some x else none := by
  rw [written]
  split
  · exact env.float_float x
  · exact env.float_null

theorem dictToRecord_written (e : StoredRecord) :
    dictToRecord env (written (recordToDict e)) = writtenRecord e := by
  rw [recordToDict, written]
  generalize hdata : writtenItems _ = data
  have hkeys : (data.map Prod.fst).Nodup := by
    rw [← hdata]
    simp [writtenItems]
  subst hdata
  rw [dictToRecord, asDict, Option.bind_eq_bind, Option.bind_some,
    get_of_getElem? hkeys 9 rfl, get_of_getElem? hkeys 0 rfl, get_of_getElem? hkeys 1 rfl,
    get_of_getElem? hkeys 2 rfl, get_of_getElem? hkeys 3 rfl, get_of_getElem? hkeys 4 rfl,
    get_of_getElem? hkeys 5 rfl, get_of_getElem? hkeys 6 rfl, get_of_getElem? hkeys 7 rfl,
    get_of_getElem? hkeys 8 rfl, get_of_getElem? hkeys 10 rfl, get_of_getElem? hkeys 11 rfl,
    float_written, asFloats_written, asTextOrNone_written, asDictOrNone_written]
  simp only [written, asAction_value, asText, Option.bind_eq_bind, Option.bind_some]
  rw [writtenRecord]
  by_cases hboth : e.reward.isFinite = true ∧ ∀ item ∈ e.fateVector, item.2.isFinite = true
  · rw [if_pos hboth, if_pos hboth.1, if_pos hboth.2]
    rfl
  · rw [if_neg hboth]
    by_cases hreward : e.reward.isFinite = true
    · rw [if_pos hreward, if_neg (not_and.mp hboth hreward)]
      rfl
    · rw [if_neg hreward]
      rfl

theorem dictToAgent_written (agent : StoredAgent) :
    dictToAgent env (written (agentToDict agent)) = writtenAgent agent := by
  have hhistory : (agent.evaluationHistory.map (written ∘ recordToDict)).mapM (dictToRecord env) =
      agent.evaluationHistory.mapM writtenRecord := by
    rw [List.mapM_map]
    congr 1
    funext e
    exact dictToRecord_written e
  rw [agentToDict, written]
  generalize hdata : writtenItems _ = data
  have hkeys : (data.map Prod.fst).Nodup := by
    rw [← hdata]
    simp [writtenItems]
  subst hdata
  rw [dictToAgent, asDict, Option.bind_eq_bind, Option.bind_some, get_of_getElem? hkeys 7 rfl,
    get_of_getElem? hkeys 11 rfl, get_of_getElem? hkeys 12 rfl, get_of_getElem? hkeys 14 rfl,
    get_of_getElem? hkeys 15 rfl, get_of_getElem? hkeys 13 rfl, get_of_getElem? hkeys 0 rfl,
    get_of_getElem? hkeys 1 rfl, get_of_getElem? hkeys 2 rfl, get_of_getElem? hkeys 3 rfl,
    get_of_getElem? hkeys 4 rfl, get_of_getElem? hkeys 5 rfl, get_of_getElem? hkeys 6 rfl,
    get_of_getElem? hkeys 8 rfl, get_of_getElem? hkeys 9 rfl, get_of_getElem? hkeys 10 rfl,
    get_of_getElem? hkeys 16 rfl, get_of_getElem? hkeys 17 rfl, get_of_getElem? hkeys 18 rfl,
    elements_written, elements_written, elements_written]
  simp only [Option.bind_eq_bind, Option.bind_some, hhistory, mapM_float_written,
    mapM_asText_written, asState_value, written, env.int_int, env.str_str]
  rw [writtenAgent]
  cases agent.evaluationHistory.mapM writtenRecord with
  | none => rfl
  | some history =>
    by_cases hwindow : ∀ x ∈ agent.performanceWindow, x.isFinite = true
    · rw [if_pos hwindow]
      exact (if_pos hwindow).symm
    · rw [if_neg hwindow]
      exact (if_neg hwindow).symm

end Written

/-! ## The registry -/

/-- `AgentRegistry._agents`, in the order in which the keys came. -/
@[ext] structure Registry where
  agents : List StoredAgent
  distinct : (agents.map Agent.agentId).Nodup
deriving DecidableEq

namespace Registry

def empty : Registry := ⟨[], List.nodup_nil⟩

/-- `self._agents[agent.agent_id] = agent` -/
def assign (registry : Registry) (agent : StoredAgent) : Registry :=
  ⟨Table.upsert Agent.agentId registry.agents agent, Table.nodup_upsert registry.distinct⟩

/-- `[_agent_to_dict(a) for a in self._agents.values()]` -/
def toDicts (registry : Registry) : List Value := registry.agents.map agentToDict

/-- The registry that is read back. -/
def written (registry : Registry) : Option Registry :=
  (registry.agents.mapM writtenAgent).map fun agents => agents.foldl assign empty

/-- Every float of every agent is finite. -/
def Finite (registry : Registry) : Prop := ∀ agent ∈ registry.agents, FiniteAgent agent

theorem agents_assign_of_new {registry : Registry} {agent : StoredAgent}
    (h : agent.agentId ∉ registry.agents.map Agent.agentId) :
    (registry.assign agent).agents = registry.agents ++ [agent] := if_neg h

theorem agents_foldl_assign {agents : List StoredAgent} {registry : Registry}
    (h : ((registry.agents ++ agents).map Agent.agentId).Nodup) :
    (agents.foldl assign registry).agents = registry.agents ++ agents := by
  induction agents generalizing registry with
  | nil => simp
  | cons agent agents ih =>
    have hnew : agent.agentId ∉ registry.agents.map Agent.agentId := by
      intro hmem
      rw [List.map_append, List.map_cons] at h
      exact (List.nodup_append.mp h).2.2 _ hmem _ List.mem_cons_self rfl
    have hassign := agents_assign_of_new hnew
    rw [List.foldl_cons, ih, hassign, List.append_assoc, List.singleton_append]
    rw [hassign, List.append_assoc, List.singleton_append]
    exact h

theorem agentId_of_writtenAgent {agent agent' : StoredAgent}
    (h : writtenAgent agent = some agent') : agent'.agentId = agent.agentId := by
  rw [writtenAgent] at h
  cases hhistory : agent.evaluationHistory.mapM writtenRecord with
  | none => simp [hhistory] at h
  | some history =>
    rw [hhistory, Option.bind_eq_bind, Option.bind_some] at h
    split at h
    · rw [← Option.some.inj h]
    · cases h

theorem map_agentId_of_mapM {agents agents' : List StoredAgent}
    (h : agents.mapM writtenAgent = some agents') :
    agents'.map Agent.agentId = agents.map Agent.agentId := by
  induction agents generalizing agents' with
  | nil =>
    obtain rfl := Option.some.inj h
    rfl
  | cons agent agents ih =>
    simp only [List.mapM_cons, Option.bind_eq_bind, Option.bind_eq_some_iff, Option.pure_def,
      Option.some.injEq] at h
    obtain ⟨agent', hagent, rest, hrest, rfl⟩ := h
    rw [List.map_cons, List.map_cons, agentId_of_writtenAgent hagent, ih hrest]

theorem written_eq_self (registry : Registry) :
    registry.written = some registry ↔ registry.Finite := by
  rw [Finite, ← mapM_eq_self writtenAgent_eq_self, written]
  cases hagents : registry.agents.mapM writtenAgent with
  | none => simp
  | some agents =>
    have hids : ((empty.agents ++ agents).map Agent.agentId).Nodup := by
      rw [empty, List.nil_append, map_agentId_of_mapM hagents]
      exact registry.distinct
    have hfold : (agents.foldl assign empty).agents = agents := agents_foldl_assign hids
    rw [Option.map_some, Option.some.injEq, Option.some.injEq]
    constructor
    · intro h
      rw [← hfold, h]
    · intro h
      exact Registry.ext (hfold.trans h)

end Registry

/-- How far `write_text` comes. Opening the file empties it. -/
inductive Write where
  | refused
  | stopped (n : ℕ)
  | completed
deriving DecidableEq

def Write.apply (bytes : List UInt8) (file : Option (List UInt8)) : Write → Option (List UInt8)
  | refused => file
  | stopped n => some (bytes.take n)
  | completed => some bytes

section File

variable (env : Platform)

/-- `JSONFileStorage.load_agents`, of a file that the system lets it read or not. -/
def loadAgents (readable : Bool) (file : Option (List UInt8)) : List Value :=
  match file with
  | none => []
  | some bytes =>
    if readable then
      match env.loads bytes with
      | some (.arr items) => items
      | _ => []
    else []

/-- `AgentRegistry._load` on the start of a process -/
def start (readable : Bool) (file : Option (List UInt8)) : Option Registry :=
  ((loadAgents env readable file).mapM (dictToAgent env)).map fun agents =>
    agents.foldl Registry.assign .empty

/-- `AgentRegistry._persist`; what `_dumps` raises comes before the file is opened. -/
def persist (registry : Registry) (w : Write) (file : Option (List UInt8)) :
    Option (List UInt8) :=
  match env.dumps (.arr registry.toDicts) with
  | none => file
  | some bytes => w.apply bytes file

end File

inductive Operation where
  | register (agent : StoredAgent)
  | changeState (agentId : String) (newState : AgentState) (reason now : String)
  | addEvaluation (agentId : String) (record : StoredRecord)

/-- The registry that a call persists, `none` where it raises `KeyError` or returns before. -/
def Registry.perform (registry : Registry) : Operation → Option Registry
  | .register agent => some (registry.assign agent)
  | .changeState agentId newState reason now =>
    (Table.get? Agent.agentId registry.agents agentId).bind fun agent =>
      if newState = agent.state ∧ newState ≠ .escalated then none
      else some (registry.assign (agent.changeState newState reason now))
  | .addEvaluation agentId record =>
    (Table.get? Agent.agentId registry.agents agentId).map fun agent =>
      registry.assign (agent.addEvaluation record)

/-- A process and its file. -/
structure Process where
  registry : Registry
  file : Option (List UInt8)

/-- A call, and how far its write comes. -/
def step (env : Platform) (p : Process) (call : Operation × Write) : Process :=
  match p.registry.perform call.1 with
  | none => p
  | some registry => ⟨registry, persist env registry call.2 p.file⟩

end MaestroKernel.Gateway.Storage
