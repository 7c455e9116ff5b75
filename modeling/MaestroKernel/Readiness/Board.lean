import MaestroKernel.Library.Histories
import MaestroKernel.Readiness.RoundTrip

/-! # Two interfaces on one file

What the calls have said of the cases, and what both interfaces show. -/

namespace MaestroKernel.Readiness

open Checked JsonText Records

/-- A call of either interface at the time that its clock shows. -/
inductive Call where
  | create (payload : List (String × Value)) (now : String)
  | update (caseId : String) (payload : List (String × Value)) (now : String)
  | update12a (u : Update12a) (now : String)

section Calls

variable (env : Platform)

/-- The id of the case that a payload describes. -/
def createdId (payload check : List (String × Value)) : String :=
  joinedCaseId (contextOf env payload).clientId (contextOf env payload).requestId
    (readinessCheckIdOf env check)

def Call.caseId : Call → String
  | .create payload _ => match checkOf payload with
    | .ok check => createdId env payload check
    | .error _ => ""
  | .update caseId _ _ => caseId
  | .update12a u _ => (u.target env).caseId

/-- The text that a call writes, `none` where it raises. -/
def Call.written (file : Option String) : Call → Option String
  | .create payload now =>
    (createTrackingCaseFromPayload env payload now file).toOption.map Prod.fst
  | .update caseId payload now =>
    (updateTrackingCaseItemFromPayload env caseId payload now file).toOption.map Prod.fst
  | .update12a u now => (updateTrackingCaseItem12a env u now file).toOption

end Calls

/-! ## What was said -/

/-- An entry of a timeline. -/
structure Happened where
  name : String
  time : String

/-- The status that each item of a case was last given, and what happened to the case. -/
structure CaseView where
  inputs : String → Option String
  controls : String → Option String
  events : List Happened

def CaseView.given (v : CaseView) (itemKind itemKey status now : String) : CaseView where
  inputs := if itemKind = "input" then Function.update v.inputs itemKey (some status) else v.inputs
  controls :=
    if itemKind = "input" then v.controls else Function.update v.controls itemKey (some status)
  events := v.events ++ [⟨itemKind ++ "_" ++ status, now⟩]

/-- The second interface gives the status to the item wherever it is, or to a new input. -/
def CaseView.given12a (v : CaseView) (t : Target12a) (now : String) : CaseView where
  inputs :=
    if (v.inputs t.itemKey).isSome ∨ (v.controls t.itemKey).isNone then
      Function.update v.inputs t.itemKey (some t.status)
    else v.inputs
  controls :=
    if (v.controls t.itemKey).isSome then Function.update v.controls t.itemKey (some t.status)
    else v.controls
  events := v.events ++ [⟨"item_" ++ t.status, now⟩]

/-- The cases under their ids. -/
abbrev Board := String → Option CaseView

structure State where
  file : Option String
  board : Board

section Runs

variable (env : Platform)

/-- A case begins with every item missing. -/
def createdView (check : List (String × Value)) (now : String) : CaseView where
  inputs key := if key ∈ missingInputsOf env check then some "missing" else none
  controls key := if key ∈ missingSecurityControlsOf env check then some "missing" else none
  events := [⟨"case_created", now⟩]

def Call.say (board : Board) : Call → Board
  | .create payload now => match checkOf payload with
    | .ok check =>
      Function.update board (createdId env payload check) (some (createdView env check now))
    | .error _ => board
  | .update caseId payload now => Function.update board caseId ((board caseId).map fun v =>
    v.given (textAt env payload "item_kind") (textAt env payload "item_key")
      (textAt env payload "status") now)
  | .update12a u now => Function.update board (u.target env).caseId
      ((board (u.target env).caseId).map fun v => v.given12a (u.target env) now)

def start : State where
  file := none
  board _ := none

/-- A call that raises leaves everything as it is. -/
def next (s : State) (call : Call) : State :=
  match call.written env s.file with
  | some text => ⟨some text, call.say env s.board⟩
  | none => s

end Runs

/-! ## What is shown -/

section Shown

/-- The items of the first codec are the ones that were given a status, each with its last one. -/
def Tracks (items : List (String × String)) (given : String → Option String) : Prop :=
  ∀ key status, (key, status) ∈ items ↔ given key = some status

/-- The second codec shows every item that was given a status, and shows it with its last one. -/
def Shows (items : List (String × String)) (given : String → Option String) : Prop :=
  ∀ key status, given key = some status →
    (key, status) ∈ items ∧ ∀ status', (key, status') ∈ items → status' = status

variable (env : Platform)

structure ShowsCase (v : CaseView) (c : IntegrationReadinessCase env) : Prop where
  inputs : Tracks (c.inputStatuses.map fun i => (i.key, i.status)) v.inputs
  controls : Tracks (c.securityControlStatuses.map fun i => (i.key, i.status)) v.controls
  events : c.timeline.map (fun e => ⟨e.eventType, e.createdAt⟩) = v.events

structure ShowsCase12a (v : CaseView) (c : Case12a) : Prop where
  inputs : Shows (c.inputStatuses.map fun i => (i.itemKey, i.status)) v.inputs
  controls : Shows (c.securityControlStatuses.map fun i => (i.itemKey, i.status)) v.controls
  events : c.timeline.map (fun e => e.at') = v.events.map fun e => shownAt env e.time

/-- Both interfaces load the file and show what was said. -/
structure Agreed (s : State) : Prop where
  first : ∃ cases, loadReadinessCases env s.file = .ok cases ∧
    (cases.map fun c => c.caseId).Nodup ∧ (∀ c ∈ cases, (s.board c.caseId).isSome) ∧
    ∀ id v, s.board id = some v → ∃ c ∈ cases, c.caseId = id ∧ ShowsCase env v c
  second : ((loadNormalizedCases env s.file).map fun c => c.caseId).Nodup ∧
    (∀ c ∈ loadNormalizedCases env s.file, (s.board c.caseId).isSome) ∧
    ∀ id v, s.board id = some v →
      ∃ c ∈ loadNormalizedCases env s.file, c.caseId = id ∧ ShowsCase12a env v c

/-- Both interfaces show every other case as before the call. -/
structure Untouched (s : State) (call : Call) : Prop where
  first : (loadReadinessCases env (next env s call).file).map
      (fun cases => cases.filter fun c => c.caseId ≠ call.caseId env) =
    (loadReadinessCases env s.file).map fun cases =>
      cases.filter fun c => c.caseId ≠ call.caseId env
  second : ((loadNormalizedCases env (next env s call).file).filter fun c =>
      c.caseId ≠ call.caseId env) =
    (loadNormalizedCases env s.file).filter fun c => c.caseId ≠ call.caseId env

/-- After every call both interfaces show what was said, and no call changes another case. -/
def Lawful (calls : List Call) : Prop :=
  Histories.Along (next env)
    (fun s call => Agreed env (next env s call) ∧ Untouched env s call) start calls

/-- The second codec keeps the id and the keys of the case that a check makes. -/
def KeepsCheck (payload : List (String × Value)) :
    Except TrackingError (List (String × Value)) → Prop
  | .ok check => KeptText env (createdId env payload check) 220 ∧
      ∀ key ∈ missingInputsOf env check ++ missingSecurityControlsOf env check,
        KeptText env key 120
  | .error _ => True

instance (payload : List (String × Value)) :
    (check : Except TrackingError (List (String × Value))) →
      Decidable (KeepsCheck env payload check)
  | .ok _ => inferInstanceAs (Decidable (_ ∧ _))
  | .error _ => .isTrue trivial

/-- The second codec keeps the id and the keys that the call names, and a call of the second
interface is refused. -/
def Careful (s : State) : Call → Prop
  | .create payload _ => KeepsCheck env payload (checkOf payload)
  | .update _ payload _ => KeptText env (textAt env payload "item_key") 120
  | .update12a u _ => (u.target env).status ∉ ACTION_ITEM_STATUSES_12A ∨
      (u.target env).caseId = "" ∨ (u.target env).itemKey = "" ∨
        (s.board (u.target env).caseId).isNone

instance (s : State) : (call : Call) → Decidable (Careful env s call)
  | .create _ _ => inferInstanceAs (Decidable (KeepsCheck _ _ _))
  | .update _ _ _ => inferInstanceAs (Decidable (KeptText _ _ _))
  | .update12a _ _ => inferInstanceAs (Decidable (_ ∨ _))

end Shown

end MaestroKernel.Readiness
