import MaestroKernel.Gateway.Storage
import MaestroKernel.Library.Histories

/-! # Restarts of the registry

What a new process loads: from the file that a completed write left, from the one that an
interrupted write left, and from a file that it cannot read or parse, over which the registry is
written nevertheless. -/

namespace MaestroKernel.Gateway.Storage

open JsonText Value Histories

variable {env : Platform} {registry before : Registry} {bytes : List UInt8}
  {file : Option (List UInt8)} {readable : Bool} {w : Write}

/-! ## Loading -/

/-- The file is open and holds no array when the write ends. -/
def Write.Torn (bytes : List UInt8) : Write → Prop
  | refused => False
  | stopped n => n + 1 < bytes.length
  | completed => False

instance (bytes : List UInt8) (w : Write) : Decidable (w.Torn bytes) := by
  cases w <;> unfold Write.Torn <;> infer_instance

theorem start_unreadable : start env false file = some .empty := by
  cases file with
  | none => rfl
  | some bytes => rfl

theorem start_unparsable (h : env.loads bytes = none) :
    start env readable (some bytes) = some .empty := by
  cases readable with
  | false => rfl
  | true => rw [start, loadAgents, if_pos rfl, h]; rfl

theorem start_of_loads (h : env.loads bytes = some (written (.arr registry.toDicts))) :
    start env true (some bytes) = registry.written := by
  rw [start, loadAgents, if_pos rfl, h, written, writtenList_eq_map, Registry.toDicts,
    List.map_map, List.mapM_map, Registry.written]
  congr 2
  funext agent
  exact dictToAgent_written agent

theorem take_of_not_torn {n : ℕ} (h : ¬ (Write.stopped n).Torn bytes) :
    bytes.take n = bytes ∨ bytes.take n = bytes.take (bytes.length - 1) := by
  have hn : bytes.length ≤ n + 1 := not_lt.mp h
  by_cases hall : bytes.length ≤ n
  · exact .inl (List.take_of_length_le hall)
  · have : n = bytes.length - 1 := by omega
    exact .inr (this ▸ rfl)

/-- What a process holds that starts after a write, however far the write came. -/
theorem start_persist (hbytes : env.dumps (.arr registry.toDicts) = some bytes) :
    start env true (persist env registry w file) =
      if w = .refused then start env true file
      else if w.Torn bytes then some .empty else registry.written := by
  rw [persist, hbytes]
  cases w with
  | refused => rfl
  | completed => exact start_of_loads (env.loads_dumps _ _ hbytes)
  | stopped n =>
    rw [if_neg Write.noConfusion]
    by_cases htorn : (Write.stopped n).Torn bytes
    · rw [if_pos htorn]
      exact start_unparsable (env.loads_front _ _ n hbytes htorn)
    · rw [if_neg htorn]
      refine start_of_loads ?_
      rcases take_of_not_torn htorn with hall | hline
      · rw [hall]
        exact env.loads_dumps _ _ hbytes
      · rw [hline]
        exact env.loads_line _ _ hbytes

theorem some_empty_eq_some : some Registry.empty = some registry ↔ registry = .empty := by
  rw [Option.some.injEq, eq_comm]

theorem start_completed (hbytes : env.dumps (.arr registry.toDicts) = some bytes) :
    start env readable (persist env registry .completed file) = some registry ↔
      if readable then registry.Finite else registry = .empty := by
  cases readable with
  | false =>
    rw [start_unreadable, if_neg Bool.false_ne_true]
    exact some_empty_eq_some
  | true =>
    have htorn : ¬ Write.completed.Torn bytes := id
    rw [start_persist hbytes, if_neg Write.noConfusion, if_neg htorn, if_pos rfl]
    exact registry.written_eq_self

theorem start_interrupted (hbefore : start env true file = some before)
    (hbytes : env.dumps (.arr registry.toDicts) = some bytes) :
    (start env readable (persist env registry w file) = some before ∨
        start env readable (persist env registry w file) = some registry) ↔
      if readable ∧ ¬ w.Torn bytes then
        w = .refused ∨ registry.Finite ∨ registry.written = some before
      else before = .empty ∨ registry = .empty := by
  cases readable with
  | false =>
    rw [start_unreadable, if_neg (by simp)]
    exact or_congr some_empty_eq_some some_empty_eq_some
  | true =>
    rw [start_persist hbytes]
    by_cases hrefused : w = .refused
    · subst hrefused
      rw [if_pos rfl, if_pos ⟨rfl, id⟩]
      exact iff_of_true (.inl hbefore) (.inl rfl)
    · rw [if_neg hrefused]
      by_cases htorn : w.Torn bytes
      · rw [if_pos htorn, if_neg fun h => h.2 htorn]
        exact or_congr some_empty_eq_some some_empty_eq_some
      · rw [if_neg htorn, if_pos ⟨rfl, htorn⟩, registry.written_eq_self]
        constructor
        · rintro (hwritten | hfinite)
          · exact .inr (.inr hwritten)
          · exact .inr (.inl hfinite)
        · rintro (h | hfinite | hwritten)
          · exact absurd h hrefused
          · exact .inr hfinite
          · exact .inl hwritten

/-! ## Calls over a file that was not loaded -/

def Opens (env : Platform) (p : Process) (call : Operation × Write) : Prop :=
  ∃ registry bytes, p.registry.perform call.1 = some registry ∧
    env.dumps (.arr registry.toDicts) = some bytes ∧ call.2 ≠ .refused

/-- The call writes the whole file. -/
def Completes (env : Platform) (p : Process) (call : Operation × Write) : Prop :=
  Opens env p call ∧ call.2 = .completed

/-- The file holds these bytes after the call. -/
def Keeps (env : Platform) (bytes : List UInt8) (p : Process) (call : Operation × Write) : Prop :=
  (step env p call).file = some bytes

theorem file_of_not_opens {p : Process} {call : Operation × Write} (h : ¬ Opens env p call) :
    (step env p call).file = p.file := by
  rw [step]
  cases hperform : p.registry.perform call.1 with
  | none => rfl
  | some registry =>
    dsimp only
    rw [persist]
    cases hdumps : env.dumps (.arr registry.toDicts) with
    | none => rfl
    | some bytes =>
      have hrefused : call.2 = .refused :=
        not_not.mp fun hw => h ⟨registry, bytes, hperform, hdumps, hw⟩
      rw [hrefused]
      rfl

theorem file_of_completes {p : Process} {call : Operation × Write} (h : Completes env p call) :
    ∃ value bytes, env.loads bytes = some value ∧ (step env p call).file = some bytes := by
  obtain ⟨⟨registry, bytes, hperform, hdumps, -⟩, hcompleted⟩ := h
  refine ⟨_, bytes, env.loads_dumps _ _ hdumps, ?_⟩
  rw [step, hperform]
  dsimp only
  rw [persist, hdumps, hcompleted]
  rfl

theorem keeps_of_not_opens {calls : List (Operation × Write)} {p : Process}
    (hfile : p.file = some bytes) (h : Along (step env) (fun p call => ¬ Opens env p call) p calls) :
    Along (step env) (Keeps env bytes) p calls := by
  refine h.imp (I := fun p => p.file = some bytes) hfile ?_ ?_
  · intro p call hp hcall
    rw [file_of_not_opens hcall]
    exact hp
  · intro p call hp hcall
    exact (file_of_not_opens hcall).trans hp

theorem not_completes_of_keeps {calls : List (Operation × Write)} {p : Process}
    (hloads : env.loads bytes = none) (h : Along (step env) (Keeps env bytes) p calls) :
    Along (step env) (fun p call => ¬ Completes env p call) p calls := by
  refine h.imp (I := fun _ => True) trivial (fun _ _ _ _ => trivial) ?_
  intro p call _ hkeeps hcompletes
  obtain ⟨value, written, hvalue, hfile⟩ := file_of_completes hcompletes
  obtain rfl := Option.some.inj (hfile.symm.trans hkeeps)
  cases hvalue.symm.trans hloads

/-- What survives: the agents of a completed write, where all their floats are finite; the agents
before or after an interrupted write, unless it is torn; and a file that could not be read or
parsed, until a call opens it. -/
theorem agents_survive (env : Platform) :
    (∀ registry bytes file readable, env.dumps (.arr registry.toDicts) = some bytes →
      (start env readable (persist env registry .completed file) = some registry ↔
        if readable then registry.Finite else registry = .empty)) ∧
    (∀ before registry bytes file w readable, start env true file = some before →
      env.dumps (.arr registry.toDicts) = some bytes →
      ((start env readable (persist env registry w file) = some before ∨
          start env readable (persist env registry w file) = some registry) ↔
        if readable ∧ ¬ w.Torn bytes then
          w = .refused ∨ registry.Finite ∨ registry.written = some before
        else before = .empty ∨ registry = .empty)) ∧
    ∀ bytes readable calls, readable = false ∨ env.loads bytes = none →
      start env readable (some bytes) = some .empty ∧
      (Along (step env) (fun p call => ¬ Opens env p call) ⟨.empty, some bytes⟩ calls →
        Along (step env) (Keeps env bytes) ⟨.empty, some bytes⟩ calls) ∧
      (env.loads bytes = none → Along (step env) (Keeps env bytes) ⟨.empty, some bytes⟩ calls →
        Along (step env) (fun p call => ¬ Completes env p call) ⟨.empty, some bytes⟩ calls) := by
  refine ⟨?_, ?_, ?_⟩
  · intro registry bytes file readable hbytes
    exact start_completed hbytes
  · intro before registry bytes file w readable hbefore hbytes
    exact start_interrupted hbefore hbytes
  · intro bytes readable calls hunusable
    refine ⟨?_, keeps_of_not_opens rfl, not_completes_of_keeps⟩
    rcases hunusable with rfl | hloads
    · exact start_unreadable
    · exact start_unparsable hloads

namespace Sample

def agent : StoredAgent where
  agentId := "a"
  name := ""
  role := ""
  adapterName := ""
  model := ""
  systemPrompt := ""
  language := "en"
  state := .active
  createdAt := ""
  lastStateChange := ""
  lastStateReason := ""

def frozen : StoredAgent := agent.changeState .frozen "" ""

/-- The agent after a reward that is not a number. -/
def unrewarded : StoredAgent := { agent with performanceWindow := [.nan] }

def ascii (text : String) : List UInt8 := text.toList.map fun c => UInt8.ofNat c.toNat

def textOf (state window : String) : List UInt8 :=
  ascii "[\x7b\"agent_id\":\"a\",\"name\":\"\",\"role\":\"\",\"adapter_name\":\"\",\"model\":\"\"," ++
    ascii "\"system_prompt\":\"\",\"language\":\"en\",\"state\":\"" ++ ascii state ++
    ascii "\",\"created_at\":\"\",\"last_state_change\":\"\",\"last_state_reason\":\"\"," ++
    ascii "\"evaluation_history\":[],\"performance_window\":[" ++ ascii window ++
    ascii "],\"consecutive_failures\":0,\"tags\":[],\"priority\":1,\"risk_level\":\"medium\"," ++
    ascii "\"owner\":\"\",\"policy_profile\":\"default\"\x7d]\n"

def texts : List (Value × List UInt8) :=
  [(.arr [agentToDict agent], textOf "active" ""), (.arr [agentToDict frozen], textOf "frozen" ""),
    (.arr [agentToDict unrewarded], textOf "active" "null")]

def dumps (value : Value) : Option (List UInt8) :=
  (texts.find? fun entry => entry.1 = value).map Prod.snd

def loads (bytes : List UInt8) : Option Value :=
  (texts.find? fun entry => bytes = entry.2 ∨ bytes = entry.2.dropLast).map
    fun entry => written entry.1

theorem mem_of_dumps {value : Value} {bytes : List UInt8} (h : dumps value = some bytes) :
    (value, bytes) ∈ texts := by
  obtain ⟨entry, hentry, rfl⟩ := Option.map_eq_some_iff.mp h
  have hvalue : entry.1 = value := by simpa using List.find?_some hentry
  rw [← hvalue]
  exact List.mem_of_find?_eq_some hentry

theorem loads_texts : ∀ entry ∈ texts, loads entry.2 = some (written entry.1) ∧
    loads entry.2.dropLast = some (written entry.1) := by decide +kernel

theorem texts_apart : ∀ entry ∈ texts, ∀ other ∈ texts, other.2.dropLast <+: entry.2 →
    other.2.length = entry.2.length := by decide +kernel

theorem loads_front {xs : List Value} {bytes : List UInt8} {n : ℕ}
    (h : dumps (.arr xs) = some bytes) (hn : n + 1 < bytes.length) : loads (bytes.take n) = none := by
  refine Option.map_eq_none_iff.mpr (List.find?_eq_none.mpr ?_)
  intro other hother hmatch
  have hfront : other.2.dropLast <+: bytes := by
    rcases of_decide_eq_true hmatch with heq | heq
    · exact (List.dropLast_prefix _).trans (heq ▸ List.take_prefix n bytes)
    · exact heq ▸ List.take_prefix n bytes
  have hlength : other.2.length = bytes.length :=
    texts_apart _ (mem_of_dumps h) other hother hfront
  have htake : (bytes.take n).length = n := List.length_take_of_le (by omega)
  rcases of_decide_eq_true hmatch with heq | heq
  · rw [heq, hlength] at htake
    omega
  · rw [heq, List.length_dropLast, hlength] at htake
    omega

/-- The codec, on the texts of these agents. -/
def platform : Platform where
  dumps
  loads
  str
    | .str s => s
    | _ => ""
  int
    | .int n => some n
    | _ => none
  float
    | .float x => some x
    | _ => none
  loads_dumps value bytes h := (loads_texts _ (mem_of_dumps h)).1
  loads_line value bytes h := by
    rw [← List.dropLast_eq_take]
    exact (loads_texts _ (mem_of_dumps h)).2
  loads_front _ _ _ := loads_front
  str_str _ := rfl
  int_int _ := rfl
  float_float _ := rfl
  float_null := rfl

def of (agent : StoredAgent) : Registry := Registry.empty.assign agent

theorem frozen_finite : (of frozen).Finite := by
  intro agent hagent
  obtain rfl := List.mem_singleton.mp hagent
  exact ⟨fun _ he => (nomatch he), fun _ hx => (nomatch hx)⟩

theorem frozen_survives : platform.dumps (.arr (of frozen).toDicts) = some (textOf "frozen" "") ∧
    start platform true (persist platform (of frozen) .completed (some (textOf "active" ""))) =
      some (of frozen) := by
  have hbytes : platform.dumps (.arr (of frozen).toDicts) = some (textOf "frozen" "") := by
    decide +kernel
  exact ⟨hbytes, ((agents_survive platform).1 _ _ _ true hbytes).mpr frozen_finite⟩

end Sample

/-- A reward that is not a number, a write that stops after its first byte, and an agent that is
registered over a torn file. -/
theorem agents_are_lost :
    (¬ ∀ (env : Platform) (registry : Registry) (file : Option (List UInt8)),
      env.dumps (.arr registry.toDicts) ≠ none →
        start env true (persist env registry .completed file) = some registry) ∧
    (¬ ∀ (env : Platform) (before registry : Registry) (file : Option (List UInt8)) (w : Write),
      start env true file = some before → env.dumps (.arr registry.toDicts) ≠ none →
        start env true (persist env registry w file) = some before ∨
          start env true (persist env registry w file) = some registry) ∧
    ¬ ∀ (env : Platform) (bytes : List UInt8) (calls : List (Operation × Write)),
      env.loads bytes = none → Along (step env) (Keeps env bytes) ⟨.empty, some bytes⟩ calls := by
  refine ⟨?_, ?_, ?_⟩
  · intro hclaim
    have hsame := hclaim Sample.platform (Sample.of Sample.unrewarded) none (by decide +kernel)
    have hlost : start Sample.platform true
        (persist Sample.platform (Sample.of Sample.unrewarded) .completed none) = none := by
      decide +kernel
    cases hlost.symm.trans hsame
  · intro hclaim
    have hloaded : start Sample.platform true (some (Sample.textOf "active" "")) =
        some (Sample.of Sample.agent) := by
      decide +kernel
    have htorn : start Sample.platform true (persist Sample.platform (Sample.of Sample.frozen)
        (.stopped 1) (some (Sample.textOf "active" ""))) = some .empty := by
      decide +kernel
    have hsame := hclaim Sample.platform (Sample.of Sample.agent) (Sample.of Sample.frozen)
      (some (Sample.textOf "active" "")) (.stopped 1) hloaded (by decide +kernel)
    rw [htorn] at hsame
    rcases hsame with h | h
    · exact absurd h (by decide +kernel)
    · exact absurd h (by decide +kernel)
  · intro hclaim
    have hkeeps := hclaim Sample.platform (Sample.ascii "[")
      [(.register Sample.agent, .completed)] (by decide +kernel)
    have hgone : (step Sample.platform ⟨.empty, some (Sample.ascii "[")⟩
        (.register Sample.agent, .completed)).file ≠ some (Sample.ascii "[") := by decide +kernel
    exact hgone hkeeps.1

end MaestroKernel.Gateway.Storage
