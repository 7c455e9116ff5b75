import MaestroKernel.Durable.Job
import MaestroKernel.Library.JsonLines
import Mathlib.Data.List.Induction

/-! # Adaptive evidence

`AdaptiveJsonStore` keeps the artifacts of a kind as JSON lines. A record ends with a line feed, but
`list_records` ends one at every line boundary of Unicode. -/

namespace MaestroKernel.Adaptive.JsonStore

open JsonText
open Durable (isBlank pyIsSpace)

/-- The text of each file under the root. -/
abbrev Files := String → Option String

/-- `f"{kind}.jsonl"` -/
def recordsFile (kind : String) : String := kind ++ ".jsonl"

/-- `f"{name}.json"` -/
def snapshotFile (name : String) : String := name ++ ".json"

section Store

variable (floats : FloatText)

/-- `json.dumps(artifact, ensure_ascii=False) + "\n"` -/
def recordText (artifact : Value) : String := dumpsIn plain floats artifact ++ "\n"

def append (kind : String) (artifact : Value) (files : Files) : Files :=
  Function.update files (recordsFile kind)
    (some ((files (recordsFile kind)).getD "" ++ recordText floats artifact))

/-- The file is there even if no artifact is. -/
def appendMany (kind : String) (artifacts : List Value) (files : Files) : Files :=
  Function.update files (recordsFile kind)
    (some (artifacts.foldl (fun text artifact => text ++ recordText floats artifact)
      ((files (recordsFile kind)).getD "")))

/-- The loop of `list_records`; `none` is `JSONDecodeError`. -/
def readRecords : List (List Char) → Option (List Value)
  | [] => some []
  | line :: lines =>
    if isBlank (String.ofList line) then readRecords lines
    else do
      let record ← loads floats (String.ofList line)
      let records ← readRecords lines
      some (record :: records)

/-- Line ends that reading translates to line feeds are line ends of `splitlines` as well. -/
def listRecords (kind : String) (files : Files) : Option (List Value) :=
  match files (recordsFile kind) with
  | none => some []
  | some text => readRecords floats (splitLines [] text.toList)

def saveSnapshot (name : String) (artifact : Value) (files : Files) : Files :=
  Function.update files (snapshotFile name) (some (dumpsIn indented floats artifact))

def loadSnapshot (name : String) (files : Files) : Option Value :=
  match files (snapshotFile name) with
  | none => some (.obj [])
  | some text => loads floats text

end Store

/-! ## Files after a sequence of calls -/

inductive Call where
  | append (kind : String) (artifact : Value)
  | appendMany (kind : String) (artifacts : List Value)
  | saveSnapshot (name : String) (artifact : Value)

namespace Call

def run (floats : FloatText) (files : Files) : Call → Files
  | .append kind artifact => JsonStore.append floats kind artifact files
  | .appendMany kind artifacts => JsonStore.appendMany floats kind artifacts files
  | .saveSnapshot name artifact => JsonStore.saveSnapshot floats name artifact files

def appended (kind : String) : Call → List Value
  | .append kind' artifact => if kind' = kind then [artifact] else []
  | .appendMany kind' artifacts => if kind' = kind then artifacts else []
  | .saveSnapshot .. => []

end Call

/-- The files after the calls, from an empty root. -/
def filesAfter (floats : FloatText) (calls : List Call) : Files :=
  calls.foldl (Call.run floats) fun _ => none

def appendedTo (kind : String) (calls : List Call) : List Value :=
  calls.flatMap (Call.appended kind)

section Runs

variable {floats : FloatText}

theorem recordsFile_inj {kind kind' : String} :
    recordsFile kind = recordsFile kind' ↔ kind = kind' := by
  rw [recordsFile, recordsFile, ← String.toList_inj, String.toList_append, String.toList_append,
    List.append_left_inj, String.toList_inj]

theorem recordsFile_ne_snapshotFile (kind name : String) :
    recordsFile kind ≠ snapshotFile name := by
  intro h
  have hlast := congrArg (fun file => file.toList.getLast?) h
  simp [recordsFile, snapshotFile] at hlast

/-- The characters of a record. -/
def recordChars (floats : FloatText) (artifact : Value) : List Char :=
  writeIn plain floats 0 artifact ++ ['\n']

theorem recordText_toList (artifact : Value) :
    (recordText floats artifact).toList = recordChars floats artifact := by
  rw [recordText, String.toList_append, dumpsIn, String.toList_ofList]
  rfl

theorem foldl_recordText (artifacts : List Value) (text : String) :
    (artifacts.foldl (fun text artifact => text ++ recordText floats artifact) text).toList =
      text.toList ++ artifacts.flatMap (recordChars floats) := by
  induction artifacts generalizing text with
  | nil => simp
  | cons artifact artifacts ih =>
    rw [List.foldl_cons, ih, String.toList_append, recordText_toList, List.append_assoc,
      List.flatMap_cons]

theorem run_text (kind : String) (files : Files) (call : Call) :
    ((call.run floats files (recordsFile kind)).getD "").toList =
      ((files (recordsFile kind)).getD "").toList ++
        (call.appended kind).flatMap (recordChars floats) := by
  cases call with
  | append kind' artifact =>
    by_cases h : kind' = kind
    · subst h
      simp [Call.run, Call.appended, append, recordText_toList]
    · have hfile : recordsFile kind ≠ recordsFile kind' := fun heq =>
        h (recordsFile_inj.mp heq).symm
      simp [Call.run, Call.appended, append, h, hfile]
  | appendMany kind' artifacts =>
    by_cases h : kind' = kind
    · subst h
      simp [Call.run, Call.appended, appendMany, foldl_recordText]
    · have hfile : recordsFile kind ≠ recordsFile kind' := fun heq =>
        h (recordsFile_inj.mp heq).symm
      simp [Call.run, Call.appended, appendMany, h, hfile]
  | saveSnapshot name artifact =>
    simp [Call.run, Call.appended, saveSnapshot, recordsFile_ne_snapshotFile]

theorem filesAfter_text (kind : String) (calls : List Call) :
    ((filesAfter floats calls (recordsFile kind)).getD "").toList =
      (appendedTo kind calls).flatMap (recordChars floats) := by
  have hrun : ∀ files : Files,
      ((calls.foldl (Call.run floats) files (recordsFile kind)).getD "").toList =
        ((files (recordsFile kind)).getD "").toList ++
          (appendedTo kind calls).flatMap (recordChars floats) := by
    induction calls with
    | nil => simp [appendedTo]
    | cons call calls ih =>
      intro files
      rw [List.foldl_cons, ih, run_text, List.append_assoc, ← List.flatMap_append]
      rfl
  simpa [filesAfter] using hrun fun _ => none

theorem listRecords_eq (kind : String) (files : Files) : listRecords floats kind files =
    readRecords floats (splitLines [] ((files (recordsFile kind)).getD "").toList) := by
  rw [listRecords]
  cases files (recordsFile kind) with
  | none => rfl
  | some text => rfl

/-! ## The lines of a record -/

def recordLines (floats : FloatText) (artifact : Value) : List (List Char) :=
  splitLines [] (recordChars floats artifact)

theorem splitLines_records (artifacts : List Value) :
    splitLines [] (artifacts.flatMap (recordChars floats)) =
      artifacts.flatMap (recordLines floats) := by
  induction artifacts with
  | nil => rfl
  | cons artifact artifacts ih =>
    rw [List.flatMap_cons, List.flatMap_cons, recordLines, recordChars, List.append_assoc,
      List.singleton_append, splitLines_append (by decide) (by decide), ih]

/-- The line is one that `list_records` reads. -/
def isRecord (line : List Char) : Bool := !isBlank (String.ofList line)

theorem isRecord_of_mem {line : List Char} {c : Char} (h : c ∈ line) (hlow : 33 ≤ c.toNat)
    (hhigh : c.toNat < 127) : isRecord line = true := by
  have hspace : pyIsSpace c = false := by
    simp only [pyIsSpace, Bool.or_eq_false_iff, Bool.and_eq_false_iff, decide_eq_false_iff_not]
    omega
  rw [isRecord, Bool.not_eq_true', isBlank, String.toList_ofList, List.all_eq_false]
  exact ⟨c, h, by rw [hspace]; decide⟩

theorem isLineBreak_printed {c : Char} (hlow : 33 ≤ c.toNat) (hhigh : c.toNat < 127) :
    isLineBreak c = false := by
  simp only [isLineBreak, Bool.or_eq_false_iff, Bool.and_eq_false_iff, decide_eq_false_iff_not]
  omega

theorem countP_isRecord_pos {text : List Char} {c : Char} (h : c ∈ text) (hlow : 33 ≤ c.toNat)
    (hhigh : c.toNat < 127) : 0 < (splitLines [] text).countP isRecord := by
  obtain ⟨line, hline, hmem⟩ := exists_splitLines (isLineBreak_printed hlow hhigh) [] text h
  exact List.countP_pos_iff.mpr ⟨line, hline, isRecord_of_mem hmem hlow hhigh⟩

theorem recordLines_unbroken {artifact : Value} (h : artifact.unbroken = true) :
    recordLines floats artifact = [writeIn plain floats 0 artifact] := by
  have hline : ∀ line ∈ [writeIn plain floats 0 artifact], OnOneLine line := by
    intro line hmem
    rw [List.mem_singleton.mp hmem]
    exact onOneLine_writeIn floats artifact 0 h
  simpa [recordLines, recordChars] using splitLines_flatMap hline

/-- A record with a line boundary inside takes two lines at least: one with its first character,
one with its last. -/
theorem two_le_countP {artifact : Value} (h : artifact.unbroken = false) :
    2 ≤ (recordLines floats artifact).countP isRecord := by
  obtain ⟨c, hc, hwide⟩ : ∃ c ∈ writeIn plain floats 0 artifact, isWideBreak c = true := by
    by_contra hnone
    push Not at hnone
    have hnarrow : Narrow (writeIn plain floats 0 artifact) := fun c hc =>
      (Bool.not_eq_true _).mp (hnone c hc)
    rw [unbroken_of_writeIn floats artifact 0 hnarrow] at h
    cases h
  obtain ⟨hbreak, hspace⟩ := Bool.and_eq_true_iff.mp hwide
  have hreturn : c ≠ '\r' := by
    rintro rfl
    cases hspace
  obtain ⟨before, after, hsplit⟩ := List.append_of_mem hc
  obtain ⟨d, ds, hhead, -, -, hdlow, hdhigh⟩ := head_writeIn plain floats 0 artifact
  obtain ⟨front, e, hlast, helow, hehigh⟩ := last_writeIn floats h 0
  have hd : d ∈ before := by
    rw [hhead] at hsplit
    cases before with
    | nil =>
      rw [← (List.cons.inj hsplit).1, isLineBreak_printed hdlow hdhigh] at hbreak
      cases hbreak
    | cons d' before =>
      rw [(List.cons.inj hsplit).1]
      exact List.mem_cons_self
  have he : e ∈ after := by
    rw [hlast] at hsplit
    rcases List.eq_nil_or_concat after with rfl | ⟨after, e', rfl⟩
    · obtain ⟨-, heq⟩ := List.append_inj' hsplit rfl
      rw [← List.singleton_inj.mp heq, isLineBreak_printed helow hehigh] at hbreak
      cases hbreak
    · rw [List.concat_eq_append, ← List.cons_append, ← List.append_assoc] at hsplit
      obtain ⟨-, heq⟩ := List.append_inj' hsplit rfl
      rw [List.singleton_inj.mp heq]
      simp
  rw [recordLines, recordChars, hsplit, List.append_assoc, List.cons_append,
    splitLines_append hbreak hreturn, List.countP_append]
  have hfirst := countP_isRecord_pos (List.mem_append_left [c] hd) hdlow hdhigh
  have hsecond := countP_isRecord_pos (List.mem_append_left ['\n'] he) helow hehigh
  omega

theorem readRecords_length {lines : List (List Char)} {records : List Value}
    (h : readRecords floats lines = some records) : records.length = lines.countP isRecord := by
  induction lines generalizing records with
  | nil =>
    cases h
    rfl
  | cons line lines ih =>
    rw [readRecords] at h
    split at h
    · rename_i hblank
      rw [ih h, List.countP_cons_of_neg (by simp [isRecord, hblank])]
    · rename_i hrecord
      obtain ⟨record, -, h⟩ := Option.bind_eq_some_iff.mp h
      obtain ⟨rest, hrest, h⟩ := Option.bind_eq_some_iff.mp h
      cases h
      rw [List.length_cons, ih hrest, List.countP_cons_of_pos (by simp [isRecord, hrecord])]

/-- Every artifact has a record that is read, and there are no more only where none is broken. -/
theorem length_le_countP (artifacts : List Value) :
    artifacts.length ≤ (artifacts.flatMap (recordLines floats)).countP isRecord ∧
      (artifacts.length = (artifacts.flatMap (recordLines floats)).countP isRecord →
        ∀ artifact ∈ artifacts, artifact.unbroken = true) := by
  induction artifacts with
  | nil => exact ⟨le_rfl, by simp⟩
  | cons artifact artifacts ih =>
    rw [List.flatMap_cons, List.countP_append, List.length_cons]
    obtain ⟨hle, hall⟩ := ih
    obtain ⟨c, cs, hhead, -, -, hlow, hhigh⟩ := head_writeIn plain floats 0 artifact
    have hone : 0 < (recordLines floats artifact).countP isRecord :=
      countP_isRecord_pos (c := c) (by simp [recordChars, hhead]) hlow hhigh
    refine ⟨by omega, fun heq => List.forall_mem_cons.mpr ⟨?_, hall (by omega)⟩⟩
    by_contra hbroken
    have htwo : 2 ≤ (recordLines floats artifact).countP isRecord :=
      two_le_countP ((Bool.not_eq_true _).mp hbroken)
    omega

theorem readRecords_records (artifacts : List Value) :
    readRecords floats (artifacts.flatMap (recordLines floats)) = some artifacts ↔
      ∀ artifact ∈ artifacts, artifact.unbroken = true := by
  constructor
  · intro h
    exact (length_le_countP artifacts).2 (readRecords_length h)
  · intro h
    induction artifacts with
    | nil => rfl
    | cons artifact artifacts ih =>
      obtain ⟨hartifact, hrest⟩ := List.forall_mem_cons.mp h
      obtain ⟨c, cs, hhead, -, -, hlow, hhigh⟩ := head_writeIn plain floats 0 artifact
      have hrecord : isRecord (writeIn plain floats 0 artifact) = true :=
        isRecord_of_mem (c := c) (by simp [hhead]) hlow hhigh
      have hread : loads floats (String.ofList (writeIn plain floats 0 artifact)) =
          some artifact := loads_dumpsIn plain floats artifact
      rw [List.flatMap_cons, recordLines_unbroken hartifact, List.singleton_append, readRecords,
        if_neg (by simpa [isRecord] using hrecord), hread, ih hrest]
      rfl

/-- `list_records` returns the artifacts that were appended, in their order, exactly where no text
in them holds a line boundary that JSON leaves as it is. -/
theorem listRecords_appended (floats : FloatText) (kind : String) (calls : List Call) :
    listRecords floats kind (filesAfter floats calls) = some (appendedTo kind calls) ↔
      ∀ artifact ∈ appendedTo kind calls, artifact.unbroken = true := by
  rw [listRecords_eq, filesAfter_text, splitLines_records, readRecords_records]

def Call.saved? (name : String) : Call → Option Value
  | .saveSnapshot name' artifact => if name' = name then some artifact else none
  | _ => none

theorem snapshotFile_inj {name name' : String} :
    snapshotFile name = snapshotFile name' ↔ name = name' := by
  rw [snapshotFile, snapshotFile, ← String.toList_inj, String.toList_append, String.toList_append,
    List.append_left_inj, String.toList_inj]

theorem run_snapshot (name : String) (files : Files) (call : Call) :
    call.run floats files (snapshotFile name) =
      ((call.saved? name).map (dumpsIn indented floats)).or (files (snapshotFile name)) := by
  cases call with
  | append kind artifact =>
    exact Function.update_of_ne (recordsFile_ne_snapshotFile kind name).symm _ _
  | appendMany kind artifacts =>
    exact Function.update_of_ne (recordsFile_ne_snapshotFile kind name).symm _ _
  | saveSnapshot name' artifact =>
    by_cases h : name' = name
    · subst h
      simp [Call.run, Call.saved?, saveSnapshot]
    · have hfile : snapshotFile name ≠ snapshotFile name' := fun heq =>
        h (snapshotFile_inj.mp heq).symm
      simp [Call.run, Call.saved?, saveSnapshot, h, hfile]

/-- `load_snapshot` returns what was saved last under the name, whatever else is stored. -/
theorem loadSnapshot_saved (floats : FloatText) (name : String) (calls : List Call) :
    loadSnapshot floats name (filesAfter floats calls) =
      some ((calls.filterMap (Call.saved? name)).getLast?.getD (.obj [])) := by
  have hfile : filesAfter floats calls (snapshotFile name) =
      (calls.filterMap (Call.saved? name)).getLast?.map (dumpsIn indented floats) := by
    induction calls using List.reverseRecOn with
    | nil => rfl
    | append_singleton calls call ih =>
      have hlast : filesAfter floats (calls ++ [call]) = call.run floats (filesAfter floats calls) :=
        List.foldl_concat ..
      rw [hlast, run_snapshot, ih, List.filterMap_append]
      cases h : call.saved? name with
      | none => simp [h]
      | some artifact => simp [h]
  rw [loadSnapshot, hfile]
  cases (calls.filterMap (Call.saved? name)).getLast? with
  | none => rfl
  | some artifact => exact loads_dumpsIn indented floats artifact

end Runs

namespace Sample

/-- A note with a line separator in it. -/
def note : Value := .obj [("note", .str "a\u2028b")]

/-- The first line of the one record is no JSON text. -/
theorem separated_lost : appendedTo "reports" [.append "reports" note] = [note] ∧
    listRecords bitFloats "reports" (filesAfter bitFloats [.append "reports" note]) = none := by
  decide +kernel

end Sample

end MaestroKernel.Adaptive.JsonStore
