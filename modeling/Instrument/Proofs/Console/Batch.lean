/-
# Batches, submitted in order

The program runs two kinds of batches: one whose steps are only submitted, and one whose replies are
checked as well (`Batch`).  Whatever the instrument does, once it is connected the submissions made
are the steps of the file up to and including the first that fails (`UpToFailure`), none at all if
the file is not a list of lists of texts that are long enough (`Batch.Holds`); then the instrument is
disconnected, once (`batch_run`).  The run succeeds if all submissions did and every reply is the
expected one but for blanks around it and the case of its letters (`Text.Alike`).

What was submitted is said by operations of the session: the run leaves the session as they do, also
if every call of the transport is observed, so it makes the same calls.
-/
import Instrument.Console.Program
import Instrument.Proofs.Json.Equality
import Instrument.Proofs.Outcome
import Instrument.Proofs.Session.Steps
import Instrument.Proofs.Text.Case

namespace Instrument

/-! ## What a batch is -/

namespace Shape

/-- If a reader reads what is written for a value and nothing else, so does the reader of lists. -/
theorem items_eq_ok_iff {α : Type} {read : Reader α} {write : α → Json}
    (h : ∀ v a, read v = .ok a ↔ v = write a) {vs : List Json} {as : List α} :
    items read vs = .ok as ↔ vs = as.map write := by
  induction vs generalizing as with
  | nil => cases as <;> simp [items]
  | cons v vs ih =>
    simp only [items, bind_eq_ok_iff, h, ih]
    constructor
    · rintro ⟨a, rfl, more, rfl, ⟨⟩⟩
      rfl
    · intro heq
      cases as with
      | nil => cases heq
      | cons a more =>
        obtain ⟨rfl, rfl⟩ := List.cons.inj heq
        exact ⟨a, rfl, more, rfl, rfl⟩

theorem list_eq_ok_iff {α : Type} {read : Reader α} {write : α → Json}
    (h : ∀ v a, read v = .ok a ↔ v = write a) (v : Json) (as : List α) :
    list read v = .ok as ↔ v = .array (as.map write) := by
  cases v with
  | array vs => simp [list, items_eq_ok_iff h]
  | null | bool | integer | real | single | text | object => exact ⟨nofun, nofun⟩

theorem text_eq_ok_iff (v : Json) (s : String) : text v = .ok s ↔ v = .text s := by
  cases v with
  | text t => simp [text]
  | null | bool | integer | real | single | array | object => exact ⟨nofun, nofun⟩

end Shape

namespace Layout

variable {α : Type} {l : Layout α} {make : List String → α}

/-- A layout that looks at the length of an entry alone. -/
def Measures (l : Layout α) (make : List String → α) : Prop :=
  ∀ e, l.read? e = if l.width ≤ e.length then some (make e) else none

theorem readEntries_eq_ok_iff (h : l.Measures make) {entries : List (List String)} {as : List α} :
    l.readEntries entries = .ok as ↔
      (∀ e ∈ entries, l.width ≤ e.length) ∧ as = entries.map make := by
  induction entries generalizing as with
  | nil => simp [readEntries, eq_comm]
  | cons e rest ih =>
    by_cases he : l.width ≤ e.length
    · have hcons : l.readEntries (e :: rest) =
          l.readEntries rest >>= fun more => .ok (make e :: more) := by
        rw [readEntries, h e, if_pos he]
        rfl
      simp only [hcons, bind_eq_ok_iff, ih, List.forall_mem_cons, he, true_and, List.map_cons]
      constructor
      · rintro ⟨more, ⟨hall, rfl⟩, ⟨⟩⟩
        exact ⟨hall, rfl⟩
      · rintro ⟨hall, rfl⟩
        exact ⟨_, ⟨hall, rfl⟩, rfl⟩
    · simp [readEntries, h e, he]

/-- **What is read as a batch**: a list of lists of texts, none of them too short. -/
theorem readBatch_eq_ok_iff (h : l.Measures make) {s : String} {as : List α} :
    l.readBatch s = .ok as ↔ ∃ entries : List (List String),
      Json.read s = .ok (.array (entries.map fun e => .array (e.map .text))) ∧
      (∀ e ∈ entries, l.width ≤ e.length) ∧ as = entries.map make := by
  have hlist := Shape.list_eq_ok_iff (Shape.list_eq_ok_iff Shape.text_eq_ok_iff)
  simp only [readBatch, bind_eq_ok_iff, mapError_eq_ok_iff, hlist, readEntries_eq_ok_iff h]
  constructor
  · rintro ⟨document, hread, entries, rfl, hall⟩
    exact ⟨entries, hread, hall⟩
  · rintro ⟨entries, hread, hall⟩
    exact ⟨_, hread, entries, rfl, hall⟩

end Layout

/-- The step of an entry. -/
def Step.ofEntry (e : List String) : Step := ⟨e.getD 0 "", e.getD 1 ""⟩

/-- The step of an entry, and the reply that it expects. -/
def Check.ofEntry (e : List String) : Check := ⟨.ofEntry e, e.getD 2 ""⟩

theorem Step.layout_measures : Step.layout.Measures Step.ofEntry
  | [] | [_] => rfl
  | _ :: _ :: _ => (if_pos (Nat.le_add_left 2 _)).symm

theorem Check.layout_measures : Check.layout.Measures Check.ofEntry
  | [] | [_] | [_, _] => rfl
  | _ :: _ :: _ :: _ => (if_pos (Nat.le_add_left 3 _)).symm

namespace Console

/-- The batches of the program: steps that are only submitted, and steps with the replies that are
expected. -/
inductive Batch
  | apply
  | confirm

namespace Batch

/-- To run the batch of a file. -/
def task : Batch → String → Task
  | apply => .apply
  | confirm => .confirm

/-- The number of texts that an entry needs. -/
def width : Batch → Nat
  | apply => 2
  | confirm => 3

/-- Is the response to an entry one that it accepts? -/
def Accepts : Batch → List String → Response → Prop
  | apply, _, _ => True
  | confirm, e, r => Text.Alike r.display (e.getD 2 "")

/-- The entries of a file: it is a list of lists of texts, none of which is too short. -/
def Holds (b : Batch) (files : Files) (file : String) (entries : List (List String)) : Prop :=
  ∃ text, files file = .ok text ∧
    Json.read text = .ok (.array (entries.map fun e => .array (e.map .text))) ∧
    ∀ e ∈ entries, b.width ≤ e.length

/-- How a run ends in which some steps of a file were submitted, with some outcomes.  The steps of a
file that holds no batch are none, and the run fails.  Those of a batch are submitted up to and
including the first that fails, which the run then reports, and the run succeeds if and only if none
fails and each entry accepts the response to it. -/
inductive Ends (b : Batch) (files : Files) (file : String) :
    (made : List Step) → List (Except SessionFault Response) → Ending → Prop
  | invalid {ending : Ending} : (∀ entries, ¬ b.Holds files file entries) → ending.code = 1 →
      b.Ends files file [] [] ending
  | valid {entries : List (List String)} {made : List Step}
      {outcomes : List (Except SessionFault Response)} {ending : Ending} :
      b.Holds files file entries → UpToFailure (entries.map Step.ofEntry) made outcomes →
      (∀ e, .error e ∈ outcomes → ending.failure = some (.ofSession e)) →
      (ending.code = 0 ↔ ∃ responses, outcomes = responses.map .ok ∧
        List.Forall₂ b.Accepts entries responses) →
      b.Ends files file made outcomes ending

end Batch

theorem readBatch_eq_ok_iff {α : Type} {l : Layout α} {make : List String → α} {b : Batch}
    (h : l.Measures make) (hwidth : l.width = b.width) {files : Files} {file : String}
    {as : List α} :
    readBatch files l file = .ok as ↔
      ∃ entries, b.Holds files file entries ∧ as = entries.map make := by
  simp only [readBatch, bind_eq_ok_iff, mapError_eq_ok_iff, Layout.readBatch_eq_ok_iff h, hwidth,
    Batch.Holds]
  constructor
  · rintro ⟨text, hfile, entries, hread, hall, rfl⟩
    exact ⟨entries, ⟨text, hfile, hread, hall⟩, rfl⟩
  · rintro ⟨entries, ⟨text, hfile, hread, hall⟩, rfl⟩
    exact ⟨text, hfile, entries, hread, hall, rfl⟩

/-! ## What a batch comes to -/

/-- Confirmation finds no differences if every response is accepted. -/
theorem differences_eq_nil_iff {entries : List (List String)} {responses : List Response}
    (hlen : responses.length = entries.length) :
    Check.differences (entries.map Check.ofEntry) responses = [] ↔
      List.Forall₂ Batch.confirm.Accepts entries responses := by
  have hone : ∀ e r, (Check.ofEntry e).holds r = true ↔ Batch.confirm.Accepts e r :=
    fun e r => Text.alike_iff.symm
  rw [List.forall₂_iff_zip, Check.differences, List.filterMap_eq_nil_iff, List.zip_map_left]
  simp only [List.forall_mem_map, Prod.forall, Prod.map_apply, id, ite_eq_left_iff, reduceCtorEq,
    imp_false, not_not, hone, hlen, true_and]

section

variable {σ : Type} [Transport σ] (files : Files) (s : Session σ)

theorem applyAll_snd (steps : List Step) : (applyAll s steps).2 = (s.submitAll steps).2.2 := by
  simp only [applyAll]
  cases (s.submitAll steps).2.1 <;> rfl

theorem code_applyAll (steps : List Step) :
    (applyAll s steps).1.code = 0 ↔ (s.submitAll steps).2.1 = .ok () := by
  simp only [applyAll]
  cases (s.submitAll steps).2.1 <;> simp [Ending.code, Ending.failed, Ending.success]

theorem failure_applyAll {steps : List Step} {e : SessionFault}
    (h : (s.submitAll steps).2.1 = .error e) :
    (applyAll s steps).1.failure = some (.ofSession e) := by
  simp only [applyAll, h]
  rfl

theorem confirmAll_snd (checks : List Check) :
    (confirmAll s checks).2 = (s.submitAll (checks.map (·.toStep))).2.2 := by
  simp only [confirmAll]
  cases (s.submitAll (checks.map (·.toStep))).2.1 <;> rfl

theorem code_confirmAll (checks : List Check) :
    (confirmAll s checks).1.code = 0 ↔ (s.submitAll (checks.map (·.toStep))).2.1 = .ok () ∧
      Check.differences checks (s.submitAll (checks.map (·.toStep))).1 = [] := by
  simp only [confirmAll]
  cases (s.submitAll (checks.map (·.toStep))).2.1 with
  | error e => simp [Ending.code, Ending.failed]
  | ok u =>
    simp only [judge, true_and, ← List.isEmpty_iff]
    cases (Check.differences checks (s.submitAll (checks.map (·.toStep))).1).isEmpty <;>
      simp [Ending.code, Ending.failed, Ending.success]

theorem failure_confirmAll {checks : List Check} {e : SessionFault}
    (h : (s.submitAll (checks.map (·.toStep))).2.1 = .error e) :
    (confirmAll s checks).1.failure = some (.ofSession e) := by
  simp only [confirmAll, h]
  rfl

variable {files} {s} {b : Batch} {file : String}

/-- A file that holds no batch has nothing done. -/
theorem perform_of_not_holds (h : ∀ entries, ¬ b.Holds files file entries) :
    ∃ r, (b.task file).perform files s = (.failed [] r, s) := by
  have hread : ∀ {α : Type} {l : Layout α} {make : List String → α}, l.Measures make →
      l.width = b.width → ∃ r, readBatch files l file = .error r := by
    intro α l make hl hwidth
    cases hfile : readBatch files l file with
    | error r => exact ⟨r, rfl⟩
    | ok as =>
      obtain ⟨entries, hentries, -⟩ := (readBatch_eq_ok_iff hl hwidth).1 hfile
      exact absurd hentries (h entries)
  cases b with
  | apply =>
    obtain ⟨r, hr⟩ := hread Step.layout_measures rfl
    exact ⟨r, by simp only [Batch.task, Task.perform, hr]⟩
  | confirm =>
    obtain ⟨r, hr⟩ := hread Check.layout_measures rfl
    exact ⟨r, by simp only [Batch.task, Task.perform, hr]⟩

/-- A file that holds a batch has its steps submitted; the fault that ends that is reported, and the
run succeeds if there is none and each entry accepts the response to it. -/
theorem perform_of_holds {entries : List (List String)} (h : b.Holds files file entries) :
    ((b.task file).perform files s).2 = (s.submitAll (entries.map Step.ofEntry)).2.2 ∧
    (∀ e, (s.submitAll (entries.map Step.ofEntry)).2.1 = .error e →
      ((b.task file).perform files s).1.failure = some (.ofSession e)) ∧
    (((b.task file).perform files s).1.code = 0 ↔
      (s.submitAll (entries.map Step.ofEntry)).2.1 = .ok () ∧
      List.Forall₂ b.Accepts entries (s.submitAll (entries.map Step.ofEntry)).1) := by
  cases b with
  | apply =>
    have hfile := (readBatch_eq_ok_iff Step.layout_measures rfl).2 ⟨entries, h, rfl⟩
    simp only [Batch.task, Task.perform, hfile, applyAll_snd, code_applyAll, true_and]
    refine ⟨fun e he => failure_applyAll s he, (and_iff_left_of_imp fun hok => ?_).symm⟩
    refine List.forall₂_iff_zip.2 ⟨?_, fun _ => trivial⟩
    rw [Session.length_submitAll hok, List.length_map]
  | confirm =>
    have hfile := (readBatch_eq_ok_iff Check.layout_measures rfl).2 ⟨entries, h, rfl⟩
    have hsteps : (entries.map Check.ofEntry).map (·.toStep) = entries.map Step.ofEntry :=
      List.map_map
    simp only [Batch.task, Task.perform, hfile, confirmAll_snd, code_confirmAll, hsteps, true_and]
    refine ⟨fun e he => failure_confirmAll s (hsteps ▸ he), and_congr_right fun hok => ?_⟩
    refine differences_eq_nil_iff ?_
    rw [Session.length_submitAll hok, List.length_map]

/-- **A batch submits its steps and ends as they come out.** -/
theorem exists_ends (files : Files) (s : Session σ) (b : Batch) (file : String) :
    ∃ made outcomes,
      s.run (made.map (·.operation)) = (outcomes, ((b.task file).perform files s).2) ∧
      b.Ends files file made outcomes ((b.task file).perform files s).1 := by
  by_cases hfile : ∃ entries, b.Holds files file entries
  · obtain ⟨entries, hentries⟩ := hfile
    obtain ⟨hafter, hfailure, hcode⟩ := perform_of_holds (s := s) hentries
    obtain ⟨made, outcomes, hmade, hrun, houtcomes⟩ :=
      s.exists_submitAll (entries.map Step.ofEntry)
    refine ⟨made, outcomes, hafter ▸ hrun, .valid hentries hmade (fun e he => ?_) ?_⟩
    · exact hfailure e (Session.eq_of_error_mem (houtcomes ▸ he))
    simp only [hcode, houtcomes, Session.outcomesOf_eq_map_iff, and_assoc, exists_and_left,
      exists_eq_left]
  · have hnone : ∀ entries, ¬ b.Holds files file entries := fun entries h => hfile ⟨entries, h⟩
    obtain ⟨r, hperform⟩ := perform_of_not_holds (s := s) hnone
    rw [hperform]
    exact ⟨[], [], rfl, .invalid hnone rfl⟩

/-! ## Under observation -/

section Unobserved

variable (files) (s : Session (Observed σ))

theorem unobserved_applyAll (steps : List Step) :
    applyAll s.unobserved steps = ((applyAll s steps).1, (applyAll s steps).2.unobserved) := by
  simp only [applyAll, Session.unobserved_submitAll]
  cases (s.submitAll steps).2.1 <;> rfl

theorem unobserved_confirmAll (checks : List Check) :
    confirmAll s.unobserved checks =
      ((confirmAll s checks).1, (confirmAll s checks).2.unobserved) := by
  simp only [confirmAll, Session.unobserved_submitAll]
  cases (s.submitAll (checks.map (·.toStep))).2.1 <;> rfl

theorem unobserved_submitOne (command : String) (args : List String) :
    submitOne s.unobserved command args =
      ((submitOne s command args).1, (submitOne s command args).2.unobserved) := by
  have hsubmit := s.unobserved_give command (.texts args)
  simp only [Session.give] at hsubmit
  simp only [submitOne, hsubmit]
  cases s.submitTexts command args with
  | mk outcome after => cases outcome <;> rfl

theorem unobserved_perform (t : Task) :
    t.perform files s.unobserved =
      ((t.perform files s).1, (t.perform files s).2.unobserved) := by
  cases t with
  | submit command args => exact unobserved_submitOne s command args
  | apply file =>
    cases hfile : readBatch files Step.layout file with
    | error r => simp only [Task.perform, hfile]
    | ok steps => simp only [Task.perform, hfile, unobserved_applyAll]
  | confirm file =>
    cases hfile : readBatch files Check.layout file with
    | error r => simp only [Task.perform, hfile]
    | ok checks => simp only [Task.perform, hfile, unobserved_confirmAll]

/-- **A task is done the same under observation.** -/
theorem unobserved_taskRun (t : Task) :
    t.run files s.unobserved = ((t.run files s).1, (t.run files s).2.unobserved) := by
  simp only [Task.run, s.unobserved_connect]
  cases hconnect : s.connect with
  | mk outcome after =>
    cases outcome with
    | error e => rfl
    | ok u => simp only [unobserved_perform, Session.unobserved_disconnect]

end Unobserved

end

/-! ## Runs of the program -/

/-- A session that was loaded is not connected. -/
theorem connected_of_load {ρ : Type} {file : Except IoFault String} {around : Surroundings ρ}
    {s : Session (TransportOver ρ)} (h : Session.load file around = .ok s) : s.connected = false := by
  obtain ⟨text, -, h⟩ := bind_eq_ok_iff.1 h
  obtain ⟨schema, -, h⟩ := bind_eq_ok_iff.1 h
  obtain ⟨transport, -, h⟩ := bind_eq_ok_iff.1 (mapError_eq_ok_iff.1 h)
  obtain ⟨profile, -, h⟩ := bind_eq_ok_iff.1 h
  cases h
  rfl

open Session

/-- **A batch is submitted in order up to the first failure, and then the instrument is
disconnected**, whatever it does.  The program starts from a session that is not connected, and its
run is that of the task.  Once connecting succeeded, the run is a connect, submissions and a
disconnect, in the session that it leaves and in the calls that it makes; between the one connect and
the one disconnect there is nothing but commands.  If the file holds no batch nothing is submitted
and the run fails.  Otherwise the submissions are the steps of its entries up to and including the
first that fails, and the run succeeds if and only if all succeed and each entry accepts the
response to it. -/
theorem batch_run (b : Batch) (files : Files) (file : String) :
    (∀ (i : Invocation) (path : String) (around : Surroundings JsonRpc) (s : Session AnyTransport),
      i.schema = some path → i.action = .online (b.task file) →
      Session.load (files path) around = .ok s →
      s.connected = false ∧ i.run files around = .ended ((b.task file).run files s).1) ∧
    ∀ {σ : Type} [Transport σ] (s : Session σ), s.connected = false → s.connect.1 = .ok () →
      ∃ made outcomes closing sent closed,
        let ops := .connect :: (made.map Step.operation ++ [.disconnect])
        b.Ends files file made outcomes ((b.task file).run files s).1 ∧
        s.run ops = (.ok .none :: (outcomes ++ [closing]), ((b.task file).run files s).2) ∧
        ((b.task file).run files s.observed).2.transport.contacts = s.contacts ops ∧
        s.contacts ops = ⟨.connect, true⟩ :: (sent ++ [⟨.disconnect, closed⟩]) ∧
        ∀ contact ∈ sent, ∃ text args, contact.call.Transmits text args := by
  refine ⟨fun i path around s hpath haction hload => ⟨connected_of_load hload, ?_⟩,
    fun s hs hconnect => ?_⟩
  · simp only [Invocation.run, hpath, hload, haction, Action.run]
  · obtain ⟨o, ho, hconnected, hcontacts⟩ := exists_connect hs hconnect
    obtain ⟨made, outcomes, hrun, hends⟩ := exists_ends files o b file
    obtain ⟨hstill, sent, hsent, htransmits⟩ := goesOn_run o made
    generalize hperform : (b.task file).perform files o = performed at hrun hends
    rw [hrun] at hstill hsent
    obtain ⟨closed, hclosed⟩ := exists_disconnect (hstill.trans hconnected)
    have htask : (b.task file).run files s.observed = (performed.1, performed.2.disconnect.2) := by
      simp only [Task.run, ho, hperform]
    have hops : s.observed.run (.connect :: (made.map (·.operation) ++ [.disconnect])) =
        (.ok .none :: (outcomes ++ [(performed.2.perform .disconnect).1]),
          performed.2.disconnect.2) := by
      rw [run_cons, perform, ho, run_append, hrun, run_cons]
      rfl
    have htask' : (b.task file).run files s = (performed.1, performed.2.disconnect.2.unobserved) := by
      have hunobserved := unobserved_taskRun files s.observed (b.task file)
      rwa [htask] at hunobserved
    refine ⟨made, outcomes, (performed.2.perform .disconnect).1, sent, closed, ?_, ?_, ?_, ?_,
      htransmits⟩
    · rw [htask']
      exact hends
    · have hunobserved := s.observed.unobserved_run
        (.connect :: (made.map (·.operation) ++ [.disconnect]))
      rw [hops] at hunobserved
      rw [htask']
      exact hunobserved
    · rw [htask, contacts, hops]
    · rw [contacts, hops]
      show performed.2.disconnect.2.transport.contacts = _
      rw [hclosed, hsent, hcontacts]
      rfl

/-! ## A bell

An instrument with one command, which has no reply. -/

namespace Bell

/-- The file of the bell's schema. -/
def text : String :=
  String.ofList <| List.flatMap String.toList
    ["\x7b\"name\": \"bell\", ", "\"connectionProperties\": ", "\x7b\"type\": \"tcp\", ",
     "\"host\": \"h\", ", "\"port\": 9\x7d, ", "\"parameters\": \x7b\x7d, ",
     "\"commands\": ", "\x7b\"ring\": ", "\x7b\"command\": \"R\"\x7d\x7d\x7d"]

/-- What the file holds. -/
def document : Json :=
  .object
    [("commands", .object [("ring", .object [("command", .text "R")])]),
     ("connectionProperties",
      .object [("host", .text "h"), ("port", .integer 9), ("type", .text "tcp")]),
     ("name", .text "bell"), ("parameters", .object [])]

/-- The schema of the bell. -/
def schema : Schema where
  name := "bell"
  description := none
  connection := .stream ⟨"h", 9, 1000, "", none, none⟩
  failure := none
  marker := none
  parameters := []
  commands := [("ring", ⟨none, "R", none, none, none⟩)]

/-- The bell can be reached once. -/
def around : Surroundings JsonRpc := { Surroundings.none with links := [.ok (.ofDevice [] [] [])] }

/-- Three entries, of which the second has no command. -/
def entries : List (List String) := [["ring", ""], ["dim", ""], ["ring", ""]]

/-- The file of the entries. -/
def steps : String :=
  String.ofList <| List.flatMap String.toList
    ["[[\"ring\", \"\"], ", "[\"dim\", \"\"], ", "[\"ring\", \"\"]]"]

/-- Both files. -/
def files : Files := fun path => .ok (if path = "bell.json" then text else steps)

theorem read_text : Schema.read text = .ok schema := by
  have hread : Json.read text = .ok document := Json.read_ofList (by decide +kernel)
  rw [Schema.read, hread]
  rfl

theorem load_eq_ok {s : Session AnyTransport} (h : Session.ofSchema schema around = .ok s) :
    Session.load (files "bell.json") around = .ok s :=
  bind_eq_ok_iff.2 ⟨text, rfl, bind_eq_ok_iff.2 ⟨schema, mapError_eq_ok_iff.2 read_text,
    mapError_eq_ok_iff.2 h⟩⟩

theorem holds_entries : Batch.apply.Holds files "steps.json" entries := by
  have hread : Json.read steps = .ok (.array (entries.map fun e => .array (e.map .text))) :=
    Json.read_ofList (by decide +kernel)
  exact ⟨steps, rfl, hread, by decide⟩

end Bell

/-- The bell is rung once, and then a step follows for which it has no command. -/
theorem batch_run_bell :
    ∃ s, Session.load (Bell.files "bell.json") Bell.around = .ok s ∧ s.connected = false ∧
      s.connect.1 = .ok () ∧ Batch.apply.Holds Bell.files "steps.json" Bell.entries ∧
      let i : Invocation := ⟨some "bell.json", false, .online (.apply "steps.json")⟩
      let t := Batch.apply.task "steps.json"
      i.run Bell.files Bell.around = .ended (t.run Bell.files s).1 ∧
      ∃ made outcomes sent closed,
        Batch.apply.Ends Bell.files "steps.json" made outcomes (t.run Bell.files s).1 ∧
        (t.run Bell.files s.observed).2.transport.contacts =
          ⟨.connect, true⟩ :: (sent ++ [⟨.disconnect, closed⟩]) := by
  have hmade : (Session.ofSchema Bell.schema Bell.around).map (·.connect.1) = .ok (.ok ()) := rfl
  obtain ⟨s, hs, hconnect⟩ := map_eq_ok_iff.1 hmade
  have hload := Bell.load_eq_ok hs
  obtain ⟨hprogram, hrun⟩ := batch_run .apply Bell.files "steps.json"
  obtain ⟨hclosed, hended⟩ := hprogram ⟨some "bell.json", false, .online (.apply "steps.json")⟩
    "bell.json" Bell.around s rfl rfl hload
  obtain ⟨made, outcomes, closing, sent, closed, hends, -, hcontacts, hcalls, -⟩ :=
    hrun s hclosed hconnect
  exact ⟨s, hload, hclosed, hconnect, Bell.holds_entries, hended, made, outcomes, sent, closed,
    hends, hcontacts.trans hcalls⟩

end Console

end Instrument
