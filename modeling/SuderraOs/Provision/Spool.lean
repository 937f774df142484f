import Mathlib.Logic.Function.Basic
import Mathlib.Tactic.SplitIfs

/-!
# The provisioning spool

`suderra-provision`, which an SSH session runs for each command, and `suderra-provision-worker`, which systemd starts when the inbox
changes. They share one inbox and one result file, and nothing in them says whose request they hold. The state is what stands in the
spool, where each session is in its script and where the worker is; every command on a file is a step, and any session or the worker may
take the next one. A file is known by its inode, so that what a session still writes to it goes with it when the worker moves it.
-/

namespace SuderraOs.Provision

abbrev Bytes := List UInt8

/-- The two requests: by the URL of a manifest, or with the manifest itself. -/
inductive Kind where
  | url
  | json
  deriving DecidableEq, Repr

def Kind.other : Kind → Kind
  | .url => .json
  | .json => .url

def newline : UInt8 := 10

/-- What a session asks for. A URL is one word of a command, so it is not empty and has no newline. -/
structure Request where
  kind : Kind
  body : Bytes
  word : kind = .url → body ≠ [] ∧ newline ∉ body

/-- What a session writes into its file: a URL ends with a newline. -/
def Request.content (r : Request) : Bytes := if r.kind = .url then r.body ++ [newline] else r.body

/-- What is given to `suderra-edge-install`. -/
structure Manifest where
  kind : Kind
  body : Bytes
  deriving DecidableEq, Repr

def Request.manifest (r : Request) : Manifest := ⟨r.kind, r.body⟩

/-- What the worker makes of the file of a request: the first line of a URL. -/
def manifestOf (kind : Kind) (content : Bytes) : Manifest :=
  ⟨kind, if kind = .url then content.takeWhile (· ≠ newline) else content⟩

theorem manifestOf_content (r : Request) : manifestOf r.kind r.content = r.manifest := by
  unfold manifestOf Request.content Request.manifest
  split
  · next hkind =>
    have hline : ∀ b ∈ r.body, (b ≠ newline) := fun b hb heq => (r.word hkind).2 (heq ▸ hb)
    rw [List.takeWhile_append_of_pos (by simpa using hline)]
    simp
  · rfl

/-- Where a session is in its script. The number of a session that is done is its exit status. -/
inductive SessionPc where
  | ready
  | opening
  | writing (inode offset : Nat)
  | clearing
  | touching
  | waiting
  | reading
  | checking
  | done (status : Nat)
  deriving DecidableEq, Repr

/-- A session that has written its file and is not done. -/
def SessionPc.Past : SessionPc → Prop
  | .clearing | .touching | .waiting | .reading | .checking => True
  | _ => False

/-- A session that has removed the result file and is not done. -/
def SessionPc.Active : SessionPc → Prop
  | .ready | .done _ => False
  | _ => True

/-- A session; one whose command is no request ends with the usage. -/
structure Session where
  request : Option Request
  pc : SessionPc

/-- What stands in the result file. By which run it was written is not in the file. -/
structure Report where
  ok : Bool
  message : String
  run : Nat
  deriving DecidableEq, Repr

/-- Where the worker is in its script. -/
inductive WorkerPc where
  | started
  | preparing
  | looking (kind : Kind)
  | found (kind : Kind)
  | moved (kind : Kind)
  | claimed (kind : Kind)
  | opening (kind : Kind)
  | installing (manifest : Manifest)
  | reporting (ok : Bool) (message : String)
  | publishing (ok : Bool) (message : String)
  | cleaning
  deriving DecidableEq, Repr

structure Worker where
  run : Nat
  pc : WorkerPc
  deriving DecidableEq, Repr

/-- A call of `suderra-edge-install` that has ended. -/
structure Installation where
  run : Nat
  manifest : Manifest
  ok : Bool
  deriving DecidableEq, Repr

/-- The spool, the sessions and the worker; and what has happened: which sessions have written their whole file, what was installed
and what the sessions have printed. -/
structure State where
  inbox : Kind → Option Nat
  trigger : Bool
  transaction : Kind → Option Nat
  result : Option Report
  contents : Nat → Bytes
  inodes : Nat
  sessions : Nat → Session
  worker : Option Worker
  runs : Nat
  modified : Bool
  completed : List Nat
  installed : List Installation
  printed : List (Nat × Report)

namespace State

def pc (s : State) (i : Nat) : SessionPc := (s.sessions i).pc

def request (s : State) (i : Nat) : Option Request := (s.sessions i).request

/-- The state with a session at another place of its script. -/
def setPc (s : State) (i : Nat) (pc : SessionPc) : State :=
  { s with sessions := Function.update s.sessions i { s.sessions i with pc := pc } }

/-- The state with the worker at another place of its script. -/
def setWorker (s : State) (w : Worker) (pc : WorkerPc) : State := { s with worker := some { w with pc := pc } }

@[simp] theorem request_setPc (s : State) (i : Nat) (pc : SessionPc) (j : Nat) : (s.setPc i pc).request j = s.request j := by
  by_cases h : j = i
  · subst h
    simp [setPc, request]
  · simp [setPc, request, h]

theorem pc_setPc (s : State) (i : Nat) (pc : SessionPc) (j : Nat) : (s.setPc i pc).pc j = if j = i then pc else s.pc j := by
  by_cases h : j = i
  · subst h
    simp [setPc, State.pc]
  · simp [setPc, State.pc, h]

end State

/-- Write some bytes at an offset; what is left out before it is filled with zeros. -/
def overwrite (content : Bytes) (offset : Nat) (bytes : Bytes) : Bytes :=
  (content ++ List.replicate (offset - content.length) 0).take offset ++ bytes ++ content.drop (offset + bytes.length)

/-- A step: of a session, of systemd or of the worker. -/
inductive Action where
  /-- `rm -f` of the result file, before the command is looked at. -/
  | begin (i : Nat)
  | openFile (i : Nat)
  | write (i count : Nat)
  | close (i : Nat)
  | removeOther (i : Nat)
  | touch (i : Nat)
  /-- Look for the result file. -/
  | look (i : Nat)
  /-- `cat` of the result file. -/
  | print (i : Nat)
  /-- `grep` in the result file. -/
  | check (i : Nat)
  | giveUp (i : Nat)
  | die (i : Nat)
  | wake
  | checkLock (locked : Bool)
  | prepare
  | lookFor
  | move
  | checkMoved
  | clearInbox
  | readManifest
  | install (ok : Bool)
  | writeReport
  | publish
  | clean
  deriving Repr

/-- Where the worker goes when there is no request of a kind. -/
def nextKind : Kind → WorkerPc
  | .url => .looking .json
  | .json => .reporting false "no provisioning request found"

/-- A step of a session that has a request. -/
def sessionStep (s : State) (i : Nat) (r : Request) : Action → Option State
  | .openFile _ =>
    if s.pc i = .opening then
      match s.inbox r.kind with
      | some n => some { s.setPc i (.writing n 0) with contents := Function.update s.contents n [], modified := true }
      | none =>
        some { s.setPc i (.writing s.inodes 0) with
          contents := Function.update s.contents s.inodes [], inbox := Function.update s.inbox r.kind (some s.inodes),
          inodes := s.inodes + 1, modified := true }
    else none
  | .write _ count =>
    match s.pc i with
    | .writing n offset =>
      if 0 < count ∧ offset + count ≤ r.content.length then
        some { s.setPc i (.writing n (offset + count)) with
          contents := Function.update s.contents n (overwrite (s.contents n) offset ((r.content.drop offset).take count)),
          modified := s.modified || s.inbox r.kind = some n }
      else none
    | _ => none
  | .close _ =>
    match s.pc i with
    | .writing n offset =>
      if offset = r.content.length then
        some { s.setPc i .clearing with completed := i :: s.completed, modified := s.modified || s.inbox r.kind = some n }
      else none
    | _ => none
  | .removeOther _ =>
    if s.pc i = .clearing then
      some { s.setPc i .touching with
        inbox := Function.update s.inbox r.kind.other none, modified := s.modified || (s.inbox r.kind.other).isSome }
    else none
  | .touch _ => if s.pc i = .touching then some { s.setPc i .waiting with trigger := true, modified := true } else none
  | .look _ => if s.pc i = .waiting then some (s.setPc i (if s.result.isSome then .reading else .waiting)) else none
  | .print _ =>
    if s.pc i = .reading then
      match s.result with
      | some report => some { s.setPc i .checking with printed := (i, report) :: s.printed }
      | none => some (s.setPc i (.done 1))
    else none
  | .check _ => if s.pc i = .checking then some (s.setPc i (.done (if s.result.any Report.ok then 0 else 1))) else none
  | .giveUp _ => if s.pc i = .waiting then some (s.setPc i (.done 1)) else none
  | _ => none

/-- A step of the worker. -/
def workerStep (s : State) (w : Worker) : Action → Option State
  | .checkLock locked =>
    if w.pc = .started then some (s.setWorker w (if locked then .reporting false "device is locked" else .preparing)) else none
  | .prepare => if w.pc = .preparing then some { s.setWorker w (.looking .url) with transaction := fun _ => none } else none
  | .lookFor =>
    match w.pc with
    | .looking kind => some (s.setWorker w (if (s.inbox kind).isSome then .found kind else nextKind kind))
    | _ => none
  | .move =>
    match w.pc with
    | .found kind =>
      match s.inbox kind with
      | some n =>
        some { s.setWorker w (.moved kind) with
          inbox := Function.update s.inbox kind none, transaction := Function.update s.transaction kind (some n), modified := true }
      | none => some (s.setWorker w (nextKind kind))
    | _ => none
  | .checkMoved =>
    match w.pc with
    | .moved kind => some (s.setWorker w (if (s.transaction kind).any (fun n => s.contents n ≠ []) then .claimed kind else nextKind kind))
    | _ => none
  | .clearInbox =>
    match w.pc with
    | .claimed kind =>
      some { s.setWorker w (.opening kind) with
        inbox := fun _ => none, trigger := false, modified := s.modified || (s.inbox .url).isSome || (s.inbox .json).isSome || s.trigger }
    | _ => none
  | .readManifest =>
    match w.pc with
    | .opening kind => (s.transaction kind).map fun n => s.setWorker w (.installing (manifestOf kind (s.contents n)))
    | _ => none
  | .install ok =>
    match w.pc with
    | .installing manifest =>
      some { s.setWorker w (.reporting ok (if ok then "edge install completed" else "edge install failed")) with
        installed := ⟨w.run, manifest, ok⟩ :: s.installed }
    | _ => none
  | .writeReport =>
    match w.pc with
    | .reporting ok message => some (s.setWorker w (.publishing ok message))
    | _ => none
  | .publish =>
    match w.pc with
    | .publishing ok message =>
      some { s with result := some ⟨ok, message, w.run⟩, worker := if ok then some { w with pc := .cleaning } else none }
    | _ => none
  | .clean => if w.pc = .cleaning then some { s with transaction := fun _ => none, worker := none } else none
  | _ => none

/-- The session of a step, if it is one of a session. -/
def Action.session : Action → Option Nat
  | .begin i | .openFile i | .write i _ | .close i | .removeOther i | .touch i | .look i | .print i | .check i | .giveUp i | .die i =>
    some i
  | _ => none

/-- A step, if it can be taken. systemd starts the worker when the inbox was modified and no run of it is left. -/
def step (s : State) (a : Action) : Option State :=
  match a with
  | .begin i =>
    if s.pc i = .ready then some { s.setPc i (if (s.request i).isSome then .opening else .done 2) with result := none } else none
  | .die i =>
    match s.pc i with
    | .ready => none
    | .done _ => none
    | _ => some (s.setPc i (.done 129))
  | .wake =>
    if s.worker = none ∧ s.modified = true then
      some { s with worker := some ⟨s.runs, .started⟩, runs := s.runs + 1, modified := false }
    else none
  | a =>
    match a.session with
    | some i => (s.request i).bind fun r => sessionStep s i r a
    | none => s.worker.bind fun w => workerStep s w a

/-- Take steps one after the other. -/
def steps (s : State) (actions : List Action) : Option State := actions.foldlM step s

/-- The spool before anything has happened, with what each session is going to ask for. -/
def start (requests : Nat → Option Request) : State where
  inbox := fun _ => none
  trigger := false
  transaction := fun _ => none
  result := none
  contents := fun _ => []
  inodes := 0
  sessions := fun i => ⟨requests i, .ready⟩
  worker := none
  runs := 0
  modified := false
  completed := []
  installed := []
  printed := []

/-! ## What should hold -/

/-- A session that printed a success had its manifest installed by the run that wrote the result. -/
def ResultsAreOwn (s : State) : Prop :=
  ∀ p ∈ s.printed, p.2.ok = true → ∃ r, s.request p.1 = some r ∧ ⟨p.2.run, r.manifest, true⟩ ∈ s.installed

/-- What was installed is what a session had written to its end. -/
def InstallsAreWhole (s : State) : Prop :=
  ∀ e ∈ s.installed, ∃ i ∈ s.completed, ∃ r, s.request i = some r ∧ r.manifest = e.manifest

/-! ## One request at a time -/

/-- Whether the worker has a request, or a success to report. -/
def WorkerPc.Holds : WorkerPc → Prop
  | .moved _ | .claimed _ | .opening _ | .installing _ | .reporting true _ | .publishing true _ => True
  | _ => False

def State.Holds (s : State) : Prop := ∃ w, s.worker = some w ∧ w.pc.Holds

/-- A step that comes into the way of no request: a session begins when no other one is active, no request is in the inbox and the
worker has none; the worker takes a file that no session is writing; no session dies while it writes. -/
def Calm (s : State) : Action → Prop
  | .begin _ => (∀ j, ¬ (s.pc j).Active) ∧ (∀ kind, s.inbox kind = none) ∧ ¬ s.Holds
  | .move => ∀ w kind n, s.worker = some w → w.pc = .found kind → s.inbox kind = some n → ∀ i offset, s.pc i ≠ .writing n offset
  | .die i => ∀ n offset, s.pc i ≠ .writing n offset
  | _ => True

/-- The states that calm steps lead to. -/
inductive CalmlyReachable (requests : Nat → Option Request) : State → Prop
  | start : CalmlyReachable requests (start requests)
  | step {s s' : State} {a : Action} (h : CalmlyReachable requests s) (hcalm : Calm s a) (hstep : step s a = some s') :
    CalmlyReachable requests s'

/-- No session but this one is active. -/
def State.Only (s : State) (j : Nat) : Prop := ∀ i, (s.pc i).Active → i = j

/-- A file holds what a session has written to its end, and no other session is active. -/
def Owns (s : State) (j : Nat) (kind : Kind) (content : Bytes) : Prop :=
  j ∈ s.completed ∧ (∃ r, s.request j = some r ∧ r.kind = kind ∧ content = r.content) ∧ s.Only j

/-- What the worker has in its hands is one session's, at each place of its script. -/
def WorkerOwns (s : State) (run : Nat) : WorkerPc → Prop
  | .moved kind | .claimed kind | .opening kind => ∃ n, s.transaction kind = some n ∧ ∃ j, Owns s j kind (s.contents n)
  | .installing manifest => ∃ j, j ∈ s.completed ∧ (∃ r, s.request j = some r ∧ r.manifest = manifest) ∧ s.Only j
  | .reporting true _ | .publishing true _ => ∃ j, (∃ r, s.request j = some r ∧ ⟨run, r.manifest, true⟩ ∈ s.installed) ∧ s.Only j
  | _ => True

/-- The invariant of calm runs. -/
structure Inv (s : State) : Prop where
  exclusive : ∀ i, (s.pc i).Active → s.Only i
  opening : ∀ i, s.pc i = .opening → (∀ kind, s.inbox kind = none) ∧ ¬ s.Holds
  writing : ∀ i n offset, s.pc i = .writing n offset → ¬ s.Holds ∧ ∃ r, s.request i = some r ∧ offset ≤ r.content.length ∧
    s.contents n = r.content.take offset ∧ ∀ kind m, s.inbox kind = some m → kind = r.kind ∧ m = n
  past : ∀ i, (s.pc i).Past → i ∈ s.completed
  whole : (∀ i n offset, s.pc i ≠ .writing n offset) → ∀ kind n, s.inbox kind = some n → ∃ j, Owns s j kind (s.contents n)
  worker : ∀ w, s.worker = some w → WorkerOwns s w.run w.pc
  result : ∀ report, s.result = some report → report.ok = true → ∀ i, (s.pc i).Active →
    ∃ r, s.request i = some r ∧ ⟨report.run, r.manifest, true⟩ ∈ s.installed
  results : ResultsAreOwn s
  installs : InstallsAreWhole s

theorem inv_start (requests : Nat → Option Request) : Inv (start requests) := by
  constructor
  · exact fun _ hactive => hactive.elim
  · exact fun _ hpc => nomatch hpc
  · exact fun _ _ _ hpc => nomatch hpc
  · exact fun _ hpast => hpast.elim
  · exact fun _ _ _ hinbox => nomatch hinbox
  · exact fun _ hw => nomatch hw
  · exact fun _ hresult => nomatch hresult
  · exact fun _ hp => nomatch hp
  · exact fun _ he => nomatch he

/-! ### What a change keeps -/

section Keeps

variable {s s' : State} {i j : Nat} {kind : Kind} {content : Bytes}

theorem active_of_past {pc : SessionPc} (h : pc.Past) : pc.Active := by
  cases pc <;> first | exact h.elim | trivial

/-- Where no session becomes active, the only one stays the only one. -/
theorem State.Only.mono (h : s.Only j) (hactive : ∀ i, (s'.pc i).Active → (s.pc i).Active) : s'.Only j :=
  fun i hi => h i (hactive i hi)

theorem Owns.mono (h : Owns s j kind content) (hcompleted : ∀ j ∈ s.completed, j ∈ s'.completed) (hrequest : s'.request j = s.request j)
    (hactive : ∀ i, (s'.pc i).Active → (s.pc i).Active) : Owns s' j kind content :=
  ⟨hcompleted j h.1, hrequest ▸ h.2.1, h.2.2.mono hactive⟩

theorem WorkerOwns.mono {run : Nat} {pc : WorkerPc} (h : WorkerOwns s run pc) (htransaction : s'.transaction = s.transaction)
    (hcontents : s'.contents = s.contents) (hcompleted : ∀ j ∈ s.completed, j ∈ s'.completed)
    (hinstalled : ∀ e ∈ s.installed, e ∈ s'.installed) (hrequest : ∀ j, s'.request j = s.request j)
    (hactive : ∀ i, (s'.pc i).Active → (s.pc i).Active) : WorkerOwns s' run pc := by
  cases pc with
  | moved kind | claimed kind | opening kind =>
    obtain ⟨n, hn, j, howns⟩ := h
    exact ⟨n, htransaction ▸ hn, j, hcontents ▸ howns.mono hcompleted (hrequest j) hactive⟩
  | installing manifest =>
    obtain ⟨j, hj, hr, honly⟩ := h
    exact ⟨j, hcompleted j hj, hrequest j ▸ hr, honly.mono hactive⟩
  | reporting ok message | publishing ok message =>
    cases ok with
    | false => trivial
    | true =>
      obtain ⟨j, ⟨r, hr, hmem⟩, honly⟩ := h
      exact ⟨j, ⟨r, (hrequest j).trans hr, hinstalled _ hmem⟩, honly.mono hactive⟩
  | _ => trivial

/-- What no command reads of the invariant may change. -/
theorem Inv.bookkeeping (h : Inv s) (trigger modified : Bool) (runs inodes : Nat) :
    Inv { s with trigger := trigger, modified := modified, runs := runs, inodes := inodes } :=
  ⟨h.exclusive, h.opening, h.writing, h.past, h.whole, h.worker, h.result, h.results, h.installs⟩

/-- A session that writes nothing goes on in its script, or ends. -/
theorem Inv.setPc (h : Inv s) {pc : SessionPc} (hold : ∀ n offset, s.pc i ≠ .writing n offset) (hactive : pc.Active → (s.pc i).Active)
    (hopening : pc ≠ .opening) (hwriting : ∀ n offset, pc ≠ .writing n offset) (hpast : pc.Past → i ∈ s.completed) :
    Inv (s.setPc i pc) := by
  have hkept : ∀ j, ((s.setPc i pc).pc j).Active → (s.pc j).Active := by
    intro j hj
    rw [s.pc_setPc] at hj
    split_ifs at hj with hji
    · exact hji ▸ hactive hj
    · exact hj
  have hother : ∀ j, j ≠ i → (s.setPc i pc).pc j = s.pc j := fun j hj => by rw [s.pc_setPc, if_neg hj]
  have hself : (s.setPc i pc).pc i = pc := by rw [s.pc_setPc, if_pos rfl]
  constructor
  · exact fun j hj => (h.exclusive j (hkept j hj)).mono hkept
  · intro j hj
    by_cases hji : j = i
    · subst hji
      exact absurd (hself.symm.trans hj) hopening
    · exact h.opening j (hother j hji ▸ hj)
  · intro j n offset hj
    by_cases hji : j = i
    · subst hji
      exact absurd (hself.symm.trans hj) (hwriting n offset)
    · obtain ⟨hholds, r, hr, hrest⟩ := h.writing j n offset (hother j hji ▸ hj)
      exact ⟨hholds, r, (s.request_setPc i pc j).trans hr, hrest⟩
  · intro j hj
    by_cases hji : j = i
    · subst hji
      exact hpast (hself ▸ hj)
    · exact h.past j (hother j hji ▸ hj)
  · intro hnone kind n hinbox
    have hnone' : ∀ j n offset, s.pc j ≠ .writing n offset := by
      intro j n offset
      by_cases hji : j = i
      · exact hji ▸ hold n offset
      · exact hother j hji ▸ hnone j n offset
    obtain ⟨j, howns⟩ := h.whole hnone' kind n hinbox
    exact ⟨j, howns.mono (fun _ hj => hj) (s.request_setPc i pc j) hkept⟩
  · exact fun w hw => (h.worker w hw).mono rfl rfl (fun _ hj => hj) (fun _ he => he) (s.request_setPc i pc) hkept
  · intro report hreport hok j hj
    obtain ⟨r, hr, hmem⟩ := h.result report hreport hok j (hkept j hj)
    exact ⟨r, (s.request_setPc i pc j).trans hr, hmem⟩
  · intro p hp hok
    obtain ⟨r, hr, hmem⟩ := h.results p hp hok
    exact ⟨r, (s.request_setPc i pc p.1).trans hr, hmem⟩
  · intro e he
    obtain ⟨j, hj, r, hr, hmanifest⟩ := h.installs e he
    exact ⟨j, hj, r, (s.request_setPc i pc j).trans hr, hmanifest⟩

/-- Files leave the inbox. -/
theorem Inv.setInbox (h : Inv s) {inbox : Kind → Option Nat} (hinbox : ∀ kind n, inbox kind = some n → s.inbox kind = some n) :
    Inv { s with inbox := inbox } := by
  refine ⟨h.exclusive, fun i hi => ⟨fun kind => ?_, (h.opening i hi).2⟩, fun i n offset hi => ?_, h.past,
    fun hnone kind n hn => h.whole hnone kind n (hinbox kind n hn), h.worker, h.result, h.results, h.installs⟩
  · cases hkind : inbox kind with
    | none => exact hkind
    | some n => exact absurd (hinbox kind n hkind) (by simp [(h.opening i hi).1 kind])
  · obtain ⟨hholds, r, hr, hoffset, hcontents, honly⟩ := h.writing i n offset hi
    exact ⟨hholds, r, hr, hoffset, hcontents, fun kind m hm => honly kind m (hinbox kind m hm)⟩

/-- The worker goes on in its script, or ends; it does not come to hold anything. -/
theorem Inv.setWorker (h : Inv s) {worker : Option Worker} {transaction : Kind → Option Nat}
    (hholds : ∀ w, worker = some w → w.pc.Holds → s.Holds)
    (howns : ∀ w, worker = some w → WorkerOwns { s with transaction := transaction } w.run w.pc) :
    Inv { s with worker := worker, transaction := transaction } := by
  have hnone : ¬ s.Holds → ¬ State.Holds { s with worker := worker, transaction := transaction } :=
    fun hnot ⟨w, hw, hpc⟩ => hnot (hholds w hw hpc)
  refine ⟨h.exclusive, fun i hi => ⟨(h.opening i hi).1, hnone (h.opening i hi).2⟩, fun i n offset hi => ?_, h.past, h.whole,
    fun w hw => (howns w hw).mono rfl rfl (fun _ hj => hj) (fun _ he => he) (fun _ => rfl) (fun _ hi => hi), h.result, h.results,
    h.installs⟩
  obtain ⟨hnot, hrest⟩ := h.writing i n offset hi
  exact ⟨hnone hnot, hrest⟩

end Keeps

/-! ### The steps of a session -/

section Sessions

variable {s s' : State} {i : Nat} {r : Request}

theorem inv_begin (h : Inv s) (hcalm : Calm s (.begin i)) (hstep : step s (.begin i) = some s') : Inv s' := by
  obtain ⟨hidle, hinbox, hholds⟩ := hcalm
  simp only [step] at hstep
  split_ifs at hstep with hready hrequest
  all_goals obtain rfl := Option.some.inj hstep
  · -- the session is the only active one, and there is nothing that it could find of another one
    have hpc : ∀ j, (s.setPc i .opening).pc j = if j = i then .opening else s.pc j := s.pc_setPc i .opening
    have honly : (s.setPc i .opening).Only i := by
      intro j hj
      rw [hpc] at hj
      split_ifs at hj with hji
      · exact hji
      · exact absurd hj (hidle j)
    constructor
    · intro j hj
      rw [honly j hj]
      exact honly
    · exact fun j _ => ⟨hinbox, hholds⟩
    · intro j n offset hj
      have hj' : (s.setPc i .opening).pc j = .writing n offset := hj
      rw [hpc] at hj'
      split_ifs at hj'
      exact absurd (hj' ▸ trivial : (s.pc j).Active) (hidle j)
    · intro j hj
      have hj' : ((s.setPc i .opening).pc j).Past := hj
      rw [hpc] at hj'
      split_ifs at hj'
      · exact hj'.elim
      · exact h.past j hj'
    · intro _ kind n hn
      exact absurd (show s.inbox kind = some n from hn) (by simp [hinbox kind])
    · intro w hw
      have hw' : s.worker = some w := hw
      have hnot : ¬ w.pc.Holds := fun hpc => hholds ⟨w, hw', hpc⟩
      rcases w with ⟨run, _ | _ | _ | _ | _ | _ | _ | _ | ⟨_ | _, _⟩ | ⟨_ | _, _⟩ | _⟩ <;>
        first | trivial | exact absurd trivial hnot
    · exact fun report hreport => nomatch hreport
    · intro p hp hok
      obtain ⟨r, hr, hmem⟩ := h.results p hp hok
      exact ⟨r, (s.request_setPc i .opening p.1).trans hr, hmem⟩
    · intro e he
      obtain ⟨j, hj, r, hr, hmanifest⟩ := h.installs e he
      exact ⟨j, hj, r, (s.request_setPc i .opening j).trans hr, hmanifest⟩
  · have hdone : Inv (s.setPc i (.done 2)) := h.setPc (by simp [hready]) (fun hactive => hactive.elim) (by simp) (by simp)
      (fun hpast => hpast.elim)
    exact ⟨hdone.exclusive, hdone.opening, hdone.writing, hdone.past, hdone.whole, hdone.worker, (fun report hreport => nomatch hreport),
      hdone.results, hdone.installs⟩

/-- A worker that holds nothing owns what it must. -/
theorem workerOwns_of_not_holds {run : Nat} {pc : WorkerPc} (h : ¬ pc.Holds) : WorkerOwns s run pc := by
  rcases pc with _ | _ | _ | _ | _ | _ | _ | _ | ⟨_ | _, _⟩ | ⟨_ | _, _⟩ | _ <;> first | trivial | exact absurd trivial h

/-- The only active session writes its file, which is the only one in the inbox, while the worker holds nothing. -/
theorem Inv.write (h : Inv s) (hrequest : s.request i = some r) {n offset : Nat} {contents : Nat → Bytes} {inbox : Kind → Option Nat}
    (hactive : (s.pc i).Active) (hholds : ¬ s.Holds) (hoffset : offset ≤ r.content.length) (hcontents : contents n = r.content.take offset)
    (hinbox : ∀ kind m, inbox kind = some m → kind = r.kind ∧ m = n) :
    Inv { s.setPc i (.writing n offset) with contents := contents, inbox := inbox } := by
  have hmoved : ∀ j, (s.setPc i (.writing n offset)).pc j = if j = i then .writing n offset else s.pc j := s.pc_setPc i (.writing n offset)
  have hkept : ∀ j, ((s.setPc i (.writing n offset)).pc j).Active → (s.pc j).Active := by
    intro j hj
    rw [hmoved] at hj
    split_ifs at hj with hji
    · exact hji ▸ hactive
    · exact hj
  have honly : (s.setPc i (.writing n offset)).Only i := (h.exclusive i hactive).mono hkept
  have hself : (s.setPc i (.writing n offset)).pc i = .writing n offset := (hmoved i).trans (if_pos rfl)
  constructor
  · intro j hj
    rw [honly j hj]
    exact honly
  · intro j hj
    have hj' : (s.setPc i (.writing n offset)).pc j = .opening := hj
    obtain rfl := honly j (hj' ▸ trivial)
    exact absurd (hself.symm.trans hj') (by simp)
  · intro j m offset' hj
    have hj' : (s.setPc i (.writing n offset)).pc j = .writing m offset' := hj
    obtain rfl := honly j (hj' ▸ trivial)
    obtain ⟨rfl, rfl⟩ := SessionPc.writing.inj (hself.symm.trans hj')
    exact ⟨hholds, r, (s.request_setPc j _ j).trans hrequest, hoffset, hcontents, hinbox⟩
  · intro j hj
    have hj' : ((s.setPc i (.writing n offset)).pc j).Past := hj
    rw [hmoved] at hj'
    split_ifs at hj'
    · exact hj'.elim
    · exact h.past j hj'
  · exact fun hnone => absurd hself (hnone i n offset)
  · exact fun w hw => workerOwns_of_not_holds fun hpc => hholds ⟨w, hw, hpc⟩
  · intro report hreport hok j hj
    obtain ⟨r', hr', hmem⟩ := h.result report hreport hok j (hkept j hj)
    exact ⟨r', (s.request_setPc i _ j).trans hr', hmem⟩
  · intro p hp hok
    obtain ⟨r', hr', hmem⟩ := h.results p hp hok
    exact ⟨r', (s.request_setPc i _ p.1).trans hr', hmem⟩
  · intro e he
    obtain ⟨j, hj, r', hr', hmanifest⟩ := h.installs e he
    exact ⟨j, hj, r', (s.request_setPc i _ j).trans hr', hmanifest⟩

theorem inv_openFile (h : Inv s) (hrequest : s.request i = some r) (hstep : sessionStep s i r (.openFile i) = some s') : Inv s' := by
  simp only [sessionStep] at hstep
  split_ifs at hstep with hpc
  obtain ⟨hinbox, hholds⟩ := h.opening i hpc
  rw [hinbox r.kind] at hstep
  obtain rfl := Option.some.inj hstep
  have honly : ∀ kind m, Function.update s.inbox r.kind (some s.inodes) kind = some m → kind = r.kind ∧ m = s.inodes := by
    intro kind m hm
    by_cases hkind : kind = r.kind
    · subst hkind
      rw [Function.update_self] at hm
      exact ⟨rfl, (Option.some.inj hm).symm⟩
    · rw [Function.update_of_ne hkind, hinbox] at hm
      cases hm
  have hempty : Function.update s.contents s.inodes [] s.inodes = r.content.take 0 := by simp
  exact (h.write hrequest (hpc ▸ trivial) hholds (Nat.zero_le _) hempty honly).bookkeeping s.trigger true s.runs (s.inodes + 1)

/-- What is written at the end of a file is added to it. -/
theorem overwrite_take {content : Bytes} {offset count : Nat} (h : offset + count ≤ content.length) :
    overwrite (content.take offset) offset ((content.drop offset).take count) = content.take (offset + count) := by
  have hlength : (content.take offset).length = offset := List.length_take_of_le (by omega)
  have hdrop : (content.take offset).drop (offset + ((content.drop offset).take count).length) = [] :=
    List.drop_of_length_le (by omega)
  rw [overwrite, hdrop, hlength, Nat.sub_self, List.replicate_zero, List.append_nil, List.append_nil, List.take_take, Nat.min_self,
    List.take_add]

theorem inv_write {count : Nat} (h : Inv s) (hrequest : s.request i = some r) (hstep : sessionStep s i r (.write i count) = some s') :
    Inv s' := by
  simp only [sessionStep] at hstep
  split at hstep
  · next n offset hpc =>
    split_ifs at hstep with hcount
    obtain rfl := Option.some.inj hstep
    obtain ⟨hholds, r', hr', hoffset, hcontents, hinbox⟩ := h.writing i n offset hpc
    obtain rfl : r' = r := Option.some.inj (hr'.symm.trans hrequest)
    have hwritten : Function.update s.contents n (overwrite (s.contents n) offset ((r'.content.drop offset).take count)) n =
        r'.content.take (offset + count) := by
      rw [Function.update_self, hcontents, overwrite_take hcount.2]
    exact (h.write hrequest (hpc ▸ trivial) hholds hcount.2 hwritten hinbox).bookkeeping s.trigger _ s.runs s.inodes
  · cases hstep

theorem inv_close (h : Inv s) (hrequest : s.request i = some r) (hstep : sessionStep s i r (.close i) = some s') : Inv s' := by
  simp only [sessionStep] at hstep
  split at hstep
  · next n offset hpc =>
    split_ifs at hstep with hoffset
    obtain rfl := Option.some.inj hstep
    obtain ⟨hholds, r', hr', _, hcontents, hinbox⟩ := h.writing i n offset hpc
    obtain rfl : r' = r := Option.some.inj (hr'.symm.trans hrequest)
    rw [hoffset, List.take_length] at hcontents
    have hactive : (s.pc i).Active := hpc ▸ trivial
    have hmoved : ∀ j, (s.setPc i .clearing).pc j = if j = i then .clearing else s.pc j := s.pc_setPc i .clearing
    have hkept : ∀ j, ((s.setPc i .clearing).pc j).Active → (s.pc j).Active := by
      intro j hj
      rw [hmoved] at hj
      split_ifs at hj with hji
      · exact hji ▸ hactive
      · exact hj
    have honly : (s.setPc i .clearing).Only i := (h.exclusive i hactive).mono hkept
    have hself : (s.setPc i .clearing).pc i = .clearing := (hmoved i).trans (if_pos rfl)
    constructor
    · intro j hj
      rw [honly j hj]
      exact honly
    · intro j hj
      have hj' : (s.setPc i .clearing).pc j = .opening := hj
      obtain rfl := honly j (hj' ▸ trivial)
      exact absurd (hself.symm.trans hj') (by simp)
    · intro j m offset' hj
      have hj' : (s.setPc i .clearing).pc j = .writing m offset' := hj
      obtain rfl := honly j (hj' ▸ trivial)
      exact absurd (hself.symm.trans hj') (by simp)
    · intro j hj
      obtain rfl := honly j (active_of_past hj)
      exact List.mem_cons_self
    · intro _ kind m hm
      obtain ⟨rfl, rfl⟩ := hinbox kind m hm
      exact ⟨i, List.mem_cons_self, ⟨r', (s.request_setPc i _ i).trans hrequest, rfl, hcontents⟩, honly⟩
    · exact fun w hw => workerOwns_of_not_holds fun hpc => hholds ⟨w, hw, hpc⟩
    · intro report hreport hok j hj
      obtain ⟨r', hr', hmem⟩ := h.result report hreport hok j (hkept j hj)
      exact ⟨r', (s.request_setPc i _ j).trans hr', hmem⟩
    · intro p hp hok
      obtain ⟨r', hr', hmem⟩ := h.results p hp hok
      exact ⟨r', (s.request_setPc i _ p.1).trans hr', hmem⟩
    · intro e he
      obtain ⟨j, hj, r', hr', hmanifest⟩ := h.installs e he
      exact ⟨j, List.mem_cons_of_mem _ hj, r', (s.request_setPc i _ j).trans hr', hmanifest⟩
  · cases hstep

/-- A session that writes nothing ends. -/
theorem Inv.done (h : Inv s) (hold : ∀ n offset, s.pc i ≠ .writing n offset) (status : Nat) : Inv (s.setPc i (.done status)) :=
  h.setPc hold (fun hactive => hactive.elim) (by simp) (by simp) (fun hpast => hpast.elim)

/-- A session past its file goes on to another place past its file. -/
theorem Inv.goOn (h : Inv s) {pc pc' : SessionPc} (hpc : s.pc i = pc) (hpast : pc.Past) (hpast' : pc'.Past) : Inv (s.setPc i pc') := by
  have hactive : (s.pc i).Active := hpc ▸ active_of_past hpast
  refine h.setPc (fun n offset heq => ?_) (fun _ => hactive) ?_ ?_ (fun _ => h.past i (hpc ▸ hpast))
  · rw [← hpc, heq] at hpast
    exact hpast
  · rintro rfl
    exact hpast'
  · rintro n offset rfl
    exact hpast'

theorem inv_print (h : Inv s) (hstep : sessionStep s i r (.print i) = some s') : Inv s' := by
  simp only [sessionStep] at hstep
  split_ifs at hstep with hpc
  split at hstep
  · next report hreport =>
    obtain rfl := Option.some.inj hstep
    have hnext : Inv (s.setPc i .checking) := h.goOn hpc trivial trivial
    refine ⟨hnext.exclusive, hnext.opening, hnext.writing, hnext.past, hnext.whole, hnext.worker, hnext.result, ?_, hnext.installs⟩
    rintro p hp hok
    rcases List.mem_cons.1 hp with rfl | hp
    · obtain ⟨r', hr', hmem⟩ := h.result report hreport hok i (hpc ▸ trivial)
      exact ⟨r', (s.request_setPc i _ i).trans hr', hmem⟩
    · exact hnext.results p hp hok
  · obtain rfl := Option.some.inj hstep
    exact h.done (by simp [hpc]) 1

/-- Every step of a session that has a request keeps the invariant. -/
theorem inv_sessionStep {a : Action} (h : Inv s) (hsession : a.session = some i) (hrequest : s.request i = some r)
    (hstep : sessionStep s i r a = some s') : Inv s' := by
  cases a with
  | openFile j =>
    obtain rfl := Option.some.inj hsession
    exact inv_openFile h hrequest hstep
  | write j count =>
    obtain rfl := Option.some.inj hsession
    exact inv_write h hrequest hstep
  | close j =>
    obtain rfl := Option.some.inj hsession
    exact inv_close h hrequest hstep
  | removeOther j =>
    simp only [sessionStep] at hstep
    split_ifs at hstep with hpc
    obtain rfl := Option.some.inj hstep
    have hless : ∀ kind n, Function.update s.inbox r.kind.other none kind = some n → s.inbox kind = some n := by
      intro kind n hn
      by_cases hkind : kind = r.kind.other
      · subst hkind
        simp at hn
      · rwa [Function.update_of_ne hkind] at hn
    have hnext : Inv (s.setPc i .touching) := h.goOn hpc trivial trivial
    exact (hnext.setInbox hless).bookkeeping s.trigger _ s.runs s.inodes
  | touch j =>
    simp only [sessionStep] at hstep
    split_ifs at hstep with hpc
    obtain rfl := Option.some.inj hstep
    have hnext : Inv (s.setPc i .waiting) := h.goOn hpc trivial trivial
    exact hnext.bookkeeping true true s.runs s.inodes
  | look j =>
    simp only [sessionStep] at hstep
    split_ifs at hstep with hpc hresult
    all_goals
      obtain rfl := Option.some.inj hstep
      exact h.goOn hpc trivial trivial
  | print j =>
    obtain rfl := Option.some.inj hsession
    exact inv_print h hstep
  | check j =>
    simp only [sessionStep] at hstep
    split_ifs at hstep with hpc
    all_goals
      obtain rfl := Option.some.inj hstep
      exact h.done (by simp [hpc]) _
  | giveUp j =>
    simp only [sessionStep] at hstep
    split_ifs at hstep with hpc
    obtain rfl := Option.some.inj hstep
    exact h.done (by simp [hpc]) 1
  | _ => cases hstep

theorem inv_die (h : Inv s) (hcalm : Calm s (.die i)) (hstep : step s (.die i) = some s') : Inv s' := by
  simp only [step] at hstep
  split at hstep
  · cases hstep
  · cases hstep
  · obtain rfl := Option.some.inj hstep
    exact h.done hcalm 129

end Sessions

/-! ### The steps of the worker -/

section Workers

variable {s s' : State} {w : Worker}

/-- The worker goes on without coming to hold a request. -/
theorem Inv.idle (h : Inv s) {pc : WorkerPc} (hpc : ¬ pc.Holds) (transaction : Kind → Option Nat) :
    Inv { s.setWorker w pc with transaction := transaction } := by
  refine h.setWorker ?_ ?_
  · intro w' hw' hholds
    obtain rfl := Option.some.inj hw'
    exact absurd hholds hpc
  · intro w' hw'
    obtain rfl := Option.some.inj hw'
    exact workerOwns_of_not_holds hpc

/-- The worker goes on with what it holds. -/
theorem Inv.carry (h : Inv s) (hw : s.worker = some w) {pc : WorkerPc} (hholds : w.pc.Holds) (howns : WorkerOwns s w.run pc) :
    Inv (s.setWorker w pc) := by
  refine h.setWorker (fun _ _ _ => ⟨w, hw, hholds⟩) ?_
  intro w' hw'
  obtain rfl := Option.some.inj hw'
  exact howns

theorem not_holds_nextKind (kind : Kind) : ¬ (nextKind kind).Holds := by
  cases kind <;> exact fun h => h

/-- Moving a file into the transaction: no session is writing it, so what the worker holds now is one session's. -/
theorem inv_move (h : Inv s) (hw : s.worker = some w) (hcalm : Calm s .move) (hstep : workerStep s w .move = some s') : Inv s' := by
  simp only [workerStep] at hstep
  split at hstep
  · next kind hpc =>
    split at hstep
    · next n hn =>
      obtain rfl := Option.some.inj hstep
      have hopening : ∀ i, s.pc i ≠ .opening := by
        intro i hi
        simp [(h.opening i hi).1 kind] at hn
      have hwriting : ∀ i m offset, s.pc i ≠ .writing m offset := by
        intro i m offset hi
        obtain ⟨_, _, _, _, _, hinbox⟩ := h.writing i m offset hi
        obtain ⟨_, rfl⟩ := hinbox kind n hn
        exact hcalm w kind n hw hpc hn i offset hi
      refine ⟨h.exclusive, fun i hi => absurd hi (hopening i), fun i m offset hi => absurd hi (hwriting i m offset), h.past, ?_, ?_,
        h.result, h.results, h.installs⟩
      · intro _ kind' m hm
        have hm' : Function.update s.inbox kind none kind' = some m := hm
        by_cases hkind : kind' = kind
        · subst hkind
          simp at hm'
        · rw [Function.update_of_ne hkind] at hm'
          exact h.whole hwriting kind' m hm'
      · intro w' hw'
        obtain rfl := Option.some.inj hw'
        exact ⟨n, Function.update_self _ _ _, h.whole hwriting kind n hn⟩
    · obtain rfl := Option.some.inj hstep
      exact h.idle (not_holds_nextKind kind) s.transaction
  · cases hstep

/-- The end of an installation is recorded; the manifest is one that a session has written. -/
theorem inv_install {ok : Bool} (h : Inv s) (hw : s.worker = some w) (hstep : workerStep s w (.install ok) = some s') : Inv s' := by
  simp only [workerStep] at hstep
  split at hstep
  · next manifest hpc =>
    obtain rfl := Option.some.inj hstep
    have howns := h.worker w hw
    rw [hpc] at howns
    obtain ⟨j, hj, ⟨r, hr, hmanifest⟩, honly⟩ := howns
    have hnext : WorkerOwns { s with installed := ⟨w.run, manifest, ok⟩ :: s.installed } w.run
        (.reporting ok (if ok then "edge install completed" else "edge install failed")) := by
      cases ok with
      | false => trivial
      | true => exact ⟨j, ⟨r, hr, hmanifest ▸ List.mem_cons_self⟩, honly⟩
    have hnone : ¬ s.Holds → ∀ {t : State}, t.Holds → False := fun hnot => absurd ⟨w, hw, hpc ▸ trivial⟩ hnot
    refine ⟨h.exclusive, fun i hi => ⟨(h.opening i hi).1, hnone (h.opening i hi).2⟩, fun i n offset hi => ?_, h.past, h.whole, ?_, ?_, ?_,
      ?_⟩
    · obtain ⟨hnot, hrest⟩ := h.writing i n offset hi
      exact ⟨hnone hnot, hrest⟩
    · intro w' hw'
      obtain rfl := Option.some.inj hw'
      exact hnext
    · intro report hreport hok i hi
      obtain ⟨r', hr', hmem⟩ := h.result report hreport hok i hi
      exact ⟨r', hr', List.mem_cons_of_mem _ hmem⟩
    · intro p hp hok
      obtain ⟨r', hr', hmem⟩ := h.results p hp hok
      exact ⟨r', hr', List.mem_cons_of_mem _ hmem⟩
    · intro e he
      rcases List.mem_cons.1 he with rfl | he
      · exact ⟨j, hj, r, hr, hmanifest⟩
      · exact h.installs e he
  · cases hstep

/-- The result of a run is put where the sessions look for it: the only session that can see it is the one it is about. -/
theorem inv_publish (h : Inv s) (hw : s.worker = some w) (hstep : workerStep s w .publish = some s') : Inv s' := by
  simp only [workerStep] at hstep
  split at hstep
  · next ok message hpc =>
    obtain rfl := Option.some.inj hstep
    have howns := h.worker w hw
    rw [hpc] at howns
    have hnext : Inv { s with worker := if ok then some { w with pc := .cleaning } else none, transaction := s.transaction } := by
      refine h.setWorker ?_ ?_
      · intro w' hw' hholds
        cases ok with
        | false => cases hw'
        | true => exact ⟨w, hw, hpc ▸ trivial⟩
      · intro w' hw'
        cases ok with
        | false => cases hw'
        | true =>
          obtain rfl := Option.some.inj hw'
          trivial
    refine ⟨hnext.exclusive, hnext.opening, hnext.writing, hnext.past, hnext.whole, hnext.worker, ?_, hnext.results, hnext.installs⟩
    intro report hreport hok i hi
    obtain rfl := Option.some.inj hreport
    obtain rfl : ok = true := hok
    obtain ⟨j, ⟨r, hr, hmem⟩, honly⟩ := howns
    obtain rfl := honly i hi
    exact ⟨r, hr, hmem⟩
  · cases hstep

/-- Every step of the worker keeps the invariant. -/
theorem inv_workerStep {a : Action} (h : Inv s) (hw : s.worker = some w) (hcalm : Calm s a) (hstep : workerStep s w a = some s') :
    Inv s' := by
  cases a with
  | checkLock locked =>
    simp only [workerStep] at hstep
    split_ifs at hstep
    all_goals
      obtain rfl := Option.some.inj hstep
      exact h.idle (by simp [WorkerPc.Holds]) s.transaction
  | prepare =>
    simp only [workerStep] at hstep
    split_ifs at hstep
    obtain rfl := Option.some.inj hstep
    exact h.idle (by simp [WorkerPc.Holds]) fun _ => none
  | lookFor =>
    simp only [workerStep] at hstep
    split at hstep
    · next kind _ =>
      obtain rfl := Option.some.inj hstep
      split_ifs
      · exact h.idle (by simp [WorkerPc.Holds]) s.transaction
      · exact h.idle (not_holds_nextKind kind) s.transaction
    · cases hstep
  | move => exact inv_move h hw hcalm hstep
  | checkMoved =>
    simp only [workerStep] at hstep
    split at hstep
    · next kind hpc =>
      obtain rfl := Option.some.inj hstep
      have howns := h.worker w hw
      rw [hpc] at howns
      split_ifs
      · exact h.carry hw (hpc ▸ trivial) howns
      · exact h.idle (not_holds_nextKind kind) s.transaction
    · cases hstep
  | clearInbox =>
    simp only [workerStep] at hstep
    split at hstep
    · next kind hpc =>
      obtain rfl := Option.some.inj hstep
      have howns := h.worker w hw
      rw [hpc] at howns
      have hnext : Inv (s.setWorker w (.opening kind)) := h.carry hw (hpc ▸ trivial) howns
      have hless : ∀ kind' n, (fun _ : Kind => (none : Option Nat)) kind' = some n → s.inbox kind' = some n := fun _ _ hn => nomatch hn
      exact (hnext.setInbox hless).bookkeeping false _ s.runs s.inodes
    · cases hstep
  | readManifest =>
    simp only [workerStep] at hstep
    split at hstep
    · next kind hpc =>
      obtain ⟨n, hn, rfl⟩ := Option.map_eq_some_iff.1 hstep
      have howns := h.worker w hw
      rw [hpc] at howns
      obtain ⟨m, hm, j, hj, ⟨r, hr, rfl, hcontent⟩, honly⟩ := howns
      obtain rfl : m = n := Option.some.inj (hm.symm.trans hn)
      refine h.carry hw (hpc ▸ trivial) ⟨j, hj, ⟨r, hr, ?_⟩, honly⟩
      rw [hcontent, manifestOf_content]
    · cases hstep
  | install ok => exact inv_install h hw hstep
  | writeReport =>
    simp only [workerStep] at hstep
    split at hstep
    · next ok message hpc =>
      obtain rfl := Option.some.inj hstep
      have howns := h.worker w hw
      rw [hpc] at howns
      cases ok with
      | false => exact h.idle (by simp [WorkerPc.Holds]) s.transaction
      | true => exact h.carry hw (hpc ▸ trivial) howns
    · cases hstep
  | publish => exact inv_publish h hw hstep
  | clean =>
    simp only [workerStep] at hstep
    split_ifs at hstep
    obtain rfl := Option.some.inj hstep
    exact h.setWorker (fun _ hnone => nomatch hnone) (fun _ hnone => nomatch hnone)
  | _ => cases hstep

theorem inv_wake (h : Inv s) (hstep : step s .wake = some s') : Inv s' := by
  simp only [step] at hstep
  split_ifs at hstep
  obtain rfl := Option.some.inj hstep
  have hnext : Inv { s with worker := some ⟨s.runs, .started⟩, transaction := s.transaction } := by
    refine h.setWorker ?_ ?_
    · intro w' hw' hholds
      obtain rfl := Option.some.inj hw'
      exact hholds.elim
    · intro w' hw'
      obtain rfl := Option.some.inj hw'
      trivial
  exact hnext.bookkeeping s.trigger false (s.runs + 1) s.inodes

end Workers

/-! ### Runs -/

/-- A calm step keeps the invariant. -/
theorem inv_step {s s' : State} {a : Action} (h : Inv s) (hcalm : Calm s a) (hstep : step s a = some s') : Inv s' := by
  have hcommand : ∀ i, a.session = some i → ((s.request i).bind fun r => sessionStep s i r a) = some s' → Inv s' := by
    intro i hi hbind
    obtain ⟨r, hr, hr'⟩ := Option.bind_eq_some_iff.1 hbind
    exact inv_sessionStep h hi hr hr'
  have hworker : (s.worker.bind fun w => workerStep s w a) = some s' → Inv s' := by
    intro hbind
    obtain ⟨w, hw, hw'⟩ := Option.bind_eq_some_iff.1 hbind
    exact inv_workerStep h hw hcalm hw'
  cases a with
  | begin i => exact inv_begin h hcalm hstep
  | die i => exact inv_die h hcalm hstep
  | wake => exact inv_wake h hstep
  | openFile i | write i _ | close i | removeOther i | touch i | look i | print i | check i | giveUp i => exact hcommand i rfl hstep
  | _ => exact hworker hstep

theorem CalmlyReachable.inv {requests : Nat → Option Request} {s : State} (h : CalmlyReachable requests s) : Inv s := by
  induction h with
  | start => exact inv_start requests
  | step _ hcalm hstep ih => exact inv_step ih hcalm hstep

/-- In a run in which no request comes into the way of another one, every success that a session prints is its own, and everything that
is installed was written to its end. -/
theorem results_belong_to_requests (requests : Nat → Option Request) (s : State) (h : CalmlyReachable requests s) :
    ResultsAreOwn s ∧ InstallsAreWhole s :=
  ⟨h.inv.results, h.inv.installs⟩

section Samples

def urlRequest : Request := ⟨.url, [117], fun _ => by decide⟩

def jsonRequest : Request := ⟨.json, [123, 125], nofun⟩

/-- The first session asks with a manifest, the second one with a URL. -/
def sampleRequests : Nat → Option Request
  | 0 => some jsonRequest
  | 1 => some urlRequest
  | _ => none

/-- A session from its file to its waiting. -/
def askActions (i count : Nat) : List Action := [.openFile i, .write i count, .close i, .removeOther i, .touch i]

/-- The worker until it has found the manifest of the first session. -/
def findActions : List Action := [.wake, .checkLock false, .prepare, .lookFor, .lookFor]

/-- The worker from the file that it has moved to the call of the installer. -/
def claimActions : List Action := [.checkMoved, .clearInbox, .readManifest]

def finishActions (i : Nat) : List Action := [.install true, .writeReport, .publish, .look i, .print i]

/-- Steps that are calm wherever they are taken. -/
def Action.Plain : Action → Prop
  | .begin _ | .move | .die _ => False
  | _ => True

theorem calm_of_plain {s : State} {a : Action} (h : a.Plain) : Calm s a := by
  cases a with
  | begin _ | move | die _ => exact h.elim
  | _ => trivial

theorem CalmlyReachable.steps {requests : Nat → Option Request} {actions : List Action} (hplain : ∀ a ∈ actions, a.Plain) {s s' : State}
    (h : CalmlyReachable requests s) (hsteps : Provision.steps s actions = some s') : CalmlyReachable requests s' := by
  induction actions generalizing s with
  | nil => exact Option.some.inj hsteps ▸ h
  | cons a actions ih =>
    obtain ⟨t, ht, hrest⟩ := Option.bind_eq_some_iff.1 hsteps
    exact ih (fun b hb => hplain b (List.mem_cons_of_mem a hb)) (h.step (calm_of_plain (hplain a List.mem_cons_self)) ht) hrest

/-- One session alone, to the end of its run. -/
def aloneActions : List Action := [.begin 0] ++ ((askActions 0 2 ++ findActions) ++ ([.move] ++ (claimActions ++ finishActions 0)))

theorem steps_append (s : State) (first second : List Action) :
    steps s (first ++ second) = (steps s first).bind fun s' => steps s' second :=
  List.foldlM_append

/-- A session that is alone gets the result of its own manifest. -/
theorem results_belong_to_requests_alone :
    (steps (start sampleRequests) aloneActions).map State.printed = some [(0, ⟨true, "edge install completed", 0⟩)] ∧
      ∀ s, steps (start sampleRequests) aloneActions = some s → ResultsAreOwn s ∧ InstallsAreWhole s := by
  refine ⟨rfl, fun s hs => results_belong_to_requests sampleRequests s ?_⟩
  rw [aloneActions, steps_append] at hs
  obtain ⟨begun, hbegun, hs⟩ := Option.bind_eq_some_iff.1 hs
  rw [steps_append] at hs
  obtain ⟨found, hfound, hs⟩ := Option.bind_eq_some_iff.1 hs
  rw [steps_append] at hs
  obtain ⟨moved, hmoved, hs⟩ := Option.bind_eq_some_iff.1 hs
  have hbegunCalm : CalmlyReachable sampleRequests begun := by
    have hcalm : Calm (start sampleRequests) (.begin 0) := by
      exact ⟨fun _ hactive => hactive, fun _ => rfl, fun ⟨_, hw, _⟩ => nomatch hw⟩
    exact CalmlyReachable.start.step hcalm hbegun
  have hfoundCalm : CalmlyReachable sampleRequests found :=
    hbegunCalm.steps (by simp [askActions, findActions, Action.Plain]) hfound
  have hwaiting : ∀ i n offset, found.pc i ≠ .writing n offset := by
    obtain rfl := Option.some.inj hbegun
    obtain rfl := Option.some.inj hfound
    intro i n offset
    cases i <;> exact fun h => nomatch h
  have hmovedCalm : CalmlyReachable sampleRequests moved := by
    have hcalm : Calm found .move := fun _ _ n _ _ _ i offset => hwaiting i n offset
    obtain ⟨_, hstep, hrest⟩ := Option.bind_eq_some_iff.1 hmoved
    exact Option.some.inj hrest ▸ hfoundCalm.step hcalm hstep
  exact hmovedCalm.steps (by simp [claimActions, finishActions, Action.Plain]) hs

/-- The second session begins while the manifest of the first one is installed. -/
def crossedActions : List Action :=
  [.begin 0] ++ askActions 0 2 ++ findActions ++ [.move] ++ claimActions ++ [.begin 1] ++ askActions 1 2 ++ finishActions 1

/-- The worker wakes up when one byte of the manifest is written. -/
def partialActions : List Action := [.begin 0, .openFile 0, .write 0 1] ++ findActions ++ [.move] ++ claimActions ++ [.install true]

/-- The second session prints the success of the first one; and the part of a manifest is installed. -/
theorem results_are_not_own_at_sample :
    (∃ actions s, steps (start sampleRequests) actions = some s ∧ ¬ ResultsAreOwn s) ∧
      ∃ actions s, steps (start sampleRequests) actions = some s ∧ ¬ InstallsAreWhole s := by
  constructor
  · have hrun : (steps (start sampleRequests) crossedActions).map (fun s => (s.printed, s.installed, s.request 1)) =
        some ([(1, ⟨true, "edge install completed", 0⟩)], [⟨0, jsonRequest.manifest, true⟩], some urlRequest) := rfl
    obtain ⟨s, hs, hend⟩ := Option.map_eq_some_iff.1 hrun
    obtain ⟨hprinted, hinstalled, hrequest⟩ : s.printed = _ ∧ s.installed = _ ∧ s.request 1 = _ := by simpa using hend
    refine ⟨crossedActions, s, hs, fun hown => ?_⟩
    obtain ⟨r, hr, hmem⟩ := hown (1, ⟨true, "edge install completed", 0⟩) (by simp [hprinted]) rfl
    obtain rfl : urlRequest = r := Option.some.inj (hrequest.symm.trans hr)
    rw [hinstalled] at hmem
    exact absurd hmem (by decide)
  · have hrun : (steps (start sampleRequests) partialActions).map (fun s => (s.completed, s.installed)) =
        some ([], [⟨0, ⟨.json, [123]⟩, true⟩]) := rfl
    obtain ⟨s, hs, hend⟩ := Option.map_eq_some_iff.1 hrun
    obtain ⟨hcompleted, hinstalled⟩ : s.completed = _ ∧ s.installed = _ := by simpa using hend
    refine ⟨partialActions, s, hs, fun hwhole => ?_⟩
    obtain ⟨j, hj, _⟩ := hwhole ⟨0, ⟨.json, [123]⟩, true⟩ (by simp [hinstalled])
    simp [hcompleted] at hj

end Samples

end SuderraOs.Provision
