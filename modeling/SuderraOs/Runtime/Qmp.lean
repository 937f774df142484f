import SuderraOs.Lib.Framing
import SuderraOs.Runtime.Scenario

/-!
# The QMP socket

How the two harnesses read what QEMU says on its QMP socket, one JSON object in a line. `qmp-acceptance.py` takes what has arrived and
splits it into lines by itself in every call, and `production-runtime-scenario.py` reads byte by byte up to a timeout. Neither keeps what
it has read of a line that is not complete. The objects are read as they were sent when no call and no timeout falls inside one
(`read_iff`).
-/

namespace SuderraOs.Runtime

open Value Evidence Framing

variable {loads : List Char → Option Value}

/-! ## The lines of a stream -/

/-- A line with a JSON object: its text, blanks before and behind it, and the object that `json.loads` reads from it. -/
structure ObjectLine (loads : List Char → Option Value) where
  before : List Char
  text : List Char
  behind : List Char
  object : Fields
  blank_before : ∀ c ∈ before, JsonText.isSpace c = true ∧ c ≠ '\n'
  blank_behind : ∀ c ∈ behind, JsonText.isSpace c = true ∧ c ≠ '\n'
  opened : text.head? = some '\x7b'
  closed : text.getLast? = some '\x7d'
  one_line : '\n' ∉ text
  reads : ∀ ws ws', (∀ c ∈ ws, JsonText.isSpace c = true) → (∀ c ∈ ws', JsonText.isSpace c = true) →
    loads (ws ++ (text ++ ws')) = some (.dict object)

namespace ObjectLine

def body (l : ObjectLine loads) : List Char := l.before ++ (l.text ++ l.behind)

/-- The bytes of the line and of the line feed that ends it. -/
def bytes (l : ObjectLine loads) : List UInt8 := Utf8.encode (String.ofList (l.body ++ ['\n']))

theorem bytes_eq (l : ObjectLine loads) : l.bytes = l.body.flatMap String.utf8EncodeChar ++ [10] := by
  rw [bytes, Utf8.encode_ofList, List.flatMap_append]
  rfl

theorem text_eq_cons (l : ObjectLine loads) : ∃ cs, l.text = '\x7b' :: cs := by
  have hopened := l.opened
  cases htext : l.text with
  | nil => simp [htext] at hopened
  | cons c cs =>
    rw [htext, List.head?_cons, Option.some.injEq] at hopened
    exact ⟨cs, by rw [hopened]⟩

theorem text_eq_concat (l : ObjectLine loads) : ∃ cs, l.text = cs ++ ['\x7d'] := List.getLast?_eq_some_iff.1 l.closed

/-- The object is read from the text with a part of the blanks around it. -/
theorem reads_part (l : ObjectLine loads) {ws ws' : List Char} (hws : ∀ c ∈ ws, c ∈ l.before) (hws' : ∀ c ∈ ws', c ∈ l.behind ++ ['\n']) :
    loads (ws ++ (l.text ++ ws')) = some (.dict l.object) := by
  refine l.reads ws ws' (fun c hc => (l.blank_before c (hws c hc)).1) fun c hc => ?_
  rcases List.mem_append.1 (hws' c hc) with hbehind | hnewline
  · exact (l.blank_behind c hbehind).1
  · rw [List.mem_singleton.1 hnewline]
    rfl

theorem newline_notMem_body (l : ObjectLine loads) : '\n' ∉ l.body := by
  simp only [body, List.mem_append, not_or]
  exact ⟨fun h => (l.blank_before _ h).2 rfl, l.one_line, fun h => (l.blank_behind _ h).2 rfl⟩

end ObjectLine

def streamBytes (lines : List (ObjectLine loads)) : List UInt8 := lines.flatMap ObjectLine.bytes

def sentObjects (lines : List (ObjectLine loads)) : List Fields := lines.map ObjectLine.object

/-! ## `qmp-acceptance.py` -/

namespace Acceptance

inductive Failure where
  | unicodeDecodeError
  | attributeError
  deriving DecidableEq, Repr

/-- The bytes that end a line for `bytearray.splitlines`. -/
def isLineEnd (b : UInt8) : Bool := b = 10 || b = 13

/-- `bytearray.splitlines`, when `line` was read before. -/
def splitlinesFrom (line : List UInt8) : List UInt8 → List (List UInt8)
  | [] => part line
  | 13 :: 10 :: bytes => line :: splitlinesFrom [] bytes
  | b :: bytes => if isLineEnd b then line :: splitlinesFrom [] bytes else splitlinesFrom (line ++ [b]) bytes

def splitlines (bytes : List UInt8) : List (List UInt8) := splitlinesFrom [] bytes

/-- What a line is recorded as; a line that is no JSON is kept as text. -/
def eventOf (loads : List Char → Option Value) (line : List UInt8) : Except Failure Value :=
  match Utf8.decode line with
  | none => .error .unicodeDecodeError
  | some text => .ok ((loads text.toList).getD (.dict [("unparsed", .str text)]))

/-- `qmp_drain`, where `recv` gives some chunks before it would block or the connection ends. -/
def qmpDrain (loads : List Char → Option Value) (chunks : List (List UInt8)) (events : List Value) : Except Failure (List Value) := do
  let lines := (splitlines chunks.flatten).filter (· ≠ [])
  let received ← lines.mapM (eventOf loads)
  return events ++ received

/-- The events after some calls of `qmp_drain`, each with the chunks that it receives. -/
def drains (loads : List Char → Option Value) (calls : List (List (List UInt8))) (events : List Value) : Except Failure (List Value) :=
  calls.foldlM (fun events chunks => qmpDrain loads chunks events) events

def isQuitAck (event : Fields) : Bool :=
  ((field "id" event).pyEq (.str "suderra-qmp-quit") && (lookup "return" event).isSome) || (field "event" event).pyEq (.str "SHUTDOWN")

def quitAckIn : List Value → Except Failure Bool
  | [] => .ok false
  | .dict event :: events => if isQuitAck event then .ok true else quitAckIn events
  | _ :: _ => .error .attributeError

/-- `qmp_quit_ack_observed`. -/
def qmpQuitAckObserved (events : List Value) (startIndex : Nat) : Except Failure Bool := quitAckIn (events.drop startIndex)

end Acceptance

/-! ## `production-runtime-scenario.py` -/

/-- What `recv(1)` gives: a byte, or nothing when the time is over or the connection ends. -/
inductive Recv where
  | byte (b : UInt8)
  | nothing
  deriving DecidableEq, Repr

def Recv.bytes : Recv → List UInt8
  | .byte b => [b]
  | .nothing => []

/-- The bytes that arrive. -/
def received (arrivals : List Recv) : List UInt8 := arrivals.flatMap Recv.bytes

namespace Harness

/-- What `qmp_read_line` makes of a line. -/
def payloadOf (loads : List Char → Option Value) (buffer : List UInt8) : Option Fields :=
  if buffer = [] then none else (loads (Utf8.decodeReplace buffer.length buffer)).bind asDict

/-- `qmp_read_line`, with what it has read of the line, and what arrives after it. -/
def qmpReadLine (loads : List Char → Option Value) (buffer : List UInt8) : List Recv → Option Fields × List Recv
  | [] => (none, [])
  | .nothing :: arrivals => (none, arrivals)
  | .byte b :: arrivals => if b = 10 then (payloadOf loads buffer, arrivals) else qmpReadLine loads (buffer ++ [b]) arrivals

/-- The loop of `qmp_drain`. -/
def drainLoop (loads : List Char → Option Value) : Nat → List Recv → List Fields → List Fields × List Recv
  | 0, arrivals, events => (events, arrivals)
  | n + 1, arrivals, events =>
    match qmpReadLine loads [] arrivals with
    | (none, arrivals) => (events, arrivals)
    | (some event, arrivals) => drainLoop loads n arrivals (events ++ [event])

/-- `qmp_drain`. -/
def qmpDrain (loads : List Char → Option Value) (arrivals : List Recv) (events : List Fields) : List Fields × List Recv :=
  drainLoop loads (arrivals.length + 1) arrivals events

/-- The events after some calls of `qmp_drain`, and what arrives after them. -/
def drains (loads : List Char → Option Value) : Nat → List Recv → List Fields → List Fields × List Recv
  | 0, arrivals, events => (events, arrivals)
  | n + 1, arrivals, events => drains loads n (qmpDrain loads arrivals events).2 (qmpDrain loads arrivals events).1

end Harness

/-! ## Reading a stream -/

/-- The acceptance run has the objects of the stream as they were sent, and sees an answer to `quit` among them. -/
structure Acceptance.Reads (calls : List (List (List UInt8))) (lines : List (ObjectLine loads)) : Prop where
  events : Acceptance.drains loads calls [] = .ok ((sentObjects lines).map .dict)
  quit_ack : ∀ start, ∀ l ∈ lines.drop start, Acceptance.isQuitAck l.object = true → ∀ events,
    Acceptance.drains loads calls [] = .ok events → Acceptance.qmpQuitAckObserved events start = .ok true

/-- Every line is one stretch between line ends, and no call of `qmp_drain` ends inside one. -/
def Acceptance.WholeLines (calls : List (List (List UInt8))) (lines : List (ObjectLine loads)) : Prop :=
  (∀ l ∈ lines, (stretches Acceptance.isLineEnd l.bytes).length = 1) ∧ CleanCuts Acceptance.isLineEnd (calls.map List.flatten)

/-- The scenario run comes to the end of what arrives, has the objects as they were sent then, and sees an answer to `quit` among them. -/
structure Harness.Reads (arrivals : List Recv) (lines : List (ObjectLine loads)) : Prop where
  done : ∀ n, arrivals.length ≤ n → (Harness.drains loads n arrivals []).2 = []
  events : ∀ n, (Harness.drains loads n arrivals []).2 = [] → (Harness.drains loads n arrivals []).1 = sentObjects lines
  quit_ack : ∀ n, (Harness.drains loads n arrivals []).2 = [] → ∀ start, ∀ l ∈ lines.drop start,
    Harness.qmpQuitAckObserved [l.object] = true → Harness.qmpQuitAckObserved ((Harness.drains loads n arrivals []).1.drop start) = true

/-- The bytes that JSON passes over between its tokens, apart from the line feed. -/
def isBlank (b : UInt8) : Bool := b = 32 || b = 9 || b = 13

/-- Where nothing arrives, only blanks have come of the next object. -/
def NothingInside (pending : List UInt8) (arrivals : List Recv) : Prop :=
  ∀ before behind, arrivals = before ++ .nothing :: behind → ∀ b ∈ pendingAfter (· = 10) pending (received before), isBlank b = true

/-! ## Calls of `qmp_drain` in the acceptance run -/

namespace Acceptance

theorem filter_cons_part (line : List UInt8) (lines : List (List UInt8)) :
    (line :: lines).filter (· ≠ []) = part line ++ lines.filter (· ≠ []) := by
  cases line <;> simp [part]

/-- The lines that are looked at are the stretches between line ends. -/
theorem filter_splitlinesFrom (line bytes : List UInt8) :
    (splitlinesFrom line bytes).filter (· ≠ []) = stretchesFrom isLineEnd line bytes := by
  fun_induction splitlinesFrom line bytes with
  | case1 line => cases line <;> simp [stretchesFrom, part]
  | case2 line bytes ih =>
    rw [filter_cons_part, ih]
    simp [stretchesFrom, isLineEnd, part]
  | case3 line b bytes _ hb ih => rw [filter_cons_part, ih, stretchesFrom, if_pos hb]
  | case4 line b bytes _ hb ih => rw [ih, stretchesFrom, if_neg hb]

/-- What some calls receive is appended line by line. -/
theorem drains_ok_iff {calls : List (List (List UInt8))} {events result : List Value} : drains loads calls events = .ok result ↔
    ∃ new, List.Forall₂ (fun line event => eventOf loads line = .ok event) ((calls.map List.flatten).flatMap (stretches isLineEnd)) new ∧
      result = events ++ new := by
  induction calls generalizing events with
  | nil =>
    simp only [drains, List.foldlM_nil, List.map_nil, List.flatMap_nil, List.forall₂_nil_left_iff]
    constructor
    · intro h
      cases h
      exact ⟨[], rfl, by simp⟩
    · rintro ⟨_, rfl, rfl⟩
      simp [pure, Except.pure]
  | cons chunks calls ih =>
    have hstep : drains loads (chunks :: calls) events = qmpDrain loads chunks events >>= drains loads calls := rfl
    have hlines : (splitlines chunks.flatten).filter (· ≠ []) = stretches isLineEnd chunks.flatten := filter_splitlinesFrom _ _
    simp only [hstep, qmpDrain, hlines, bind_ok_iff, mapM_ok_iff, ih, List.map_cons, List.flatMap_cons]
    constructor
    · rintro ⟨middle, ⟨new, hnew, hmiddle⟩, more, hmore, rfl⟩
      cases hmiddle
      exact ⟨new ++ more, List.rel_append hnew hmore, by simp⟩
    · rintro ⟨all, hall, rfl⟩
      have htake := List.forall₂_take (stretches isLineEnd chunks.flatten).length hall
      have hdrop := List.forall₂_drop (stretches isLineEnd chunks.flatten).length hall
      rw [List.take_left] at htake
      rw [List.drop_left] at hdrop
      exact ⟨_, ⟨_, htake, rfl⟩, _, hdrop, by rw [List.append_assoc, List.take_append_drop]⟩

/-- The characters that end a line. -/
def isLineEndChar (c : Char) : Bool := c = '\n' || c = '\r'

theorem stretches_encode (cs : List Char) : stretches isLineEnd (cs.flatMap String.utf8EncodeChar) =
    (stretches isLineEndChar cs).map fun stretch => stretch.flatMap String.utf8EncodeChar := by
  refine stretches_flatMap (fun c hc => ?_) (fun c hc => ⟨Utf8.utf8EncodeChar_ne_nil c, fun b hb => ?_⟩) cs
  · simp only [isLineEndChar, Bool.or_eq_true, decide_eq_true_eq] at hc
    rcases hc with rfl | rfl
    · exact ⟨10, rfl, rfl⟩
    · exact ⟨13, rfl, rfl⟩
  · by_contra hend
    simp only [isLineEnd, Bool.not_eq_false, Bool.or_eq_true, decide_eq_true_eq] at hend
    have hc' : c = '\n' ∨ c = '\r' := by
      rcases hend with rfl | rfl
      · exact Or.inl (Char.toNat_inj.1 (Utf8.eq_of_mem_utf8EncodeChar hb (by decide)).2.symm)
      · exact Or.inr (Char.toNat_inj.1 (Utf8.eq_of_mem_utf8EncodeChar hb (by decide)).2.symm)
    rcases hc' with rfl | rfl <;> cases hc

theorem eventOf_encode (cs : List Char) : eventOf loads (cs.flatMap String.utf8EncodeChar) =
    .ok ((loads cs).getD (.dict [("unparsed", .str (String.ofList cs))])) := by
  rw [eventOf, ← Utf8.encode_ofList, Utf8.decode_encode]
  simp only [String.toList_ofList]

/-- A line of one stretch is recorded as its object. -/
theorem eventOf_stretch {l : ObjectLine loads} {stretch : List UInt8} (h : stretches isLineEnd l.bytes = [stretch]) :
    eventOf loads stretch = .ok (.dict l.object) := by
  rw [ObjectLine.bytes, Utf8.encode_ofList, stretches_encode, List.map_eq_singleton_iff] at h
  obtain ⟨t, ht, rfl⟩ := h
  obtain ⟨a, b, hbody, ha, hb⟩ := around_of_stretches ht
  obtain ⟨opening, hopening⟩ := l.text_eq_cons
  obtain ⟨closing, hclosing⟩ := l.text_eq_concat
  have hfront : a ++ (t ++ b) = l.before ++ '\x7b' :: (opening ++ (l.behind ++ ['\n'])) := by
    rw [← hbody, ObjectLine.body, hopening]
    simp
  obtain ⟨before, hbefore, hrest⟩ := front_of_append_eq ha (by decide) hfront
  have hend : t ++ b = (before ++ closing) ++ '\x7d' :: (l.behind ++ ['\n']) := by
    rw [hrest, ← List.cons_append, ← hopening, hclosing]
    simp
  obtain ⟨behind, hbehind, rfl⟩ := end_of_append_eq hb (by decide) hend
  have hreads : loads (before ++ (l.text ++ behind)) = some (.dict l.object) :=
    l.reads_part (fun c hc => by simp [hbefore, hc]) fun c hc => by simp [hbehind, hc]
  have htext : before ++ closing ++ '\x7d' :: behind = before ++ (l.text ++ behind) := by
    rw [hclosing]
    simp
  rw [eventOf_encode, htext, hreads]
  rfl

/-- Every line has a stretch. -/
theorem stretches_bytes_ne_nil (l : ObjectLine loads) : stretches isLineEnd l.bytes ≠ [] := by
  intro h
  obtain ⟨cs, hcs⟩ := l.text_eq_cons
  rw [ObjectLine.bytes, Utf8.encode_ofList, stretches_encode, List.map_eq_nil_iff] at h
  exact absurd (stretches_eq_nil h '\x7b' (by simp [ObjectLine.body, hcs])) (by decide)

/-- A line ends with a line end. -/
theorem cleanCuts_lines (lines : List (ObjectLine loads)) : CleanCuts isLineEnd (lines.map ObjectLine.bytes) := by
  refine cleanCuts_of_getLast? fun p hp b hb => ?_
  obtain ⟨l, -, rfl⟩ := List.mem_map.1 hp
  rw [l.bytes_eq, List.getLast?_concat, Option.mem_def, Option.some.injEq] at hb
  subst hb
  rfl

theorem stretches_stream (lines : List (ObjectLine loads)) :
    stretches isLineEnd (streamBytes lines) = lines.flatMap fun l => stretches isLineEnd l.bytes := by
  rw [streamBytes, List.flatMap_def, ← flatMap_stretches (cleanCuts_lines lines), List.flatMap_map]

/-- Lines of one stretch are recorded as their objects. -/
theorem forall₂_eventOf {lines : List (ObjectLine loads)} (h : ∀ l ∈ lines, (stretches isLineEnd l.bytes).length = 1) :
    List.Forall₂ (fun line event => eventOf loads line = .ok event) (lines.flatMap fun l => stretches isLineEnd l.bytes)
      ((sentObjects lines).map .dict) := by
  induction lines with
  | nil => exact .nil
  | cons l lines ih =>
    obtain ⟨stretch, hstretch⟩ := List.length_eq_one_iff.1 (h l (by simp))
    rw [List.flatMap_cons, hstretch]
    exact .cons (eventOf_stretch hstretch) (ih fun l' hl' => h l' (by simp [hl']))

/-- Lines of one stretch each are as many as their stretches, and all others are fewer. -/
theorem length_le_stretches (lines : List (ObjectLine loads)) :
    lines.length ≤ (lines.flatMap fun l => stretches isLineEnd l.bytes).length ∧
      ((lines.flatMap fun l => stretches isLineEnd l.bytes).length ≤ lines.length →
        ∀ l ∈ lines, (stretches isLineEnd l.bytes).length = 1) := by
  induction lines with
  | nil => simp
  | cons l lines ih =>
    have hpos := List.length_pos_iff.2 (stretches_bytes_ne_nil l)
    rw [List.flatMap_cons, List.length_append, List.length_cons]
    refine ⟨by omega, fun hle => List.forall_mem_cons.2 ⟨by omega, ih.2 (by omega)⟩⟩

/-- The objects of a stream are collected as they were sent exactly when every line is one stretch and no call ends inside one. -/
theorem drains_eq_iff {lines : List (ObjectLine loads)} {calls : List (List (List UInt8))}
    (hstream : (calls.map List.flatten).flatten = streamBytes lines) :
    drains loads calls [] = .ok ((sentObjects lines).map .dict) ↔ WholeLines calls lines := by
  rw [drains_ok_iff]
  constructor
  · rintro ⟨new, hnew, hobjects⟩
    have hlength := hnew.length_eq
    have hnew' : new.length = lines.length := by
      rw [List.nil_append] at hobjects
      rw [← hobjects, List.length_map, sentObjects, List.length_map]
    have hpieces := length_stretches_flatten isLineEnd (calls.map List.flatten)
    rw [hstream, stretches_stream] at hpieces
    have hlines := length_le_stretches lines
    exact ⟨hlines.2 (by omega), hpieces.2 (by omega)⟩
  · rintro ⟨hsingle, hclean⟩
    refine ⟨_, ?_, (List.nil_append _).symm⟩
    rw [flatMap_stretches hclean, hstream, stretches_stream]
    exact forall₂_eventOf hsingle

theorem quitAckIn_dicts (objects : List Fields) : quitAckIn (objects.map .dict) = .ok (objects.any isQuitAck) := by
  induction objects with
  | nil => rfl
  | cons object objects ih =>
    rw [List.map_cons, quitAckIn, List.any_cons, ih]
    cases isQuitAck object <;> rfl

theorem reads_of_drains {lines : List (ObjectLine loads)} {calls : List (List (List UInt8))}
    (h : drains loads calls [] = .ok ((sentObjects lines).map .dict)) : Reads calls lines where
  events := h
  quit_ack := by
    intro start l hl hack events hevents
    rw [h, Except.ok.injEq] at hevents
    rw [← hevents, qmpQuitAckObserved, ← List.map_drop, quitAckIn_dicts, sentObjects, ← List.map_drop]
    exact congrArg _ (List.any_eq_true.2 ⟨l.object, List.mem_map_of_mem hl, hack⟩)

end Acceptance

/-! ## Calls of `qmp_drain` in the scenario run -/

theorem NothingInside.byte {pending : List UInt8} {b : UInt8} {arrivals : List Recv} (h : NothingInside pending (.byte b :: arrivals)) :
    NothingInside (if b = 10 then [] else pending ++ [b]) arrivals := by
  intro before behind heq
  have := h (.byte b :: before) behind (by rw [heq]; rfl)
  simpa only [received, List.flatMap_cons, Recv.bytes, List.singleton_append, pendingAfter, decide_eq_true_eq] using this

theorem NothingInside.nothing {pending : List UInt8} {arrivals : List Recv} (h : NothingInside pending (.nothing :: arrivals)) :
    (∀ b ∈ pending, isBlank b = true) ∧ NothingInside pending arrivals := by
  refine ⟨h [] arrivals rfl, fun before behind heq => ?_⟩
  have := h (.nothing :: before) behind (by rw [heq]; rfl)
  simpa only [received, List.flatMap_cons, Recv.bytes, List.nil_append] using this

/-- A blank at the front of a line is one byte. -/
theorem encode_blank {c : Char} (h : JsonText.isSpace c = true ∧ c ≠ '\n') :
    ∃ b, String.utf8EncodeChar c = [b] ∧ isBlank b = true := by
  obtain ⟨hspace, hne⟩ := h
  simp only [JsonText.isSpace, Bool.or_eq_true, decide_eq_true_eq] at hspace
  rcases hspace with ((rfl | rfl) | rfl) | rfl
  · exact ⟨32, rfl, rfl⟩
  · exact ⟨9, rfl, rfl⟩
  · exact absurd rfl hne
  · exact ⟨13, rfl, rfl⟩

/-- What stands behind some blanks of the front is the encoding of fewer of them. -/
theorem encode_suffix {cs : List Char} (h : ∀ c ∈ cs, JsonText.isSpace c = true ∧ c ≠ '\n') {u v : List UInt8}
    (heq : cs.flatMap String.utf8EncodeChar = u ++ v) : ∃ cs' : List Char, v = cs'.flatMap String.utf8EncodeChar ∧ ∀ c ∈ cs', c ∈ cs := by
  induction cs generalizing u with
  | nil =>
    obtain ⟨-, rfl⟩ := List.append_eq_nil_iff.1 heq.symm
    exact ⟨[], rfl, by simp⟩
  | cons c cs ih =>
    cases u with
    | nil => exact ⟨c :: cs, by simpa using heq.symm, fun _ hc => hc⟩
    | cons b u =>
      obtain ⟨b', hb', -⟩ := encode_blank (h c (by simp))
      rw [List.flatMap_cons, hb', List.singleton_append, List.cons_append] at heq
      obtain ⟨cs', hv, hsub⟩ := ih (fun d hd => h d (by simp [hd])) (List.cons.inj heq).2
      exact ⟨cs', hv, fun d hd => List.mem_cons_of_mem c (hsub d hd)⟩

theorem newline_notMem_encode {cs : List Char} (h : '\n' ∉ cs) : 10 ∉ cs.flatMap String.utf8EncodeChar := by
  intro hmem
  obtain ⟨c, hc, hb⟩ := List.mem_flatMap.1 hmem
  have hc' : c = '\n' := Char.toNat_inj.1 (Utf8.eq_of_mem_utf8EncodeChar hb (by decide)).2.symm
  exact h (hc' ▸ hc)

namespace Harness

/-- The objects of the lines that are read to their end, where `buffer` was read of the first one. -/
def framed (loads : List Char → Option Value) (buffer : List UInt8) : List Recv → List Fields
  | [] => []
  | .nothing :: arrivals => framed loads [] arrivals
  | .byte b :: arrivals =>
    if b = 10 then (payloadOf loads buffer).toList ++ framed loads [] arrivals else framed loads (buffer ++ [b]) arrivals

theorem qmpReadLine_framed (arrivals : List Recv) (buffer : List UInt8) : framed loads buffer arrivals =
    (qmpReadLine loads buffer arrivals).1.toList ++ framed loads [] (qmpReadLine loads buffer arrivals).2 := by
  fun_induction qmpReadLine loads buffer arrivals with
  | case1 buffer => rfl
  | case2 buffer arrivals => simp [framed]
  | case3 buffer arrivals => simp [framed]
  | case4 buffer b arrivals hb ih => rw [framed, if_neg hb, ih]

variable (loads) in
theorem length_qmpReadLine (arrivals : List Recv) (buffer : List UInt8) :
    (qmpReadLine loads buffer arrivals).2.length ≤ arrivals.length - 1 := by
  fun_induction qmpReadLine loads buffer arrivals with
  | case1 buffer => simp
  | case2 buffer arrivals => simp
  | case3 buffer arrivals => simp
  | case4 buffer b arrivals hb ih =>
    rw [List.length_cons]
    omega

/-- What a call collects and what it leaves. -/
theorem drainLoop_framed (n : Nat) (arrivals : List Recv) (events : List Fields) :
    (drainLoop loads n arrivals events).1 ++ framed loads [] (drainLoop loads n arrivals events).2 = events ++ framed loads [] arrivals := by
  induction n generalizing arrivals events with
  | zero => rfl
  | succ n ih =>
    rw [drainLoop, qmpReadLine_framed arrivals []]
    rcases qmpReadLine loads [] arrivals with ⟨event, rest⟩
    cases event with
    | none => rfl
    | some event =>
      simp only
      rw [ih, Option.toList_some, List.append_assoc]

variable (loads) in
theorem length_drainLoop (n : Nat) (arrivals : List Recv) (events : List Fields) :
    (drainLoop loads n arrivals events).2.length ≤ arrivals.length ∧
      (n ≠ 0 → (drainLoop loads n arrivals events).2.length ≤ arrivals.length - 1) := by
  induction n generalizing arrivals events with
  | zero => exact ⟨Nat.le_refl _, fun h => absurd rfl h⟩
  | succ n ih =>
    have hline := length_qmpReadLine loads arrivals []
    rw [drainLoop]
    rcases hread : qmpReadLine loads [] arrivals with ⟨event, rest⟩
    rw [hread] at hline
    cases event with
    | none => exact ⟨by simp only at hline ⊢; omega, fun _ => hline⟩
    | some event =>
      have hrest := (ih rest (events ++ [event])).1
      exact ⟨by simp only at hline ⊢; omega, fun _ => by simp only at hline ⊢; omega⟩

/-- The loop ends by itself: with more fuel it reads the same. -/
theorem drainLoop_fuel (n : Nat) (arrivals : List Recv) (events : List Fields) (hn : arrivals.length < n) :
    drainLoop loads (n + 1) arrivals events = drainLoop loads n arrivals events := by
  induction n generalizing arrivals events with
  | zero => exact absurd hn (Nat.not_lt_zero _)
  | succ n ih =>
    have hline := length_qmpReadLine loads arrivals []
    rw [drainLoop, drainLoop]
    rcases hread : qmpReadLine loads [] arrivals with ⟨event, rest⟩
    rw [hread] at hline
    cases event with
    | none => rfl
    | some event =>
      have hne : arrivals ≠ [] := by
        rintro rfl
        cases hread
      have hpos := List.length_pos_iff.2 hne
      exact ih rest (events ++ [event]) (by simp only at hline; omega)

variable (loads) in
/-- Calls of `qmp_drain` collect the lines that are read to their end. -/
theorem drains_framed (n : Nat) (arrivals : List Recv) (events : List Fields) :
    (drains loads n arrivals events).1 ++ framed loads [] (drains loads n arrivals events).2 = events ++ framed loads [] arrivals := by
  induction n generalizing arrivals events with
  | zero => rfl
  | succ n ih => rw [drains, ih, qmpDrain, drainLoop_framed]

/-- Every call reads on, so that nothing is left after enough of them. -/
theorem drains_done {n : Nat} {arrivals : List Recv} (events : List Fields) (hn : arrivals.length ≤ n) :
    (drains loads n arrivals events).2 = [] := by
  induction n generalizing arrivals events with
  | zero => exact List.length_eq_zero_iff.1 (Nat.le_zero.1 hn)
  | succ n ih =>
    have hrest := (length_drainLoop loads (arrivals.length + 1) arrivals events).2 (Nat.succ_ne_zero _)
    exact ih _ (by rw [qmpDrain]; omega)

theorem payloadOf_encode {cs : List Char} (hne : cs ≠ []) :
    payloadOf loads (cs.flatMap String.utf8EncodeChar) = (loads cs).bind asDict := by
  have hlength := Utf8.length_le_flatMap cs
  have hpos := List.length_pos_iff.2 hne
  have hbuffer : cs.flatMap String.utf8EncodeChar ≠ [] := List.length_pos_iff.1 (by omega)
  rw [payloadOf, if_neg hbuffer, Utf8.decodeReplace_flatMap cs _ hlength]

/-- A line is read as its object, also when the front of its blanks is lost. -/
theorem payloadOf_part {l : ObjectLine loads} {dropped buffer : List UInt8} (hdropped : ∀ b ∈ dropped, isBlank b = true)
    (heq : dropped ++ buffer = l.body.flatMap String.utf8EncodeChar) : payloadOf loads buffer = some l.object := by
  obtain ⟨cs, hcs⟩ := l.text_eq_cons
  have hfront : dropped ++ buffer = l.before.flatMap String.utf8EncodeChar ++ 123 :: (cs ++ l.behind).flatMap String.utf8EncodeChar := by
    rw [heq, ObjectLine.body, hcs]
    simp only [List.flatMap_append, List.cons_append, List.flatMap_cons]
    rfl
  obtain ⟨before, hbefore, hbuffer⟩ := front_of_append_eq hdropped (by decide) hfront
  obtain ⟨ws, rfl, hws⟩ := encode_suffix l.blank_before hbefore
  have htext : buffer = (ws ++ (l.text ++ l.behind)).flatMap String.utf8EncodeChar := by
    rw [hbuffer, hcs]
    simp only [List.flatMap_append, List.cons_append, List.flatMap_cons]
    rfl
  have hne : ws ++ (l.text ++ l.behind) ≠ [] := by simp [hcs]
  rw [htext, payloadOf_encode hne, l.reads_part hws fun c hc => by simp [hc]]
  rfl

/-- A stream without a line feed has no line. -/
theorem streamBytes_eq_of_notMem {lines : List (ObjectLine loads)} {bytes : List UInt8} (h : 10 ∉ bytes)
    (heq : bytes = streamBytes lines) : lines = [] := by
  cases lines with
  | nil => rfl
  | cons l lines =>
    rw [heq, streamBytes, List.flatMap_cons, l.bytes_eq] at h
    exact absurd (by simp) h

/-- The run over what arrives: `dropped` are the blanks of the next line that were lost, `buffer` is what was read of it since. -/
theorem framed_eq (arrivals : List Recv) {lines : List (ObjectLine loads)} {dropped buffer : List UInt8}
    (hdropped : ∀ b ∈ dropped, isBlank b = true) (hline : 10 ∉ dropped ++ buffer)
    (hstream : dropped ++ buffer ++ received arrivals = streamBytes lines) (hinside : NothingInside (dropped ++ buffer) arrivals) :
    framed loads buffer arrivals = sentObjects lines := by
  induction arrivals generalizing lines dropped buffer with
  | nil =>
    have hend : dropped ++ buffer = streamBytes lines := by simpa [received] using hstream
    rw [streamBytes_eq_of_notMem hline hend]
    rfl
  | cons arrival arrivals ih =>
    cases arrival with
    | nothing =>
      obtain ⟨hblank, hrest⟩ := hinside.nothing
      rw [framed]
      exact ih hblank (by simpa using hline) (by simpa [received, Recv.bytes] using hstream) (by simpa using hrest)
    | byte b =>
      have hinside' := hinside.byte
      have hstream' : dropped ++ buffer ++ b :: received arrivals = streamBytes lines := by simpa [received, Recv.bytes] using hstream
      by_cases hb : b = 10
      · subst hb
        cases lines with
        | nil => simp [streamBytes] at hstream'
        | cons l lines =>
          rw [streamBytes, List.flatMap_cons, l.bytes_eq, List.append_assoc _ [10]] at hstream'
          obtain ⟨hbody, hrest⟩ := append_cons_inj hline (newline_notMem_encode l.newline_notMem_body) hstream'
          have hrun : framed loads [] arrivals = sentObjects lines :=
            @ih lines [] [] (by simp) (by simp) hrest (by simpa using hinside')
          rw [framed, if_pos rfl, payloadOf_part hdropped hbody, hrun]
          rfl
      · rw [framed, if_neg hb]
        rw [if_neg hb] at hinside'
        refine ih hdropped ?_ (by simpa using hstream') (by simpa using hinside')
        simp only [List.mem_append, List.mem_singleton, not_or] at hline ⊢
        exact ⟨hline.1, hline.2, fun h => hb h.symm⟩

theorem reads_of_nothingInside {lines : List (ObjectLine loads)} {arrivals : List Recv} (hstream : received arrivals = streamBytes lines)
    (h : NothingInside [] arrivals) : Reads arrivals lines := by
  have hevents : ∀ n, (drains loads n arrivals []).2 = [] → (drains loads n arrivals []).1 = sentObjects lines := by
    intro n hrest
    have hframed := drains_framed loads n arrivals []
    have hall : framed loads [] arrivals = sentObjects lines := @framed_eq _ arrivals lines [] [] (by simp) (by simp) hstream h
    rw [hrest, hall] at hframed
    simpa [framed] using hframed
  refine ⟨fun n hn => drains_done [] hn, hevents, fun n hrest start l hl hack => ?_⟩
  rw [hevents n hrest, sentObjects, ← List.map_drop]
  exact List.any_eq_true.2 ⟨l.object, List.mem_map_of_mem hl, by simpa [qmpQuitAckObserved] using hack⟩

end Harness

/-- A stream of objects is read as it was sent in the acceptance run exactly when every line is one stretch and no call ends inside one,
and in the scenario run as long as it never waits inside an object. -/
theorem read_iff {lines : List (ObjectLine loads)} {calls : List (List (List UInt8))} {arrivals : List Recv}
    (hcalls : (calls.map List.flatten).flatten = streamBytes lines) (harrivals : received arrivals = streamBytes lines) :
    (Acceptance.Reads calls lines ↔ Acceptance.WholeLines calls lines) ∧ (NothingInside [] arrivals → Harness.Reads arrivals lines) := by
  refine ⟨?_, Harness.reads_of_nothingInside harrivals⟩
  rw [← Acceptance.drains_eq_iff hcalls]
  exact ⟨fun h => h.events, Acceptance.reads_of_drains⟩

/-! ### An event that ends QEMU -/

section Sample

def shutdownEvent : Fields := [("event", .str "SHUTDOWN")]

/-- `{"event":"SHUTDOWN"}`. -/
def shutdownLine : ObjectLine JsonText.read where
  before := []
  text := JsonText.write (JsonText.compact fun _ => []) 0 (.dict shutdownEvent)
  behind := ['\r']
  object := shutdownEvent
  blank_before := by simp
  blank_behind := by decide
  opened := by decide
  closed := by decide
  one_line := by decide
  reads := fun ws ws' hws hws' => JsonText.read_around (JsonText.compact_lawful _) (by decide) hws hws'

/-- A byte after the other, without waiting. -/
def arriving (bytes : List UInt8) : List Recv := bytes.map .byte

theorem received_arriving (bytes : List UInt8) : received (arriving bytes) = bytes := by
  induction bytes with
  | nil => rfl
  | cons b bytes ih => exact congrArg (b :: ·) ih

theorem nothingInside_arriving (bytes : List UInt8) : NothingInside [] (.nothing :: arriving bytes) := by
  intro before behind heq
  cases before with
  | nil => simp [received, pendingAfter]
  | cons arrival before =>
    have hmem : Recv.nothing ∈ arriving bytes := by
      rw [(List.cons.inj heq).2]
      simp
    simp [arriving] at hmem

theorem stretches_shutdownLine : (stretches Acceptance.isLineEnd shutdownLine.bytes).length = 1 := by
  rw [ObjectLine.bytes, Utf8.encode_ofList, Acceptance.stretches_encode, List.length_map]
  decide

/-- The event is read in one call, and after a wait before it. -/
theorem read_shutdownLine : Acceptance.Reads [[shutdownLine.bytes]] [shutdownLine] ∧
    Harness.Reads (.nothing :: arriving shutdownLine.bytes) [shutdownLine] := by
  have hcalls : ([[shutdownLine.bytes]].map List.flatten).flatten = streamBytes [shutdownLine] := by simp [streamBytes]
  have harrivals : received (.nothing :: arriving shutdownLine.bytes) = streamBytes [shutdownLine] := by
    have := received_arriving shutdownLine.bytes
    simpa [received, Recv.bytes, streamBytes] using this
  have hread := read_iff hcalls harrivals
  refine ⟨hread.1.2 ⟨by simpa using stretches_shutdownLine, ?_⟩, hread.2 (nothingInside_arriving _)⟩
  simpa using Acceptance.cleanCuts_lines [shutdownLine]

/-- The line up to the word that says what happened. -/
def shutdownFront : List Char := "\x7b\"event\":".toList

/-- The line from this word on, without the line feed. -/
def shutdownRest : List Char := "\"SHUTDOWN\"\x7d\r".toList

def frontBytes : List UInt8 := shutdownFront.flatMap String.utf8EncodeChar

def restBytes : List UInt8 := shutdownRest.flatMap String.utf8EncodeChar ++ [10]

/-- The line with a wait in the middle. -/
def cutArrivals : List Recv := arriving frontBytes ++ .nothing :: arriving restBytes

theorem streamBytes_shutdownLine : streamBytes [shutdownLine] = frontBytes ++ restBytes := by
  have hbody : shutdownLine.body = shutdownFront ++ shutdownRest := by decide
  rw [streamBytes, List.flatMap_singleton, ObjectLine.bytes_eq, hbody, List.flatMap_append, List.append_assoc]
  rfl

/-- The two halves of the line are recorded as texts. -/
theorem drains_halves : Acceptance.drains JsonText.read [[frontBytes], [restBytes]] [] =
    .ok [.dict [("unparsed", .str (String.ofList shutdownFront))], .dict [("unparsed", .str "\"SHUTDOWN\"\x7d")]] := by
  have hfront : stretches Acceptance.isLineEnd frontBytes = [shutdownFront.flatMap String.utf8EncodeChar] := by
    rw [frontBytes, Acceptance.stretches_encode]
    rfl
  have hrest : stretches Acceptance.isLineEnd restBytes = ["\"SHUTDOWN\"\x7d".toList.flatMap String.utf8EncodeChar] := by
    have hbytes : restBytes = (shutdownRest ++ ['\n']).flatMap String.utf8EncodeChar := by
      rw [restBytes, List.flatMap_append]
      rfl
    rw [hbytes, Acceptance.stretches_encode]
    rfl
  rw [Acceptance.drains_ok_iff]
  refine ⟨_, ?_, (List.nil_append _).symm⟩
  simp only [List.map_cons, List.map_nil, List.flatMap_cons, List.flatMap_nil, List.flatten_cons, List.flatten_nil, List.append_nil,
    hfront, hrest, List.singleton_append]
  refine .cons ?_ (.cons ?_ .nil)
  · rw [Acceptance.eventOf_encode]
    rfl
  · rw [Acceptance.eventOf_encode]
    rfl

theorem framed_arriving {bytes : List UInt8} (h : 10 ∉ bytes) (buffer : List UInt8) (arrivals : List Recv) :
    Harness.framed loads buffer (arriving bytes ++ arrivals) = Harness.framed loads (buffer ++ bytes) arrivals := by
  induction bytes generalizing buffer with
  | nil => simp [arriving]
  | cons b bytes ih =>
    simp only [List.mem_cons, not_or] at h
    have hrun := ih h.2 (buffer ++ [b])
    simp only [arriving] at hrun
    simp only [arriving, List.map_cons, List.cons_append, Harness.framed, if_neg (Ne.symm h.1), hrun, List.append_assoc, List.nil_append]

/-- Nothing is left of the line after the wait. -/
theorem framed_cutArrivals : Harness.framed JsonText.read [] cutArrivals = [] := by
  have hfront : 10 ∉ frontBytes := newline_notMem_encode (by decide)
  have hrest : 10 ∉ shutdownRest.flatMap String.utf8EncodeChar := newline_notMem_encode (by decide)
  have hpayload : Harness.payloadOf JsonText.read (shutdownRest.flatMap String.utf8EncodeChar) = none := by
    rw [Harness.payloadOf_encode (by decide)]
    rfl
  rw [cutArrivals, framed_arriving hfront, Harness.framed, restBytes, arriving, List.map_append]
  have hrun := @framed_arriving JsonText.read _ hrest [] [.byte 10]
  rw [arriving] at hrun
  rw [List.map_singleton, hrun, List.nil_append, Harness.framed, if_pos rfl, hpayload]
  rfl

/-- Cut inside the object, the end of QEMU is seen in neither run. -/
theorem shutdown_lost : ([[frontBytes], [restBytes]].map List.flatten).flatten = streamBytes [shutdownLine] ∧
    received cutArrivals = streamBytes [shutdownLine] ∧
    ¬Acceptance.Reads [[frontBytes], [restBytes]] [shutdownLine] ∧ ¬Harness.Reads cutArrivals [shutdownLine] := by
  refine ⟨by simp [streamBytes_shutdownLine], ?_, fun hreads => ?_, fun hreads => ?_⟩
  · have hfront := received_arriving frontBytes
    have hrest := received_arriving restBytes
    rw [received] at hfront hrest
    rw [received, cutArrivals, List.flatMap_append, List.flatMap_cons, hfront, hrest, streamBytes_shutdownLine]
    rfl
  · have hack := hreads.quit_ack 0 shutdownLine (by simp) (by decide) _ drains_halves
    cases hack
  · have hrest := hreads.done _ (Nat.le_refl _)
    have hframed := Harness.drains_framed JsonText.read cutArrivals.length cutArrivals []
    rw [hrest, framed_cutArrivals] at hframed
    have hack := hreads.quit_ack _ hrest 0 shutdownLine (by simp) (by decide)
    rw [(List.append_eq_nil_iff.1 hframed).1] at hack
    cases hack

end Sample

end SuderraOs.Runtime
