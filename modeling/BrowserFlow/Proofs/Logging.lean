import BrowserFlow.Log.Stream
import BrowserFlow.Proofs.ObjectNotation
import Mathlib.Data.List.Induction

/-!
# The lines of a log stream

What a stream with a handler writes over a whole run of requests. A message of a logger makes a
record, and so does a line given to a sink that is enabled; a sink that is not enabled makes records
of failures only. Each record belongs to the session that the requests before it went over to last.
The records that pass the threshold are written in the order of their requests, but for those whose
extra data cannot be written: such a record leaves no line. A line that is written has the fixed
fields of its record and no others, and after them the extra data as one field of its own, in which
the entries of a mapping are, whatever their keys are named.
-/
namespace BrowserFlow

open Text (jsonString members?)

namespace LogRecord

/-- The fields of a line that every record has, as they are written. -/
def fixedMembers (r : LogRecord) : List (String × String) :=
  [(jsonString "asctime", jsonString timeMark), (jsonString "name", jsonString r.logger),
    (jsonString "levelname", jsonString r.level.name),
    (jsonString "session_id", (r.session.map jsonString).getD "null"),
    (jsonString "message", jsonString r.message)]

/-- A line that shows a record: its fixed fields, and after them its extra data, if there is any, as
one field, which has the entries of a mapping as its members. -/
inductive ShownBy (r : LogRecord) (line : String) : Prop
  | plain (hextra : r.extra = none) (hmembers : members? line = some r.fixedMembers)
  | withData {v : Value} {data : String} (hextra : r.extra = some v) (hdata : v.json? = some data)
    (hmembers : members? line = some (r.fixedMembers ++ [(jsonString "extra_data", data)]))
    (hentries : ∀ entries, v = .dict entries → members? data = Value.jsonPairs? entries)

/-- The entries of a line that every record has. -/
def fixedEntries (r : LogRecord) : List (Value × Value) :=
  [(.str "asctime", .str timeMark), (.str "name", .str r.logger),
    (.str "levelname", .str r.level.name), (.str "session_id", .ofOption r.session),
    (.str "message", .str r.message)]

theorem line?_eq (r : LogRecord) : r.line? = (Value.dict (r.fixedEntries ++
    (r.extra.map fun v => (.str "extra_data", v)).toList)).json? := by
  rw [line?, fields, List.map_append]
  cases r.extra <;> rfl

theorem jsonPairs?_fixedEntries (r : LogRecord) :
    Value.jsonPairs? r.fixedEntries = some r.fixedMembers := by
  obtain ⟨level, logger, message, session, extra⟩ := r
  cases session <;> rfl

theorem jsonPairs?_data (r : LogRecord) (v : Value) :
    Value.jsonPairs? (r.fixedEntries ++ [(.str "extra_data", v)]) =
      v.json?.map fun data => r.fixedMembers ++ [(jsonString "extra_data", data)] := by
  rw [Value.jsonPairs?_append, jsonPairs?_fixedEntries, Value.jsonPairs?_cons]
  cases v.json? <;> rfl

theorem shownBy_of_line? {r : LogRecord} {line : String} (h : r.line? = some line) :
    r.ShownBy line := by
  rw [line?_eq] at h
  obtain ⟨pairs, hpairs, hmembers⟩ := Value.members?_of_json? h
  cases hextra : r.extra with
  | none =>
    rw [hextra] at hpairs
    obtain rfl := Option.some.inj (r.jsonPairs?_fixedEntries.symm.trans hpairs)
    exact .plain hextra hmembers
  | some v =>
    rw [hextra] at hpairs
    change Value.jsonPairs? (r.fixedEntries ++ [(.str "extra_data", v)]) = _ at hpairs
    rw [jsonPairs?_data] at hpairs
    obtain ⟨data, hdata, rfl⟩ := Option.map_eq_some_iff.1 hpairs
    refine .withData hextra hdata hmembers ?_
    rintro entries rfl
    obtain ⟨inner, hinner, hread⟩ := Value.members?_of_json? hdata
    exact hread.trans hinner.symm

/-- A record has a line exactly if its extra data can be written. -/
theorem line?_isSome_iff (r : LogRecord) :
    r.line?.isSome = true ↔ ∀ v, r.extra = some v → v.WritableThroughout := by
  have hfixed : ∀ entry ∈ r.fixedEntries, entry.1.CanName ∧ entry.2.WritableThroughout := by
    rw [← Value.jsonEntries?_isSome_iff, Value.jsonEntries?_eq, jsonPairs?_fixedEntries]
    rfl
  rw [line?_eq, Value.json?_isSome_iff, Value.writableThroughout_dict, List.forall_mem_append]
  refine (and_iff_right hfixed).trans ?_
  cases r.extra <;> simp [Value.CanName]

end LogRecord

namespace LogStream

namespace Request

/-- The session that a request goes over to. -/
def session? : Request → Option (Option String)
  | .session id => some id
  | _ => none

/-- The record that a request makes in a session. -/
def record? (session : Option String) : Request → Option LogRecord
  | .say logger level message extra => some ⟨level, logger, message, session, extra⟩
  | .trace _ .error line => some ⟨.error, "uiflow.trace", line, session,
      some (.dict [(.str "event_type", .str "StepFailure")])⟩
  | .trace true .step line => some ⟨.info, "uiflow.trace", line, session,
      some (.dict [(.str "event_type", .str "StepStart")])⟩
  | .trace true .info line => some ⟨.info, "uiflow.trace", line, session,
      some (.dict [(.str "event_type", .str "Probe")])⟩
  | .trace false .step _ | .trace false .info _ | .session _ => none

end Request

/-- The session in force after some requests: the one that they went over to last, or else the one
that was in force before them. -/
def sessionAfter (session : Option String) (requests : List Request) : Option String :=
  (requests.filterMap Request.session?).getLastD session

/-- The record that the request at a place among others makes, if it passes the threshold. -/
def heardAt (s : LogStream) (requests : List Request) (place : Nat) : Option LogRecord :=
  (requests[place]?.bind (·.record? (sessionAfter s.session (requests.take place)))).filter
    (s.threshold.passes ·.level)

/-- The records that requests make and that pass the threshold, in the order of the requests. -/
def heard (s : LogStream) (requests : List Request) : List LogRecord :=
  (List.range requests.length).filterMap (s.heardAt requests)

variable {s : LogStream} {request : Request} {requests : List Request}

theorem sessionAfter_concat (session : Option String) :
    sessionAfter session (requests ++ [request]) =
      request.session?.getD (sessionAfter session requests) := by
  cases h : request.session? <;> simp [sessionAfter, h]

theorem heard_concat (s : LogStream) :
    s.heard (requests ++ [request]) = s.heard requests ++
      ((request.record? (sessionAfter s.session requests)).filter
        (s.threshold.passes ·.level)).toList := by
  have hbefore : ∀ place ∈ List.range requests.length,
      s.heardAt (requests ++ [request]) place = s.heardAt requests place := by
    intro place hplace
    rw [List.mem_range] at hplace
    rw [heardAt, heardAt, List.getElem?_append_left hplace,
      List.take_append_of_le_length (Nat.le_of_lt hplace)]
  have hlast : s.heardAt (requests ++ [request]) requests.length =
      (request.record? (sessionAfter s.session requests)).filter (s.threshold.passes ·.level) := by
    rw [heardAt, List.getElem?_concat_length, List.take_left]
    rfl
  rw [heard, List.length_append, List.length_singleton, List.range_succ, List.filterMap_append,
    List.filterMap_congr hbefore, List.filterMap_cons, hlast]
  cases (request.record? (sessionAfter s.session requests)).filter (s.threshold.passes ·.level) <;>
    rfl

/-- A stream with one handler writes a record once, if the record passes and can be written. -/
theorem linesFor_eq (hs : s.handlers = 1) (r : LogRecord) :
    s.linesFor r = ((some r).filter (s.threshold.passes ·.level)).toList.filterMap (·.line?) := by
  rw [linesFor, hs, Option.filter_some]
  cases s.threshold.passes r.level <;> rfl

/-- What one request leaves. -/
theorem perform_apply (hs : s.handlers = 1) (request : Request) :
    perform request s = (.done (), { s with
      session := request.session?.getD s.session
      lines := s.lines ++
        ((request.record? s.session).filter (s.threshold.passes ·.level)).toList.filterMap
          (·.line?) }) := by
  have hwrite (level : LogLevel) (logger message : String) (extra : Option Value) :
      write level logger message extra s = (.done (), { s with
        lines := s.lines ++ s.linesFor ⟨level, logger, message, s.session, extra⟩ }) := rfl
  simp only [linesFor_eq hs] at hwrite
  cases request with
  | say logger level message extra => exact hwrite level logger message extra
  | trace enabled kind line =>
    cases kind <;> cases enabled
    case step.false | info.false =>
      simp [perform, writeLine, Sink.writes, Request.session?, Request.record?]
    all_goals exact hwrite _ "uiflow.trace" line _
  | session id => simp [perform, setSession, Proc.update, Request.session?, Request.record?]

theorem performAll_concat (requests : List Request) (request : Request) :
    performAll (requests ++ [request]) = performAll requests >>= fun _ => perform request := by
  simp [performAll, List.forM_append]

theorem performAll_apply (hs : s.handlers = 1) (requests : List Request) :
    performAll requests s = (.done (), { s with
      session := sessionAfter s.session requests
      lines := s.lines ++ (s.heard requests).filterMap (·.line?) }) := by
  induction requests using List.reverseRecOn with
  | nil => simp [performAll, sessionAfter, heard]
  | append_singleton requests request ih =>
    have hafter := perform_apply (s := { s with
      session := sessionAfter s.session requests
      lines := s.lines ++ (s.heard requests).filterMap (·.line?) }) hs request
    rw [performAll_concat, Proc.bind_apply, ih]
    dsimp only
    rw [hafter, sessionAfter_concat, heard_concat, List.filterMap_append, List.append_assoc]

/-- A stream with one handler does whatever it is asked without an error. Its lines are those of the
records that pass, in the order of the requests; a record is left out exactly if something at some
depth of its extra data cannot be written. Each line shows its record with the session in force at
its request. -/
theorem performAll_lines (hs : s.handlers = 1) (requests : List Request) :
    performAll requests s = (.done (), { s with
        session := sessionAfter s.session requests
        lines := s.lines ++ (s.heard requests).filterMap (·.line?) }) ∧
      ∀ r ∈ s.heard requests,
        (r.line?.isSome = true ↔ ∀ v, r.extra = some v → v.WritableThroughout) ∧
        ∀ line, r.line? = some line → r.ShownBy line :=
  ⟨performAll_apply hs requests, fun r _ =>
    ⟨r.line?_isSome_iff, fun _ => r.shownBy_of_line?⟩⟩

/-- An entry named like a field stays in the data; a sink that is not enabled still tells of a
failure, in the session in force. -/
theorem performAll_lines_nested :
    let s : LogStream := { start .start (some "one") with handlers := 1 }
    let requests := [.say "uiflow.demo" .info "hi" (some (.dict [(.str "message", .str "no")])),
      .session (some "two"), .trace false .step "click", .trace false .error "boom"]
    s.handlers = 1 ∧ (performAll requests s).2.lines = [
      "\x7b\"asctime\": \"T\", \"name\": \"uiflow.demo\", \"levelname\": \"INFO\", " ++
        "\"session_id\": \"one\", \"message\": \"hi\", " ++
        "\"extra_data\": \x7b\"message\": \"no\"\x7d\x7d",
      "\x7b\"asctime\": \"T\", \"name\": \"uiflow.trace\", \"levelname\": \"ERROR\", " ++
        "\"session_id\": \"two\", \"message\": \"boom\", " ++
        "\"extra_data\": \x7b\"event_type\": \"StepFailure\"\x7d\x7d"] := by
  intro s requests
  refine ⟨rfl, ?_⟩
  rw [(performAll_lines (s := s) rfl requests).1]
  decide +kernel

/-- A record that passes leaves no line if a key in its data has no written form. -/
theorem performAll_loses_record :
    let s : LogStream := { start .start none with handlers := 1 }
    let cells : Value := .dict [(.tuple [.int 1, .int 2], .str "x")]
    let request : Request := .say "uiflow.demo" .info "moved" (some (.dict [(.str "cells", cells)]))
    (s.heard [request]).length = 1 ∧ (performAll [request] s).2.lines = [] := by
  decide +kernel

end LogStream

end BrowserFlow
