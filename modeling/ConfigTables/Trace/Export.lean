import ConfigTables.Number.Binary64
import ConfigTables.Files.Tree
import ConfigTables.Json.Value
import ConfigTables.Log.Record
import ConfigTables.Text.Octets
import ConfigTables.Text.Utf8
import ConfigTables.Time.Civil
/-!
# Exporting spans

Finished spans are placed in traces and sent to one destination: a file of JSON lines, the
process's standard output, or a collector.

* Placing: every span without a parent opens a trace of its own; a span takes the trace of
  its parent. Trace ids have 32 lower-case hexadecimal digits and span ids 16; both are drawn
  from a counter, so that no two spans of a run share one.
* Sampling: a whole trace is kept or dropped, by its id. A rate of one or more keeps every
  trace; a rate below one keeps a trace when the low 64 bits of its id, halved, fall below
  the rate times 2^63.
* The file exporter appends one JSON object per span, in the order spans reach it. Opening
  it makes the file's directory and the file; after it is shut down it refuses spans.
* A provider collects the spans of a run and sends them when it is shut down; shutting it
  down again does nothing.

A span names one timed piece of work: its attributes, its status (unset, ok, or error with a
description), the error messages recorded on it, the other events with the exception message
each carries, and the span it belongs to. Spans are listed in the order they end; a parent is
named by its position in that list.
-/

namespace ConfigTables.Trace

/-- An attribute value. -/
inductive Value where
  | text (s : String)
  | int (n : Int)
  | float (x : Binary64)
  | bool (b : Bool)
  | texts (xs : List String)
  deriving Repr, Inhabited, BEq

/-- How a span ended. -/
inductive Status where
  | unset
  | ok
  | error (description : String)
  deriving Repr, Inhabited, BEq

/-- A finished span. -/
structure Span where
  name : String
  attrs : List (String × Value)
  status : Status
  /-- Messages of the errors recorded on the span, in order. -/
  errors : List String
  /-- The other events on the span, in order: the name and the exception message it carries,
  if any. -/
  events : List (String × Option String)
  /-- The position of the enclosing span among the spans started before it, if any. -/
  parent : Option Nat
  deriving Repr, Inhabited

end ConfigTables.Trace

namespace ConfigTables.Trace

/-- A span placed in a trace, with its identity and its times in nanoseconds since the
epoch. -/
structure Placed where
  traceId : String
  spanId : String
  parentId : Option String
  startNs : Int
  endNs : Int
  span : Span
  deriving Inhabited

/-- The hexadecimal digits of a number, zero-padded on the left to a width. -/
def hexId (width n : Nat) : String :=
  let ds := (Nat.toDigits 16 n)
  String.ofList (List.replicate (width - ds.length) '0' ++ ds)

/-- Follows parent links from a span to the span that opens its trace; `fuel` bounds the
walk. -/
def rootOf (spans : List Span) : Nat → Nat → Nat
  | 0, i => i
  | fuel + 1, i =>
    match (spans[i]?).bind (·.parent) with
    | some p => if p < spans.length then rootOf spans fuel p else i
    | none => i

/-- Places spans, listed with parents named by position, in traces: the spans take span ids
`spanBase + 1`, `spanBase + 2`, ... in list order, and the traces ids `traceBase + 1`, ... in
the order of their opening spans. All start at `startNs` and end a microsecond later. -/
def place (traceBase spanBase : Nat) (startNs : Int) (spans : List Span) : List Placed :=
  let roots := (List.range spans.length).filter fun i => (rootOf spans spans.length i) = i
  let traceOf (i : Nat) : String :=
    hexId 32 (traceBase + 1 + ((roots.idxOf (rootOf spans spans.length i))))
  spans.zipIdx.map fun (s, i) =>
    ⟨traceOf i, hexId 16 (spanBase + 1 + i),
      (s.parent.filter (· < spans.length)).map (fun p => hexId 16 (spanBase + 1 + p)),
      startNs, startNs + 1000, s⟩

/-- The number of traces a list of spans opens. -/
def traceCount (spans : List Span) : Nat :=
  ((List.range spans.length).filter fun i => (rootOf spans spans.length i) = i).length

/-- Whether a trace is kept at a sampling rate. -/
def sampled (rate : Binary64) (traceId : String) : Bool :=
  let (num, den) := rate.ratio
  if rate.negative || rate.isNaN then false
  else if num ≥ den then true
  else
    let low := ((Text.Hex.decode (traceId.drop 16).toString).getD []).foldl (fun a b => a * 256 + b.toNat) 0
    low / 2 < num * Nat.pow 2 63 / den

/-! ## Span records -/

/-- An attribute value as JSON. -/
def Value.toJson : Value → Json
  | .text s => .string s
  | .int n => .int n
  | .float x => .number x.formatData
  | .bool b => .bool b
  | .texts xs => Json.strings xs

/-- The word of a status. -/
def Status.word : Status → String
  | .unset => "UNSET"
  | .ok => "OK"
  | .error _ => "ERROR"

/-- The description a status keeps: only an error has one. -/
def Status.description : Status → String
  | .error d => d
  | _ => ""

/-- The exception messages of a span: its recorded errors, then the messages of its events
named `exception`. -/
def Span.exceptions (s : Span) : List String :=
  s.errors ++ s.events.filterMap fun (n, m) => if n = "exception" then m else none

/-- Milliseconds of a count of nanoseconds, through whole microseconds. -/
def millisOf (ns : Int) : Binary64 :=
  let us := ns / 1000
  Binary64.ofRatio (us < 0) us.natAbs 1000

/-- A placed span as the file exporter writes it; members that carry nothing are left out,
attributes are sorted by key. -/
def Placed.record (p : Placed) : Json :=
  let s := p.span
  let attrs := s.attrs.mergeSort (fun a b => decide (a.1 ≤ b.1))
  .object ([("trace_id", .string p.traceId), ("span_id", .string p.spanId)] ++
    (match p.parentId with
      | some q => [("parent_span_id", .string q)]
      | none => []) ++
    [("name", .string s.name), ("start_time", .string (Time.rfc3339Nano p.startNs)),
      ("duration_ms", .number (millisOf (p.endNs - p.startNs)).formatData),
      ("status", .string s.status.word)] ++
    (if s.status.description = "" then [] else [("status_message", .string s.status.description)]) ++
    (if attrs.isEmpty then [] else [("attributes", .object (attrs.map fun (k, v) => (k, v.toJson)))]) ++
    (if s.exceptions.isEmpty then [] else [("errors", Json.strings s.exceptions)]))

/-- The context of a placed span as the standard-output exporter shows it. -/
def contextJson (traceId spanId : String) : Json :=
  .object [("TraceID", .string traceId), ("SpanID", .string spanId), ("TraceFlags", .string "01"),
    ("TraceState", .string ""), ("Remote", .bool false)]

/-- The type word of an attribute value. -/
def Value.typeWord : Value → String
  | .text _ => "STRING"
  | .int _ => "INT64"
  | .float _ => "FLOAT64"
  | .bool _ => "BOOL"
  | .texts _ => "STRINGSLICE"

/-- A placed span as the standard-output exporter prints it: an indented JSON object. -/
def Placed.pretty (p : Placed) : String :=
  let s := p.span
  let parent := match p.parentId with
    | some q => contextJson p.traceId q
    | none => contextJson "00000000000000000000000000000000" "0000000000000000"
  Json.indented Json.StringStyle.data "\t" "" (.object [("Name", .string s.name),
    ("SpanContext", contextJson p.traceId p.spanId), ("Parent", parent), ("SpanKind", .nat 1),
    ("StartTime", .string (Time.rfc3339Nano p.startNs)), ("EndTime", .string (Time.rfc3339Nano p.endNs)),
    ("Attributes", .array (s.attrs.map fun (k, v) =>
      .object [("Key", .string k), ("Value", .object [("Type", .string v.typeWord), ("Value", v.toJson)])])),
    ("Status", .object [("Code", .string (match s.status with
      | .unset => "Unset"
      | .ok => "Ok"
      | .error _ => "Error")), ("Description", .string s.status.description)])]) ++ "\n"

/-! ## The file exporter -/

/-- A file of span records and whether it still takes spans. -/
structure FileExporter where
  path : String
  live : Bool
  deriving Inhabited

/-- Opens the file exporter at a path: makes the file's directory and the file. -/
def FileExporter.create (fs : Files.Tree) (path : String) : Except String (FileExporter × Files.Tree) := do
  let clean := Files.Path.clean path
  let fs ← (fs.mkdirAll (Files.Path.dir clean)).mapError (fun e => "create trace directory: " ++ e.message)
  let fs ← (fs.append clean []).mapError (fun e => "open trace file: " ++ e.message)
  pure (⟨clean, true⟩, fs)

/-- Appends the records of spans to the file. -/
def FileExporter.export (e : FileExporter) (fs : Files.Tree) (spans : List Placed) :
    Except String Files.Tree :=
  if !e.live then .error "exporter is shut down"
  else
    let text := String.join (spans.map fun p => Json.compact Json.StringStyle.data p.record ++ "\n")
    .ok ((fs.append e.path (Text.Utf8.encode text)).toOption.getD fs)

/-- Shuts the exporter down; it refuses spans afterwards. -/
def FileExporter.shutdown (e : FileExporter) : FileExporter := { e with live := false }

/-! ## Providers -/

/-- Where a provider sends its spans. -/
inductive Target where
  | file (e : FileExporter)
  | stdout
  | collector (endpoint : String)
  deriving Inhabited

/-- How tracing is set up. -/
structure Settings where
  enabled : Bool
  exporter : String
  filePath : String
  otlpEndpoint : String
  sampleRate : Binary64
  serviceName : String
  deriving Inhabited

/-- Tracing off, exporting to a file when turned on, at the full rate. -/
def Settings.default : Settings :=
  ⟨false, "file", "", "localhost:4317", Binary64.ofInt 1, "confhub"⟩

/-- A tracing provider: on or off, where its spans go, its sampling rate, the spans it holds,
and whether it was shut down. -/
structure Provider where
  enabled : Bool
  target : Option Target
  rate : Binary64
  pending : List Placed
  down : Bool
  deriving Inhabited

/-- Settings as JSON, by their names in the settings file. -/
def Settings.toJson (s : Settings) : Json :=
  .object [("enabled", .bool s.enabled), ("exporter", .string s.exporter), ("file_path", .string s.filePath),
    ("otlp_endpoint", .string s.otlpEndpoint), ("sample_rate", .number s.sampleRate.formatData),
    ("service_name", .string s.serviceName)]

/-- A provider that records nothing. -/
def Provider.off : Provider := ⟨false, none, Binary64.ofInt 1, [], false⟩

/-- Creates a provider: off when tracing is off; otherwise with the named exporter. A rate of
zero or less means the full rate. Gives the provider, the tree and the records logged. -/
def Provider.create (fs : Files.Tree) (s : Settings) :
    Except String (Provider × Files.Tree × List Log.Record) := do
  if !s.enabled then return (Provider.off, fs, [])
  let (target, fs) ← match s.exporter with
    | "file" =>
      if s.filePath = "" then Except.error "file_path required for file exporter"
      else
        match FileExporter.create fs s.filePath with
        | .ok (e, fs) => .ok (some (Target.file e), fs)
        | .error m => .error ("create file exporter: " ++ m)
    | "stdout" => .ok (some .stdout, fs)
    | "otlp" => .ok (some (.collector (if s.otlpEndpoint = "" then "localhost:4317" else s.otlpEndpoint)), fs)
    | "none" | "" => .ok (none, fs)
    | other => .error ("unsupported exporter type: " ++ other)
  let rate := if s.sampleRate.negative || s.sampleRate.isZero then Binary64.ofInt 1 else s.sampleRate
  pure (⟨true, target, rate, [], false⟩, fs,
    [⟨.debug, "trace", "tracing enabled", [.text "exporter", .text s.exporter, .text "sample_rate", .float rate]⟩])

/-- Takes the spans of one piece of work, placed from the given counters at a time; the
traces that are not sampled are dropped. A provider that is off or shut down keeps nothing. -/
def Provider.take (p : Provider) (traceBase spanBase : Nat) (startNs : Int) (spans : List Span) : Provider :=
  if !p.enabled || p.down then p
  else { p with pending := p.pending ++ (place traceBase spanBase startNs spans).filter (sampled p.rate ·.traceId) }

/-- Shuts a provider down: its spans go to its destination. Gives the provider, the tree,
and what was printed on standard output. -/
def Provider.shutdown (p : Provider) (fs : Files.Tree) : Provider × Files.Tree × String :=
  if !p.enabled || p.down then (p, fs, "")
  else
    let p' := { p with pending := [], down := true }
    match p.target with
    | some (.file e) =>
      let fs := (e.export fs p.pending).toOption.getD fs
      ({ p' with target := some (.file e.shutdown) }, fs, "")
    | some .stdout => (p', fs, String.join (p.pending.map Placed.pretty))
    | _ => (p', fs, "")

end ConfigTables.Trace
