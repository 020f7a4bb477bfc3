-- What is reported of a run: the summaries of its sessions, a line for each or
-- all as JSON, and a failure with the causes under it.
import StagedFiles.File.Staged
import StagedFiles.Text.Json

namespace StagedFiles

/-! ## Summaries -/

/-- The clock readings printed with a summary; a model has no clock of its own. -/
structure Times where
  start : String
  finish : String
  elapsedMs : Nat

namespace Summary

/-- The summary as a line. -/
def line (s : Summary) (times : Times) : String :=
  let fields : List (String × String) :=
    [ ("fd", s.fd.text),
      ("adapter", s.adapter.word),
      ("elapsed", toString times.elapsedMs ++ "ms"),
      ("read", toString s.bytes.read),
      ("readv", toString s.bytes.readv),
      ("read_aio", toString s.cache.aioReadBytes),
      ("write", toString s.bytes.write),
      ("write_aio", toString s.cache.aioWriteBytes),
      ("hits", toString s.cache.hits),
      ("misses", toString s.cache.misses),
      ("flushes", toString s.cache.flushes) ]
  String.intercalate " " (s.path :: fields.map fun f => f.1 ++ "=" ++ f.2)

def counter (c : Counter) : JsonValue := .number c.toNat

end Summary

def CacheStats.json (c : CacheStats) : JsonValue :=
  .record
    [ ("hits", Summary.counter c.hits),
      ("misses", Summary.counter c.misses),
      ("flushes", Summary.counter c.flushes),
      ("flushed_bytes", Summary.counter c.flushedBytes),
      ("aio_read_bytes", Summary.counter c.aioReadBytes),
      ("aio_write_bytes", Summary.counter c.aioWriteBytes) ]

def Traffic.json (t : Traffic) : JsonValue :=
  .record
    [ ("requests", Summary.counter t.requests),
      ("bytes", Summary.counter t.bytes),
      ("latency_us_total", Summary.counter t.latencyTotal),
      ("latency_us_longest", Summary.counter t.latencyLongest) ]

/-- The summary as JSON; a session that is not closed has no end. -/
def Summary.json (s : Summary) (times : Times) : JsonValue :=
  .record
    [ ("fd", .number s.fd.number),
      ("path", .text s.path),
      ("adapter", .text s.adapter.word),
      ("buffer_size", .number s.bufferSize),
      ("start_time", .text times.start),
      ("end_time", if s.ended then .text times.finish else .null),
      ("elapsed_ms", .number times.elapsedMs),
      ("read_bytes", Summary.counter s.bytes.read),
      ("readv_bytes", Summary.counter s.bytes.readv),
      ("read_aio_bytes", Summary.counter s.cache.aioReadBytes),
      ("write_bytes", Summary.counter s.bytes.write),
      ("write_aio_bytes", Summary.counter s.cache.aioWriteBytes),
      ("cache", s.cache.json),
      ("io", .record [("read", s.io.read.json), ("write", s.io.write.json)]) ]

/-- All summaries, as they are printed. -/
def Summary.report (json : Bool) (times : Times) (summaries : List Summary) : String :=
  if json then (JsonValue.list (summaries.map (·.json times))).pretty 0 ++ "\n"
  else String.join (summaries.map fun s => s.line times ++ "\n")

/-! ## Failures with their causes -/

/-- A text and the texts of what caused it, nearest first. -/
structure Chain where
  text : String
  causes : List String
  deriving DecidableEq, Repr

namespace Chain

/-- A text set in by `first`, its later lines by `later`. -/
def indent (first later text : String) : String :=
  first ++ String.intercalate ("\n" ++ later) (text.splitOn "\n")

/-- A cause with its number. -/
def numbered (e : String × Nat) : String :=
  let number := toString e.2
  let first := String.ofList (List.replicate (5 - number.length) ' ') ++ number ++ ": "
  indent first "       " e.1

/-- The chain as it is printed: one cause stands alone, more are numbered. -/
def render (c : Chain) : String :=
  match c.causes with
  | [] => c.text
  | [cause] => c.text ++ "\n\nCaused by:\n" ++ indent "    " "    " cause
  | causes =>
    c.text ++ "\n\nCaused by:\n" ++ String.intercalate "\n" (causes.zipIdx.map numbered)

/-- A failure by itself. -/
def ofFailure (f : Failure) : Chain := ⟨f.message, f.causes⟩

/-- A failure under a text that says what was attempted. -/
def during (text : String) (f : Failure) : Chain := ⟨text, f.message :: f.causes⟩

end Chain

end StagedFiles
