-- Counters of what went through an adapter. A counter is a 64-bit word and
-- wraps, so a sum is a sum modulo 2 ^ 64.

namespace StagedFiles

/-- A counter. -/
abbrev Counter := UInt64

/-- The counter `n` further on. -/
def Counter.plus (c : Counter) (n : Nat) : Counter := c + n.toUInt64

/-- What went in one direction. Latencies are in microseconds. -/
structure Traffic where
  requests : Counter := 0
  bytes : Counter := 0
  latencyTotal : Counter := 0
  latencyLongest : Counter := 0
  deriving DecidableEq, Repr

namespace Traffic

/-- Counts one completed request. -/
def record (t : Traffic) (bytes : Nat) (micros : Nat) : Traffic :=
  { requests := t.requests + 1
    bytes := Counter.plus t.bytes bytes
    latencyTotal := Counter.plus t.latencyTotal micros
    latencyLongest := max t.latencyLongest micros.toUInt64 }

/-- The mean latency of a request, 0 before the first one. -/
def meanLatency (t : Traffic) : Counter := t.latencyTotal / t.requests

end Traffic

/-- What went in both directions. -/
structure TwoWayTraffic where
  read : Traffic := {}
  write : Traffic := {}
  deriving DecidableEq, Repr

end StagedFiles
