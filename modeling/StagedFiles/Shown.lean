-- Values as they are shown to someone who looks into a running program: a
-- record with the fields that matter, under the name of the part.
import StagedFiles.Front
import StagedFiles.Text.Record

namespace StagedFiles

def Fd.shown (fd : Fd) : String := Record.tagged "Fd" fd.text

def Grouping.shown : Grouping → String
  | .fixedCount n => Record.render "FixedCount" [("max_extents", toString n)]
  | .density minSpan maxSpan minDensity =>
    Record.render "Density"
      [ ("min_span", toString minSpan),
        ("max_span", toString maxSpan),
        ("min_density", Decimal.pointed.render minDensity) ]

def Settings.shown (s : Settings) : String :=
  Record.render "BufferConfig"
    [ ("enabled", toString s.enabled),
      ("buffer_size", toString s.bufferSize),
      ("adapter", s.adapter.name),
      ("readv", s.grouping.shown),
      ("aio_wait_warn_ms", toString s.waitWarnMs),
      ("close_wait_ms", toString s.closeWaitMs) ]

/-- The front over a store of the given name. -/
def Front.shown (front : Front) (store : String) : String :=
  Record.render "Oss" [("store", Record.text store), ("config", front.settings.shown)]

def Stage.shown (s : Stage) : String :=
  Record.render "BufferAlgorithm"
    [ ("fd", s.fd.shown),
      ("adapter", s.adapter.kind.name),
      ("capacity", toString s.capacity),
      ("state", s.state.name) ]

/-- A raw file over a store of the given name. -/
def RawFile.shown (f : RawFile) (store : String) : String :=
  Record.render "DirectFile"
    [ ("store", Record.text store),
      ("coalescer", Record.render "ExtentCoalescer" [("policy", f.grouping.shown)]),
      ("fd", Record.option (f.fd.map Fd.shown)) ]

def StagedFile.shown (f : StagedFile) : String :=
  Record.render "BufferedFile"
    [ ("fd", Record.option (f.raw.fd.map Fd.shown)),
      ("path", Record.option (f.session.map fun s => Record.text s.path)),
      ("state", Record.option (f.session.map fun s => s.stage.state.name)) ]

def ObjectFile.shown (f : ObjectFile) (store : String) : String :=
  match f with
  | .raw f => f.shown store
  | .staged f => f.shown

/-- A request shows its range and not its bytes. -/
def AioRequest.shown : AioRequest → String
  | .read offset len =>
    Record.renderSome "AioRead" [("offset", toString offset), ("len", toString len)]
  | .write offset len =>
    Record.renderSome "AioWrite" [("offset", toString offset), ("len", toString len)]

end StagedFiles
