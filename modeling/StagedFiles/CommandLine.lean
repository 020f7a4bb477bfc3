-- The arguments of a run. Words are read from left to right, and the first one
-- that asks for help, asks for the version or breaks a rule decides. An option
-- that is not given may be set by a variable of the environment.
import StagedFiles.Settings

namespace StagedFiles.CommandLine

/-! ## The options -/

/-- The options that take a value. -/
inductive Key where
  | root | config | bufferSize | adapter | chunkSize | logLevel
  deriving DecidableEq, Repr

/-- The options that stand alone. -/
inductive Flag where
  | noBuffer | aio | verify | summaryJson | logJson
  deriving DecidableEq, Repr

def Key.word : Key → String
  | .root => "root"
  | .config => "config"
  | .bufferSize => "buffer-size"
  | .adapter => "adapter"
  | .chunkSize => "chunk-size"
  | .logLevel => "log-level"

def Flag.word : Flag → String
  | .noBuffer => "no-buffer"
  | .aio => "aio"
  | .verify => "verify"
  | .summaryJson => "summary-json"
  | .logJson => "log-json"

def Key.all : List Key := [.root, .config, .bufferSize, .adapter, .chunkSize, .logLevel]

def Flag.all : List Flag := [.noBuffer, .aio, .verify, .summaryJson, .logJson]

/-- The variable that sets an option which is not given. -/
def Key.variable? : Key → Option String
  | .root => some "OBJBUF_ROOT"
  | .config => some "OBJBUF_CONFIG"
  | .bufferSize => some "OBJBUF_BUFFER_SIZE"
  | .adapter => some "OBJBUF_ADAPTER"
  | .chunkSize => none
  | .logLevel => some "LOG_LEVEL"

def Flag.variable? : Flag → Option String
  | .logJson => some "LOG_JSON"
  | _ => none

/-! ## Values -/

/-- A whole number of 64 bits, with or without a plus sign. -/
def size? (w : String) : Option Nat :=
  let digits := match w.toList with
    | '+' :: rest => rest
    | cs => cs
  if digits.isEmpty || !digits.all Char.isDigit then none
  else
    let n := digits.foldl (fun n c => n * 10 + (c.toNat - '0'.toNat)) 0
    if n ≤ Offset.last then some n else none

def adapter? (w : String) : Option AdapterKind :=
  match AdapterKind.ofWord w with
  | .ok kind => some kind
  | .error _ => none

/-- The option takes this value. Paths are not empty. -/
def Key.accepts (key : Key) (value : String) : Bool :=
  match key with
  | .root | .config => value ≠ ""
  | .bufferSize | .chunkSize => (size? value).isSome
  | .adapter => (adapter? value).isSome
  | .logLevel => true

/-- The truth value that a variable gives to a flag. -/
def truth? (w : String) : Option Bool :=
  if w = "true" then some true else if w = "false" then some false else none

/-! ## Misuse -/

/-- A rule that the arguments break. -/
inductive Misuse where
  | unknown (word : String)
  | noValue (word : String)
  | badValue (word value : String)
  | strayValue (word : String)
  | repeated (word : String)
  | tooMany (word : String)
  | missing (word : String)
  deriving DecidableEq, Repr

def Misuse.text : Misuse → String
  | .unknown word => s!"unexpected argument: {word}"
  | .noValue word => s!"a value is required for {word}"
  | .badValue word value => s!"invalid value for {word}: {value}"
  | .strayValue word => s!"no value is allowed for {word}"
  | .repeated word => s!"{word} cannot be given twice"
  | .tooMany word => s!"one argument too many: {word}"
  | .missing word => s!"{word} is required"

/-- Why reading stopped before the end. -/
inductive Halt where
  | help
  | version
  | misuse (why : Misuse)
  deriving DecidableEq, Repr

/-! ## Reading -/

/-- What was given so far. -/
structure Given where
  values : List (Key × String) := []
  flags : List Flag := []
  places : List String := []

/-- The names of the arguments that stand by place. -/
def placeNames : List String := ["source", "dest"]

namespace Given

def value? (g : Given) (key : Key) : Option String := (g.values.find? (·.1 = key)).map (·.2)

def addValue (g : Given) (key : Key) (value : String) : Except Halt Given :=
  if (g.value? key).isSome then .error (.misuse (.repeated key.word))
  else if key.accepts value then .ok { g with values := g.values ++ [(key, value)] }
  else .error (.misuse (.badValue key.word value))

def addFlag (g : Given) (flag : Flag) : Except Halt Given :=
  if flag ∈ g.flags then .error (.misuse (.repeated flag.word))
  else .ok { g with flags := flag :: g.flags }

/-- The source is a path and so not empty; the destination may be. -/
def addPlace (g : Given) (word : String) : Except Halt Given :=
  match g.places with
  | [] =>
    if word = "" then .error (.misuse (.badValue "source" word)) else .ok { g with places := [word] }
  | [source] => .ok { g with places := [source, word] }
  | _ => .error (.misuse (.tooMany word))

end Given

/-- A word that may stand as a value or by place: it does not look like an option. -/
def isPlain (word : String) : Bool := word = "-" || word.toList.head? ≠ some '-'

/-- What a long option says, with the value behind its equals sign. -/
structure LongWord where
  name : String
  value : Option String

/-- A word with two dashes in front. -/
def longWord? (word : String) : Option LongWord :=
  match word.toList with
  | '-' :: '-' :: rest =>
    let name := rest.takeWhile (· ≠ '=')
    let value := match rest.drop name.length with
      | [] => none
      | _ :: v => some (String.ofList v)
    some ⟨String.ofList name, value⟩
  | _ => none

/-- What stands alone says by itself. -/
def alone (w : LongWord) (x : Except Halt Given) : Except Halt Given :=
  if w.value.isSome then .error (.misuse (.strayValue w.name)) else x

/-- Short options in one word: the first letter decides. -/
def short (word : String) : Except Halt Given :=
  match word.toList.drop 1 with
  | 'h' :: _ => .error .help
  | 'V' :: _ => .error .version
  | _ => .error (.misuse (.unknown word))

/-- A long option, and the words left behind it. -/
def long (g : Given) (w : LongWord) (rest : List String) : Except Halt (Given × List String) :=
  match Key.all.find? (·.word = w.name), Flag.all.find? (·.word = w.name) with
  | some key, _ =>
    match w.value, rest with
    | some value, rest => (g.addValue key value).map (·, rest)
    | none, value :: rest =>
      if isPlain value then (g.addValue key value).map (·, rest)
      else .error (.misuse (.noValue key.word))
    | none, [] => .error (.misuse (.noValue key.word))
  | none, some flag => (alone w (g.addFlag flag)).map (·, rest)
  | none, none =>
    if w.name = "help" then (alone w (.error .help)).map (·, rest)
    else if w.name = "version" then (alone w (.error .version)).map (·, rest)
    else .error (.misuse (.unknown w.name))

/-- All words in order; behind two dashes alone every word stands by place. -/
def readWords (g : Given) (words : List String) : Nat → Except Halt Given
  | 0 => .ok g
  | fuel + 1 =>
    match words with
    | [] => .ok g
    | "--" :: rest => rest.foldlM Given.addPlace g
    | word :: rest =>
      if isPlain word then
        match g.addPlace word with
        | .ok g => readWords g rest fuel
        | .error h => .error h
      else
        match longWord? word with
        | none => short word
        | some w =>
          match long g w rest with
          | .ok (g, rest) => readWords g rest fuel
          | .error h => .error h

/-! ## The environment -/

/-- The variables that are set. -/
abbrev Environment := List (String × String)

/-- The variables that are looked at. -/
def variableNames : List String :=
  Key.all.filterMap Key.variable? ++ Flag.all.filterMap Flag.variable?

def lookup (env : Environment) (name : Option String) : Option String :=
  name.bind fun n => (env.find? (·.1 = n)).map (·.2)

/-- An option that is not given takes its variable's value. -/
def fillKey (env : Environment) (g : Given) (key : Key) : Except Halt Given :=
  match g.value? key, lookup env key.variable? with
  | none, some value => g.addValue key value
  | _, _ => .ok g

def fillFlag (env : Environment) (g : Given) (flag : Flag) : Except Halt Given :=
  if flag ∈ g.flags then .ok g
  else
    match lookup env flag.variable? with
    | none => .ok g
    | some value =>
      match truth? value with
      | some true => g.addFlag flag
      | some false => .ok g
      | none => .error (.misuse (.badValue flag.word value))

/-! ## The arguments -/

structure Arguments where
  source : String
  dest : String
  root : String
  config : Option String
  bufferSize : Option Nat
  adapter : Option AdapterKind
  chunkSize : Nat
  flags : List Flag
  logLevel : String

namespace Arguments

def has (a : Arguments) (flag : Flag) : Bool := flag ∈ a.flags

end Arguments

def defaultRoot : String := "."

def defaultChunkSize : Nat := 65536

def defaultLogLevel : String := "info"

/-- The arguments that were given, with defaults for the rest. -/
def Given.arguments (g : Given) : Except Halt Arguments :=
  match g.places with
  | [source, dest] =>
    .ok
      { source, dest
        root := (g.value? .root).getD defaultRoot
        config := g.value? .config
        bufferSize := (g.value? .bufferSize).bind size?
        adapter := (g.value? .adapter).bind adapter?
        chunkSize := ((g.value? .chunkSize).bind size?).getD defaultChunkSize
        flags := g.flags
        logLevel := (g.value? .logLevel).getD defaultLogLevel }
  | places => .error (.misuse (.missing ((placeNames.drop places.length).headD "")))

/-- The arguments of a run, from its words and its environment. -/
def read (words : List String) (env : Environment) : Except Halt Arguments := do
  let g ← readWords {} words (words.length + 1)
  let g ← Key.all.foldlM (fillKey env) g
  let g ← Flag.all.foldlM (fillFlag env) g
  g.arguments

/-! ## Help -/

/-- The name of the program and its version. -/
def versionText : String := "objbuf 0.1.0\n"

/-- A line of help: what is written, and what it means. -/
structure HelpLine where
  form : String
  meaning : String

/-- A value as it stands behind an option. -/
def valueName (word : String) : String :=
  "<" ++ String.ofList (word.toList.map fun c => if c = '-' then '_' else c.toUpper) ++ ">"

def Key.meaning : Key → String
  | .root => "Directory the object store lives in"
  | .config => "YAML buffering configuration; flags below override it"
  | .bufferSize => "Staging buffer size in bytes"
  | .adapter => "I/O adapter (sync, async)"
  | .chunkSize => "Size of each application read/write in bytes"
  | .logLevel => "Log level (trace, debug, info, warn, error)"

def Flag.meaning : Flag → String
  | .noBuffer => "Bypass the buffering layer"
  | .aio => "Issue asynchronous reads and writes instead of blocking ones"
  | .verify => "Read the object back and compare it with the source"
  | .summaryJson => "Print file summaries as JSON"
  | .logJson => "Output logs as JSON"

def Key.default? : Key → Option String
  | .root => some defaultRoot
  | .chunkSize => some (toString defaultChunkSize)
  | .logLevel => some defaultLogLevel
  | _ => none

/-- The variable behind a meaning, with the value it has now. -/
def variableNote (env : Environment) (name : Option String) : String :=
  match name with
  | none => ""
  | some n => " [env: " ++ n ++ "=" ++ (lookup env name).getD "" ++ "]"

def Key.help (env : Environment) (key : Key) : HelpLine :=
  let note := match key.default? with
    | none => ""
    | some d => " [default: " ++ d ++ "]"
  { form := "      --" ++ key.word ++ " " ++ valueName key.word
    meaning := key.meaning ++ variableNote env key.variable? ++ note }

def Flag.help (env : Environment) (flag : Flag) : HelpLine :=
  { form := "      --" ++ flag.word
    meaning := flag.meaning ++ variableNote env flag.variable? }

/-- Lines whose meanings stand in one column, two blanks behind the longest form. -/
def aligned (lines : List HelpLine) : String :=
  let width := (lines.map (·.form.length)).foldl max 0 + 2
  String.join (lines.map fun l =>
    l.form ++ String.ofList (List.replicate (width - l.form.length) ' ') ++ l.meaning ++ "\n")

def helpText (env : Environment) : String :=
  let key (k : Key) : HelpLine := k.help env
  let flag (f : Flag) : HelpLine := f.help env
  "Buffered I/O layer for storage-object files: staging buffers, sync/async I/O adapters " ++
    "and readv coalescing\n\n" ++
    "Usage: objbuf [OPTIONS] <SOURCE> <DEST>\n\nArguments:\n" ++
    aligned
      [ ⟨"  <SOURCE>", "Local file to copy"⟩,
        ⟨"  <DEST>", "Destination object path, relative to the store root"⟩ ] ++
    "\nOptions:\n" ++
    aligned
      [ key .root, key .config, key .bufferSize, key .adapter, flag .noBuffer, key .chunkSize,
        flag .aio, flag .verify, flag .summaryJson, key .logLevel, flag .logJson,
        ⟨"  -h, --help", "Print help"⟩, ⟨"  -V, --version", "Print version"⟩ ]

end StagedFiles.CommandLine
