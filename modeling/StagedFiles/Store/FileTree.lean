-- Files, directories and devices below one root directory, and the calls an
-- operating system answers on them. A path is walked part by part from the
-- root, or from the working directory when no slash stands in front. What is
-- opened is a node and not a path, so a file lives on while it is open.
import StagedFiles.SparseBytes
import StagedFiles.Store.FullTransfer
import StagedFiles.Table

namespace StagedFiles

/-- The identity of a file, directory or device. -/
abbrev NodeId := Nat

inductive Device where
  /-- Swallows what is written and has nothing to read. -/
  | null
  /-- Has no room for any write; reads as zeros. -/
  | full
  /-- Swallows what is written and reads as zeros. -/
  | zero
  deriving DecidableEq, Repr

inductive TreeNode where
  | file (bytes : SparseBytes)
  | directory (parent : NodeId) (entries : Table String NodeId)
  | device (device : Device)

/-- A node that is open, and how. -/
structure OpenNode where
  node : NodeId
  access : Access
  deriving DecidableEq, Repr

/-- The parts of a path. -/
structure Route where
  /-- It starts at the root. -/
  absolute : Bool
  /-- The parts between slashes that are not empty. -/
  names : List String
  /-- It ends in a slash, which asks for a directory. -/
  slashed : Bool

structure FileTree where
  nodes : Table NodeId TreeNode := ⟨[(0, .directory 0 {})]⟩
  nextNode : NodeId := 1
  /-- The directory where relative paths start. -/
  working : NodeId := 0

namespace FileTree

/-! ## Limits -/

/-- The longest name, in bytes. -/
def maxName : Nat := 255

/-- Every path is shorter than this, in bytes. -/
def maxPath : Nat := 4096

/-- The greatest size of a file, a page less than 44 bits count. -/
def maxSize : Nat := 0xFFFFFFFF000

/-- The greatest offset the calls take. -/
def maxOffset : Nat := 0x7FFFFFFFFFFFFFFF

/-- The size a directory reports. -/
def directorySize : Nat := 4096

/-! ## Nodes -/

def node? (t : FileTree) (id : NodeId) : Option TreeNode := t.nodes.find? id

def setNode (t : FileTree) (id : NodeId) (n : TreeNode) : FileTree :=
  { t with nodes := t.nodes.insert id n }

def isDirectory (t : FileTree) (id : NodeId) : Bool :=
  match t.node? id with
  | some (.directory _ _) => true
  | _ => false

/-- A new node under a name in a directory. -/
def addNode (t : FileTree) (dir : NodeId) (name : String) (n : TreeNode) : NodeId × FileTree :=
  match t.node? dir with
  | some (.directory parent entries) =>
    let t := t.setNode dir (.directory parent (entries.insert name t.nextNode))
    (t.nextNode, { t.setNode t.nextNode n with nextNode := t.nextNode + 1 })
  | _ => (t.nextNode, t)

/-! ## Walking -/

def Route.ofText (path : String) : Route :=
  { absolute := path.toList.head? = some '/'
    names := (path.splitOn "/").filter (· ≠ "")
    slashed := path.toList.getLast? = some '/' }

/-- The node under a name, which has to be in a directory. -/
def enter (t : FileTree) (dir : NodeId) (name : String) : Except SystemFault NodeId :=
  match t.node? dir with
  | some (.directory parent entries) =>
    if name = "." then .ok dir
    else if name = ".." then .ok parent
    else if maxName < name.utf8ByteSize then .error (.errno Errno.nameTooLong)
    else
      match entries.find? name with
      | some id => .ok id
      | none => .error (.errno Errno.noEntry)
  | _ => .error (.errno Errno.notDirectory)

def walk (t : FileTree) (here : NodeId) : List String → Except SystemFault NodeId
  | [] => .ok here
  | name :: names =>
    match t.enter here name with
    | .ok id => t.walk id names
    | .error e => .error e

def origin (t : FileTree) (r : Route) : NodeId := if r.absolute then 0 else t.working

/-- A path that the calls take at all. -/
def route (path : String) : Except SystemFault Route :=
  if path.toList.contains '\x00' then .error .nulInName
  else if path = "" then .error (.errno Errno.noEntry)
  else if maxPath ≤ path.utf8ByteSize then .error (.errno Errno.nameTooLong)
  else .ok (Route.ofText path)

/-- The node that a path leads to. -/
def find (t : FileTree) (path : String) : Except SystemFault NodeId :=
  match route path with
  | .error e => .error e
  | .ok r =>
    match t.walk (t.origin r) r.names with
    | .error e => .error e
    | .ok id =>
      if r.slashed ∧ !t.isDirectory id then .error (.errno Errno.notDirectory) else .ok id

/-- A path leads to a directory. -/
def hasDirectory (t : FileTree) (path : String) : Bool :=
  match t.find path with
  | .ok id => t.isDirectory id
  | .error _ => false

/-- Where a path's last name stands. -/
inductive Place where
  /-- The path ends in a dot, two dots or the root itself. -/
  | unnamed
  | named (dir : NodeId) (name : String)

/-- The directory of a path's last name, walked to; the name itself need not be there. -/
def place (t : FileTree) (r : Route) : Except SystemFault Place :=
  match r.names.getLast? with
  | none => .ok .unnamed
  | some last =>
    match t.walk (t.origin r) r.names.dropLast with
    | .error e => .error e
    | .ok dir =>
      if !t.isDirectory dir then .error (.errno Errno.notDirectory)
      else if last = "." ∨ last = ".." then .ok .unnamed
      else .ok (.named dir last)

/-! ## Directories -/

/-- Makes one directory. -/
def makeDirectory (t : FileTree) (path : String) : Except SystemFault FileTree :=
  match route path with
  | .error e => .error e
  | .ok r =>
    match t.place r with
    | .error e => .error e
    | .ok .unnamed => .error (.errno Errno.alreadyExists)
    | .ok (.named dir name) =>
      match t.enter dir name with
      | .ok _ => .error (.errno Errno.alreadyExists)
      | .error e =>
        if e = .errno Errno.noEntry then .ok (t.addNode dir name (.directory dir {})).2
        else .error e

/-- Makes one directory, or finds it there. -/
def ensureDirectory (t : FileTree) (path : String) : Except SystemFault Unit × FileTree :=
  match t.makeDirectory path with
  | .ok t => (.ok (), t)
  | .error e => (if t.hasDirectory path then .ok () else .error e, t)

/-- A part of a path that leads nowhere: an empty one, or a dot. -/
def isIdle (part : String) : Bool := part == "" || part == "."

/-- The paths of the directories above a path, the nearest first, as they are
written there. The parts run from the last one up. The root and the working
directory are left out. -/
def pathsAbove : List String → List String
  | [] => []
  | part :: above =>
    if isIdle part then pathsAbove above
    else
      let named := above.dropWhile isIdle
      if named.isEmpty then []
      else String.intercalate "/" named.reverse :: pathsAbove above

/-- Makes a directory and those above it that are missing; the paths run from
the last one up. What was made stays when a later one fails. -/
def makeDirectories (t : FileTree) : List String → Except SystemFault Unit × FileTree
  | [] => (.ok (), t)
  | path :: above =>
    match t.makeDirectory path with
    | .ok t => (.ok (), t)
    | .error e =>
      if e = .errno Errno.noEntry then
        match t.makeDirectories above with
        | (.ok (), t) => t.ensureDirectory path
        | (.error e, t) => (.error e, t)
      else t.ensureDirectory path

/-- Makes the directories that a path stands in. -/
def makeParents (t : FileTree) (path : String) : Except SystemFault Unit × FileTree :=
  t.makeDirectories (pathsAbove (path.splitOn "/").reverse)

/-! ## Open and unlink -/

/-- The access is one that the system knows. -/
def checkAccess (a : Access) : Except SystemFault Unit :=
  if a.write then .ok ()
  else if a.create ∨ a.truncate then .error .createNeedsWrite
  else if a.read then .ok ()
  else .error .noAccessAsked

/-- Opens a node that is there. -/
def openNode (t : FileTree) (id : NodeId) (a : Access) : Except SystemFault (OpenNode × FileTree) :=
  match t.node? id with
  | some (.directory _ _) =>
    if a.write then .error (.errno Errno.isDirectory) else .ok (⟨id, a⟩, t)
  | some (.file _) => .ok (⟨id, a⟩, if a.truncate then t.setNode id (.file {}) else t)
  | _ => .ok (⟨id, a⟩, t)

def openPath (t : FileTree) (path : String) (a : Access) :
    Except SystemFault (OpenNode × FileTree) :=
  match route path, checkAccess a with
  | .error .nulInName, _ => .error .nulInName
  | _, .error e => .error e
  | .error e, _ => .error e
  | .ok r, .ok () =>
    if a.create then
      match t.place r with
      | .error e => .error e
      | .ok .unnamed => .error (.errno Errno.isDirectory)
      | .ok (.named dir name) =>
        if r.slashed then .error (.errno Errno.isDirectory)
        else
          match t.enter dir name with
          | .ok id => t.openNode id a
          | .error e =>
            if e = .errno Errno.noEntry then
              let (id, t) := t.addNode dir name (.file {})
              .ok (⟨id, a⟩, t)
            else .error e
    else
      match t.find path with
      | .error e => .error e
      | .ok id => t.openNode id a

/-- Takes a file's name away. -/
def unlink (t : FileTree) (path : String) : Except SystemFault FileTree :=
  match route path with
  | .error e => .error e
  | .ok r =>
    match t.place r with
    | .error e => .error e
    | .ok .unnamed => .error (.errno Errno.isDirectory)
    | .ok (.named dir name) =>
      match t.enter dir name, t.node? dir with
      | .error e, _ => .error e
      | .ok id, some (.directory parent entries) =>
        if t.isDirectory id then .error (.errno Errno.isDirectory)
        else if r.slashed then .error (.errno Errno.notDirectory)
        else .ok (t.setNode dir (.directory parent (entries.erase name)))
      | .ok _, _ => .error (.errno Errno.notDirectory)

/-! ## Transfers -/

/-- One read of an open node. -/
def readAt (f : OpenNode) (offset len : Nat) (t : FileTree) : Attempt Bytes × FileTree :=
  if maxOffset < offset then (.failed (.errno Errno.invalid), t)
  else if !f.access.read then (.failed (.errno Errno.badDescriptor), t)
  else if maxOffset < offset + len then (.failed (.errno Errno.invalid), t)
  else
    match t.node? f.node with
    | some (.file bytes) => (.moved (bytes.slice offset len), t)
    | some (.device .null) => (.moved [], t)
    | some (.device _) => (.moved (List.replicate len 0), t)
    | some (.directory _ _) => (.failed (.errno Errno.isDirectory), t)
    | none => (.failed (.errno Errno.badDescriptor), t)

/-- One write to an open node. A file takes what fits below the greatest size. -/
def writeAt (f : OpenNode) (offset : Nat) (data : Bytes) (t : FileTree) : Attempt Nat × FileTree :=
  if maxOffset < offset then (.failed (.errno Errno.invalid), t)
  else if !f.access.write then (.failed (.errno Errno.badDescriptor), t)
  else if maxOffset < offset + data.length then (.failed (.errno Errno.invalid), t)
  else
    match t.node? f.node with
    | some (.file bytes) =>
      if maxSize ≤ offset then (.failed (.errno Errno.fileTooLarge), t)
      else
        let piece := data.take (maxSize - offset)
        (.moved piece.length, t.setNode f.node (.file (bytes.overlay offset piece)))
    | some (.device .full) => (.failed (.errno Errno.noSpace), t)
    | some (.device _) => (.moved data.length, t)
    | some (.directory _ _) | none => (.failed (.errno Errno.badDescriptor), t)

/-- All bytes that a path leads to. Of the devices only the empty one has an end. -/
def contents (t : FileTree) (path : String) : Except SystemFault Bytes :=
  match t.find path with
  | .error e => .error e
  | .ok id =>
    match t.node? id with
    | some (.file bytes) => .ok bytes.toBytes
    | some (.directory _ _) => .error (.errno Errno.isDirectory)
    | some (.device .null) => .ok []
    | _ => .error (.stated "out of memory")

/-! ## Sizes -/

def size (t : FileTree) (id : NodeId) : Nat :=
  match t.node? id with
  | some (.file bytes) => bytes.size
  | some (.directory _ _) => directorySize
  | _ => 0

/-- Cuts or extends an open file. -/
def setSize (f : OpenNode) (len : Nat) (t : FileTree) : Except SystemFault FileTree :=
  if maxOffset < len then .error .lengthTooLarge
  else
    match t.node? f.node with
    | some (.file bytes) =>
      if !f.access.write then .error (.errno Errno.invalid)
      else if maxSize < len then .error (.errno Errno.fileTooLarge)
      else .ok (t.setNode f.node (.file (bytes.resize len)))
    | _ => .error (.errno Errno.invalid)

/-! ## Loading and listing -/

/-- Puts a node at a path, with the directories above it. -/
def plant (t : FileTree) (path : String) (n : NodeId → TreeNode) : FileTree :=
  match t.makeParents path with
  | (.error _, t) => t
  | (.ok (), t) =>
    match t.place (Route.ofText path) with
    | .ok (.named dir name) =>
      match t.enter dir name with
      | .ok _ => t
      | .error _ => (t.addNode dir name (n dir)).2
    | _ => t

/-- A tree with a file at a path. -/
def withFile (t : FileTree) (path : String) (bytes : Bytes) : FileTree :=
  t.plant path fun _ => .file (.ofBytes bytes)

/-- A tree with a directory at a path. -/
def withDirectory (t : FileTree) (path : String) : FileTree :=
  t.plant path fun dir => .directory dir {}

/-- A tree with a device at a path. -/
def withDevice (t : FileTree) (path : String) (d : Device) : FileTree :=
  t.plant path fun _ => .device d

/-- A tree with the devices at their places. -/
def withDevices (t : FileTree) : FileTree :=
  ((t.withDevice "/dev/null" .null).withDevice "/dev/full" .full).withDevice "/dev/zero" .zero

/-- The tree with relative paths starting in this directory. -/
def startingIn (t : FileTree) (path : String) : FileTree :=
  let t := t.withDirectory path
  match t.find path with
  | .ok id => { t with working := id }
  | .error _ => t

/-- What is below a directory, by path from there on: a file with its bytes,
a directory with none. `depth` bounds how far down the list goes. -/
def below (t : FileTree) (depth : Nat) (id : NodeId) (above : String) :
    List (String × Option Bytes) :=
  match depth, t.node? id with
  | depth + 1, some (.directory _ entries) =>
    entries.entries.flatMap fun e =>
      let path := above ++ e.1
      match t.node? e.2 with
      | some (.file bytes) => [(path, some bytes.toBytes)]
      | some (.directory _ _) => (path, none) :: t.below depth e.2 (path ++ "/")
      | _ => []
  | _, _ => []

/-- What is below a directory. No path is deeper than there are nodes. -/
def list (t : FileTree) (id : NodeId) : List (String × Option Bytes) :=
  t.below (t.nodes.size + 1) id ""

/-- The text of a path with these names. -/
def pathText (absolute : Bool) (names : List String) : String :=
  (if absolute then "/" else "") ++ String.intercalate "/" names

/-- The paths on the way to a path, the path itself last. -/
def stations (path : String) : List String :=
  let r := Route.ofText path
  (List.range r.names.length).map fun n => pathText r.absolute (r.names.take (n + 1))

/-- What the tree holds that the tree before did not, by path. -/
def changes (before after : FileTree) : List (String × Option Bytes) :=
  let known := before.list 0
  (after.list 0).filter fun e => !known.contains e

end FileTree

end StagedFiles
