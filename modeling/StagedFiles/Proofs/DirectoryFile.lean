-- A file of a directory store while its workers run. As far as a file may
-- reach, a write goes in full with one call of the system, now or when it is
-- waited for, and the path it was opened under leads to it all the time.
import StagedFiles.Proofs.FlatFile
import StagedFiles.Proofs.TreeWalk
import StagedFiles.Store.Directory

namespace StagedFiles

/-! ## One call for all of the data -/

/-- Data that go with one call go. -/
theorem FullTransfer.write_once {τ : Type} {call : Nat → Bytes → τ → Attempt Nat × τ} {t t' : τ}
    {offset : Nat} {data : Bytes} (calls : Nat) (hdata : data ≠ [])
    (hcall : call offset data t = (.moved data.length, t')) :
    FullTransfer.write call (calls + 1) offset data t = (some (.ok data.length), t') := by
  obtain ⟨n, hn⟩ : ∃ n, data.length = n + 1 :=
    Nat.exists_eq_succ_of_ne_zero (List.length_pos_iff.mpr hdata).ne'
  unfold FullTransfer.write FullTransfer.writeFrom
  rw [if_neg hdata]
  dsimp only [Nat.add_zero]
  rw [hcall, hn]
  show writeFrom call calls offset (data.drop (n + 1)) (0 + (n + 1)) t' =
    (some (.ok (n + 1)), t')
  rw [← hn, List.drop_length, Nat.zero_add]
  unfold FullTransfer.writeFrom
  exact if_pos rfl

/-- A file takes all data that end below the greatest size. -/
theorem FileTree.writeAt_file {t : FileTree} {f : OpenNode} {offset : Nat} {data : Bytes}
    {old : SparseBytes} (hnode : t.node? f.node = some (.file old)) (hwrite : f.access.write = true)
    (hdata : data ≠ []) (hreach : offset + data.length ≤ FileTree.maxSize) :
    FileTree.writeAt f offset data t =
      (.moved data.length, t.setNode f.node (.file (old.overlay offset data))) := by
  have hpos : 0 < data.length := List.length_pos_iff.mpr hdata
  have hmax : FileTree.maxSize < FileTree.maxOffset := by decide
  have hall : data.take (FileTree.maxSize - offset) = data :=
    List.take_of_length_le (by omega)
  unfold FileTree.writeAt
  rw [if_neg (by omega), hwrite, if_neg (by simp), if_neg (by omega), hnode]
  dsimp only
  rw [if_neg (by omega), hall]

namespace DirectoryStore

variable {root place : String} {fd : Fd} {f : OpenNode} {st st' : DirectoryStore} {b data : Bytes}
  {offset : Nat}

/-- The descriptor is open for writing on a file with these bytes. The place
leads to that file, and what is handed in is run. -/
structure Filed (root place : String) (fd : Fd) (f : OpenNode) (st : DirectoryStore) (b : Bytes) :
    Prop where
  root_eq : st.root = root
  running : st.running = true
  /-- No ticket that is still to be given is parked. -/
  parked_older : ∀ e ∈ st.parked, e.1.serial < st.nextTicket.serial
  file : st.files.find? fd = some f
  writable : f.access.write = true
  found : st.tree.find place = .ok f.node
  node : ∃ old, st.tree.node? f.node = some (.file old) ∧ old.toBytes = b

/-! ## Writes -/

/-- The write of an open file lays all of the data over it. -/
theorem Filed.writeFile (h : Filed root place fd f st b) (hdata : data ≠ [])
    (hreach : offset + data.length ≤ FileTree.maxSize) :
    ∃ tree, DirectoryStore.writeFile f offset data st.tree = (.ok data.length, tree) ∧
      Filed root place fd f { st with tree } (Bytes.overlay b offset data) := by
  obtain ⟨old, hnode, rfl⟩ := h.node
  have hcall := FileTree.writeAt_file hnode h.writable hdata hreach
  refine ⟨st.tree.setNode f.node (.file (old.overlay offset data)), ?_, ?_⟩
  · unfold DirectoryStore.writeFile
    rw [FullTransfer.write_once _ hdata hcall]
  · refine ⟨h.root_eq, h.running, h.parked_older, h.file, h.writable, ?_, ?_⟩
    · exact (FileTree.preserves_setNode _ hnode).find h.found
    · exact ⟨_, FileTree.node?_setNode_self .., SparseBytes.toBytes_overlay ..⟩

theorem Filed.writeAt (h : Filed root place fd f st b) (hdata : data ≠ [])
    (hreach : offset + data.length ≤ FileTree.maxSize) :
    ∃ st', st.writeAt fd offset data = (.ok data.length, st') ∧
      Filed root place fd f st' (Bytes.overlay b offset data) := by
  obtain ⟨tree, hw, hfiled⟩ := h.writeFile hdata hreach
  refine ⟨{ st with tree }, ?_, hfiled⟩
  unfold DirectoryStore.writeAt DirectoryStore.file
  rw [h.file]
  dsimp only
  rw [hw]

/-! ## Writes that are handed in -/

/-- A job behind the older ones is found by its ticket. -/
theorem find?_parked {parked : List (Ticket × FileJob)} {ticket : Ticket}
    (holder : ∀ e ∈ parked, e.1.serial < ticket.serial) (job : FileJob) :
    (parked ++ [(ticket, job)]).find? (·.1 = ticket) = some (ticket, job) := by
  have hnone : parked.find? (·.1 = ticket) = none := by
    rw [List.find?_eq_none]
    intro e he
    have hne : e.1 ≠ ticket := by
      intro heq
      have := holder e he
      rw [heq] at this
      omega
    simpa using hne
  rw [List.find?_append, hnone]
  simp

/-- While the workers run, what is handed in is parked. -/
theorem park_running (h : st.running = true) (job : FileJob) :
    st.park job = (st.nextTicket,
      { st with
        parked := st.parked ++ [(st.nextTicket, job)]
        nextTicket := ⟨st.nextTicket.serial + 1⟩ }) := by
  simp [DirectoryStore.park, h]

/-- A write that is handed in is parked, and goes in full when it is waited for. -/
theorem Filed.submitWrite (h : Filed root place fd f st b) (hdata : data ≠ [])
    (hreach : offset + data.length ≤ FileTree.maxSize) :
    ∃ ticket st1 st2, st.submitWrite fd offset data = (.ok ticket, st1) ∧
      st1.await ticket = (some (.count (.ok data.length)), st2) ∧
      Filed root place fd f st2 (Bytes.overlay b offset data) := by
  let job : FileJob := .write f offset data
  let st1 : DirectoryStore :=
    { st with
      parked := st.parked ++ [(st.nextTicket, job)]
      nextTicket := ⟨st.nextTicket.serial + 1⟩ }
  let ready : DirectoryStore :=
    { st1 with parked := st1.parked.filter (·.1 ≠ st.nextTicket) }
  have hready : Filed root place fd f ready b := by
    refine ⟨h.root_eq, h.running, ?_, h.file, h.writable, h.found, h.node⟩
    intro e he
    obtain ⟨hmem, hne⟩ := List.mem_filter.mp he
    rcases List.mem_append.mp hmem with hold | hnew
    · exact Nat.lt_succ_of_lt (h.parked_older e hold)
    · rw [List.mem_singleton] at hnew
      simp [hnew] at hne
  obtain ⟨tree, hw, hfiled⟩ := hready.writeFile hdata hreach
  refine ⟨st.nextTicket, st1, { ready with tree }, ?_, ?_, hfiled⟩
  · unfold DirectoryStore.submitWrite DirectoryStore.file
    rw [h.file]
    dsimp only
    rw [park_running h.running]
  · unfold DirectoryStore.await
    rw [show st1.parked = st.parked ++ [(st.nextTicket, job)] from rfl,
      find?_parked h.parked_older]
    show (some (DirectoryStore.perform job ready).1, (DirectoryStore.perform job ready).2) = _
    unfold DirectoryStore.perform
    dsimp only [job]
    rw [hw]

/-- A file of a directory store takes all that is written to it below the greatest size. -/
def sink (root place : String) (fd : Fd) (f : OpenNode) : Sink DirectoryStore fd where
  Holds := Filed root place fd f
  Reaches n := n ≤ FileTree.maxSize
  reaches_of_le := Nat.le_trans
  write h hdata hreach := h.writeAt hdata hreach
  submitWrite h hdata hreach := h.submitWrite hdata hreach

/-! ## Open and close -/

/-- A store whose workers run, and which gives new numbers to new nodes and new transfers. -/
structure Ready (st : DirectoryStore) : Prop where
  running : st.running = true
  parked_older : ∀ e ∈ st.parked, e.1.serial < st.nextTicket.serial
  fresh : st.tree.Fresh

/-- The descriptor is open on a file, neither a directory nor a device. -/
def OnFile (st : DirectoryStore) (fd : Fd) : Prop :=
  ∃ f bytes, st.files.find? fd = some f ∧ st.tree.node? f.node = some (.file bytes)

/-- A file that was opened to be written from its start is empty under its path. -/
theorem filed_of_open {path : String} {a : Access} (hready : st.Ready) (hwrite : a.write = true)
    (hcreate : a.create = true) (hcut : a.truncate = true)
    (hopen : st.openPath path a = (.ok fd, st')) (hfile : st'.OnFile fd) :
    ∃ place f, ObjectPath.resolve st.root path = .ok place ∧ Filed st.root place fd f st' [] := by
  unfold DirectoryStore.openPath at hopen
  split at hopen
  · cases hopen
  · rename_i place hplace
    split at hopen
    · cases hopen
    · rename_i tree hprepare
      have hfresh : tree.Fresh := by
        unfold DirectoryStore.prepare at hprepare
        rw [if_pos hcreate] at hprepare
        exact hready.fresh.makeDirectories hprepare
      dsimp only at hopen
      split at hopen
      · cases hopen
      · rename_i f tree' htree
        cases hopen
        obtain ⟨f', bytes, hfound, hnode⟩ := hfile
        have hself : some f = some f' := (Table.find?_insert_self ..).symm.trans hfound
        cases hself
        obtain ⟨haccess, rfl, hleads⟩ := FileTree.openPath_leads hfresh hcreate hcut htree hnode
        refine ⟨place, f, hplace, rfl, hready.running, hready.parked_older, hfound, ?_, hleads,
          ⟨_, hnode, rfl⟩⟩
        rw [haccess]
        exact hwrite

/-- A close gives the descriptor up and leaves what the path leads to. -/
theorem Filed.close (h : Filed root place fd f st b) :
    ∃ st', st.close fd = (.ok (), st') ∧ st'.root = root ∧ st'.tree = st.tree := by
  refine ⟨{ st with files := st.files.erase fd }, ?_, h.root_eq, rfl⟩
  unfold DirectoryStore.close DirectoryStore.file
  rw [h.file]

/-- The bytes under the path, and their number. -/
theorem Filed.contents (h : Filed root place fd f st b) :
    st.tree.contents place = .ok b ∧ st.tree.find place = .ok f.node ∧
      st.tree.size f.node = b.length := by
  obtain ⟨old, hnode, rfl⟩ := h.node
  refine ⟨?_, h.found, ?_⟩
  · unfold FileTree.contents
    rw [h.found]
    dsimp only
    rw [hnode]
  · unfold FileTree.size
    rw [hnode]
    exact (SparseBytes.length_toBytes old).symm

end DirectoryStore

end StagedFiles
