-- Clients that come from a stage that was just built, by whatever was asked of
-- it since. Over a store that tells what it keeps, such a client sees one file:
-- the object, and over it the bytes that are staged.
import StagedFiles.Proofs.Coherence

namespace StagedFiles

variable {σ : Type} [ObjectStore σ] {fd : Fd} {K : Keeper σ fd} {content : σ → Bytes}

/-! ## Stores that tell what they keep -/

/-- What is kept in a store is what the store has as its content. -/
def Keeper.Tells (K : Keeper σ fd) (content : σ → Bytes) : Prop :=
  ∀ st b out, K.Keeps st b out → content st = b

/-- The store in memory tells what it keeps, behind limits and others that use it. -/
theorem Shared.keeper_tells (fd : Fd) (o : ObjectId) (access : Access) :
    (MemoryStore.keeper fd o access).shared.Tells (Shared.object o) :=
  fun _ _ _ hk => Shared.object_eq hk

namespace Client

/-! ## The file that is seen -/

/-- The content of the store, and over it the bytes that are staged. -/
def seen (content : σ → Bytes) (c : Client σ) : Bytes := c.stage.view (content c.store)

variable {c : Client σ} {object : Bytes}

theorem Held.content_eq (h : Held K c object) (hK : K.Tells content) :
    content c.store = object := by
  obtain ⟨out, hk⟩ := h.agree.keeps
  exact hK _ _ _ hk

/-- With no request out nothing is due, and nothing is out at the store. -/
theorem Held.idle (h : Held K c object) (hidle : c.stage.outstanding = 0) :
    c.due = none ∧ K.Keeps c.store object none := by
  rcases h.agree.idle_or_busy with ⟨hdue, _, hk⟩ | hbusy
  · exact ⟨hdue, hk⟩
  · exact absurd hidle hbusy

/-! ## Reached clients -/

/-- A client that callers came to, from a stage with a buffer of this capacity that was
just built over a store that kept its object. -/
inductive Reached (K : Keeper σ fd) (capacity : Nat) : Client σ → Prop where
  | built {settings : Settings} {stage : Stage} {store : σ} {object : Bytes} :
      Stage.build settings fd = .ok stage → settings.bufferSize = capacity →
      K.Keeps store object none → Reached K capacity { stage, store }
  | after {c : Client σ} (act : Act) : Reached K capacity c → Reached K capacity (c.step act).2

variable {capacity : Nat}

theorem Reached.held (h : Reached K capacity c) :
    ∃ object, Held K c object ∧ c.stage.capacity = capacity := by
  induction h with
  | built hbuild hsize hk =>
    obtain ⟨hheld, -, hcap⟩ := held_of_build hbuild hk
    exact ⟨_, hheld, hcap.trans hsize⟩
  | @after c act _ ih =>
    obtain ⟨object, hheld, hcap⟩ := ih
    rcases hstep : c.step act with ⟨reply, c'⟩
    obtain ⟨object', hheld', -⟩ := hheld.step hstep
    exact ⟨object', hheld', (step_adapter hheld.agree hstep).capacity.trans hcap⟩

/-! ## Clients with no request out -/

/-- A client with no request out, of a store that tells what it keeps. -/
structure Rests (K : Keeper σ fd) (content : σ → Bytes) (capacity : Nat) (c : Client σ) :
    Prop where
  tells : K.Tells content
  held : Held K c (content c.store)
  capacity_eq : c.stage.capacity = capacity
  idle : c.stage.outstanding = 0

theorem Reached.rests (h : Reached K capacity c) (hK : K.Tells content)
    (hidle : c.stage.outstanding = 0) : Rests K content capacity c := by
  obtain ⟨object, hheld, hcap⟩ := h.held
  rw [← hheld.content_eq hK] at hheld
  exact ⟨hK, hheld, hcap, hidle⟩

variable {c' : Client σ}

theorem Rests.keeps (h : Rests K content capacity c) : K.Keeps c.store (content c.store) none :=
  (h.held.idle h.idle).2

/-- What is seen when the store is known to keep an object. -/
theorem Rests.seen_of_keeps {out : Option (Ticket × Errand)} (h : Rests K content capacity c)
    (hk : K.Keeps c'.store object out) : c'.seen content = c'.stage.view object := by
  unfold seen
  rw [h.tells _ _ _ hk]

/-- A step that leaves no request out does to the file that is seen what it says. -/
theorem Rests.step {act : Act} {reply : Reply} (h : Rests K content capacity c)
    (hstep : c.step act = (reply, c')) (hidle : c'.stage.outstanding = 0) :
    Rests K content capacity c' ∧
      SeenIf (c.stage.Sound (content c.store)) (c.seen content) c.due act reply
        (c'.seen content) := by
  obtain ⟨object, hheld, hkeeping⟩ := h.held.step hstep
  have hcap := (step_adapter h.held.agree hstep).capacity.trans h.capacity_eq
  obtain rfl := hheld.content_eq h.tells
  exact ⟨⟨h.tells, hheld, hcap, hidle⟩, hkeeping.seen⟩

/-- Reads leave the file as it is seen. -/
theorem Rests.read (h : Rests K content capacity c) (offset len : Nat) :
    Rests K content capacity (c.step (.read offset len)).2 ∧
      (c.step (.read offset len)).2.seen content = c.seen content := by
  rcases hr : c.stage.read offset len c.store with ⟨r, stage, store⟩
  have hstep : c.step (.read offset len) = (.bytes r, { c with stage, store }) := by
    simp only [Client.step, hr]
  rw [hstep]
  obtain ⟨hrests, hseen⟩ := h.step hstep ((Stage.read_same hr).outstanding.trans h.idle)
  generalize seen content { c with stage, store } = file at hseen
  cases hseen with
  | read _ => exact ⟨hrests, rfl⟩

/-- So do flushes. -/
theorem Rests.flush (h : Rests K content capacity c) :
    Rests K content capacity (c.step .flush).2 ∧
      (c.step .flush).2.seen content = c.seen content := by
  rcases hf : c.stage.flush c.store with ⟨r, stage, store⟩
  have hstep : c.step .flush = (.count r, { c with stage, store }) := by
    simp only [Client.step, hf]
  rw [hstep]
  obtain ⟨hrests, hseen⟩ := h.step hstep ((Stage.flush_same hf).outstanding.trans h.idle)
  generalize seen content { c with stage, store } = file at hseen
  cases hseen with
  | flush => exact ⟨hrests, rfl⟩

end Client

end StagedFiles
