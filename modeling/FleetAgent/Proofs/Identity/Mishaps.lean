import FleetAgent.Identity.Store
/-!
# Loads and saves that go wrong

A save takes several steps, and any of them may fail or be the last before the agent crashes: a
`Mishap`. Of a write that is cut short some bytes are kept, and a step that creates something may
have done so (`SaveStep.cutShort`). A crash leaves the directory as it is, and the next call finds
it like this.

`IdentityStore.attempt` is a save under a mishap, with every directory on the way
(`Attempt.moments`); without a mishap it is `IdentityStore.save` (`attempt_none`).
`IdentityStore.history` are calls one after the other, each of which finds the directory that the
one before has left.
-/

namespace FleetAgent.IdentityStore

/-! ### Steps that are cut short -/

/-- What goes wrong in a save. -/
structure Mishap where
  /-- The number of steps that are taken before. -/
  after : Nat
  /-- How far the step gets: for a write, the number of bytes that are written. -/
  kept : Nat
  /-- The fault that the step fails with. Without one the agent crashes. -/
  fault? : Option IoFault

/-- The mishap as it is seen after a step: one step less is taken before. -/
def Mishap.later (m : Mishap) : Mishap :=
  { m with after := m.after - 1 }

/-- What the step leaves of `d` if it gets as far as `kept` says. To sync leaves nothing behind, and
to rename is all or nothing. -/
def SaveStep.cutShort (umask : Mode) (d : Directory) (kept : Nat) : SaveStep → Directory
  | .write bytes => d.append temporaryName (bytes.take kept)
  | .sync | .rename => d
  | step =>
    match kept, step.apply umask d with
    | _ + 1, .ok made => made
    | _, _ => d

/-- How a save goes. -/
structure Attempt (ε : Type) where
  /-- The directories on the way, the one at the start and the one at the end among them. -/
  moments : List Directory
  /-- The directory at the end. -/
  directory : Directory
  /-- What is returned, unless the agent crashes. -/
  result? : Option (Except ε Unit)

/-- Takes steps one after the other under the mishap `m?`, if there is one. A step that fails by
itself ends the attempt before the mishap comes. -/
def attemptSteps (umask : Mode) (m? : Option Mishap) (d : Directory) :
    List SaveStep → Attempt IoFault
  | [] =>
    -- Behind the last step there is only a crash to come.
    match m? with
    | some ⟨0, _, none⟩ => ⟨[d], d, none⟩
    | _ => ⟨[d], d, some (.ok ())⟩
  | step :: rest =>
    match m? with
    | some ⟨0, kept, fault?⟩ =>
      let left := step.cutShort umask d kept
      ⟨[d, left], left, fault?.map .error⟩
    | _ =>
      match step.apply umask d with
      | .error fault => ⟨[d], d, some (.error fault)⟩
      | .ok next =>
        let a := attemptSteps umask (m?.map Mishap.later) next rest
        { a with moments := d :: a.moments }

/-- Saves the identity `i` under the mishap `m?`, if there is one. It hits none but the steps of the
save: the load in front of them is not cut short. -/
def attempt (s : IdentityStore) (umask : Mode) (m? : Option Mishap) (d : Directory)
    (i : Identity) : Attempt IdentityError :=
  match s.load d with
  | .error e => ⟨[d], d, some (.error e)⟩
  | .ok (some j) => ⟨[d], d, some (if j = i then .ok () else .error (.alreadyExists s.path))⟩
  | .ok none =>
    let a := attemptSteps umask m? d (saveSteps i)
    ⟨a.moments, a.directory, a.result?.map (·.mapError (.io s.path))⟩

/-- Without a mishap the `steps` are those of a save, by induction on them. -/
theorem attemptSteps_none (umask : Mode) (d : Directory) (steps : List SaveStep) :
    ((attemptSteps umask none d steps).directory,
      (attemptSteps umask none d steps).result?) =
      ((takeSteps umask d steps).1, some (takeSteps umask d steps).2) := by
  induction steps generalizing d with
  | nil => rfl
  | cons step rest ih =>
    rw [takeSteps, attemptSteps.eq_def]
    dsimp only
    cases step.apply umask d with
    | error fault => rfl
    | ok next => exact ih next

/-- **Without a mishap an attempt is a save**: it comes to the same directory and the same
result. -/
theorem attempt_none (s : IdentityStore) (umask : Mode) (d : Directory) (i : Identity) :
    ((s.attempt umask none d i).directory, (s.attempt umask none d i).result?) =
      ((s.save umask d i).1, some (s.save umask d i).2) := by
  rw [attempt, save]
  cases s.load d with
  | error e => rfl
  | ok found =>
    cases found with
    | some j => rfl
    | none =>
      obtain ⟨hdirectory, hresult⟩ := Prod.mk.inj (attemptSteps_none umask d (saveSteps i))
      dsimp only
      rw [hdirectory, hresult]
      rfl

/-! ### Calls -/

/-- A call of the store. -/
inductive Call where
  /-- Loads the identity. -/
  | load
  /-- Saves an identity, with what goes wrong. -/
  | save (i : Identity) (mishap? : Option Mishap)

/-- What a call comes to. -/
inductive Answer where
  /-- What a load has found. -/
  | loaded (result : Except IdentityError (Option Identity))
  /-- What a save has returned. -/
  | saved (result : Except IdentityError Unit)
  /-- Nothing is returned: the agent has crashed. -/
  | crashed

/-- A call that was made. -/
structure Entry where
  /-- The call. -/
  call : Call
  /-- The directory that it found. -/
  before : Directory
  /-- The directories on the way. -/
  moments : List Directory
  /-- The directory that it left. -/
  after : Directory
  /-- What it came to. -/
  answer : Answer

/-- Makes a call. -/
def perform (s : IdentityStore) (umask : Mode) (d : Directory) : Call → Entry
  | .load => ⟨.load, d, [d], d, .loaded (s.load d)⟩
  | .save i m? =>
    let a := s.attempt umask m? d i
    ⟨.save i m?, d, a.moments, a.directory, a.result?.elim .crashed .saved⟩

/-- Makes calls one after the other. -/
def history (s : IdentityStore) (umask : Mode) (d : Directory) : List Call → List Entry
  | [] => []
  | c :: calls =>
    let e := s.perform umask d c
    e :: s.history umask e.after calls

/-- All directories of a history, in order, that at the start among them. -/
def allMoments (d : Directory) (h : List Entry) : List Directory :=
  d :: h.flatMap Entry.moments

end FleetAgent.IdentityStore
