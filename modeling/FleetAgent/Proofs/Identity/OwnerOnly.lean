import FleetAgent.Proofs.Identity.WrittenOnce
/-!
# Who may read the identity

A save writes the identity to the temporary file and gives that its name. If no such file was left
over it is created for the owner alone; one that was left over is emptied, but keeps its mode. So
the file of a saved identity holds nothing else, and it is for the owner alone exactly if what was
left over was: `ownerOnly_iff`.

`Writing umask left? i d steps` says what the directory `d` holds in front of the `steps` still to
be taken, with the mode, and is what they preserve (`Writing.step`); `left?` is the mode of the
temporary file at the start. A save that succeeds takes all its steps, whatever mishap was to come
(`Writing.run`), and ends in `Writing.done`.
-/

namespace FleetAgent

namespace Directory

variable {d d' : Directory} {name : String} {mode : Mode}

/-- The mode of the file `name`, if it is one. -/
def mode? (d : Directory) (name : String) : Option Mode :=
  match d.get? name with
  | some (.file _ mode) => some mode
  | _ => none

theorem get?_create (h : d.create = .ok d') : d'.get? name = d.get? name := by
  cases d with
  | absent =>
    cases h
    exact get?_empty name
  | present entries =>
    cases h
    rfl
  | blocked | unnamed _ => cases h

/-- A file that is opened for writing is empty, and has its old mode if it had one; `mode` is for a
new file only. -/
theorem get?_openEmpty (h : d.openEmpty name mode = .ok d') :
    d'.get? name = some (.file [] ((d.mode? name).getD mode)) := by
  cases d with
  | present entries =>
    rw [openEmpty] at h
    rw [mode?]
    -- Only where nothing was is the mode the one that was asked for.
    split at h
    next => cases h
    next hget =>
      obtain rfl := Except.ok.inj h
      rw [get?_put rfl, if_pos rfl, hget]
      rfl
    next hget =>
      obtain rfl := Except.ok.inj h
      rw [get?_put rfl, if_pos rfl, hget]
      rfl
  | absent | blocked | unnamed _ => cases h

end Directory

namespace IdentityStore

variable {s : IdentityStore} {umask : Mode} {d d' : Directory} {i : Identity} {head : SaveStep}
  {rest : List SaveStep} {m? : Option Mishap} {left? : Option Mode}

/-- The mode of the file that is written: `left?`, that of the one that is left over, if there is
one. -/
def writtenMode (umask : Mode) (left? : Option Mode) : Mode :=
  left?.getD (ownerMode umask)

/-- What the directory `d` holds in front of the steps of a save of `i` that are still to be taken,
after a start with a temporary file of the mode `left?`. -/
inductive Writing (umask : Mode) (left? : Option Mode) (i : Identity) (d : Directory) :
    List SaveStep → Prop
  /-- All steps: the temporary file is as it was left over. -/
  | create : d.mode? temporaryName = left? → Writing umask left? i d (saveSteps i)
  /-- The directory is there, and the temporary file as it was. -/
  | openTemporary : d.mode? temporaryName = left? →
      Writing umask left? i d [.openTemporary, .write (contents i), .sync, .rename]
  /-- The temporary file is open and empty. -/
  | write : d.get? temporaryName = some (.file [] (writtenMode umask left?)) →
      Writing umask left? i d [.write (contents i), .sync, .rename]
  /-- It holds the identity. -/
  | sync : d.get? temporaryName = some (.file (contents i) (writtenMode umask left?)) →
      Writing umask left? i d [.sync, .rename]
  /-- So it does on the disk. -/
  | rename : d.get? temporaryName = some (.file (contents i) (writtenMode umask left?)) →
      Writing umask left? i d [.rename]
  /-- The file is there, and the temporary one is not. -/
  | done : d.get? fileName = some (.file (contents i) (writtenMode umask left?)) →
      d.get? temporaryName = none → Writing umask left? i d []

/-- Every step `head` leads to what is to be there in front of the next one; there is one case for
each step of a save. -/
theorem Writing.step (h : Writing umask left? i d (head :: rest))
    (happly : head.apply umask d = .ok d') : Writing umask left? i d' rest := by
  cases h with
  | create hleft =>
    refine .openTemporary ?_
    rwa [Directory.mode?, Directory.get?_create happly]
  -- A file that was left over keeps its mode here; from now on the mode is `writtenMode`.
  | openTemporary hleft =>
    have hopened := Directory.get?_openEmpty happly
    rw [hleft] at hopened
    exact .write hopened
  | write hempty =>
    obtain rfl := Except.ok.inj happly
    have hwritten := Directory.get?_append (contents i) hempty
    rw [List.nil_append] at hwritten
    exact .sync hwritten
  | sync hwritten =>
    obtain rfl := Except.ok.inj happly
    exact .rename hwritten
  | rename hwritten =>
    obtain ⟨-, -, -, -, hfile, htemporary⟩ := Directory.get?_rename happly
    exact .done (hfile.trans hwritten) (htemporary temporaryName_ne_fileName)

/-- A save that succeeds has taken all its steps. -/
theorem Writing.run {steps : List SaveStep} (h : Writing umask left? i d steps)
    (hok : (attemptSteps umask m? d steps).result? = some (.ok ())) :
    Writing umask left? i (attemptSteps umask m? d steps).directory [] := by
  induction steps generalizing d m? with
  | nil =>
    rw [attemptSteps.eq_def]
    dsimp only
    split <;> exact h
  | cons step rest ih =>
    rw [attemptSteps.eq_def] at hok ⊢
    dsimp only at hok ⊢
    split at hok
    -- A mishap leaves no success.
    next kept fault? => cases fault? <;> cases hok
    next hnone =>
      cases happly : step.apply umask d with
      | error fault =>
        rw [happly] at hok
        cases hok
      | ok next =>
        rw [happly] at hok
        exact ih (h.step happly) hok

/-- A save that succeeds without the file (`habsent`) has found no identity, rather than one that
cannot be read. -/
theorem load_eq_none_of_attempt (habsent : d.get? fileName = none)
    (hok : (s.attempt umask m? d i).result? = some (.ok ())) : s.load d = .ok none := by
  cases hload : s.load d with
  | error e =>
    rw [attempt, hload] at hok
    cases hok
  | ok o =>
    cases o with
    | none => rfl
    | some j =>
      obtain ⟨bytes, hread, -⟩ := load_eq_some_iff.mp hload
      obtain ⟨mode, hget⟩ := Directory.read_eq_ok_iff.mp hread
      rw [habsent] at hget
      cases hget

/-- A save that succeeds leaves the identity `i` in full, with the mode of the temporary file. -/
theorem get?_of_attempt (habsent : d.get? fileName = none)
    (hok : (s.attempt umask m? d i).result? = some (.ok ())) :
    (s.attempt umask m? d i).directory.get? fileName =
        some (.file (contents i) (writtenMode umask (d.mode? temporaryName))) ∧
      (s.attempt umask m? d i).directory.get? temporaryName = none := by
  have hload := load_eq_none_of_attempt habsent hok
  have hattempt : s.attempt umask m? d i =
      let a := attemptSteps umask m? d (saveSteps i)
      ⟨a.moments, a.directory, a.result?.map (·.mapError (.io s.path))⟩ := by
    rw [attempt, hload]
  rw [hattempt] at hok ⊢
  -- The save has succeeded, so its steps have.
  have hsteps : (attemptSteps umask m? d (saveSteps i)).result? = some (.ok ()) := by
    obtain ⟨result, hresult, heq⟩ := Option.map_eq_some_iff.mp hok
    rw [hresult]
    cases result with
    | ok u => rfl
    | error fault => cases heq
  cases Writing.run (.create rfl) hsteps with
  | done hfile htemporary => exact ⟨hfile, htemporary⟩

/-- A file is created for the owner alone if the mask `umask` leaves the owner what it asks for. -/
theorem ownerMode_eq (h : umask &&& 0o600#9 = 0) : ownerMode umask = 0o600#9 := by
  revert umask
  unfold ownerMode
  decide

/-- **A saved identity is for the owner alone exactly if what was left over was.** A save that
succeeds where there was no identity leaves the file with the identity `i` in full and nothing else,
and no temporary file. Its mode is that of the temporary file that was left over, and without one it
is that of a file of the owner alone, `0o600`. -/
theorem ownerOnly_iff (howner : umask &&& 0o600#9 = 0) (habsent : d.get? fileName = none)
    (hok : (s.attempt umask m? d i).result? = some (.ok ())) :
    (s.attempt umask m? d i).directory.get? fileName =
        some (.file (contents i) ((d.mode? temporaryName).getD 0o600#9)) ∧
      (s.attempt umask m? d i).directory.get? temporaryName = none ∧
      ((s.attempt umask m? d i).directory.get? fileName = some (.file (contents i) 0o600#9) ↔
        ∀ left, d.mode? temporaryName = some left → left = 0o600#9) := by
  obtain ⟨hfile, htemporary⟩ := get?_of_attempt habsent hok
  rw [writtenMode, ownerMode_eq howner] at hfile
  refine ⟨hfile, htemporary, ?_⟩
  rw [hfile, Option.some.injEq, DirectoryEntry.file.injEq, and_iff_right rfl]
  cases d.mode? temporaryName with
  | none => exact iff_of_true rfl nofun
  | some left => simp

/-! ### A file that was left over -/

/-- A directory with a temporary file of more bytes than an identity has. -/
def withLeftover (mode : Mode) : Directory :=
  .put .empty temporaryName (.file (List.replicate 99 0x7b) mode)

def sampleIdentity : Identity := ⟨⟨"device-1", by decide⟩, ⟨"k"⟩⟩

/-- The directory has no identity, and a temporary file of `mode`. -/
theorem get?_withLeftover (mode : Mode) :
    (withLeftover mode).get? fileName = none ∧
      (withLeftover mode).mode? temporaryName = some mode := by
  have hempty : Directory.empty = .present ∅ := rfl
  rw [withLeftover, Directory.mode?, Directory.get?_put hempty, Directory.get?_put hempty,
    if_neg temporaryName_ne_fileName, if_pos rfl]
  exact ⟨Directory.get?_empty fileName, rfl⟩

/-- Nothing is in the way of a save there. -/
theorem attempt_withLeftover (s : IdentityStore) (umask mode : Mode) (i : Identity) :
    (s.attempt umask none (withLeftover mode) i).result? = some (.ok ()) := by
  have hload : s.load (withLeftover mode) = .ok none := by
    refine load_eq_none_iff.mpr ?_
    exact Directory.read_put_of_ne temporaryName_ne_fileName
  have hfree : (withLeftover mode).get? temporaryName ≠ some .folder := by
    intro hfolder
    have hmode := (get?_withLeftover mode).2
    rw [Directory.mode?, hfolder] at hmode
    cases hmode
  have hsteps : (takeSteps umask (withLeftover mode) (saveSteps i)).2 = .ok () :=
    takeSteps_saveSteps hload rfl hfree
  obtain ⟨-, hresult⟩ := Prod.mk.inj (attempt_none s umask (withLeftover mode) i)
  rw [hresult, save, hload]
  dsimp only
  rw [hsteps]
  rfl

/-- A temporary file of the owner alone (`0o600`) leads to an identity of the owner alone. -/
theorem ownerOnly_iff_leftover :
    (withLeftover 0o600#9).get? fileName = none ∧
      (attempt ⟨"/var/lib/agent"⟩ 0o022#9 none (withLeftover 0o600#9) sampleIdentity).result? =
        some (.ok ()) ∧
      (attempt ⟨"/var/lib/agent"⟩ 0o022#9 none (withLeftover 0o600#9) sampleIdentity).directory.get?
        fileName = some (.file (contents sampleIdentity) 0o600#9) := by
  obtain ⟨habsent, hmode⟩ := get?_withLeftover 0o600#9
  have hok := attempt_withLeftover ⟨"/var/lib/agent"⟩ 0o022#9 0o600#9 sampleIdentity
  refine ⟨habsent, hok, (ownerOnly_iff (by decide) habsent hok).2.2.mpr fun left hleft => ?_⟩
  rw [hmode] at hleft
  exact (Option.some.inj hleft).symm

/-- **An identity can be for everyone to read**: a temporary file of the mode `0o644` was left over,
and so all may read the identity that is saved over it. -/
theorem readable_of_leftover :
    (0o022#9 &&& 0o600#9 : Mode) = 0 ∧ (withLeftover 0o644#9).get? fileName = none ∧
      (save ⟨"/var/lib/agent"⟩ 0o022#9 (withLeftover 0o644#9) sampleIdentity).2 = .ok () ∧
      (save ⟨"/var/lib/agent"⟩ 0o022#9 (withLeftover 0o644#9) sampleIdentity).1.get? fileName =
        some (.file (contents sampleIdentity) 0o644#9) := by
  obtain ⟨habsent, hmode⟩ := get?_withLeftover 0o644#9
  have hok := attempt_withLeftover ⟨"/var/lib/agent"⟩ 0o022#9 0o644#9 sampleIdentity
  have hfile := (get?_of_attempt habsent hok).1
  obtain ⟨hdirectory, hresult⟩ :=
    Prod.mk.inj (attempt_none ⟨"/var/lib/agent"⟩ 0o022#9 (withLeftover 0o644#9) sampleIdentity)
  rw [hmode, hdirectory, writtenMode, Option.getD_some] at hfile
  rw [hresult, Option.some.injEq] at hok
  exact ⟨by decide, habsent, hok, hfile⟩

end IdentityStore

end FleetAgent
