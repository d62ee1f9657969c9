import FleetAgent.Proofs.Identity.Mishaps
import FleetAgent.Proofs.Wire.RoundTrip
/-!
# The identity is written once and as a whole

`written_once` says of every history of calls, with any mishap in any save: the file of the identity
is absent or whole at every moment; once it is there it stays as it is, and every load gives what it
holds; and a save returns what it has done.

Only the last step of a save touches the file (`SaveStep.read_apply`, `SaveStep.read_cutShort`).
`Underway i d steps` says what the directory `d` holds in front of the `steps` still to be taken,
and is what they preserve (`Underway.step`): at the last one the temporary file holds the whole
identity. What one call does is `Entry.Sound`, and what many do follows by induction on the calls,
since each finds what the one before has left.
-/

namespace FleetAgent

namespace Directory

variable {d d' : Directory} {name other source target : String} {entry : DirectoryEntry}
  {bytes written : List UInt8} {mode : Mode}

/-! ### Reading behind an operation -/

/-- What is read of a name is what stands in its file. -/
theorem read_eq_ok_iff :
    d.read name = .ok bytes ↔ ∃ mode, d.get? name = some (.file bytes mode) := by
  constructor
  · intro h
    rw [read.eq_def] at h
    split at h
    next => cases h
    next => cases h
    next =>
      split at h
      next => cases h
      next => cases h
      next found mode hfound =>
        obtain rfl := Except.ok.inj h
        exact ⟨mode, hfound⟩
  · rintro ⟨mode, h⟩
    cases d with
    | present entries =>
      rw [read, h]
      · rintro ⟨⟩
      · rintro _ ⟨⟩
    | absent | blocked | unnamed _ => cases h

theorem exists_of_get? (h : d.get? name = some entry) : ∃ entries, d = .present entries := by
  cases d with
  | present entries => exact ⟨entries, rfl⟩
  | absent | blocked | unnamed _ => cases h

/-- Reading depends on nothing but the entry. -/
theorem read_congr {e e' : Std.ExtTreeMap String DirectoryEntry}
    (h : (present e).get? name = (present e').get? other) :
    (present e).read name = (present e').read other := by
  rw [read.eq_def, read.eq_def]
  dsimp only
  rw [h]

theorem read_put_of_ne (h : name ≠ other) : (d.put name entry).read other = d.read other := by
  cases d with
  | present entries =>
    refine read_congr ?_
    have hget := get?_put (rfl : present entries = .present entries) name other entry
    rwa [if_neg h] at hget
  | absent | blocked | unnamed _ => rfl

theorem read_create (h : d.create = .ok d') : d'.read name = d.read name := by
  cases d with
  | absent =>
    cases h
    rfl
  | present entries =>
    cases h
    rfl
  | blocked | unnamed _ => cases h

/-- A file can be opened only in a directory `d` that exists, and is empty then. -/
theorem exists_of_openEmpty (h : d.openEmpty name mode = .ok d') :
    ∃ entries mode, d = .present entries ∧ d' = d.put name (.file [] mode) := by
  cases d with
  | present entries =>
    rw [openEmpty] at h
    split at h
    · cases h
    · exact ⟨entries, _, rfl, (Except.ok.inj h).symm⟩
    · exact ⟨entries, _, rfl, (Except.ok.inj h).symm⟩
  | absent | blocked | unnamed _ => cases h

theorem read_openEmpty_self (h : d.openEmpty name mode = .ok d') : d'.read name = .ok [] := by
  obtain ⟨entries, mode, hd, rfl⟩ := exists_of_openEmpty h
  refine read_eq_ok_iff.mpr ⟨mode, ?_⟩
  rw [get?_put hd, if_pos rfl]

theorem read_openEmpty_of_ne (h : d.openEmpty name mode = .ok d') (hne : name ≠ other) :
    d'.read other = d.read other := by
  obtain ⟨entries, mode, -, rfl⟩ := exists_of_openEmpty h
  exact read_put_of_ne hne

theorem read_append_of_ne (h : name ≠ other) : (d.append name bytes).read other = d.read other := by
  rw [append]
  split
  · exact read_put_of_ne h
  · rfl

/-- What is appended to the file `name` stands behind what was `written`, and its `mode` stays. -/
theorem get?_append {mode : Mode} (bytes : List UInt8)
    (h : d.get? name = some (.file written mode)) :
    (d.append name bytes).get? name = some (.file (written ++ bytes) mode) := by
  obtain ⟨entries, hd⟩ := exists_of_get? h
  rw [append, h]
  show (d.put name (.file (written ++ bytes) mode)).get? name = _
  rw [get?_put hd, if_pos rfl]

theorem read_append_self (bytes : List UInt8) (h : d.read name = .ok written) :
    (d.append name bytes).read name = .ok (written ++ bytes) := by
  obtain ⟨mode, hget⟩ := read_eq_ok_iff.mp h
  exact read_eq_ok_iff.mpr ⟨mode, get?_append bytes hget⟩

/-- Without a file there is no entry, in a directory that exists. -/
theorem get?_eq_none_of_read {entries : Std.ExtTreeMap String DirectoryEntry}
    (h : (present entries).read name = .error .notFound) : (present entries).get? name = none := by
  rw [read.eq_def] at h
  dsimp only at h
  split at h
  next hnone => exact hnone
  next => cases h
  next => cases h

theorem exists_of_create (h : d.create = .ok d') : ∃ entries, d' = .present entries := by
  cases d with
  | absent => exact ⟨∅, (Except.ok.inj h).symm⟩
  | present entries => exact ⟨entries, (Except.ok.inj h).symm⟩
  | blocked | unnamed _ => cases h

/-- A file can be opened where there is no folder. -/
theorem exists_openEmpty {entries : Std.ExtTreeMap String DirectoryEntry}
    (h : (present entries).get? name ≠ some .folder) (mode : Mode) :
    ∃ mode', (present entries).openEmpty name mode =
      .ok ((present entries).put name (.file [] mode')) := by
  rw [openEmpty]
  split
  next hfolder => exact absurd hfolder h
  next => exact ⟨_, rfl⟩
  next => exact ⟨_, rfl⟩

/-- A file `source` that was just written can be given the name `target`, if nothing has it. -/
theorem exists_rename (mode : Mode) (bytes : List UInt8)
    {entries : Std.ExtTreeMap String DirectoryEntry} (hne : source ≠ target)
    (hfree : (present entries).get? target = none) :
    ∃ d', (((present entries).put source (.file [] mode)).append source bytes).rename source
      target = .ok d' := by
  have hempty := get?_put (rfl : present entries = .present entries) source source (.file [] mode)
  rw [if_pos rfl] at hempty
  have hopened : (present entries).put source (.file [] mode) =
      .present (entries.insert source (.file [] mode)) := rfl
  have hsource := get?_put hopened source source (.file ([] ++ bytes) mode)
  rw [if_pos rfl] at hsource
  have htarget := get?_put hopened source target (.file ([] ++ bytes) mode)
  rw [if_neg hne, get?_put rfl, if_neg hne, hfree] at htarget
  rw [append, hempty]
  dsimp only
  rw [rename, hsource, htarget]
  exact ⟨_, rfl⟩

/-- What gets another name is there under `target`, and if that is another one no more under
`source`. -/
theorem get?_rename (h : d.rename source target = .ok d') :
    ∃ entries entries', d = .present entries ∧ d' = .present entries' ∧
      d'.get? target = d.get? source ∧ (source ≠ target → d'.get? source = none) := by
  rw [rename.eq_def] at h
  split at h
  next => cases h
  next => cases h
  next entry hs _ =>
    obtain ⟨entries, rfl⟩ := exists_of_get? hs
    have herase : (present entries).erase source = .present (entries.erase source) := rfl
    obtain rfl := Except.ok.inj h
    refine ⟨entries, _, rfl, rfl, ?_, fun hne => ?_⟩
    · rw [get?_put herase, if_pos rfl, hs]
    · rw [get?_put herase, if_neg hne.symm, get?_erase, if_pos rfl]

/-- What is read under the new name `target` is what was read under the old. -/
theorem read_rename (h : d.rename source target = .ok d') : d'.read target = d.read source := by
  obtain ⟨entries, entries', rfl, rfl, hget, -⟩ := get?_rename h
  exact read_congr hget

end Directory

namespace IdentityStore

variable {s : IdentityStore} {umask : Mode} {d d' : Directory} {i j : Identity} {kept : Nat}
  {head : SaveStep} {rest : List SaveStep} {m? : Option Mishap}

/-! ### What a load gives -/

/-- No identity is loaded exactly if there is no file. -/
theorem load_eq_none_iff : s.load d = .ok none ↔ d.read fileName = .error .notFound := by
  rw [load]
  split
  next h => simp [h]
  next fault hne h =>
    rw [h]
    refine ⟨fun h => (nomatch h), fun h => ?_⟩
    exact absurd (Except.error.inj h) hne
  next bytes h =>
    rw [h]
    refine ⟨fun h => ?_, fun h => (nomatch h)⟩
    split at h <;> cases h

/-- The identity `j` is loaded exactly if the bytes of the file decode to it. -/
theorem load_eq_some_iff :
    s.load d = .ok (some j) ↔
      ∃ bytes, d.read fileName = .ok bytes ∧ Wire.decode Wire.identity bytes = .ok j := by
  rw [load]
  split
  next h => simp [h]
  next h => simp [h]
  next bytes h =>
    rw [h]
    constructor
    · intro hload
      split at hload
      next hdecode =>
        cases hload
        exact ⟨bytes, rfl, hdecode⟩
      next => cases hload
    · rintro ⟨found, hfound, hdecode⟩
      rw [Except.ok.inj hfound, hdecode]

/-- A load depends on nothing but the file. -/
theorem load_congr (h : d'.read fileName = d.read fileName) : s.load d' = s.load d := by
  rw [load, load, h]

/-- The file holds the identity `i` in full, as it is written. -/
def HoldsWhole (d : Directory) (i : Identity) : Prop :=
  d.read fileName = .ok (contents i)

theorem HoldsWhole.load (h : HoldsWhole d i) : s.load d = .ok (some i) :=
  load_eq_some_iff.mpr ⟨contents i, h, Wire.decode_contents i⟩

/-! ### What a step does to the file -/

theorem temporaryName_ne_fileName : temporaryName ≠ fileName := by
  decide

/-- No step but the last one, `.rename`, touches the file: the others work on the temporary one. -/
theorem SaveStep.read_apply (h : head.apply umask d = .ok d') (hne : head ≠ .rename) :
    d'.read fileName = d.read fileName := by
  cases head with
  | createDirectory => exact Directory.read_create h
  | openTemporary => exact Directory.read_openEmpty_of_ne h temporaryName_ne_fileName
  | write bytes =>
    obtain rfl := Except.ok.inj h
    exact Directory.read_append_of_ne temporaryName_ne_fileName
  | sync =>
    obtain rfl := Except.ok.inj h
    rfl
  | rename => exact absurd rfl hne

/-- A step that is cut short does not touch it either. -/
theorem SaveStep.read_cutShort :
    (head.cutShort umask d kept).read fileName = d.read fileName := by
  rw [SaveStep.cutShort.eq_def]
  cases head with
  | createDirectory | openTemporary =>
    dsimp only
    split
    next h => exact SaveStep.read_apply h (by decide)
    next => rfl
  | write bytes => exact Directory.read_append_of_ne temporaryName_ne_fileName
  | sync | rename => rfl

/-- What the directory `d` holds in front of the steps of a save of `i` that are still to be
taken. -/
inductive Underway (i : Identity) (d : Directory) : List SaveStep → Prop
  /-- All steps: there is no file. -/
  | create : d.read fileName = .error .notFound → Underway i d (saveSteps i)
  /-- The directory is there, without a file. -/
  | openTemporary : d.read fileName = .error .notFound →
      Underway i d [.openTemporary, .write (contents i), .sync, .rename]
  /-- The temporary file is empty. -/
  | write : d.read fileName = .error .notFound → d.read temporaryName = .ok [] →
      Underway i d [.write (contents i), .sync, .rename]
  /-- It holds the identity. -/
  | sync : d.read fileName = .error .notFound → d.read temporaryName = .ok (contents i) →
      Underway i d [.sync, .rename]
  /-- So it does on the disk. -/
  | rename : d.read fileName = .error .notFound → d.read temporaryName = .ok (contents i) →
      Underway i d [.rename]
  /-- The file is there. -/
  | done : HoldsWhole d i → Underway i d []

/-- Every step `head` leads to what is to be there in front of the next one. -/
theorem Underway.step (h : Underway i d (head :: rest)) (happly : head.apply umask d = .ok d') :
    Underway i d' rest := by
  cases h with
  | create hfile => exact .openTemporary ((SaveStep.read_apply happly (by decide)).trans hfile)
  | openTemporary hfile =>
    exact .write ((SaveStep.read_apply happly (by decide)).trans hfile)
      (Directory.read_openEmpty_self happly)
  -- What is written stands alone in the temporary file, since that was empty.
  | write hfile htemp =>
    have hfile' := (SaveStep.read_apply happly (by rintro ⟨⟩)).trans hfile
    have htemp' := Directory.read_append_self (contents i) htemp
    rw [List.nil_append] at htemp'
    obtain rfl := Except.ok.inj happly
    exact .sync hfile' htemp'
  | sync hfile htemp =>
    obtain rfl := Except.ok.inj happly
    exact .rename hfile htemp
  | rename _ htemp => exact .done ((Directory.read_rename happly).trans htemp)

/-- As long as a step `head` is to be taken there is no file. -/
theorem Underway.read_eq (h : Underway i d (head :: rest)) :
    d.read fileName = .error .notFound := by
  cases h <;> assumption

/-! ### What a save does to the file -/

/-- A directory `d` that has the file still has it in `d'`, as it was. -/
def Keeps (d d' : Directory) : Prop :=
  ∀ bytes, d.read fileName = .ok bytes → d'.read fileName = .ok bytes

theorem keeps_of_read_eq (h : d'.read fileName = d.read fileName) : Keeps d d' :=
  fun _ hbytes => h.trans hbytes

theorem keeps_of_notFound (h : d.read fileName = .error .notFound) : Keeps d d' := by
  intro bytes hbytes
  rw [h] at hbytes
  cases hbytes

theorem Keeps.trans {d'' : Directory} (h : Keeps d d') (h' : Keeps d' d'') : Keeps d d'' :=
  fun bytes hbytes => h' bytes (h bytes hbytes)

/-- What an attempt to save `i` may do, where there is no file at first. -/
structure Attempt.Writes {ε : Type} (i : Identity) (a : Attempt ε) : Prop where
  /-- The file is absent or whole. -/
  whole : ∀ m ∈ a.moments, m.read fileName = .error .notFound ∨ HoldsWhole m i
  /-- What is there stays. -/
  keeps : a.moments.Pairwise Keeps
  /-- The attempt ends with the last of its moments. -/
  last : a.moments.getLast? = some a.directory
  /-- Success means that the file is there. -/
  ok : a.result? = some (.ok ()) → HoldsWhole a.directory i
  /-- Failure means that it is not. -/
  error : ∀ e, a.result? = some (.error e) → a.directory.read fileName = .error .notFound

/-- **An attempt writes the file as a whole or not at all.** The induction is on the steps, with the
mishap free; as long as a step is to be taken there is no file (`Underway.read_eq`). -/
theorem attemptSteps_writes (h : Underway i d rest) :
    (attemptSteps umask m? d rest).Writes i := by
  -- The steps that are left are those of a save: `Underway` says what the others have done.
  induction rest generalizing d m? with
  | nil =>
    cases h with
    | done hwhole =>
      rw [attemptSteps.eq_def]
      dsimp only
      split
      · exact ⟨by simp [hwhole], by simp, rfl, by simp, by simp⟩
      · exact ⟨by simp [hwhole], by simp, rfl, fun _ => hwhole, by simp⟩
  | cons head rest ih =>
    have hfile := h.read_eq
    rw [attemptSteps.eq_def]
    dsimp only
    split
    next kept fault? =>
      -- Not even a rename is cut short halfway, so there is still no file.
      have hleft : (head.cutShort umask d kept).read fileName = .error .notFound :=
        SaveStep.read_cutShort.trans hfile
      have hresult : fault?.map .error ≠ some (.ok () : Except IoFault Unit) := by
        cases fault? <;> simp
      exact ⟨by simp [hfile, hleft], by simpa using keeps_of_notFound hfile, rfl,
        fun h => absurd h hresult, fun _ _ => hleft⟩
    next =>
      split
      next fault _ => exact ⟨by simp [hfile], by simp, rfl, by simp, fun _ _ => hfile⟩
      next d' happly =>
        -- The rest of the save starts from what the step has left.
        have ha : (attemptSteps umask (m?.map Mishap.later) d' rest).Writes i := ih (h.step happly)
        refine ⟨?_, ?_, ?_, ha.ok, ha.error⟩
        · exact List.forall_mem_cons.mpr ⟨.inl hfile, ha.whole⟩
        · exact List.pairwise_cons.mpr ⟨fun _ _ => keeps_of_notFound hfile, ha.keeps⟩
        · rw [List.getLast?_cons, ha.last]
          rfl

/-! ### What a call does -/

/-- What is so about a call that finds no identity or a valid one. -/
structure Entry.Sound (s : IdentityStore) (e : Entry) : Prop where
  /-- The file is left alone, or it was absent and an identity was written. -/
  moment : ∀ m ∈ e.moments, m.read fileName = e.before.read fileName ∨
    e.before.read fileName = .error .notFound ∧ ∃ i m?, e.call = .save i m? ∧ HoldsWhole m i
  /-- What is there stays. -/
  keeps : e.moments.Pairwise Keeps
  /-- The call starts with the directory that it finds. -/
  first : e.before ∈ e.moments
  /-- The call ends with the directory that it leaves. -/
  last : e.moments.getLast? = some e.after
  /-- A load gives what it finds. -/
  loaded : e.call = .load → e.answer = .loaded (s.load e.before)
  /-- What was saved is there. -/
  ok : ∀ i m?, e.call = .save i m? → e.answer = .saved (.ok ()) → s.load e.after = .ok (some i)
  /-- A save is refused if another identity is there. -/
  refused : ∀ i m?, e.call = .save i m? →
    (e.answer = .saved (.error (.alreadyExists s.path)) ↔
      ∃ j, s.load e.before = .ok (some j) ∧ j ≠ i)
  /-- A save that fails leaves the file alone. -/
  error : ∀ x, e.answer = .saved (.error x) → e.after.read fileName = e.before.read fileName

theorem attemptSteps_moments_head : d ∈ (attemptSteps umask m? d rest).moments := by
  rw [attemptSteps.eq_def]
  split <;> split <;> try split
  all_goals exact List.mem_cons_self

/-- A save that finds an identity `j` leaves the directory as it is. -/
theorem perform_save_of_some (hd : s.load d = .ok (some j)) :
    (s.perform umask d (.save i m?)).Sound s := by
  have hattempt : s.attempt umask m? d i =
      ⟨[d], d, some (if j = i then .ok () else .error (.alreadyExists s.path))⟩ := by
    rw [attempt, hd]
  rw [perform, hattempt]
  refine ⟨by simp, by simp, by simp, rfl, by simp, ?_, ?_, fun _ _ => rfl⟩
  · rintro _ _ ⟨⟩ hanswer
    by_cases hji : j = i
    · rw [← hji]
      exact hd
    · simp [hji] at hanswer
  · rintro _ _ ⟨⟩
    by_cases hji : j = i
    · simp [hd, hji]
    · simp [hd, hji]

/-- A save that finds no identity is an attempt to write one. -/
theorem perform_save_of_none (hd : s.load d = .ok none) :
    (s.perform umask d (.save i m?)).Sound s := by
  have hfile := load_eq_none_iff.mp hd
  have ha : (attemptSteps umask m? d (saveSteps i)).Writes i :=
    attemptSteps_writes (Underway.create hfile)
  have hfirst : d ∈ (attemptSteps umask m? d (saveSteps i)).moments := attemptSteps_moments_head
  have hattempt : s.attempt umask m? d i =
      let a := attemptSteps umask m? d (saveSteps i)
      ⟨a.moments, a.directory, a.result?.map (·.mapError (.io s.path))⟩ := by
    rw [attempt, hd]
  rw [perform, hattempt]
  -- From here on it does not matter which steps were taken.
  generalize attemptSteps umask m? d (saveSteps i) = a at ha hfirst
  refine ⟨?_, ha.keeps, hfirst, ha.last, by rintro ⟨⟩, ?_, ?_, ?_⟩
  · intro m hm
    obtain habsent | hwhole := ha.whole m hm
    · exact .inl (habsent.trans hfile.symm)
    · exact .inr ⟨hfile, i, m?, rfl, hwhole⟩
  · rintro _ _ ⟨⟩ hanswer
    obtain ⟨moments, directory, _ | _ | ⟨⟩⟩ := a
    · cases hanswer
    · cases hanswer
    · exact (ha.ok rfl).load
  · -- It is never refused: there is no other identity.
    rintro _ _ ⟨⟩
    refine iff_of_false (fun hanswer => ?_) ?_
    · obtain ⟨moments, directory, _ | _ | ⟨⟩⟩ := a <;> cases hanswer
    · rintro ⟨j, hj, -⟩
      rw [hd] at hj
      cases hj
  · intro x hanswer
    obtain ⟨moments, directory, _ | fault | ⟨⟩⟩ := a
    · cases hanswer
    · exact (ha.error fault rfl).trans hfile.symm
    · cases hanswer

/-- **Every call is sound** that finds no identity or a valid one, `o`: by cases on the call, and
for a save on where it ends. -/
theorem perform_sound {o : Option Identity} (hd : s.load d = .ok o) (c : Call) :
    (s.perform umask d c).Sound s := by
  cases c with
  | load =>
    rw [perform]
    exact ⟨by simp, by simp, by simp, rfl, fun _ => rfl, nofun, nofun, nofun⟩
  | save i m? =>
    cases o with
    | none => exact perform_save_of_none hd
    | some j => exact perform_save_of_some hd

/-- What was saved is there. -/
theorem load_of_save_eq_ok (h : (s.save umask d i).2 = .ok ()) :
    s.load (s.save umask d i).1 = .ok (some i) := by
  cases hd : s.load d with
  | error e =>
    rw [save, hd] at h
    cases h
  | ok o =>
    obtain ⟨hdirectory, hresult⟩ := Prod.mk.inj (attempt_none s umask d i)
    have hanswer : (s.perform umask d (.save i none)).answer = .saved (.ok ()) := by
      rw [perform, hresult, h]
      rfl
    have hafter := (perform_sound hd (.save i none)).ok i none rfl hanswer
    rwa [perform, hdirectory] at hafter

/-- To save the identity that is there already succeeds. -/
theorem answer_save_of_some (hd : s.load d = .ok (some i)) :
    (s.perform umask d (.save i m?)).answer = .saved (.ok ()) := by
  rw [perform, attempt, hd]
  dsimp only
  rw [if_pos rfl]
  rfl

/-- All steps of a save can be taken where the temporary file can be opened (`hfree`). -/
theorem takeSteps_saveSteps (hd : s.load d = .ok none) (hmade : d.create = .ok d')
    (hfree : d'.get? temporaryName ≠ some .folder) :
    (takeSteps umask d (saveSteps i)).2 = .ok () := by
  have hread := (Directory.read_create hmade).trans (load_eq_none_iff.mp hd)
  obtain ⟨entries, rfl⟩ := Directory.exists_of_create hmade
  have hfile := Directory.get?_eq_none_of_read hread
  obtain ⟨mode, hopen⟩ := Directory.exists_openEmpty hfree (ownerMode umask)
  obtain ⟨d', hrename⟩ :=
    Directory.exists_rename mode (contents i) temporaryName_ne_fileName hfile
  simp only [saveSteps, takeSteps, SaveStep.apply, hmade, hopen, hrename]

/-- A save that nothing goes wrong in succeeds. -/
theorem answer_save_of_none (hd : s.load d = .ok none) (hmade : d.create = .ok d')
    (hfree : d'.get? temporaryName ≠ some .folder) :
    (s.perform umask d (.save i none)).answer = .saved (.ok ()) := by
  obtain ⟨-, hresult⟩ := Prod.mk.inj (attempt_none s umask d i)
  have hsave : (s.save umask d i).2 = .ok () := by
    rw [save, hd]
    dsimp only
    rw [takeSteps_saveSteps hd hmade hfree]
    rfl
  rw [perform, hresult, hsave]
  rfl

namespace Entry.Sound

variable {e : Entry} {o : Option Identity} {m : Directory}

/-- What is there at a moment `m` of a call is there when it has come to its end. -/
theorem keeps_after (h : e.Sound s) (hm : m ∈ e.moments) : Keeps m e.after := by
  obtain ⟨front, hfront⟩ := List.getLast?_eq_some_iff.mp h.last
  have hpair := h.keeps
  rw [hfront] at hm hpair
  rcases List.mem_append.mp hm with hm | hm
  · exact (List.pairwise_append.mp hpair).2.2 m hm e.after List.mem_cons_self
  · obtain rfl := List.mem_singleton.mp hm
    exact keeps_of_read_eq rfl

theorem keeps_before (h : e.Sound s) (hm : m ∈ e.moments) : Keeps e.before m := by
  obtain hsame | ⟨habsent, -⟩ := h.moment m hm
  · exact keeps_of_read_eq hsame
  · exact keeps_of_notFound habsent

/-- The call leaves no identity or a valid one. -/
theorem exists_load_after (h : e.Sound s) (hd : s.load e.before = .ok o) :
    ∃ o, s.load e.after = .ok o := by
  obtain hsame | ⟨-, i, -, -, hwhole⟩ := h.moment _ (List.mem_of_getLast? h.last)
  · exact ⟨o, (load_congr hsame).trans hd⟩
  · exact ⟨some i, hwhole.load⟩

end Entry.Sound

/-! ### What many calls do -/

variable {calls : List Call} {o : Option Identity}

@[simp]
theorem perform_before (c : Call) : (s.perform umask d c).before = d := by
  cases c <;> rfl

@[simp]
theorem perform_call (c : Call) : (s.perform umask d c).call = c := by
  cases c <;> rfl

/-- An entry `e` of a history is a call that was made where it was found. -/
theorem eq_perform_of_mem_history {e : Entry} (he : e ∈ s.history umask d calls) :
    e = s.perform umask e.before e.call := by
  induction calls generalizing d with
  | nil => cases he
  | cons c calls ih =>
    rcases List.mem_cons.mp he with rfl | he
    · rw [perform_before, perform_call]
    · exact ih he

/-- **All calls of a history are sound**, by induction on them: each leaves no identity or a valid
one for the next (`Entry.Sound.exists_load_after`). -/
theorem sound_of_mem_history {e : Entry} (hd : s.load d = .ok o)
    (he : e ∈ s.history umask d calls) : e.Sound s := by
  induction calls generalizing d o with
  | nil => cases he
  | cons c calls ih =>
    have hc : (s.perform umask d c).Sound s := perform_sound hd c
    rcases List.mem_cons.mp he with rfl | he
    · exact hc
    · obtain ⟨_, hafter⟩ := hc.exists_load_after ((congrArg s.load (perform_before c)).trans hd)
      exact ih hafter he

/-- The file is absent in `m`, or it holds in full what it held at first in `d`, or an identity that
one of `calls` was to save. -/
def IsWhole (s : IdentityStore) (d : Directory) (calls : List Call) (m : Directory) : Prop :=
  m.read fileName = .error .notFound ∨
    ∃ j, s.load m = .ok (some j) ∧
      (m.read fileName = d.read fileName ∨ HoldsWhole m j ∧ ∃ m?, .save j m? ∈ calls)

theorem isWhole_of_read_eq {m : Directory} (hd : s.load d = .ok o)
    (h : m.read fileName = d.read fileName) : s.IsWhole d calls m := by
  cases o with
  | none => exact .inl (h.trans (load_eq_none_iff.mp hd))
  | some j => exact .inr ⟨j, (load_congr h).trans hd, .inl h⟩

theorem IsWhole.congr {m m' : Directory} (h : s.IsWhole d calls m)
    (hm : m'.read fileName = m.read fileName) : s.IsWhole d calls m' := by
  obtain habsent | ⟨j, hload, horigin⟩ := h
  · exact .inl (hm.trans habsent)
  · refine .inr ⟨j, (load_congr hm).trans hload, ?_⟩
    exact horigin.imp hm.trans fun ⟨hwhole, hcall⟩ => ⟨hm.trans hwhole, hcall⟩

/-- The moments of the first call. -/
theorem isWhole_of_mem_moments {c : Call} {m : Directory} (hd : s.load d = .ok o)
    (hm : m ∈ (s.perform umask d c).moments) : s.IsWhole d (c :: calls) m := by
  obtain hsame | ⟨-, i, m?, hcall, hwhole⟩ := (perform_sound hd c).moment m hm
  · rw [perform_before] at hsame
    exact isWhole_of_read_eq hd hsame
  · rw [perform_call] at hcall
    exact .inr ⟨i, hwhole.load, .inr ⟨hwhole, m?, hcall ▸ List.mem_cons_self⟩⟩

/-- At every moment `m` of a history the file is whole; what the first call has left is what the
others find. -/
theorem isWhole_of_mem {m : Directory} (hd : s.load d = .ok o)
    (hm : m ∈ allMoments d (s.history umask d calls)) : s.IsWhole d calls m := by
  induction calls generalizing d o with
  | nil =>
    obtain rfl := List.mem_singleton.mp hm
    exact isWhole_of_read_eq hd rfl
  | cons c calls ih =>
    have hc : (s.perform umask d c).Sound s := perform_sound hd c
    obtain ⟨_, hafter⟩ := hc.exists_load_after ((congrArg s.load (perform_before c)).trans hd)
    rw [allMoments, history, List.flatMap_cons, List.mem_cons, List.mem_append] at hm
    obtain rfl | hm | hm := hm
    · exact isWhole_of_read_eq hd rfl
    · exact isWhole_of_mem_moments hd hm
    -- What the later calls found at first is what the first one has left.
    obtain habsent | ⟨j, hload, hsame | ⟨hwhole, m?, hcall⟩⟩ :=
      ih hafter (List.mem_cons_of_mem _ hm)
    · exact .inl habsent
    · exact (isWhole_of_mem_moments hd (List.mem_of_getLast? hc.last)).congr hsame
    · exact .inr ⟨j, hload, .inr ⟨hwhole, m?, List.mem_cons_of_mem _ hcall⟩⟩

/-- Through a history the file is kept: within a call by `Entry.Sound.keeps`, and from one to the
next since it ends where the next begins. -/
theorem keeps_history (hd : s.load d = .ok o) :
    (allMoments d (s.history umask d calls)).Pairwise Keeps := by
  induction calls generalizing d o with
  | nil => exact List.pairwise_singleton _ _
  | cons c calls ih =>
    have hc : (s.perform umask d c).Sound s := perform_sound hd c
    obtain ⟨_, hafter⟩ := hc.exists_load_after ((congrArg s.load (perform_before c)).trans hd)
    obtain ⟨hfrom, hrest⟩ := List.pairwise_cons.mp (ih hafter)
    have hbefore : ∀ m ∈ (s.perform umask d c).moments, Keeps d m := by
      intro m hm
      have := hc.keeps_before hm
      rwa [perform_before] at this
    rw [allMoments, history, List.flatMap_cons, List.pairwise_cons, List.pairwise_append]
    -- What is there during the first call is there at its end, and so during the later ones.
    refine ⟨fun m hm => ?_, hc.keeps, hrest, fun m hm m' hm' => ?_⟩
    · rcases List.mem_append.mp hm with hm | hm
      · exact hbefore m hm
      · exact (hbefore _ (List.mem_of_getLast? hc.last)).trans (hfrom m hm)
    · exact (hc.keeps_after hm).trans (hfrom m' hm')

/-- A directory that is kept loads as before. -/
theorem Keeps.load (h : Keeps d d') (hd : s.load d = .ok (some j)) : s.load d' = .ok (some j) := by
  obtain ⟨bytes, hbytes, hdecode⟩ := load_eq_some_iff.mp hd
  exact load_eq_some_iff.mpr ⟨bytes, h bytes hbytes, hdecode⟩

/-- What was there at any moment `m` of the calls in `front` is there when the later call `e` is
made. -/
theorem keeps_before_of_history {front back : List Entry} {e : Entry} {m : Directory}
    (hd : s.load d = .ok o) (h : s.history umask d calls = front ++ e :: back)
    (hm : m ∈ allMoments d front) : Keeps m e.before := by
  have hkeeps := @keeps_history s umask d calls o hd
  have hmem : e ∈ s.history umask d calls := by
    rw [h]
    exact List.mem_append_right _ List.mem_cons_self
  have he : e.Sound s := sound_of_mem_history hd hmem
  rw [h, allMoments, List.flatMap_append, List.flatMap_cons, ← List.cons_append,
    List.pairwise_append] at hkeeps
  exact hkeeps.2.2 m hm e.before (List.mem_append_left _ he.first)

/-- **The identity is written once and as a whole.** Of all `calls`, with any mishaps, from a
directory without an identity or with a valid one: the file is absent or whole at every moment; what
it holds stays; a load gives what was there at any moment before; a save that returns has saved its
identity, is refused if and only if another one is there, and leaves the file as it was if it fails;
and it does return if its identity is there, or if nothing is in its way. -/
theorem written_once (s : IdentityStore) (umask : Mode) (calls : List Call)
    (hd : s.load d = .ok o) :
    (∀ m ∈ allMoments d (s.history umask d calls), s.IsWhole d calls m) ∧
      (allMoments d (s.history umask d calls)).Pairwise Keeps ∧
      (∀ front e back, s.history umask d calls = front ++ e :: back → e.call = .load →
        e.answer = .loaded (s.load e.before) ∧
          ∀ m ∈ allMoments d front, ∀ j, s.load m = .ok (some j) →
            e.answer = .loaded (.ok (some j))) ∧
      ∀ e ∈ s.history umask d calls, ∀ i m?, e.call = .save i m? →
        (e.answer = .saved (.ok ()) → s.load e.after = .ok (some i)) ∧
          (e.answer = .saved (.error (.alreadyExists s.path)) ↔
            ∃ j, s.load e.before = .ok (some j) ∧ j ≠ i) ∧
          (∀ x, e.answer = .saved (.error x) → e.after.read fileName = e.before.read fileName) ∧
          (s.load e.before = .ok (some i) → e.answer = .saved (.ok ())) ∧
          (m? = none → s.load e.before = .ok none → ∀ made, e.before.create = .ok made →
            made.get? temporaryName ≠ some .folder → e.answer = .saved (.ok ())) := by
  refine ⟨fun m hm => isWhole_of_mem hd hm, keeps_history hd, ?_, ?_⟩
  · -- What was there at a moment before is kept until the load, so the load gives it.
    intro front e back h hload
    have hmem : e ∈ s.history umask d calls := by
      rw [h]
      exact List.mem_append_right _ List.mem_cons_self
    have he : e.Sound s := sound_of_mem_history hd hmem
    refine ⟨he.loaded hload, fun m hm j hj => ?_⟩
    rw [he.loaded hload, (keeps_before_of_history hd h hm).load hj]
  · intro e he i m? hcall
    have hsound := sound_of_mem_history hd he
    have heq := eq_perform_of_mem_history he
    rw [hcall] at heq
    refine ⟨hsound.ok i m? hcall, hsound.refused i m? hcall, hsound.error, fun hi => ?_, ?_⟩
    · rw [heq]
      exact answer_save_of_some hi
    · rintro rfl hnone made hmade hfree
      rw [heq]
      exact answer_save_of_none hnone hmade hfree

/-- A save that crashes while it writes over what another one has left, then one that succeeds. -/
theorem written_once_crashed :
    ∃ (s : IdentityStore) (d : Directory) (i : Identity),
      d.read temporaryName = .ok [0x7b] ∧ s.load d = .ok none ∧
        (∀ m ∈ allMoments d (s.history 0 d [.save i (some ⟨2, 9, none⟩), .load, .save i none]),
          s.IsWhole d [.save i (some ⟨2, 9, none⟩), .load, .save i none] m) ∧
        (allMoments d (s.history 0 d [.save i (some ⟨2, 9, none⟩), .load, .save i none])).Pairwise
          Keeps := by
  have hd : (Directory.empty.put temporaryName (.file [0x7b] 0)).read fileName =
      .error .notFound := Directory.read_put_of_ne temporaryName_ne_fileName
  have hempty : Directory.empty = .present ∅ := rfl
  have htemp : (Directory.empty.put temporaryName (.file [0x7b] 0)).read temporaryName =
      .ok [0x7b] := by
    refine Directory.read_eq_ok_iff.mpr ⟨0, ?_⟩
    rw [Directory.get?_put hempty, if_pos rfl]
  have h := written_once ⟨"/var/lib/agent"⟩ 0
    [.save ⟨⟨"d", by decide⟩, ⟨"k"⟩⟩ (some ⟨2, 9, none⟩), .load,
      .save ⟨⟨"d", by decide⟩, ⟨"k"⟩⟩ none]
    (load_eq_none_iff.mpr hd)
  exact ⟨_, _, _, htemp, load_eq_none_iff.mpr hd, h.1, h.2.1⟩

end IdentityStore

end FleetAgent
