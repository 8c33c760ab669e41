import EntityScaffold.Generator
import EntityScaffold.Proofs.Files

/-!
Making a file from a template. Loading a template changes nothing. A generator fails before it
writes, or it fails to write, or it writes its whole file.
-/

namespace EntityScaffold

namespace Template.Store

variable {store : Store} {name : String} {fs : FileSystem} {failure : Failure}

/-- The template that a store finds in a file system. -/
def loaded (store : Store) (name : String) (fs : FileSystem) : Except Failure String :=
  ((store.load name : ExceptT Failure (StateM FileSystem) String).run fs).1

theorem run_load_eq (store : Store) (name : String) (fs : FileSystem) :
    (store.load name : ExceptT Failure (StateM FileSystem) String).run fs =
      (match store.directory with
        | none => store.loadBuiltin name
        | some dir =>
          match fs.readText (templatePath dir name) with
          | .ok text => .ok text
          | .error .notFound => store.loadBuiltin name
          | .error _ => .error (.unreadable (templatePath dir name)), fs) := by
  rw [load]
  cases store.directory with
  | none => cases store.loadBuiltin name <;> rfl
  | some dir =>
    dsimp only
    rw [run_bind, run_lift]
    simp only [Files.readText]
    cases fs.readText (templatePath dir name) with
    | ok text => rfl
    | error problem => cases problem <;> cases store.loadBuiltin name <;> rfl

theorem run_load (store : Store) (name : String) (fs : FileSystem) :
    (store.load name : ExceptT Failure (StateM FileSystem) String).run fs =
      (store.loaded name fs, fs) := by
  rw [loaded, run_load_eq]

theorem loaded_eq (store : Store) (name : String) (fs : FileSystem) :
    store.loaded name fs =
      match store.directory with
      | none => store.loadBuiltin name
      | some dir =>
        match fs.readText (templatePath dir name) with
        | .ok text => .ok text
        | .error .notFound => store.loadBuiltin name
        | .error _ => .error (.unreadable (templatePath dir name)) := by
  rw [loaded, run_load_eq]

theorem loaded_default {text : String} (h : Template.builtin.lookup name = some text) :
    ({} : Store).loaded name fs = .ok text := by
  rw [loaded_eq]
  dsimp only [loadBuiltin]
  rw [if_pos rfl, h]

/-- A template that cannot be loaded is in none of the store's places, or in its directory as
something that is no text. -/
theorem loaded_error (h : store.loaded name fs = .error failure) :
    failure = .templateNotFound name (store.places name) ∨
      ∃ dir, store.directory = some dir ∧ failure = .unreadable (templatePath dir name) := by
  have hbuiltin (h : store.loadBuiltin name = .error failure) :
      failure = .templateNotFound name (store.places name) := by
    unfold loadBuiltin at h
    split at h <;> cases h
    rfl
  rw [loaded_eq] at h
  split at h
  · exact .inl (hbuiltin h)
  · next dir hd =>
    split at h
    · cases h
    · exact .inl (hbuiltin h)
    · cases h
      exact .inr ⟨dir, hd, rfl⟩

end Template.Store

namespace Generator

variable {generator : Generator} {store : Template.Store} {fs after : FileSystem}
  {failure : Failure}

/-- The file as it would be written. -/
def shown (generator : Generator) (store : Template.Store) (fs : FileSystem) :
    Except Failure Preview :=
  (store.loaded generator.templateName fs).map fun template =>
    ⟨generator.destination, generator.bindings.substitute template⟩

theorem shown_error_iff :
    generator.shown store fs = .error failure ↔
      store.loaded generator.templateName fs = .error failure := by
  unfold shown
  cases store.loaded generator.templateName fs with
  | error other => simp [Except.map]
  | ok template => simp [Except.map]

theorem run_preview (generator : Generator) (store : Template.Store) (fs : FileSystem) :
    (generator.preview store : ExceptT Failure (StateM FileSystem) Preview).run fs =
      (generator.shown store fs, fs) := by
  rw [preview, run_bind, render, run_bind, Template.Store.run_load, shown]
  cases store.loaded generator.templateName fs <;> rfl

theorem shown_path {preview : Preview} (h : generator.shown store fs = .ok preview) :
    preview.path = generator.destination := by
  unfold shown at h
  cases hl : store.loaded generator.templateName fs with
  | error failure => rw [hl] at h; cases h
  | ok template =>
    rw [hl] at h
    cases h
    rfl

/-- What becomes of a generator's file, and the file system it leaves. -/
def attempt (generator : Generator) (store : Template.Store) (fs : FileSystem) :
    Except Failure WrittenFile × FileSystem :=
  (generator.generate store : ExceptT Failure (StateM FileSystem) WrittenFile).run fs

/-- The three ways in which a generator ends: its template is not loaded, or its file is not
written, or all goes well. -/
inductive Ends (generator : Generator) (store : Template.Store) (fs : FileSystem) :
    Except Failure WrittenFile × FileSystem → Prop where
  | unloaded {failure : Failure} (shown : generator.shown store fs = .error failure) :
    Ends generator store fs (.error failure, fs)
  | unwritten {preview : Preview} {problem : PathError} {after : FileSystem}
    (shown : generator.shown store fs = .ok preview)
    (write : fs.write generator.destination (.text preview.content) = (.error problem, after)) :
    Ends generator store fs (.error (.unwritable generator.destination), after)
  | written {preview : Preview} {after : FileSystem}
    (shown : generator.shown store fs = .ok preview)
    (write : fs.write generator.destination (.text preview.content) = (.ok (), after)) :
    Ends generator store fs
      (.ok ⟨generator.destination,
        if fs.present generator.destination then .overwritten else .created⟩, after)

theorem run_renderTo (template : String) (bindings : Template.Bindings) (path : Path)
    (fs : FileSystem) :
    (Template.renderTo template bindings path :
      ExceptT Failure (StateM FileSystem) WrittenFile).run fs =
      match fs.write path (.text (bindings.substitute template)) with
      | (.error _, after) => (.error (.unwritable path), after)
      | (.ok (), after) =>
        (.ok ⟨path, if fs.present path then .overwritten else .created⟩, after) := by
  rw [Template.renderTo, run_bind, run_lift]
  have hrun := OutputFile.run_always path (bindings.substitute template) fs
  unfold OutputFile.run at hrun
  rw [hrun]
  rcases fs.write path (.text (bindings.substitute template)) with ⟨result, after⟩
  cases result <;> rfl

theorem attempt_ends (generator : Generator) (store : Template.Store) (fs : FileSystem) :
    Ends generator store fs (generator.attempt store fs) := by
  rw [attempt, generate, run_bind, Template.Store.run_load]
  cases hl : store.loaded generator.templateName fs with
  | error failure => exact .unloaded (by rw [shown, hl]; rfl)
  | ok template =>
    dsimp only
    rw [run_renderTo]
    have hshown : generator.shown store fs =
        .ok ⟨generator.destination, generator.bindings.substitute template⟩ := by
      rw [shown, hl]
      rfl
    rcases hw : fs.write generator.destination (.text (generator.bindings.substitute template))
      with ⟨result, after⟩
    cases result with
    | error problem => exact .unwritten hshown hw
    | ok _ => exact .written hshown hw

/-- A generator that fails was not shown, or did not write what was. -/
theorem attempt_error (h : generator.attempt store fs = (.error failure, after)) :
    generator.shown store fs = .error failure ∧ after = fs ∨
      failure = .unwritable generator.destination ∧ ∃ preview problem,
        generator.shown store fs = .ok preview ∧
        fs.write generator.destination (.text preview.content) = (.error problem, after) := by
  have hends := generator.attempt_ends store fs
  rw [h] at hends
  cases hends with
  | unloaded shown => exact .inl ⟨shown, rfl⟩
  | unwritten shown write => exact .inr ⟨rfl, _, _, shown, write⟩

/-- A generator that makes its file writes what was shown. -/
theorem attempt_ok {file : WrittenFile} (h : generator.attempt store fs = (.ok file, after)) :
    ∃ preview, generator.shown store fs = .ok preview ∧ file.path = generator.destination ∧
      fs.write generator.destination (.text preview.content) = (.ok (), after) := by
  have hends := generator.attempt_ends store fs
  rw [h] at hends
  cases hends with
  | written shown write => exact ⟨_, shown, rfl, write⟩

/-- A generator adds folders on the way of its file, and may give the file a content. -/
theorem within_attempt {result : Except Failure WrittenFile}
    (h : generator.attempt store fs = (result, after)) :
    FileSystem.Within [generator.destination] fs after := by
  have hends := generator.attempt_ends store fs
  rw [h] at hends
  cases hends with
  | unloaded => exact .refl fs
  | unwritten _ write =>
    exact (FileSystem.confined_of_write_error write).mono (fun _ hp => ⟨_, by simp, hp⟩) (by simp)
  | written _ write =>
    exact (FileSystem.confined_of_write_ok write).mono (fun _ hp => ⟨_, by simp, hp⟩)
      fun _ _ hf => ⟨_, by simp, hf.1⟩

end Generator

end EntityScaffold
