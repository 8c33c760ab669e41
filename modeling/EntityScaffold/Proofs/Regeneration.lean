import EntityScaffold.Proofs.FileSystem.Rewriting
import EntityScaffold.Proofs.Scaffold

/-!
Making a model and its tests again. The files of the same class replace the ones made before as a
whole, so nothing is left of an earlier run, and the same run once more changes nothing.
-/

namespace EntityScaffold

variable {fs between after : FileSystem}

namespace Generator

variable {generator : Generator} {store : Template.Store}

/-- Without a directory of templates, what is shown does not hang on the files. -/
theorem shown_builtin (h : store.directory = none) (fs other : FileSystem) :
    generator.shown store other = generator.shown store fs := by
  rw [shown, shown, Template.Store.loaded_eq, Template.Store.loaded_eq, h]

/-- Of two generators with one template, both can be shown or none. -/
theorem shown_other (other : Generator) {preview : Preview}
    (hs : generator.shown store fs = .ok preview)
    (hn : other.templateName = generator.templateName) :
    ∃ content, other.shown store fs = .ok ⟨other.destination, content⟩ := by
  unfold shown at hs ⊢
  rw [hn]
  cases hl : store.loaded generator.templateName fs with
  | error failure => simp [hl, Except.map] at hs
  | ok template => exact ⟨_, rfl⟩

/-- What is shown and can be written is made. -/
theorem attempt_of_write {preview : Preview} (hs : generator.shown store fs = .ok preview)
    (hw : fs.write generator.destination (.text preview.content) = (.ok (), after)) :
    generator.attempt store fs =
      (.ok ⟨generator.destination,
        if fs.present generator.destination then .overwritten else .created⟩, after) := by
  have hends := generator.attempt_ends store fs
  generalize generator.attempt store fs = result at hends
  cases hends with
  | unloaded he => cases hs.symm.trans he
  | unwritten hs' hw' =>
    obtain rfl := Except.ok.inj (hs.symm.trans hs')
    cases hw.symm.trans hw'
  | written hs' hw' =>
    obtain rfl := Except.ok.inj (hs.symm.trans hs')
    obtain rfl : after = _ := congrArg Prod.snd (hw.symm.trans hw')
    rfl

end Generator

namespace Scaffold

variable {scaffold : Scaffold} {request first second : Request}

theorem attempt_of_attempts {model tests : WrittenFile}
    (hm : (scaffold.model request).attempt scaffold.store fs = (.ok model, between))
    (ht : (scaffold.tests request).attempt scaffold.store between = (.ok tests, after)) :
    scaffold.attempt request fs = (.ok ⟨model, tests⟩, after) := by
  have hends := scaffold.attempt_ends request fs
  generalize scaffold.attempt request fs = result at hends
  cases hends with
  | inModel hm' => cases hm.symm.trans hm'
  | inTests hm' ht' =>
    cases hm.symm.trans hm'
    cases ht.symm.trans ht'
  | complete hm' ht' =>
    cases hm.symm.trans hm'
    cases ht.symm.trans ht'
    rfl

/-- Where the files go depends on the name of the class alone. -/
theorem model_destination (h : first.entity.className = second.entity.className) :
    (scaffold.model second).destination = (scaffold.model first).destination := by
  simp only [Scaffold.model, Generator.model, h]

theorem tests_destination (h : first.entity.className = second.entity.className) :
    (scaffold.tests second).destination = (scaffold.tests first).destination := by
  simp only [Scaffold.tests, Generator.tests, h]

/-- With the built-in templates, a class that was made is made again over its own files, whatever
its fields are now. The end is that of making it without the run before, and nothing changes at
all if the same is made again. -/
theorem attempt_again {files : ScaffoldedFiles} (hb : scaffold.store.directory = none)
    (hn : first.entity.className = second.entity.className)
    (h : scaffold.attempt first fs = (.ok files, after)) :
    ∃ final,
      scaffold.attempt second after =
        (.ok ⟨⟨(scaffold.model second).destination, .overwritten⟩,
          ⟨(scaffold.tests second).destination, .overwritten⟩⟩, final) ∧
      (∃ alone, scaffold.attempt second fs = (.ok alone, final)) ∧
      (first = second → final = after) := by
  have hends := scaffold.attempt_ends first fs
  rw [h] at hends
  cases hends with
  | @complete model tests between _ hm ht =>
    obtain ⟨shownModel, hsm, -, hwm⟩ := Generator.attempt_ok hm
    obtain ⟨shownTests, hst, -, hwt⟩ := Generator.attempt_ok ht
    rw [← model_destination hn] at hwm
    rw [← tests_destination hn] at hwt
    obtain ⟨newModel, hnm⟩ := Generator.shown_other (scaffold.model second) hsm rfl
    obtain ⟨newTests, hnt⟩ := Generator.shown_other (scaffold.tests second) hst rfl
    have hmodel (state : FileSystem) := (Generator.shown_builtin hb fs state).trans hnm
    have htests (state : FileSystem) := (Generator.shown_builtin hb between state).trans hnt
    obtain ⟨anew, renewed, final, hanew, hfinal, hrenewed, hlast, hfirst, hsecond⟩ :=
      FileSystem.writes_again hwm hwt (.text newModel) (.text newTests)
    have hagain := attempt_of_attempts (Generator.attempt_of_write (hmodel after) hrenewed)
      (Generator.attempt_of_write (htests renewed) hlast)
    have halone := attempt_of_attempts (Generator.attempt_of_write (hmodel fs) hanew)
      (Generator.attempt_of_write (htests anew) hfinal)
    rw [if_pos hfirst.present, if_pos hsecond.present] at hagain
    refine ⟨final, hagain, ⟨_, halone⟩, ?_⟩
    rintro rfl
    exact congrArg Prod.snd (halone.symm.trans h)

/-- A root with a step up from a missing directory, and an extension that brings both files to one
place. -/
theorem attempt_again_one_place :
    let scaffold : Scaffold :=
      ⟨⟨"new/../app"⟩, { modelsDir := ⟨"src"⟩, testsDir := ⟨"src"⟩, extension := "d/../One" }, {}⟩
    let first : Request := ⟨⟨"post"⟩, [⟨"title", "string"⟩], []⟩
    let second : Request := ⟨⟨"Post"⟩, [⟨"viewCount", "int"⟩], ["draft"]⟩
    scaffold.store.directory = none ∧ first.entity.className = second.entity.className ∧
      ∃ files after final, scaffold.attempt first .empty = (.ok files, after) ∧
        scaffold.attempt second after =
          (.ok ⟨⟨(scaffold.model second).destination, .overwritten⟩,
            ⟨(scaffold.tests second).destination, .overwritten⟩⟩, final) ∧
        ∃ alone, scaffold.attempt second .empty = (.ok alone, final) := by
  intro scaffold first second
  have hclass : first.entity.className = second.entity.className := by decide +kernel
  have hok : (scaffold.attempt first .empty).1.isOk = true := by decide +kernel
  refine ⟨rfl, hclass, ?_⟩
  rcases hrun : scaffold.attempt first .empty with ⟨result, after⟩
  rw [hrun] at hok
  cases result with
  | error failure => cases hok
  | ok files =>
    obtain ⟨final, hagain, halone, -⟩ := attempt_again rfl hclass hrun
    exact ⟨files, after, final, rfl, hagain, halone⟩

end Scaffold

end EntityScaffold
