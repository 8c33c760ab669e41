import EntityScaffold.Proofs.Path
import EntityScaffold.Proofs.Scaffold

/-!
Where a model and its tests go. The two paths are different texts for every layout and every name,
even where both lead to one place.
-/

namespace EntityScaffold

namespace Layout

/-- The names of both files end alike. Without that end the name of the tests has the longer last
segment, and no directory before it makes up for that. -/
theorem modelPath_ne_testsPath (layout : Layout) (root : Path) (className : String) :
    layout.modelPath root className ≠ layout.testsPath root className := by
  intro h
  have hdot : Path.isAbsolute ⟨"." ++ layout.extension⟩ = false := by simp [Path.isAbsolute]
  have hmodel : (layout.modelPath root className).text =
      ((root.join layout.modelsDir).join ⟨className⟩).text ++ ("." ++ layout.extension) := by
    rw [modelPath, modelFileName, String.append_assoc, Path.text_join_append _ hdot]
  have htests : (layout.testsPath root className).text =
      ((root.join layout.testsDir).join ⟨className ++ "Tests"⟩).text ++
        ("." ++ layout.extension) := by
    have hname : layout.testsFileName className =
        className ++ "Tests" ++ ("." ++ layout.extension) := by
      simp [testsFileName, String.append_assoc, ← String.toList_inj]
    rw [testsPath, testsPathIn, hname, Path.text_join_append _ hdot]
  rw [h, htests, String.append_left_inj] at hmodel
  have hlast : (Path.segments ⟨className ++ "Tests"⟩).getLast? =
      (Path.segments ⟨className⟩).getLast? := by
    rw [← Path.getLast?_segments_join (root.join layout.testsDir),
      ← Path.getLast?_segments_join (root.join layout.modelsDir) ⟨className⟩]
    exact congrArg (fun text => (Path.segments ⟨text⟩).getLast?) hmodel
  have hslash : '/' ∉ "Tests".toList := by decide
  obtain ⟨front, last, hs, ht⟩ := Path.segments_append className hslash
  rw [hs, ht, List.getLast?_concat, List.getLast?_concat] at hlast
  have hlength := congrArg String.length (Option.some.inj hlast)
  simp at hlength

end Layout

namespace Scaffold

variable {scaffold : Scaffold} {request : Request} {fs after : FileSystem}

theorem destination_ne (scaffold : Scaffold) (request : Request) :
    (scaffold.model request).destination ≠ (scaffold.tests request).destination :=
  scaffold.layout.modelPath_ne_testsPath scaffold.root request.entity.className

theorem shown_paths {previews : List Preview} (h : scaffold.shown request fs = .ok previews) :
    previews.map Preview.path =
      [(scaffold.model request).destination, (scaffold.tests request).destination] := by
  obtain ⟨model, tests, hm, ht, rfl⟩ := shown_ok h
  rw [List.map_cons, List.map_singleton, Generator.shown_path hm, Generator.shown_path ht]

theorem attempt_paths {files : ScaffoldedFiles}
    (h : scaffold.attempt request fs = (.ok files, after)) :
    files.model.path = (scaffold.model request).destination ∧
      files.tests.path = (scaffold.tests request).destination := by
  have hends := scaffold.attempt_ends request fs
  rw [h] at hends
  cases hends with
  | complete hmodel htests =>
    obtain ⟨-, -, hm, -⟩ := Generator.attempt_ok hmodel
    obtain ⟨-, -, ht, -⟩ := Generator.attempt_ok htests
    exact ⟨hm, ht⟩

/-- The paths of a model and of its tests are never one text, so neither showing a request nor
making it names one destination twice. -/
theorem destinations_apart (layout : Layout) (root : Path) :
    (∀ className : String,
      (layout.modelPath root className).text ≠ (layout.testsPath root className).text) ∧
    ∀ (store : Template.Store) (request : Request) (fs : FileSystem),
      let scaffold : Scaffold := ⟨root, layout, store⟩
      (∀ previews, scaffold.shown request fs = .ok previews →
        (previews.map Preview.path).Nodup) ∧
      ∀ files after, scaffold.attempt request fs = (.ok files, after) →
        files.model.path ≠ files.tests.path := by
  refine ⟨fun className h => ?_, fun store request fs => ⟨?_, ?_⟩⟩
  · exact layout.modelPath_ne_testsPath root className (congrArg Path.mk h)
  · intro previews h
    rw [shown_paths h]
    simpa using destination_ne _ request
  · intro files after h
    obtain ⟨hm, ht⟩ := attempt_paths h
    rw [hm, ht]
    exact destination_ne _ request

end Scaffold

end EntityScaffold
