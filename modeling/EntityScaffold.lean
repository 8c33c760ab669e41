import EntityScaffold.FileSystem.Changes
import EntityScaffold.Main
import EntityScaffold.Proofs.CommandLine.Arrangement
import EntityScaffold.Proofs.Ejected
import EntityScaffold.Proofs.Naming.Separated
import EntityScaffold.Proofs.Part.Agreement
import EntityScaffold.Proofs.Part.Indentation
import EntityScaffold.Proofs.Regeneration
import EntityScaffold.Proofs.TestsSource
import EntityScaffold.Proofs.BindingHistory
import EntityScaffold.Proofs.Naming.Boundaries
import EntityScaffold.Proofs.Text.Replacing
import EntityScaffold.Proofs.Template.Successive
import EntityScaffold.Proofs.Template.Clear
import EntityScaffold.Proofs.ClearSource
import EntityScaffold.Proofs.Request
import EntityScaffold.Proofs.Opening
import EntityScaffold.Proofs.Settings.Document
import EntityScaffold.Proofs.FileSystem.Removing
import EntityScaffold.Proofs.Layout
import EntityScaffold.Proofs.Restoring
import EntityScaffold.Proofs.TestsAlone
