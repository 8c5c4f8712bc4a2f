import ImportResolution.Main
import ImportResolution.Proofs.Host.Root
import ImportResolution.Proofs.Module.Placed
import ImportResolution.Proofs.Module.Plan
import ImportResolution.Proofs.Alias.Spelling
import ImportResolution.Proofs.Configuration.Decision
import ImportResolution.Proofs.FileTree.LinkFree
import ImportResolution.Proofs.Host.Canonical
import ImportResolution.Proofs.Configuration.Agreement
import ImportResolution.Proofs.FileTree.AddedFile
import ImportResolution.Proofs.Module.Refusal
import ImportResolution.Proofs.Request.AddedFile
import ImportResolution.Proofs.Module.WellFormed
import ImportResolution.Proofs.Request.WellFormed
import ImportResolution.Proofs.Request.DirectoryReading
import ImportResolution.Proofs.Request.Refusal
import ImportResolution.Proofs.Path.Below
import ImportResolution.Proofs.Module.Probed
import ImportResolution.Proofs.Alias.Confinement
import ImportResolution.Proofs.Request.CoreModule
import ImportResolution.Proofs.Path.Tidy
import ImportResolution.Proofs.Module.FixedPoint
import ImportResolution.Proofs.Host.WorkingDirectory
import ImportResolution.Proofs.Module.WorkingDirectory
import ImportResolution.Proofs.Request.WorkingDirectory
import ImportResolution.Proofs.Module.Containment
import ImportResolution.Proofs.Json.Notation
import ImportResolution.Proofs.Json.Written
import ImportResolution.Proofs.Json.RoundTrip
import ImportResolution.Proofs.CommandLine.Report
import ImportResolution.Proofs.CommandLine.Reading
import ImportResolution.Proofs.Configuration.Distinct
import ImportResolution.Proofs.Host.NullFree
import ImportResolution.Proofs.Host.Relative
import ImportResolution.Proofs.CommandLine.Located
import ImportResolution.Proofs.Relaxed.Rule
import ImportResolution.Proofs.Relaxed.Strict
import ImportResolution.Proofs.Host.LineEnds
import ImportResolution.Proofs.Host.Linkless
import ImportResolution.Proofs.Configuration.Carriers
import ImportResolution.Proofs.Alias.Lexical
import ImportResolution.Proofs.Alias.Precedence
import ImportResolution.Proofs.FileTree.Contents
import ImportResolution.Proofs.Module.InertManifest
import ImportResolution.Proofs.Request.InertManifest
import ImportResolution.Proofs.FileTree.RemovedEntry
import ImportResolution.Proofs.Configuration.Scalar
import ImportResolution.Proofs.Path.Ascent
import ImportResolution.Proofs.Module.SearchPath
import ImportResolution.Proofs.Module.Extension
import ImportResolution.Proofs.Configuration.Coherence
import ImportResolution.Proofs.Request.Shorthand
import ImportResolution.Proofs.Alias.SuffixSlashes
import ImportResolution.Proofs.CommandLine.Unreadable
import ImportResolution.Proofs.Module.Reuse
import ImportResolution.Proofs.Request.Batch
