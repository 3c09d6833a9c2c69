import DocAssembly.Main
import DocAssembly.Proofs.Lines
import DocAssembly.Proofs.Rendering
import DocAssembly.Proofs.Composition
import DocAssembly.Proofs.Contents
import DocAssembly.Proofs.FileSystem.Writing
import DocAssembly.Proofs.Outputs
import DocAssembly.Proofs.Convergence
import DocAssembly.Proofs.Overwriting
import DocAssembly.Proofs.HeaderPlacement
import DocAssembly.Proofs.Discovery.ListingOrder
import DocAssembly.Proofs.Discovery.Tree
import DocAssembly.Proofs.Agreement
import DocAssembly.Proofs.Frame
import DocAssembly.Proofs.Delimiters
import DocAssembly.Proofs.Directives
import DocAssembly.Proofs.Blocks
import DocAssembly.Proofs.Imports
import DocAssembly.Proofs.LineEndings
import DocAssembly.Proofs.Anchors
import DocAssembly.Proofs.Entries
import DocAssembly.Proofs.Rerendering
import DocAssembly.Proofs.Discovery.Walking
import DocAssembly.Proofs.BackLinks
import DocAssembly.Proofs.Collisions
import DocAssembly.Proofs.FileSystem.Likeness
import DocAssembly.Proofs.WritingOrder
import DocAssembly.Proofs.Processing
import DocAssembly.Proofs.Shadowing
import DocAssembly.Proofs.Path.Relative
import DocAssembly.Proofs.Reports
import DocAssembly.Proofs.Naming
import DocAssembly.Proofs.Verdicts
import DocAssembly.Proofs.EditScripts
import DocAssembly.Proofs.Differences
import DocAssembly.Proofs.Uniqueness
import DocAssembly.Proofs.NormalForms
import DocAssembly.Proofs.Levels
