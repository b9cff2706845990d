import CompileFlags.Main
import CompileFlags.Proofs.Database.FirstEntry
import CompileFlags.Proofs.Database.HeaderSource
import CompileFlags.Proofs.Database.Includes
import CompileFlags.Proofs.Disk.Places
import CompileFlags.Proofs.Path.Canonical
import CompileFlags.Proofs.Resolution.AbsoluteIncludes
import CompileFlags.Proofs.Resolution.Outcome
import CompileFlags.Proofs.Database.OwnRecord
import CompileFlags.Proofs.Shell.Written
import CompileFlags.Proofs.Resolution.Boundary
import CompileFlags.Proofs.Json.RoundTrip
import CompileFlags.Proofs.Table.Shrinking
import CompileFlags.Proofs.CommandLine.Views
import CompileFlags.Proofs.Path.Parents
import CompileFlags.Proofs.Path.PushPop
import CompileFlags.Proofs.Disk.LinkFree
import CompileFlags.Proofs.Disk.WorkingFolder
import CompileFlags.Proofs.Config.Directories
import CompileFlags.Proofs.Config.Loading
import CompileFlags.Proofs.Config.Discovery
import CompileFlags.Proofs.Resolution.WorkingFolder
import CompileFlags.Proofs.Database.Items
import CompileFlags.Proofs.Database.Spelling
import CompileFlags.Proofs.Database.Again
import CompileFlags.Proofs.Database.LeastSource
import CompileFlags.Proofs.BuildInfo.Sections
import CompileFlags.Proofs.Shell.Fields
import CompileFlags.Proofs.Path.Composition
import CompileFlags.Proofs.Path.Climbing
import CompileFlags.Proofs.Disk.NormalForm
import CompileFlags.Proofs.SearchList.FirstMatch
import CompileFlags.Proofs.Table.Levels
import CompileFlags.Proofs.Table.Alignment
import CompileFlags.Proofs.Config.Decoding
import CompileFlags.Proofs.Config.Validation
import CompileFlags.Proofs.Shell.Unclosed
