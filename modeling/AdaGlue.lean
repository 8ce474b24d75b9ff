import AdaGlue.Ada.Names
import AdaGlue.Callers
import AdaGlue.CommandLine.Outcome
import AdaGlue.Commit
import AdaGlue.Config
import AdaGlue.Diagnostic
import AdaGlue.Disk.Tree
import AdaGlue.Generation
import AdaGlue.Main
import AdaGlue.Proofs.Callers
import AdaGlue.Proofs.Commit.Convergence
import AdaGlue.Proofs.Generation.Locality
import AdaGlue.Proofs.Wrappers.Contents
import AdaGlue.Route
import AdaGlue.Run
import AdaGlue.Skeletons
import AdaGlue.View.Document
import AdaGlue.Wrappers
import AdaGlue.Proofs.Wrappers.Dispatch
import AdaGlue.Proofs.Wrappers.Linking
import AdaGlue.Proofs.Json.Reading
import AdaGlue.Proofs.Json.Decoding
import AdaGlue.Proofs.View.RoundTrip
import AdaGlue.Proofs.Wrappers.Packages
import AdaGlue.Proofs.Wrappers.Accessors
import AdaGlue.Proofs.Wrappers.Relays
import AdaGlue.Proofs.Disk.Looking
import AdaGlue.Proofs.CommandLine.Effects
import AdaGlue.Proofs.Wrappers.Imports
import AdaGlue.Proofs.Skeletons.Contents
import AdaGlue.Proofs.Skeletons.Packages
import AdaGlue.Proofs.Skeletons.Imports
import AdaGlue.Proofs.Generation.LinkSymbols
import AdaGlue.Proofs.Disk.Confinement
import AdaGlue.Proofs.View.FirstFault
import AdaGlue.Proofs.Route.Table
import AdaGlue.Proofs.Route.Decisions
import AdaGlue.Proofs.Generation.Warnings
import AdaGlue.Proofs.Commit.Prediction
import AdaGlue.Proofs.Emission.Script
import AdaGlue.Proofs.Wrappers.Strict
import AdaGlue.Proofs.Wrappers.Entries
import AdaGlue.Proofs.Diagnostic
import AdaGlue.Proofs.Wrappers.Branches
import AdaGlue.Proofs.Wrappers.Buffers
import AdaGlue.Proofs.Commit.Leftovers
import AdaGlue.Proofs.Wrappers.Balance
