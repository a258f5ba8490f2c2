import CheckedBuild.Machine.Prepared
import CheckedBuild.Main
import CheckedBuild.Program.Views
import CheckedBuild.Proofs.Build.Agreement
import CheckedBuild.Proofs.Build.Arguments
import CheckedBuild.Proofs.Build.CrossCheck
import CheckedBuild.Proofs.Build.Diagnostics
import CheckedBuild.Proofs.Build.Inspection
import CheckedBuild.Proofs.Build.Narrowing
import CheckedBuild.Proofs.Build.SourceAccess
import CheckedBuild.Proofs.Embedding.Confinement
import CheckedBuild.Proofs.Embedding.Docstrings
import CheckedBuild.Proofs.Embedding.Includes
import CheckedBuild.Proofs.Embedding.Relocation
import CheckedBuild.Proofs.Embedding.Sizes
import CheckedBuild.Proofs.Embedding.Termination
import CheckedBuild.Proofs.Embedding.Unpacked
import CheckedBuild.Proofs.Options.Prefixes
import CheckedBuild.Proofs.Options.RoundTrip
import CheckedBuild.Proofs.Path.Acceptance
import CheckedBuild.Proofs.Path.Mounts
import CheckedBuild.Proofs.Toolchain.Banners
import CheckedBuild.Proofs.Toolchain.SearchPaths
import CheckedBuild.Proofs.Wrapper.Monitor
