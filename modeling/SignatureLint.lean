import SignatureLint.Main
import SignatureLint.Proofs.Analysis.Disabling
import SignatureLint.Proofs.Analysis.Styles
import SignatureLint.Proofs.Command.Agreement
import SignatureLint.Proofs.Command.Columns
import SignatureLint.Proofs.Command.Logging
import SignatureLint.Proofs.Config.Reporting
import SignatureLint.Proofs.Edit.Conservation
import SignatureLint.Proofs.Edit.Substitution
import SignatureLint.Proofs.FileTree.Recollecting
import SignatureLint.Proofs.Fixing.Rounds
import SignatureLint.Proofs.Manifest.Rearranged
import SignatureLint.Proofs.Manifest.Refusals
import SignatureLint.Proofs.Manifest.Spans
import SignatureLint.Proofs.Outline.DefaultOrder
import SignatureLint.Proofs.Outline.Nodes
import SignatureLint.Proofs.TypeRef.Alternatives
import SignatureLint.Proofs.TypeRef.FunctionTypes
import SignatureLint.Proofs.TypeRef.Layers
import SignatureLint.Proofs.TypeRef.Recommended
import SignatureLint.Proofs.TypeRef.Shared
