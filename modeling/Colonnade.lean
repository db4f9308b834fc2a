import Colonnade.Main
import Colonnade.Spec.Edit
import Colonnade.Proofs.Production.Growth
import Colonnade.Proofs.Production.Balance
import Colonnade.Proofs.Gltf.ReadBack
import Colonnade.Proofs.Gltf.Container
import Colonnade.Proofs.Gltf.Consistency
import Colonnade.Proofs.Mesh.Gather
import Colonnade.Proofs.Shape.Winding
import Colonnade.Proofs.Shape.Rotation
import Colonnade.Proofs.Spec.Policy
import Colonnade.Proofs.Spec.Delivery
import Colonnade.Proofs.Spec.Version
import Colonnade.Proofs.Inspection.Limit
import Colonnade.Proofs.Cli.Manifest
import Colonnade.Proofs.Turtle.Pruned
import Colonnade.Proofs.Turtle.Branch
import Colonnade.Proofs.Shape.Tube
import Colonnade.Proofs.Spec.Warnings
import Colonnade.Proofs.Spec.Shorthand
import Colonnade.Proofs.Spec.Acceptance
import Colonnade.Proofs.Spec.Failure
import Colonnade.Proofs.Inspection.Rendering
import Colonnade.Proofs.Inspection.Selection
import Colonnade.Proofs.Warning.CodeList
import Colonnade.Proofs.Spec.Normal
