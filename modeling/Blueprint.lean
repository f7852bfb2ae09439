import Blueprint.Main
import Blueprint.Proofs.Artifacts.FieldNames
import Blueprint.Proofs.Artifacts.Files
import Blueprint.Proofs.Artifacts.Inheritance
import Blueprint.Proofs.Artifacts.Labels
import Blueprint.Proofs.Artifacts.Notes
import Blueprint.Proofs.Artifacts.Order
import Blueprint.Proofs.Declaration.Parameters
import Blueprint.Proofs.Declaration.Rejections
import Blueprint.Proofs.Outline
import Blueprint.Proofs.Session.Integrity
import Blueprint.Proofs.Session.Reading
import Blueprint.Proofs.Skeleton.Constructor
import Blueprint.Proofs.Declaration.Seams
import Blueprint.Proofs.Schema.Plan
import Blueprint.Proofs.Skeleton.Treatment
import Blueprint.Proofs.Artifacts.Multiplicity
import Blueprint.Proofs.Skeleton.Dangling
import Blueprint.Proofs.Skeleton.Surroundings
import Blueprint.Proofs.Session.Writing
import Blueprint.Proofs.Model.NodeIds
import Blueprint.Proofs.Schema.Rendering
import Blueprint.Proofs.Schema.Text
