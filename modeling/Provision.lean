import Provision.Main
import Provision.Proofs.Agreement
import Provision.Proofs.Arguments
import Provision.Proofs.Chronicle
import Provision.Proofs.Closing
import Provision.Proofs.Declaration
import Provision.Proofs.Delivery
import Provision.Proofs.Discipline
import Provision.Proofs.Enrolment
import Provision.Proofs.ErrorIdentity
import Provision.Proofs.Evaluation
import Provision.Proofs.Forwarding
import Provision.Proofs.Handout
import Provision.Proofs.Isolation
import Provision.Proofs.Layers
import Provision.Proofs.Merging
import Provision.Proofs.Mirroring
import Provision.Proofs.Protocols
import Provision.Proofs.Recognition
import Provision.Proofs.Regrouping
import Provision.Proofs.Rehearsal
import Provision.Proofs.SharedCancellation
