import RoomSearch.Diagnostics
import RoomSearch.Forms
import RoomSearch.ResultSet.Filter
import RoomSearch.Session.Report
import RoomSearch.Proofs.Buildable
import RoomSearch.Proofs.Cancellation
import RoomSearch.Proofs.Configurations
import RoomSearch.Proofs.Convergence
import RoomSearch.Proofs.Course
import RoomSearch.Proofs.Coverage
import RoomSearch.Proofs.Detachment
import RoomSearch.Proofs.FiniteMap
import RoomSearch.Proofs.FirstSearch
import RoomSearch.Proofs.Forms
import RoomSearch.Proofs.Frames
import RoomSearch.Proofs.Identity
import RoomSearch.Proofs.Independence
import RoomSearch.Proofs.Interleaving
import RoomSearch.Proofs.JoinedRooms
import RoomSearch.Proofs.Lowering
import RoomSearch.Proofs.Matching
import RoomSearch.Proofs.Readers
import RoomSearch.Proofs.Redelivery
import RoomSearch.Proofs.Removal
import RoomSearch.Proofs.Rereading
import RoomSearch.Proofs.Survival
import RoomSearch.Proofs.Tracking
import RoomSearch.Proofs.Session.Handover
