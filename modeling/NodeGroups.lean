import NodeGroups.Proofs.Absences
import NodeGroups.Proofs.Assembly
import NodeGroups.Proofs.Compensation
import NodeGroups.Proofs.DeployFailure
import NodeGroups.Proofs.Durations
import NodeGroups.Proofs.Endpoints
import NodeGroups.Proofs.Growth
import NodeGroups.Proofs.Healing
import NodeGroups.Proofs.Labels
import NodeGroups.Proofs.Listings
import NodeGroups.Proofs.MapParameters
import NodeGroups.Proofs.Membership
import NodeGroups.Proofs.Names
import NodeGroups.Proofs.Networks
import NodeGroups.Proofs.Providers
import NodeGroups.Proofs.Removals
import NodeGroups.Proofs.Replies
import NodeGroups.Proofs.Selectors
import NodeGroups.Proofs.Templates
import NodeGroups.Proofs.Waits
import NodeGroups.Proofs.WireRecords
import NodeGroups.Simulation.Backend
