import LightBridge.Color.Stored
import LightBridge.Light.Described
import LightBridge.Light.Sets
import LightBridge.Main
import LightBridge.Proofs.Bridge.Reconnecting
import LightBridge.Proofs.Document.RoundTrip
import LightBridge.Proofs.Rig.Convergence
import LightBridge.Proofs.Rig.Tearing
import LightBridge.Proofs.Rig.Handover
import LightBridge.Proofs.Rig.Inert
import LightBridge.Proofs.Rig.Readiness
import LightBridge.Proofs.Rig.Releasing
import LightBridge.Proofs.Session.LifeCycle
import LightBridge.Session.Rehearsal
import LightBridge.Proofs.Session.Stopping
import LightBridge.Proofs.Rig.Histories
import LightBridge.Proofs.Rig.LateEnds
import LightBridge.Proofs.Rig.Delivering
import LightBridge.Proofs.Gamut.Plane
import LightBridge.Proofs.Gamut.Clipping
import LightBridge.Proofs.Session.Runs
import LightBridge.Proofs.Session.Retries
import LightBridge.Proofs.Session.Attempts
import LightBridge.Proofs.Light.Stores
import LightBridge.Proofs.Session.Sequence
import LightBridge.Proofs.Light.Brightness
import LightBridge.Proofs.Light.GivingBack
import LightBridge.Proofs.Rig.Locality
import LightBridge.Proofs.Rig.TakingOver
import LightBridge.Proofs.History
import LightBridge.Proofs.Inventory
import LightBridge.Proofs.Light.Commanding
import LightBridge.Proofs.Color.Mapping
import LightBridge.Proofs.Endpoint
import LightBridge.Proofs.Color.Parsing
import LightBridge.Proofs.Light.Changes
import LightBridge.Proofs.Light.Ownership
