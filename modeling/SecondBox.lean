import SecondBox.WorkspaceStore.Rollback
import SecondBox.WorkspaceStore.Histories
import SecondBox.DataPlane.Cancel
import SecondBox.DataPlane.Quota
import SecondBox.Fleet.Bounded
import SecondBox.Fleet.Delivery
import SecondBox.NetworkPolicy.Dns
import SecondBox.NetworkPolicy.PinLife
import SecondBox.Runner.DirectServe
import SecondBox.RunnerControl.MessageWindow
import SecondBox.Runner.PtyServed
import SecondBox.Runner.RelocationFlow
import SecondBox.Leases.Exclusive
import SecondBox.Fleet.HomeRunner
import SecondBox.Lifecycle.Policy
import SecondBox.Lifecycle.Resources
import SecondBox.Lifecycle.SnapshotRetention
import SecondBox.Runner.ControlQueue
import SecondBox.Runner.Capacity
import SecondBox.Runner.DirectPortClosure
