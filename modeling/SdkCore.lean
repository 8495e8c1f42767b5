import SdkCore.Fsm.Machine
import SdkCore.Protos
import SdkCore.History.Event
import SdkCore.History.Update
import SdkCore.History.Chunking
import SdkCore.History.Paginator
import SdkCore.History.Sequences
import SdkCore.Steps
import SdkCore.Maps
import SdkCore.Machines.Basic
import SdkCore.Machines.Timer
import SdkCore.Machines.TimerRuns
import SdkCore.Machines.Activity
import SdkCore.Machines.ActivityRuns
import SdkCore.Machines.ChildWorkflow
import SdkCore.Machines.ChildWorkflowRuns
import SdkCore.Machines.ChildWorkflowResolves
import SdkCore.Machines.LocalActivity
import SdkCore.Machines.LocalActivityReplay
import SdkCore.Machines.LocalActivityRuns
import SdkCore.Activities.LocalActivities
import SdkCore.Activities.Heartbeat
import SdkCore.Abstractions.Permits
import SdkCore.Tuner.ResourceBased
import SdkCore.Abstractions.Closable
import SdkCore.Machines.Nexus
import SdkCore.Machines.NexusRuns
import SdkCore.Machines.Update
import SdkCore.Machines.UpdateRuns
import SdkCore.Activities.Bookkeeping
import SdkCore.Activities.HeartbeatRuns
import SdkCore.Workflow.Commands
import SdkCore.Workflow.BufferedTasks
import SdkCore.History.PaginatorRuns
import SdkCore.Codegen.PayloadVisitor
import SdkCore.Common.PayloadVisitor
import SdkCore.Time
import SdkCore.Worker.NexusTimeout
import SdkCore.RetryLogic
import SdkCore.InternalFlags
import SdkCore.Workflow.Rollback
import SdkCore.Sdk.WorkflowFuture
import SdkCore.Serde
import SdkCore.Common.EnvConfig
import SdkCore.Common.EnvConfigRoundTrip
