import AeroAgent.RuntimeManager.Argv
import AeroAgent.Nerdctl.Grammar
import AeroAgent.Nerdctl.Semantics
import AeroAgent.RuntimeManager.ReadBack
import AeroAgent.Rust.Str
import AeroAgent.RuntimeManager.Output
import AeroAgent.RuntimeManager.CreateContainer
import AeroAgent.RuntimeManager.JsonLines
import AeroAgent.RuntimeManager.StreamLogs
import AeroAgent.SystemSetup.Host
import AeroAgent.SystemSetup.Provision
import AeroAgent.SystemSetup.Idempotence
import AeroAgent.SystemSetup.Plan
import AeroAgent.SystemSetup.Requirements
