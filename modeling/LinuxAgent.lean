import LinuxAgent.Lib.Runs
import LinuxAgent.Lib.Watch
import LinuxAgent.Lib.Pool
import LinuxAgent.Lib.Locks
import LinuxAgent.Lib.Text
import LinuxAgent.Lib.Fields
import LinuxAgent.Lib.Regex
import LinuxAgent.Lib.Mpsc
import LinuxAgent.Lib.Push
import LinuxAgent.Lib.Utf8
import LinuxAgent.Lib.Source
import LinuxAgent.IpJump.Daemon
import LinuxAgent.IpJump.Delivery
import LinuxAgent.IpJump.Host
import LinuxAgent.IpJump.Manager
import LinuxAgent.IpJump.ManagerSpec
import LinuxAgent.IpJump.Outcome
import LinuxAgent.IpJump.Operations
import LinuxAgent.IpJump.Target
import LinuxAgent.IpJump.Orphans
import LinuxAgent.IpJump.Rollback
import LinuxAgent.IpJump.Tasks
import LinuxAgent.IpJump.Ageing
import LinuxAgent.IpJump.Tokens
import LinuxAgent.IpJump.Reporting
import LinuxAgent.Pattern.Manager
import LinuxAgent.Pattern.Reload
import LinuxAgent.Pattern.Rendered
import LinuxAgent.Pattern.Linkage
import LinuxAgent.Pattern.Writes
import LinuxAgent.Pattern.Integrity
import LinuxAgent.Pattern.Trust
import LinuxAgent.Pattern.Resend
import LinuxAgent.ProcessMgr.Policy
import LinuxAgent.ProcessMgr.Mirror
import LinuxAgent.NetBlock.Policies
import LinuxAgent.NetBlock.Turns
import LinuxAgent.NetBlock.Consistency
import LinuxAgent.NetBlock.Lifting
import LinuxAgent.Login.Services
import LinuxAgent.Login.Baton
import LinuxAgent.Task.Config
import LinuxAgent.Task.Switches
import LinuxAgent.Task.Retry
import LinuxAgent.Task.Restarts
import LinuxAgent.Reporter.NetLog
import LinuxAgent.Reporter.InternalLog
import LinuxAgent.Docker.Monitor
import LinuxAgent.Docker.Table
import LinuxAgent.Docker.Shims
import LinuxAgent.Zcopy.Rings
import LinuxAgent.AgentCli.Protocol
import LinuxAgent.AgentCli.Download
import LinuxAgent.AgentCli.Upload
import LinuxAgent.AgentCli.Console
import LinuxAgent.AgentCli.Commands
import LinuxAgent.AgentCli.Server
import LinuxAgent.AgentCli.Selection
import LinuxAgent.AgentCli.Handshake
import LinuxAgent.AgentCli.StartClient
import LinuxAgent.Lib.Records
import LinuxAgent.Snapman.Snapshots
import LinuxAgent.Snapman.Backup
import LinuxAgent.Snapman.Restore
import LinuxAgent.Task.Upgrade
import LinuxAgent.Task.SshLogin
import LinuxAgent.Task.SshDelivery
import LinuxAgent.Task.ServerLists
import LinuxAgent.Task.ListsInForce
import LinuxAgent.Reporter.AlertLog
import LinuxAgent.Lib.Ini
import LinuxAgent.Config.NetInfo
import LinuxAgent.Config.Readers
import LinuxAgent.Config.CronTime
import LinuxAgent.Task.Periodic
import LinuxAgent.Controller.Egui
import LinuxAgent.Controller.Queue
import LinuxAgent.Controller.Cycle
import LinuxAgent.Controller.Qt
import LinuxAgent.Controller.Agreement
import LinuxAgent.HostInfo.NetApp
import LinuxAgent.HostInfo.Ports
import LinuxAgent.Task.UtmpChunks
import LinuxAgent.IpJump.SecondaryIps
import LinuxAgent.IpJump.Netplan
import LinuxAgent.IpJump.NetplanFile
import LinuxAgent.IpJump.NetplanSearch
import LinuxAgent.IpJump.NetplanFrame
import LinuxAgent.IpJump.Presence
import LinuxAgent.Pattern.ProcessManager
import LinuxAgent.Lib.FirstMin
import LinuxAgent.Pattern.TrustDirs
import LinuxAgent.Udisk.Lists
import LinuxAgent.Udisk.Sysfs
import LinuxAgent.KernelModule.Choice
import LinuxAgent.KernelModule.Loading
import LinuxAgent.KernelModule.Retry
import LinuxAgent.KernelEvent.Netlink
import LinuxAgent.ProcInfo.Process
import LinuxAgent.ProcInfo.Stat
import LinuxAgent.ProcInfo.StartTime
import LinuxAgent.HostInfo.SocketTable
import LinuxAgent.HostInfo.Services
import LinuxAgent.HostInfo.BusinessPorts
import LinuxAgent.ProcessMgr.Md5Cache
import LinuxAgent.Snapman.FreeSpace
import LinuxAgent.Lib.DoubleQuotes
import LinuxAgent.PwJump.Password
import LinuxAgent.Logging.Rotation
import LinuxAgent.Lib.Batches
import LinuxAgent.Task.ProcessDirs
import LinuxAgent.Lib.Json
import LinuxAgent.Reporter.Bodies
import LinuxAgent.Controller.Loop
import LinuxAgent.Task.Polling
import LinuxAgent.KernelEvent.Dispatch
import LinuxAgent.Udisk.Hotplug
import LinuxAgent.Lib.Buffered
import LinuxAgent.Task.Outreach
import LinuxAgent.Reporter.ProcessAudit
import LinuxAgent.Reporter.FileAudit
import LinuxAgent.AgentManager.Commands
import LinuxAgent.Task.UploadDir
import LinuxAgent.Task.Baselines
import LinuxAgent.Reporter.SelfProtect
import LinuxAgent.Main.SingleInstance
import LinuxAgent.Task.Backups
