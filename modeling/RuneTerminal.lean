import RuneTerminal.Agent.ProviderRuns
import RuneTerminal.AgentConversations.Agreement
import RuneTerminal.AgentConversations.ChatViews
import RuneTerminal.AgentPanel.Approval
import RuneTerminal.ApiClient.CutEvents
import RuneTerminal.Audit.Log
import RuneTerminal.Commander.ClonePairs
import RuneTerminal.Commander.Conflicts
import RuneTerminal.Commander.History
import RuneTerminal.Commander.Masks
import RuneTerminal.Commander.Paths
import RuneTerminal.Commander.RenamePreview
import RuneTerminal.Commander.RenameTemplate
import RuneTerminal.Commander.Restart
import RuneTerminal.Connections.Reimport
import RuneTerminal.Connections.SSHCommand
import RuneTerminal.Connections.SSHConfigLines
import RuneTerminal.Conversation.CliToolInputs
import RuneTerminal.Conversation.Loads
import RuneTerminal.Conversation.Orphans
import RuneTerminal.Conversation.Attachments
import RuneTerminal.Conversation.Pruning
import RuneTerminal.Conversation.Recency
import RuneTerminal.Conversation.Sessions
import RuneTerminal.Desktop.Ownership
import RuneTerminal.Execution.Service
import RuneTerminal.Files.Deletion
import RuneTerminal.Files.Preview
import RuneTerminal.Files.RemoteCommands
import RuneTerminal.Files.RemoteListing
import RuneTerminal.Files.Transfers
import RuneTerminal.McpServers.Host
import RuneTerminal.McpServers.Restart
import RuneTerminal.PluginInstall.Archive
import RuneTerminal.PluginInstall.ConcurrentInstalls
import RuneTerminal.Plugins.McpOutput
import RuneTerminal.Plugins.McpStops
import RuneTerminal.Policy.Store
import RuneTerminal.Policy.Soundness
import RuneTerminal.ProviderGateway.Truth
import RuneTerminal.Shell.WorkspaceRuns
import RuneTerminal.Tasks.DueTimes
import RuneTerminal.Tasks.Retry
import RuneTerminal.Terminal.CommandPlan
import RuneTerminal.Terminal.CommandTracking
import RuneTerminal.Terminal.Feeds
import RuneTerminal.Terminal.LastSession
import RuneTerminal.Terminal.Ownership
import RuneTerminal.Terminal.Text
import RuneTerminal.TerminalPreferences.Updates
import RuneTerminal.TerminalView.LoadRuns
import RuneTerminal.ToolRuntime.Safety
import RuneTerminal.Workspace.Durability
import RuneTerminal.Workspace.NoLostUpdate
import RuneTerminal.Workspace.Persistence
import RuneTerminal.Workspace.Repairs
import RuneTerminal.Workspace.TabMove
