import QuestFlow.Main
import QuestFlow.Proofs.Graph.Cycle
import QuestFlow.Proofs.Graph.Layers
import QuestFlow.Proofs.Graph.Rows
import QuestFlow.Proofs.Quest.Graph
import QuestFlow.Proofs.Rule.Silence
import QuestFlow.Proofs.Rule.Flow
import QuestFlow.Proofs.Rule.Reordering
import QuestFlow.Proofs.Document.Reading
import QuestFlow.Proofs.Quest.DocumentEdges
import QuestFlow.Proofs.Graph.Distance
import QuestFlow.Proofs.Rule.Journal
import QuestFlow.Proofs.Graph.Renaming
import QuestFlow.Proofs.Quest.Renaming
import QuestFlow.Proofs.Document.Record
import QuestFlow.Proofs.Quest.Records
import QuestFlow.Proofs.Rule.Renaming
import QuestFlow.Proofs.Quest.Writing
import QuestFlow.Proofs.Quest.Rereading
import QuestFlow.Proofs.Repository.Alike
import QuestFlow.Proofs.Repository.RoundTrip
import QuestFlow.Proofs.Graph.Gathering
import QuestFlow.Proofs.Repository.LoadOrder
import QuestFlow.Proofs.Files.Tree
import QuestFlow.Proofs.Log.Context
import QuestFlow.Proofs.Log.Entry
import QuestFlow.Proofs.Repository.CheckLog
import QuestFlow.Proofs.Files.Checking
import QuestFlow.Proofs.Repository.Answers
import QuestFlow.Proofs.Command.FrontEnds
import QuestFlow.Proofs.Files.WellFormed
import QuestFlow.Proofs.Text.Order
import QuestFlow.Proofs.Files.Growth
import QuestFlow.Proofs.Files.Directory
import QuestFlow.Proofs.Files.Changing
import QuestFlow.Proofs.Workspace
import QuestFlow.Proofs.Repository.Asking
import QuestFlow.Proofs.Settings
import QuestFlow.Proofs.Log.Session
import QuestFlow.Proofs.Log.Lines
import QuestFlow.Proofs.Graph.Nearest
import QuestFlow.Proofs.Graph.Leading
import QuestFlow.Proofs.Graph.Colors
import QuestFlow.Proofs.Quest.Identifier
import QuestFlow.Proofs.Rule.Incoming
import QuestFlow.Proofs.Quest.Payload
import QuestFlow.Proofs.Rule.References
import QuestFlow.Proofs.Repository.Sharing
import QuestFlow.Proofs.Rule.Catalog
import QuestFlow.Proofs.Rule.Edges
import QuestFlow.Proofs.Rule.Own
import QuestFlow.Proofs.Rule.Naming
import QuestFlow.Proofs.Repository.Growth
import QuestFlow.Proofs.Document.Faults
import QuestFlow.Proofs.Quest.NullsKept
import QuestFlow.Proofs.Quest.NodeType
import QuestFlow.Proofs.Repository.Lines
import QuestFlow.Proofs.Files.Catalogs
import QuestFlow.Proofs.Command.Printing
import QuestFlow.Proofs.Graph.Turning
