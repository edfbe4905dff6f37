import ChatsEngine.Archive.Messages
import ChatsEngine.Archive.Resume
import ChatsEngine.Archive.Safety
import ChatsEngine.Archive.Service
import ChatsEngine.Dashboard.AlertLeftovers
import ChatsEngine.Dashboard.AlertSweeps
import ChatsEngine.Dashboard.AlertTransitions
import ChatsEngine.Dashboard.GoalBreaches
import ChatsEngine.Dashboard.MetricGoalAlerts
import ChatsEngine.Dashboard.MetricGoals
import ChatsEngine.Dashboard.ReportOutcomes
import ChatsEngine.Dashboard.ReportParts
import ChatsEngine.Dashboard.ReportRequests
import ChatsEngine.Dashboard.ReportResume
import ChatsEngine.Dashboard.ReportRooms
import ChatsEngine.Dashboard.ReportRoomsOnce
import ChatsEngine.Dashboard.ReportStatuses
import ChatsEngine.Dashboard.RoomMetrics
import ChatsEngine.Dashboard.RoomsDataCache
import ChatsEngine.Dashboard.TimeMetrics
import ChatsEngine.Dashboard.WaitingTime
import ChatsEngine.Foundation.Action
import ChatsEngine.Foundation.Agenda
import ChatsEngine.Foundation.Grants
import ChatsEngine.Foundation.Machine
import ChatsEngine.Foundation.NumberedParts
import ChatsEngine.Foundation.Pool
import ChatsEngine.Foundation.Queries
import ChatsEngine.Foundation.ReadThrough
import ChatsEngine.Foundation.Record
import ChatsEngine.Foundation.TtlCache
import ChatsEngine.Foundation.TtlStore
import ChatsEngine.Foundation.UrlText
import ChatsEngine.Foundation.Versions
import ChatsEngine.Messages.BulkProgress
import ChatsEngine.Messages.BulkSend
import ChatsEngine.Messages.BulkSendPreview
import ChatsEngine.Messages.CreateAgentMessage
import ChatsEngine.Projects.Statuses
import ChatsEngine.Queues.AvailableAgents
import ChatsEngine.Queues.Capacity
import ChatsEngine.Queues.Database
import ChatsEngine.Queues.FirstInFirstOut
import ChatsEngine.Queues.RouteLock
import ChatsEngine.Queues.RouteRetry
import ChatsEngine.Queues.RouteTasks
import ChatsEngine.Queues.Router
import ChatsEngine.Queues.SectorRouting
import ChatsEngine.Queues.TransferredRooms
import ChatsEngine.QuickMessages.ListCache
import ChatsEngine.QuickMessages.Lists
import ChatsEngine.Rooms.ChangeTicketer
import ChatsEngine.Rooms.ClosedRooms
import ChatsEngine.Rooms.ExternalCreation
import ChatsEngine.Rooms.InService
import ChatsEngine.Rooms.InServiceExact
import ChatsEngine.Rooms.Inactivity
import ChatsEngine.Rooms.InactivityReplies
import ChatsEngine.Rooms.InactivityTimeout
import ChatsEngine.Rooms.LostUpdates
import ChatsEngine.Rooms.OneOpenRoom
import ChatsEngine.Rooms.Operations
import ChatsEngine.Rooms.Pins
import ChatsEngine.Rooms.PinsHeld
import ChatsEngine.Rooms.QueueLimit
import ChatsEngine.Rooms.RepliesApart
import ChatsEngine.Rooms.Room
import ChatsEngine.Rooms.TakenRooms
import ChatsEngine.Rooms.TransferOutcomes
import ChatsEngine.Rooms.Transfers
import ChatsEngine.Sectors.GroupAuthorizations
import ChatsEngine.Sectors.HolidayCache
import ChatsEngine.Sectors.WorkingHours
import ChatsEngine.Rooms.TransferHistory
import ChatsEngine.Rooms.BulkReports
import ChatsEngine.Rooms.ClosedAlike
import ChatsEngine.Queues.AgentChoice
import ChatsEngine.Foundation.Alone
import ChatsEngine.Queues.FreePlaces
import ChatsEngine.Queues.FreePlacesUsed
import ChatsEngine.Rooms.RoomUser
import ChatsEngine.Messages.BulkSendRoom
import ChatsEngine.AiFeatures.HistorySummaries
import ChatsEngine.AiFeatures.SummariesKept
import ChatsEngine.Sectors.AutomaticMessages
import ChatsEngine.Sectors.AutomaticMessagesOnce
import ChatsEngine.Websockets.AgentConsumer
import ChatsEngine.Websockets.AgentGroups
import ChatsEngine.Websockets.Presence
import ChatsEngine.Websockets.PresenceAlone
import ChatsEngine.Foundation.OffsetPages
import ChatsEngine.Rooms.PinnedLists
import ChatsEngine.Rooms.PinnedListsAlike
import ChatsEngine.Dashboard.LongestViolations
import ChatsEngine.Dashboard.ResponseTime
import ChatsEngine.Rooms.LastMessages
import ChatsEngine.Core.Phone
import ChatsEngine.Foundation.Base64
import ChatsEngine.Foundation.Search
import ChatsEngine.Foundation.Sparing
import ChatsEngine.Messages.Wamid
import ChatsEngine.Sectors.HolidayHours
import ChatsEngine.Foundation.Groups
import ChatsEngine.Messages.StatusUpdates
import ChatsEngine.Rooms.RoomsReport
import ChatsEngine.Queues.BulkQueueCreation
import ChatsEngine.Projects.StatusLog
import ChatsEngine.Foundation.JsonText
import ChatsEngine.Foundation.JsonWriter
import ChatsEngine.Foundation.JsonReader
import ChatsEngine.Foundation.JsonRoundTrip
import ChatsEngine.Projects.StatusTypeLimit
import ChatsEngine.Websockets.AgentEvents
import ChatsEngine.Rooms.RoomExport
import ChatsEngine.Discussions.CreateDiscussion
import ChatsEngine.Rooms.RequeuedRooms
import ChatsEngine.Accounts.CachedUsers
import ChatsEngine.Accounts.UserLookups
import ChatsEngine.EventDriven.Consumers
import ChatsEngine.Foundation.Switches
import ChatsEngine.Projects.LastWrittenAccess
import ChatsEngine.Projects.OnlineTime
import ChatsEngine.Projects.RemovedAuthorizations
import ChatsEngine.AiFeatures.AudioTranscriptions
import ChatsEngine.AiFeatures.TranscriptionCustody
import ChatsEngine.AiFeatures.TranscriptionsAttended
import ChatsEngine.AiFeatures.TranscriptionsKept
import ChatsEngine.Archive.Dispatches
import ChatsEngine.Csat.CompletedSurveys
import ChatsEngine.Rooms.RoomAccess
