import Helpdesk.Library.Run
import Helpdesk.Library.Outcome
import Helpdesk.Library.Timeline
import Helpdesk.Auth.Reuse
import Helpdesk.Tickets.Classification
import Helpdesk.Sla.Spec
import Helpdesk.Auth.Service
import Helpdesk.Sla.BusinessHours
import Helpdesk.Sla.DueAt
import Helpdesk.Chat.Tools
import Helpdesk.Library.Weakest
import Helpdesk.Tickets.Closing
import Helpdesk.Tickets.Taxonomy
import Helpdesk.Knowledge.Chunking
import Helpdesk.Knowledge.Service
import Helpdesk.Knowledge.Index
import Helpdesk.Chat.Service
import Helpdesk.Library.ToolProtocol
import Helpdesk.Chat.History
import Helpdesk.Email.Ingestion
import Helpdesk.Email.Reply
import Helpdesk.Library.AtMostOnce
import Helpdesk.Email.System
import Helpdesk.Email.Threads
import Helpdesk.Email.Delivery
import Helpdesk.Email.Replay
import Helpdesk.Chat.Visibility
import Helpdesk.Email.Conversation
import Helpdesk.Tickets.Classifier
import Helpdesk.Tickets.Catalog
import Helpdesk.Tickets.Isolation
import Helpdesk.Tickets.Serial
import Helpdesk.Library.Overlay
import Helpdesk.Sla.Monitor
import Helpdesk.Sla.ExactlyOnce
import Helpdesk.Library.Effect
import Helpdesk.WhatsApp.Payload
import Helpdesk.Chat.Sessions
import Helpdesk.WhatsApp.Ingestion
import Helpdesk.Library.UnitOfWork
import Helpdesk.WhatsApp.Webhook
import Helpdesk.Channels.Effects
import Helpdesk.Auth.Accounts
import Helpdesk.Auth.Effects
import Helpdesk.Auth.Families
import Helpdesk.Auth.Invites
import Helpdesk.Email.Verify
import Helpdesk.Knowledge.Suggestions
import Helpdesk.Knowledge.Freshness
import Helpdesk.Tickets.SlaParity
import Helpdesk.WhatsApp.Effects
import Helpdesk.WhatsApp.Attribution
import Helpdesk.Chat.Turn
import Helpdesk.Channels.Parties
import Helpdesk.Channels.Ownership
import Helpdesk.Traffic.Work
import Helpdesk.WhatsApp.Replies
import Helpdesk.Library.Interleaving
import Helpdesk.Traffic.System
import Helpdesk.Traffic.Steps
import Helpdesk.Traffic.HandOff
import Helpdesk.Traffic.Bookkeeping
import Helpdesk.Traffic.Answers
import Helpdesk.Sla.Capacity
import Helpdesk.Sla.Grammar
import Helpdesk.Email.Subjects
import Helpdesk.Tickets.Storable
import Helpdesk.Chat.Completion
import Helpdesk.WhatsApp.Batch
import Helpdesk.Chat.Order
import Helpdesk.Tickets.Resolutions
import Helpdesk.Core.ScopedRepository
import Helpdesk.Chat.RateLimit
import Helpdesk.Analytics.Days
import Helpdesk.Analytics.Overview
import Helpdesk.Analytics.Rates
import Helpdesk.Chat.Streak
import Helpdesk.Chat.Acts
import Helpdesk.Knowledge.Tokens
import Helpdesk.Knowledge.Preservation
import Helpdesk.Knowledge.Budget
import Helpdesk.Sla.RealTime
import Helpdesk.Analytics.Rollup
import Helpdesk.Tickets.Views
import Helpdesk.Chat.Progress
import Helpdesk.Traffic.Escalations
import Helpdesk.Traffic.SerialTurns
import Helpdesk.Analytics.Trends
import Helpdesk.Directory.Service
import Helpdesk.Library.Parts
import Helpdesk.Library.Projection
import Helpdesk.Tenancy.Requests
import Helpdesk.Tenancy.Part
import Helpdesk.Tenancy.Attached
import Helpdesk.Tenancy.Writes
import Helpdesk.Tenancy.Services
import Helpdesk.Tenancy.Locality
import Helpdesk.Tenancy.Serving
import Helpdesk.Tenancy.Apart
import Helpdesk.Tenancy.Roles
import Helpdesk.Sla.DueInOrder
import Helpdesk.Analytics.Conversations
import Helpdesk.Traffic.Stamps
