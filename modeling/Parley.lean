import Parley.Client.ChatClient
import Parley.Client.ModelClient
import Parley.Model.Form
import Parley.Model.Script
import Parley.Server.Router
import Parley.Server.Setup
import Parley.Proofs.Reply.Grammar
import Parley.Proofs.Reply.Decoding
import Parley.Proofs.Reply.Relay
import Parley.Proofs.Chat.Content
import Parley.Proofs.Server.World
import Parley.Proofs.Server.Session
import Parley.Proofs.Model.Stream
import Parley.Proofs.Server.Reading
import Parley.Proofs.Server.Relay
import Parley.Proofs.Server.Seen
import Parley.Proofs.Server.Drop
import Parley.Proofs.Task.Log
import Parley.Proofs.Agent.Execution
import Parley.Proofs.Server.Model
import Parley.Proofs.Agent.Names
import Parley.Proofs.Chat.Calls
import Parley.Proofs.Server.Handling
import Parley.Proofs.Server.Calls
import Parley.Proofs.Server.Sending
import Parley.Proofs.Server.Posting
import Parley.Proofs.Server.Serving
import Parley.Proofs.Chat.Rounds
import Parley.Proofs.Server.Lapse
import Parley.Proofs.Server.Answers
import Parley.Proofs.Server.Books
import Parley.Proofs.Server.Accounts
import Parley.Proofs.Server.Answering
import Parley.Proofs.Server.Saving
import Parley.Proofs.Server.Accounting
import Parley.Proofs.Server.History
import Parley.Proofs.Agent.WellFormed
import Parley.Proofs.Agent.Earlier
import Parley.Proofs.Store.Vault
import Parley.Proofs.Chat.Effects
import Parley.Proofs.Chat.History
import Parley.Proofs.Text.Digits
import Parley.Proofs.Time.Calendar
import Parley.Proofs.Time.Text
import Parley.Proofs.Json.Printed
import Parley.Proofs.Json.Records
import Parley.Proofs.Chat.Form
import Parley.Proofs.Agent.Form
import Parley.Proofs.Store.Attempts
import Parley.Proofs.Store.Durable
import Parley.Proofs.Agent.Saved
import Parley.Proofs.Agent.Stamped
import Parley.Proofs.Server.Protocol
import Parley.Proofs.Server.Staffing
import Parley.Proofs.Server.Agents
import Parley.Proofs.Task.Likeness
import Parley.Proofs.Server.Discretion
import Parley.Proofs.Server.Likeness
import Parley.Proofs.Server.Secrecy
import Parley.Proofs.Chat.Desk
import Parley.Proofs.Chat.Calling
import Parley.Proofs.Server.Drafting
import Parley.Proofs.Reply.Closing
import Parley.Proofs.Server.Flight
import Parley.Proofs.Server.Flights
import Parley.Proofs.Server.Alone
import Parley.Proofs.Server.Undisturbed
import Parley.Proofs.Agent.Template
import Parley.Proofs.Server.Plain
import Parley.Proofs.Http.Form
import Parley.Proofs.Client.Agreement
import Parley.Proofs.Agent.References
import Parley.Proofs.Agent.Single
import Parley.Proofs.Server.Deadline
import Parley.Proofs.Model.Events
import Parley.Proofs.Client.Events
import Parley.Proofs.Turn.Calls
import Parley.Proofs.Reply.Faults
import Parley.Proofs.Reply.Rejected
import Parley.Proofs.Reply.Pending
import Parley.Proofs.Text.Lossy
import Parley.Proofs.Model.Lossy
import Parley.Proofs.Server.Setup
