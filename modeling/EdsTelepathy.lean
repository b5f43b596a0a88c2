import EdsTelepathy.Lib.Table
import EdsTelepathy.Lib.Run
import EdsTelepathy.Lib.Word
import EdsTelepathy.Lib.Transaction
import EdsTelepathy.Lib.Join
import EdsTelepathy.Lib.Wishes
import EdsTelepathy.Types
import EdsTelepathy.Contact
import EdsTelepathy.Db
import EdsTelepathy.Sql
import EdsTelepathy.Cl.State
import EdsTelepathy.Cl.Members
import EdsTelepathy.Cl.Walk
import EdsTelepathy.Cl.Details
import EdsTelepathy.Cl.Step
import EdsTelepathy.Cl.Requests
import EdsTelepathy.Backend.State
import EdsTelepathy.Backend.Outbox
import EdsTelepathy.Backend.Signals
import EdsTelepathy.Backend.Requests
import EdsTelepathy.Backend.Sync
import EdsTelepathy.Backend.Step
import EdsTelepathy.Proof.Frame
import EdsTelepathy.Proof.Details
import EdsTelepathy.Proof.Calls
import EdsTelepathy.Proof.Token
import EdsTelepathy.Proof.Standing
import EdsTelepathy.Proof.Roster
import EdsTelepathy.Proof.Walk
import EdsTelepathy.Proof.Seen
import EdsTelepathy.Proof.Edits
import EdsTelepathy.Proof.Plain
import EdsTelepathy.Proof.Held
import EdsTelepathy.Proof.Agenda
import EdsTelepathy.Proof.Changes
import EdsTelepathy.Proof.Indexes
import EdsTelepathy.Proof.Rows
import EdsTelepathy.Proof.Sound
import EdsTelepathy.Proof.Cache
import EdsTelepathy.Proof.Queues
import EdsTelepathy.Proof.Stored
import EdsTelepathy.Proof.Sweep
import EdsTelepathy.Proof.Due
import EdsTelepathy.Proof.Gone
import EdsTelepathy.Proof.Atomic
import EdsTelepathy.Proof.FiniteMap
import EdsTelepathy.Proof.Posts
import EdsTelepathy.Proof.Told
import EdsTelepathy.Proof.Pending
import EdsTelepathy.Proof.Interrupted
import EdsTelepathy.Proof.Keyed
import EdsTelepathy.Proof.Flushed
import EdsTelepathy.Proof.Nested
import EdsTelepathy.Proof.Names
import EdsTelepathy.Proof.Merged
import EdsTelepathy.Proof.Handles
import EdsTelepathy.Proof.Reach
import EdsTelepathy.Proof.Connection
import EdsTelepathy.Proof.Copies
import EdsTelepathy.Proof.Relay
import EdsTelepathy.Proof.Reports
import EdsTelepathy.Proof.Wishes
import EdsTelepathy.Proof.Requested
import EdsTelepathy.Proof.Replay
import EdsTelepathy.Proof.Modified
import EdsTelepathy.Vcard
import EdsTelepathy.Proof.Vcard
import EdsTelepathy.Proof.Readded
import EdsTelepathy.Lib.Adjacent
import EdsTelepathy.Lib.Batch
import EdsTelepathy.Backend.Batch
import EdsTelepathy.Proof.Batch
import EdsTelepathy.Proof.Removal
import EdsTelepathy.Lib.Distinct
import EdsTelepathy.Proof.MasterUids
import EdsTelepathy.Proof.Stale
import EdsTelepathy.Proof.Passing
import EdsTelepathy.Proof.Mirror
import EdsTelepathy.Proof.Waiting
import EdsTelepathy.Proof.Asking
import EdsTelepathy.Proof.Recorded
import EdsTelepathy.Proof.Last
import EdsTelepathy.Proof.Leftover
import EdsTelepathy.Proof.Accepted
import EdsTelepathy.Lib.Cursor
import EdsTelepathy.Proof.Loader
import EdsTelepathy.Backend.Query
import EdsTelepathy.Proof.Query
import EdsTelepathy.Proof.Capabilities
import EdsTelepathy.Proof.Nameless
import EdsTelepathy.Lib.Path
import EdsTelepathy.Cleanup
import EdsTelepathy.Proof.Cleanup
import EdsTelepathy.Backend.Avatars
import EdsTelepathy.Proof.Avatars
import EdsTelepathy.Proof.Duplicate
import EdsTelepathy.Lib.Loop
import EdsTelepathy.Proof.FreshUid
import EdsTelepathy.Lib.Grouping
import EdsTelepathy.Cl.ContactInfo
import EdsTelepathy.Proof.ContactInfo
import EdsTelepathy.Open
import EdsTelepathy.Proof.Open
import EdsTelepathy.Lib.Rest
import EdsTelepathy.Proof.Rest
import EdsTelepathy.Backend.Answers
import EdsTelepathy.Proof.Answers
import EdsTelepathy.Proof.Outlives
import EdsTelepathy.Proof.Views
import EdsTelepathy.Lib.Sorted
import EdsTelepathy.Backend.Population
import EdsTelepathy.Proof.Population
import EdsTelepathy.Lib.Worklist
import EdsTelepathy.Proof.Quiet
import EdsTelepathy.Backend.Interrupted
import EdsTelepathy.Backend.Launch
import EdsTelepathy.Proof.Launch
import EdsTelepathy.Proof.Restart
import EdsTelepathy.Cl.Capabilities
import EdsTelepathy.Proof.Offers
import EdsTelepathy.Proof.Online
