import E2eeSecurity.Cipher
import E2eeSecurity.Client.Accepting
import E2eeSecurity.Client.AccountCache
import E2eeSecurity.Client.BundleLoops
import E2eeSecurity.Client.Bundles
import E2eeSecurity.Client.Conversation
import E2eeSecurity.Client.Copy
import E2eeSecurity.Client.DeviceKeys
import E2eeSecurity.Client.Devices
import E2eeSecurity.Client.Frames
import E2eeSecurity.Client.Groups
import E2eeSecurity.Client.Isolation
import E2eeSecurity.Client.Model
import E2eeSecurity.Client.Outbox
import E2eeSecurity.Client.OutboxRuns
import E2eeSecurity.Client.Owners
import E2eeSecurity.Client.Processing
import E2eeSecurity.Client.Receiving
import E2eeSecurity.Client.Registration
import E2eeSecurity.Client.Resending
import E2eeSecurity.Client.Sending
import E2eeSecurity.Client.Signed
import E2eeSecurity.Client.UserDevices
import E2eeSecurity.Crypto.Aes
import E2eeSecurity.Crypto.Base64
import E2eeSecurity.Crypto.File
import E2eeSecurity.Crypto.Hmac
import E2eeSecurity.Crypto.KeyDerivation
import E2eeSecurity.Crypto.Sha256
import E2eeSecurity.Crypto.Sha256Block
import E2eeSecurity.Group.Add
import E2eeSecurity.Group.Chains
import E2eeSecurity.Group.Create
import E2eeSecurity.Group.Delivery
import E2eeSecurity.Group.Exile
import E2eeSecurity.Group.Expulsion
import E2eeSecurity.Group.ForwardSecrecy
import E2eeSecurity.Group.Handlers
import E2eeSecurity.Group.InStep
import E2eeSecurity.Group.Info
import E2eeSecurity.Group.Join
import E2eeSecurity.Group.JoinOrder
import E2eeSecurity.Group.KeySchedule
import E2eeSecurity.Group.Members
import E2eeSecurity.Group.Messages
import E2eeSecurity.Group.Model
import E2eeSecurity.Group.NewDevice
import E2eeSecurity.Group.Newcomer
import E2eeSecurity.Group.Operations
import E2eeSecurity.Group.Order
import E2eeSecurity.Group.Outbound
import E2eeSecurity.Group.Owners
import E2eeSecurity.Group.Posts
import E2eeSecurity.Group.Recognition
import E2eeSecurity.Group.Redelivery
import E2eeSecurity.Group.Removal
import E2eeSecurity.Group.Renewal
import E2eeSecurity.Group.Rewind
import E2eeSecurity.Group.Secrets
import E2eeSecurity.Group.Sending
import E2eeSecurity.Group.Stored
import E2eeSecurity.Group.Sync
import E2eeSecurity.Group.Waiting
import E2eeSecurity.Library.Base64
import E2eeSecurity.Library.Blocks
import E2eeSecurity.Library.Deduction
import E2eeSecurity.Library.FreeTerm
import E2eeSecurity.Library.Gcm
import E2eeSecurity.Library.HashChain
import E2eeSecurity.Library.Heap
import E2eeSecurity.Library.Hkdf
import E2eeSecurity.Library.KeyLedger
import E2eeSecurity.Library.KeyedTable
import E2eeSecurity.Library.Lineage
import E2eeSecurity.Library.Run
import E2eeSecurity.Library.Sha2
import E2eeSecurity.Library.Slots
import E2eeSecurity.Library.TokenLedger
import E2eeSecurity.Library.Window
import E2eeSecurity.Net.Arrival
import E2eeSecurity.Net.Delivery
import E2eeSecurity.Net.Exhaustion
import E2eeSecurity.Net.Healing
import E2eeSecurity.Net.Lockstep
import E2eeSecurity.Net.Mailbox
import E2eeSecurity.Net.Model
import E2eeSecurity.Net.Repeats
import E2eeSecurity.Net.Secrecy
import E2eeSecurity.Ratchet.Acceptance
import E2eeSecurity.Ratchet.Calls
import E2eeSecurity.Ratchet.Commit
import E2eeSecurity.Ratchet.Failure
import E2eeSecurity.Ratchet.Header
import E2eeSecurity.Ratchet.KeyHistory
import E2eeSecurity.Ratchet.Keys
import E2eeSecurity.Ratchet.Operations
import E2eeSecurity.Ratchet.Outcome
import E2eeSecurity.Ratchet.Replay
import E2eeSecurity.Ratchet.Secrecy
import E2eeSecurity.Ratchet.SenderKeys
import E2eeSecurity.Ratchet.SkippedList
import E2eeSecurity.Ratchet.SkippedNames
import E2eeSecurity.Ratchet.State
import E2eeSecurity.Ratchet.Steps
import E2eeSecurity.Session.Account
import E2eeSecurity.Session.Agreement
import E2eeSecurity.Session.Bounds
import E2eeSecurity.Session.Fingerprint
import E2eeSecurity.Session.Handshake
import E2eeSecurity.Session.Inbound
import E2eeSecurity.Session.Insertion
import E2eeSecurity.Session.KeyRenewal
import E2eeSecurity.Session.Leftover
import E2eeSecurity.Session.Model
import E2eeSecurity.Session.OneTimeKeys
import E2eeSecurity.Symbolic
