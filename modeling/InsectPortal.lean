import InsectPortal.Account
import InsectPortal.Call
import InsectPortal.Console.Basic
import InsectPortal.Console.Command
import InsectPortal.Console.Launch
import InsectPortal.Failure
import InsectPortal.Http.Client
import InsectPortal.Http.Endpoint
import InsectPortal.Http.Header
import InsectPortal.Http.Request
import InsectPortal.Http.Response
import InsectPortal.Http.Wire
import InsectPortal.Inbox
import InsectPortal.Json.Basic
import InsectPortal.Json.Numeral
import InsectPortal.Json.Record
import InsectPortal.Json.Text
import InsectPortal.Json.Token
import InsectPortal.Keyring
import InsectPortal.Keyring.Outline
import InsectPortal.Listing
import InsectPortal.Main
import InsectPortal.Operation
import InsectPortal.Portal
import InsectPortal.Proofs.Answer
import InsectPortal.Proofs.Credential
import InsectPortal.Proofs.Navigation
import InsectPortal.Proofs.RacingSignIns
import InsectPortal.Proofs.RoleProvenance
import InsectPortal.Proofs.Run
import InsectPortal.Proofs.SessionBoundary
import InsectPortal.Proofs.SessionEnd
import InsectPortal.Proofs.SessionHistory
import InsectPortal.Proofs.SessionInvariant
import InsectPortal.Proofs.Turn
import InsectPortal.Proofs.TurnEffect
import InsectPortal.Proofs.WorldStep
import InsectPortal.Record
import InsectPortal.Role
import InsectPortal.Section
import InsectPortal.Session
import InsectPortal.Settings
import InsectPortal.Storage.Disk
import InsectPortal.Storage.Items
import InsectPortal.Storage.Path
import InsectPortal.Storage.SessionFile
import InsectPortal.Text.Blank
import InsectPortal.Text.Charset
import InsectPortal.Text.Digits
import InsectPortal.Text.Printable
import InsectPortal.Unicode.Composition
import InsectPortal.Unicode.Property
import InsectPortal.Url.Address
import InsectPortal.Url.Basic
import InsectPortal.Url.DomainName
import InsectPortal.Url.Host
import InsectPortal.Url.NameChar
import InsectPortal.Url.Percent
import InsectPortal.Url.Punycode
import InsectPortal.Url.Reading
import InsectPortal.World
import InsectPortal.Proofs.Admission
import InsectPortal.Proofs.LookupFlag
import InsectPortal.Proofs.RoleLookup
import InsectPortal.Proofs.JsonText
import InsectPortal.Proofs.StoredItems
import InsectPortal.Proofs.PathName
import InsectPortal.Proofs.SessionJournal
import InsectPortal.Proofs.DiskPlace
import InsectPortal.Proofs.CrashSafety
import InsectPortal.Proofs.ActorName
import InsectPortal.Proofs.TokenField
import InsectPortal.Proofs.TokenOnWire
import InsectPortal.Proofs.ClientReply
import InsectPortal.Proofs.SendableToken
import InsectPortal.Proofs.UnauthorizedStatus
import InsectPortal.Proofs.UserAddress
import InsectPortal.Proofs.BoundaryNotice
import InsectPortal.Proofs.JsonNumeral
import InsectPortal.Proofs.JsonValue
import InsectPortal.Proofs.WireFormat
import InsectPortal.Proofs.InputRule
import InsectPortal.Proofs.CheckedCall
import InsectPortal.Proofs.RequestBody
import InsectPortal.Proofs.Reload
import InsectPortal.Proofs.JsonReading
import InsectPortal.Proofs.StringLiteral
import InsectPortal.Proofs.RoleName
import InsectPortal.Proofs.MemoryView
import InsectPortal.Proofs.FileTree
import InsectPortal.Proofs.WriteFrame
import InsectPortal.Proofs.FailureNotice
import InsectPortal.Proofs.StatusRule
import InsectPortal.Proofs.FlagPrecedence
import InsectPortal.Proofs.NumericHost
import InsectPortal.Proofs.Ascii
import InsectPortal.Proofs.DomainName
import InsectPortal.Proofs.HostName
import InsectPortal.Proofs.PathReading
import InsectPortal.Proofs.CanonicalAddress
import InsectPortal.Proofs.QueryField
import InsectPortal.Proofs.JsonGrammar
import InsectPortal.Proofs.ServerRecord
import InsectPortal.Proofs.Count
import InsectPortal.Proofs.Sitting
import InsectPortal.Proofs.FeedbackReview
import InsectPortal.Proofs.SessionListing
