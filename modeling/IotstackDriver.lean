import IotstackDriver.Utils.ListRuns
import IotstackDriver.Edge.Base64RoundTrip
import IotstackDriver.Edge.RequestCleanup
import IotstackDriver.Edge.Presence
import IotstackDriver.Edge.Removal
import IotstackDriver.Edge.Lifetime
import IotstackDriver.Edge.LocalDispatch
import IotstackDriver.Edge.NatsMessage
import IotstackDriver.Edge.Envelope
import IotstackDriver.Edge.Correlation
import IotstackDriver.Edge.Races
import IotstackDriver.Edge.RequestIds
import IotstackDriver.Edge.ReplyId
import IotstackDriver.Edge.ListedOnce
import IotstackDriver.Edge.LoginDelivery
import IotstackDriver.Edge.FailedCalls
import IotstackDriver.Edge.ReplyCode
import IotstackDriver.Edge.MemberChecks
import IotstackDriver.Edge.DecodeResult
import IotstackDriver.Edge.EncodedLength
import IotstackDriver.Edge.DecodedText
import IotstackDriver.Edge.TableAccess
import IotstackDriver.Edge.DecodedLength
import IotstackDriver.Support.Replace
import IotstackDriver.Edge.ReplaceStr
import IotstackDriver.Edge.LogUpload
import IotstackDriver.Edge.RrpcResponse
import IotstackDriver.Support.JsonText
import IotstackDriver.Edge.StatusText
import IotstackDriver.Edge.RequestTexts
import IotstackDriver.Utils.ListQueries
import IotstackDriver.Edge.BroadcastTopics
import IotstackDriver.Edge.MessageRelease
import IotstackDriver.Edge.Locking
import IotstackDriver.Edge.LockedSections
import IotstackDriver.Edge.LogText
import IotstackDriver.Edge.Disclosure
import IotstackDriver.Edge.ReplaceLoops
import IotstackDriver.Edge.DecodeRounds
import IotstackDriver.Edge.LockedRuns
import IotstackDriver.Edge.Subscriptions
import IotstackDriver.Edge.ListRefinement
import IotstackDriver.Edge.Session
import IotstackDriver.Edge.Announcements
import IotstackDriver.Edge.Attestation
