import NtpQuery.EventLog.Reader
import NtpQuery.Http
import NtpQuery.Loopback
import NtpQuery.Main
import NtpQuery.Service
import NtpQuery.Proofs.Exchange.Completeness
import NtpQuery.Proofs.Client.Answering
import NtpQuery.Proofs.Client.Separation
import NtpQuery.Proofs.Exchange.Noninterference
import NtpQuery.Proofs.Client.Duration
import NtpQuery.Proofs.Client.Offset
import NtpQuery.Proofs.Client.Report
import NtpQuery.Proofs.Client.TimeReport
import NtpQuery.Proofs.Client.Failing
import NtpQuery.Proofs.Client.Replay
import NtpQuery.Proofs.Client.Lifecycle
import NtpQuery.Proofs.Wire.Inverse
import NtpQuery.Proofs.Client.Transcript
import NtpQuery.Proofs.Client.FollowUp
import NtpQuery.Proofs.VariableList.Rendering
import NtpQuery.Proofs.CommandLine.Outcome
import NtpQuery.Proofs.Http.History
import NtpQuery.Proofs.Session.Resumption
import NtpQuery.Proofs.Correlator.Overlap
import NtpQuery.Proofs.TimeResult.Era
import NtpQuery.Proofs.Client.Peer
import NtpQuery.Proofs.Correlator.Verdict
import NtpQuery.Proofs.Correlator.Reply
import NtpQuery.Proofs.Binary64.Fixed
import NtpQuery.Proofs.TimeResult.Rendering
import NtpQuery.Proofs.Binary64.Nearest
import NtpQuery.Proofs.Metrics.Percentile
import NtpQuery.Proofs.Metrics.Window
import NtpQuery.Proofs.Responder.Endurance
import NtpQuery.Proofs.VariableList.Ending
import NtpQuery.Proofs.CommandLine.Acceptance
