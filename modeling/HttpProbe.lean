import HttpProbe.Main
import HttpProbe.Responder.Lifecycle
import HttpProbe.Proofs.QuietCalls
import HttpProbe.Proofs.Utf8Reading
import HttpProbe.Proofs.LineReceptions
import HttpProbe.Proofs.SocketRuns
import HttpProbe.Proofs.OctetConservation
import HttpProbe.Proofs.Lines
import HttpProbe.Proofs.CallSequences
import HttpProbe.Proofs.Connecting
import HttpProbe.Proofs.Exchange
import HttpProbe.Proofs.CheckCalls
import HttpProbe.Proofs.CheckVerdict
import HttpProbe.Proofs.StatusLineGrammar
import HttpProbe.Proofs.ClosedMeanwhile
import HttpProbe.Proofs.StatusLineReading
import HttpProbe.Proofs.Starting
import HttpProbe.Proofs.Accepting
import HttpProbe.Proofs.Lifetime
import HttpProbe.Proofs.SessionSteps
import HttpProbe.Proofs.Visits
import HttpProbe.Proofs.ClosedOnce
import HttpProbe.Proofs.VisitDiscipline
import HttpProbe.Proofs.RequestLine
import HttpProbe.Proofs.RequestRecord
import HttpProbe.Proofs.AcceptRounds
import HttpProbe.Proofs.AcceptReference
import HttpProbe.Proofs.StatusLineRoundTrip
import HttpProbe.Proofs.ErrorTranslation
import HttpProbe.Proofs.OneReception
import HttpProbe.Proofs.RequestFraming
import HttpProbe.Proofs.ResponseFraming
import HttpProbe.Proofs.LinesBothWays
import HttpProbe.Proofs.StatusLineAcceptance
import HttpProbe.Proofs.ExitNumber
import HttpProbe.Proofs.OptionSpelling
import HttpProbe.Proofs.SettingPrecedence
import HttpProbe.Proofs.RequestReceptions
import HttpProbe.Proofs.BlankLines
import HttpProbe.Proofs.CutIndependence
import HttpProbe.Proofs.RequestDistinction
import HttpProbe.Proofs.TargetEscaping
import HttpProbe.Proofs.UsableTimeouts
import HttpProbe.Proofs.EnvironmentOverridden
import HttpProbe.Proofs.Announcing
import HttpProbe.Proofs.EndlessPeers
