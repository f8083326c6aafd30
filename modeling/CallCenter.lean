import CallCenter.FlowAuthority
import CallCenter.FlowSchemaRuns
import CallCenter.FlowEntries
import CallCenter.FlowEvidence
import CallCenter.EffectEvidence
import CallCenter.MissionAuthority
import CallCenter.MissionSaga
import CallCenter.ConversationTampering
import CallCenter.ConversationDeliveries
import CallCenter.DeferredResults
import CallCenter.ConversationIsolation
import CallCenter.ConversationContexts
import CallCenter.ProgramWorkers
import CallCenter.ProgramRevocation
import CallCenter.ProgramCompletion
import CallCenter.AudibilityVerdicts
import CallCenter.EffectDispatches
import CallCenter.ContinuationTokens
import CallCenter.AuthorityOutcomes
import CallCenter.BridgeCatalog
import CallCenter.SessionAcknowledgements
import CallCenter.SmsSegments
import CallCenter.CanonicalForms
