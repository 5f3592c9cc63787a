import FlowGate.Main
import FlowGate.Proofs.Resume.ClaimInvariant
import FlowGate.Server.Start
import FlowGate.Proofs.Resume.AtMostOnce
import FlowGate.Proofs.Trigger.Contention
import FlowGate.Proofs.Server.WorkflowActions
import FlowGate.Proofs.Server.Exclusivity
import FlowGate.Proofs.Resume.Advertised
import FlowGate.Proofs.Resume.Gates
import FlowGate.Proofs.Resume.Methods
import FlowGate.Proofs.Text.Hex
import FlowGate.Proofs.Resume.IssuedUrl
import FlowGate.Proofs.Resume.SignedText
import FlowGate.Proofs.Server.Requests
import FlowGate.Proofs.Server.ChangeOrder
import FlowGate.Proofs.Server.Protection
import FlowGate.Proofs.Server.SeededActivation
import FlowGate.Proofs.Server.Answers
import FlowGate.Proofs.Server.TriggerChecks
import FlowGate.Proofs.Resume.Independence
import FlowGate.Proofs.Server.Atomicity
import FlowGate.Proofs.Server.Preflight
import FlowGate.Proofs.Execution.Rewritten
import FlowGate.Proofs.Server.ActivationVerdict
import FlowGate.Proofs.Trigger.Symmetry
import FlowGate.Proofs.Trigger.Narrowing
import FlowGate.Proofs.Resume.Refusals
import FlowGate.Proofs.Resume.Concealment
import FlowGate.Proofs.Resume.EffectiveHost
import FlowGate.Proofs.Trigger.Siblings
import FlowGate.Proofs.Resume.AcceptedTokens
import FlowGate.Proofs.Resume.Preparation
import FlowGate.Proofs.Resume.RunIndex
import FlowGate.Proofs.Resume.PathReadings
import FlowGate.Proofs.Server.NamedMethods
import FlowGate.Proofs.Cors.AllowList
import FlowGate.Proofs.Cors.HeaderSets
import FlowGate.Proofs.Server.RepeatedLines
import FlowGate.Proofs.Server.CatalogCalls
import FlowGate.Proofs.Store.Histories
import FlowGate.Proofs.Resume.BaseUrl
import FlowGate.Proofs.Trigger.KeyPaths
import FlowGate.Proofs.Http.Spellings
import FlowGate.Proofs.Text.HexSlices
import FlowGate.Proofs.Workflow.Conversion
