import SchemaTypes.Text.LetterCase
import SchemaTypes.Text.Quoted
import SchemaTypes.Schema.Containment
import SchemaTypes.Schema.Draft
import SchemaTypes.Elementary.Spelling
import SchemaTypes.Elementary.Kind
import SchemaTypes.Diagnostic.Explanation
import SchemaTypes.Diagnostic.Queue
import SchemaTypes.Resolution.Resolve
import SchemaTypes.Run
import SchemaTypes.Diagnostic.Emission
import SchemaTypes.FieldTable
import SchemaTypes.Json.Number
import SchemaTypes.Json.Text
import SchemaTypes.Document.Load
import SchemaTypes.Main
import SchemaTypes.Proofs.DraftCalls
import SchemaTypes.Proofs.LinkPath
import SchemaTypes.Proofs.WellFormed
import SchemaTypes.Proofs.TypeOwners
import SchemaTypes.Proofs.DraftFinish
import SchemaTypes.Proofs.OutwardWalk
import SchemaTypes.Proofs.ElementaryTarget
import SchemaTypes.Proofs.TypedefChain
import SchemaTypes.Proofs.MemoInvariant
import SchemaTypes.Proofs.MemoResolution
import SchemaTypes.Proofs.MemoHistory
import SchemaTypes.Proofs.Ancestry
import SchemaTypes.Proofs.FreshCheck
import SchemaTypes.Proofs.PartialMaps
import SchemaTypes.Proofs.PlaceOrder
import SchemaTypes.Proofs.QueueHistory
import SchemaTypes.Proofs.ErrorLimit
import SchemaTypes.Proofs.RuleCodes
import SchemaTypes.Proofs.RuleFindings
import SchemaTypes.Proofs.ReportFacts
import SchemaTypes.Proofs.RunHistory
import SchemaTypes.Proofs.Verdict
import SchemaTypes.Proofs.FailureReports
import SchemaTypes.Proofs.ReportingOrder
import SchemaTypes.Proofs.LengthSwitch
import SchemaTypes.Proofs.LoadedSafety
import SchemaTypes.Proofs.CircleReports
import SchemaTypes.Proofs.DraftHandles
import SchemaTypes.Proofs.Packages
import SchemaTypes.Proofs.LoadedSchema
import SchemaTypes.Proofs.Correspondence
import SchemaTypes.Proofs.DocumentMeaning
import SchemaTypes.Proofs.LoadOutcome
import SchemaTypes.Proofs.FirstPass
import SchemaTypes.Proofs.SecondPass
import SchemaTypes.Proofs.Acceptance
import SchemaTypes.Proofs.OwnBodies
import SchemaTypes.Proofs.FreshTable
import SchemaTypes.Proofs.Renumbering
import SchemaTypes.Proofs.RenumberedRuns
import SchemaTypes.Proofs.Reordering
import SchemaTypes.Proofs.ReorderedSchema
import SchemaTypes.Proofs.RunCalls
import SchemaTypes.Proofs.UnresolvedFields
import SchemaTypes.Proofs.AddedFailures
import SchemaTypes.Proofs.FaultyScalars
import SchemaTypes.Proofs.TargetDependence
import SchemaTypes.Proofs.DeclaredNames
import SchemaTypes.Proofs.DiagnosticDocuments
import SchemaTypes.Proofs.NameHistory
import SchemaTypes.Proofs.PrintedJson
import SchemaTypes.Proofs.OptionArguments
import SchemaTypes.Proofs.CommandOutcome
import SchemaTypes.Proofs.ExitStatus
import SchemaTypes.Proofs.ShownDiagnostics
import SchemaTypes.Proofs.ExplainedFailures
import SchemaTypes.Proofs.AttributeLevels
import SchemaTypes.Proofs.ValidatedTexts
import SchemaTypes.Proofs.RepeatedShadowing
import SchemaTypes.Proofs.JsonGrammar
import SchemaTypes.Proofs.SettledNumbers
import SchemaTypes.Proofs.GrammarReading
import SchemaTypes.Proofs.RecordMembers
import SchemaTypes.Proofs.AlikeDocuments
import SchemaTypes.Proofs.CaseMapping
import SchemaTypes.Proofs.FindingsByCode
import SchemaTypes.Proofs.SuggestedNames
import SchemaTypes.Proofs.DuplicateFields
import SchemaTypes.Proofs.ColoredOutput
import SchemaTypes.Proofs.CapitalizedNames
import SchemaTypes.Proofs.RespelledSchema
import SchemaTypes.Proofs.RespelledAnswers
import SchemaTypes.Proofs.BoxedTypes
import SchemaTypes.Proofs.AcceptedArguments
import SchemaTypes.Proofs.CanonicalNames
import SchemaTypes.Proofs.SuperclassChain
import SchemaTypes.Proofs.NestedCalls
