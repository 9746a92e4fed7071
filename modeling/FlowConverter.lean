import FlowConverter.Json.Writer
import FlowConverter.Main
import FlowConverter.Workload.Commands
import FlowConverter.Workload.Writing
import FlowConverter.Proofs.Outcome
import FlowConverter.Proofs.CommandDomain
import FlowConverter.Proofs.Records
import FlowConverter.Proofs.Pipeline
import FlowConverter.Proofs.ToolDomain
import FlowConverter.Proofs.GeneratorCalls
import FlowConverter.Proofs.StepDefinitions
import FlowConverter.Proofs.Bounds
import FlowConverter.Proofs.Script
import FlowConverter.Proofs.ReaderScripts
import FlowConverter.Proofs.Inlining
import FlowConverter.Proofs.LocalFaults
import FlowConverter.Proofs.Places
import FlowConverter.Proofs.Circularity
import FlowConverter.Proofs.StartDirectory
import FlowConverter.Proofs.RecordShape
import FlowConverter.Proofs.Braces
import FlowConverter.Proofs.Deletion
import FlowConverter.Proofs.TaskBraces
import FlowConverter.Proofs.WorkflowBraces
import FlowConverter.Proofs.CallPatterns
import FlowConverter.Proofs.Delivery
import FlowConverter.Proofs.InputReferences
import FlowConverter.Proofs.CommandLayout
import FlowConverter.Proofs.AcceptedTypes
import FlowConverter.Proofs.RequirementLeaves
import FlowConverter.Proofs.WarningCount
import FlowConverter.Proofs.EnvironmentSettings
import FlowConverter.Proofs.RedirectedInput
import FlowConverter.Proofs.ToolBraces
import FlowConverter.Proofs.RuntimeSection
import FlowConverter.Proofs.PackedParts
import FlowConverter.Proofs.PartNames
import FlowConverter.Proofs.BasePlace
import FlowConverter.Proofs.DeclarationOrder
import FlowConverter.Proofs.FlagSeparation
import FlowConverter.Proofs.CallNames
import FlowConverter.Proofs.ScatterLayout
