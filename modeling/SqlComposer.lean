import SqlComposer.Proofs.AbsentCriteria
import SqlComposer.Proofs.AbsentValues
import SqlComposer.Proofs.BatchRuns
import SqlComposer.Proofs.ClosedRendering
import SqlComposer.Proofs.ConditionSteps
import SqlComposer.Proofs.ConfiguredTexts
import SqlComposer.Proofs.ConstantReplacement
import SqlComposer.Proofs.FilterSafety
import SqlComposer.Proofs.FirstMisuse
import SqlComposer.Proofs.FloatBinding
import SqlComposer.Proofs.InsertionHistory
import SqlComposer.Proofs.IntegerBinding
import SqlComposer.Proofs.MultiRowInserts
import SqlComposer.Proofs.OuterAlias
import SqlComposer.Proofs.RecordBinding
import SqlComposer.Proofs.RecordJson
import SqlComposer.Proofs.RecordPaths
import SqlComposer.Proofs.RecordProperties
import SqlComposer.Proofs.RenderEvents
import SqlComposer.Proofs.SelectBuilding
import SqlComposer.Proofs.ServerSections
import SqlComposer.Proofs.ShownTexts
import SqlComposer.Proofs.SoundContexts
import SqlComposer.Session.KeyHolder
