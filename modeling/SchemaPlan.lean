import SchemaPlan.Database.File
import SchemaPlan.Database.Sqlite
import SchemaPlan.Declaration.Writing
import SchemaPlan.Main
import SchemaPlan.Proofs.Declaration
import SchemaPlan.Proofs.Emission
import SchemaPlan.Proofs.Replay
import SchemaPlan.Proofs.Run
import SchemaPlan.Source.Reading
import SchemaPlan.Proofs.Alteration
import SchemaPlan.Proofs.Classification
import SchemaPlan.Proofs.Convergence
import SchemaPlan.Archive.Memory
import SchemaPlan.Proofs.Restoring
import SchemaPlan.Proofs.Rollback
import SchemaPlan.Proofs.AllOrNothing
import SchemaPlan.Proofs.ExpressionReading
import SchemaPlan.Proofs.OperationReading
import SchemaPlan.Source.UnitReading
import SchemaPlan.Proofs.UnitReading
import SchemaPlan.Proofs.TypeAgreement
import SchemaPlan.Proofs.Dropping
import SchemaPlan.Proofs.CreateName
import SchemaPlan.Proofs.OneCreation
import SchemaPlan.Proofs.Rerun
import SchemaPlan.Proofs.Grammar
import SchemaPlan.Proofs.Writing
import SchemaPlan.Proofs.CreationReplay
import SchemaPlan.Proofs.ArtifactName
import SchemaPlan.Proofs.FileTree
import SchemaPlan.Proofs.Folder
import SchemaPlan.Proofs.Independence
import SchemaPlan.Proofs.AlterationReplay
import SchemaPlan.Proofs.CreatedTable
import SchemaPlan.Proofs.Reachability
import SchemaPlan.Proofs.Chronology
import SchemaPlan.Proofs.NameOrder
import SchemaPlan.Proofs.FirstFault
import SchemaPlan.Proofs.Mirroring
import SchemaPlan.Proofs.FailedOperation
import SchemaPlan.Proofs.Planning
import SchemaPlan.Proofs.OfflineRun
import SchemaPlan.Proofs.StrictDrops
import SchemaPlan.Proofs.Words
import SchemaPlan.Proofs.TypeSpelling
import SchemaPlan.Proofs.EnumValues
import SchemaPlan.Proofs.FlagSpelling
import SchemaPlan.Proofs.IndexColumns
import SchemaPlan.Proofs.Spacing
import SchemaPlan.Proofs.CanonicalName
import SchemaPlan.Proofs.Snapshot
