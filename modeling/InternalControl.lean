import InternalControl.ParentMap
import InternalControl.KeyedMap
import InternalControl.Table
import InternalControl.TicketCell
import InternalControl.Fallible
import InternalControl.Text
import InternalControl.JsonText
import InternalControl.CodePrefix
import InternalControl.StructureReconcile
import InternalControl.ReconcileCycles
import InternalControl.ReconcileCenters
import InternalControl.ReconcileFixedPoint
import InternalControl.Instant
import InternalControl.MovementSignature
import InternalControl.MovementChain
import InternalControl.MovementRuns
import InternalControl.MovementTamper
import InternalControl.SignatureEnvelope
import InternalControl.EnvelopeRuns
import InternalControl.OrgChartTypes
import InternalControl.OrgChartStamp
import InternalControl.Depreciation
import InternalControl.SqlLike
import InternalControl.UnitHierarchy
import InternalControl.UnitPaths
import InternalControl.UnitMoves
import InternalControl.Assets
import InternalControl.AssetProcesses
import InternalControl.AssetChanges
import InternalControl.Loans
import InternalControl.LoanStatuses
import InternalControl.LoanRuns
import InternalControl.Documents
import InternalControl.WriteOffs
import InternalControl.Transfers
import InternalControl.Handovers
import InternalControl.Inventories
import InternalControl.LoanedAssets
import InternalControl.LoanedRuns
import InternalControl.RowLocks
import InternalControl.AssetRequests
import InternalControl.AssetHolds
import InternalControl.AssetPrograms
import InternalControl.AssetExclusion
import InternalControl.AssetPromises
import InternalControl.DocumentEngine
import InternalControl.ProcessStates
import InternalControl.LifecycleRuns
import InternalControl.VoidedActs
import InternalControl.RefreshedCopy
import InternalControl.SlotRuns
import InternalControl.RefreshTokens
import InternalControl.RefreshRuns
import InternalControl.PasswordResets
import InternalControl.FeatureFlags
import InternalControl.DocumentNumbers
import InternalControl.Timeline
import InternalControl.CostCenterPlacements
import InternalControl.PlacementRuns
import InternalControl.RequestRuns
import InternalControl.AssetImports
import InternalControl.AllOrNothing
import InternalControl.Rbac
import InternalControl.RbacStatements
import InternalControl.SeparationOfDuties
import InternalControl.Worklist
import InternalControl.RolesService
import InternalControl.RoleHierarchy
import InternalControl.UsersService
import InternalControl.SelfEscalation
import InternalControl.AuthLockout
import InternalControl.AuthLockoutRuns
import InternalControl.Interleaving
import InternalControl.MailOutbox
import InternalControl.MailOutboxRuns
import InternalControl.QrTokens
import InternalControl.QrTokenRuns
import InternalControl.InventoryItems
import InternalControl.MfaAccount
import InternalControl.MfaRuns
import InternalControl.ImportJobs
import InternalControl.ImportJobRuns
import InternalControl.SigningLinks
import InternalControl.SigningLinkRuns
import InternalControl.SessionState
import InternalControl.PermissionsCache
import InternalControl.SessionStateRuns
import InternalControl.RoleAssignments
import InternalControl.RoleLimit
import InternalControl.Delegations
import InternalControl.ImportPreviews
import InternalControl.RecoveryCodes
import InternalControl.RecoveryCodeRuns
import InternalControl.InventoryCorrections
import InternalControl.InventoryCorrectionRuns
import InternalControl.Bytes
import InternalControl.ZipArchives
import InternalControl.CodeUnits
import InternalControl.CustomValues
import InternalControl.EventStreams
import InternalControl.EventStreamRuns
import InternalControl.Attestations
import InternalControl.Calendar
import InternalControl.LoanDates
import InternalControl.SignerSeparation
import InternalControl.UserCreation
import InternalControl.JsonReordering
import InternalControl.SignedForm
import InternalControl.CsvText
import InternalControl.AssetCsv
import InternalControl.AssetCsvRows
import InternalControl.AssetCsvReadBack
import InternalControl.OrgChartRows
import InternalControl.OrgChartPlan
import InternalControl.OrgChartPlacing
import InternalControl.OrgChartPlanned
import InternalControl.OrgChartLoops
import InternalControl.OrgChartParents
import InternalControl.OrgChartIdentifiers
import InternalControl.OrgChartCollegiate
import InternalControl.OrgChartMerge
import InternalControl.OrgChartStamped
import InternalControl.OrgChartRevival
import InternalControl.OrgChartReupload
import InternalControl.OrgChartListing
import InternalControl.OrgChartRevision
import InternalControl.OrgChartConflicts
import InternalControl.AuthLockoutPurges
import InternalControl.FindingSuggestions
import InternalControl.OrgChartCodes
import InternalControl.OrgChartHierarchy
import InternalControl.CostCenterStructure
import InternalControl.CostCenterGroupings
import InternalControl.KeyBuilders
import InternalControl.RichText
import InternalControl.EmailUrl
import InternalControl.RichTextNormalized
import InternalControl.EmailBlocks
import InternalControl.WeekPartitions
import InternalControl.HtmlText
import InternalControl.EmailRenderer
import InternalControl.EmailDocument
import InternalControl.EmailLinks
import InternalControl.Base64
import InternalControl.SmtpClient
import InternalControl.SmtpServer
