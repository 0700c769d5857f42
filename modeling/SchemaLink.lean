import SchemaLink.Text.Upper
import SchemaLink.Decimal.Shortest
import SchemaLink.Session.Step
import SchemaLink.Config.Library
import SchemaLink.Yaml.Document
import SchemaLink.Log.Configuration
import SchemaLink.Log.ScopeStack
import SchemaLink.Config.Settings
import SchemaLink.Config.Expression
import SchemaLink.Proofs.KeyEquivalence
import SchemaLink.Proofs.AmbiguousKeys
import SchemaLink.Proofs.LinkRun
import SchemaLink.Proofs.LinkMap
import SchemaLink.Proofs.RefusedLink
import SchemaLink.Proofs.LoadingModes
import SchemaLink.Proofs.HintSpine
import SchemaLink.Proofs.ResolutionTower
import SchemaLink.Proofs.HintContext
import SchemaLink.Proofs.DeferredSubstitution
import SchemaLink.Proofs.SpellingVariants
import SchemaLink.Proofs.SingleEntry
import SchemaLink.Proofs.SchemaLayers
import SchemaLink.Proofs.FieldTypes
import SchemaLink.Proofs.FieldReplacement
import SchemaLink.Proofs.LenientResolution
import SchemaLink.Proofs.UnhashableHints
import SchemaLink.Proofs.LoadingCount
import SchemaLink.Proofs.VoidKeys
import SchemaLink.Proofs.AnnotatedKeys
import SchemaLink.Proofs.RefusalRecords
import SchemaLink.Proofs.ErrorSubjects
import SchemaLink.Proofs.ReadSteps
import SchemaLink.Proofs.AnnotatedSpine
import SchemaLink.Proofs.EqualResolution
import SchemaLink.Proofs.DemandedKinds
import SchemaLink.Proofs.NamedTypes
import SchemaLink.Proofs.AbsentHints
import SchemaLink.Proofs.ReferenceReplacement
import SchemaLink.Proofs.Representability
import SchemaLink.Proofs.ParameterizedLeaves
import SchemaLink.Proofs.EqualityParts
import SchemaLink.Proofs.EqualityLaws
import SchemaLink.Proofs.IdentityLaws
import SchemaLink.Proofs.LogThreshold
import SchemaLink.Proofs.RecastNames
import SchemaLink.Proofs.NestedBlocks
import SchemaLink.Proofs.ProtocolClasses
import SchemaLink.Proofs.ReferenceNames
import SchemaLink.Proofs.HintWalks
import SchemaLink.Proofs.ImportPaths
