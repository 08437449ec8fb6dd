import ParaWorks.Retrieval.Scope

/-!
# Serving contracts

What the retrieval layers hand to each other about one piece of evidence.
-/

namespace ParaWorks.Retrieval

open Lib

inductive ServingKind where
  | rawChunk
  | trustedKnowledge
  deriving DecidableEq

inductive SupportMode where
  | trustedFact
  | sourceObservation
  deriving DecidableEq

structure RawServingVersionEnvelope where
  servingDocumentId : Text
  sourceRowId : Int
  publicSourceId : Text
  documentId : Int
  documentVersionId : Int
  currentDocumentVersionId : Int
  documentChunkId : Int
  parserRunId : Int
  externalRevision : Option Text
  serverContentSignatureSchema : Text
  serverContentSignature : Text
  parserPolicyVersion : Text
  parserVersion : Text
  chunkPolicyVersion : Text
  modelContentHmac : Text
  canonicalCitationProjectionHmac : Text
  effectivePermission : Text
  deriving DecidableEq

structure TrustedEvidenceLinkIdentity where
  trustedKnowledgeEvidenceLinkId : Int
  approvalLinkId : Int
  canonicalSourceKind : Text
  canonicalSourceId : Text
  canonicalVersionOrSignature : Text
  evidenceHash : Text
  fingerprintKeyVersion : Text
  fingerprintKeyMaterialVerifier : Text
  deriving DecidableEq

structure SelectedCitationChild where
  trustedKnowledgeEvidenceLinkId : Int
  sourceRowId : Int
  canonicalSourceType : Text
  canonicalVersionOrSignature : Text
  reviewItemSourcePairOrdinal : Int
  deriving DecidableEq

structure ExplicitApprovalProvenance where
  branch : Text
  approvalLinkId : Int
  reviewItemId : Int
  securityScopeId : Text
  promotionEffectKind : Text
  resolutionSource : Text
  claimFingerprint : Text
  approvalPermissionLevel : Text
  approvalFingerprintKeyVersion : Text
  approvalFingerprintKeyMaterialVerifier : Text
  evidenceLinks : List TrustedEvidenceLinkIdentity
  selectedCitationChild : SelectedCitationChild
  deriving DecidableEq

structure LegacyHumanProvenance where
  branch : Text
  legacyBinding : Text
  legacyEvidencePairsHmac : Text
  legacyReviewItemPermissionLevel : Text
  legacySourceReviewItemId : Int
  deriving DecidableEq

inductive TrustedProvenance where
  | explicit (provenance : ExplicitApprovalProvenance)
  | legacy (provenance : LegacyHumanProvenance)
  deriving DecidableEq

def TrustedProvenance.isLegacy : TrustedProvenance → Bool
  | explicit _ => false
  | legacy _ => true

structure TrustedServingVersionEnvelope where
  servingDocumentId : Text
  knowledgeType : Text
  knowledgeId : Int
  modelContentHmac : Text
  canonicalCitationProjectionHmac : Text
  effectivePermission : Text
  provenance : TrustedProvenance
  deriving DecidableEq

inductive ServingVersionEnvelope where
  | raw (envelope : RawServingVersionEnvelope)
  | trusted (envelope : TrustedServingVersionEnvelope)
  deriving DecidableEq

structure RawChunkProvenance where
  branch : Text
  rawVersion : RawServingVersionEnvelope
  deriving DecidableEq

inductive ServingProvenance where
  | rawChunk (provenance : RawChunkProvenance)
  | trusted (provenance : TrustedProvenance)
  deriving DecidableEq

structure ServingEvidenceIdentity where
  servingDocumentId : Text
  servingKind : ServingKind
  publicSourceId : Text
  publicSourceType : Option Text
  effectivePermission : Text
  modelContentHmac : Text
  canonicalCitationProjectionHmac : Text
  servingVersionFingerprint : Text
  versionEnvelope : ServingVersionEnvelope
  deriving DecidableEq

structure ServingEvidence where
  servingDocumentId : Text
  servingKind : ServingKind
  publicSourceId : Text
  publicSourceType : Option Text
  supportMode : SupportMode
  modelContent : Text
  title : Text
  effectivePermission : Text
  servingIdentityHmac : Text
  servingVersionFingerprint : Text
  modelContentHmac : Text
  canonicalCitationProjectionHmac : Text
  versionEnvelope : ServingVersionEnvelope
  provenance : ServingProvenance
  deriving DecidableEq

structure IndexableSourceObservation where
  identity : ServingEvidenceIdentity
  evidence : ServingEvidence
  rawVersion : RawServingVersionEnvelope
  deriving DecidableEq

/-- Fresh public bytes of one piece of evidence with the authority behind them. -/
structure CanonicalServingProjection where
  identity : ServingEvidenceIdentity
  evidence : ServingEvidence
  publicResultId : Int
  sourceUrl : Text
  sourceSnippet : Text
  parserStatus : Option Text
  parserStatusReason : Option Text
  revisionId : Option Text
  approvalProvenanceHmac : Option Text
  evidenceLinkSetHmac : Option Text
  evidenceLinkHmacs : List Text
  deriving DecidableEq

inductive GlobalEligibility where
  | eligible
  | ineligible
  deriving DecidableEq

inductive ResourceScope where
  | inScope
  | outOfScope
  | invalidScope
  deriving DecidableEq

inductive PermissionVisibility where
  | visible
  | deniedKnown
  | unknownPermission
  deriving DecidableEq

structure EvidenceAccessClassification where
  globalEligibility : GlobalEligibility
  resourceScope : ResourceScope
  permissionVisibility : PermissionVisibility
  deriving DecidableEq

/-- `known_permission`. -/
def knownPermission (value : Text) : Option Text := if value ∈ permissionLevels then some value else none

end ParaWorks.Retrieval
