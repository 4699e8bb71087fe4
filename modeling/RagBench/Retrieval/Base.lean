import Mathlib.Data.String.Basic
import RagBench.PyText
import RagBench.Python
import RagBench.Sorting

/-!
# Shared retrieval contracts

A search is bound to the snapshots of its filter.  A hit has a rank and a
score, and a fused hit the ranks and scores of its components.
-/

namespace RagBench

structure SearchFilter where
  corpusSnapshotId : String
  parseSnapshotId : String
  chunkStrategy : String
  embeddingSnapshotId : String
  documentIds : List String
  deriving DecidableEq

/-- `SearchFilter(**fields)`: the document ids are kept sorted. -/
def SearchFilter.validate (fields : SearchFilter) :
    Except PyException SearchFilter := do
  raiseIf ([fields.corpusSnapshotId, fields.parseSnapshotId,
      fields.chunkStrategy, fields.embeddingSnapshotId].any fun value =>
        strip value = "")
    (.valueError "search filter snapshot identity cannot be blank")
  raiseIf (fields.documentIds.any fun documentId => strip documentId = "")
    (.valueError "search filter document identity cannot be blank")
  return { fields with documentIds := sortBy id fields.documentIds.dedup }

structure RetrievalEvidence where
  denseRank : Option ℤ
  sparseRank : Option ℤ
  denseScore : Option PyFloat
  sparseScore : Option PyFloat
  fusedScore : PyFloat
  deriving DecidableEq

structure SearchHit where
  chunkId : String
  score : PyFloat
  rank : ℤ
  retriever : String
  evidence : Option RetrievalEvidence := none
  deriving DecidableEq

end RagBench
