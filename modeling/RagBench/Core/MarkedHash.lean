import RagBench.Benchmark.SplitLeakage
import RagBench.PyText

/-!
# Hashes with marks

A hash for concrete runs: the marked bytes are told apart, and every hash has
the form of a digest.
-/

namespace RagBench

/-- The number in binary, as 64 digits. -/
def digestOf (number : ℕ) : String :=
  String.ofList ((List.range 64).map fun index =>
    if number.testBit index then '1' else '0')

theorem digestOf_isHexDigest (number : ℕ) :
    isHexDigest (digestOf number) = true := by
  unfold isHexDigest digestOf
  rw [String.toList_ofList, decide_eq_true_eq]
  refine ⟨by simp, List.all_eq_true.mpr fun character member => ?_⟩
  obtain ⟨index, -, rfl⟩ := List.mem_map.mp member
  split_ifs <;> decide

theorem digestOf_inj {left right : ℕ} (small : left < 2 ^ 64)
    (small' : right < 2 ^ 64) (same : digestOf left = digestOf right) :
    left = right := by
  refine Nat.eq_of_testBit_eq fun index => ?_
  by_cases low : index < 64
  · have digits := String.ofList_inj.mp same
    rw [List.map_inj_left] at digits
    have digit := digits index (List.mem_range.mpr low)
    cases first : left.testBit index <;>
      cases second : right.testBit index <;> simp_all
  · have high : 2 ^ 64 ≤ 2 ^ index :=
      Nat.pow_le_pow_right (by decide) (not_lt.mp low)
    rw [Nat.testBit_lt_two_pow (small.trans_le high),
      Nat.testBit_lt_two_pow (small'.trans_le high)]

/-- The bytes that the canonical hash of a value is the hash of. -/
def canonicalBytes (value : Json) : Bytes :=
  (String.ofList (Json.text sampleFloats value)).toByteArray.data.toList

theorem same_of_canonicalBytes_eq {left right : Json}
    (compliant : left.isCompliant = true)
    (compliant' : right.isCompliant = true)
    (same : canonicalBytes left = canonicalBytes right) : left.Same right := by
  have texts := String.toByteArray_inj.mp
    (ByteArray.ext (Array.toList_inj.mp same))
  exact Json.same_of_text_eq compliant compliant' (String.ofList_inj.mp texts)

/-- The hash of a value on the hexadecimal platform. -/
def hexHash (value : Json) : String :=
  sampleHexSha256 (canonicalBytes value)

theorem hexPlatform_hash {value : Json}
    (compliant : value.isCompliant = true) :
    hexPlatform.canonicalJsonHash value = .ok (hexHash value) := by
  have printed := PyValue.canonicalJson_ofJson.mpr
    (⟨compliant, rfl⟩ : value.isCompliant = true ∧
      String.ofList (Json.text sampleFloats value) = _)
  change PyValue.canonicalJsonHash _ _ _ = _
  rw [PyValue.canonicalJsonHash, printed]
  rfl

/-- The marked bytes have the hashes of their positions. -/
def markedSha256 (marked : List Bytes) (bytes : Bytes) : String :=
  digestOf (marked.idxOf bytes)

def markedPlatform (marked : List Bytes) : Platform :=
  { samplePlatform with
    sha256Hex := markedSha256 marked
    canonicalJsonHash := fun value => (PyValue.ofJson value).canonicalJsonHash
      sampleFloats (markedSha256 marked) }

theorem markedPlatform_hashes (marked : List Bytes) :
    (markedPlatform marked).HashesCanonically sampleFloats :=
  fun _ => rfl

theorem markedPlatform_hash (marked : List Bytes) {value : Json}
    (compliant : value.isCompliant = true) :
    (markedPlatform marked).canonicalJsonHash value =
      .ok (markedSha256 marked (canonicalBytes value)) := by
  have printed := PyValue.canonicalJson_ofJson.mpr
    (⟨compliant, rfl⟩ : value.isCompliant = true ∧
      String.ofList (Json.text sampleFloats value) = _)
  change PyValue.canonicalJsonHash _ _ _ = _
  rw [PyValue.canonicalJsonHash, printed]
  rfl

theorem markedSha256_inj {marked : List Bytes} {left right : Bytes}
    (short : marked.length < 2 ^ 64) (member : left ∈ marked)
    (same : markedSha256 marked left = markedSha256 marked right) :
    left = right := by
  have positions := digestOf_inj (List.idxOf_le_length.trans_lt short)
    (List.idxOf_le_length.trans_lt short) same
  exact (List.idxOf_inj member).mp positions

/-- Marked values are told apart. -/
theorem markedPlatform_separates {marked : List Bytes} {values : Set Json}
    (short : marked.length < 2 ^ 64)
    (all : ∀ value ∈ values, value.isCompliant = true ∧
      canonicalBytes value ∈ marked) :
    (markedPlatform marked).Separates values := by
  intro left member right member' digest hashed hashed'
  obtain ⟨compliant, listed⟩ := all left member
  obtain ⟨compliant', -⟩ := all right member'
  rw [markedPlatform_hash marked compliant] at hashed
  rw [markedPlatform_hash marked compliant', ← hashed] at hashed'
  exact same_of_canonicalBytes_eq compliant compliant'
    (markedSha256_inj short listed (Except.ok.inj hashed').symm)

end RagBench
