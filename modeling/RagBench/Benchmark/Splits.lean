import Mathlib.Data.String.Basic
import Mathlib.Logic.Function.Basic
import RagBench.Dict
import RagBench.Providers.Messages
import RagBench.PyText
import RagBench.Sorting

/-!
# Split snapshots

Items that share a document, a family or a paraphrase group are united, and
each component goes into a smallest split.  The parents are a function that is
the identity outside the items.
-/

namespace RagBench

/-- `SnapshotName`. -/
inductive SnapshotName where
  | devAuto
  | testGold
  | stress
  deriving DecidableEq, Repr

def SnapshotName.value : SnapshotName → String
  | .devAuto => "dev_auto"
  | .testGold => "test_gold"
  | .stress => "stress"

/-- The texts are stripped and not blank. -/
def isNormalized (texts : List String) : Bool :=
  texts.all fun text => strip text = text ∧ text ≠ ""

/-- A validated `BenchmarkItem`. -/
structure BenchmarkItem where
  itemId : String
  naturalQuestion : String
  documentIds : List String
  questionFamilyId : String
  paraphraseGroupId : String
  normalized : isNormalized (itemId :: naturalQuestion :: questionFamilyId ::
    paraphraseGroupId :: documentIds) = true
  documents : documentIds ≠ [] ∧ documentIds.Nodup
  deriving DecidableEq

/-- `item.model_dump(mode="json")`. -/
def BenchmarkItem.modelDump (item : BenchmarkItem) : Json :=
  .object [
    ("item_id", .str item.itemId),
    ("natural_question", .str item.naturalQuestion),
    ("document_ids", .array (item.documentIds.map .str)),
    ("question_family_id", .str item.questionFamilyId),
    ("paraphrase_group_id", .str item.paraphraseGroupId)]

/-- What items must not share across splits. -/
inductive LeakageToken where
  | document (id : String)
  | family (id : String)
  | paraphrase (id : String)
  deriving DecidableEq, Repr

def BenchmarkItem.tokens (item : BenchmarkItem) : List LeakageToken :=
  item.documentIds.map .document ++
    [.family item.questionFamilyId, .paraphrase item.paraphraseGroupId]

structure SplitSnapshot where
  name : SnapshotName
  version : String
  snapshotId : String
  seed : ℤ
  itemCount : ℕ
  membershipHash : String
  itemIds : List String
  deriving DecidableEq

/-- `ValidationError(ValueError)`. -/
def validationError (title : String) : PyException :=
  ⟨.derived "ValidationError" .valueError, "validation error for " ++ title⟩

/-- The field constraints of `SplitSnapshot`. -/
def SplitSnapshot.validate (snapshot : SplitSnapshot) :
    Except PyException SplitSnapshot :=
  if snapshot.version ≠ "" ∧ isHexDigest snapshot.snapshotId ∧
      0 < snapshot.itemCount ∧ isHexDigest snapshot.membershipHash then
    .ok snapshot
  else .error (validationError "SplitSnapshot")

/-- What `random.Random(seed)` draws: a shuffled list, then one choice for each
group. -/
structure SplitRandom where
  shuffle : List (List String) → List (List String)
  choice : ℕ → List SnapshotName → SnapshotName
  shuffle_perm : ∀ groups, (shuffle groups).Perm groups
  choice_mem : ∀ draw names, names ≠ [] → choice draw names ∈ names

namespace Splits

/-! ## Components -/

/-- `find`, with a bound on the rounds of its loop. -/
def findRoot : ℕ → (String → String) → String →
    Option ((String → String) × String)
  | 0, parent, itemId =>
      if parent itemId = itemId then some (parent, itemId) else none
  | fuel + 1, parent, itemId =>
      if parent itemId = itemId then some (parent, itemId)
      else
        let above := parent (parent itemId)
        findRoot fuel (Function.update parent itemId above) above

/-- `union`. -/
def unite (fuel : ℕ) (parent : String → String) (left right : String) :
    Option (String → String) := do
  let (parent, leftRoot) ← findRoot fuel parent left
  let (parent, rightRoot) ← findRoot fuel parent right
  if leftRoot = rightRoot then return parent
  else
    return Function.update parent (max leftRoot rightRoot)
      (min leftRoot rightRoot)

abbrev Indexes := Dict LeakageToken String

/-- `indexes.setdefault(token, item_id)`, and the union. -/
def indexTokens (fuel : ℕ) (itemId : String) :
    List LeakageToken → Indexes × (String → String) →
      Option (Indexes × (String → String))
  | [], state => some state
  | token :: rest, (indexes, parent) =>
      match indexes.get? token with
      | some previous => do
          let parent ← unite fuel parent previous itemId
          indexTokens fuel itemId rest (indexes, parent)
      | none => do
          let parent ← unite fuel parent itemId itemId
          indexTokens fuel itemId rest (indexes.set token itemId, parent)

def indexItems (fuel : ℕ) :
    List BenchmarkItem → Indexes × (String → String) →
      Option (Indexes × (String → String))
  | [], state => some state
  | item :: rest, state => do
      let state ← indexTokens fuel item.itemId item.tokens state
      indexItems fuel rest state

/-- `components[find(item_id)].append(item_id)`. -/
def collect (fuel : ℕ) :
    List String → Dict String (List String) → (String → String) →
      Option (Dict String (List String))
  | [], components, _ => some components
  | itemId :: rest, components, parent => do
      let (parent, root) ← findRoot fuel parent itemId
      collect fuel rest
        (components.set root (components.getD root [] ++ [itemId])) parent

/-! ## Allocation -/

def splitOrder : List SnapshotName :=
  [.devAuto, .testGold, .stress]

abbrev Allocations := SnapshotName → List String

/-- The splits with the fewest items. -/
def eligible (allocations : Allocations) : List SnapshotName :=
  let minimum := min (allocations .devAuto).length
    (min (allocations .testGold).length (allocations .stress).length)
  splitOrder.filter fun name => (allocations name).length = minimum

/-- The loop over the groups; `draw` counts the choices. -/
def allocate (random : SplitRandom) :
    ℕ → List (List String) → Allocations → Allocations
  | _, [], allocations => allocations
  | draw, group :: rest, allocations =>
      let chosen := random.choice draw (eligible allocations)
      allocate random (draw + 1) rest
        (Function.update allocations chosen (allocations chosen ++ group))

/-! ## Snapshots -/

def sortedIds (itemIds : List String) : List String :=
  sortBy id itemIds

/-- `by_id[item_id].model_dump(mode="json")`. -/
def dumpOf (byId : Dict String BenchmarkItem) (itemId : String) :
    Except PyException Json :=
  match byId.get? itemId with
  | some item => .ok item.modelDump
  | none => .error (.keyError itemId)

/-- The loop body over the splits. -/
def snapshotOf (platform : Platform) (byId : Dict String BenchmarkItem)
    (version : String) (seed : ℤ) (allocations : Allocations)
    (name : SnapshotName) : Except PyException (SnapshotName × SplitSnapshot) :=
  do
  let itemIds := sortedIds (allocations name)
  if itemIds = [] then
    throw (.valueError
      "leakage components cannot populate every requested split")
  let items ← itemIds.mapM (dumpOf byId)
  let snapshotId ← platform.canonicalJsonHash (.object [
    ("name", .str name.value),
    ("version", .str version),
    ("seed", .int seed),
    ("items", .array items)])
  let membershipHash ← platform.canonicalJsonHash
    (.array (itemIds.map .str))
  let snapshot ← SplitSnapshot.validate {
    name := name
    version := version
    snapshotId := snapshotId
    seed := seed
    itemCount := itemIds.length
    membershipHash := membershipHash
    itemIds := itemIds }
  return (name, snapshot)

end Splits

/-- What `build_split_snapshots` works with; `random` is `random.Random`. -/
structure SplitBuilder where
  platform : Platform
  random : ℤ → SplitRandom

open Splits in
/-- `build_split_snapshots`; there is no result when the fuel ends in a lookup.
-/
def SplitBuilder.buildSplitSnapshots (builder : SplitBuilder) (fuel : ℕ)
    (items : List BenchmarkItem) (version : String) (seed : ℤ) :
    Option (Except PyException (Dict SnapshotName SplitSnapshot)) := do
  if strip version = "" ∨ items.length < splitOrder.length then
    return .error (.valueError
      "version and at least three benchmark items are required")
  let byId := Dict.ofList (items.map fun item => (item.itemId, item))
  if byId.keys.length ≠ items.length then
    return .error (.valueError "benchmark item IDs must be unique")
  let (_, parent) ← indexItems fuel (sortBy (·.itemId) items) (.empty, id)
  let components ← collect fuel (sortedIds byId.keys) .empty parent
  let random := builder.random seed
  let groups := (random.shuffle components.values).mergeSort
    fun left right => right.length ≤ left.length
  let allocations := Splits.allocate random 0 groups fun _ => []
  return (splitOrder.mapM
    (snapshotOf builder.platform byId version seed allocations)).map
      Dict.ofList

end RagBench
