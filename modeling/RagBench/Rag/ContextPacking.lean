import RagBench.Grouping
import RagBench.Rag.ContextText

/-!
# What a context includes

The rows are ordered and freed of further rows of their chunks.  The context
has the longest beginning of them all of whose beginnings fit the budget; a
token count need not grow with the text.
-/

namespace RagBench

/-! ## The longest beginning that fits -/

section Fitting

variable {α : Type} (fits : List α → Prop) [DecidablePred fits]

/-- As many items as fit, one after the other, behind those before. -/
def fittingFrom (before : List α) : List α → List α
  | [] => []
  | item :: rest =>
      if fits (before ++ [item]) then
        item :: fittingFrom (before ++ [item]) rest
      else []

variable {fits}

theorem fittingFrom_initial (before items : List α) :
    fittingFrom fits before items <+: items := by
  induction items generalizing before with
  | nil => exact List.prefix_rfl
  | cons item items induction =>
      rw [fittingFrom]
      split_ifs
      · exact (List.prefix_cons_inj item).mpr (induction _)
      · exact List.nil_prefix

theorem fits_of_prefix {before items beginning : List α}
    (begins : beginning <+: fittingFrom fits before items)
    (some_item : beginning ≠ []) : fits (before ++ beginning) := by
  induction items generalizing before beginning with
  | nil => exact absurd (List.prefix_nil.mp begins) some_item
  | cons item items induction =>
      rw [fittingFrom] at begins
      split_ifs at begins with fit
      · obtain ⟨first, rest, rfl⟩ := List.exists_cons_of_ne_nil some_item
        obtain ⟨rfl, later⟩ := List.cons_prefix_cons.mp begins
        by_cases last : rest = []
        · rw [last]
          exact fit
        · rw [List.append_cons]
          exact induction later last
      · exact absurd (List.prefix_nil.mp begins) some_item

theorem prefix_fittingFrom {before items other : List α}
    (within : other <+: items)
    (fit : ∀ beginning, beginning <+: other → beginning ≠ [] →
      fits (before ++ beginning)) :
    other <+: fittingFrom fits before items := by
  induction items generalizing before other with
  | nil => exact within
  | cons item items induction =>
      cases other with
      | nil => exact List.nil_prefix
      | cons first rest =>
          obtain ⟨rfl, later⟩ := List.cons_prefix_cons.mp within
          have alone := fit [first] ⟨rest, rfl⟩ (List.cons_ne_nil _ _)
          rw [fittingFrom, if_pos alone]
          refine (List.prefix_cons_inj first).mpr (induction later ?_)
          intro beginning begins _
          rw [List.append_assoc]
          exact fit _ ((List.prefix_cons_inj first).mpr begins)
            (List.cons_ne_nil _ _)

end Fitting

namespace ContextBuilder

/-! ## Distinct rows -/

/-- The order in which the rows are read. -/
def orderedRows (hits : List RetrievedChunk) : List RetrievedChunk :=
  sortBy rowKey hits

/-- The first row of each chunk. -/
def firstRows (rows : List RetrievedChunk) : List RetrievedChunk :=
  firstBy (fun row => row.hit.chunkId) rows

/-- Rows of the same chunk have the same source. -/
def Agreeing (rows : List RetrievedChunk) : Prop :=
  ∀ row ∈ rows, ∀ other ∈ rows, row.hit.chunkId = other.hit.chunkId →
    sourceIdentity row = sourceIdentity other

theorem Agreeing.of_subset {rows others : List RetrievedChunk}
    (agreeing : Agreeing others) (within : rows ⊆ others) : Agreeing rows :=
  fun row member other member' =>
    agreeing row (within member) other (within member')

def conflictError : PyException :=
  .valueError "conflicting duplicate chunk provenance"

def chunkIds (rows : List RetrievedChunk) : List String :=
  rows.map fun row => row.hit.chunkId

/-- The chunks with more than one row. -/
def repeatedChunks (rows : List RetrievedChunk) : Finset String :=
  ((chunkIds rows).filter fun chunkId =>
    1 < (chunkIds rows).count chunkId).toFinset

def distinctOf (rows : List RetrievedChunk) : Distinct :=
  { unique := firstRows rows
    duplicates := repeatedChunks rows }

theorem mem_repeatedChunks {rows : List RetrievedChunk} {chunkId : String} :
    chunkId ∈ repeatedChunks rows ↔
      1 < (chunkIds rows).count chunkId := by
  rw [repeatedChunks, List.mem_toFinset, List.mem_filter, decide_eq_true_eq]
  refine and_iff_right_of_imp fun repeated => ?_
  exact List.count_pos_iff.mp (Nat.zero_lt_of_lt repeated)

theorem repeatedChunks_perm {left right : List RetrievedChunk}
    (permuted : left.Perm right) :
    repeatedChunks left = repeatedChunks right := by
  ext chunkId
  rw [mem_repeatedChunks, mem_repeatedChunks, chunkIds,
    (permuted.map _).count_eq, chunkIds]

theorem repeatedChunks_concat (rows : List RetrievedChunk)
    (row : RetrievedChunk) :
    repeatedChunks (rows ++ [row]) =
      if row.hit.chunkId ∈ chunkIds rows then
        insert row.hit.chunkId (repeatedChunks rows)
      else repeatedChunks rows := by
  ext chunkId
  have counts : (chunkIds (rows ++ [row])).count chunkId =
      (chunkIds rows).count chunkId +
        if row.hit.chunkId = chunkId then 1 else 0 := by
    rw [chunkIds, List.map_append, List.count_append, List.map_cons,
      List.map_nil, List.count_singleton, beq_eq_decide, chunkIds]
    simp only [decide_eq_true_eq]
  rw [mem_repeatedChunks, counts]
  by_cases same : row.hit.chunkId = chunkId
  · subst same
    rw [if_pos rfl]
    split_ifs with listed
    · have positive := List.count_pos_iff.mpr listed
      simp only [Finset.mem_insert, true_or, iff_true]
      omega
    · rw [List.count_eq_zero.mpr listed, mem_repeatedChunks,
        List.count_eq_zero.mpr listed]
      omega
  · simp only [if_neg same, Nat.add_zero]
    split_ifs
    · rw [Finset.mem_insert, or_iff_right (Ne.symm same), mem_repeatedChunks]
    · rw [mem_repeatedChunks]

/-- The first row of the same chunk. -/
def priorRow (rows : List RetrievedChunk) (row : RetrievedChunk) :
    Option RetrievedChunk :=
  rows.find? fun other => other.hit.chunkId = row.hit.chunkId

theorem priorRow_eq_some {rows : List RetrievedChunk}
    {row prior : RetrievedChunk} (found : priorRow rows row = some prior) :
    prior ∈ rows ∧ prior.hit.chunkId = row.hit.chunkId :=
  ⟨List.mem_of_find?_eq_some found, by simpa using List.find?_some found⟩

theorem priorRow_eq_none {rows : List RetrievedChunk} {row : RetrievedChunk} :
    priorRow rows row = none ↔ row.hit.chunkId ∉ chunkIds rows := by
  simp [priorRow, chunkIds]

/-- One more row agrees when it agrees with the first one of its chunk. -/
theorem agreeing_concat_iff {rows : List RetrievedChunk} {row : RetrievedChunk}
    (agreeing : Agreeing rows) :
    Agreeing (rows ++ [row]) ↔ ∀ prior, priorRow rows row = some prior →
      sourceIdentity prior = sourceIdentity row := by
  have last : row ∈ rows ++ [row] :=
    List.mem_append_right _ (List.mem_singleton_self row)
  constructor
  · intro together prior found
    obtain ⟨member, same⟩ := priorRow_eq_some found
    exact together prior (List.mem_append_left _ member) row last same
  · intro first
    have withLast : ∀ other ∈ rows, other.hit.chunkId = row.hit.chunkId →
        sourceIdentity other = sourceIdentity row := by
      intro other member same
      cases found : priorRow rows row with
      | none =>
          have listed : row.hit.chunkId ∈ chunkIds rows :=
            same ▸ List.mem_map_of_mem member
          exact absurd listed (priorRow_eq_none.mp found)
      | some prior =>
          obtain ⟨early, alike⟩ := priorRow_eq_some found
          rw [← first prior found]
          exact agreeing other member prior early (same.trans alike.symm)
    intro one member other member' same
    rcases List.mem_append.mp member with here | here
    · rcases List.mem_append.mp member' with there | there
      · exact agreeing one here other there same
      · rw [List.mem_singleton.mp there] at same ⊢
        exact withLast one here same
    · rw [List.mem_singleton.mp here] at same ⊢
      rcases List.mem_append.mp member' with there | there
      · exact (withLast other there same.symm).symm
      · rw [List.mem_singleton.mp there]

theorem firstRows_concat (rows : List RetrievedChunk) (row : RetrievedChunk) :
    firstRows (rows ++ [row]) =
      if row.hit.chunkId ∈ chunkIds rows then firstRows rows
      else firstRows rows ++ [row] :=
  firstBy_concat _ rows row

/-- What one more row does to the first rows. -/
theorem add_distinctOf (rows : List RetrievedChunk) (row : RetrievedChunk) :
    (distinctOf rows).add row =
      match priorRow rows row with
      | some prior =>
          if sourceIdentity prior = sourceIdentity row then
            .ok (distinctOf (rows ++ [row]))
          else .error conflictError
      | none => .ok (distinctOf (rows ++ [row])) := by
  have seen : (distinctOf rows).seen row.hit.chunkId = priorRow rows row :=
    find?_firstBy _ rows _
  rw [Distinct.add, seen]
  cases found : priorRow rows row with
  | none =>
      have fresh := priorRow_eq_none.mp found
      dsimp only
      rw [distinctOf, distinctOf, firstRows_concat, if_neg fresh,
        repeatedChunks_concat, if_neg fresh]
  | some prior =>
      obtain ⟨member, same⟩ := priorRow_eq_some found
      have listed : row.hit.chunkId ∈ chunkIds rows :=
        same ▸ List.mem_map_of_mem member
      dsimp only
      split_ifs with identity
      · rw [raiseIf_bind (not_not.mpr identity), distinctOf, distinctOf,
          firstRows_concat, if_pos listed, repeatedChunks_concat,
          if_pos listed]
        rfl
      · exact raiseIf_bind_error identity

/-- The loop keeps the first rows, or finds a conflict. -/
theorem distinctRows_eq (rows : List RetrievedChunk) :
    (Agreeing rows → distinctRows rows = .ok (distinctOf rows)) ∧
      (¬ Agreeing rows → distinctRows rows = .error conflictError) := by
  induction rows using List.reverseRecOn with
  | nil =>
      exact ⟨fun _ => rfl, fun conflict =>
        absurd (fun _ member => absurd member List.not_mem_nil) conflict⟩
  | append_singleton rows row induction =>
      have step : distinctRows (rows ++ [row]) =
          distinctRows rows >>= fun distinct => distinct.add row := by
        rw [distinctRows, List.foldlM_append]
        refine congrArg (Except.bind _) (funext fun distinct => ?_)
        rw [List.foldlM_cons]
        exact bind_pure _
      rw [step]
      by_cases agreed : Agreeing rows
      · rw [induction.1 agreed, agreeing_concat_iff agreed]
        change (_ → (distinctOf rows).add row = _) ∧
          (_ → (distinctOf rows).add row = _)
        rw [add_distinctOf]
        cases found : priorRow rows row with
        | none => simp
        | some prior => simp +contextual
      · rw [induction.2 agreed]
        refine ⟨fun agreeing => absurd ?_ agreed, fun _ => rfl⟩
        exact agreeing.of_subset (List.subset_append_left _ _)

/-! ## Packing -/

section Packing

variable (floats : FloatText) (count : String → ℕ) (tokenBudget : ℤ)

/-- The rows, numbered from an index on. -/
def serializedFrom (index : ℕ) (rows : List RetrievedChunk) : List String :=
  (rows.zipIdx index).map fun (row, index) =>
    serializeChunk floats row (citationIdOf index)

def itemsFrom (index : ℕ) (rows : List RetrievedChunk) : List ContextItem :=
  (rows.zipIdx index).map fun (row, index) =>
    let itemText := serializeChunk floats row (citationIdOf index)
    contextItem row (citationIdOf index) itemText (count itemText)

/-- The text of a context with these rows. -/
def packedText (rows : List RetrievedChunk) : String :=
  documentSeparator.intercalate (serializedFrom floats 1 rows)

/-- The rows fit the budget when they are serialized. -/
def Fits (rows : List RetrievedChunk) : Prop :=
  (count (packedText floats rows) : ℤ) ≤ tokenBudget

instance : DecidablePred (Fits floats count tokenBudget) :=
  fun _ => inferInstanceAs (Decidable (_ ≤ _))

/-- Every beginning of the rows fits. -/
def AllFit (rows : List RetrievedChunk) : Prop :=
  ∀ beginning, beginning <+: rows → Fits floats count tokenBudget beginning

/-- The platform counts the tokens of serialized chunks.  They have no angle
brackets, so they spell no special token. -/
def CountsTokens (platform : Platform) : Prop :=
  ∀ parts : List (RetrievedChunk × String),
    let text := documentSeparator.intercalate
      (parts.map fun (row, citationId) => serializeChunk floats row citationId)
    platform.tokenCount text = .ok (count text)

variable {floats count tokenBudget} {platform : Platform}

theorem CountsTokens.serializedFrom (counts : CountsTokens floats count platform)
    (index : ℕ) (rows : List RetrievedChunk) :
    platform.tokenCount (documentSeparator.intercalate
        (serializedFrom floats index rows)) =
      .ok (count (documentSeparator.intercalate
        (serializedFrom floats index rows))) := by
  have counted := counts ((rows.zipIdx index).map fun (row, index) =>
    (row, citationIdOf index))
  rwa [List.map_map] at counted

theorem CountsTokens.item (counts : CountsTokens floats count platform)
    (row : RetrievedChunk) (citationId : String) :
    platform.tokenCount (serializeChunk floats row citationId) =
      .ok (count (serializeChunk floats row citationId)) := by
  have counted := counts [(row, citationId)]
  simpa using counted

theorem serializedFrom_concat (rows : List RetrievedChunk)
    (row : RetrievedChunk) :
    serializedFrom floats 1 (rows ++ [row]) = serializedFrom floats 1 rows ++
      [serializeChunk floats row (citationIdOf (rows.length + 1))] := by
  rw [serializedFrom, List.zipIdx_append, List.map_append, Nat.add_comm 1]
  rfl

/-- The loop includes what fits. -/
theorem pack_eq (counts : CountsTokens floats count platform)
    (before rows : List RetrievedChunk) :
    pack floats platform tokenBudget (before.length + 1)
        (serializedFrom floats 1 before) rows =
      .ok (itemsFrom floats count (before.length + 1)
          (fittingFrom (Fits floats count tokenBudget) before rows),
        chunkIds (rows.drop
          (fittingFrom (Fits floats count tokenBudget) before rows).length)) := by
  induction rows generalizing before with
  | nil => rfl
  | cons row rows induction =>
      have counted := counts.serializedFrom 1 (before ++ [row])
      rw [pack]
      dsimp only
      rw [← serializedFrom_concat, counted, counts.item, fittingFrom]
      change (if tokenBudget < (count (packedText floats (before ++ [row])) : ℤ)
        then _ else _) = _
      by_cases fit : Fits floats count tokenBudget (before ++ [row])
      · have later := induction (before ++ [row])
        rw [List.length_append, List.length_singleton] at later
        rw [if_neg (not_lt.mpr fit), if_pos fit]
        change (pack floats platform tokenBudget (before.length + 1 + 1)
          (serializedFrom floats 1 (before ++ [row])) rows).bind _ = _
        rw [later]
        rfl
      · rw [if_pos (not_le.mp fit), if_neg fit]
        rfl

variable (floats count) in
/-- What a context of the rows is. -/
def contextOf (hits : List RetrievedChunk) (tokenBudget : ℤ) :
    ContextBundle :=
  let distinct := firstRows (orderedRows hits)
  let included := fittingFrom (Fits floats count tokenBudget) [] distinct
  { items := itemsFrom floats count 1 included
    text := packedText floats included
    tokenCount := count (packedText floats included)
    tokenBudget := tokenBudget
    duplicateChunkIds := sortedIds (repeatedChunks hits)
    truncatedChunkIds := chunkIds (distinct.drop included.length) }

def budgetError : PyException :=
  .valueError "token_budget must be a nonnegative integer"

theorem map_serialized_itemsFrom (index : ℕ) (rows : List RetrievedChunk) :
    (itemsFrom floats count index rows).map ContextItem.serialized =
      serializedFrom floats index rows := by
  rw [itemsFrom, List.map_map]
  rfl

theorem agreeing_perm {left right : List RetrievedChunk}
    (permuted : left.Perm right) : Agreeing left ↔ Agreeing right :=
  ⟨fun agreeing => agreeing.of_subset permuted.symm.subset,
    fun agreeing => agreeing.of_subset permuted.subset⟩

theorem build_of_agreeing (counts : CountsTokens floats count platform)
    {hits : List RetrievedChunk} (nonnegative : 0 ≤ tokenBudget)
    (agreeing : Agreeing hits) :
    build floats platform hits tokenBudget =
      .ok (contextOf floats count hits tokenBudget) := by
  have permuted : (orderedRows hits).Perm hits := sortBy_perm _ _
  have distinct := (distinctRows_eq (orderedRows hits)).1
    ((agreeing_perm permuted).mpr agreeing)
  have packed := @pack_eq floats count tokenBudget platform counts []
    (firstRows (orderedRows hits))
  have counted := counts.serializedFrom 1
    (fittingFrom (Fits floats count tokenBudget) []
      (firstRows (orderedRows hits)))
  rw [build, raiseIf_bind (not_lt.mpr nonnegative)]
  change ((distinctRows (orderedRows hits)).bind fun _ => _) = _
  rw [distinct]
  change ((pack floats platform tokenBudget 1 [] (distinctOf _).unique).bind
    fun _ => _) = _
  rw [distinctOf]
  dsimp only
  rw [show pack floats platform tokenBudget 1 []
    (firstRows (orderedRows hits)) = _ from packed]
  dsimp only [Except.bind]
  rw [List.length_nil, Nat.zero_add, map_serialized_itemsFrom, counted,
    repeatedChunks_perm permuted]
  rfl

theorem build_of_conflict {hits : List RetrievedChunk}
    (nonnegative : 0 ≤ tokenBudget) (conflict : ¬ Agreeing hits) :
    build floats platform hits tokenBudget = .error conflictError := by
  have permuted : (orderedRows hits).Perm hits := sortBy_perm _ _
  rw [build, raiseIf_bind (not_lt.mpr nonnegative)]
  change ((distinctRows (orderedRows hits)).bind fun _ => _) = _
  rw [(distinctRows_eq (orderedRows hits)).2
    (fun agreeing => conflict ((agreeing_perm permuted).mp agreeing))]
  rfl

theorem build_of_negative (hits : List RetrievedChunk)
    (negative : tokenBudget < 0) :
    build floats platform hits tokenBudget = .error budgetError :=
  raiseIf_bind_error negative

/-! ## The longest prefix -/

variable (floats count) in
/-- The bundle has the longest prefix of the distinct rows all of whose
prefixes fit. -/
structure PacksLongest (hits : List RetrievedChunk) (tokenBudget : ℤ)
    (bundle : ContextBundle) (included : List RetrievedChunk) : Prop where
  ranked : (firstRows (orderedRows hits)).Pairwise fun row later =>
    row.hit.rank ≤ later.hit.rank
  distinct : (chunkIds (firstRows (orderedRows hits))).Nodup
  chunks : ∀ chunkId, chunkId ∈ chunkIds (firstRows (orderedRows hits)) ↔
    chunkId ∈ chunkIds hits
  within : included <+: firstRows (orderedRows hits)
  fit : AllFit floats count tokenBudget included
  longest : ∀ other, other <+: firstRows (orderedRows hits) →
    AllFit floats count tokenBudget other → other <+: included
  items : bundle.items = itemsFrom floats count 1 included
  text : bundle.text = packedText floats included
  citation_ids : bundle.items.map ContextItem.citationId =
    (List.range' 1 bundle.items.length).map citationIdOf
  all_chunks : bundle.items.map ContextItem.chunkId ++
    bundle.truncatedChunkIds = chunkIds (firstRows (orderedRows hits))
  token_count : bundle.tokenCount = count bundle.text
  within_budget : (bundle.tokenCount : ℤ) ≤ tokenBudget

theorem map_chunkId_itemsFrom (index : ℕ) (rows : List RetrievedChunk) :
    (itemsFrom floats count index rows).map ContextItem.chunkId =
      chunkIds rows := by
  induction rows generalizing index with
  | nil => rfl
  | cons row rows induction =>
      rw [itemsFrom, List.zipIdx_cons, List.map_cons, ← itemsFrom,
        List.map_cons, induction]
      rfl

theorem map_citationId_itemsFrom (index : ℕ) (rows : List RetrievedChunk) :
    (itemsFrom floats count index rows).map ContextItem.citationId =
      (List.range' index rows.length).map citationIdOf := by
  induction rows generalizing index with
  | nil => rfl
  | cons row rows induction =>
      rw [itemsFrom, List.zipIdx_cons, List.map_cons, ← itemsFrom,
        List.map_cons, induction, List.length_cons, List.range'_succ,
        List.map_cons]
      rfl

theorem length_itemsFrom (index : ℕ) (rows : List RetrievedChunk) :
    (itemsFrom floats count index rows).length = rows.length := by
  rw [itemsFrom, List.length_map, List.length_zipIdx]

theorem mem_chunkIds_firstRows {rows : List RetrievedChunk}
    {chunkId : String} :
    chunkId ∈ chunkIds (firstRows rows) ↔ chunkId ∈ chunkIds rows := by
  have first := find?_firstBy (fun row : RetrievedChunk => row.hit.chunkId)
    rows chunkId
  have present (list : List RetrievedChunk) : chunkId ∈ chunkIds list ↔
      (list.find? fun row => row.hit.chunkId = chunkId).isSome := by
    rw [List.find?_isSome, chunkIds, List.mem_map]
    simp only [decide_eq_true_eq]
  rw [present, present, firstRows, first]

theorem contextOf_packsLongest (empty : count "" = 0)
    (hits : List RetrievedChunk) (nonnegative : 0 ≤ tokenBudget) :
    PacksLongest floats count hits tokenBudget
      (contextOf floats count hits tokenBudget)
      (fittingFrom (Fits floats count tokenBudget) []
        (firstRows (orderedRows hits))) := by
  have nothing : Fits floats count tokenBudget [] := by
    change (count "" : ℤ) ≤ tokenBudget
    rw [empty]
    exact nonnegative
  have fits : AllFit floats count tokenBudget
      (fittingFrom (Fits floats count tokenBudget) []
        (firstRows (orderedRows hits))) := by
    intro beginning begins
    by_cases some_row : beginning = []
    · rw [some_row]
      exact nothing
    · exact fits_of_prefix begins some_row
  have cut := List.prefix_iff_eq_take.mp
    (@fittingFrom_initial _ (Fits floats count tokenBudget) _ []
      (firstRows (orderedRows hits)))
  exact
    { ranked := by
        refine ((sortBy_pairwise rowKey hits).imp fun {row later} low => ?_
          ).sublist (firstBy_sublist _ _)
        exact (Prod.Lex.le_iff.mp low).elim le_of_lt fun same => same.1.le
      distinct := keys_firstBy_nodup _ _
      chunks := fun chunkId => by
        rw [mem_chunkIds_firstRows, chunkIds, chunkIds,
          (show (orderedRows hits).Perm hits from
            sortBy_perm rowKey hits).map _ |>.mem_iff]
      within := fittingFrom_initial _ _
      fit := fits
      longest := fun other within fit =>
        prefix_fittingFrom within fun beginning begins _ => fit beginning begins
      items := rfl
      text := rfl
      citation_ids := by
        rw [contextOf, map_citationId_itemsFrom, length_itemsFrom]
      all_chunks := by
        rw [contextOf, map_chunkId_itemsFrom]
        dsimp only
        nth_rw 1 [cut]
        rw [chunkIds, chunkIds, ← List.map_append, List.take_append_drop]
        rfl
      token_count := rfl
      within_budget := fits _ List.prefix_rfl }

/-- A context has the longest prefix that fits, whatever the token counter;
only a negative budget or conflicting rows are refused. -/
theorem context_packs_longest_initial
    (counts : CountsTokens floats count platform) (empty : count "" = 0)
    (hits : List RetrievedChunk) (tokenBudget : ℤ) :
    (∀ bundle, build floats platform hits tokenBudget = .ok bundle →
        ∃ included, PacksLongest floats count hits tokenBudget bundle
          included) ∧
      ∀ error, build floats platform hits tokenBudget = .error error →
        tokenBudget < 0 ∧ error = budgetError ∨
          0 ≤ tokenBudget ∧ ¬ Agreeing hits ∧ error = conflictError := by
  rcases lt_or_ge tokenBudget 0 with negative | nonnegative
  · rw [build_of_negative hits negative]
    refine ⟨fun _ built => (by cases built), fun error failed => ?_⟩
    exact .inl ⟨negative, (Except.error.inj failed).symm⟩
  by_cases agreeing : Agreeing hits
  · rw [build_of_agreeing counts nonnegative agreeing]
    refine ⟨fun bundle built => ?_, fun _ failed => (by cases failed)⟩
    obtain rfl := Except.ok.inj built
    exact ⟨_, contextOf_packsLongest empty hits nonnegative⟩
  · rw [build_of_conflict nonnegative agreeing]
    refine ⟨fun _ built => (by cases built), fun error failed => ?_⟩
    exact .inr ⟨nonnegative, agreeing, (Except.error.inj failed).symm⟩

end Packing

/-- Each token is a character. -/
def characterPlatform : Platform :=
  { samplePlatform with tokenCount := fun text => .ok text.length }

theorem context_packs_longest_initial_forged :
    ∃ bundle included, build sampleFloats characterPlatform [forgedRow] 10 =
        .ok bundle ∧ PacksLongest sampleFloats String.length [forgedRow] 10
          bundle included := by
  have packed := @context_packs_longest_initial sampleFloats String.length
    characterPlatform (fun _ => rfl) rfl [forgedRow] 10
  cases built : build sampleFloats characterPlatform [forgedRow] 10 with
  | ok bundle =>
      obtain ⟨included, longest⟩ := packed.1 bundle built
      exact ⟨bundle, included, rfl, longest⟩
  | error error =>
      rcases packed.2 error built with ⟨negative, -⟩ | ⟨-, conflict, -⟩
      · exact absurd negative (by decide)
      · refine absurd ?_ conflict
        intro row member other member' _
        rw [List.mem_singleton.mp member, List.mem_singleton.mp member']

end ContextBuilder

end RagBench
