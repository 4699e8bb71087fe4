import RagBench.Rag.ContextPacking

/-!
# Contexts of reordered rows

The sort key and the source of a row have all fields that a context item
shows, except the retriever.  Rows that differ in nothing else are kept as they
come.
-/

namespace RagBench

namespace ContextBuilder

/-! ## What a context reads of a row -/

/-- A row without the evidence of its hit. -/
def shownRow (row : RetrievedChunk) : RetrievedChunk :=
  { row with
    hit := { row.hit with evidence := none }
    valid := row.valid }

private theorem row_ext {row other : RetrievedChunk}
    (same : row.toRetrievedChunkFields = other.toRetrievedChunkFields) :
    row = other := by
  cases row
  cases other
  cases same
  rfl

private theorem score_eq {row other : RetrievedChunk}
    (same : negatedScore row = negatedScore other) :
    row.hit.score = other.hit.score := by
  have finite (row : RetrievedChunk) : ∃ value, row.hit.score =
      .finite value := by
    have valid := row.valid
    simp only [RetrievedChunkFields.isValid, RetrievedChunkFields.isRanked,
      decide_eq_true_eq] at valid
    have finite := valid.2.1.2
    cases score : row.hit.score with
    | finite value => exact ⟨value, rfl⟩
    | infinity => simp [score, PyFloat.isFinite] at finite
    | negativeInfinity => simp [score, PyFloat.isFinite] at finite
    | nan => simp [score, PyFloat.isFinite] at finite
  obtain ⟨value, score⟩ := finite row
  obtain ⟨value', score'⟩ := finite other
  simp only [negatedScore, score, score', neg_inj] at same
  rw [score, score', same]

/-- Key, source and retriever are all that is shown. -/
theorem shownRow_eq {row other : RetrievedChunk}
    (key : rowKey row = rowKey other)
    (source : sourceIdentity row = sourceIdentity other)
    (retriever : row.hit.retriever = other.hit.retriever) :
    shownRow row = shownRow other := by
  simp only [rowKey, toLex_inj, Prod.mk.injEq] at key
  obtain ⟨rank, score, chunk, -⟩ := key
  simp only [sourceIdentity, Prod.mk.injEq] at source
  obtain ⟨document, title, first, last, path, content⟩ := source
  refine row_ext ?_
  simp only [shownRow, rank, score_eq score, chunk, retriever, document, title,
    first, last, path, content]

section Shown

variable {floats : FloatText} {count : String → ℕ} {tokenBudget : ℤ}

theorem serializedFrom_shown (index : ℕ) (rows : List RetrievedChunk) :
    serializedFrom floats index (rows.map shownRow) =
      serializedFrom floats index rows := by
  rw [serializedFrom, List.zipIdx_map, List.map_map]
  rfl

theorem itemsFrom_shown (index : ℕ) (rows : List RetrievedChunk) :
    itemsFrom floats count index (rows.map shownRow) =
      itemsFrom floats count index rows := by
  rw [itemsFrom, List.zipIdx_map, List.map_map]
  rfl

theorem packedText_shown (rows : List RetrievedChunk) :
    packedText floats (rows.map shownRow) = packedText floats rows := by
  rw [packedText, serializedFrom_shown, packedText]

theorem fittingFrom_shown (before rows : List RetrievedChunk) :
    fittingFrom (Fits floats count tokenBudget) (before.map shownRow)
        (rows.map shownRow) =
      (fittingFrom (Fits floats count tokenBudget) before rows).map
        shownRow := by
  induction rows generalizing before with
  | nil => rfl
  | cons row rows induction =>
      have fit : Fits floats count tokenBudget
          (before.map shownRow ++ [shownRow row]) ↔
            Fits floats count tokenBudget (before ++ [row]) := by
        rw [Fits, Fits, ← packedText_shown (before ++ [row]), List.map_append]
        rfl
      have later := induction (before ++ [row])
      rw [List.map_append] at later
      rw [List.map_cons, fittingFrom, fittingFrom]
      simp only [fit]
      split_ifs
      · rw [List.map_cons, ← later]
        rfl
      · rfl

theorem chunkIds_shown (rows : List RetrievedChunk) :
    chunkIds (rows.map shownRow) = chunkIds rows := by
  rw [chunkIds, List.map_map]
  rfl

/-- The context is made of the rows as they are shown. -/
theorem contextOf_eq_of_shown {hits others : List RetrievedChunk}
    (same : (firstRows (orderedRows hits)).map shownRow =
      (firstRows (orderedRows others)).map shownRow)
    (repeated : repeatedChunks hits = repeatedChunks others) :
    contextOf floats count hits tokenBudget =
      contextOf floats count others tokenBudget := by
  have included : (fittingFrom (Fits floats count tokenBudget) []
        (firstRows (orderedRows hits))).map shownRow =
      (fittingFrom (Fits floats count tokenBudget) []
        (firstRows (orderedRows others))).map shownRow := by
    rw [← fittingFrom_shown, ← fittingFrom_shown, same]
  have lengths := congrArg List.length included
  rw [List.length_map, List.length_map] at lengths
  rw [contextOf, contextOf, ← itemsFrom_shown, included, itemsFrom_shown,
    ← packedText_shown, included, packedText_shown, repeated, lengths,
    ← chunkIds_shown, List.map_drop, same, ← List.map_drop, chunkIds_shown]

end Shown

/-! ## Best rows -/

/-- No row of the same chunk comes before. -/
def IsBest (hits : List RetrievedChunk) (row : RetrievedChunk) : Prop :=
  ∀ rival ∈ hits, rival.hit.chunkId = row.hit.chunkId →
    rowKey row ≤ rowKey rival

theorem IsBest.of_perm {hits others : List RetrievedChunk}
    {row : RetrievedChunk} (best : IsBest hits row)
    (permuted : hits.Perm others) : IsBest others row :=
  fun rival member => best rival (permuted.mem_iff.mpr member)

theorem chunkId_of_rowKey {row other : RetrievedChunk}
    (same : rowKey row = rowKey other) :
    row.hit.chunkId = other.hit.chunkId := by
  simp only [rowKey, toLex_inj, Prod.mk.injEq] at same
  exact same.2.2.1

private theorem isBest_of_find? {hits : List RetrievedChunk}
    {row : RetrievedChunk} {chunkId : String}
    (found : (orderedRows hits).find? (fun other =>
      other.hit.chunkId = chunkId) = some row) :
    row ∈ hits ∧ row.hit.chunkId = chunkId ∧ IsBest hits row := by
  have permuted : (orderedRows hits).Perm hits := sortBy_perm _ _
  have sorted := sortBy_pairwise rowKey hits
  obtain ⟨same, before, after, cut, others⟩ :=
    List.find?_eq_some_iff_append.mp found
  rw [decide_eq_true_eq] at same
  refine ⟨permuted.mem_iff.mp (List.mem_of_find?_eq_some found), same, ?_⟩
  intro rival member alike
  rw [show sortBy rowKey hits = _ from cut] at sorted
  rw [← permuted.mem_iff, cut] at member
  rcases List.mem_append.mp member with early | late
  · have different := others rival early
    simp [alike, same] at different
  · rcases List.mem_cons.mp late with rfl | later
    · exact le_rfl
    · exact (List.pairwise_cons.mp (List.pairwise_append.mp sorted).2.1).1
        rival later

theorem isBest_of_mem_firstRows {hits : List RetrievedChunk}
    {row : RetrievedChunk} (member : row ∈ firstRows (orderedRows hits)) :
    row ∈ hits ∧ IsBest hits row := by
  obtain ⟨inside, -, best⟩ := isBest_of_find? (mem_firstBy_iff.mp member)
  exact ⟨inside, best⟩

/-- Among best rows of one key, the first one is kept. -/
theorem mem_firstRows_cons {row : RetrievedChunk} {rest : List RetrievedChunk}
    (best : IsBest (row :: rest) row) :
    row ∈ firstRows (orderedRows (row :: rest)) := by
  have permuted : (orderedRows (row :: rest)).Perm (row :: rest) :=
    sortBy_perm _ _
  refine mem_firstBy_iff.mpr ?_
  cases found : (orderedRows (row :: rest)).find? fun other =>
      other.hit.chunkId = row.hit.chunkId with
  | none =>
      have missing := List.find?_eq_none.mp found row
        (permuted.mem_iff.mpr List.mem_cons_self)
      exact absurd (decide_eq_true rfl) missing
  | some first =>
      obtain ⟨inside, alike, least⟩ := isBest_of_find? found
      have key : rowKey first = rowKey row :=
        le_antisymm (least row List.mem_cons_self alike.symm)
          (best first inside alike)
      have kept := filter_sortBy rowKey (row :: rest) (rowKey row)
      obtain ⟨-, before, after, cut, others⟩ :=
        List.find?_eq_some_iff_append.mp found
      have none : before.filter (fun other => rowKey other = rowKey row) =
          [] := by
        rw [List.filter_eq_nil_iff]
        intro other member same
        have different := others other member
        simp [chunkId_of_rowKey (of_decide_eq_true same)] at different
      rw [show sortBy rowKey (row :: rest) = _ from cut, List.filter_append,
        none, List.nil_append, List.filter_cons_of_pos (by simpa using key),
        List.filter_cons_of_pos (by simp)] at kept
      rw [(List.cons.inj kept).1]

/-! ## Reordered rows -/

private theorem map_eq_of_map_eq {α β γ : Type} {first : α → β}
    {second : α → γ} {left right : List α}
    (implies : ∀ item ∈ left, ∀ other ∈ right, first item = first other →
      second item = second other)
    (same : left.map first = right.map first) :
    left.map second = right.map second := by
  induction left generalizing right with
  | nil =>
      rw [List.map_nil, eq_comm, List.map_eq_nil_iff] at same
      rw [same]
  | cons item left induction =>
      cases right with
      | nil => cases same
      | cons other right =>
          rw [List.map_cons, List.map_cons] at same ⊢
          obtain ⟨here, later⟩ := List.cons.inj same
          rw [implies item List.mem_cons_self other List.mem_cons_self here,
            induction (fun item member other member' =>
              implies item (List.mem_cons_of_mem _ member) other
                (List.mem_cons_of_mem _ member')) later]

/-- Best rows of one key have one retriever. -/
def OneRetriever (hits : List RetrievedChunk) : Prop :=
  ∀ row ∈ hits, ∀ other ∈ hits, rowKey row = rowKey other →
    IsBest hits row → row.hit.retriever = other.hit.retriever

theorem shown_firstRows_perm {hits others : List RetrievedChunk}
    (permuted : hits.Perm others) (agreeing : Agreeing hits)
    (one : OneRetriever hits) :
    (firstRows (orderedRows hits)).map shownRow =
      (firstRows (orderedRows others)).map shownRow := by
  refine @map_eq_of_map_eq _ _ _ rowKey shownRow _ _ ?_ ?_
  · intro row member other member' key
    obtain ⟨inside, best⟩ := isBest_of_mem_firstRows member
    have inside' := permuted.mem_iff.mpr (isBest_of_mem_firstRows member').1
    exact shownRow_eq key
      (agreeing row inside other inside' (chunkId_of_rowKey key))
      (one row inside other inside' key best)
  · have keys : (fun row : RetrievedChunk => row.hit.chunkId) =
        fun row => (ofLex (ofLex (ofLex (rowKey row)).2).2).1 := rfl
    rw [firstRows, firstRows, keys,
      ← firstBy_map rowKey fun key => (ofLex (ofLex (ofLex key).2).2).1,
      ← firstBy_map rowKey fun key => (ofLex (ofLex (ofLex key).2).2).1,
      orderedRows, orderedRows, map_sortBy_eq_of_perm permuted]

section Build

variable {floats : FloatText} {count : String → ℕ} {platform : Platform}

private theorem exists_bound {α : Type} (size : α → ℕ) (items : List α) :
    ∃ bound, ∀ item ∈ items, size item ≤ bound := by
  induction items with
  | nil => exact ⟨0, List.forall_mem_nil _⟩
  | cons item items induction =>
      obtain ⟨bound, bounded⟩ := induction
      refine ⟨max (size item) bound, List.forall_mem_cons.mpr
        ⟨le_max_left _ _, fun other member =>
          (bounded other member).trans (le_max_right _ _)⟩⟩

/-- A large budget has room for all rows. -/
private theorem exists_budget (floats : FloatText) (count : String → ℕ)
    (rows others : List RetrievedChunk) :
    ∃ tokenBudget : ℤ, 0 ≤ tokenBudget ∧
      fittingFrom (Fits floats count tokenBudget) [] rows = rows ∧
      fittingFrom (Fits floats count tokenBudget) [] others = others := by
  obtain ⟨bound, bounded⟩ := exists_bound
    (fun beginning => count (packedText floats beginning))
    (rows.inits ++ others.inits)
  have all {list : List RetrievedChunk}
      (listed : list.inits ⊆ rows.inits ++ others.inits) :
      fittingFrom (Fits floats count bound) [] list = list := by
    refine (fittingFrom_initial [] list).eq_of_length_le ?_
    refine (prefix_fittingFrom List.prefix_rfl ?_).length_le
    intro beginning begins _
    exact Int.ofNat_le.mpr (bounded beginning
      (listed ((List.mem_inits _ _).mpr begins)))
  exact ⟨bound, Int.natCast_nonneg bound, all (List.subset_append_left _ _),
    all (List.subset_append_right _ _)⟩

private theorem exists_item {index : ℕ} {rows : List RetrievedChunk}
    {row : RetrievedChunk} (member : row ∈ rows) :
    ∃ item ∈ itemsFrom floats count index rows,
      item.chunkId = row.hit.chunkId ∧
        item.retriever = row.hit.retriever := by
  induction rows generalizing index with
  | nil => cases member
  | cons first rows induction =>
      rw [itemsFrom, List.zipIdx_cons, List.map_cons, ← itemsFrom]
      rcases List.mem_cons.mp member with rfl | later
      · exact ⟨_, List.mem_cons_self, rfl, rfl⟩
      · obtain ⟨item, listed, shown⟩ := @induction (index + 1) later
        exact ⟨item, List.mem_cons_of_mem _ listed, shown⟩

/-- The retrievers of an equal context are equal. -/
private theorem retriever_eq {row other : RetrievedChunk}
    {rows others : List RetrievedChunk}
    (same : itemsFrom floats count 1 rows = itemsFrom floats count 1 others)
    (distinct : (chunkIds rows).Nodup)
    (member : row ∈ rows) (member' : other ∈ others)
    (alike : row.hit.chunkId = other.hit.chunkId) :
    row.hit.retriever = other.hit.retriever := by
  obtain ⟨item, listed, chunk, retriever⟩ := @exists_item floats count 1 _ _
    member
  obtain ⟨item', listed', chunk', retriever'⟩ := @exists_item floats count 1 _
    _ member'
  rw [← same] at listed'
  rw [← @map_chunkId_itemsFrom floats count 1] at distinct
  have equal := List.inj_on_of_nodup_map distinct listed listed'
    (chunk.trans (alike.trans chunk'.symm))
  rw [← retriever, ← retriever', equal]

private theorem oneRetriever_of_order_free
    (counts : CountsTokens floats count platform) {hits : List RetrievedChunk}
    (agreeing : Agreeing hits)
    (order_free : ∀ (tokenBudget : ℤ) (permuted : List RetrievedChunk),
      hits.Perm permuted → build floats platform permuted tokenBudget =
        build floats platform hits tokenBudget) :
    OneRetriever hits := by
  intro row member other member' key best
  classical
  -- Either of the two rows comes first in some order.
  have first := List.perm_cons_erase member
  have first' := List.perm_cons_erase member'
  have kept := mem_firstRows_cons (best.of_perm first)
  have best' : IsBest hits other := fun rival inside alike =>
    key ▸ best rival inside (alike.trans (chunkId_of_rowKey key).symm)
  have kept' := mem_firstRows_cons (best'.of_perm first')
  obtain ⟨tokenBudget, nonnegative, all, all'⟩ := exists_budget floats count
    (firstRows (orderedRows (row :: hits.erase row)))
    (firstRows (orderedRows (other :: hits.erase other)))
  have built := order_free tokenBudget _ first
  have built' := order_free tokenBudget _ first'
  rw [build_of_agreeing counts nonnegative agreeing,
    build_of_agreeing counts nonnegative ((agreeing_perm first).mp agreeing)]
    at built
  rw [build_of_agreeing counts nonnegative agreeing,
    build_of_agreeing counts nonnegative ((agreeing_perm first').mp agreeing)]
    at built'
  have items := congrArg ContextBundle.items
    (Except.ok.inj (built.trans built'.symm))
  rw [contextOf, contextOf, all, all'] at items
  exact retriever_eq items (keys_firstBy_nodup _ _) kept kept'
    (chunkId_of_rowKey key)

/-- Reordering the rows never changes a context exactly when the rows conflict
or the best rows of each chunk that tie have one retriever. -/
theorem context_order_free_iff (counts : CountsTokens floats count platform)
    (hits : List RetrievedChunk) :
    (∀ (tokenBudget : ℤ) (permuted : List RetrievedChunk),
        hits.Perm permuted → build floats platform permuted tokenBudget =
          build floats platform hits tokenBudget) ↔
      ¬ Agreeing hits ∨ OneRetriever hits := by
  constructor
  · intro order_free
    by_cases agreeing : Agreeing hits
    · exact .inr (oneRetriever_of_order_free counts agreeing order_free)
    · exact .inl agreeing
  · intro settled tokenBudget others permuted
    rcases lt_or_ge tokenBudget 0 with negative | nonnegative
    · rw [build_of_negative _ negative, build_of_negative _ negative]
    by_cases agreeing : Agreeing hits
    · have one := settled.resolve_left (not_not.mpr agreeing)
      rw [build_of_agreeing counts nonnegative agreeing,
        build_of_agreeing counts nonnegative
          ((agreeing_perm permuted).mp agreeing),
        contextOf_eq_of_shown (shown_firstRows_perm permuted agreeing one)
          (repeatedChunks_perm permuted)]
    · rw [build_of_conflict nonnegative agreeing,
        build_of_conflict nonnegative fun agreed =>
          agreeing ((agreeing_perm permuted).mpr agreed)]

end Build

/-- The same row of another retriever. -/
def denseRow : RetrievedChunk :=
  { forgedRow with
    hit := { forgedRow.hit with retriever := "dense" }
    valid := forgedRow.valid }

theorem context_order_free_single :
    build sampleFloats characterPlatform [denseRow] 10 =
      build sampleFloats characterPlatform [denseRow] 10 := by
  refine (@context_order_free_iff sampleFloats String.length characterPlatform
    (fun _ => rfl) [denseRow]).mpr (.inr ?_) 10 [denseRow] (.refl _)
  intro row member other member' _ _
  rw [List.mem_singleton.mp member, List.mem_singleton.mp member']

private theorem tied_context {row other : RetrievedChunk}
    (tied : rowKey row = rowKey other)
    (source : sourceIdentity row = sourceIdentity other) :
    build sampleFloats sixtyTokens [row, other] 1000 =
      .ok (contextOf sampleFloats (fun _ => 60) [row, other] 1000) ∧
        firstRows (orderedRows [row, other]) = [row] := by
  constructor
  · refine build_of_agreeing (fun _ => rfl) (by decide) ?_
    simp [Agreeing, source]
  · have sorted : orderedRows [row, other] = [row, other] :=
      sortBy_eq_self (by simp [tied])
    rw [sorted, firstRows, firstBy, firstBy, firstBy, List.filter_nil,
      List.filter_cons_of_neg (by simp [chunkId_of_rowKey tied]),
      List.filter_nil]

/-- The retriever that comes first is shown. -/
theorem tied_rows_order_shown :
    [denseRow, forgedRow].Perm [forgedRow, denseRow] ∧
      build sampleFloats sixtyTokens [forgedRow, denseRow] 1000 ≠
        build sampleFloats sixtyTokens [denseRow, forgedRow] 1000 := by
  refine ⟨.swap _ _ _, fun same => ?_⟩
  obtain ⟨built, distinct⟩ := @tied_context forgedRow denseRow rfl rfl
  obtain ⟨built', distinct'⟩ := @tied_context denseRow forgedRow rfl rfl
  rw [built, built'] at same
  have retrievers := congrArg (fun bundle : ContextBundle =>
    bundle.items.map ContextItem.retriever) (Except.ok.inj same)
  simp only [contextOf, distinct, distinct'] at retrievers
  revert retrievers
  decide +kernel

end ContextBuilder

end RagBench
