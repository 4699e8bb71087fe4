import RagBench.Execution
import RagBench.Ingestion.ChunkContent
import RagBench.Providers.Gateway
import RagBench.Related

/-!
# The chunks of a large document

The chunks of a PDF are ranges of its pages.  The merge moves the pages of each
chunk behind those of the chunks before it, and the ids of its elements behind
the greatest id so far.
-/

namespace RagBench

/-! ## Ranges of pages -/

/-- The pages of a range, counted from one: its start is an index. -/
def rangePages (range : ℕ × ℕ) : List ℕ :=
  List.range' (range.1 + 1) range.2

/-- Nonempty ranges which have the pages of one range, in order. -/
def Covers (ranges : List (ℕ × ℕ)) (whole : ℕ × ℕ) : Prop :=
  ranges.flatMap rangePages = rangePages whole ∧ ∀ range ∈ ranges, 0 < range.2

def chunkRange {α : Type} (chunk : ℕ × ℕ × α) : ℕ × ℕ :=
  (chunk.1, chunk.2.1)

theorem Covers.single {range : ℕ × ℕ} (positive : 0 < range.2) :
    Covers [range] range :=
  ⟨List.append_nil _, List.forall_mem_singleton.mpr positive⟩

/-- Ranges are moved together. -/
theorem Covers.shift {ranges : List (ℕ × ℕ)} {start count : ℕ}
    (covers : Covers ranges (start, count)) (first : ℕ) :
    Covers (ranges.map fun range => (first + range.1, range.2))
      (first + start, count) := by
  have moved (range : ℕ × ℕ) : rangePages (first + range.1, range.2) =
      (rangePages range).map (first + ·) := by
    rw [rangePages, rangePages, List.map_add_range', Nat.add_assoc]
  constructor
  · rw [List.flatMap_map, moved (start, count), ← covers.1, List.map_flatMap]
    exact List.flatMap_congr fun range _ => moved range
  · intro range member
    obtain ⟨source, listed, rfl⟩ := List.mem_map.mp member
    exact covers.2 source listed

/-- Each range of a cover may be covered itself. -/
theorem Covers.refine {α : Type} {chunks : List (ℕ × ℕ × α)} {whole : ℕ × ℕ}
    (covers : Covers (chunks.map chunkRange) whole)
    {groups : List (List (ℕ × ℕ))}
    (each : List.Forall₂ (fun chunk ranges => Covers ranges (chunkRange chunk))
      chunks groups) : Covers groups.flatten whole := by
  constructor
  · rw [← covers.1]
    clear covers
    induction each with
    | nil => rfl
    | cons first _ induction =>
        rw [List.flatten_cons, List.flatMap_append, induction, first.1]
        rfl
  · clear covers
    induction each with
    | nil => exact List.forall_mem_nil _
    | cons first _ induction =>
        rw [List.flatten_cons]
        exact List.forall_mem_append.mpr ⟨first.2, induction⟩

/-! ## The chunks of a PDF -/

/-- The ranges of the first chunks. -/
private theorem starts_cover {maxPages pages : ℕ} (positive : 0 < maxPages)
    (count : ℕ) (reached : count = 0 ∨ (count - 1) * maxPages < pages) :
    Covers ((List.range count).map fun index => (index * maxPages,
        min (index * maxPages + maxPages) pages - index * maxPages))
      (0, min (count * maxPages) pages) := by
  induction count with
  | zero =>
      rw [Nat.zero_mul, Nat.zero_min]
      exact ⟨rfl, List.forall_mem_nil _⟩
  | succ count induction =>
      have started : count * maxPages < pages := by
        simpa using reached
      have before : count = 0 ∨ (count - 1) * maxPages < pages := by
        refine .inr (lt_of_le_of_lt ?_ started)
        exact Nat.mul_le_mul_right _ (Nat.sub_le _ _)
      obtain ⟨pagesBefore, positiveBefore⟩ := induction before
      rw [List.range_succ, List.map_append, Nat.succ_mul]
      have full : min (count * maxPages) pages = count * maxPages :=
        Nat.min_eq_left started.le
      rw [full] at pagesBefore
      constructor
      · rw [List.flatMap_append, pagesBefore, List.map_singleton,
          List.flatMap_singleton]
        simp only [rangePages, Nat.zero_add]
        rw [Nat.add_comm (count * maxPages) 1, List.range'_append_1]
        congr 1
        omega
      · refine List.forall_mem_append.mpr ⟨positiveBefore,
          List.forall_mem_singleton.mpr ?_⟩
        change 0 < min (count * maxPages + maxPages) pages - count * maxPages
        omega

variable {platform : Platform}

/-- The chunks of a PDF partition its pages. -/
theorem pdfChunks_cover {request : ParseRequest} {maxPages : ℕ}
    {chunks : List (ℕ × ℕ × Bytes)} (positive : 0 < maxPages)
    (cut : pdfChunks platform request maxPages = .ok chunks) :
    ∃ pages : ℕ, request.billablePages = pages ∧
      Covers (chunks.map chunkRange) (0, pages) ∧
      ∀ chunk ∈ chunks, chunk.2.1 ≤ maxPages ∧
        platform.pdfPages request.content chunk.1 (chunk.1 + chunk.2.1) =
          .ok chunk.2.2 := by
  obtain ⟨pages, -, looped⟩ := bind_eq_ok.mp cut
  split_ifs at looped with differs
  · cases looped
  rw [List.mapM_map, mapM_eq_ok] at looped
  have covers : Covers (chunks.map chunkRange) (0, pages) := by
    have ranges : chunks.map chunkRange =
        (List.range ((pages + maxPages - 1) / maxPages)).map fun index =>
          (index * maxPages,
            min (index * maxPages + maxPages) pages - index * maxPages) := by
      generalize List.range ((pages + maxPages - 1) / maxPages) = indices
        at looped ⊢
      clear cut
      induction looped with
      | nil => rfl
      | cons first _ induction =>
          obtain ⟨content, -, returned⟩ := bind_eq_ok.mp first
          rw [List.map_cons, List.map_cons, induction,
            ← Except.ok.inj returned]
          rfl
    have divided := Nat.div_add_mod (pages + maxPages - 1) maxPages
    have remainder := Nat.mod_lt (pages + maxPages - 1) positive
    rw [Nat.mul_comm] at divided
    have reaches : pages ≤ (pages + maxPages - 1) / maxPages * maxPages := by
      omega
    rw [ranges]
    have counted := @starts_cover maxPages pages positive
      ((pages + maxPages - 1) / maxPages) ?_
    · rwa [Nat.min_eq_right reaches] at counted
    · rcases Nat.eq_zero_or_pos ((pages + maxPages - 1) / maxPages) with
        none | some
      · exact .inl none
      · right
        have one := Nat.le_mul_of_pos_left maxPages some
        rw [Nat.sub_mul]
        omega
  refine ⟨pages, (not_not.mp differs).symm, covers, fun chunk member => ?_⟩
  have filled := covers.2 _ (List.mem_map_of_mem member)
  obtain ⟨index, -, made⟩ := exists_left_of_forall₂ looped member
  obtain ⟨content, copied, returned⟩ := bind_eq_ok.mp made
  obtain rfl := Except.ok.inj returned
  simp only [chunkRange] at filled copied ⊢
  have finish : index * maxPages +
      (min (index * maxPages + maxPages) pages - index * maxPages) =
        min (index * maxPages + maxPages) pages := by
    omega
  rw [finish]
  exact ⟨by omega, copied⟩

/-- A PDF with the declared number of pages is cut. -/
theorem exists_pdfChunks {request : ParseRequest} {maxPages pages : ℕ}
    (declared : request.billablePages = pages)
    (counted : platform.pdfPageCount request.content = .ok pages)
    (copied : ∀ first last, ∃ content,
      platform.pdfPages request.content first last = .ok content) :
    ∃ chunks, pdfChunks platform request maxPages = .ok chunks := by
  unfold pdfChunks
  rw [counted]
  change ∃ chunks, (if (pages : ℤ) ≠ request.billablePages then _ else _) =
    Except.ok chunks
  rw [if_neg (not_not.mpr declared.symm)]
  refine exists_mapM_iff.mpr fun start _ => ?_
  obtain ⟨content, copied⟩ :=
    copied start (min (start + maxPages) pages)
  exact ⟨_, bind_eq_ok.mpr ⟨content, copied, rfl⟩⟩

/-! ## The responses for the chunks -/

namespace UpstageGateway

variable {gateway : UpstageGateway} {σ : Type}
  {perform : σ → (op : GatewayOp) → Except PyException (GatewayReply op) →
    σ → Prop}
  {state finish : σ}
  {events : List (Awaited GatewayOp GatewayReply PyException)}

/-- Each chunk has one response. -/
theorem parseChunks_ranges {request : ParseRequest} {first : ℕ}
    {chunks : List (ℕ × ℕ × Bytes)}
    {responses : List (ℕ × ℕ × ParsedDocument)}
    (run : (gateway.parseChunks request first chunks).Executes perform state
      events (.ok responses) finish) :
    responses.map chunkRange =
      (chunks.map chunkRange).map fun range => (first + range.1, range.2) := by
  induction chunks generalizing state finish events responses with
  | nil =>
      obtain ⟨-, same, -⟩ := Program.executes_pure.mp run
      cases same
      rfl
  | cons chunk rest induction =>
      rcases Program.executes_bind.mp run with ⟨_, _, failed⟩ |
        ⟨_, response, _, _, _, run, _⟩
      · cases failed
      rcases Program.executes_bind.mp run with ⟨_, _, failed⟩ |
        ⟨_, others, _, _, later, run, _⟩
      · cases failed
      obtain ⟨-, same, -⟩ := Program.executes_pure.mp run
      cases same
      rw [List.map_cons, induction later]
      rfl

/-- The responses for a chunk cover its range. -/
theorem parseLargeChunk_covers {request : ParseRequest}
    {chunk : ℕ × ℕ × Bytes} {responses : List (ℕ × ℕ × ParsedDocument)}
    (positive : 0 < chunk.2.1)
    (run : (gateway.parseLargeChunk request chunk).Executes perform state
      events (.ok responses) finish) :
    Covers (responses.map chunkRange) (chunkRange chunk) := by
  have alone {state : σ}
      {events : List (Awaited GatewayOp GatewayReply PyException)}
      (run : (gateway.parseChunks request 0 [chunk]).Executes perform state
        events (.ok responses) finish) :
      Covers (responses.map chunkRange) (chunkRange chunk) := by
    rw [parseChunks_ranges run]
    have single := @Covers.single (chunkRange chunk) positive
    simpa using single
  obtain ⟨start, pages, content⟩ := chunk
  unfold parseLargeChunk at run
  dsimp only at run
  split_ifs at run with divided
  · rcases Program.executes_fromExcept_bind.mp run with
      ⟨_, _, failed, _⟩ | ⟨key, -, run⟩
    · cases failed
    rcases Program.executes_bind.mp run with ⟨_, _, failed⟩ |
      ⟨_, cached, _, _, _, run, _⟩
    · cases failed
    cases cached with
    | some response => exact alone run
    | none =>
        rcases Program.executes_fromExcept_bind.mp run with
          ⟨_, _, failed, _⟩ | ⟨singles, cut, run⟩
        · cases failed
        obtain ⟨counted, declared, covers, -⟩ :=
          pdfChunks_cover Nat.one_pos cut
        obtain rfl : pages = counted := by
          have same : (pages : ℤ) = counted := declared
          exact_mod_cast same
        rw [parseChunks_ranges run]
        exact covers.shift start
  · exact alone run

theorem parseLargeChunks_cover {request : ParseRequest}
    {chunks : List (ℕ × ℕ × Bytes)}
    {responses : List (ℕ × ℕ × ParsedDocument)} {whole : ℕ × ℕ}
    (covers : Covers (chunks.map chunkRange) whole)
    (run : (gateway.parseLargeChunks request chunks).Executes perform state
      events (.ok responses) finish) :
    Covers (responses.map chunkRange) whole := by
  suffices grouped : ∃ groups : List (List (ℕ × ℕ)),
      List.Forall₂ (fun chunk ranges => Covers ranges (chunkRange chunk))
          chunks groups ∧
        responses.map chunkRange = groups.flatten by
    obtain ⟨groups, each, same⟩ := grouped
    rw [same]
    exact covers.refine each
  have positive := covers.2
  clear covers
  induction chunks generalizing state finish events responses with
  | nil =>
      obtain ⟨-, same, -⟩ := Program.executes_pure.mp run
      cases same
      exact ⟨[], .nil, rfl⟩
  | cons chunk rest induction =>
      rw [List.map_cons, List.forall_mem_cons] at positive
      rcases Program.executes_bind.mp run with ⟨_, _, failed⟩ |
        ⟨_, group, _, _, here, run, _⟩
      · cases failed
      rcases Program.executes_bind.mp run with ⟨_, _, failed⟩ |
        ⟨_, others, _, _, later, run, _⟩
      · cases failed
      obtain ⟨-, same, -⟩ := Program.executes_pure.mp run
      cases same
      obtain ⟨groups, each, flat⟩ := induction later positive.2
      refine ⟨group.map chunkRange :: groups,
        .cons (parseLargeChunk_covers positive.1 here) each, ?_⟩
      rw [List.map_append, flat, List.flatten_cons]

/-- A large document is merged from responses that partition its pages. -/
theorem parseLargeDocument_ok {request : ParseRequest} {maxPages : ℕ}
    {document : ParsedDocument} (positive : 0 < maxPages)
    (run : (gateway.parseLargeDocument request maxPages).Executes perform state
      events (.ok document) finish) :
    ∃ (pages : ℕ) (responses : List (ℕ × ℕ × ParsedDocument)),
      request.billablePages = pages ∧
        Covers (responses.map chunkRange) (0, pages) ∧
        mergeParseChunks gateway.platform responses pages =
          .ok document.rawResponse := by
  rcases Program.executes_fromExcept_bind.mp run with
    ⟨_, _, failed, _⟩ | ⟨chunks, cut, run⟩
  · cases failed
  rcases Program.executes_bind.mp run with ⟨_, _, failed⟩ |
    ⟨_, responses, _, _, parsed, run, _⟩
  · cases failed
  rcases Program.executes_fromExcept_bind.mp run with
    ⟨_, _, failed, _⟩ | ⟨raw, merged, run⟩
  · cases failed
  obtain ⟨-, same, -⟩ := Program.executes_pure.mp run
  cases same
  obtain ⟨pages, declared, covers, -⟩ := pdfChunks_cover positive cut
  exact ⟨pages, responses, declared, parseLargeChunks_cover covers parsed,
    declared ▸ merged⟩

end UpstageGateway

/-! ## The merged elements -/

def pageKeys : List String :=
  ["page", "page_number", "source_page"]

def pageAt (item : JsonObject) (key : String) : Option ℤ :=
  (Json.get? item key).bind Json.asInt

/-- A round of the loop of `shiftPages`. -/
def shiftPage (start : ℤ) (shifted : JsonObject) (key : String) : JsonObject :=
  match (Json.get? shifted key).bind Json.asInt with
  | some page => Dict.assign key (.int (page + start)) shifted
  | none => shifted

/-- Every page number is moved. -/
theorem pageAt_shiftPages (start : ℤ) (item : JsonObject) {key : String}
    (named : key ∈ pageKeys) :
    pageAt (shiftPages start item) key =
      (pageAt item key).map (· + start) := by
  have shifted (keys : List String) (distinct : keys.Nodup) :
      pageAt (keys.foldl (shiftPage start) item) key =
        if key ∈ keys then (pageAt item key).map (· + start)
        else pageAt item key := by
    induction keys generalizing item with
    | nil => rfl
    | cons first keys induction =>
        obtain ⟨fresh, distinct⟩ := List.nodup_cons.mp distinct
        rw [List.foldl_cons, induction _ distinct, shiftPage]
        by_cases here : key = first
        · subst here
          rw [if_neg fresh, if_pos List.mem_cons_self]
          change _ = ((Json.get? item key).bind Json.asInt).map (· + start)
          cases found : (Json.get? item key).bind Json.asInt with
          | none => exact found
          | some page =>
              rw [pageAt, Json.get?, Dict.lookup_assign, if_pos rfl]
              rfl
        · have other (page : ℤ) : pageAt
              (Dict.assign first (.int page) item) key = pageAt item key := by
            rw [pageAt, Json.get?, Dict.lookup_assign,
              if_neg (Ne.symm here)]
            rfl
          simp only [List.mem_cons, here, false_or]
          cases (Json.get? item first).bind Json.asInt with
          | none => rfl
          | some page =>
              dsimp only
              rw [other]
  exact (shifted pageKeys (by decide)).trans (if_pos named)

variable {start offset : ℤ} {source item : JsonObject}

private theorem get?_numberElement
    (success : numberElement offset source = .ok item) {key : String}
    (other : key ≠ "id") : Json.get? item key = Json.get? source key := by
  unfold numberElement at success
  split at success
  · rw [Except.ok.inj success]
  · rw [Except.ok.inj success]
  · split at success
    · rw [← Except.ok.inj success, Json.get?, Dict.lookup_assign,
        if_neg (Ne.symm other)]
      rfl
    · cases success

private theorem get?_mergeContent
    (success : mergeContent platform offset source = .ok item) {key : String}
    (other : key ≠ "content") : Json.get? item key = Json.get? source key := by
  unfold mergeContent at success
  split at success
  · split at success
    · obtain ⟨shifted, -, same⟩ := bind_eq_ok.mp success
      rw [← Except.ok.inj same, Json.get?, Dict.lookup_assign,
        if_neg (Ne.symm other)]
      rfl
    · rw [Except.ok.inj success]
  · rw [Except.ok.inj success]

/-- The pages of a merged element. -/
theorem pageAt_mergeElement
    (success : mergeElement platform start offset source = .ok item)
    {key : String} (named : key ∈ pageKeys) :
    pageAt item key = (pageAt source key).map (· + start) := by
  have others : key ≠ "id" ∧ key ≠ "content" := by
    revert key
    simp [pageKeys]
  rw [mergeElement_eq] at success
  obtain ⟨numbered, renumbered, success⟩ := bind_eq_ok.mp success
  rw [pageAt, get?_mergeContent success others.2, ← pageAt,
    pageAt_shiftPages start numbered named, pageAt,
    get?_numberElement renumbered others.1]
  rfl

/-! ## The merged chunks -/

/-- A response whose ids are distinct numbers from zero on, and whose elements
lie on its pages. -/
structure WellNumbered (chunk : ℕ × ℕ × ParsedDocument) : Prop where
  distinct : (numericIds chunk.2.2.rawResponse).Nodup
  nonnegative : ∀ id ∈ numericIds chunk.2.2.rawResponse, 0 ≤ id
  inside : ∀ element, .object element ∈
      responseElements chunk.2.2.rawResponse →
    ∀ key ∈ pageKeys, ∀ page, pageAt element key = some page →
      1 ≤ page ∧ page ≤ chunk.2.1

/-- What the merge makes of the elements of one chunk, in their order. -/
structure MergedChunk (platform : Platform) (chunk : ℕ × ℕ × ParsedDocument)
    (group : List JsonObject) : Prop where
  elements : ∃ (offset : ℤ) (sources : List JsonObject), 0 ≤ offset ∧
    responseElements chunk.2.2.rawResponse = sources.map .object ∧
    List.Forall₂ (fun source item =>
      mergeElement platform chunk.1 offset source = .ok item ∧
        numericId item = (numericId source).map (· + offset) ∧
        ∀ key ∈ pageKeys, pageAt item key =
          (pageAt source key).map (· + (chunk.1 : ℤ))) sources group
  inside : ∀ item ∈ group, ∀ key ∈ pageKeys, ∀ page,
    pageAt item key = some page →
      (chunk.1 : ℤ) + 1 ≤ page ∧ page ≤ (chunk.1 : ℤ) + chunk.2.1

/-- The pages a piece of evidence states. -/
def evidencePages : Json → List ℤ
  | .object entries =>
      match pageAt entries "start_page", pageAt entries "end_page" with
      | some first, some last =>
          (List.range (last - first + 1).toNat).map fun index : ℕ =>
            first + index
      | _, _ => []
  | _ => []

/-- The ids so far are distinct, and the next chunk starts behind them. -/
structure MergeState.Numbered (state : MergeState) : Prop where
  distinct : state.ids.Nodup
  below : ∀ id ∈ state.ids, 0 ≤ id ∧ id < state.nextElementId
  nonnegative : 0 ≤ state.nextElementId

/-- One round keeps the ids apart. -/
private theorem numbered_next {state next : MergeState} {raw : JsonObject}
    (numbered : state.Numbered)
    (ids : next.ids =
      state.ids ++ (numericIds raw).map (· + state.nextElementId))
    (nextId : next.nextElementId =
      (next.ids.max?.map (· + 1)).getD state.nextElementId)
    (distinct : (numericIds raw).Nodup)
    (nonnegative : ∀ id ∈ numericIds raw, 0 ≤ id) : next.Numbered := by
  have start := numbered.nonnegative
  have later : ∀ id ∈ (numericIds raw).map (· + state.nextElementId),
      state.nextElementId ≤ id := by
    intro id member
    obtain ⟨source, listed, rfl⟩ := List.mem_map.mp member
    have high := nonnegative source listed
    omega
  have positive : ∀ id ∈ next.ids, 0 ≤ id := by
    intro id member
    rw [ids, List.mem_append] at member
    rcases member with early | late
    · exact (numbered.below id early).1
    · exact start.trans (later id late)
  have apart : next.ids.Nodup := by
    rw [ids]
    refine List.Nodup.append numbered.distinct
      (distinct.map (add_left_injective _)) ?_
    intro id early late
    have low := (numbered.below id early).2
    have high := later id late
    omega
  cases greatest : next.ids.max? with
  | none =>
      have none := List.max?_eq_none_iff.mp greatest
      rw [greatest] at nextId
      refine ⟨apart, by simp [none], ?_⟩
      rw [nextId]
      exact start
  | some id =>
      have bounds := List.max?_eq_some_iff.mp greatest
      rw [greatest] at nextId
      change next.nextElementId = id + 1 at nextId
      refine ⟨apart, fun other member => ⟨positive other member, ?_⟩, ?_⟩
      · have least := bounds.2 other member
        omega
      · have least := positive id bounds.1
        omega

/-- One round of the merge. -/
private theorem mergeChunk_numbered {state next : MergeState}
    {chunk : ℕ × ℕ × ParsedDocument} (numbered : state.Numbered)
    (wellNumbered : WellNumbered chunk)
    (success : mergeChunk platform state chunk = .ok next) :
    next.Numbered ∧
      (∃ group, next.elements = state.elements ++ group ∧
        MergedChunk platform chunk group) ∧
      ∃ item, next.evidence = state.evidence ++ [item] ∧
        evidencePages item =
          (rangePages (chunkRange chunk)).map fun page : ℕ => (page : ℤ) := by
  obtain ⟨start, pageCount, response⟩ := chunk
  rw [mergeChunk_eq] at success
  obtain ⟨sources, read, success⟩ := bind_eq_ok.mp success
  obtain ⟨merged, elements, success⟩ := bind_eq_ok.mp success
  obtain ⟨pages, -, success⟩ := bind_eq_ok.mp success
  obtain ⟨html, -, success⟩ := bind_eq_ok.mp success
  obtain ⟨responseHash, -, success⟩ := bind_eq_ok.mp success
  obtain rfl := Except.ok.inj success
  have listed := responseElements_eq read
  have sourceIds : numericIds response.rawResponse =
      sources.filterMap numericId := by
    rw [numericIds, listed, List.filterMap_map]
    rfl
  refine ⟨?_, ⟨merged, rfl, ?_⟩, _, rfl, ?_⟩
  · refine numbered_next numbered ?_ rfl wellNumbered.distinct
      wellNumbered.nonnegative
    rw [sourceIds, ← (mergeElements_spec elements).1]
    exact List.filterMap_append
  · have each := mapM_eq_ok.mp elements
    refine ⟨⟨state.nextElementId, sources, numbered.nonnegative, listed,
      each.imp fun source item success => ⟨success,
        (mergeElement_spec success).1,
        fun key named => pageAt_mergeElement success named⟩⟩, ?_⟩
    intro item member key named page found
    obtain ⟨source, inSources, success⟩ := exists_left_of_forall₂ each member
    rw [pageAt_mergeElement success named] at found
    obtain ⟨original, stated, rfl⟩ := Option.map_eq_some_iff.mp found
    have inside := wellNumbered.inside source
      (by rw [listed]; exact List.mem_map_of_mem inSources) key named original
      stated
    dsimp only at inside ⊢
    omega
  · have count : (((start : ℤ) + pageCount) - ((start : ℤ) + 1) + 1).toNat =
        pageCount := by
      omega
    change (List.range (((start : ℤ) + pageCount) - ((start : ℤ) + 1) +
      1).toNat).map (fun index : ℕ => (start : ℤ) + 1 + index) = _
    rw [count, chunkRange, rangePages, List.range'_eq_map_range, List.map_map]
    refine List.map_congr_left fun index _ => ?_
    simp

/-- All rounds of the merge. -/
private theorem foldlM_numbered {chunks : List (ℕ × ℕ × ParsedDocument)}
    {state final : MergeState} (numbered : state.Numbered)
    (wellNumbered : ∀ chunk ∈ chunks, WellNumbered chunk)
    (success : chunks.foldlM (mergeChunk platform) state = .ok final) :
    final.Numbered ∧
      (∃ groups, final.elements = state.elements ++ groups.flatten ∧
        List.Forall₂ (MergedChunk platform) chunks groups) ∧
      ∃ evidence, final.evidence = state.evidence ++ evidence ∧
        List.Forall₂ (fun chunk item => evidencePages item =
          (rangePages (chunkRange chunk)).map fun page : ℕ => (page : ℤ))
          chunks evidence := by
  induction chunks generalizing state with
  | nil =>
      cases success
      exact ⟨numbered, ⟨[], (List.append_nil _).symm, .nil⟩,
        [], (List.append_nil _).symm, .nil⟩
  | cons chunk rest induction =>
      rw [List.foldlM_cons] at success
      obtain ⟨next, first, success⟩ := bind_eq_ok.mp success
      obtain ⟨here, others⟩ := List.forall_mem_cons.mp wellNumbered
      obtain ⟨numbered, ⟨group, elements, merged⟩, item, evidence, stated⟩ :=
        mergeChunk_numbered numbered here first
      obtain ⟨numbered, ⟨groups, laterElements, laterMerged⟩, items,
        laterEvidence, laterStated⟩ := induction numbered others success
      refine ⟨numbered, ⟨group :: groups, ?_, .cons merged laterMerged⟩,
        item :: items, ?_, .cons stated laterStated⟩
      · rw [laterElements, elements, List.append_assoc, List.flatten_cons]
      · rw [laterEvidence, evidence, List.append_assoc]
        rfl

/-- What the merge states about elements and evidence. -/
structure MergedDocument (platform : Platform)
    (chunks : List (ℕ × ℕ × ParsedDocument)) (pages : ℕ)
    (merged : JsonObject) : Prop where
  elements : ∃ groups : List (List JsonObject),
    Json.get? merged "elements" =
        some (.array (groups.flatten.map .object)) ∧
      List.Forall₂ (MergedChunk platform) chunks groups ∧
      (groups.flatten.filterMap numericId).Nodup
  evidence : ∃ items : List Json,
    Json.get? merged "chunk_evidence" = some (.array items) ∧
      (∀ item ∈ items, evidencePages item ≠ []) ∧
      items.flatMap evidencePages =
        (List.range' 1 pages).map fun page : ℕ => (page : ℤ)

private theorem flatMap_evidencePages
    {chunks : List (ℕ × ℕ × ParsedDocument)} {items : List Json}
    (stated : List.Forall₂ (fun chunk item => evidencePages item =
      (rangePages (chunkRange chunk)).map fun page : ℕ => (page : ℤ))
      chunks items) :
    items.flatMap evidencePages =
      ((chunks.map chunkRange).flatMap rangePages).map
        fun page : ℕ => (page : ℤ) := by
  induction stated with
  | nil => rfl
  | cons first _ induction =>
      rw [List.flatMap_cons, List.map_cons, List.flatMap_cons,
        List.map_append, first, induction]

private theorem mergeParseChunks_numbered
    {chunks : List (ℕ × ℕ × ParsedDocument)} {pages : ℕ}
    {merged : JsonObject} (covers : Covers (chunks.map chunkRange) (0, pages))
    (wellNumbered : ∀ chunk ∈ chunks, WellNumbered chunk)
    (success : mergeParseChunks platform chunks pages = .ok merged) :
    MergedDocument platform chunks pages merged := by
  obtain ⟨model, -, success⟩ := bind_eq_ok.mp success
  obtain ⟨final, folded, success⟩ := bind_eq_ok.mp success
  have initial : ({} : MergeState).Numbered :=
    ⟨.nil, List.forall_mem_nil _, le_rfl⟩
  obtain ⟨numbered, ⟨groups, elements, each⟩, items, evidence, stated⟩ :=
    foldlM_numbered initial wellNumbered folded
  obtain rfl := Except.ok.inj success
  refine ⟨⟨groups, ?_, each, ?_⟩, items, ?_, ?_, ?_⟩
  · rw [← List.nil_append groups.flatten]
    change _ = some (Json.array ((({} : MergeState).elements ++
      groups.flatten).map .object))
    rw [← elements]
    split_ifs <;> rfl
  · have distinct := numbered.distinct
    rwa [MergeState.ids, elements] at distinct
  · rw [← List.nil_append items]
    change _ = some (Json.array (({} : MergeState).evidence ++ items))
    rw [← evidence]
    split_ifs <;> rfl
  · intro item member
    obtain ⟨chunk, listed, same⟩ := exists_left_of_forall₂ stated member
    have filled := covers.2 _ (List.mem_map_of_mem listed)
    rw [same]
    intro empty
    have length := congrArg List.length empty
    rw [List.length_map, rangePages, List.length_range'] at length
    exact absurd length filled.ne'
  · rw [flatMap_evidencePages stated, covers.1, rangePages]

/-- The ranges of `_pdf_chunks` partition the pages, the responses of a large
document have such ranges, and the merge of such responses keeps ids apart,
elements in order and pages in the range of their chunk. -/
theorem merged_chunks_apart (platform : Platform) :
    (∀ (request : ParseRequest) (maxPages pages : ℕ), 0 < maxPages →
      request.billablePages = pages →
      platform.pdfPageCount request.content = .ok pages →
      (∀ first last, ∃ content,
        platform.pdfPages request.content first last = .ok content) →
      ∃ chunks, pdfChunks platform request maxPages = .ok chunks ∧
        Covers (chunks.map chunkRange) (0, pages) ∧
        ∀ chunk ∈ chunks, chunk.2.1 ≤ maxPages ∧
          platform.pdfPages request.content chunk.1 (chunk.1 + chunk.2.1) =
            .ok chunk.2.2) ∧
    (∀ (gateway : UpstageGateway) (request : ParseRequest) (maxPages : ℕ)
      (σ : Type) (perform : σ → (op : GatewayOp) →
        Except PyException (GatewayReply op) → σ → Prop)
      (state finish : σ)
      (events : List (Awaited GatewayOp GatewayReply PyException))
      (document : ParsedDocument), 0 < maxPages →
      (gateway.parseLargeDocument request maxPages).Executes perform state
        events (.ok document) finish →
      ∃ (pages : ℕ) (responses : List (ℕ × ℕ × ParsedDocument)),
        request.billablePages = pages ∧
          Covers (responses.map chunkRange) (0, pages) ∧
          mergeParseChunks gateway.platform responses pages =
            .ok document.rawResponse) ∧
    ∀ (chunks : List (ℕ × ℕ × ParsedDocument)) (pages : ℕ)
      (merged : JsonObject), Covers (chunks.map chunkRange) (0, pages) →
      (∀ chunk ∈ chunks, WellNumbered chunk) →
      mergeParseChunks platform chunks pages = .ok merged →
      MergedDocument platform chunks pages merged := by
  refine ⟨?_, ?_, ?_⟩
  · intro request maxPages pages positive declared counted copied
    obtain ⟨chunks, cut⟩ := exists_pdfChunks declared counted copied
    obtain ⟨pages', declared', covers, contents⟩ :=
      pdfChunks_cover positive cut
    obtain rfl : pages' = pages := by
      rw [declared] at declared'
      exact_mod_cast declared'.symm
    exact ⟨chunks, cut, covers, contents⟩
  · intro gateway request maxPages σ perform state finish events document
      positive run
    exact UpstageGateway.parseLargeDocument_ok positive run
  · intro chunks pages merged covers wellNumbered success
    exact mergeParseChunks_numbered covers wellNumbered success

def chunkWith (start pageCount : ℕ) (sources : List JsonObject) :
    ℕ × ℕ × ParsedDocument :=
  (start, pageCount,
    { rawResponse :=
        [("model", .str "m"), ("elements", .array (sources.map .object))] })

private theorem wellNumbered_chunkWith {start pageCount : ℕ}
    {sources : List JsonObject}
    (distinct : (sources.filterMap numericId).Nodup)
    (nonnegative : ∀ id ∈ sources.filterMap numericId, 0 ≤ id)
    (inside : ∀ source ∈ sources, ∀ key ∈ pageKeys,
      ∀ page ∈ (pageAt source key).toList, 1 ≤ page ∧ page ≤ pageCount) :
    WellNumbered (chunkWith start pageCount sources) := by
  have listed : responseElements
      (chunkWith start pageCount sources).2.2.rawResponse =
        sources.map .object :=
    rfl
  have ids : numericIds (chunkWith start pageCount sources).2.2.rawResponse =
      sources.filterMap numericId := by
    rw [numericIds, listed, List.filterMap_map]
    rfl
  refine ⟨ids ▸ distinct, ids ▸ nonnegative, ?_⟩
  intro element member key named page found
  rw [listed] at member
  obtain ⟨source, inSources, same⟩ := List.mem_map.mp member
  obtain rfl := Json.object.inj same
  exact inside source inSources key named page (by rw [found]; simp)

/-- Two chunks with ids from zero on; the first has a gap. -/
def sparseChunks : List (ℕ × ℕ × ParsedDocument) :=
  [chunkWith 0 2
      [[("id", .int 0), ("page", .int 1)], [("id", .int 5), ("page", .int 2)]],
    chunkWith 2 1 [[("id", .int 0), ("page", .int 1)]]]

theorem merged_chunks_apart_sparse :
    ∃ merged, mergeParseChunks samplePlatform sparseChunks 3 = .ok merged ∧
      MergedDocument samplePlatform sparseChunks 3 merged := by
  have accepted : mergeParseChunks samplePlatform sparseChunks 3 = .ok _ :=
    rfl
  refine ⟨_, accepted, (merged_chunks_apart samplePlatform).2.2 sparseChunks 3
    _ ⟨by decide, by decide⟩ ?_ accepted⟩
  refine List.forall_mem_cons.mpr ⟨?_, List.forall_mem_singleton.mpr ?_⟩
  · exact wellNumbered_chunkWith (by decide +kernel) (by decide +kernel)
      (by decide +kernel)
  · exact wellNumbered_chunkWith (by decide +kernel) (by decide +kernel)
      (by decide +kernel)

end RagBench
