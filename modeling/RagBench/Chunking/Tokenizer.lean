import Mathlib.Data.List.Chain
import RagBench.Python
import RagBench.Utf8

/-!
# Token windows

`safe_token_windows` cuts a text after whole tokens.  A token need not end
where a character ends, so only the token positions at which the decoder has
nothing pending are candidates, and both ends of a window move to candidates.
-/

namespace RagBench

/-- A loaded `tiktoken.Encoding`. -/
structure Encoding where
  encode : String → Except PyException (List ℕ)
  decodeSingleTokenBytes : ℕ → Except PyException (List UInt8)

structure TokenWindow where
  content : String
  tokenStart : ℕ
  tokenEnd : ℕ
  charStart : ℕ
  charEnd : ℕ
  deriving DecidableEq, Repr

/-- The loop of `_safe_token_boundaries` from the piece `index` on: the
further offsets and the further entries of `safe`. -/
def scanPieces (index offset characters : ℕ) (pending : List UInt8) :
    List (List UInt8) → Except PyException (List ℕ × List (ℕ × ℕ))
  | [] =>
      if pending = [] then .ok ([], [])
      else .error (.unicodeDecodeError "unexpected end of data")
  | piece :: pieces =>
      match Utf8.decodeFrom pending piece with
      | none => .error (.unicodeDecodeError "invalid byte")
      | some (decoded, pending) => do
          let offset := offset + piece.length
          let characters := characters + decoded.length
          let (offsets, safe) ←
            scanPieces (index + 1) offset characters pending pieces
          return (offset :: offsets,
            if pending = [] then (index, characters) :: safe else safe)

/-- `_safe_token_boundaries`. -/
def safeTokenBoundaries (tokenBytes : List (List UInt8)) :
    Except PyException (List ℕ × List (ℕ × ℕ)) := do
  let (offsets, safe) ← scanPieces 1 0 0 [] tokenBytes
  return (0 :: offsets, (0, 0) :: safe)

/-- What the loop over the windows reads. -/
structure WindowLoop where
  payload : List UInt8
  offsets : List ℕ
  safe : List (ℕ × ℕ)
  total : ℕ
  size : ℤ
  overlap : ℤ

namespace WindowLoop

variable (loop : WindowLoop)

def safeBoundaries : List ℕ :=
  loop.safe.map Prod.fst

/-- The inner loop, over the boundaries from `end_index` on. -/
def advance (nextBoundary : ℕ) : List ℕ → Except PyException ℕ
  | [] => .error (.indexError "tuple index out of range")
  | tokenEnd :: rest =>
      if tokenEnd < loop.total ∧
          bisectRight loop.safeBoundaries (tokenEnd - loop.overlap) ≤
            nextBoundary then
        advance nextBoundary rest
      else .ok tokenEnd

def windowEnd (start : ℕ) : Except PyException ℕ :=
  let nominal := min (start + loop.size) loop.total
  if nominal = loop.total then .ok loop.total
  else
    let nextBoundary := bisectRight loop.safeBoundaries start
    let endIndex :=
      max nextBoundary (bisectRight loop.safeBoundaries nominal - 1)
    loop.advance nextBoundary (loop.safeBoundaries.drop endIndex)

/-- `safe[position]`. -/
def safeCharacters (position : ℕ) : Except PyException ℕ :=
  match loop.safe.lookup position with
  | some characters => .ok characters
  | none => .error (.keyError (toString position))

def window (start tokenEnd : ℕ) : Except PyException TokenWindow := do
  let first ← pyIndex loop.offsets start
  let last ← pyIndex loop.offsets tokenEnd
  let contentBytes := (loop.payload.take last).drop first
  let content ←
    match Utf8.decode contentBytes with
    | some characters => .ok characters
    | none => .error (.unicodeDecodeError "invalid byte")
  let charStart ← loop.safeCharacters start
  let charEnd ← loop.safeCharacters tokenEnd
  return {
    content := .ofList content
    tokenStart := start
    tokenEnd := tokenEnd
    charStart := charStart
    charEnd := charEnd }

/-- The outer loop.  It ends because the source itself insists on progress. -/
def windowsFrom (start : ℕ) : Except PyException (List TokenWindow) :=
  if start < loop.total then do
    let tokenEnd ← loop.windowEnd start
    let window ← loop.window start tokenEnd
    if tokenEnd = loop.total then return [window]
    let nextStart ← pyIndex loop.safeBoundaries
      (bisectRight loop.safeBoundaries (tokenEnd - loop.overlap) - 1)
    if nextStart ≤ start then
      .error (.runtimeError "safe tokenizer window made no progress")
    else
      let windows ← windowsFrom nextStart
      return window :: windows
  else .ok []
termination_by loop.total - start

end WindowLoop

def safeTokenWindows (encoding : Encoding) (text : String)
    (size overlap : ℤ) : Except PyException (List TokenWindow) := do
  if size ≤ 0 ∨ overlap < 0 ∨ size ≤ overlap then
    throw (.valueError
      "size must be positive and greater than non-negative overlap")
  let tokens ← encoding.encode text
  if tokens = [] then return []
  let pieces ← tokens.mapM encoding.decodeSingleTokenBytes
  let (offsets, safe) ← safeTokenBoundaries pieces
  let payload := utf8 text.toList
  if pieces.flatten ≠ payload ∨ tokens.length ∉ safe.map Prod.fst then
    throw (.valueError "tokenizer bytes do not reconstruct normalized text")
  let loop : WindowLoop :=
    { payload := payload
      offsets := offsets
      safe := safe
      total := tokens.length
      size := size
      overlap := overlap }
  loop.windowsFrom 0

/-- `tokens` are a tokenization of `text` into `pieces`: none is empty, and
together they are its encoding.  A piece may end inside a character. -/
structure Tokenization (encoding : Encoding) (text : String)
    (tokens : List ℕ) (pieces : List (List UInt8)) : Prop where
  encode : encoding.encode text = .ok tokens
  decode : tokens.mapM encoding.decodeSingleTokenBytes = .ok pieces
  nonempty : ∀ piece ∈ pieces, piece ≠ []
  encoded : pieces.flatten = utf8 text.toList

/-- The first `position` pieces encode `characters` characters. -/
def CharBoundary (pieces : List (List UInt8)) (position characters : ℕ) :
    Prop :=
  ∃ chars, (pieces.take position).flatten = utf8 chars ∧
    chars.length = characters

/-- A token position at which a character ends. -/
def SafeBoundary (pieces : List (List UInt8)) (position : ℕ) : Prop :=
  position ≤ pieces.length ∧ ∃ characters, CharBoundary pieces position characters

theorem CharBoundary.unique {pieces : List (List UInt8)}
    {position left right : ℕ} (first : CharBoundary pieces position left)
    (second : CharBoundary pieces position right) : left = right := by
  obtain ⟨chars, encoded, rfl⟩ := first
  obtain ⟨others, same, rfl⟩ := second
  rw [Utf8.utf8_injective (encoded.symm.trans same)]

theorem charBoundary_zero (pieces : List (List UInt8)) :
    CharBoundary pieces 0 0 :=
  ⟨[], rfl, rfl⟩

section Scan

variable {text : List Char} {pieces : List (List UInt8)}
  (encoded : pieces.flatten = utf8 text)

include encoded

private theorem decode_take (position : ℕ) :
    ∃ chars rest, Utf8.decodeFrom [] (pieces.take position).flatten =
      some (chars, rest) := by
  have split : utf8 text =
      (pieces.take position).flatten ++ (pieces.drop position).flatten := by
    rw [← List.flatten_append, List.take_append_drop, encoded]
  obtain ⟨chars, rest, _, decoded, _⟩ := Utf8.decodeFrom_prefix split
  exact ⟨chars, rest, decoded⟩

/-- What the loop over the pieces has recorded when it is done, from any of
its iterations on. -/
private theorem scanPieces_spec (remaining : List (List UInt8)) (index : ℕ)
    (chars : List Char) (pending : List UInt8)
    (later : pieces.drop index = remaining)
    (decoded : Utf8.decodeFrom [] (pieces.take index).flatten =
      some (chars, pending)) :
    ∃ offsets safe,
      scanPieces (index + 1) (pieces.take index).flatten.length chars.length
        pending remaining = .ok (offsets, safe) ∧
      (∀ position, index + position < pieces.length →
        offsets[position]? =
          some (pieces.take (index + position + 1)).flatten.length) ∧
      (∀ position characters, (position, characters) ∈ safe ↔
        index < position ∧ position ≤ pieces.length ∧
          CharBoundary pieces position characters) ∧
      (safe.map Prod.fst).Pairwise (· < ·) := by
  induction remaining generalizing index chars pending with
  | nil =>
      have finished : pieces.length ≤ index := List.drop_eq_nil_iff.mp later
      rw [List.take_of_length_le finished, encoded,
        Utf8.decodeFrom_utf8] at decoded
      cases decoded
      refine ⟨[], [], rfl, ?_, ?_, by simp⟩
      · intro position inside
        omega
      · intro position characters
        simp only [List.not_mem_nil, false_iff]
        omega
  | cons piece remaining induction =>
      have inside : index < pieces.length := by
        by_contra outside
        rw [List.drop_of_length_le (by omega)] at later
        cases later
      have current : pieces[index] = piece ∧
          pieces.drop (index + 1) = remaining := by
        rw [List.drop_eq_getElem_cons inside] at later
        exact List.cons.inj later
      have longer : (pieces.take (index + 1)).flatten =
          (pieces.take index).flatten ++ piece := by
        rw [List.take_succ_eq_append_getElem inside, List.flatten_append,
          current.1]
        simp
      obtain ⟨known, rest, reached⟩ := decode_take encoded (index + 1)
      have step := reached
      rw [longer, Utf8.decodeFrom_append, decoded] at step
      obtain ⟨⟨more, last⟩, taken, same⟩ := Option.map_eq_some_iff.mp step
      cases same
      obtain ⟨offsets, safe, scanned, offsetsAt, safeAt, ascending⟩ :=
        induction (index + 1) _ _ current.2 reached
      rw [longer, List.length_append, List.length_append] at scanned
      have boundary : ∀ characters,
          CharBoundary pieces (index + 1) characters ↔
            rest = [] ∧ (chars ++ more).length = characters := by
        intro characters
        constructor
        · rintro ⟨known, whole, rfl⟩
          rw [whole, Utf8.decodeFrom_utf8] at reached
          cases reached
          exact ⟨rfl, rfl⟩
        · rintro ⟨rfl, rfl⟩
          exact ⟨_, Utf8.decodeFrom_eq_done_iff.mp reached, rfl⟩
      refine ⟨((pieces.take index).flatten.length + piece.length) :: offsets,
        if rest = [] then (index + 1, chars.length + more.length) :: safe
        else safe, ?_, ?_, ?_, ?_⟩
      · rw [scanPieces, taken]
        dsimp only
        rw [scanned]
        rfl
      · intro position within
        cases position with
        | zero =>
            rw [List.getElem?_cons_zero, Nat.add_zero, longer,
              List.length_append]
        | succ position =>
            rw [List.getElem?_cons_succ, offsetsAt position (by omega)]
            congr 4
            omega
      · intro position characters
        have later : (position, characters) ∈ safe ∨
            position = index + 1 ∧ CharBoundary pieces position characters ↔
              index < position ∧ position ≤ pieces.length ∧
                CharBoundary pieces position characters := by
          rw [safeAt]
          constructor
          · rintro (⟨above, below, holds⟩ | ⟨rfl, holds⟩)
            · exact ⟨by omega, below, holds⟩
            · exact ⟨by omega, by omega, holds⟩
          · rintro ⟨above, below, holds⟩
            by_cases here : position = index + 1
            · exact .inr ⟨here, holds⟩
            · exact .inl ⟨by omega, below, holds⟩
        rw [← later]
        by_cases done : rest = []
        · rw [if_pos done, List.mem_cons, or_comm]
          refine or_congr Iff.rfl ?_
          rw [Prod.mk.injEq]
          refine and_congr_right ?_
          rintro rfl
          rw [boundary, List.length_append]
          exact ⟨fun same => ⟨done, same.symm⟩, fun both => both.2.symm⟩
        · rw [if_neg done]
          refine ⟨.inl, ?_⟩
          rintro (member | ⟨rfl, holds⟩)
          · exact member
          · exact absurd ((boundary _).mp holds).1 done
      · split_ifs with done
        · refine List.pairwise_cons.mpr ⟨?_, ascending⟩
          intro position member
          obtain ⟨⟨found, characters⟩, entry, rfl⟩ := List.mem_map.mp member
          exact ((safeAt _ _).mp entry).1
        · exact ascending

end Scan

/-- `text[first:last]`. -/
def slice (text : String) (first last : ℕ) : String :=
  .ofList ((text.toList.take last).drop first)

/-- A window holds exactly the characters of its tokens. -/
structure TokenWindow.Faithful (text : String) (pieces : List (List UInt8))
    (window : TokenWindow) : Prop where
  proper : window.tokenStart < window.tokenEnd
  bounded : window.tokenEnd ≤ pieces.length
  startBoundary : CharBoundary pieces window.tokenStart window.charStart
  endBoundary : CharBoundary pieces window.tokenEnd window.charEnd
  decoded : Utf8.decode
    ((pieces.take window.tokenEnd).drop window.tokenStart).flatten =
      some window.content.toList
  ordered : window.charStart ≤ window.charEnd
  inside : window.charEnd ≤ text.toList.length
  sliced : window.content = slice text window.charStart window.charEnd

namespace WindowLoop

/-- What `safe_token_windows` hands to its loop for a tokenization. -/
structure Sound (loop : WindowLoop) (pieces : List (List UInt8)) : Prop where
  payload : loop.payload = pieces.flatten
  total : loop.total = pieces.length
  offsets : ∀ position, position ≤ pieces.length →
    loop.offsets[position]? = some (pieces.take position).flatten.length
  safe : ∀ position characters, (position, characters) ∈ loop.safe ↔
    position ≤ pieces.length ∧ CharBoundary pieces position characters
  ascending : loop.safeBoundaries.Pairwise (· < ·)

variable {loop : WindowLoop} {pieces : List (List UInt8)} {text : String}

theorem Sound.mem_safeBoundaries (sound : loop.Sound pieces) {position : ℕ} :
    position ∈ loop.safeBoundaries ↔ SafeBoundary pieces position := by
  unfold safeBoundaries SafeBoundary
  rw [List.mem_map]
  constructor
  · rintro ⟨⟨found, characters⟩, entry, rfl⟩
    obtain ⟨bounded, boundary⟩ := (sound.safe _ _).mp entry
    exact ⟨bounded, characters, boundary⟩
  · rintro ⟨bounded, characters, boundary⟩
    exact ⟨(position, characters), (sound.safe _ _).mpr ⟨bounded, boundary⟩,
      rfl⟩

theorem Sound.safeCharacters (sound : loop.Sound pieces)
    {position characters : ℕ} (bounded : position ≤ pieces.length)
    (boundary : CharBoundary pieces position characters) :
    loop.safeCharacters position = .ok characters := by
  unfold WindowLoop.safeCharacters
  cases found : loop.safe.lookup position with
  | none =>
      have missing := List.lookup_eq_none_iff.mp found
      have entry := (sound.safe _ _).mpr ⟨bounded, boundary⟩
      have different := missing _ entry
      simp at different
  | some value =>
      obtain ⟨before, after, same, _⟩ := List.lookup_eq_some_iff.mp found
      have entry : (position, value) ∈ loop.safe := by
        rw [same]
        simp
      rw [((sound.safe _ _).mp entry).2.unique boundary]

/-- A window between two safe boundaries is cut faithfully. -/
theorem Sound.window (sound : loop.Sound pieces)
    (encoded : pieces.flatten = utf8 text.toList) {start tokenEnd : ℕ}
    (proper : start < tokenEnd) (startSafe : SafeBoundary pieces start)
    (endSafe : SafeBoundary pieces tokenEnd) :
    ∃ window, loop.window start tokenEnd = .ok window ∧
      window.tokenStart = start ∧ window.tokenEnd = tokenEnd ∧
      window.Faithful text pieces := by
  obtain ⟨startBound, charStart, early, earlyBytes, rfl⟩ := startSafe
  obtain ⟨endBound, charEnd, whole, wholeBytes, rfl⟩ := endSafe
  have startIs := sound.safeCharacters startBound ⟨early, earlyBytes, rfl⟩
  have endIs := sound.safeCharacters endBound ⟨whole, wholeBytes, rfl⟩
  -- The bytes up to the end begin with the bytes up to the start.
  have middle : (pieces.take tokenEnd).flatten =
      (pieces.take start).flatten ++
        ((pieces.take tokenEnd).drop start).flatten := by
    have shorter : pieces.take start = (pieces.take tokenEnd).take start := by
      rw [List.take_take, min_eq_left proper.le]
    rw [shorter, ← List.flatten_append, List.take_append_drop]
  have everything : pieces.flatten =
      (pieces.take tokenEnd).flatten ++ (pieces.drop tokenEnd).flatten := by
    rw [← List.flatten_append, List.take_append_drop]
  obtain ⟨content, wholeIs, contentBytes⟩ : ∃ content,
      whole = early ++ content ∧
        ((pieces.take tokenEnd).drop start).flatten = utf8 content := by
    rw [wholeBytes, earlyBytes] at middle
    exact Utf8.append_of_utf8_eq middle
  obtain ⟨suffix, textIs, _⟩ : ∃ suffix, text.toList = whole ++ suffix ∧
      (pieces.drop tokenEnd).flatten = utf8 suffix := by
    rw [encoded, wholeBytes] at everything
    exact Utf8.append_of_utf8_eq everything
  have cut : (loop.payload.take (pieces.take tokenEnd).flatten.length).drop
      (pieces.take start).flatten.length = utf8 content := by
    rw [sound.payload, everything, List.take_left, middle, List.drop_left,
      contentBytes]
  have decoded := Utf8.decode_eq_some_iff.mpr (rfl : utf8 content = _)
  refine ⟨{ content := .ofList content
            tokenStart := start
            tokenEnd := tokenEnd
            charStart := early.length
            charEnd := whole.length }, ?_, rfl, rfl, ?_⟩
  · unfold WindowLoop.window
    rw [pyIndex_natCast (sound.offsets start startBound),
      pyIndex_natCast (sound.offsets tokenEnd endBound), startIs, endIs]
    dsimp only [bind, Except.bind]
    rw [cut, decoded]
    rfl
  · exact {
      proper := proper
      bounded := endBound
      startBoundary := ⟨early, earlyBytes, rfl⟩
      endBoundary := ⟨whole, wholeBytes, rfl⟩
      decoded := by
        rw [contentBytes, String.toList_ofList]
        exact decoded
      ordered := by simp [wholeIs]
      inside := by simp [textIs]
      sliced := by
        dsimp only
        rw [slice, textIs, List.take_left, wholeIs, List.drop_left] }

/-- The end of a window is the end of the text, or the window reaches a safe
boundary after its start that is far enough from its end for the next window
to start there. -/
def Reaches (loop : WindowLoop) (start tokenEnd : ℕ) : Prop :=
  tokenEnd = loop.total ∨ ∃ boundary ∈ loop.safeBoundaries,
    start < boundary ∧ (boundary : ℤ) + loop.overlap ≤ tokenEnd

section Progress

variable (sound : loop.Sound pieces)
  (encoded : pieces.flatten = utf8 text.toList) {start : ℕ}
  (unfinished : start < loop.total)

include sound

theorem Sound.le_total {position : ℕ}
    (member : position ∈ loop.safeBoundaries) : position ≤ loop.total := by
  rw [sound.total]
  exact (sound.mem_safeBoundaries.mp member).1

include encoded

theorem Sound.total_mem : loop.total ∈ loop.safeBoundaries := by
  refine sound.mem_safeBoundaries.mpr ⟨sound.total.le, _, text.toList, ?_, rfl⟩
  rw [sound.total, List.take_length, encoded]

/-- From a boundary after the start on, the inner loop finds an end. -/
private theorem Sound.advance_spec (rest : List ℕ) (index : ℕ)
    (current : loop.safeBoundaries.drop index = rest)
    (inside : index < loop.safeBoundaries.length)
    (after : bisectRight loop.safeBoundaries start ≤ index) :
    ∃ tokenEnd,
      loop.advance (bisectRight loop.safeBoundaries start) rest =
        .ok tokenEnd ∧
      tokenEnd ∈ loop.safeBoundaries ∧ start < tokenEnd ∧
      loop.Reaches start tokenEnd := by
  induction rest generalizing index with
  | nil =>
      have outside := List.drop_eq_nil_iff.mp current
      omega
  | cons tokenEnd rest induction =>
      rw [List.drop_eq_getElem_cons inside] at current
      obtain ⟨here, later⟩ := List.cons.inj current
      have found : loop.safeBoundaries[index]? = some tokenEnd :=
        (List.getElem?_eq_getElem inside).trans (congrArg some here)
      have member := List.mem_of_getElem? found
      have beyond : start < tokenEnd := by
        have early := lt_bisectRight_iff sound.ascending start found
        omega
      rw [advance]
      split_ifs with searching
      · refine induction (index + 1) later ?_ (by omega)
        -- The end of the text is a boundary further on.
        by_contra short
        obtain ⟨place, last⟩ :=
          List.getElem?_of_mem (sound.total_mem encoded)
        obtain ⟨placeInside, total⟩ := List.getElem?_eq_some_iff.mp last
        have late : place = index ∨ place < index := by omega
        rcases late with rfl | before
        · omega
        · have smaller := List.pairwise_iff_getElem.mp sound.ascending
            _ _ placeInside inside before
          omega
      · refine ⟨tokenEnd, rfl, member, beyond, ?_⟩
        by_cases finished : tokenEnd < loop.total
        · right
          have enough : bisectRight loop.safeBoundaries start <
              bisectRight loop.safeBoundaries (tokenEnd - loop.overlap) := by
            by_contra few
            exact searching ⟨finished, by omega⟩
          have next := List.getElem?_eq_getElem (after.trans_lt inside)
          have room := (lt_bisectRight_iff sound.ascending _ next).mp enough
          have room' := le_sub_iff_add_le.mp room
          have above := lt_bisectRight_iff sound.ascending start next
          refine ⟨_, List.getElem_mem (after.trans_lt inside), ?_, room'⟩
          omega
        · have limit := sound.le_total member
          exact .inl (by omega)

include unfinished

/-- Every window makes progress. -/
theorem Sound.windowEnd :
    ∃ tokenEnd, loop.windowEnd start = .ok tokenEnd ∧
      tokenEnd ∈ loop.safeBoundaries ∧ start < tokenEnd ∧
      loop.Reaches start tokenEnd := by
  have last := sound.total_mem encoded
  unfold WindowLoop.windowEnd
  dsimp only
  split_ifs with everything
  · exact ⟨loop.total, rfl, last, unfinished, .inl rfl⟩
  · obtain ⟨place, found⟩ := List.getElem?_of_mem last
    obtain ⟨placeInside, _⟩ := List.getElem?_eq_some_iff.mp found
    have above := lt_bisectRight_iff sound.ascending start found
    have short := bisectRight_le_length loop.safeBoundaries
      (min (start + loop.size) loop.total)
    exact sound.advance_spec encoded _ _ rfl (by omega)
      (le_max_left _ _)

end Progress

/-- The next window starts as far on as the overlap allows. -/
theorem Sound.nextStart (sound : loop.Sound pieces) {start tokenEnd : ℕ}
    (unfinished : tokenEnd ≠ loop.total)
    (reaches : loop.Reaches start tokenEnd) :
    ∃ nextStart,
      pyIndex loop.safeBoundaries
        (bisectRight loop.safeBoundaries (tokenEnd - loop.overlap) - 1) =
          .ok nextStart ∧
      start < nextStart ∧
      IsGreatest {position | SafeBoundary pieces position ∧
        (position : ℤ) + loop.overlap ≤ tokenEnd} nextStart := by
  obtain ⟨boundary, member, after, room⟩ :=
    reaches.resolve_left unfinished
  obtain ⟨index, nextStart, count, found, greatest⟩ :=
    bisectRight_isGreatest sound.ascending member
      (x := tokenEnd - loop.overlap) (by omega)
  have same : {position | SafeBoundary pieces position ∧
      (position : ℤ) + loop.overlap ≤ tokenEnd} =
        {item | item ∈ loop.safeBoundaries ∧
          (item : ℤ) ≤ tokenEnd - loop.overlap} := by
    ext position
    simp only [Set.mem_ofPred_eq, sound.mem_safeBoundaries]
    exact and_congr_right fun _ => by omega
  refine ⟨nextStart, ?_, ?_, by rwa [same]⟩
  · rw [count, Nat.cast_succ, add_sub_cancel_right]
    exact pyIndex_natCast found
  · exact after.trans_le (greatest.2 ⟨member, by omega⟩)

end WindowLoop

/-- How a window and the next one lie. -/
structure TokenWindow.Precedes (pieces : List (List UInt8)) (overlap : ℤ)
    (earlier later : TokenWindow) : Prop where
  startsLater : earlier.tokenStart < later.tokenStart
  endsLater : earlier.tokenEnd < later.tokenEnd
  noGap : later.tokenStart ≤ earlier.tokenEnd
  startsAt : IsGreatest {position | SafeBoundary pieces position ∧
    (position : ℤ) + overlap ≤ earlier.tokenEnd} later.tokenStart

/-- Windows over the tokens from `start` on. -/
structure WindowCover (text : String) (pieces : List (List UInt8))
    (overlap : ℤ) (start : ℕ) (windows : List TokenWindow) : Prop where
  starts : windows.head?.map TokenWindow.tokenStart = some start
  ends : windows.getLast?.map TokenWindow.tokenEnd = some pieces.length
  chained : windows.IsChain (TokenWindow.Precedes pieces overlap)
  faithful : ∀ window ∈ windows, window.Faithful text pieces

namespace WindowCover

variable {text : String} {pieces : List (List UInt8)} {overlap : ℤ}

/-- No token is left out. -/
theorem covers {start : ℕ} {windows : List TokenWindow}
    (cover : WindowCover text pieces overlap start windows) {token : ℕ}
    (after : start ≤ token) (inside : token < pieces.length) :
    ∃ window ∈ windows,
      window.tokenStart ≤ token ∧ token < window.tokenEnd := by
  induction windows generalizing start with
  | nil => simpa using cover.starts
  | cons window windows induction =>
      have starts : window.tokenStart = start := by simpa using cover.starts
      by_cases here : token < window.tokenEnd
      · exact ⟨window, List.mem_cons_self, by omega, here⟩
      · cases windows with
        | nil =>
            have ends : window.tokenEnd = pieces.length := by
              simpa using cover.ends
            omega
        | cons next windows =>
            obtain ⟨precedes, chained⟩ :=
              List.isChain_cons_cons.mp cover.chained
            have rest : WindowCover text pieces overlap next.tokenStart
                (next :: windows) := {
              starts := rfl
              ends := cover.ends
              chained := chained
              faithful := (List.forall_mem_cons.mp cover.faithful).2 }
            obtain ⟨found, member, bounds⟩ :=
              induction rest (precedes.noGap.trans (by omega))
            exact ⟨found, List.mem_cons_of_mem _ member, bounds⟩

theorem increasing {start : ℕ} {windows : List TokenWindow}
    (cover : WindowCover text pieces overlap start windows) :
    windows.Pairwise fun earlier later =>
      earlier.tokenStart < later.tokenStart ∧
        earlier.tokenEnd < later.tokenEnd := by
  let before := fun earlier later : TokenWindow =>
    earlier.tokenStart < later.tokenStart ∧ earlier.tokenEnd < later.tokenEnd
  have transitive : Trans before before before :=
    ⟨fun first second =>
      ⟨first.1.trans second.1, first.2.trans second.2⟩⟩
  exact List.IsChain.pairwise (cover.chained.imp fun _ _ precedes =>
    ⟨precedes.startsLater, precedes.endsLater⟩)

end WindowCover

namespace WindowLoop

variable {loop : WindowLoop} {pieces : List (List UInt8)} {text : String}

/-- A later window ends later: it reaches a boundary beyond the greatest one
that the earlier window allowed it to start at. -/
private theorem Sound.endsLater (sound : loop.Sound pieces)
    {tokenEnd nextStart nextEnd : ℕ} (unfinished : tokenEnd < loop.total)
    (greatest : IsGreatest {position | SafeBoundary pieces position ∧
      (position : ℤ) + loop.overlap ≤ tokenEnd} nextStart)
    (reaches : loop.Reaches nextStart nextEnd) : tokenEnd < nextEnd := by
  rcases reaches with rfl | ⟨boundary, member, after, room⟩
  · exact unfinished
  · by_contra early
    have allowed : (boundary : ℤ) + loop.overlap ≤ tokenEnd := by omega
    have small := greatest.2 ⟨sound.mem_safeBoundaries.mp member, allowed⟩
    omega

theorem Sound.windowsFrom (sound : loop.Sound pieces)
    (encoded : pieces.flatten = utf8 text.toList)
    (nonnegative : 0 ≤ loop.overlap) (start : ℕ)
    (startSafe : SafeBoundary pieces start) (unfinished : start < loop.total) :
    ∃ windows, loop.windowsFrom start = .ok windows ∧
      WindowCover text pieces loop.overlap start windows ∧
      ∀ window ∈ windows.head?,
        loop.Reaches window.tokenStart window.tokenEnd := by
  induction size : loop.total - start using Nat.strong_induction_on
    generalizing start with
  | _ size induction =>
      obtain ⟨tokenEnd, found, member, proper, reaches⟩ :=
        sound.windowEnd encoded unfinished
      have endSafe := sound.mem_safeBoundaries.mp member
      obtain ⟨window, cut, rfl, rfl, faithful⟩ :=
        sound.window encoded proper startSafe endSafe
      rw [WindowLoop.windowsFrom, if_pos unfinished, found]
      dsimp only [bind, Except.bind]
      rw [cut]
      dsimp only
      by_cases finished : window.tokenEnd = loop.total
      · rw [if_pos finished]
        refine ⟨[window], rfl, ?_, by simpa using reaches⟩
        exact {
          starts := rfl
          ends := by simp [finished, sound.total]
          chained := .singleton _
          faithful := by simpa using faithful }
      · obtain ⟨nextStart, moved, after, greatest⟩ :=
          sound.nextStart finished reaches
        have limit := sound.le_total member
        have noGap : nextStart ≤ window.tokenEnd := by
          have allowed := greatest.1.2
          omega
        obtain ⟨windows, rest, cover, first⟩ :=
          induction _ (by omega) nextStart greatest.1.1 (by omega) rfl
        rw [if_neg finished, moved]
        dsimp only
        rw [if_neg (by omega), rest]
        refine ⟨window :: windows, rfl, ?_, by simpa using reaches⟩
        obtain ⟨next, head, starts⟩ := Option.map_eq_some_iff.mp cover.starts
        have nextReaches := first next head
        rw [starts] at nextReaches
        have precedes : window.Precedes pieces loop.overlap next := {
          startsLater := by omega
          endsLater := sound.endsLater (by omega) greatest nextReaches
          noGap := by omega
          startsAt := by rwa [starts] }
        exact {
          starts := rfl
          ends := by
            have nonempty : windows ≠ [] := by
              rintro rfl
              cases head
            rw [List.getLast?_cons_of_ne_nil nonempty]
            exact cover.ends
          chained := by
            refine List.isChain_cons.mpr ⟨?_, cover.chained⟩
            intro other same
            rw [head] at same
            cases same
            exact precedes
          faithful := List.forall_mem_cons.mpr ⟨faithful, cover.faithful⟩ }

end WindowLoop

section Windows

variable {encoding : Encoding} {text : String} {tokens : List ℕ}
  {pieces : List (List UInt8)}
  (tokenization : Tokenization encoding text tokens pieces)

include tokenization

theorem Tokenization.length_eq : tokens.length = pieces.length :=
  (mapM_eq_ok.mp tokenization.decode).length_eq

theorem Tokenization.eq_nil_iff : tokens = [] ↔ text = "" := by
  rw [← List.length_eq_zero_iff, tokenization.length_eq,
    List.length_eq_zero_iff, ← String.toList_inj]
  constructor
  · rintro rfl
    exact Utf8.utf8_injective tokenization.encoded.symm
  · intro empty
    have nothing := tokenization.encoded
    rw [empty] at nothing
    refine List.eq_nil_iff_forall_not_mem.mpr fun piece member => ?_
    exact tokenization.nonempty piece member
      (List.flatten_eq_nil_iff.mp nothing piece member)

/-- The source hands a sound loop its own start. -/
theorem Tokenization.safeTokenWindows {size overlap : ℤ}
    (nonnegative : 0 ≤ overlap) (smaller : overlap < size)
    (nonempty : text ≠ "") :
    ∃ loop : WindowLoop, loop.Sound pieces ∧ loop.size = size ∧
      loop.overlap = overlap ∧
      RagBench.safeTokenWindows encoding text size overlap =
        loop.windowsFrom 0 := by
  have decodedNothing : Utf8.decodeFrom [] (pieces.take 0).flatten =
      some ([], []) := rfl
  obtain ⟨offsets, safe, scanned, offsetsAt, safeAt, ascending⟩ :=
    scanPieces_spec tokenization.encoded pieces 0 [] [] rfl decodedNothing
  have boundaries : safeTokenBoundaries pieces =
      .ok (0 :: offsets, (0, 0) :: safe) := by
    unfold safeTokenBoundaries
    simp only [List.take_zero, List.flatten_nil, List.length_nil,
      Nat.zero_add] at scanned
    rw [scanned]
    rfl
  let loop : WindowLoop :=
    { payload := utf8 text.toList
      offsets := 0 :: offsets
      safe := (0, 0) :: safe
      total := tokens.length
      size := size
      overlap := overlap }
  have sound : loop.Sound pieces := {
    payload := tokenization.encoded.symm
    total := tokenization.length_eq
    offsets := by
      intro position bounded
      cases position with
      | zero => rfl
      | succ position =>
          have found := offsetsAt position (by omega)
          rw [Nat.zero_add] at found
          exact found
    safe := by
      intro position characters
      rw [List.mem_cons, safeAt, Prod.mk.injEq]
      constructor
      · rintro (⟨rfl, rfl⟩ | ⟨_, bounded, boundary⟩)
        · exact ⟨Nat.zero_le _, charBoundary_zero pieces⟩
        · exact ⟨bounded, boundary⟩
      · rintro ⟨bounded, boundary⟩
        rcases Nat.eq_zero_or_pos position with rfl | positive
        · exact .inl ⟨rfl, boundary.unique (charBoundary_zero pieces)⟩
        · exact .inr ⟨positive, bounded, boundary⟩
    ascending := by
      refine List.pairwise_cons.mpr ⟨?_, ascending⟩
      intro position member
      obtain ⟨⟨found, characters⟩, entry, rfl⟩ := List.mem_map.mp member
      exact ((safeAt _ _).mp entry).1 }
  refine ⟨loop, sound, rfl, rfl, ?_⟩
  have complete : tokens.length ∈ ((0, 0) :: safe).map Prod.fst :=
    sound.total_mem tokenization.encoded
  have valid : ¬(size ≤ 0 ∨ overlap < 0 ∨ size ≤ overlap) := by omega
  have someTokens : tokens ≠ [] := by rwa [Ne, tokenization.eq_nil_iff]
  have reconstructs : ¬(pieces.flatten ≠ utf8 text.toList ∨
      tokens.length ∉ ((0, 0) :: safe).map Prod.fst) := by
    rintro (different | missing)
    · exact different tokenization.encoded
    · exact missing complete
  unfold RagBench.safeTokenWindows
  rw [if_neg valid, tokenization.encode]
  dsimp only [bind, Except.bind, pure, Except.pure]
  rw [if_neg someTokens, tokenization.decode]
  dsimp only
  rw [boundaries]
  dsimp only
  rw [if_neg reconstructs]

theorem Tokenization.windowCover {size overlap : ℤ}
    (nonnegative : 0 ≤ overlap) (smaller : overlap < size)
    (nonempty : text ≠ "") :
    ∃ windows,
      RagBench.safeTokenWindows encoding text size overlap = .ok windows ∧
      WindowCover text pieces overlap 0 windows := by
  obtain ⟨loop, sound, rfl, rfl, same⟩ :=
    tokenization.safeTokenWindows nonnegative smaller nonempty
  have startSafe : SafeBoundary pieces 0 :=
    ⟨Nat.zero_le _, 0, charBoundary_zero pieces⟩
  have unfinished : 0 < loop.total := by
    rw [sound.total, ← tokenization.length_eq, List.length_pos_iff]
    rwa [Ne, tokenization.eq_nil_iff]
  obtain ⟨windows, found, cover, _⟩ :=
    sound.windowsFrom tokenization.encoded nonnegative 0 startSafe unfinished
  exact ⟨windows, same.trans found, cover⟩

theorem Tokenization.safeTokenWindows_empty {size overlap : ℤ}
    (nonnegative : 0 ≤ overlap) (smaller : overlap < size)
    (empty : text = "") :
    RagBench.safeTokenWindows encoding text size overlap = .ok [] := by
  have valid : ¬(size ≤ 0 ∨ overlap < 0 ∨ size ≤ overlap) := by omega
  unfold RagBench.safeTokenWindows
  rw [if_neg valid, tokenization.encode]
  dsimp only [bind, Except.bind, pure, Except.pure]
  rw [if_pos (tokenization.eq_nil_iff.mpr empty)]

end Windows

/-- For every tokenization, pieces that end inside characters included, the
windows cover the text without a gap, each holds exactly the characters of its
tokens, and each next one starts as far on as the overlap allows. -/
theorem safe_token_windows_cover_text (encoding : Encoding) (text : String)
    (tokens : List ℕ) (pieces : List (List UInt8)) (size overlap : ℤ)
    (tokenization : Tokenization encoding text tokens pieces)
    (nonnegative : 0 ≤ overlap) (smaller : overlap < size) :
    ∃ windows, safeTokenWindows encoding text size overlap = .ok windows ∧
      (text = "" → windows = []) ∧
      (text ≠ "" → WindowCover text pieces overlap 0 windows) := by
  by_cases empty : text = ""
  · exact ⟨[], tokenization.safeTokenWindows_empty nonnegative smaller empty,
      fun _ => rfl, fun nonempty => absurd empty nonempty⟩
  · obtain ⟨windows, found, cover⟩ :=
      tokenization.windowCover nonnegative smaller empty
    exact ⟨windows, found, fun same => absurd same empty, fun _ => cover⟩

/-- Two characters of two bytes each, in four tokens. -/
def splitEncoding : Encoding where
  encode := fun _ => .ok [0, 1, 0, 1]
  decodeSingleTokenBytes := fun token =>
    .ok (if token = 0 then [0xC3] else [0xA9])

theorem split_characters_covered :
    ∃ windows, safeTokenWindows splitEncoding "éé" 1 0 = .ok windows ∧
      ("éé" = "" → windows = []) ∧
      ("éé" ≠ "" → WindowCover "éé" [[0xC3], [0xA9], [0xC3], [0xA9]] 0 0
        windows) :=
  safe_token_windows_cover_text splitEncoding "éé" [0, 1, 0, 1]
    [[0xC3], [0xA9], [0xC3], [0xA9]] 1 0
    { encode := rfl
      decode := rfl
      nonempty := by decide
      encoded := by decide } (by decide) (by decide)

end RagBench
