import Mathlib.Data.List.Sort
import RagBench.Chunking.Tokenizer

/-!
# Sizes of token windows

A window ends at the first safe boundary from its size on, unless the overlap
leaves the next window no room there.
-/

namespace RagBench

/-- Where a window that starts at `start` can end: not before a boundary within
its size, and where the next window can start later. -/
def windowEnds (pieces : List (List UInt8)) (size overlap : ℤ) (start : ℕ) :
    Set ℕ :=
  {tokenEnd | SafeBoundary pieces tokenEnd ∧ start < tokenEnd ∧
    (∀ boundary : ℕ, SafeBoundary pieces boundary →
      (boundary : ℤ) ≤ start + size → boundary ≤ tokenEnd) ∧
    (tokenEnd = pieces.length ∨ ∃ boundary : ℕ, SafeBoundary pieces boundary ∧
      start < boundary ∧ (boundary : ℤ) + overlap ≤ tokenEnd)}

theorem getElem_le_iff {items : List ℕ} (ascending : items.Pairwise (· < ·))
    {index place item other : ℕ} (found : items[index]? = some item)
    (found' : items[place]? = some other) : item ≤ other ↔ index ≤ place := by
  obtain ⟨inside, rfl⟩ := List.getElem?_eq_some_iff.mp found
  obtain ⟨inside', rfl⟩ := List.getElem?_eq_some_iff.mp found'
  exact ascending.sortedLT.strictMono_get.le_iff_le (a := ⟨index, inside⟩)
    (b := ⟨place, inside'⟩)

namespace WindowLoop

variable {loop : WindowLoop} {pieces : List (List UInt8)} {text : String}

section Ends

variable (sound : loop.Sound pieces) {start : ℕ}

include sound

/-- The inner loop stops where the next window can start later. -/
theorem Sound.reaches_iff {boundary : ℕ}
    (member : boundary ∈ loop.safeBoundaries) :
    ¬(boundary < loop.total ∧
        bisectRight loop.safeBoundaries (boundary - loop.overlap) ≤
          bisectRight loop.safeBoundaries start) ↔
      loop.Reaches start boundary := by
  have limit := sound.le_total member
  constructor
  · intro stopped
    by_cases finished : boundary < loop.total
    · right
      have enough : bisectRight loop.safeBoundaries start <
          bisectRight loop.safeBoundaries (boundary - loop.overlap) := by
        by_contra few
        exact stopped ⟨finished, by omega⟩
      have inside := enough.trans_le (bisectRight_le_length _ _)
      have next := List.getElem?_eq_getElem inside
      have room := (lt_bisectRight_iff sound.ascending _ next).mp enough
      have room' := le_sub_iff_add_le.mp room
      have above := lt_bisectRight_iff sound.ascending start next
      refine ⟨_, List.getElem_mem inside, ?_, room'⟩
      omega
    · exact .inl (by omega)
  · rintro (rfl | ⟨other, found, after, room⟩) ⟨unfinished, few⟩
    · exact lt_irrefl _ unfinished
    · obtain ⟨index, at_⟩ := List.getElem?_of_mem found
      have late := lt_bisectRight_iff sound.ascending start at_
      have early := lt_bisectRight_iff sound.ascending
        (boundary - loop.overlap) at_
      omega

/-- The inner loop finds the first such boundary. -/
theorem Sound.advance_isLeast {rest : List ℕ} {tokenEnd : ℕ}
    (within : ∀ boundary ∈ rest, boundary ∈ loop.safeBoundaries)
    (ascending : rest.Pairwise (· < ·))
    (found : loop.advance (bisectRight loop.safeBoundaries start) rest =
      .ok tokenEnd) :
    IsLeast {boundary | boundary ∈ rest ∧ loop.Reaches start boundary}
      tokenEnd := by
  induction rest with
  | nil => cases found
  | cons boundary rest induction =>
      obtain ⟨here, later⟩ := List.forall_mem_cons.mp within
      obtain ⟨above, ascending⟩ := List.pairwise_cons.mp ascending
      have reaches : _ ↔ loop.Reaches start boundary :=
        sound.reaches_iff here
      rw [advance] at found
      split_ifs at found with searching
      · obtain ⟨⟨member, reached⟩, least⟩ := induction later ascending found
        refine ⟨⟨List.mem_cons_of_mem _ member, reached⟩, ?_⟩
        rintro other ⟨listed, reaches'⟩
        rcases List.mem_cons.mp listed with rfl | listed
        · exact absurd searching (reaches.mpr reaches')
        · exact least ⟨listed, reaches'⟩
      · cases found
        refine ⟨⟨List.mem_cons_self, reaches.mp searching⟩, ?_⟩
        rintro other ⟨listed, -⟩
        rcases List.mem_cons.mp listed with rfl | listed
        · exact le_rfl
        · exact (above other listed).le

variable (encoded : pieces.flatten = utf8 text.toList)

/-- The boundaries from `end_index` on. -/
theorem Sound.mem_drop_endIndex {boundary : ℕ}
    (startSafe : start ∈ loop.safeBoundaries) (positive : 0 < loop.size) :
    boundary ∈ loop.safeBoundaries.drop
        (max (bisectRight loop.safeBoundaries start)
          (bisectRight loop.safeBoundaries (start + loop.size) - 1)) ↔
      boundary ∈ loop.safeBoundaries ∧ start < boundary ∧
        ∀ other ∈ loop.safeBoundaries, (other : ℤ) ≤ start + loop.size →
          other ≤ boundary := by
  have ascending := sound.ascending
  obtain ⟨index, greatest, count, place, isGreatest⟩ :=
    bisectRight_isGreatest ascending startSafe
      (show (start : ℤ) ≤ start + loop.size by omega)
  rw [count, Nat.add_sub_cancel]
  constructor
  · intro member
    obtain ⟨position, found⟩ := List.getElem?_of_mem member
    rw [List.getElem?_drop] at found
    have early := lt_bisectRight_iff ascending start found
    refine ⟨List.mem_of_getElem? found, by omega, ?_⟩
    intro other listed below
    exact (isGreatest.2 ⟨listed, below⟩).trans
      ((getElem_le_iff ascending place found).mpr (by omega))
  · rintro ⟨member, after, last⟩
    obtain ⟨position, found⟩ := List.getElem?_of_mem member
    have early := lt_bisectRight_iff ascending start found
    have below := (getElem_le_iff ascending place found).mp
      (last greatest isGreatest.1.1 isGreatest.1.2)
    refine List.mem_of_getElem? (i := position -
      max (bisectRight loop.safeBoundaries start) index) ?_
    rw [List.getElem?_drop, ← found]
    congr 1
    omega

include encoded

/-- A window ends at the first place where it can. -/
theorem Sound.windowEnd_isLeast {tokenEnd : ℕ}
    (startSafe : SafeBoundary pieces start) (positive : 0 < loop.size)
    (unfinished : start < loop.total)
    (found : loop.windowEnd start = .ok tokenEnd) :
    IsLeast (windowEnds pieces loop.size loop.overlap start) tokenEnd := by
  have last := sound.mem_safeBoundaries.mp (sound.total_mem encoded)
  have within : ∀ boundary : ℕ, SafeBoundary pieces boundary →
      boundary ≤ loop.total := by
    intro boundary safe
    rw [sound.total]
    exact safe.1
  unfold WindowLoop.windowEnd at found
  dsimp only at found
  split_ifs at found with whole
  · cases found
    refine ⟨⟨last, unfinished, fun boundary safe _ => within boundary safe,
      .inl sound.total⟩, ?_⟩
    rintro other ⟨-, -, reach, -⟩
    exact reach _ last (by omega)
  · have nominal : min (start + loop.size) (loop.total : ℤ) =
        start + loop.size := by omega
    rw [nominal] at found
    have listed := sound.mem_safeBoundaries.mpr startSafe
    have drops : ∀ boundary, boundary ∈ loop.safeBoundaries.drop _ ↔ _ :=
      fun _ => sound.mem_drop_endIndex listed positive
    have least := sound.advance_isLeast
      (fun boundary member => (List.drop_sublist _ _).subset member)
      (sound.ascending.sublist (List.drop_sublist _ _)) found
    have same : {boundary | boundary ∈ loop.safeBoundaries.drop
        (max (bisectRight loop.safeBoundaries start)
          (bisectRight loop.safeBoundaries (start + loop.size) - 1)) ∧
        loop.Reaches start boundary} =
      windowEnds pieces loop.size loop.overlap start := by
      ext boundary
      unfold windowEnds Reaches
      simp only [Set.mem_ofPred_eq, drops, sound.mem_safeBoundaries, sound.total]
      tauto
    rwa [same] at least

end Ends

theorem window_ok {start tokenEnd : ℕ} {window : TokenWindow}
    (cut : loop.window start tokenEnd = .ok window) :
    window.tokenStart = start ∧ window.tokenEnd = tokenEnd := by
  obtain ⟨_, -, rest⟩ := bind_eq_ok.mp cut
  obtain ⟨_, -, rest⟩ := bind_eq_ok.mp rest
  dsimp only at rest
  split at rest
  · obtain ⟨_, -, rest⟩ := bind_eq_ok.mp rest
    obtain ⟨_, -, rest⟩ := bind_eq_ok.mp rest
    obtain ⟨_, -, rest⟩ := bind_eq_ok.mp rest
    cases rest
    exact ⟨rfl, rfl⟩
  · cases rest

/-- The end of each window is computed from its start. -/
theorem windowEnd_of_mem {start : ℕ} {windows : List TokenWindow}
    (found : loop.windowsFrom start = .ok windows) :
    ∀ window ∈ windows,
      loop.windowEnd window.tokenStart = .ok window.tokenEnd := by
  induction size : loop.total - start using Nat.strong_induction_on
    generalizing start windows with
  | _ size induction =>
      rw [windowsFrom] at found
      split_ifs at found with unfinished
      · obtain ⟨tokenEnd, ended, rest⟩ := bind_eq_ok.mp found
        obtain ⟨window, cut, rest⟩ := bind_eq_ok.mp rest
        obtain ⟨rfl, rfl⟩ := window_ok cut
        split_ifs at rest with finished
        · cases rest
          exact List.forall_mem_singleton.mpr ended
        · obtain ⟨nextStart, -, rest⟩ := bind_eq_ok.mp rest
          split_ifs at rest with stalled
          obtain ⟨windows, others, rest⟩ := bind_eq_ok.mp rest
          cases rest
          exact List.forall_mem_cons.mpr
            ⟨ended, induction _ (by omega) others rfl⟩
      · cases found
        simp

end WindowLoop

/-- Where the windows of a tokenization start. -/
inductive WindowStart (pieces : List (List UInt8)) (size overlap : ℤ) :
    ℕ → Prop where
  | first : WindowStart pieces size overlap 0
  | next {start tokenEnd nextStart : ℕ}
      (earlier : WindowStart pieces size overlap start)
      (ends : IsLeast (windowEnds pieces size overlap start) tokenEnd)
      (unfinished : tokenEnd ≠ pieces.length)
      (starts : IsGreatest {position | SafeBoundary pieces position ∧
        (position : ℤ) + overlap ≤ tokenEnd} nextStart) :
      WindowStart pieces size overlap nextStart

/-- The first safe boundary at or after a size. -/
def IsSizeEnd (pieces : List (List UInt8)) (size : ℤ) (start boundary : ℕ) :
    Prop :=
  IsLeast {position | SafeBoundary pieces position ∧
    (start : ℤ) + size ≤ position} boundary

/-- No window goes on beyond the first safe boundary from its size on. -/
def FitsSize (pieces : List (List UInt8)) (size : ℤ)
    (windows : List TokenWindow) : Prop :=
  ∀ window ∈ windows, ∀ boundary,
    IsSizeEnd pieces size window.tokenStart boundary →
      window.tokenEnd ≤ boundary

/-- That boundary leaves the overlap after the first safe boundary of the
window, wherever a window starts. -/
def LeavesOverlap (pieces : List (List UInt8)) (size overlap : ℤ) : Prop :=
  ∀ start, WindowStart pieces size overlap start → start < pieces.length →
    ∀ boundary, IsSizeEnd pieces size start boundary →
      boundary = pieces.length ∨ ∃ next : ℕ, SafeBoundary pieces next ∧
        start < next ∧ (next : ℤ) + overlap ≤ boundary

section Sizes

variable {pieces : List (List UInt8)} {size overlap : ℤ} {start : ℕ}

/-- One window keeps to its size exactly when the overlap fits in. -/
theorem fits_iff {tokenEnd boundary : ℕ} (positive : 0 < size)
    (ends : IsLeast (windowEnds pieces size overlap start) tokenEnd)
    (sizeEnd : IsSizeEnd pieces size start boundary) :
    tokenEnd ≤ boundary ↔
      boundary = pieces.length ∨ ∃ next : ℕ, SafeBoundary pieces next ∧
        start < next ∧ (next : ℤ) + overlap ≤ boundary := by
  obtain ⟨⟨safe, far⟩, least⟩ := sizeEnd
  obtain ⟨⟨endSafe, -, -, reaches⟩, first⟩ := ends
  constructor
  · intro within
    rcases reaches with rfl | ⟨next, nextSafe, after, room⟩
    · exact .inl (le_antisymm safe.1 within)
    · exact .inr ⟨next, nextSafe, after, by omega⟩
  · intro room
    refine first ⟨safe, by omega, fun other _ below => by omega, room⟩

end Sizes

section Windows

variable {encoding : Encoding} {text : String} {tokens : List ℕ}
  {pieces : List (List UInt8)} {size overlap : ℤ}
  (tokenization : Tokenization encoding text tokens pieces)
  {windows : List TokenWindow}

/-- A window that is not the last has a next one. -/
private theorem exists_next {related : TokenWindow → TokenWindow → Prop}
    (chained : windows.IsChain related) {window : TokenWindow}
    (member : window ∈ windows) :
    windows.getLast? = some window ∨ ∃ next ∈ windows, related window next := by
  induction windows with
  | nil => cases member
  | cons first rest induction =>
      cases rest with
      | nil => exact .inl (by rw [List.mem_singleton.mp member]; rfl)
      | cons second rest =>
          obtain ⟨here, chained⟩ := List.isChain_cons_cons.mp chained
          rcases List.mem_cons.mp member with rfl | later
          · exact .inr ⟨second, by simp, here⟩
          · rcases induction chained later with last | ⟨next, found, holds⟩
            · exact .inl (by rw [List.getLast?_cons_cons, last])
            · exact .inr ⟨next, List.mem_cons_of_mem _ found, holds⟩

/-- The windows start where `WindowStart` says. -/
private theorem starts_of_cover
    (cover : WindowCover text pieces overlap start windows)
    (ends : ∀ window ∈ windows, IsLeast
      (windowEnds pieces size overlap window.tokenStart) window.tokenEnd)
    (started : WindowStart pieces size overlap start) :
    ∀ window ∈ windows, WindowStart pieces size overlap window.tokenStart := by
  induction windows generalizing start with
  | nil => simp
  | cons window rest induction =>
      obtain rfl : window.tokenStart = start := by simpa using cover.starts
      refine List.forall_mem_cons.mpr ⟨started, ?_⟩
      cases rest with
      | nil => simp
      | cons next rest =>
          obtain ⟨precedes, chained⟩ := List.isChain_cons_cons.mp cover.chained
          obtain ⟨endsHere, endsLater⟩ := List.forall_mem_cons.mp ends
          obtain ⟨-, faithful⟩ := List.forall_mem_cons.mp cover.faithful
          have bounded := (faithful next (by simp)).bounded
          have unfinished : window.tokenEnd ≠ pieces.length := by
            have less := precedes.endsLater
            omega
          exact induction
            { starts := rfl
              ends := by simpa using cover.ends
              chained := chained
              faithful := faithful } endsLater
            (.next started endsHere unfinished precedes.startsAt)

/-- Windows start wherever `WindowStart` says. -/
private theorem exists_window
    (cover : WindowCover text pieces overlap 0 windows)
    (ends : ∀ window ∈ windows, IsLeast
      (windowEnds pieces size overlap window.tokenStart) window.tokenEnd)
    {start : ℕ} (started : WindowStart pieces size overlap start)
    (unfinished : start < pieces.length) :
    ∃ window ∈ windows, window.tokenStart = start := by
  induction started with
  | first =>
      obtain ⟨window, head, starts⟩ := Option.map_eq_some_iff.mp cover.starts
      exact ⟨window, List.mem_of_head? head, starts⟩
  | @next start tokenEnd nextStart earlier isEnd notLast starts induction =>
      have early : start < pieces.length :=
        isEnd.1.2.1.trans_le isEnd.1.1.1
      obtain ⟨window, member, rfl⟩ := induction early
      obtain rfl := (ends window member).unique isEnd
      rcases exists_next cover.chained member with last | ⟨next, found, holds⟩
      · have final := cover.ends
        rw [last] at final
        exact absurd (Option.some.inj final) notLast
      · exact ⟨next, found, holds.startsAt.unique starts⟩

/-- Every window keeps to its size exactly when the overlap fits in wherever a
window starts. -/
theorem safe_token_windows_size (tokenization : Tokenization encoding text
      tokens pieces) (nonnegative : 0 ≤ overlap) (smaller : overlap < size)
    (cut : safeTokenWindows encoding text size overlap = .ok windows) :
    FitsSize pieces size windows ↔ LeavesOverlap pieces size overlap := by
  by_cases empty : text = ""
  · have nothing := tokenization.safeTokenWindows_empty nonnegative smaller
      empty
    obtain rfl := Except.ok.inj (nothing.symm.trans cut)
    have short : pieces.length = 0 := by
      rw [← tokenization.length_eq, List.length_eq_zero_iff]
      exact tokenization.eq_nil_iff.mpr empty
    constructor
    · intro _ start _ before
      omega
    · intro _ window member
      cases member
  · obtain ⟨loop, sound, rfl, rfl, same⟩ :=
      tokenization.safeTokenWindows nonnegative smaller empty
    have unfinished : 0 < loop.total := by
      rw [sound.total, ← tokenization.length_eq, List.length_pos_iff]
      rwa [Ne, tokenization.eq_nil_iff]
    obtain ⟨others, found, cover, -⟩ := sound.windowsFrom
      tokenization.encoded nonnegative 0
      ⟨Nat.zero_le _, 0, charBoundary_zero pieces⟩ unfinished
    obtain rfl := Except.ok.inj (found.symm.trans (same.symm.trans cut))
    have ends : ∀ window ∈ others, window.tokenStart < pieces.length ∧
        IsLeast (windowEnds pieces loop.size loop.overlap window.tokenStart)
          window.tokenEnd := by
      intro window member
      have faithful := cover.faithful window member
      have inside := faithful.proper.trans_le faithful.bounded
      refine ⟨inside, sound.windowEnd_isLeast tokenization.encoded
        ⟨inside.le, _, faithful.startBoundary⟩ (by omega)
        (by rwa [sound.total]) ?_⟩
      exact WindowLoop.windowEnd_of_mem found window member
    have isEnd := fun window member => (ends window member).2
    have started := starts_of_cover cover isEnd .first
    constructor
    · intro fits start isStart before boundary sizeEnd
      obtain ⟨window, member, rfl⟩ := exists_window cover isEnd isStart before
      exact (fits_iff (by omega) (isEnd window member) sizeEnd).mp
        (fits window member boundary sizeEnd)
    · intro leaves window member boundary sizeEnd
      exact (fits_iff (by omega) (isEnd window member) sizeEnd).mpr
        (leaves _ (started window member) (ends window member).1 boundary
          sizeEnd)

end Windows

theorem split_characters_size : ∃ windows,
    safeTokenWindows splitEncoding "éé" 1 0 = .ok windows ∧
      (FitsSize [[0xC3], [0xA9], [0xC3], [0xA9]] 1 windows ↔
        LeavesOverlap [[0xC3], [0xA9], [0xC3], [0xA9]] 1 0) := by
  have tokenization : Tokenization splitEncoding "éé" [0, 1, 0, 1]
      [[0xC3], [0xA9], [0xC3], [0xA9]] :=
    { encode := rfl
      decode := rfl
      nonempty := by decide
      encoded := by decide }
  obtain ⟨windows, cut, -⟩ := tokenization.windowCover
    (show (0 : ℤ) ≤ 0 by decide) (show (0 : ℤ) < 1 by decide) (by decide)
  exact ⟨windows, cut,
    safe_token_windows_size tokenization (by decide) (by decide) cut⟩

/-- An emoji in three tokens, then two letters in one. -/
def emojiPieces : List (List UInt8) :=
  [[0xF0, 0x9F], [0x99], [0x82], [0x61, 0x62]]

def emojiEncoding : Encoding where
  encode := fun _ => .ok [0, 1, 2, 3]
  decodeSingleTokenBytes := fun token => .ok (emojiPieces.getD token [])

def emojiLoop : WindowLoop :=
  { payload := emojiPieces.flatten
    offsets := [0, 2, 3, 4, 6]
    safe := [(0, 0), (3, 1), (4, 3)]
    total := 4
    size := 2
    overlap := 1 }

def emojiWindows : List TokenWindow :=
  [{ content := "🙂ab", tokenStart := 0, tokenEnd := 4, charStart := 0,
     charEnd := 3 }]

private theorem emojiLoop_windows :
    emojiLoop.windowsFrom 0 = .ok emojiWindows := by
  rw [WindowLoop.windowsFrom, if_pos (by decide)]
  exact bind_eq_ok.mpr ⟨4, rfl, bind_eq_ok.mpr ⟨_, rfl, rfl⟩⟩

/-- The window goes on to the letters, though the emoji alone is more than its
size. -/
theorem emoji_exceeds_size : ∃ windows,
    Tokenization emojiEncoding "🙂ab" [0, 1, 2, 3] emojiPieces ∧
      safeTokenWindows emojiEncoding "🙂ab" 2 1 = .ok windows ∧
      ¬FitsSize emojiPieces 2 windows := by
  have tokenization :
      Tokenization emojiEncoding "🙂ab" [0, 1, 2, 3] emojiPieces :=
    { encode := rfl
      decode := rfl
      nonempty := by decide
      encoded := by decide }
  have whole : SafeBoundary emojiPieces 3 :=
    ⟨by decide, 1, ['🙂'], by decide, rfl⟩
  have inside : ∀ position, SafeBoundary emojiPieces position →
      (2 : ℤ) ≤ position → 3 ≤ position := by
    rintro position ⟨-, characters, chars, encoded, -⟩ far
    by_contra early
    obtain rfl : position = 2 := by omega
    have partial_ : Utf8.decode (emojiPieces.take 2).flatten = none := by decide
    have read := Utf8.decode_eq_some_iff.mpr encoded
    rw [partial_] at read
    cases read
  refine ⟨emojiWindows, tokenization, ?_, fun fits => ?_⟩
  · exact emojiLoop_windows
  · have short := fits _ List.mem_cons_self 3
      ⟨⟨whole, by decide⟩, fun position ⟨safe, far⟩ =>
        inside position safe (by simpa using far)⟩
    exact absurd short (by decide)

end RagBench
