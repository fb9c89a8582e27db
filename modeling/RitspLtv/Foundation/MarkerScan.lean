import Mathlib.Data.List.Basic
import Mathlib.Data.List.Infix

/-!
# Scanning a text for marked blocks

A scanner looks for an opening marker, then for the closing marker after it,
takes everything from the one through the other as a block, and goes on behind
it.  It stops when no further complete block is found.  For arbitrary symbols
and markers this module defines the scan and locates every occurrence of the
opening marker relative to the blocks:

* `splitAtMarker` finds the first occurrence of a marker;
* `nextBlock` and `scan` are the scan, with the position of every block; and
* `exists_covers_iff` and `exists_start_eq_iff` say which opening markers lie
  inside a block, and which open one.
-/

namespace RitspLtv.Foundation.MarkerScan

variable {α : Type} [DecidableEq α]

/-! ## Occurrences -/

/-- `marker` occurs in `text` at a position. -/
def OccursAt (marker text : List α) (position : Nat) : Prop :=
  marker <+: text.drop position

/-- Split a text in front of the first occurrence of a marker. -/
def splitAtMarker (marker : List α) : List α → Option (List α × List α)
  | [] => if marker = [] then some ([], []) else none
  | head :: tail =>
      if marker.isPrefixOf (head :: tail) then some ([], head :: tail)
      else
        (splitAtMarker marker tail).map fun (before, found) =>
          (head :: before, found)

/-- The two parts make up the text, and the second starts with the marker. -/
theorem splitAtMarker_eq_some
    {marker text before found : List α}
    (split : splitAtMarker marker text = some (before, found)) :
    text = before ++ found ∧ marker <+: found := by
  induction text generalizing before with
  | nil =>
      simp only [splitAtMarker] at split
      split at split
      · next empty =>
          cases split
          exact ⟨rfl, empty ▸ List.prefix_rfl⟩
      · cases split
  | cons head tail induction =>
      simp only [splitAtMarker] at split
      split at split
      · next starts =>
          cases split
          exact ⟨rfl, List.isPrefixOf_iff_prefix.mp starts⟩
      · cases rest : splitAtMarker marker tail with
        | none => simp [rest] at split
        | some parts =>
            rcases parts with ⟨front, back⟩
            simp only [rest, Option.map_some, Option.some.injEq,
              Prod.mk.injEq] at split
            rcases split with ⟨rfl, rfl⟩
            rcases induction rest with ⟨rfl, starts⟩
            exact ⟨rfl, starts⟩

/-- No occurrence of the marker starts in front of the split. -/
theorem splitAtMarker_first
    {marker text before found : List α}
    (split : splitAtMarker marker text = some (before, found))
    {position : Nat} (occurs : OccursAt marker text position) :
    before.length ≤ position := by
  induction text generalizing before position with
  | nil =>
      simp only [splitAtMarker] at split
      split at split
      · cases split
        exact Nat.zero_le _
      · cases split
  | cons head tail induction =>
      simp only [splitAtMarker] at split
      split at split
      · cases split
        exact Nat.zero_le _
      · next differs =>
          cases rest : splitAtMarker marker tail with
          | none => simp [rest] at split
          | some parts =>
              rcases parts with ⟨front, back⟩
              simp only [rest, Option.map_some, Option.some.injEq,
                Prod.mk.injEq] at split
              rcases split with ⟨rfl, rfl⟩
              cases position with
              | zero =>
                  exact absurd (List.isPrefixOf_iff_prefix.mpr occurs) differs
              | succ position =>
                  have bound : front.length ≤ position :=
                    induction rest occurs
                  simp only [List.length_cons]
                  omega

/-! ## The next block -/

/--
The next complete block: what precedes it, the block from its opening through
its closing marker, and what follows it.
-/
def nextBlock (opening closing text : List α) :
    Option (List α × List α × List α) :=
  match splitAtMarker opening text with
  | none => none
  | some (before, found) =>
      match splitAtMarker closing found with
      | none => none
      | some (body, rest) =>
          some (before, body ++ closing, rest.drop closing.length)

/-- A block and its surroundings make up the text. -/
theorem nextBlock_eq_some
    {opening closing text before block after : List α}
    (found : nextBlock opening closing text = some (before, block, after)) :
    text = before ++ (block ++ after) ∧
      opening <+: block ++ after ∧
      (∃ body, block = body ++ closing) ∧
      ∀ position, OccursAt opening text position →
        before.length ≤ position := by
  unfold nextBlock at found
  split at found
  · cases found
  · next front back opened =>
      split at found
      · cases found
      · next body rest closed =>
          cases found
          rcases splitAtMarker_eq_some opened with ⟨whole, starts⟩
          rcases splitAtMarker_eq_some closed with ⟨inner, ends⟩
          have remainder : closing ++ rest.drop closing.length = rest :=
            List.prefix_iff_eq_append.mp ends
          have joined : body ++ closing ++ rest.drop closing.length = back := by
            rw [List.append_assoc, remainder, ← inner]
          rw [joined]
          exact
            ⟨whole, starts, ⟨body, rfl⟩,
              fun _ occurs => splitAtMarker_first opened occurs⟩

/-- No closing marker ends in front of the end of an opening marker. -/
def ClosesBehind (opening closing : List α) : Prop :=
  ∀ position < opening.length,
    position + closing.length < opening.length →
      ¬ closing <+: opening.drop position

instance (opening closing : List α) :
    Decidable (ClosesBehind opening closing) :=
  inferInstanceAs (Decidable (∀ position < opening.length, _ → ¬ _))

/-- A block is at least as long as its opening marker. -/
theorem opening_le_block
    {opening closing text before block after : List α}
    (closesBehind : ClosesBehind opening closing)
    (found : nextBlock opening closing text = some (before, block, after)) :
    opening.length ≤ block.length := by
  rcases nextBlock_eq_some found with ⟨_, starts, ⟨body, rfl⟩, _⟩
  by_contra short
  simp only [List.length_append, not_le] at short
  refine closesBehind body.length (by omega) short ?_
  have inOpening :
      opening.drop body.length <+:
        (body ++ closing ++ after).drop body.length :=
    starts.drop _
  rw [List.append_assoc, List.drop_left] at inOpening
  exact
    List.prefix_of_prefix_length_le (List.prefix_append closing after)
      inOpening (by rw [List.length_drop]; omega)

/-! ## The scan -/

/-- A block of the text and the position at which it starts. -/
structure Block (α : Type) where
  start : Nat
  text : List α
  deriving DecidableEq, Repr

/-- The position behind a block. -/
def Block.stop (block : Block α) : Nat :=
  block.start + block.text.length

/-- A position range lies inside a block. -/
def Block.Covers (block : Block α) (position length : Nat) : Prop :=
  block.start ≤ position ∧ position + length ≤ block.stop

/-- The complete blocks of a text, and the position behind the last of them. -/
structure Scan (α : Type) where
  blocks : List (Block α)
  stopped : Nat

/-- Scan the text that starts at `offset`; the count bounds the blocks. -/
def scanFrom (opening closing : List α) : Nat → Nat → List α → Scan α
  | 0, offset, _ => ⟨[], offset⟩
  | fuel + 1, offset, text =>
      match nextBlock opening closing text with
      | none => ⟨[], offset⟩
      | some (before, block, after) =>
          let start := offset + before.length
          let rest :=
            scanFrom opening closing fuel (start + block.length) after
          ⟨⟨start, block⟩ :: rest.blocks, rest.stopped⟩

/-- Scan a text for its complete blocks. -/
def scan (opening closing text : List α) : Scan α :=
  scanFrom opening closing text.length 0 text

/-- Blocks follow one another, between the offset and where the scan stopped. -/
theorem scanFrom_ordered
    (opening closing : List α) (fuel offset : Nat) (text : List α) :
    let result := scanFrom opening closing fuel offset text
    result.blocks.Pairwise (fun first second => first.stop ≤ second.start) ∧
      offset ≤ result.stopped ∧
      ∀ block ∈ result.blocks,
        offset ≤ block.start ∧ block.stop ≤ result.stopped := by
  induction fuel generalizing offset text with
  | zero => simp [scanFrom]
  | succ fuel induction =>
      simp only [scanFrom]
      split
      · simp
      · next before block after found =>
          rcases induction (offset + before.length + block.length) after with
            ⟨ordered, behind, inside⟩
          refine
            ⟨List.pairwise_cons.mpr ⟨?_, ordered⟩,
              Nat.le_trans (by omega) behind, ?_⟩
          · intro later member
            exact (inside later member).1
          · intro candidate member
            rcases List.mem_cons.mp member with rfl | later
            · exact ⟨Nat.le_add_right _ _, behind⟩
            · rcases inside candidate later with ⟨lower, upper⟩
              exact ⟨Nat.le_trans (by omega) lower, upper⟩

/-- Where an opening marker stands relative to the blocks of a scan. -/
theorem scanFrom_occurrence
    {opening : List α} (closing : List α) (fuel offset : Nat) (text : List α)
    {position : Nat} (occurs : OccursAt opening text position) :
    let result := scanFrom opening closing fuel offset text
    (∃ block ∈ result.blocks,
        block.start ≤ offset + position ∧ offset + position < block.stop) ∨
      result.stopped ≤ offset + position := by
  induction fuel generalizing offset text position with
  | zero => simp [scanFrom]
  | succ fuel induction =>
      simp only [scanFrom]
      split
      · simp
      · next before block after found =>
          rcases nextBlock_eq_some found with ⟨rfl, _, _, first⟩
          have notBefore := first position occurs
          by_cases inside : position < before.length + block.length
          · left
            refine ⟨⟨offset + before.length, block⟩, by simp, ?_, ?_⟩
            · show offset + before.length ≤ offset + position
              omega
            · show offset + position < offset + before.length + block.length
              omega
          · have behind :
                OccursAt opening after
                  (position - (before.length + block.length)) := by
              rwa [OccursAt, List.drop_append, List.drop_append,
                List.drop_of_length_le (by omega),
                List.drop_of_length_le (by omega), List.nil_append,
                List.nil_append, Nat.sub_sub] at occurs
            have located :=
              induction (offset + before.length + block.length) after behind
            have shifted :
                offset + before.length + block.length +
                    (position - (before.length + block.length)) =
                  offset + position := by
              omega
            rw [shifted] at located
            rcases located with ⟨later, member, bounds⟩ | stopped
            · exact .inl ⟨later, List.mem_cons_of_mem _ member, bounds⟩
            · exact .inr stopped

/-- Every block is at least as long as the opening marker. -/
theorem opening_le_of_mem_scanFrom
    {opening closing : List α} (closesBehind : ClosesBehind opening closing)
    (fuel offset : Nat) (text : List α) :
    ∀ block ∈ (scanFrom opening closing fuel offset text).blocks,
      opening.length ≤ block.text.length := by
  induction fuel generalizing offset text with
  | zero => simp [scanFrom]
  | succ fuel induction =>
      simp only [scanFrom]
      split
      · simp
      · next before block after found =>
          intro candidate member
          rcases List.mem_cons.mp member with rfl | later
          · exact opening_le_block closesBehind found
          · exact induction _ _ candidate later

/-- Every block ends with the closing marker. -/
theorem closing_suffix_of_mem_scanFrom
    {opening closing : List α} (fuel offset : Nat) (text : List α) :
    ∀ block ∈ (scanFrom opening closing fuel offset text).blocks,
      closing <:+ block.text := by
  induction fuel generalizing offset text with
  | zero => simp [scanFrom]
  | succ fuel induction =>
      simp only [scanFrom]
      split
      · simp
      · next before block after found =>
          rcases nextBlock_eq_some found with ⟨_, _, ⟨body, rfl⟩, _⟩
          intro candidate member
          rcases List.mem_cons.mp member with rfl | later
          · exact List.suffix_append body closing
          · exact induction _ _ candidate later

omit [DecidableEq α] in
/-- Two different blocks do not overlap. -/
theorem apart_of_ordered
    {blocks : List (Block α)} {left right : Block α}
    (ordered :
      blocks.Pairwise fun first second => first.stop ≤ second.start)
    (leftMember : left ∈ blocks) (rightMember : right ∈ blocks)
    (different : left ≠ right) :
    left.stop ≤ right.start ∨ right.stop ≤ left.start := by
  induction ordered with
  | nil => cases leftMember
  | cons ahead _ induction =>
      rcases List.mem_cons.mp leftMember with rfl | leftLater <;>
        rcases List.mem_cons.mp rightMember with rfl | rightLater
      · exact absurd rfl different
      · exact .inl (ahead right rightLater)
      · exact .inr (ahead left leftLater)
      · exact induction leftLater rightLater

section Classification

variable {opening closing text : List α} {position : Nat}

/--
An opening marker lies inside a block exactly when it starts in front of the
end of the scan and does not run across the end of a block.
-/
theorem exists_covers_iff
    (nonempty : 0 < opening.length)
    (occurs : OccursAt opening text position) :
    (∃ block ∈ (scan opening closing text).blocks,
        block.Covers position opening.length) ↔
      position < (scan opening closing text).stopped ∧
        ∀ block ∈ (scan opening closing text).blocks,
          ¬ (position < block.stop ∧
            block.stop < position + opening.length) := by
  rcases scanFrom_ordered opening closing text.length 0 text with
    ⟨ordered, _, inside⟩
  constructor
  · rintro ⟨block, member, starts, stops⟩
    refine ⟨?_, ?_⟩
    · have := (inside block member).2
      exact Nat.lt_of_lt_of_le (by omega) this
    · rintro other otherMember ⟨before, across⟩
      rcases eq_or_ne other block with rfl | different
      · omega
      · rcases apart_of_ordered ordered otherMember member different with
          first | second
        · omega
        · unfold Block.stop at *
          omega
  · rintro ⟨early, notAcross⟩
    rcases scanFrom_occurrence closing text.length 0 text occurs
      with ⟨block, member, starts, before⟩ | late
    · refine ⟨block, member, by omega, ?_⟩
      have := notAcross block member
      omega
    · rw [Nat.zero_add] at late
      exact absurd early (Nat.not_lt.mpr late)

/--
An opening marker opens a block exactly when it starts in front of the end of
the scan and not inside a block.
-/
theorem exists_start_eq_iff
    (nonempty : 0 < opening.length)
    (closesBehind : ClosesBehind opening closing)
    (occurs : OccursAt opening text position) :
    (∃ block ∈ (scan opening closing text).blocks, block.start = position) ↔
      position < (scan opening closing text).stopped ∧
        ∀ block ∈ (scan opening closing text).blocks,
          ¬ (block.start < position ∧ position < block.stop) := by
  rcases scanFrom_ordered opening closing text.length 0 text with
    ⟨ordered, _, inside⟩
  constructor
  · rintro ⟨block, member, rfl⟩
    have long :=
      opening_le_of_mem_scanFrom closesBehind text.length 0 text block member
    have upper := (inside block member).2
    refine ⟨?_, ?_⟩
    · refine Nat.lt_of_lt_of_le ?_ upper
      unfold Block.stop
      omega
    · rintro other otherMember ⟨starts, before⟩
      rcases apart_of_ordered ordered otherMember member
          (by rintro rfl; omega) with first | second
      · omega
      · unfold Block.stop at *
        omega
  · rintro ⟨early, notInside⟩
    rcases scanFrom_occurrence closing text.length 0 text occurs
      with ⟨block, member, starts, before⟩ | late
    · refine ⟨block, member, ?_⟩
      have := notInside block member
      omega
    · rw [Nat.zero_add] at late
      exact absurd early (Nat.not_lt.mpr late)

end Classification

end RitspLtv.Foundation.MarkerScan
