import Mathlib
import Nadesiko.Highlight.Segment

/-!
# Where the segments of a token lie

A token has one segment on each of its lines. None starts before the token, and none reaches beyond
it: on the last line because the content of a token ends inside of it, and on an earlier line
because the token goes on below. How long that line is said to be does not matter here.
-/

namespace Nadesiko

/-- The place right after a segment. -/
def Segment.stop (segment : Segment) : Position :=
  ⟨segment.start.line, segment.start.column + segment.length⟩

namespace Token

variable {token : Token} {excludeParticle : Bool} {lineLengths : List Nat} {line : Nat}

theorem mem_segments_iff {segment : Segment} :
    segment ∈ token.segments excludeParticle lineLengths
      ↔ (token.start.line ≤ segment.start.line ∧ segment.start.line ≤ token.stop.line)
        ∧ segment = token.segmentOn excludeParticle lineLengths segment.start.line := by
  rw [segments, List.mem_map]
  constructor
  · rintro ⟨line, hline, rfl⟩
    rw [List.mem_range'_1] at hline
    refine ⟨?_, rfl⟩
    dsimp only [segmentOn]
    omega
  · rintro ⟨hline, hsegment⟩
    refine ⟨segment.start.line, ?_, hsegment.symm⟩
    rw [List.mem_range'_1]
    omega

/-- No two segments of a token share a line. -/
theorem pairwise_segments (token : Token) (excludeParticle : Bool) (lineLengths : List Nat) :
    (token.segments excludeParticle lineLengths).Pairwise
      (fun earlier later => earlier.start.line < later.start.line) := by
  rw [segments, List.pairwise_map]
  exact List.pairwise_lt_range'

theorem start_le_segmentOn (h : token.start.line ≤ line) :
    token.start ≤ (token.segmentOn excludeParticle lineLengths line).start := by
  dsimp only [segmentOn]
  rw [Position.le_iff]
  dsimp only
  split <;> omega

/-- No segment starts behind the token. -/
theorem segmentOn_start_le (hspan : token.start ≤ token.stop) (h : line ≤ token.stop.line) :
    (token.segmentOn excludeParticle lineLengths line).start ≤ token.stop := by
  rw [Position.le_iff] at hspan ⊢
  dsimp only [segmentOn]
  split <;> omega

theorem segmentOn_column_le :
    (token.segmentOn excludeParticle lineLengths line).start.column ≤ token.start.column := by
  dsimp only [segmentOn]
  split
  · exact Nat.le_refl _
  · exact Nat.zero_le _

/-- The column at which the highlight of the last line stops is one of the token. -/
theorem highlightStop_le (hcontent : token.contentStop ≤ token.stop.column) :
    token.highlightStop excludeParticle ≤ token.stop.column := by
  unfold highlightStop
  split
  · exact hcontent
  · exact Nat.le_refl _

theorem segmentOn_stop_le (hspan : token.start ≤ token.stop)
    (hcontent : token.contentStop ≤ token.stop.column) (h : line ≤ token.stop.line) :
    (token.segmentOn excludeParticle lineLengths line).stop ≤ token.stop := by
  have hstop : token.highlightStop excludeParticle ≤ token.stop.column := highlightStop_le hcontent
  rw [Position.le_iff] at hspan ⊢
  dsimp only [segmentOn, Segment.stop]
  by_cases hlast : line = token.stop.line
  · -- on the last line the segment ends with the highlight, or is empty
    rw [if_pos hlast]
    split <;> omega
  · exact Or.inl (by omega)

/-! ## Line by line -/

theorem segments_of_line_eq (h : token.start.line = token.stop.line) :
    token.segments excludeParticle lineLengths
      = [⟨token.start, token.highlightStop excludeParticle - token.start.column⟩] := by
  have hcount : token.stop.line + 1 - token.start.line = 1 := by omega
  rw [segments, hcount, List.range'_one, List.map_singleton, segmentOn, if_pos rfl, if_pos h]

/-- Behind its first segment, a token has the segments that it would have if it started on the next
line. -/
theorem segments_of_line_lt (h : token.start.line < token.stop.line) :
    token.segments excludeParticle lineLengths
      = ⟨token.start, lineLengths[token.start.line]?.getD token.start.column - token.start.column⟩
        :: { token with start := ⟨token.start.line + 1, 0⟩ }.segments excludeParticle
          lineLengths := by
  have hcount : token.stop.line + 1 - token.start.line
      = token.stop.line + 1 - (token.start.line + 1) + 1 := by omega
  rw [segments, hcount, List.range'_succ, List.map_cons]
  congr 1
  · rw [segmentOn, if_pos rfl, if_neg (Nat.ne_of_lt h)]
  · refine List.map_congr_left ?_
    intro line hline
    rw [List.mem_range'_1] at hline
    have hne : line ≠ token.start.line := by omega
    simp only [segmentOn, hne, if_false, ite_self]
    rfl

end Token

end Nadesiko
