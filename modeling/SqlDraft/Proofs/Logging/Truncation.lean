import SqlDraft.Log

/-!
# Cutting a text to a number of bytes

What the log shows of a text is the longest beginning of whole characters that fits in a number of
bytes. The cut is always at a boundary between characters, and since no character has more than four
bytes, fewer than four of the bytes that the log may show are not used.
-/

namespace SqlDraft

namespace Text

/-! ## The way back to a boundary -/

/-- Going back does not go forward. -/
theorem boundaryBefore_le (s : String) (limit : Nat) : boundaryBefore s limit ≤ limit := by
  induction limit with
  | zero => exact Nat.le_refl 0
  | succ limit ih =>
    rw [boundaryBefore]
    split
    · exact Nat.le_refl _
    · exact Nat.le_succ_of_le ih

/-- No boundary is passed on the way back. -/
theorem le_boundaryBefore {s : String} {offset limit : Nat}
    (hvalid : String.Pos.Raw.IsValid s ⟨offset⟩) (hle : offset ≤ limit) :
    offset ≤ boundaryBefore s limit := by
  induction limit with
  | zero => exact hle
  | succ limit ih =>
    rw [boundaryBefore]
    split
    · exact hle
    · next hinside =>
      -- The offset is a boundary and the one given up is not, so that it lies before that.
      have hne : offset ≠ limit + 1 := by
        rintro rfl
        exact hinside (String.Pos.Raw.isValid_eq_true_iff.mpr hvalid)
      exact ih (by omega)

/-- A beginning of a text ends at a boundary. -/
theorem isValid_of_eq_append {s q rest : String} (h : s = q ++ rest) :
    String.Pos.Raw.IsValid s ⟨q.utf8ByteSize⟩ :=
  String.Pos.Raw.isValid_iff_exists_append.mpr ⟨q, rest, h, rfl⟩

/-- The character at a cut ends at most four bytes further on. -/
theorem exists_next_boundary {s : String} {limit : Nat} (h : limit < s.utf8ByteSize) :
    ∃ offset, String.Pos.Raw.IsValid s ⟨offset⟩ ∧ boundaryBefore s limit < offset ∧
      offset ≤ boundaryBefore s limit + 4 := by
  have hend : cutPosition limit s ≠ s.endPos := by
    intro he
    have hoffset := congrArg (fun p => p.offset.byteIdx) he
    simp only [byteIdx_cutPosition, String.offset_endPos, String.byteIdx_rawEndPos] at hoffset
    have hlimit := boundaryBefore_le s limit
    omega
  have hnext := ((cutPosition limit s).next hend).isValid
  rw [String.Pos.offset_next] at hnext
  refine ⟨boundaryBefore s limit + ((cutPosition limit s).get hend).utf8Size, hnext, ?_, ?_⟩
  · exact Nat.lt_add_of_pos_right (Char.utf8Size_pos _)
  · exact Nat.add_le_add_left (Char.utf8Size_le_four _) _

/-- Fewer than four bytes are given up, because the next boundary is behind the limit. -/
theorem le_boundaryBefore_add_three {s : String} {limit : Nat} (h : limit < s.utf8ByteSize) :
    limit ≤ boundaryBefore s limit + 3 := by
  obtain ⟨offset, hvalid, hbehind, hnear⟩ := exists_next_boundary h
  have hpassed : ¬ offset ≤ limit := fun hle =>
    Nat.not_le.mpr hbehind (le_boundaryBefore hvalid hle)
  omega

/-! ## What is kept -/

/-- A beginning of a text, in whole characters, that fits in a number of bytes, and no longer one
fits. -/
structure LongestFit (limit : Nat) (s p : String) : Prop where
  begins : ∃ rest, s = p ++ rest
  fits : p.utf8ByteSize ≤ limit
  longest : ∀ q rest : String, s = q ++ rest → p.length < q.length → limit < q.utf8ByteSize

/-- What is kept of a text that does not fit are its bytes before the boundary. -/
theorem toByteArray_clip {s : String} {limit : Nat} (h : limit < s.utf8ByteSize) :
    (clip limit s).toByteArray = s.toByteArray.extract 0 (boundaryBefore s limit) := by
  rw [clip, if_neg (Nat.not_le.mpr h)]
  exact String.copy_toByteArray_sliceTo

/-- What is kept of a text ends at the boundary. -/
theorem utf8ByteSize_clip {s : String} {limit : Nat} (h : limit < s.utf8ByteSize) :
    (clip limit s).utf8ByteSize = boundaryBefore s limit := by
  have hsplit := (cutPosition limit s).splits.offset_eq_rawEndPos
  rw [clip, if_neg (Nat.not_le.mpr h)]
  exact (congrArg String.Pos.Raw.byteIdx hsplit).symm

/-- Of two beginnings of a text the one with more characters has more bytes. -/
theorem utf8ByteSize_lt_of_length_lt {p q rest rest' : String} (h : p ++ rest = q ++ rest')
    (hlength : p.length < q.length) : p.utf8ByteSize < q.utf8ByteSize := by
  have hp : p.toList <+: (p ++ rest).toList := String.toList_append ▸ List.prefix_append _ _
  have hq : q.toList <+: (p ++ rest).toList := h ▸ String.toList_append ▸ List.prefix_append _ _
  rw [← String.length_toList, ← String.length_toList] at hlength
  obtain ⟨more, hmore⟩ := List.prefix_of_prefix_length_le hp hq (Nat.le_of_lt hlength)
  have hq : q = p ++ String.ofList more := by
    rw [← String.toList_inj, String.toList_append, String.toList_ofList, hmore]
  have hne : String.ofList more ≠ "" := by
    intro he
    rw [hq, he, String.append_empty] at hlength
    exact Nat.lt_irrefl _ hlength
  rw [hq, String.utf8ByteSize_append]
  exact Nat.lt_add_of_pos_right (Nat.pos_of_ne_zero (mt String.utf8ByteSize_eq_zero_iff.mp hne))

/-- What is kept of a text is as much of it as fits. -/
theorem longestFit_clip {s : String} {limit : Nat} (h : limit < s.utf8ByteSize) :
    LongestFit limit s (clip limit s) := by
  have hsize := utf8ByteSize_clip h
  have happend : s = clip limit s ++ (s.sliceFrom (cutPosition limit s)).copy := by
    rw [clip, if_neg (Nat.not_le.mpr h)]
    exact String.sliceTo_append_sliceFrom.symm
  refine ⟨⟨_, happend⟩, hsize ▸ boundaryBefore_le s limit, fun q rest hq hlonger => ?_⟩
  have hmore := utf8ByteSize_lt_of_length_lt (happend.symm.trans hq) hlonger
  refine Nat.lt_of_not_le fun hfits => ?_
  have hpassed := le_boundaryBefore (isValid_of_eq_append hq) hfits
  omega

end Text

/-- Without a limit, and within it, a text is shown as it is. A longer text is cut, always at a
boundary between characters, to the longest beginning that fits: its bytes before that boundary,
which are fewer than the limit by at most three. -/
theorem truncate_longestFit (s : String) :
    truncate none s = s ∧
    ∀ limit : Nat,
      (s.utf8ByteSize ≤ limit → truncate (some limit) s = s) ∧
      (limit < s.utf8ByteSize → ∃ p : String, truncate (some limit) s = p ++ "..." ∧
        Text.LongestFit limit s p ∧ limit ≤ p.utf8ByteSize + 3 ∧
        p.toByteArray = s.toByteArray.extract 0 (Text.boundaryBefore s limit)) ∧
      String.Pos.Raw.IsValid s ⟨Text.boundaryBefore s limit⟩ := by
  refine ⟨rfl, fun limit => ⟨fun hfits => ?_, fun hlong => ?_,
    Text.isValid_boundaryBefore s limit⟩⟩
  · rw [truncate, if_pos hfits]
  · refine ⟨Text.clip limit s, ?_, Text.longestFit_clip hlong, ?_, Text.toByteArray_clip hlong⟩
    · rw [truncate, if_neg (Nat.not_le.mpr hlong)]
    · rw [Text.utf8ByteSize_clip hlong]
      exact Text.le_boundaryBefore_add_three hlong

/-- Characters of one, two and four bytes; the last of them is left out as a whole, and three bytes
of the limit with it. -/
theorem truncate_longestFit_insideCharacter :
    6 < "aé😀".utf8ByteSize ∧ truncate (some 6) "aé😀" = "aé..." ∧
      Text.LongestFit 6 "aé😀" "aé" ∧ 6 = "aé".utf8ByteSize + 3 := by
  have hlong : 6 < "aé😀".utf8ByteSize := by decide
  have hcut : truncate (some 6) "aé😀" = "aé..." := rfl
  obtain ⟨p, htruncate, hfit, -⟩ := ((truncate_longestFit "aé😀").2 6).2.1 hlong
  have hp : p = "aé" := by
    rw [hcut] at htruncate
    exact (String.append_left_inj "...").mp htruncate.symm
  exact ⟨hlong, hcut, hp ▸ hfit, by decide⟩

end SqlDraft
