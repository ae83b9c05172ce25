import SqlDraft.Json.Printer
import SqlDraft.Json.Reader

/-!
# Texts in JSON texts

Every character of a text is written as itself or as one escape, from which it is read again, and
the mark that ends a literal is never written for a character.
-/

namespace SqlDraft.Json

/-- What a character is read as: its escape is read to one unit, which makes that character. -/
structure UnitFor (c : Char) (u : TextUnit) : Prop where
  read : ∀ before rest, readUnitsFrom before ((escapeChar c).toList ++ rest) =
    readUnitsFrom (u :: before) rest
  join : ∀ before rest, joinUnitsFrom before (u :: rest) = joinUnitsFrom (c :: before) rest

/-- The four hexadecimal digits of a control character. -/
theorem hexDigits_control : ∀ n < 0x20, ∀ digits,
    (if n < 0x10 then ['0', '0', '0'] else ['0', '0']) ++ Nat.toDigits 16 n = digits →
      digits.length = 4 ∧ hexNumber? digits = some n := by
  simp only [forall_eq']
  decide

/-- A control character is read from its number. -/
theorem unitFor_control {c : Char} (hc : c.toNat < 0x20)
    (hescape : escapeChar c =
      (if c.toNat < 0x10 then "\\u000" else "\\u00") ++ Text.hexDigits c.toNat) :
    UnitFor c (.unit c.toNat) where
  read before rest := by
    obtain ⟨hlength, hnumber⟩ := hexDigits_control c.toNat hc _ rfl
    have htext : (escapeChar c).toList = '\\' :: 'u' ::
        ((if c.toNat < 0x10 then ['0', '0', '0'] else ['0', '0']) ++ Nat.toDigits 16 c.toNat) := by
      rw [hescape, Text.hexDigits, String.toList_append, String.toList_ofList]
      split <;> rfl
    rw [htext]
    generalize (if c.toNat < 0x10 then ['0', '0', '0'] else ['0', '0']) ++
      Nat.toDigits 16 c.toNat = digits at hlength hnumber
    rcases digits with _ | ⟨a₁, _ | ⟨a₂, _ | ⟨a₃, _ | ⟨a₄, _ | ⟨a₅, digits⟩⟩⟩⟩⟩
    all_goals cases hlength
    simp only [List.cons_append, List.nil_append, readUnitsFrom, hnumber]
  join before rest := by
    have hhigh : isHighHalf c.toNat = false := by
      simp only [isHighHalf, Bool.and_eq_false_iff, decide_eq_false_iff_not]
      omega
    have hlow : isLowHalf c.toNat = false := by
      simp only [isLowHalf, Bool.and_eq_false_iff, decide_eq_false_iff_not]
      omega
    rw [joinUnitsFrom.eq_def]
    simp only [hhigh, hlow, Char.ofNat_toNat, Bool.false_eq_true, ite_false]

/-- A character that is written as itself is read as itself. -/
theorem unitFor_plain {c : Char} (hquote : c ≠ '"') (hslash : c ≠ '\\') (hc : ¬ c.toNat < 0x20)
    (hescape : escapeChar c = c.toString) : UnitFor c (.char c) where
  read before rest := by
    have htext : c.toString.toList = [c] := String.toList_singleton c
    rw [hescape, htext, List.singleton_append, readUnitsFrom, if_neg hc]
    · exact fun h => absurd h hquote
    · exact fun _ _ _ _ _ h => absurd h hslash
    · exact fun _ _ h => absurd h hslash
  join _ _ := rfl

/-- The characters with an escape of one letter. -/
def lettered : List Char := ['"', '\\', '\x08', '\x0c', '\n', '\r', '\t']

/-- A character without a letter of its own is escaped by number, or stands for itself. -/
theorem escapeChar_of_not_lettered {c : Char} (hc : c ∉ lettered) :
    escapeChar c = if c.toNat < 0x20 then
      (if c.toNat < 0x10 then "\\u000" else "\\u00") ++ Text.hexDigits c.toNat else c.toString := by
  unfold escapeChar
  split
  all_goals first | rfl | exact absurd (by decide) hc

/-- Every character is written as something that is read as this character. -/
theorem exists_unitFor (c : Char) : ∃ u, UnitFor c u := by
  by_cases hc : c ∈ lettered
  · refine ⟨.char c, ?_, fun _ _ => rfl⟩
    simp only [lettered, List.mem_cons, List.not_mem_nil, or_false] at hc
    rcases hc with rfl | rfl | rfl | rfl | rfl | rfl | rfl <;> exact fun _ _ => rfl
  · have hescape := escapeChar_of_not_lettered hc
    by_cases hcontrol : c.toNat < 0x20
    · rw [if_pos hcontrol] at hescape
      exact ⟨_, unitFor_control hcontrol hescape⟩
    · rw [if_neg hcontrol] at hescape
      refine ⟨_, unitFor_plain ?_ ?_ hcontrol hescape⟩
      · exact fun h => hc (h ▸ by decide)
      · exact fun h => hc (h ▸ by decide)

/-- What the characters of a text are read as. -/
theorem exists_units (cs : List Char) : ∃ units : List TextUnit,
    (∀ before rest, readUnitsFrom before ((cs.flatMap fun c => (escapeChar c).toList) ++ rest) =
      readUnitsFrom (units.reverse ++ before) rest) ∧
    ∀ before, joinUnitsFrom before units = some (before.reverse ++ cs) := by
  induction cs with
  | nil => exact ⟨[], fun _ _ => rfl, fun before => by rw [joinUnitsFrom, List.append_nil]⟩
  | cons c cs ih =>
    obtain ⟨u, hu⟩ := exists_unitFor c
    obtain ⟨units, hread, hjoin⟩ := ih
    refine ⟨u :: units, fun before rest => ?_, fun before => ?_⟩
    · rw [List.flatMap_cons, List.append_assoc, hu.read, hread, List.reverse_cons,
        List.append_assoc, List.singleton_append]
    · rw [hu.join, hjoin, List.reverse_cons, List.append_assoc, List.singleton_append]

/-- The text of a text literal is the escapes of its characters between marks. -/
theorem toList_writeText (s : String) : (writeText s).toList =
    '"' :: ((s.toList.flatMap fun c => (escapeChar c).toList) ++ ['"']) := by
  rw [writeText, String.toList_append, String.toList_append, String.toList_join, List.flatMap_map]
  rfl

/-- A text literal is read as the text for which it is written, whatever follows. -/
theorem readText_writeText (s : String) (rest : List Char) :
    readText ((writeText s).toList ++ rest) = some (s, rest) := by
  obtain ⟨units, hread, hjoin⟩ := exists_units s.toList
  have hunits : readUnitsFrom [] ((s.toList.flatMap fun c => (escapeChar c).toList) ++
      ('"' :: rest)) = some (units, rest) := by
    rw [hread, readUnitsFrom, List.append_nil, List.reverse_reverse]
  rw [toList_writeText, List.cons_append, List.append_assoc, List.singleton_append, readText,
    hunits]
  simp only [Option.bind_eq_bind, Option.bind_some, hjoin, List.reverse_nil, List.nil_append,
    String.ofList_toList]

end SqlDraft.Json
